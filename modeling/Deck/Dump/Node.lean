import Deck.Fault
import Deck.Json.Display

/-!
# Nodes of a dump

A dump is a tree of objects.  Its fields are not checked before they are used, so a
value of another kind is noticed, or not, where it is asked for something.

* `get` asks a node for a field that may be missing.
* `require` asks a node for a field that it needs: null counts as missing.
* `items` goes through a value: an array by its items, a string by its characters, an
  object by the names of its fields.
-/

namespace Deck.Dump

open Json

/-- The field of that name, null if there is none. -/
def get (node : Json) (name : String) : Except Fault Json :=
  match node with
  | .obj fields => .ok ((lookup name fields).getD .null)
  | v => .error (.wrongKind .fields v.kind)

/-- The name of a node in a fault: its type, if it has one. -/
def owner (fields : List (String × Json)) : String :=
  match lookup "$type" fields with
  | some type => type.plain
  | none => "node"

/-- Whether a text stands somewhere in another one. -/
def occursIn (t : List Char) : List Char → Bool
  | [] => t.isEmpty
  | c :: r => t.isPrefixOf (c :: r) || occursIn t r

/-- The field of that name, which must not be missing.  A value that is no object is first
searched for the name, and then asked for the field or for its type. -/
def require (node : Json) (name : String) : Except Fault Json :=
  match node with
  | .obj fields =>
    match (lookup name fields).bind toOption with
    | some v => .ok v
    | none => .error (.missingField (owner fields) name)
  | .arr values =>
    .error (.wrongKind (if values.contains (.str name) then .indexing else .fields) .arr)
  | .str s =>
    .error (.wrongKind (if occursIn name.toList s.toList then .indexing else .fields) .str)
  | v => .error (.wrongKind .membership v.kind)

/-- What a value holds, one after the other. -/
def items : Json → Except Fault (List Json)
  | .arr values => .ok values
  | .str s => .ok (s.toList.map fun c => .str (String.ofList [c]))
  | .obj fields => .ok (fields.map fun f => .str f.1)
  | v => .error (.wrongKind .iterating v.kind)

/-- What a value holds, and nothing if it does not count as given. -/
def itemsIfGiven (v : Json) : Except Fault (List Json) :=
  if v.isGiven then items v else .ok []

end Deck.Dump
