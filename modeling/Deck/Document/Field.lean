import Deck.Fault

/-!
# Fields

What stands in a field of a deck is read as text where it is used.  A string always
is a text; another value of JSON is one only if it is a string, and is a fault else.

* `Field.textFor_string`: a string can be used for anything.
-/

namespace Deck

/-- What may stand in a field. -/
class Field (α : Type) where
  /-- The text, or the kind of a value that is none. -/
  text : α → Except Json.Kind String
  /-- Whether the value counts as given. -/
  isGiven : α → Bool

instance : Field String := ⟨.ok, fun s => s != ""⟩

/-- The text that a value of JSON is. -/
def Json.text : Json → Except Json.Kind String
  | .str s => .ok s
  | v => .error v.kind

instance : Field Json := ⟨Json.text, Json.isGiven⟩

/-- The text in a field that is put to some use. -/
def Field.textFor {α : Type} [Field α] (use : Use) (a : α) : Except Fault String :=
  match Field.text a with
  | .ok s => .ok s
  | .error kind => .error (.wrongKind use kind)

@[simp] theorem Field.textFor_string (use : Use) (s : String) : Field.textFor use s = .ok s := rfl

/-- A value that counts as given, or the other one. -/
def Field.givenOr {α : Type} [Field α] (use : Use) (default : String) (a : Option α) :
    Except Fault String :=
  match a with
  | none => .ok default
  | some a => if Field.isGiven a then Field.textFor use a else .ok default

end Deck
