import Deck.Json.Reader
import Deck.Locator.Path
import Deck.Text.Utf8

/-!
# Faults

A fault ends the work on a deck.  Malformed fragments of author text are no faults:
they are dropped with a notice.

Some faults are those of the *content*: bytes that are no text, text that is no JSON,
a tree that breaks the contract of a dump, or a locator that is refused.  The others
arise where a value has another kind than its use asks for, and where a styled line
wraps a styled line.  The command line reports the former and breaks off at the latter.
-/

namespace Deck

/-- What a value is used for where it turns out to be of the wrong kind. -/
inductive Use where
  /-- Its fields are asked for. -/
  | fields
  /-- Blanks are taken off its ends. -/
  | trimming
  /-- It is escaped. -/
  | escaping
  /-- It is searched for a pattern. -/
  | matching
  /-- Its items are gone through. -/
  | iterating
  /-- A name is looked for in it. -/
  | membership
  /-- An item is picked by a name. -/
  | indexing
  /-- It is compared with a set of names. -/
  | hashing
  deriving DecidableEq, Repr

/-- What a use says of a value of the wrong kind. -/
def Use.message (use : Use) (kind : Json.Kind) : String :=
  match use with
  | .fields => "'" ++ kind.name ++ "' object has no attribute 'get'"
  | .trimming => "'" ++ kind.name ++ "' object has no attribute 'strip'"
  | .escaping => "'" ++ kind.name ++ "' object has no attribute 'replace'"
  | .matching => "expected string or bytes-like object, got '" ++ kind.name ++ "'"
  | .iterating => "'" ++ kind.name ++ "' object is not iterable"
  | .membership => "argument of type '" ++ kind.name ++ "' is not iterable"
  | .indexing =>
    if kind = .str then "string indices must be integers, not 'str'"
    else kind.name ++ " indices must be integers or slices, not str"
  | .hashing => "unhashable type: '" ++ kind.name ++ "'"

/-- Why the work on a deck ends. -/
inductive Fault where
  /-- The bytes of a dump are no text. -/
  | undecodable (fault : Text.Utf8.Fault)
  /-- The text of a dump is no JSON. -/
  | malformed (fault : Json.Malformed)
  /-- A dump is no object. -/
  | notObject (kind : Json.Kind)
  /-- A node lacks a field that it needs. -/
  | missingField (owner field : String)
  /-- In a dump, a styled line wraps a styled line. -/
  | nestedStyleNode
  /-- In a deck, a styled line wraps a styled line. -/
  | nestedStyle
  /-- A value has another kind than its use asks for. -/
  | wrongKind (use : Use) (kind : Json.Kind)
  /-- A locator is refused. -/
  | locator (fault : Locator.Fault)
  deriving DecidableEq, Repr

namespace Fault

def message : Fault → String
  | .undecodable f => f.message
  | .malformed f => f.message
  | .notObject kind => "Expected a JSON object, got " ++ kind.name
  | .missingField owner field => owner ++ " is missing required field '" ++ field ++ "'"
  | .nestedStyleNode | .nestedStyle => "StyledElement cannot wrap another StyledElement"
  | .wrongKind use kind => use.message kind
  | .locator f => f.message

/-- Whether the fault is one of the content. -/
def ofContent : Fault → Bool
  | .undecodable _ | .malformed _ | .notObject _ | .missingField _ _ | .nestedStyleNode
  | .locator _ => true
  | .nestedStyle | .wrongKind _ _ => false

end Fault

end Deck
