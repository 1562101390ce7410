import Deck.Json.Basic
import Deck.Number.Layout
import Deck.Text.Quoted

/-!
# Values in messages

Faults and notices show a value on one line.  Strings stand between quotes, arrays
in square brackets and objects in braces, with a comma and a space between the
items.  Numbers other than whole ones are written by places from `0.0001` up to
below `10 ^ 16`, and by an exponent of two digits at least beyond.  A string that stands
alone is shown without quotes.
-/

namespace Deck.Json

/-- How numbers are laid out. -/
def numberLayout : Number.Layout := ⟨-4, 15, 2⟩

def boolText (b : Bool) : String := if b then "True" else "False"

mutual

/-- A value as it is shown within a message. -/
def display : Json → String
  | .null => "None"
  | .bool b => boolText b
  | .int n => toString n
  | .float x => x.text numberLayout
  | .str s => Text.quoted s
  | .arr items => "[" ++ ", ".intercalate (displayItems items) ++ "]"
  | .obj fields => "\x7b" ++ ", ".intercalate (displayFields fields) ++ "\x7d"

def displayItems : List Json → List String
  | [] => []
  | v :: vs => display v :: displayItems vs

def displayFields : List (String × Json) → List String
  | [] => []
  | (k, v) :: vs => (Text.quoted k ++ ": " ++ display v) :: displayFields vs

end

/-- A value as it is shown when it is all that a message has to name. -/
def plain : Json → String
  | .str s => s
  | v => display v

end Deck.Json
