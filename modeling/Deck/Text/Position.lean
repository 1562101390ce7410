/-!
# Places in a text

A place is counted in characters from the start of a text.  Messages give it by
line and column too, both counted from one, a line feed ending each line.
-/

namespace Deck.Text

/-- A place in a text: characters before it, the line, and the column. -/
structure Position where
  index : Nat
  line : Nat
  column : Nat
  deriving DecidableEq, Repr

/-- The place of the character at `index`. -/
def positionOf (s : List Char) (index : Nat) : Position :=
  let before := s.take index
  { index := index
    line := before.count '\n' + 1
    column := (before.reverse.takeWhile (· != '\n')).length + 1 }

def Position.text (p : Position) : String :=
  "line " ++ toString p.line ++ " column " ++ toString p.column ++ " (char "
    ++ toString p.index ++ ")"

end Deck.Text
