/-!
# Splitting a text

A text is split at every separator, so that a part may be empty and none holds a
separator; joining puts the separators back.
-/

namespace Deck.Text

/-- The parts of a text between the separators; there is always one. -/
def splitOn (sep : Char) : List Char → List (List Char)
  | [] => [[]]
  | c :: r => if c = sep then [] :: splitOn sep r else (splitOn sep r).modifyHead (c :: ·)

/-- The text after the last separator, or all of it. -/
def afterLast (sep : Char) (s : List Char) : List Char :=
  (s.reverse.takeWhile (· != sep)).reverse

/-- The parts with the separator between them. -/
def joinWith (sep : Char) : List (List Char) → List Char
  | [] => []
  | [p] => p
  | p :: q :: ps => p ++ sep :: joinWith sep (q :: ps)

end Deck.Text
