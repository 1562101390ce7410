import Deck.Locator.Path
import Deck.Text.LowerCase

/-!
# The extension of a locator

The extension is what follows the last point in the last part of the path, with that
point and in lower case.  Points that the part starts with begin no extension.
-/

namespace Deck.Locator

open Text

/-- The extension of a path. -/
def extensionOf (path : List Char) : List Char :=
  let name := (afterLast '/' path).reverse
  match name.dropWhile (· != '.') with
  | [] => []
  | _ :: stem =>
    if stem.any (· != '.') then '.' :: (name.takeWhile (· != '.')).reverse else []

/-- The extension of a locator, in lower case. -/
def extension (url : List Char) : Except Fault (List Char) :=
  (path url).map fun p => lower (extensionOf p)

end Deck.Locator
