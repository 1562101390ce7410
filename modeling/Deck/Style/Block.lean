import Deck.Style.Pieces
import Deck.Text.Blank
import Deck.Text.Quotes

/-!
# Style blocks

A style block is written `{key: value, …}`.  It is read as a whole: one malformed
pair spoils the block.  A value may stand in quotes.  Three keys place an element on
the slide; the others are names of properties.

* `read` gives the pairs of a block, or why it is ignored.
* `declarations` gives what the pairs declare, in their order.
-/

namespace Deck.Style

open Text

/-- A key with its value, both without blanks around them and not empty. -/
structure Pair where
  key : List Char
  value : List Char
  deriving DecidableEq, Repr

/-- Why a block is ignored. -/
inductive Rejection where
  /-- The block does not stand in braces. -/
  | unbraced
  /-- There are further braces inside. -/
  | nestedBraces
  /-- A piece is no pair. -/
  | malformedPair (piece : List Char)
  deriving DecidableEq, Repr

/-- The pair that a piece is: the first colon ends the key. -/
def Pair.ofPiece? (piece : List Char) : Option Pair :=
  match piece.dropWhile (· != ':') with
  | [] => none
  | _ :: after =>
    let key := trim (piece.takeWhile (· != ':'))
    let value := trim (unquote (trim after))
    if key = [] ∨ value = [] then none else some ⟨key, value⟩

/-- The pairs of the pieces; blank pieces are passed over. -/
def pairs : List (List Char) → Except Rejection (List Pair)
  | [] => .ok []
  | p :: ps =>
    if trim p = [] then pairs ps
    else
      match Pair.ofPiece? p with
      | none => .error (.malformedPair (trim p))
      | some pair => (pairs ps).map (pair :: ·)

/-- What the braces around a block enclose. -/
def interior? (block : List Char) : Option (List Char) :=
  match block with
  | '\x7b' :: r => if r.getLast? = some '\x7d' then some r.dropLast else none
  | _ => none

/-- The pairs of a block.  A blank one has none. -/
def read (raw : List Char) : Except Rejection (List Pair) :=
  if trim raw = [] then .ok []
  else
    match interior? (trim raw) with
    | none => .error .unbraced
    | some inner =>
      if '\x7b' ∈ inner ∨ '\x7d' ∈ inner then .error .nestedBraces else pairs (pieces inner)

/-! ## Declarations -/

/-- A property that a key stands for, and the unit of its values. -/
structure Placement where
  property : String
  unit : String
  deriving DecidableEq, Repr

/-- The keys that place an element: its layer, and its distance from the left and from the
top in pixels. -/
def Placement.ofKey? (key : List Char) : Option Placement :=
  if key = "calque".toList then some ⟨"z-index", ""⟩
  else if key = "horizontal-margin".toList then some ⟨"left", "px"⟩
  else if key = "vertical-margin".toList then some ⟨"top", "px"⟩
  else none

/-- What a pair declares. -/
def Pair.declaration (p : Pair) : String :=
  match Placement.ofKey? p.key with
  | some l => l.property ++ ": " ++ String.ofList p.value ++ l.unit
  | none => String.ofList p.key ++ ": " ++ String.ofList p.value

/-- Whether the pair places its element. -/
def Pair.places (p : Pair) : Bool := (Placement.ofKey? p.key).isSome

/-- What the pairs declare.  An element that is placed is taken out of the flow first. -/
def declarations (ps : List Pair) : List String :=
  (if ps.any Pair.places then ["position: absolute"] else []) ++ ps.map Pair.declaration

end Deck.Style
