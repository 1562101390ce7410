import Deck.Text.Blank

/-!
# Fenced code blocks

A fenced block opens with three backticks, a language and attributes in brackets,
both at will, and the end of the line.  It closes with the last three backticks of
the text, after which only blanks may follow; what lies between is its body.

* `read?` gives the parts of a block, and nothing for a text that is none.
* `Block.code` is the body without the line break before the closing fence.
-/

namespace Deck.Fence

open Text

/-- The parts of a fenced block. -/
structure Block where
  language : Option (List Char)
  attributes : Option (List Char)
  body : List Char
  deriving DecidableEq, Repr

/-- A blank that stays on its line. -/
def isInlineBlank (c : Char) : Bool := c == ' ' || c == '\t'

def isLanguageChar (c : Char) : Bool := c.isAlphanum || c == '-'

/-- The language at the start of a text, which begins with a letter. -/
def language (s : List Char) : Option (List Char) × List Char :=
  match s with
  | c :: r =>
    if c.isAlpha then (some (c :: r.takeWhile isLanguageChar), r.dropWhile isLanguageChar)
    else (none, s)
  | [] => (none, s)

/-- What may stand between the brackets. -/
def isAttributeChar (c : Char) : Bool := c != ']' && c != '\r' && c != '\n'

/-- The attributes at the start of a text.  A bracket that is not closed on its line is none. -/
def attributes? (s : List Char) : Option (Option (List Char) × List Char) :=
  match s with
  | '[' :: r =>
    match r.dropWhile isAttributeChar with
    | ']' :: t => some (some (r.takeWhile isAttributeChar), t)
    | _ => none
  | _ => some (none, s)

/-- What follows the line break at the start of a text. -/
def afterBreak? (s : List Char) : Option (List Char) :=
  match s with
  | '\n' :: r => some r
  | '\r' :: '\n' :: r => some r
  | _ => none

/-- What follows three backticks at the start of a text. -/
def afterFence? (s : List Char) : Option (List Char) :=
  match s with
  | '`' :: '`' :: '`' :: r => some r
  | _ => none

/-- What stands before three backticks at the end of a text. -/
def beforeFence? (s : List Char) : Option (List Char) :=
  (afterFence? s.reverse).map List.reverse

/-- The parts of a block. -/
def read? (raw : List Char) : Option Block :=
  match afterFence? (trimStart raw) with
  | none => none
  | some s =>
    let (lang, s) := language s
    match attributes? (s.dropWhile isInlineBlank) with
    | none => none
    | some (attrs, s) =>
      match afterBreak? (s.dropWhile isInlineBlank) with
      | none => none
      | some s => (beforeFence? (trimEnd s)).map fun body => ⟨lang, attrs, body⟩

/-- The text without the line break at its end. -/
def dropFinalBreak (s : List Char) : List Char :=
  if s.getLast? = some '\n' then
    if s.dropLast.getLast? = some '\r' then s.dropLast.dropLast else s.dropLast
  else s

/-- The code of a block. -/
def Block.code (b : Block) : List Char := dropFinalBreak b.body

/-- How many characters of a refused block are shown. -/
def shownLength : Nat := 80

end Deck.Fence
