import Deck.Text.Blank
import Deck.Text.Numeral
import Deck.Text.Word

/-!
# Attributes of a code fence

The opening line of a fenced block may carry attributes in brackets, written
`key:value`, `key:'value'` or `'key:value'`.  Between them anything may stand.
`lines` names the lines to highlight and `start` the number of the first line; of
two values for one of them the later one counts, but a start that is no numeral is
passed over.

* `Attribute.read?_length`: an attribute takes up at least one character.
* `scan` gives the attributes of a text from left to right.
* `LineNumbering.ofAttributes` gives what they say about line numbers.
-/

namespace Deck.Fence

open Text

/-- An attribute, and the text that it was read from. -/
structure Attribute where
  key : List Char
  value : List Char
  source : List Char
  deriving DecidableEq, Repr

/-- What may stand in a key after its first letter. -/
def isKeyChar (c : Char) : Bool := isWord c || c == '-'

/-- Takes one single quote off the start, if there is one. -/
def dropQuote (s : List Char) : List Char :=
  match s with
  | '\'' :: r => r
  | _ => s

/-- A value between single quotes, and what follows it. -/
def quotedValue? (s : List Char) : Option (List Char × List Char) :=
  match s with
  | '\'' :: r =>
    match r.dropWhile (· != '\'') with
    | [] => none
    | _ :: t => some (r.takeWhile (· != '\''), t)
  | _ => none

/-- What may stand in a value without quotes. -/
def isBareChar (c : Char) : Bool := c != '\'' && !isBlank c

/-- A value without quotes, and what follows it.  Commas at its end separate it from the
next attribute. -/
def bareValue (s : List Char) : List Char × List Char :=
  (((s.takeWhile isBareChar).reverse.dropWhile (· == ',')).reverse, s.dropWhile isBareChar)

/-- The value at the start of a text. -/
def readValue (s : List Char) : List Char × List Char := (quotedValue? s).getD (bareValue s)

namespace Attribute

/-- The attribute at the start of a text, but for a quote in front of its key, and what
follows it. -/
def readKey? (s : List Char) : Option (List Char × List Char × List Char) :=
  match s with
  | [] => none
  | c :: r =>
    if c.isAlpha then
      match trimStart (r.dropWhile isKeyChar) with
      | ':' :: t =>
        let (v, u) := readValue (trimStart t)
        some (c :: r.takeWhile isKeyChar, trim v, dropQuote u)
      | _ => none
    else none

/-- The attribute at the start of a text, and what follows it. -/
def read? (s : List Char) : Option (Attribute × List Char) :=
  (readKey? (dropQuote s)).map fun (key, value, rest) =>
    (⟨key, value, s.take (s.length - rest.length)⟩, rest)

theorem dropQuote_length (s : List Char) : (dropQuote s).length ≤ s.length := by
  unfold dropQuote
  split <;> simp

theorem trimStart_length (s : List Char) : (trimStart s).length ≤ s.length :=
  (List.dropWhile_sublist _).length_le

theorem readValue_length (s : List Char) : (readValue s).2.length ≤ s.length := by
  unfold readValue
  cases h : quotedValue? s with
  | none => exact (List.dropWhile_sublist _).length_le
  | some q =>
    unfold quotedValue? at h
    split at h
    · rename_i r
      split at h
      · simp at h
      · rename_i t ht
        simp only [Option.some.injEq] at h
        subst h
        have := (List.dropWhile_sublist (l := r) (· != '\'')).length_le
        rw [ht] at this
        simp only [Option.getD_some, List.length_cons] at this ⊢
        omega
    · simp at h

theorem readKey?_length {s : List Char} {r : List Char × List Char × List Char}
    (h : readKey? s = some r) : r.2.2.length < s.length := by
  unfold readKey? at h
  split at h
  · simp at h
  · rename_i c t
    split at h
    · split at h
      · rename_i u hu
        simp only [Option.some.injEq] at h
        subst h
        have h₁ := (List.dropWhile_sublist (l := t) isKeyChar).length_le
        have h₂ := trimStart_length (t.dropWhile isKeyChar)
        have h₃ := trimStart_length u
        have h₄ := readValue_length (trimStart u)
        have h₅ := dropQuote_length (readValue (trimStart u)).2
        rw [hu] at h₂
        simp only [List.length_cons] at h₂ ⊢
        omega
      · simp at h
    · simp at h

/-- An attribute takes up at least one character. -/
theorem read?_length {s : List Char} {r : Attribute × List Char} (h : read? s = some r) :
    r.2.length < s.length := by
  unfold read? at h
  rw [Option.map_eq_some_iff] at h
  obtain ⟨t, ht, rfl⟩ := h
  exact Nat.lt_of_lt_of_le (readKey?_length ht) (dropQuote_length s)

end Attribute

/-- The attributes in a text.  The search goes on where an attribute ends. -/
def scan (s : List Char) : List Attribute :=
  match s with
  | [] => []
  | c :: r =>
    match _hs : Attribute.read? (c :: r) with
    | some (a, t) => a :: scan t
    | none => scan r
termination_by s.length
decreasing_by
  · exact Attribute.read?_length _hs
  · simp

/-! ## Line numbers -/

/-- What an attribute says. -/
inductive Meaning where
  | lines (range : List Char)
  | start (numeral : List Char)
  | badStart (value : List Char)
  | unknown (source : List Char)
  deriving DecidableEq, Repr

/-- Lines without a range say nothing. -/
def Attribute.meaning (a : Attribute) : Meaning :=
  if a.key = "lines".toList ∧ a.value ≠ [] then .lines a.value
  else if a.key = "start".toList then
    if isNumeral a.value then .start a.value else .badStart a.value
  else .unknown a.source

/-- The lines to highlight, and the number of the first line. -/
structure LineNumbering where
  lines : Option (List Char)
  start : Option (List Char)
  deriving DecidableEq, Repr

namespace LineNumbering

def empty : LineNumbering := ⟨none, none⟩

/-- The numbering after one more attribute. -/
def add (n : LineNumbering) : Meaning → LineNumbering
  | .lines range => { n with lines := some range }
  | .start numeral => { n with start := some numeral }
  | .badStart _ => n
  | .unknown _ => n

def ofAttributes (as : List Attribute) : LineNumbering :=
  as.foldl (fun n a => n.add a.meaning) empty

end LineNumbering

end Deck.Fence
