import Deck.Json.Basic
import Deck.Text.Position

/-!
# Reading JSON

`Json.read` reads the text of one value.  Every reader works on what remains of the
text and gives back a shorter remainder, which is why the recursion ends; a fault
is placed by how much of the text remained.

Beyond the standard, `NaN`, `Infinity` and `-Infinity` are numbers, and of two
fields of one name the later value counts, in the place of the earlier one.
-/

namespace Deck.Json

/-- What is wrong with a text. -/
inductive Defect where
  | byteOrderMark
  | noValue
  | extraText
  | noFieldName
  | noColon
  | noComma
  | openString
  | controlCharacter
  | badEscape
  | badCodeEscape
  deriving DecidableEq, Repr

def Defect.text : Defect → String
  | .byteOrderMark => "Unexpected UTF-8 BOM (decode using utf-8-sig)"
  | .noValue => "Expecting value"
  | .extraText => "Extra data"
  | .noFieldName => "Expecting property name enclosed in double quotes"
  | .noColon => "Expecting ':' delimiter"
  | .noComma => "Expecting ',' delimiter"
  | .openString => "Unterminated string starting at"
  | .controlCharacter => "Invalid control character at"
  | .badEscape => "Invalid \\escape"
  | .badCodeEscape => "Invalid \\uXXXX escape"

/-- A text that is no value: the defect and its place. -/
structure Malformed where
  defect : Defect
  position : Text.Position
  deriving DecidableEq, Repr

def Malformed.message (m : Malformed) : String :=
  m.defect.text ++ ": " ++ m.position.text

/-- A defect, and the number of characters that remain from its place on. -/
abbrev Stop := Defect × Nat

/-- What was read from the text `s`, and what remains of it. -/
structure Taken (α : Type) (s : List Char) where
  value : α
  rest : List Char
  shorter : rest.length < s.length

/-- A reader's result also holds for a longer text. -/
def Taken.within {α : Type} {s t : List Char} (r : Taken α s) (h : s.length ≤ t.length) :
    Taken α t :=
  ⟨r.value, r.rest, Nat.lt_of_lt_of_le r.shorter h⟩

/-- The characters that may stand between the tokens. -/
def isSpacing (c : Char) : Bool := c == ' ' || c == '\t' || c == '\n' || c == '\r'

def skipSpacing (s : List Char) : List Char := s.dropWhile isSpacing

theorem skipSpacing_length (s : List Char) : (skipSpacing s).length ≤ s.length :=
  (List.dropWhile_sublist _).length_le

/-! ## Strings -/

def hexValue? (c : Char) : Option Nat :=
  if '0' ≤ c ∧ c ≤ '9' then some (c.toNat - '0'.toNat)
  else if 'a' ≤ c ∧ c ≤ 'f' then some (c.toNat - 'a'.toNat + 10)
  else if 'A' ≤ c ∧ c ≤ 'F' then some (c.toNat - 'A'.toNat + 10)
  else none

/-- The number that four hexadecimal digits stand for. -/
def codeOf? (a b c d : Char) : Option Nat := do
  let w ← hexValue? a
  let x ← hexValue? b
  let y ← hexValue? c
  let z ← hexValue? d
  some (((w * 16 + x) * 16 + y) * 16 + z)

/-- The character of a code; one half of a pair alone stands for no character. -/
def charOfCode (n : Nat) : Char :=
  if 0xD800 ≤ n ∧ n < 0xE000 then '\uFFFD' else Char.ofNat n

/-- Reads a further code, if one is written next and a character follows it. -/
def nextCode (s : List Char) : Except Stop (Option (Taken Nat s)) :=
  match s with
  | '\\' :: 'u' :: a :: b :: c :: d :: e :: r =>
    match codeOf? a b c d with
    | none => .error (.badCodeEscape, r.length + 6)
    | some n => .ok (some ⟨n, e :: r, by simp⟩)
  | _ => .ok none

/-- Reads the digits after `\u`, and a second code when the first one is the first half of a
pair.  At least one more character has to follow. -/
def codeEscape (s : List Char) : Except Stop (Taken Char s) :=
  match s with
  | a :: b :: c :: d :: e :: r =>
    match codeOf? a b c d with
    | none => .error (.badCodeEscape, r.length + 6)
    | some first =>
      let alone : Taken Char (a :: b :: c :: d :: e :: r) :=
        ⟨charOfCode first, e :: r, by simp only [List.length_cons]; omega⟩
      if first < 0xD800 ∨ 0xDBFF < first then .ok alone
      else match nextCode (e :: r) with
        | .error x => .error x
        | .ok none => .ok alone
        | .ok (some second) =>
          if second.value < 0xDC00 ∨ 0xDFFF < second.value then .ok alone
          else
            let n := 0x10000 + (first - 0xD800) * 0x400 + (second.value - 0xDC00)
            .ok ⟨Char.ofNat n, second.rest, by have := second.shorter; simp only [List.length_cons] at this ⊢; omega⟩
  | _ => .error (.badCodeEscape, s.length + 1)

/-- The characters that a letter after the backslash stands for. -/
def letterEscape? : Char → Option Char
  | '"' => some '"'
  | '\\' => some '\\'
  | '/' => some '/'
  | 'b' => some '\x08'
  | 'f' => some '\x0c'
  | 'n' => some '\n'
  | 'r' => some '\r'
  | 't' => some '\t'
  | _ => none

/-- Reads the rest `s` of a string that began with `opened` after its quote.  The characters
`before` have been read and are in reverse. -/
def stringRest (opened before s : List Char) (hs : s.length ≤ opened.length) :
    Except Stop (Taken String opened) :=
  match s with
  | [] => .error (.openString, opened.length + 1)
  | '"' :: r =>
    .ok ⟨String.ofList before.reverse, r, by simp only [List.length_cons] at hs; omega⟩
  | '\\' :: r =>
    match r with
    | [] => .error (.openString, opened.length + 1)
    | 'u' :: t =>
      match codeEscape t with
      | .error e => .error e
      | .ok code =>
        stringRest opened (code.value :: before) code.rest
          (by have := code.shorter; simp only [List.length_cons] at hs; omega)
    | c :: t =>
      match letterEscape? c with
      | none => .error (.badEscape, t.length + 2)
      | some d =>
        stringRest opened (d :: before) t (by simp only [List.length_cons] at hs; omega)
  | c :: r =>
    if c.toNat < 0x20 then .error (.controlCharacter, r.length + 1)
    else stringRest opened (c :: before) r (by simp only [List.length_cons] at hs; omega)
termination_by s.length
decreasing_by
  · have := code.shorter; simp only [List.length_cons]; omega
  · simp only [List.length_cons]; omega
  · simp only [List.length_cons]; omega

/-- Reads a string after its opening quote. -/
def string (s : List Char) : Except Stop (Taken String s) := stringRest s [] s (Nat.le_refl _)

/-! ## Numbers -/

/-- The number that decimal digits stand for. -/
def digitsValue (ds : List Char) : Nat :=
  ds.foldl (fun n d => n * 10 + (d.toNat - '0'.toNat)) 0

/-- The digits at the start of a text, and what follows. -/
def splitDigits (s : List Char) : List Char × List Char :=
  (s.takeWhile Char.isDigit, s.dropWhile Char.isDigit)

/-- The digits before the point: a nought stands alone. -/
def wholeDigits (s : List Char) : List Char × List Char :=
  match s with
  | '0' :: r => (['0'], r)
  | _ => splitDigits s

/-- The digits of a fraction, if a point and a digit follow. -/
def fractionDigits (s : List Char) : List Char × List Char :=
  match s with
  | '.' :: r =>
    let (ds, t) := splitDigits r
    if ds = [] then ([], s) else (ds, t)
  | _ => ([], s)

/-- Whether a minus sign is written, and what follows the sign. -/
def splitSign (s : List Char) : Bool × List Char :=
  match s with
  | '-' :: r => (true, r)
  | '+' :: r => (false, r)
  | _ => (false, s)

/-- The exponent, if the letter, a sign at will and a digit follow. -/
def exponentPart (s : List Char) : Option Int × List Char :=
  match s with
  | e :: r =>
    if e = 'e' ∨ e = 'E' then
      let (negative, u) := splitSign r
      let (ds, t) := splitDigits u
      if ds = [] then (none, s)
      else
        let n : Int := digitsValue ds
        (some (if negative then -n else n), t)
    else (none, s)
  | [] => (none, s)

/-- Reads a number without its sign. -/
def unsigned? (negative : Bool) (s : List Char) : Option (Json × List Char) :=
  let (whole, s) := wholeDigits s
  if whole = [] then none
  else
    let (fraction, s) := fractionDigits s
    let (exponent, s) := exponentPart s
    if fraction = [] ∧ exponent = none then
      let n : Int := digitsValue whole
      some (.int (if negative then -n else n), s)
    else
      let x := Number.Binary64.ofDecimal negative (digitsValue (whole ++ fraction))
        (exponent.getD 0 - fraction.length)
      some (.float x, s)

theorem splitDigits_length (s : List Char) : (splitDigits s).2.length ≤ s.length :=
  (List.dropWhile_sublist _).length_le

theorem fractionDigits_length (s : List Char) : (fractionDigits s).2.length ≤ s.length := by
  unfold fractionDigits
  split
  · rename_i r
    dsimp only
    split
    · exact Nat.le_refl _
    · exact Nat.le_succ_of_le (splitDigits_length r)
  · exact Nat.le_refl _

theorem splitSign_length (s : List Char) : (splitSign s).2.length ≤ s.length := by
  unfold splitSign
  split <;> simp

theorem exponentPart_length (s : List Char) : (exponentPart s).2.length ≤ s.length := by
  unfold exponentPart
  split
  · rename_i e r
    split
    · dsimp only
      split
      · exact Nat.le_refl _
      · exact Nat.le_trans (splitDigits_length _) (Nat.le_succ_of_le (splitSign_length _))
    · exact Nat.le_refl _
  · exact Nat.le_refl _

theorem wholeDigits_length {s : List Char} (h : (wholeDigits s).1 ≠ []) :
    (wholeDigits s).2.length < s.length := by
  unfold wholeDigits at h ⊢
  split
  · simp
  · rename_i h0
    split at h
    · rename_i r; exact absurd rfl (h0 r)
    · have hw := congrArg List.length
        (List.takeWhile_append_dropWhile (p := Char.isDigit) (l := s))
      have hp : 0 < (s.takeWhile Char.isDigit).length := List.length_pos_iff.mpr h
      rw [List.length_append] at hw
      simp only [splitDigits]
      omega

theorem unsigned?_length {negative : Bool} {s : List Char} {r : Json × List Char}
    (h : unsigned? negative s = some r) : r.2.length < s.length := by
  unfold unsigned? at h
  dsimp only at h
  split at h
  · simp at h
  · rename_i hw
    have h₁ := wholeDigits_length hw
    have h₂ := fractionDigits_length (wholeDigits s).2
    have h₃ := exponentPart_length (fractionDigits (wholeDigits s).2).2
    split at h <;> simp only [Option.some.injEq] at h <;> subst h <;> dsimp only <;> omega

/-- Reads a number, or the words that stand for one. -/
def number (s : List Char) : Except Stop (Taken Json s) :=
  match s with
  | 'N' :: 'a' :: 'N' :: r => .ok ⟨.float .undefined, r, by simp only [List.length_cons]; omega⟩
  | 'I' :: 'n' :: 'f' :: 'i' :: 'n' :: 'i' :: 't' :: 'y' :: r =>
    .ok ⟨.float (.infinite false), r, by simp only [List.length_cons]; omega⟩
  | '-' :: 'I' :: 'n' :: 'f' :: 'i' :: 'n' :: 'i' :: 't' :: 'y' :: r =>
    .ok ⟨.float (.infinite true), r, by simp only [List.length_cons]; omega⟩
  | '-' :: r =>
    match h : unsigned? true r with
    | some (v, t) => .ok ⟨v, t, by have := unsigned?_length h; simp only [List.length_cons] at this ⊢; omega⟩
    | none => .error (.noValue, r.length + 1)
  | s =>
    match h : unsigned? false s with
    | some (v, t) => .ok ⟨v, t, unsigned?_length h⟩
    | none => .error (.noValue, s.length)

/-! ## Values -/

/-- What follows the character `c`, if that is the next one after the spacing. -/
def after? (c : Char) (s : List Char) : Option { r : List Char // r.length < s.length } :=
  match h : skipSpacing s with
  | [] => none
  | d :: r =>
    if d = c then
      some ⟨r, by have := skipSpacing_length s; rw [h, List.length_cons] at this; omega⟩
    else none

mutual

/-- Reads a value at the head of a text. -/
def value (s : List Char) : Except Stop (Taken Json s) :=
  match s with
  | [] => .error (.noValue, 0)
  | '"' :: r => (string r).map fun t =>
      ⟨.str t.value, t.rest, Nat.lt_succ_of_lt t.shorter⟩
  | '[' :: r =>
    match after? ']' r with
    | some t => .ok ⟨.arr [], t.val, Nat.lt_succ_of_lt t.property⟩
    | none => (elements r [] (skipSpacing r) (skipSpacing_length r)).map fun t =>
      ⟨.arr t.value, t.rest, Nat.lt_succ_of_lt t.shorter⟩
  | '\x7b' :: r =>
    match after? '\x7d' r with
    | some t => .ok ⟨.obj [], t.val, Nat.lt_succ_of_lt t.property⟩
    | none => (members r [] r (Nat.le_refl _)).map fun t =>
      ⟨.obj t.value, t.rest, Nat.lt_succ_of_lt t.shorter⟩
  | 'n' :: 'u' :: 'l' :: 'l' :: r => .ok ⟨.null, r, by simp only [List.length_cons]; omega⟩
  | 't' :: 'r' :: 'u' :: 'e' :: r => .ok ⟨.bool true, r, by simp only [List.length_cons]; omega⟩
  | 'f' :: 'a' :: 'l' :: 's' :: 'e' :: r => .ok ⟨.bool false, r, by simp only [List.length_cons]; omega⟩
  | s => number s
termination_by 2 * s.length
decreasing_by
  · have := skipSpacing_length r; simp only [List.length_cons]; omega
  · simp only [List.length_cons]; omega

/-- Reads the rest `s` of an array that began with `opened` after its bracket.  The items
`before` have been read and are in reverse. -/
def elements (opened : List Char) (before : List Json) (s : List Char)
    (hs : s.length ≤ opened.length) : Except Stop (Taken (List Json) opened) :=
  match value s with
  | .error e => .error e
  | .ok item =>
    match after? ']' item.rest with
    | some r => .ok ⟨(item.value :: before).reverse, r.val, by
        have := r.property
        have := item.shorter
        omega⟩
    | none =>
      match after? ',' item.rest with
      | some r =>
        elements opened (item.value :: before) (skipSpacing r.val) (by
          have := skipSpacing_length r.val
          have := r.property
          have := item.shorter
          omega)
      | none => .error (.noComma, (skipSpacing item.rest).length)
termination_by 2 * s.length + 1
decreasing_by
  · omega
  · have := skipSpacing_length r.val
    have := r.property
    have := item.shorter
    omega

/-- Reads the rest `s` of an object that began with `opened` after its brace.  The fields
`before` have been read. -/
def members (opened : List Char) (before : List (String × Json)) (s : List Char)
    (hs : s.length ≤ opened.length) : Except Stop (Taken (List (String × Json)) opened) :=
  match after? '"' s with
  | none => .error (.noFieldName, (skipSpacing s).length)
  | some q =>
    match string q.val with
    | .error e => .error e
    | .ok name =>
      match after? ':' name.rest with
      | none => .error (.noColon, (skipSpacing name.rest).length)
      | some u =>
        match value (skipSpacing u.val) with
        | .error e => .error e
        | .ok item =>
          match after? '\x7d' item.rest with
          | some r => .ok ⟨insertField name.value item.value before, r.val, by
              have := q.property
              have := name.shorter
              have := u.property
              have := skipSpacing_length u.val
              have := item.shorter
              have := r.property
              omega⟩
          | none =>
            match after? ',' item.rest with
            | some r =>
              members opened (insertField name.value item.value before) r.val (by
                have := q.property
                have := name.shorter
                have := u.property
                have := skipSpacing_length u.val
                have := item.shorter
                have := r.property
                omega)
            | none => .error (.noComma, (skipSpacing item.rest).length)
termination_by 2 * s.length + 1
decreasing_by
  · have := q.property
    have := name.shorter
    have := u.property
    have := skipSpacing_length u.val
    omega
  · have := q.property
    have := name.shorter
    have := u.property
    have := skipSpacing_length u.val
    have := item.shorter
    have := r.property
    omega

end

/-- Reads a value with nothing but spacing around it. -/
def whole (s : List Char) : Except Stop Json :=
  match s with
  | '\uFEFF' :: _ => .error (.byteOrderMark, s.length)
  | _ =>
    match value (skipSpacing s) with
    | .error e => .error e
    | .ok t =>
      match skipSpacing t.rest with
      | [] => .ok t.value
      | r => .error (.extraText, r.length)

/-- The value that a text stands for. -/
def read (s : List Char) : Except Malformed Json :=
  match whole s with
  | .ok v => .ok v
  | .error (defect, left) => .error ⟨defect, Text.positionOf s (s.length - left)⟩

end Deck.Json
