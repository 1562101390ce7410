import Deck.Text.Printable

/-!
# Quoted text

Notices show a text between quotes, so that its ends and its unprintable
characters can be seen.  The quotes are single ones, unless the text holds single
quotes and no double ones.  The backslash and the quote in use are preceded by a
backslash, line breaks and tabs have letters, and any other unprintable character
is given by its code point in hexadecimal.

* `break_not_mem_quoted`: quoted text stands on one line.
-/

namespace Deck.Text

/-- `n` in hexadecimal, with noughts in front up to `width` digits. -/
def hexFixed (width n : Nat) : List Char :=
  let ds := Nat.toDigits 16 n
  List.replicate (width - ds.length) '0' ++ ds

/-- A character by its code point. -/
def codeEscape (c : Char) : List Char :=
  let n := c.toNat
  if n < 0x100 then '\\' :: 'x' :: hexFixed 2 n
  else if n < 0x10000 then '\\' :: 'u' :: hexFixed 4 n
  else '\\' :: 'U' :: hexFixed 8 n

/-- How a character is written between quotes of the kind `quote`. -/
def quoteChar (quote c : Char) : List Char :=
  if c == '\\' || c == quote then ['\\', c]
  else if c == '\n' then ['\\', 'n']
  else if c == '\r' then ['\\', 'r']
  else if c == '\t' then ['\\', 't']
  else if isPrintable c then [c]
  else codeEscape c

/-- The quote that goes around a text. -/
def quoteFor (s : List Char) : Char :=
  if s.contains '\'' && !s.contains '"' then '"' else '\''

/-- The text between quotes. -/
def quoted (s : String) : String :=
  let quote := quoteFor s.toList
  String.ofList (quote :: (s.toList.flatMap (quoteChar quote) ++ [quote]))

/-- Texts between quotes, with commas between them, in square brackets. -/
def quotedList (ss : List String) : String :=
  "[" ++ ", ".intercalate (ss.map quoted) ++ "]"

/-! ## Quoted text stands on one line -/

theorem break_not_mem_toDigits (n : Nat) : '\n' ∉ Nat.toDigits 16 n := by
  induction n using Nat.strongRecOn with
  | ind n ih =>
    rw [Nat.toDigits_eq_if (by decide)]
    split
    · simp
    · have hlt : n / 16 < n := by omega
      simpa using ih _ hlt

theorem break_not_mem_hexFixed (width n : Nat) : '\n' ∉ hexFixed width n := by
  simp [hexFixed, break_not_mem_toDigits]

theorem break_not_mem_quoteChar {quote : Char} (h : quote ≠ '\n') (c : Char) :
    '\n' ∉ quoteChar quote c := by
  unfold quoteChar
  split
  · rename_i hc
    simp only [Bool.or_eq_true, beq_iff_eq] at hc
    obtain rfl | rfl := hc
    · decide
    · simpa using h.symm
  · split
    · decide
    · rename_i hne
      split
      · decide
      split
      · decide
      split
      · simpa using fun heq => hne (by simp [← heq])
      · unfold codeEscape
        simp only
        split
        · simp [break_not_mem_hexFixed]
        split
        · simp [break_not_mem_hexFixed]
        · simp [break_not_mem_hexFixed]

/-- Quoted text stands on one line. -/
theorem break_not_mem_quoted (s : String) : '\n' ∉ (quoted s).toList := by
  have hquote : quoteFor s.toList ≠ '\n' := by
    unfold quoteFor
    split
    · decide
    · decide
  simp only [quoted, String.toList_ofList, List.mem_cons, List.mem_append, List.mem_flatMap,
    List.not_mem_nil, or_false, not_or, not_exists, not_and]
  exact ⟨hquote.symm, fun c _ => break_not_mem_quoteChar hquote c, hquote.symm⟩

end Deck.Text
