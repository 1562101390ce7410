import Deck.Proofs.Fence.Spellings

/-!
# Whole numbers as starts

Not every digit serves to write a number: one in a circle or in a superscript does not, and a
reader of numbers may take so many digits and no more.  A start is a numeral, so any digits will
do; a *whole* start is a number that can be read.

* `isWhole_iff_of_isNumeral`: a numeral reads as a number if its digits are decimal.
* `lastValue_wholeStart_iff`: **when the last start is the last whole one**.
* `isWhole_of_lastValue`: so it is where all digits are decimal.
-/

namespace Deck.Text

/-- The text reads as a number: it consists of decimal digits, and of no more of them than the
reader takes, if that has a limit. -/
def isWhole (limit : Option Nat) (s : List Char) : Bool :=
  !s.isEmpty && s.all isDecimal && limit.all fun n => s.length ≤ n

theorem isWhole_iff {limit : Option Nat} {s : List Char} : isWhole limit s = true ↔
    s ≠ [] ∧ (∀ c ∈ s, isDecimal c = true) ∧ ∀ n ∈ limit, s.length ≤ n := by
  simp [isWhole, Option.all_eq_true, and_assoc]

theorem isNumeral_of_isWhole {limit : Option Nat} {s : List Char} (h : isWhole limit s = true) :
    isNumeral s = true := by
  obtain ⟨hne, hdecimal, -⟩ := isWhole_iff.mp h
  rw [isNumeral, Bool.and_eq_true, List.all_eq_true]
  exact ⟨by simpa using hne, fun c hc => isDigit_of_isDecimal (hdecimal c hc)⟩

/-- A numeral reads as a number if its digits are decimal and not too many. -/
theorem isWhole_iff_of_isNumeral {limit : Option Nat} {s : List Char} (h : isNumeral s = true) :
    isWhole limit s = true ↔
      (∀ c ∈ s, isDigit c = true → isDecimal c = true) ∧ ∀ n ∈ limit, s.length ≤ n := by
  rw [isNumeral, Bool.and_eq_true, List.all_eq_true] at h
  rw [isWhole_iff]
  constructor
  · rintro ⟨-, hdecimal, hlength⟩
    exact ⟨fun c hc _ => hdecimal c hc, hlength⟩
  · rintro ⟨hdecimal, hlength⟩
    exact ⟨by simpa using h.1, fun c hc => hdecimal c hc (h.2 c hc), hlength⟩

end Deck.Text

namespace Deck.Fence

open Text

/-- The attribute gives the first line a number that can be read. -/
def Attribute.namesWholeStart (limit : Option Nat) (a : Attribute) : Bool :=
  a.key = "start".toList ∧ isWhole limit a.value

theorem Attribute.namesWholeStart_eq (limit : Option Nat) (a : Attribute) :
    a.namesWholeStart limit = (a.namesStart && isWhole limit a.value) := by
  have hnumeral : isWhole limit a.value = true → isNumeral a.value = true := isNumeral_of_isWhole
  simp only [namesWholeStart, namesStart, Bool.decide_and, Bool.decide_eq_true]
  grind

/-- A further condition on values makes no difference exactly if the last value fulfils it. -/
theorem lastValue_and_iff (p : Attribute → Bool) (q : List Char → Bool) (as : List Attribute) :
    lastValue (fun a => p a && q a.value) as = lastValue p as ↔
      ∀ v, lastValue p as = some v → q v = true := by
  constructor
  · intro h v hv
    rw [← h] at hv
    obtain ⟨a, -, hboth, rfl⟩ := exists_of_lastValue hv
    exact ((Bool.and_eq_true _ _).mp hboth).2
  · intro h
    -- From the end of the list: the last attribute with `p` decides, and it fulfils both.
    induction as using List.reverseRecOn with
    | nil => rfl
    | append_singleton as a ih =>
      rw [lastValue_concat, lastValue_concat]
      rw [lastValue_concat] at h
      cases hp : p a with
      | false => simpa [hp] using ih (by simpa [hp] using h)
      | true => simp [h a.value (by simp [hp])]

/-- **When the last start is the last whole one**: if it is whole. -/
theorem lastValue_wholeStart_iff (limit : Option Nat) (as : List Attribute) :
    lastValue (Attribute.namesWholeStart limit) as = lastValue Attribute.namesStart as ↔
      ∀ v, lastValue Attribute.namesStart as = some v → isWhole limit v = true := by
  rw [← lastValue_and_iff, funext (Attribute.namesWholeStart_eq limit)]

/-- The last start is whole where all digits are decimal and a reader takes that many. -/
theorem isWhole_of_lastValue {limit : Option Nat} {s : List Char}
    (hdecimal : ∀ c ∈ s, isDigit c = true → isDecimal c = true)
    (hlength : ∀ n ∈ limit, s.length ≤ n) {v : List Char}
    (h : lastValue Attribute.namesStart (scan s) = some v) : isWhole limit v = true := by
  obtain ⟨a, hmem, hstart, rfl⟩ := exists_of_lastValue h
  have hpart := sublist_of_mem_scan a hmem
  have hnumeral : isNumeral a.value = true := (of_decide_eq_true hstart).2
  rw [isWhole_iff_of_isNumeral hnumeral]
  exact ⟨fun c hc => hdecimal c (hpart.mem hc),
    fun n hn => Nat.le_trans hpart.length_le (hlength n hn)⟩

end Deck.Fence
