import Deck.Text.Ranges
import Deck.Text.Scan

/-!
# Blank characters and trimming

A character is *blank* when Unicode counts it as white space or as one of the
four information separators `U+001C` to `U+001F`.  Fields of a deck are trimmed
of blanks before they are read.

* `trimEnd_append`: trimming keeps everything up to the last character that is
  no blank.
* `trim_eq_self`: a text that neither starts nor ends with a blank is kept.
* `trim_trim`: trimming twice is trimming once.
* `trim_around`: blanks around a text change nothing of what is left of it.
-/

namespace Deck.Text

/-- White space, with the information separators. -/
def blanks : Ranges :=
  ⟨[(0x09, 0x0D), (0x1C, 0x20), (0x85, 0x85), (0xA0, 0xA0), (0x1680, 0x1680), (0x2000, 0x200A),
    (0x2028, 0x2029), (0x202F, 0x202F), (0x205F, 0x205F), (0x3000, 0x3000)]⟩

def isBlank (c : Char) : Bool := blanks.contains c.toNat

/-- Letters stand in two rows. -/
theorem toNat_of_isAlpha {c : Char} (h : c.isAlpha = true) :
    65 ≤ c.toNat ∧ c.toNat ≤ 90 ∨ 97 ≤ c.toNat ∧ c.toNat ≤ 122 := by
  rcases (Bool.or_eq_true _ _).mp h with hupper | hlower
  · have hcode : 'A'.val ≤ c.val ∧ c.val ≤ 'Z'.val := of_decide_eq_true hupper
    exact Or.inl (hcode.imp UInt32.le_iff_toNat_le.mp UInt32.le_iff_toNat_le.mp)
  · have hcode : decide ('a'.val ≤ c.val) = true ∧ decide (c.val ≤ 'z'.val) = true :=
      (Bool.and_eq_true _ _).mp hlower
    simp only [decide_eq_true_eq] at hcode
    exact Or.inr (hcode.imp UInt32.le_iff_toNat_le.mp UInt32.le_iff_toNat_le.mp)

/-- No letter is a blank. -/
theorem isAlpha_of_isBlank {c : Char} (h : isBlank c = true) : c.isAlpha = false := by
  have hapart : (blanks.pairs.all fun r => r.2 < 65 || 90 < r.1 && r.2 < 97 || 122 < r.1) := by
    decide
  obtain ⟨r, hr, hr₁, hr₂⟩ := Ranges.contains_iff.mp h
  have hr₃ := List.all_eq_true.mp hapart r hr
  simp only [Bool.or_eq_true, Bool.and_eq_true, decide_eq_true_eq] at hr₃
  rw [Bool.eq_false_iff]
  intro hletter
  have hcode := toNat_of_isAlpha hletter
  omega

/-- The text from its first character that is no blank. -/
def trimStart (s : List Char) : List Char := s.dropWhile isBlank

/-- The text up to its last character that is no blank. -/
def trimEnd (s : List Char) : List Char := (s.reverse.dropWhile isBlank).reverse

/-- The text without the blanks around it. -/
def trim (s : List Char) : List Char := trimEnd (trimStart s)

/-- A string without the blanks around it. -/
def trimmed (s : String) : String := String.ofList (trim s.toList)

/-! ## What trimming keeps -/

theorem trimEnd_append {c : Char} (hc : isBlank c = false) (s : List Char) {t : List Char}
    (ht : ∀ x ∈ t, isBlank x = true) : trimEnd (s ++ c :: t) = s ++ [c] := by
  have h : (t.reverse ++ (c :: s.reverse)).dropWhile isBlank = c :: s.reverse := by
    rw [List.dropWhile_append_of_pos (by simpa using ht), List.dropWhile_cons, hc]
    rfl
  simp [trimEnd, h]

theorem trimEnd_eq_self {s : List Char} (h : ∀ c, s.getLast? = some c → isBlank c = false) :
    trimEnd s = s := by
  rcases s.eq_nil_or_concat with rfl | ⟨t, c, rfl⟩
  · rfl
  · have hc := h c (by simp)
    simpa using trimEnd_append hc t (t := []) (by simp)

theorem trimStart_eq_self {s : List Char} (h : ∀ c, s.head? = some c → isBlank c = false) :
    trimStart s = s := by
  cases s with
  | nil => rfl
  | cons c r => simp [trimStart, h c rfl]

/-- A text that neither starts nor ends with a blank is kept as it is. -/
theorem trim_eq_self {s : List Char} (h₁ : ∀ c, s.head? = some c → isBlank c = false)
    (h₂ : ∀ c, s.getLast? = some c → isBlank c = false) : trim s = s := by
  rw [trim, trimStart_eq_self h₁, trimEnd_eq_self h₂]

/-- A text without blanks is kept as it is. -/
theorem trim_of_forall {s : List Char} (h : ∀ c ∈ s, isBlank c = false) : trim s = s := by
  refine trim_eq_self (fun c hc => h c ?_) (fun c hc => h c ?_)
  · exact List.mem_of_mem_head? hc
  · exact List.mem_of_mem_getLast? hc

/-- What is left starts with no blank. -/
theorem isBlank_of_head_trimStart {s : List Char} {c : Char} (h : (trimStart s).head? = some c) :
    isBlank c = false := head_dropWhile_eq_false h

/-- What is left ends with no blank. -/
theorem isBlank_of_getLast_trimEnd {s : List Char} {c : Char}
    (h : (trimEnd s).getLast? = some c) : isBlank c = false := by
  rw [trimEnd, List.getLast?_reverse] at h
  exact head_dropWhile_eq_false h

/-- What is cut off at the end is blank. -/
theorem exists_trimEnd_append (s : List Char) :
    ∃ t, s = trimEnd s ++ t ∧ ∀ c ∈ t, isBlank c = true := by
  refine ⟨(s.reverse.takeWhile isBlank).reverse, ?_, ?_⟩
  · rw [trimEnd, ← List.reverse_append, List.takeWhile_append_dropWhile, List.reverse_reverse]
  · intro c hc
    exact forall_mem_takeWhile isBlank s.reverse c (by simpa using hc)

theorem head_trimEnd {s : List Char} {c : Char} (h : (trimEnd s).head? = some c) :
    s.head? = some c := by
  obtain ⟨t, ht, -⟩ := exists_trimEnd_append s
  rw [ht, List.head?_append, h]
  rfl

theorem trim_sublist (s : List Char) : (trim s).Sublist s := by
  obtain ⟨t, ht, -⟩ := exists_trimEnd_append (trimStart s)
  have hstart : trimStart s = trim s ++ t := ht
  exact (hstart ▸ List.sublist_append_left _ _).trans (List.dropWhile_sublist isBlank)

/-- Trimming twice is trimming once. -/
theorem trim_trim (s : List Char) : trim (trim s) = trim s := by
  refine trim_eq_self (fun c hc => ?_) (fun c hc => isBlank_of_getLast_trimEnd hc)
  exact isBlank_of_head_trimStart (head_trimEnd hc)

/-! ## Blanks around a text -/

/-- What is no blank ends the blanks at the start, whether they go on in front of it or not. -/
theorem trimStart_append_cons {c : Char} (hc : isBlank c = false) (s t : List Char) :
    trimStart (s ++ c :: t) = trimStart s ++ c :: t := dropWhile_append_cons hc s t

theorem trimEnd_append_of_blank (s : List Char) {b : List Char} (hb : ∀ c ∈ b, isBlank c = true) :
    trimEnd (s ++ b) = trimEnd s := by
  have hrev : ∀ c ∈ b.reverse, isBlank c = true := fun c hc => hb c (List.mem_reverse.mp hc)
  rw [trimEnd, List.reverse_append, List.dropWhile_append_of_pos hrev, trimEnd]

theorem trim_append_of_blank (s : List Char) {b : List Char} (hb : ∀ c ∈ b, isBlank c = true) :
    trim (s ++ b) = trim s := by
  rw [trim, trim, trimStart, List.dropWhile_append]
  split
  · rename_i hs
    rw [dropWhile_eq_nil hb, trimStart, List.isEmpty_iff.mp hs]
  · exact trimEnd_append_of_blank _ hb

theorem trim_around {a b : List Char} (ha : ∀ c ∈ a, isBlank c = true)
    (hb : ∀ c ∈ b, isBlank c = true) (s : List Char) : trim (a ++ s ++ b) = trim s := by
  rw [trim_append_of_blank _ hb, trim, trimStart, List.dropWhile_append_of_pos ha]
  rfl

/-- Nothing is left of a text of blanks, and of no other one. -/
theorem trim_eq_nil_iff {s : List Char} : trim s = [] ↔ ∀ c ∈ s, isBlank c = true := by
  constructor
  · intro h
    obtain ⟨t, ht, hblank⟩ := exists_trimEnd_append (trimStart s)
    rw [show trimEnd (trimStart s) = [] from h, List.nil_append] at ht
    cases hstart : trimStart s with
    | nil =>
      have hs := List.takeWhile_append_dropWhile (p := isBlank) (l := s)
      rw [show s.dropWhile isBlank = [] from hstart, List.append_nil] at hs
      exact hs ▸ forall_mem_takeWhile isBlank s
    | cons c r =>
      have hc := isBlank_of_head_trimStart (s := s) (c := c) (by rw [hstart]; rfl)
      have hmem : c ∈ t := by rw [← ht, hstart]; exact List.mem_cons_self
      exact absurd (hblank c hmem) (by simp [hc])
  · exact fun h => trim_append_of_blank [] h

end Deck.Text
