import Deck.Emphasis.Pass
import Deck.Text.Scan

/-!
# What one pass does

The scan of a pass is read off its text here, so that later files need not follow it.

* `Pass.span?_eq_some_iff`: a span is found exactly where a delimiter, a content
  without bars, and a second delimiter stand at the head of the text, and no further
  mark follows.
* `Pass.applyAfter_append_bar`: **a pass works on each side of a bar by itself.**  No
  span goes over a character that none may hold, so a line break splits the work, and
  for a pass that stops at tags an angle bracket does too (`Pass.apply_append_tag`).
* `Pass.Cut`: a text is cut into spans and the text between them, and the pass writes
  tags in place of the delimiters (`Pass.cut_apply`).
-/

namespace Deck.Emphasis.Pass

open Text

variable (p : Pass)

/-- The marks that delimit a span. -/
def delimiter : List Char := List.replicate p.width p.mark

theorem bars_mark : p.bars p.mark = true := by simp [bars]

theorem mark_not_mem_of_bars {s : List Char} (h : ∀ c ∈ s, p.bars c = false) : p.mark ∉ s := by
  intro hm
  have hbar := h p.mark hm
  rw [p.bars_mark] at hbar
  exact absurd hbar (by decide)

/-! ## Where spans stand -/

theorem afterMarks?_eq_some_iff : ∀ {n : Nat} {s r : List Char},
    p.afterMarks? n s = some r ↔ s = List.replicate n p.mark ++ r := by
  intro n
  induction n with
  | zero => intro s r; simp [afterMarks?]
  | succ n ih =>
    intro s r
    cases s with
    | nil => simp [afterMarks?, List.replicate_succ]
    | cons c s =>
      rw [afterMarks?, List.replicate_succ, List.cons_append, List.cons.injEq]
      by_cases hc : c = p.mark
      · rw [if_pos hc, ih]
        exact ⟨fun h => ⟨hc, h⟩, fun h => h.2⟩
      · rw [if_neg hc]
        exact ⟨fun h => absurd h (by simp), fun h => absurd h.1 hc⟩

theorem takeWhile_not_bars {s t : List Char} (hs : ∀ c ∈ s, p.bars c = false)
    (ht : ∀ c, t.head? = some c → p.bars c = true) :
    (s ++ t).takeWhile (!p.bars ·) = s ∧ (s ++ t).dropWhile (!p.bars ·) = t := by
  have hall : ∀ c ∈ s, (!p.bars c) = true := fun c hc => by rw [hs c hc]; rfl
  have hstop : ∀ c, t.head? = some c → (!p.bars c) = false := fun c hc => by rw [ht c hc]; rfl
  exact ⟨takeWhile_append_of_all hall hstop, dropWhile_append_of_all hall hstop⟩

theorem bars_of_mem_takeWhile {s : List Char} {c : Char} (h : c ∈ s.takeWhile (!p.bars ·)) :
    p.bars c = false := by
  have := forall_mem_takeWhile (!p.bars ·) s c h
  simpa using this

/-- **Where a span is found.** -/
theorem span?_eq_some_iff (hw : 0 < p.width) {s : List Char} {f : Span} :
    p.span? s = some f ↔
      s = p.delimiter ++ f.content ++ p.delimiter ++ f.rest ∧ f.content ≠ [] ∧
        (∀ c ∈ f.content, p.bars c = false) ∧ f.rest.head? ≠ some p.mark := by
  constructor
  · intro h
    unfold span? at h
    split at h
    · simp at h
    rename_i inner hinner
    split at h
    · simp at h
    rename_i rest hrest
    split at h
    · simp at h
    rename_i hne
    simp only [Option.some.injEq] at h
    subst h
    obtain ⟨hne, hhead⟩ := not_or.mp hne
    refine ⟨?_, hne, fun c hc => p.bars_of_mem_takeWhile hc, hhead⟩
    have hsplit : inner = inner.takeWhile (!p.bars ·) ++ (p.delimiter ++ rest) := by
      rw [delimiter, ← p.afterMarks?_eq_some_iff.mp hrest, List.takeWhile_append_dropWhile]
    calc s = p.delimiter ++ inner := p.afterMarks?_eq_some_iff.mp hinner
      _ = p.delimiter ++ (inner.takeWhile (!p.bars ·) ++ (p.delimiter ++ rest)) := by rw [← hsplit]
      _ = _ := by simp
  · rintro ⟨rfl, hne, hbars, hhead⟩
    obtain ⟨n, hn⟩ := Nat.exists_eq_succ_of_ne_zero (Nat.pos_iff_ne_zero.mp hw)
    have hbar : ∀ c, (p.delimiter ++ f.rest).head? = some c → p.bars c = true := by
      intro c hc
      rw [delimiter, hn, List.replicate_succ, List.cons_append, List.head?_cons,
        Option.some.injEq] at hc
      rw [← hc, bars_mark]
    obtain ⟨htake, hdrop⟩ := p.takeWhile_not_bars hbars hbar
    have houter : p.afterMarks? p.width (p.delimiter ++ f.content ++ p.delimiter ++ f.rest)
        = some (f.content ++ (p.delimiter ++ f.rest)) :=
      p.afterMarks?_eq_some_iff.mpr (by simp [delimiter])
    have hinner : p.afterMarks? p.width (p.delimiter ++ f.rest) = some f.rest :=
      p.afterMarks?_eq_some_iff.mpr rfl
    unfold span?
    simp only [houter, htake, hdrop, hinner]
    rw [if_neg (not_or.mpr ⟨hne, hhead⟩)]

/-! ## Steps of the scan -/

theorem applyAfter_true_cons (c : Char) (r : List Char) :
    p.applyAfter true (c :: r) = c :: p.applyAfter (c == p.mark) r := by
  rw [applyAfter, if_pos rfl]

theorem applyAfter_of_span {s : List Char} {f : Span} (h : p.span? s = some f) :
    p.applyAfter false s = p.opening ++ f.content ++ p.closing ++ p.applyAfter true f.rest := by
  cases s with
  | nil => exact absurd (p.span?_length h) (Nat.not_lt_zero _)
  | cons c r =>
    rw [applyAfter, if_neg (by simp)]
    split
    · rename_i f' hf'
      rw [h, Option.some.injEq] at hf'
      rw [hf']
    · rename_i hf'
      rw [h] at hf'
      exact absurd hf' (by simp)

theorem applyAfter_of_no_span {c : Char} {r : List Char} (h : p.span? (c :: r) = none)
    (b : Bool) : p.applyAfter b (c :: r) = c :: p.applyAfter (c == p.mark) r := by
  cases b with
  | true => exact p.applyAfter_true_cons c r
  | false =>
    rw [applyAfter, if_neg (by simp)]
    split
    · rename_i f hf
      rw [h] at hf
      exact absurd hf (by simp)
    · rfl

/-! ## Bars -/

theorem afterMarks?_append {x : Char} (hx : x ≠ p.mark) (n : Nat) (u v : List Char) :
    p.afterMarks? n (u ++ x :: v) = (p.afterMarks? n u).map (· ++ x :: v) := by
  induction n generalizing u with
  | zero => rfl
  | succ n ih =>
    cases u with
    | nil => simp [afterMarks?, hx]
    | cons c u =>
      rw [List.cons_append, afterMarks?, afterMarks?]
      split
      · exact ih u
      · rfl

theorem takeWhile_append_bar {x : Char} (hx : p.bars x = true) (u v : List Char) :
    (u ++ x :: v).takeWhile (!p.bars ·) = u.takeWhile (!p.bars ·) ∧
      (u ++ x :: v).dropWhile (!p.bars ·) = u.dropWhile (!p.bars ·) ++ x :: v := by
  induction u with
  | nil => simp [hx]
  | cons c u ih =>
    rw [List.cons_append, List.takeWhile_cons, List.takeWhile_cons, List.dropWhile_cons,
      List.dropWhile_cons]
    split
    · rw [ih.1, ih.2]
      exact ⟨rfl, rfl⟩
    · exact ⟨rfl, rfl⟩

/-- Whether a span starts at the head of a text does not hang on what follows a bar. -/
theorem span?_append {x : Char} (hx : p.bars x = true) (hm : x ≠ p.mark) (u v : List Char) :
    p.span? (u ++ x :: v) = (p.span? u).map fun f => ⟨f.content, f.rest ++ x :: v⟩ := by
  unfold span?
  rw [p.afterMarks?_append hm]
  cases p.afterMarks? p.width u with
  | none => rfl
  | some inner =>
    obtain ⟨htake, hdrop⟩ := p.takeWhile_append_bar hx inner v
    simp only [Option.map_some, htake, hdrop, p.afterMarks?_append hm]
    cases p.afterMarks? p.width (inner.dropWhile (!p.bars ·)) with
    | none => rfl
    | some rest =>
      have hhead : (rest ++ x :: v).head? = some p.mark ↔ rest.head? = some p.mark := by
        cases rest with
        | nil => simp [hm]
        | cons c rest => rfl
      simp only [Option.map_some, hhead]
      split <;> rfl

/-- **A pass works on each side of a bar by itself.** -/
theorem applyAfter_append_bar (hw : 0 < p.width) {x : Char} (hx : p.bars x = true)
    (hm : x ≠ p.mark) (v : List Char) : ∀ (u : List Char) (b : Bool),
      p.applyAfter b (u ++ x :: v) = p.applyAfter b u ++ x :: p.applyAfter false v := by
  intro u
  induction hn : u.length using Nat.strongRecOn generalizing u with
  | ind n ih =>
    intro b
    cases u with
    | nil =>
      have hxm : (x == p.mark) = false := by simpa using hm
      rw [List.nil_append, p.applyAfter_of_no_span (p.span?_of_head_ne hw hm), hxm, applyAfter]
      rfl
    | cons c r =>
      have hr : r.length < n := by rw [← hn]; exact Nat.lt_succ_self r.length
      have hspan := p.span?_append hx hm (c :: r) v
      cases b with
      | true =>
        rw [List.cons_append, applyAfter_true_cons, applyAfter_true_cons, ih _ hr r rfl]
        rfl
      | false =>
        cases hf : p.span? (c :: r) with
        | none =>
          rw [hf, List.cons_append] at hspan
          rw [List.cons_append, p.applyAfter_of_no_span hspan, p.applyAfter_of_no_span hf,
            ih _ hr r rfl]
          rfl
        | some f =>
          rw [hf] at hspan
          have hrest : f.rest.length < n := by rw [← hn]; exact p.span?_length hf
          rw [p.applyAfter_of_span hspan, p.applyAfter_of_span hf, ih _ hrest f.rest rfl]
          simp

theorem apply_append_bar (hw : 0 < p.width) {x : Char} (hx : p.bars x = true) (hm : x ≠ p.mark)
    (u v : List Char) : p.apply (u ++ x :: v) = p.apply u ++ x :: p.apply v :=
  p.applyAfter_append_bar hw hx hm v u false

/-- **A pass that stops at tags works on each side of a tag by itself.**  The tag is given
by its name, in which no mark occurs. -/
theorem apply_append_tag (hw : 0 < p.width) (hs : p.stopsAtTags = true) (h₁ : '<' ≠ p.mark)
    (h₂ : '>' ≠ p.mark) {name : List Char} (hname : p.mark ∉ name) (u v : List Char) :
    p.apply (u ++ '<' :: (name ++ '>' :: v)) = p.apply u ++ '<' :: (name ++ '>' :: p.apply v) := by
  rw [p.apply_append_bar hw (by simp [bars, hs]) h₁, p.apply_append_bar hw (by simp [bars, hs]) h₂,
    p.apply_of_not_mem hw hname]

/-! ## Cutting a text into its spans -/

/-- A text, and the same text with tags in place of the delimiters of some spans. -/
inductive Cut : List Char → List Char → Prop
  | text (s : List Char) : Cut s s
  | span (u : List Char) {content s t : List Char} : (∀ c ∈ content, p.bars c = false) →
      Cut s t → Cut (u ++ p.delimiter ++ content ++ p.delimiter ++ s)
        (u ++ p.opening ++ content ++ p.closing ++ t)

theorem Cut.cons {s t : List Char} (c : Char) (h : Cut p s t) : Cut p (c :: s) (c :: t) := by
  cases h with
  | text => exact .text (c :: s)
  | span u hbars h => exact .span (c :: u) hbars h

theorem cut_applyAfter (hw : 0 < p.width) : ∀ (s : List Char) (b : Bool),
    Cut p s (p.applyAfter b s) := by
  intro s
  induction hn : s.length using Nat.strongRecOn generalizing s with
  | ind n ih =>
    intro b
    cases s with
    | nil => rw [applyAfter]; exact .text []
    | cons c r =>
      have hr : r.length < n := by rw [← hn]; exact Nat.lt_succ_self r.length
      cases b with
      | true =>
        rw [applyAfter_true_cons]
        exact (ih _ hr r rfl _).cons p c
      | false =>
        cases hf : p.span? (c :: r) with
        | none =>
          rw [p.applyAfter_of_no_span hf]
          exact (ih _ hr r rfl _).cons p c
        | some f =>
          have hrest : f.rest.length < n := by rw [← hn]; exact p.span?_length hf
          obtain ⟨hs, -, hbars, -⟩ := (p.span?_eq_some_iff hw).mp hf
          rw [p.applyAfter_of_span hf, hs]
          exact .span [] hbars (ih _ hrest f.rest rfl true)

/-- **A pass cuts its text into spans.** -/
theorem cut_apply (hw : 0 < p.width) (s : List Char) : Cut p s (p.apply s) :=
  p.cut_applyAfter hw s false

end Deck.Emphasis.Pass
