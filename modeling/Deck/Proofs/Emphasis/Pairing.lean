import Deck.Proofs.Emphasis.MarkedUp
import Deck.Proofs.Emphasis.Runs

/-!
# Pairing runs

What a pass finds by scanning can be told by its runs alone.  Going through the runs from left
to right, two that follow each other are the delimiters of a span if both have the length that
the pass asks for and nothing between them keeps the span from going on; they become tags, and
the pairing goes on behind them.  A run that does not start a span is left as it is.

* `Pass.span?_of_pairs`, `Pass.pairs_of_span?`: a span starts at a run exactly if the run and
  the next one pair.
* `Pass.applyAfter_runsText`: **the scan pairs runs.**  The induction is on the pairing; the scan
  stands at the start of a run in each of its steps.
* `apply_eq_pair`: the statement for the four passes and any text, in which a run of another
  length splits the text.
-/

namespace Deck.Emphasis

namespace Pass

variable (p : Pass)

/-! ## The pairing -/

/-- The characters that keep a span from going on. -/
def forbids (c : Char) : Bool :=
  c == '\r' || c == '\n' || p.stopsAtTags && (c == '<' || c == '>')

/-- Two runs that follow each other are the delimiters of a span. -/
def Pairs (r q : Run) : Prop :=
  r.length = p.width ∧ q.length = p.width ∧ ∀ c ∈ r.gap, p.forbids c = false

instance (r q : Run) : Decidable (p.Pairs r q) :=
  haveI : Decidable (∀ c ∈ r.gap, p.forbids c = false) := List.decidableBAll _ _
  inferInstanceAs (Decidable (_ ∧ _ ∧ _))

/-- Some runs, paired from left to right. -/
def pairRuns : List Run → List Char
  | [] => []
  | [r] => r.text p.mark
  | r :: q :: rs =>
    if p.Pairs r q then p.opening ++ r.gap ++ p.closing ++ q.gap ++ pairRuns rs
    else r.text p.mark ++ pairRuns (q :: rs)

/-- A text that was cut at its runs, with the runs paired. -/
def pair (rs : Runs) : List Char := rs.lead ++ p.pairRuns rs.runs

theorem bars_eq_forbids {c : Char} (hc : c ≠ p.mark) : p.bars c = p.forbids c := by
  have hmark : (c == p.mark) = false := beq_eq_false_iff_ne.mpr hc
  rw [bars, hmark, Bool.false_or, forbids]

theorem bars_of_gap {g : List Char} (hg : p.mark ∉ g) :
    (∀ c ∈ g, p.bars c = false) ↔ ∀ c ∈ g, p.forbids c = false := by
  refine forall₂_congr fun c hc => ?_
  rw [p.bars_eq_forbids fun h => hg (h ▸ hc)]

/-! ## Spans at runs -/

section

variable {p} {r q : Run} {rs : List Run}

/-- A span starts at a run that pairs with the next one, and ends behind that. -/
theorem span?_of_pairs (hw : 0 < p.width) (h : MaximalRuns p.mark (r :: q :: rs))
    (hpairs : p.Pairs r q) : p.span? (runsText p.mark (r :: q :: rs)) =
      some ⟨r.gap, q.gap ++ runsText p.mark rs⟩ := by
  obtain ⟨hr, hq, hgap⟩ := hpairs
  cases h with
  | cons _ hmark hlast hrest =>
    refine (p.span?_eq_some_iff hw).mpr ⟨?_, fun hnil => ?_, (p.bars_of_gap hmark).mpr hgap,
      hrest.head_gap_ne⟩
    · simp [delimiter, hr, hq]
    · exact absurd (hlast hnil) (by simp)

/-- A span that starts at a run ends at the next one. -/
theorem pairs_of_span? (hw : 0 < p.width) (h : MaximalRuns p.mark (r :: rs)) {f : Span}
    (hf : p.span? (runsText p.mark (r :: rs)) = some f) : ∃ q qs, rs = q :: qs ∧ p.Pairs r q := by
  obtain ⟨htext, hne, hbars, hend⟩ := (p.span?_eq_some_iff hw).mp hf
  have hcontent := p.mark_not_mem_of_bars hbars
  have hstart : (f.content ++ (p.delimiter ++ f.rest)).head? ≠ some p.mark :=
    head_append_ne hcontent fun hnil => absurd hnil hne
  -- The run and the opening delimiter are the same marks.
  rw [runsText_cons, List.append_assoc, List.append_assoc] at htext
  obtain ⟨hr, hafter⟩ := replicate_append_inj h.head_gap_ne hstart htext
  have hdelimiter : p.delimiter ++ f.rest =
      p.mark :: (List.replicate (p.width - 1) p.mark ++ f.rest) := by
    rw [delimiter, replicate_of_pos p.mark hw, List.cons_append]
  cases h with
  | cons _ hmark _ hrest =>
    cases rs with
    | nil =>
      -- Behind the last run there is no mark that could close the span.
      rw [runsText_nil, List.append_nil, hdelimiter] at hafter
      rw [hafter] at hmark
      exact absurd (by simp) hmark
    | cons q qs =>
      obtain ⟨t, ht⟩ := hrest.exists_cons
      rw [ht, hdelimiter] at hafter
      obtain ⟨hgap, hclose⟩ := append_mark_inj hmark hcontent hafter
      have hnext : runsText p.mark (q :: qs) = List.replicate p.width p.mark ++ f.rest := by
        rw [ht, hclose, ← hdelimiter, delimiter]
      rw [runsText_cons] at hnext
      obtain ⟨hq, -⟩ := replicate_append_inj hrest.head_gap_ne hend hnext
      refine ⟨q, qs, rfl, hr, hq, ?_⟩
      rw [hgap]
      exact (p.bars_of_gap hcontent).mp hbars

/-! ## The scan at runs -/

theorem applyAfter_append_of_not_mem (hw : 0 < p.width) {g : List Char} (hg : p.mark ∉ g)
    (t : List Char) : p.applyAfter false (g ++ t) = g ++ p.applyAfter false t := by
  induction g with
  | nil => rfl
  | cons c g ih =>
    obtain ⟨hc, hg⟩ := List.ne_and_not_mem_of_not_mem_cons hg
    have hmark : (c == p.mark) = false := by simpa using hc.symm
    rw [List.cons_append, p.applyAfter_of_no_span (p.span?_of_head_ne hw hc.symm), hmark, ih hg,
      List.cons_append]

/-- The scan goes on behind a mark as it does elsewhere, if no further mark follows. -/
theorem applyAfter_true_of_head_ne (hw : 0 < p.width) {t : List Char}
    (ht : t.head? ≠ some p.mark) : p.applyAfter true t = p.applyAfter false t := by
  cases t with
  | nil => rw [applyAfter, applyAfter]
  | cons c t =>
    have hc : c ≠ p.mark := fun h => ht (congrArg some h)
    rw [p.applyAfter_true_cons, p.applyAfter_of_no_span (p.span?_of_head_ne hw hc)]

theorem applyAfter_true_replicate (n : Nat) (t : List Char) :
    p.applyAfter true (List.replicate n p.mark ++ t) =
      List.replicate n p.mark ++ p.applyAfter true t := by
  induction n with
  | zero => rfl
  | succ n ih =>
    rw [List.replicate_succ, List.cons_append, p.applyAfter_true_cons, beq_self_eq_true, ih,
      List.cons_append]

/-- A run that starts no span is left as it is. -/
theorem applyAfter_run (hw : 0 < p.width) (h : MaximalRuns p.mark (r :: rs))
    (hnone : p.span? (runsText p.mark (r :: rs)) = none) :
    p.applyAfter false (runsText p.mark (r :: rs)) =
      r.text p.mark ++ p.applyAfter false (runsText p.mark rs) := by
  have hend := h.head_gap_ne
  rw [runsText_cons] at hnone ⊢
  cases h with
  | cons hpos hmark _ _ =>
    have hrun := replicate_of_pos p.mark hpos
    rw [hrun, List.cons_append] at hnone
    rw [hrun, List.cons_append, p.applyAfter_of_no_span hnone, beq_self_eq_true,
      applyAfter_true_replicate, applyAfter_true_of_head_ne hw hend,
      applyAfter_append_of_not_mem hw hmark, Run.text, hrun]
    simp only [List.cons_append, List.append_assoc]

/-- **The scan pairs runs.** -/
theorem applyAfter_runsText (hw : 0 < p.width) (h : MaximalRuns p.mark rs) :
    p.applyAfter false (runsText p.mark rs) = p.pairRuns rs := by
  induction rs using pairRuns.induct p with
  | case1 => rw [runsText_nil, applyAfter, pairRuns]
  | case2 r =>
    have hnone : p.span? (runsText p.mark [r]) = none := by
      refine Option.eq_none_iff_forall_ne_some.mpr fun f hf => ?_
      obtain ⟨q, qs, hqs, -⟩ := pairs_of_span? hw h hf
      exact absurd hqs (by simp)
    rw [applyAfter_run hw h hnone, runsText_nil, applyAfter, List.append_nil, pairRuns]
  | case3 r q rs hpairs ih =>
    rw [applyAfter_of_span p (span?_of_pairs hw h hpairs), pairRuns, if_pos hpairs]
    cases h with
    | cons _ _ _ hrest =>
      have hend := hrest.head_gap_ne
      cases hrest with
      | cons _ hmark _ hrest =>
        simp only [applyAfter_true_of_head_ne hw hend, applyAfter_append_of_not_mem hw hmark,
          ih hrest, List.append_assoc]
  | case4 r q rs hpairs ih =>
    have hnone : p.span? (runsText p.mark (r :: q :: rs)) = none := by
      refine Option.eq_none_iff_forall_ne_some.mpr fun f hf => ?_
      obtain ⟨q', qs, hqs, hpairs'⟩ := pairs_of_span? hw h hf
      obtain ⟨rfl, -⟩ := List.cons.inj hqs
      exact hpairs hpairs'
    rw [applyAfter_run hw h hnone, pairRuns, if_neg hpairs]
    cases h with
    | cons _ _ _ hrest => rw [ih hrest]

theorem apply_eq_pair_ofText (hw : 0 < p.width) (s : List Char) :
    p.apply s = p.pair (Runs.ofText p.mark s) := by
  obtain ⟨htext, hlead, hruns⟩ := Runs.ofText_eq_iff.mp (Eq.refl (Runs.ofText p.mark s))
  rw [Runs.text] at htext
  calc p.apply s
      = p.applyAfter false ((Runs.ofText p.mark s).lead ++
          runsText p.mark (Runs.ofText p.mark s).runs) := by rw [htext, apply]
    _ = p.pair (Runs.ofText p.mark s) := by
      rw [applyAfter_append_of_not_mem hw hlead, applyAfter_runsText hw hruns, pair]

/-! ## Runs of another length -/

/-- A run of another length pairs with none of its neighbours. -/
theorem pairRuns_append_cons (hr : r.length ≠ p.width) (qs : List Run) :
    p.pairRuns (qs ++ r :: rs) = p.pairRuns qs ++ r.text p.mark ++ p.pairRuns rs := by
  induction qs using pairRuns.induct p with
  | case1 =>
    cases rs with
    | nil => simp [pairRuns]
    | cons q rs => simp [pairRuns, Pairs, hr]
  | case2 q =>
    have hnot : ¬p.Pairs q r := fun h => hr h.2.1
    cases rs with
    | nil => simp [pairRuns, hnot]
    | cons q' rs => simp [pairRuns, Pairs, hr]
  | case3 q q' qs hpairs ih => simp [pairRuns, hpairs, ih]
  | case4 q q' qs hpairs ih =>
    rw [List.cons_append, List.cons_append, pairRuns, if_neg hpairs, ← List.cons_append, ih,
      pairRuns, if_neg hpairs]
    simp only [List.append_assoc]

/-- A run of another length stays, and splits the work of the pass. -/
theorem apply_append_run (hw : 0 < p.width) {n : Nat} (hn : 0 < n) (hne : n ≠ p.width)
    {u v : List Char} (hu : u.getLast? ≠ some p.mark) (hv : v.head? ≠ some p.mark) :
    p.apply (u ++ List.replicate n p.mark ++ v) =
      p.apply u ++ List.replicate n p.mark ++ p.apply v := by
  rw [apply_eq_pair_ofText hw, apply_eq_pair_ofText hw u, apply_eq_pair_ofText hw v,
    Runs.ofText_append_run hn hu hv, pair, pairRuns_append_cons hne, pair, pair, Run.text]
  simp only [List.append_assoc]

end

end Pass

/-- **A pass pairs the runs of its mark**, from left to right.  A run of another length than that
of a delimiter is none: it stays, and what stands on either side of it is worked on by itself. -/
theorem apply_eq_pair {p : Pass} (hp : p ∈ passes) :
    (∀ s, p.apply s = p.pair (Runs.ofText p.mark s)) ∧
    ∀ (n : Nat) (u v : List Char), 0 < n → n ≠ p.width → u.getLast? ≠ some p.mark →
      v.head? ≠ some p.mark → p.apply (u ++ List.replicate n p.mark ++ v) =
        p.apply u ++ List.replicate n p.mark ++ p.apply v :=
  ⟨Pass.apply_eq_pair_ofText (width_pos hp),
    fun _ _ _ hn hne hu hv => Pass.apply_append_run (width_pos hp) hn hne hu hv⟩

/-- Of five runs the middle one has another length.  It parts the other four, so that they pair
two by two. -/
theorem partedRuns_pair : starItalic ∈ passes ∧ 0 < 2 ∧ 2 ≠ starItalic.width ∧
    "*a*_".toList.getLast? ≠ some starItalic.mark ∧ "b* c* d".toList.head? ≠ some starItalic.mark ∧
    starItalic.apply "*a*_**b* c* d".toList =
      starItalic.pair (Runs.ofText starItalic.mark "*a*_**b* c* d".toList) ∧
    starItalic.apply ("*a*_".toList ++ List.replicate 2 starItalic.mark ++ "b* c* d".toList) =
      "<em>a</em>_".toList ++ List.replicate 2 starItalic.mark ++ "b<em> c</em> d".toList := by
  have hpass : starItalic ∈ passes := by decide
  have hend : "*a*_".toList.getLast? ≠ some starItalic.mark := by decide
  have hstart : "b* c* d".toList.head? ≠ some starItalic.mark := by decide
  refine ⟨hpass, by decide, by decide, hend, hstart, (apply_eq_pair hpass).1 _, ?_⟩
  rw [(apply_eq_pair hpass).2 2 _ _ (by decide) (by decide) hend hstart,
    (apply_eq_pair hpass).1 "*a*_".toList, (apply_eq_pair hpass).1 "b* c* d".toList]
  decide +kernel

end Deck.Emphasis
