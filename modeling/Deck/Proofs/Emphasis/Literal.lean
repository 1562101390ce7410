import Deck.Proofs.Emphasis.Lines
import Deck.Proofs.Emphasis.Pairing
import Deck.Proofs.Html.Unescape

/-!
# Text that stays as it was typed

Formatting only escapes a text unless, on one of its lines, two runs of a mark that follow each
other both have the length of a delimiter.  One such pair is enough for a tag.

A pass either keeps its text or puts a tag in, and no later pass takes a tag away.  So the text
comes out unchanged exactly if each of the passes would keep it, and none of them needs to be
looked at in the text that an earlier one leaves.

* `not_mem_run_iff`: a text gets no tag if each of the passes keeps it.
* `Pass.apply_eq_self_iff`: a pass keeps a line unless two runs that follow each other pair.
* `Runs.lengths_escapeChars`: escaping keeps the lengths of all runs.
* `hasPair_iff`: two runs that make a pair are what one of the passes looks for.
* `format_eq_escape_iff`: **text without such a pair stays as it was typed**, and no other text.
-/

namespace Deck.Emphasis

open Html

/-! ## Tags and passes -/

namespace Pass

variable {p : Pass} {s t : List Char}

theorem mem_opening : '<' ∈ p.opening := List.mem_cons_self

theorem Cut.eq_of_not_mem (h : Cut p s t) (ht : '<' ∉ t) : t = s := by
  cases h with
  | text => rfl
  | span u _ _ => exact absurd (by simp [mem_opening]) ht

theorem Cut.mem_of_mem (h : Cut p s t) (hs : '<' ∈ s) : '<' ∈ t := by
  cases h with
  | text => exact hs
  | span u _ _ => simp [mem_opening]

/-- A pass keeps its text or puts a tag in. -/
theorem apply_eq_self_of_not_mem (hw : 0 < p.width) (h : '<' ∉ p.apply s) : p.apply s = s :=
  (p.cut_apply hw s).eq_of_not_mem h

end Pass

section

variable {ps : List Pass} {s : List Char}

/-- No pass takes a tag away. -/
theorem mem_run_of_mem (hps : ps ⊆ passes) (hs : '<' ∈ s) : '<' ∈ run ps s := by
  induction ps generalizing s with
  | nil => exact hs
  | cons p ps ih =>
    obtain ⟨hp, hps⟩ := List.cons_subset.mp hps
    exact ih hps ((p.cut_apply (width_pos hp) s).mem_of_mem hs)

theorem run_eq_self (h : ∀ p ∈ ps, p.apply s = s) : run ps s = s := by
  induction ps with
  | nil => rfl
  | cons p ps ih =>
    obtain ⟨hp, hps⟩ := List.forall_mem_cons.mp h
    rw [run_cons, hp, ih hps]

/-- **A text gets no tag if each of the passes keeps it.** -/
theorem not_mem_run_iff (hps : ps ⊆ passes) (hs : '<' ∉ s) :
    '<' ∉ run ps s ↔ ∀ p ∈ ps, p.apply s = s := by
  constructor
  · intro h
    induction ps with
    | nil => simp
    | cons p ps ih =>
      obtain ⟨hp, hrest⟩ := List.cons_subset.mp hps
      rw [run_cons] at h
      -- A tag that this pass put in would still be there at the end.
      have hkept : p.apply s = s :=
        Pass.apply_eq_self_of_not_mem (width_pos hp) fun hm => h (mem_run_of_mem hrest hm)
      rw [hkept] at h
      exact List.forall_mem_cons.mpr ⟨hkept, ih hrest h⟩
  · intro h
    rwa [run_eq_self h]

end

/-- Where an angle bracket stands in marked-up text, a tag does. -/
theorem MarkedUp.exists_opening {outer : List Pass} {s t : List Char} (h : MarkedUp outer s t)
    (ht : '<' ∈ t) : ∃ p ∈ passes, p.opening <:+: t := by
  induction h with
  | text hs => exact absurd ht (hs.not_mem (Or.inl rfl))
  | @span outer p s t hp _ _ _ _ => exact ⟨p, hp, [], t ++ p.closing, by simp⟩
  | append _ _ ih₁ ih₂ =>
    rcases List.mem_append.mp ht with ht | ht
    · obtain ⟨p, hp, hinfix⟩ := ih₁ ht
      exact ⟨p, hp, hinfix.trans (List.prefix_append _ _).isInfix⟩
    · obtain ⟨p, hp, hinfix⟩ := ih₂ ht
      exact ⟨p, hp, hinfix.trans (List.suffix_append _ _).isInfix⟩

/-! ## Passes and lengths of runs -/

namespace Pass

variable {p : Pass} {rs : List Run} {s : List Char}

theorem pairRuns_eq_runsText (h : ¬[p.width, p.width] <:+: rs.map Run.length) :
    p.pairRuns rs = runsText p.mark rs := by
  induction rs using pairRuns.induct p with
  | case1 => rfl
  | case2 r => simp [pairRuns, Run.text]
  | case3 r q rs hpairs _ =>
    refine absurd ?_ h
    rw [List.map_cons, List.map_cons, hpairs.1, hpairs.2.1]
    exact (List.prefix_append [p.width, p.width] _).isInfix
  | case4 r q rs hpairs ih =>
    rw [pairRuns, if_neg hpairs, ih fun hinfix => h (List.infix_cons hinfix), Run.text,
      runsText_cons p.mark r, List.append_assoc]

theorem not_infix_of_not_mem (hgaps : ∀ r ∈ rs, ∀ c ∈ r.gap, p.forbids c = false)
    (h : '<' ∉ p.pairRuns rs) : ¬[p.width, p.width] <:+: rs.map Run.length := by
  induction rs using pairRuns.induct p with
  | case1 => simp
  | case2 r =>
    intro hinfix
    exact absurd hinfix.length_le (by simp)
  | case3 r q rs hpairs _ =>
    rw [pairRuns, if_pos hpairs] at h
    exact absurd (by simp [mem_opening]) h
  | case4 r q rs hpairs ih =>
    rw [pairRuns, if_neg hpairs, List.mem_append, not_or] at h
    obtain ⟨hgap, hgaps⟩ := List.forall_mem_cons.mp hgaps
    rw [List.map_cons, List.infix_cons_iff, not_or]
    refine ⟨fun hhead => hpairs ?_, ih hgaps h.2⟩
    rw [List.map_cons, List.cons_prefix_cons, List.cons_prefix_cons] at hhead
    exact ⟨hhead.1.symm, hhead.2.1.symm, hgap⟩

/-- **A pass keeps a text** in which nothing ends a span, unless two runs that follow each other
pair. -/
theorem apply_eq_self_iff (hw : 0 < p.width) (hlt : '<' ∉ s) (hs : ∀ c ∈ s, p.forbids c = false) :
    p.apply s = s ↔ ¬[p.width, p.width] <:+: (Runs.ofText p.mark s).lengths := by
  have htext := Runs.text_ofText p.mark s
  rw [apply_eq_pair_ofText hw, pair, Runs.lengths]
  generalize Runs.ofText p.mark s = rs at htext ⊢
  rw [Runs.text] at htext
  constructor
  · intro h
    refine not_infix_of_not_mem (fun r hr c hc => hs c ?_) fun hm => hlt ?_
    · have hmem : c ∈ runsText p.mark rs.runs :=
        List.mem_flatMap.mpr ⟨r, hr, List.mem_append_right _ hc⟩
      rw [← htext]
      exact List.mem_append_right rs.lead hmem
    · rw [← h]
      exact List.mem_append_right rs.lead hm
  · intro h
    rw [pairRuns_eq_runsText h, htext]

end Pass

/-! ## Runs of escaped text -/

/-- The marks of emphasis. -/
def marks : List Char := ['*', '_']

theorem mem_marks_iff {c : Char} : c ∈ marks ↔ c = '*' ∨ c = '_' := by simp [marks]

namespace Runs

variable {mark : Char}

theorem escapeChars_replicate (hmark : mark ∈ marks) (n : Nat) :
    escapeChars (List.replicate n mark) = List.replicate n mark := by
  have hentity : entity mark = [mark] := by
    rcases mem_marks_iff.mp hmark with rfl | rfl <;> rfl
  induction n with
  | zero => rfl
  | succ n ih => rw [List.replicate_succ, escapeChars_cons, hentity, ih, List.singleton_append]

theorem not_mem_escapeChars_of_mark (hmark : mark ∈ marks) {s : List Char} (h : mark ∉ s) :
    mark ∉ escapeChars s := by
  have hentities : ∀ e ∈ entities, mark ∉ e := by
    rcases mem_marks_iff.mp hmark with rfl | rfl <;> decide
  exact fun hm => h (mem_of_mem_escapeChars hentities hm)

theorem eq_nil_of_escapeChars {s : List Char} (h : escapeChars s = []) : s = [] := by
  rw [← unescape_escapeChars s, h]
  rfl

/-- A run whose gap is escaped. -/
def escapeGap (r : Run) : Run := ⟨r.length, escapeChars r.gap⟩

theorem runsText_escapeGap (hmark : mark ∈ marks) (rs : List Run) :
    runsText mark (rs.map escapeGap) = escapeChars (runsText mark rs) := by
  induction rs with
  | nil => rfl
  | cons r rs ih =>
    rw [List.map_cons, runsText_cons, ih, runsText_cons, escapeChars_append, escapeChars_append,
      escapeChars_replicate hmark]
    rfl

theorem maximalRuns_escapeGap (hmark : mark ∈ marks) {rs : List Run}
    (h : MaximalRuns mark rs) : MaximalRuns mark (rs.map escapeGap) := by
  induction h with
  | nil => exact .nil
  | cons hpos hgap hlast _ ih =>
    refine .cons hpos (not_mem_escapeChars_of_mark hmark hgap) (fun hnil => ?_) ih
    rw [hlast (eq_nil_of_escapeChars hnil)]
    rfl

/-- **Escaping keeps the lengths of all runs.** -/
theorem lengths_escapeChars (hmark : mark ∈ marks) (s : List Char) :
    (ofText mark (escapeChars s)).lengths = (ofText mark s).lengths := by
  obtain ⟨htext, hlead, hruns⟩ := ofText_eq_iff.mp (Eq.refl (ofText mark s))
  have hcut : ofText mark (escapeChars s) =
      ⟨escapeChars (ofText mark s).lead, (ofText mark s).runs.map escapeGap⟩ := by
    refine ofText_eq_iff.mpr ⟨?_, not_mem_escapeChars_of_mark hmark hlead,
      maximalRuns_escapeGap hmark hruns⟩
    rw [text, runsText_escapeGap hmark, ← escapeChars_append]
    exact congrArg escapeChars htext
  rw [hcut, lengths, lengths, List.map_map]
  rfl

end Runs

/-! ## Literal text -/

/-- Nothing in an escaped line ends a span but a mark. -/
theorem forbids_of_unbroken {s : List Char} (hs : Unbroken s) (p : Pass) :
    ∀ c ∈ escapeChars s, p.forbids c = false := by
  intro c hc
  have hbreak : ∀ b : LineBreak, c ≠ b.char := by
    rintro b rfl
    have hentities : ∀ e ∈ entities, b.char ∉ e := by cases b <;> decide
    exact hs b (mem_of_mem_escapeChars hentities hc)
  have hcr : c ≠ '\r' := hbreak .carriageReturn
  have hlf : c ≠ '\n' := hbreak .lineFeed
  have hlt : c ≠ '<' := fun h => not_mem_escapeChars (Or.inl rfl) s (h ▸ hc)
  have hgt : c ≠ '>' := fun h => not_mem_escapeChars (Or.inr (Or.inl rfl)) s (h ▸ hc)
  simp [Pass.forbids, hcr, hlf, hlt, hgt]

/-- Two runs of a mark that follow each other have the length of a delimiter. -/
def HasPair (s : List Char) : Prop :=
  ∃ mark ∈ marks, ∃ n ∈ [1, 2], [n, n] <:+: (Runs.ofText mark s).lengths

/-- Each mark goes with each width of a delimiter in one of the passes. -/
theorem hasPair_iff {s : List Char} :
    HasPair s ↔ ∃ p ∈ passes, [p.width, p.width] <:+: (Runs.ofText p.mark s).lengths := by
  constructor
  · rintro ⟨mark, hmark, n, hn, hinfix⟩
    have hall : ∀ n ∈ [1, 2], ∃ p ∈ passes, p.mark = mark ∧ p.width = n := by
      rcases mem_marks_iff.mp hmark with rfl | rfl <;> decide
    obtain ⟨p, hp, rfl, rfl⟩ := hall n hn
    exact ⟨p, hp, hinfix⟩
  · rintro ⟨p, hp, hinfix⟩
    have hall : ∀ p ∈ passes, p.mark ∈ marks ∧ p.width ∈ [1, 2] := by decide
    exact ⟨p.mark, (hall p hp).1, p.width, (hall p hp).2, hinfix⟩

/-- A line gets no tag exactly if no mark has two such runs. -/
theorem not_mem_formatChars_iff_of_unbroken {s : List Char} (hs : Unbroken s) :
    '<' ∉ formatChars s ↔ ¬HasPair s := by
  have hlt : '<' ∉ escapeChars s := not_mem_escapeChars (Or.inl rfl) s
  have hmark : ∀ p ∈ passes, p.mark ∈ marks := by decide
  have hkept : ∀ p ∈ passes, p.apply (escapeChars s) = escapeChars s ↔
      ¬[p.width, p.width] <:+: (Runs.ofText p.mark s).lengths := by
    intro p hp
    rw [Pass.apply_eq_self_iff (width_pos hp) hlt (forbids_of_unbroken hs p),
      Runs.lengths_escapeChars (hmark p hp)]
  calc '<' ∉ formatChars s
      ↔ ∀ p ∈ passes, p.apply (escapeChars s) = escapeChars s :=
        not_mem_run_iff (List.Subset.refl passes) hlt
    _ ↔ ∀ p ∈ passes, ¬[p.width, p.width] <:+: (Runs.ofText p.mark s).lengths :=
        forall₂_congr hkept
    _ ↔ ¬HasPair s := by simp only [hasPair_iff, not_exists, not_and]

theorem not_mem_formatChars_iff (s : List Char) :
    '<' ∉ formatChars s ↔ ∀ l ∈ (Lines.ofText s).lines, ¬HasPair l := by
  have hbreak : ∀ b : LineBreak, '<' ≠ b.char := by intro b; cases b <;> decide
  have hlines : formatChars s = ((Lines.ofText s).map formatChars).text := by
    rw [← Lines.text_map formatChars_append_break, Lines.text_ofText]
  rw [hlines, Lines.mem_text_iff hbreak, Lines.lines_map]
  simp only [not_exists, not_and, List.forall_mem_map]
  exact forall₂_congr fun l hl =>
    not_mem_formatChars_iff_of_unbroken (Lines.unbroken_of_mem_ofText s l hl)

/-- Formatted text is the escaped text or has a tag. -/
theorem formatChars_eq_escapeChars_iff (s : List Char) :
    formatChars s = escapeChars s ↔ '<' ∉ formatChars s := by
  have hlt : '<' ∉ escapeChars s := not_mem_escapeChars (Or.inl rfl) s
  constructor
  · intro h
    rwa [h]
  · intro h
    exact run_eq_self ((not_mem_run_iff (List.Subset.refl passes) hlt).mp h)

/-- **Text stays as it was typed** exactly if on none of its lines two runs of a mark that follow
each other are both single or both double; and on a line with two such runs there is a tag. -/
theorem format_eq_escape_iff (s : String) :
    (format s = escape s ↔ ∀ l ∈ (Lines.ofText s.toList).lines, ¬HasPair l) ∧
      ∀ l ∈ (Lines.ofText s.toList).lines, HasPair l →
        ∃ p ∈ passes, p.opening <:+: formatChars l := by
  constructor
  · rw [format, escape, String.ofList_inj, formatChars_eq_escapeChars_iff, not_mem_formatChars_iff]
  · intro l hl hpair
    have hunbroken := Lines.unbroken_of_mem_ofText s.toList l hl
    refine (markedUp_formatChars l).exists_opening (Classical.byContradiction fun hlt => ?_)
    exact (not_mem_formatChars_iff_of_unbroken hunbroken).mp hlt hpair

example : format "***a** *b\nc* __d_" = "***a** *b\nc* __d_" := by decide +kernel

end Deck.Emphasis
