import Deck.Emphasis.Format
import Deck.Proofs.Emphasis.Pass
import Deck.Proofs.Html.Escaped

/-!
# Marked-up text

`MarkedUp outer s t` relates an escaped text `s` to the text `t` in which tags stand in
place of the delimiters of some spans.  The relation keeps account of the spans that the
text stands in: `outer` are their passes, from the inside out.

* `run_append_tag`: the passes after the first one work on each side of a tag by
  themselves, so that what stands in a span is formatted as if it stood alone.
* `markedUp_run`: **the passes mark up any escaped text.**  The induction is on the
  passes: each one cuts its text into spans (`Pass.Cut`), and the passes after it run
  within each part.
* `markedUp_formatChars`: the statement for a whole text.
-/

namespace Deck.Emphasis

open Html

/-! ## The four passes -/

/-- Some passes over a text, one after the other. -/
def run (ps : List Pass) (s : List Char) : List Char := ps.foldl (fun t p => p.apply t) s

@[simp] theorem run_cons (p : Pass) (ps : List Pass) (s : List Char) :
    run (p :: ps) s = run ps (p.apply s) := rfl

theorem width_pos {p : Pass} (h : p ∈ passes) : 0 < p.width := by
  revert p
  decide

theorem mark_not_mem_entities {p : Pass} (h : p ∈ passes) : ∀ e ∈ entities, p.mark ∉ e := by
  revert p
  decide

theorem mark_ne_bracket {p : Pass} (h : p ∈ passes) : '<' ≠ p.mark ∧ '>' ≠ p.mark := by
  revert p
  decide

/-- No mark occurs in a tag. -/
theorem mark_not_mem_tag {p q : Pass} (hp : p ∈ passes) (hq : q ∈ passes) :
    p.mark ∉ '/' :: q.tag.toList := by
  revert q
  revert p
  decide

theorem stopsAtTags_of_mem_tail {p : Pass} (h : p ∈ passes.tail) : p.stopsAtTags = true := by
  revert p
  decide

/-- The passes after the first one work on each side of a tag by themselves. -/
theorem run_append_tag {name : List Char} (hname : ∀ p ∈ passes, p.mark ∉ name) (v : List Char) :
    ∀ {ps : List Pass}, ps.Sublist passes.tail → ∀ u : List Char,
      run ps (u ++ '<' :: (name ++ '>' :: v)) = run ps u ++ '<' :: (name ++ '>' :: run ps v) := by
  intro ps
  induction ps generalizing v with
  | nil => intro _ u; rfl
  | cons p ps ih =>
    intro hps u
    have htail : p ∈ passes.tail := hps.subset List.mem_cons_self
    have hp : p ∈ passes := List.mem_of_mem_tail htail
    obtain ⟨h₁, h₂⟩ := mark_ne_bracket hp
    rw [run_cons, p.apply_append_tag (width_pos hp) (stopsAtTags_of_mem_tail htail) h₁ h₂
      (hname p hp), ih _ (List.sublist_of_cons_sublist hps)]
    rfl

theorem run_append_span {ps : List Pass} (hps : ps.Sublist passes.tail) {p : Pass}
    (hp : p ∈ passes) (u content v : List Char) :
    run ps (u ++ p.opening ++ content ++ p.closing ++ v) =
      run ps u ++ p.opening ++ run ps content ++ p.closing ++ run ps v := by
  have hopen : ∀ q ∈ passes, q.mark ∉ p.tag.toList := fun q hq =>
    fun h => mark_not_mem_tag hq hp (List.mem_cons_of_mem '/' h)
  have hclose : ∀ q ∈ passes, q.mark ∉ '/' :: p.tag.toList := fun q hq => mark_not_mem_tag hq hp
  have h₁ := run_append_tag hopen (content ++ p.closing ++ v) hps u
  have h₂ := run_append_tag hclose v hps content
  simp only [Pass.opening, Pass.closing, List.append_assoc, List.cons_append, List.nil_append]
    at h₁ h₂ ⊢
  rw [h₁, h₂]

/-! ## The relation -/

/-- Whether a span of one pass may hold a span of another: the other one runs later, and looks
for the other mark. -/
def MayHold (outer inner : Pass) : Prop :=
  [outer, inner].Sublist passes ∧ outer.mark ≠ inner.mark

instance (outer inner : Pass) : Decidable (MayHold outer inner) :=
  inferInstanceAs (Decidable (_ ∧ _))

/-- Whether a text may stand in spans of some passes. -/
def Clear (outer : List Pass) (s : List Char) : Prop := ∀ q ∈ outer, ∀ c ∈ s, q.bars c = false

theorem clear_append {outer : List Pass} {s t : List Char} :
    Clear outer (s ++ t) ↔ Clear outer s ∧ Clear outer t := by
  constructor
  · intro h
    exact ⟨fun q hq c hc => h q hq c (List.mem_append_left t hc),
      fun q hq c hc => h q hq c (List.mem_append_right s hc)⟩
  · rintro ⟨hs, ht⟩ q hq c hc
    rcases List.mem_append.mp hc with hc | hc
    · exact hs q hq c hc
    · exact ht q hq c hc

/-- The second text is the first one, with tags in place of the delimiters of some spans. -/
inductive MarkedUp : List Pass → List Char → List Char → Prop
  | text {outer : List Pass} {s : List Char} : Escaped s → MarkedUp outer s s
  | span {outer : List Pass} {p : Pass} {s t : List Char} : p ∈ passes →
      (∀ q ∈ outer, MayHold q p) → (∀ c ∈ s, p.bars c = false) → MarkedUp (p :: outer) s t →
      MarkedUp outer (p.delimiter ++ s ++ p.delimiter) (p.opening ++ t ++ p.closing)
  | append {outer : List Pass} {s t s' t' : List Char} : MarkedUp outer s t →
      MarkedUp outer s' t' → MarkedUp outer (s ++ s') (t ++ t')

/-- The parts around a delimiter of an escaped text are escaped. -/
theorem escaped_of_append_delimiter {p : Pass} (hp : p ∈ passes) {a b : List Char}
    (h : Escaped (a ++ p.delimiter ++ b)) : Escaped a ∧ Escaped b :=
  h.cut_replicate (mark_not_mem_entities hp) (width_pos hp)

/-- If the passes after `p` mark up the text between the spans of `p` and the text in them,
they mark up what `p` makes of the whole. -/
theorem markedUp_of_cut {p : Pass} (hp : p ∈ passes) {ps : List Pass}
    (hps : ps.Sublist passes.tail) {outer : List Pass} (hholds : ∀ q ∈ outer, MayHold q p)
    (hout : ∀ {s}, Escaped s → Clear outer s → MarkedUp outer s (run ps s))
    (hin : ∀ {s}, Escaped s → Clear (p :: outer) s → MarkedUp (p :: outer) s (run ps s))
    {s t : List Char} (hcut : p.Cut s t) (hs : Escaped s) (hclear : Clear outer s) :
    MarkedUp outer s (run ps t) := by
  induction hcut with
  | text s => exact hout hs hclear
  | @span u content s t hcontent _ ih =>
    obtain ⟨hs, hrest⟩ := escaped_of_append_delimiter hp hs
    obtain ⟨hu, hmid⟩ := escaped_of_append_delimiter hp hs
    simp only [clear_append] at hclear
    obtain ⟨⟨⟨⟨hcu, -⟩, hcmid⟩, -⟩, hcrest⟩ := hclear
    have hcin : Clear (p :: outer) content := by
      intro q hq
      rcases List.mem_cons.mp hq with rfl | hq
      · exact hcontent
      · exact hcmid q hq
    have hspan := MarkedUp.span hp hholds hcontent (hin hmid hcin)
    rw [run_append_span hps hp]
    simpa only [List.append_assoc] using ((hout hu hcu).append hspan).append (ih hrest hcrest)

/-- **The passes mark up any escaped text**, also within spans of earlier passes. -/
theorem markedUp_run : ∀ {ps : List Pass}, ps.Sublist passes → ∀ {outer : List Pass},
    (∀ q ∈ outer, ∀ p ∈ ps, [q, p].Sublist passes) → ∀ {s : List Char}, Escaped s →
      Clear outer s → MarkedUp outer s (run ps s) := by
  intro ps
  induction ps with
  | nil => intro _ outer _ s hs _; exact .text hs
  | cons p ps ih =>
    intro hps outer hlater s hs hclear
    have hp : p ∈ passes := hps.subset List.mem_cons_self
    have hps' : ps.Sublist passes := List.sublist_of_cons_sublist hps
    have hlater' : ∀ q ∈ outer, ∀ r ∈ ps, [q, r].Sublist passes := fun q hq r hr =>
      hlater q hq r (List.mem_cons_of_mem p hr)
    rw [run_cons]
    by_cases hmark : ∃ q ∈ outer, q.mark = p.mark
    · -- The text stands in a span with the same mark, so that the mark does not occur in it.
      obtain ⟨q, hq, hqp⟩ := hmark
      have hnot : p.mark ∉ s := by
        rw [← hqp]
        exact q.mark_not_mem_of_bars (hclear q hq)
      rw [p.apply_of_not_mem (width_pos hp) hnot]
      exact ih hps' hlater' hs hclear
    · have hholds : ∀ q ∈ outer, MayHold q p := fun q hq =>
        ⟨hlater q hq p List.mem_cons_self, fun h => hmark ⟨q, hq, h⟩⟩
      have hinner : ∀ q ∈ p :: outer, ∀ r ∈ ps, [q, r].Sublist passes := by
        intro q hq r hr
        rcases List.mem_cons.mp hq with rfl | hq
        · exact ((List.singleton_sublist.mpr hr).cons_cons q).trans hps
        · exact hlater' q hq r hr
      exact markedUp_of_cut hp (List.Sublist.tail hps) hholds (ih hps' hlater') (ih hps' hinner)
        (p.cut_apply (width_pos hp) s) hs hclear

/-- **Formatting marks up the escaped text.** -/
theorem markedUp_formatChars (s : List Char) :
    MarkedUp [] (escapeChars s) (formatChars s) :=
  markedUp_run (List.Sublist.refl passes) (fun _ h => absurd h List.not_mem_nil)
    (escaped_escapeChars s) (fun _ h => absurd h List.not_mem_nil)

end Deck.Emphasis
