import Deck.Proofs.Emphasis.MarkedUp
import Deck.Proofs.Html.Markup

/-!
# How emphasis nests

Formatted text is well-nested markup over three tags.  `Nested` is a grammar of its own
for it, which names the elements around a text and says which tags may stand there: bold
text at top level only, underlined text also in bold text, and italic text in any of the
three, but never deeper than in one other element.  No element goes over a line break.

* `nested_of_markedUp`: marked-up text nests so.  Of the spans that a text stands in each
  one was made before the ones within it and with the other mark, and of three passes two
  have the same mark.
* `format_nested`: **formatted text nests so.**
* `markup_format`: it is markup without landmarks, which is what pages are made of.
-/

namespace Deck.Emphasis

open Html

/-! ## The grammar -/

/-- The tags that may stand within some elements, which are given from the inside out. -/
def tagsWithin : List String → List String
  | [] => ["strong", "u", "em"]
  | ["strong"] => ["u", "em"]
  | ["u"] => ["em"]
  | ["em"] => ["em"]
  | _ => []

/-- Text that stands within the elements `outer`, with elements in it. -/
inductive Nested : List String → List Char → Prop
  | text {outer : List String} {s : List Char} : '<' ∉ s → '>' ∉ s → Nested outer s
  | element {outer : List String} {tag : String} {s : List Char} : tag ∈ tagsWithin outer →
      '\r' ∉ s → '\n' ∉ s → Nested (tag :: outer) s →
      Nested outer (startTag tag [] ++ s ++ endTag tag)
  | append {outer : List String} {s t : List Char} : Nested outer s → Nested outer t →
      Nested outer (s ++ t)

/-! ## Spans within spans -/

/-- Of the spans around a text each one may hold the ones within it. -/
def Stacked (outer : List Pass) : Prop :=
  (∀ q ∈ outer, q ∈ passes) ∧ outer.Pairwise fun inner outer => MayHold outer inner

theorem stacked_cons {outer : List Pass} (h : Stacked outer) {p : Pass} (hp : p ∈ passes)
    (hholds : ∀ q ∈ outer, MayHold q p) : Stacked (p :: outer) := by
  refine ⟨?_, List.pairwise_cons.mpr ⟨hholds, h.2⟩⟩
  intro q hq
  rcases List.mem_cons.mp hq with rfl | hq
  · exact hp
  · exact h.1 q hq

/-- Which tags stacked spans leave room for. -/
theorem tag_mem_tagsWithin {outer : List Pass} (h : Stacked outer) {p : Pass} (hp : p ∈ passes)
    (hholds : ∀ q ∈ outer, MayHold q p) : p.tag ∈ tagsWithin (outer.map Pass.tag) := by
  match outer, h, hholds with
  | [], _, _ =>
    have hall : ∀ p ∈ passes, p.tag ∈ tagsWithin [] := by decide
    exact hall p hp
  | [q], ⟨hq, _⟩, hholds =>
    have hall : ∀ q ∈ passes, ∀ p ∈ passes, MayHold q p → p.tag ∈ tagsWithin [q.tag] := by decide
    exact hall q (hq q List.mem_cons_self) p hp (hholds q List.mem_cons_self)
  | q :: r :: outer, ⟨hmem, hpair⟩, hholds =>
    -- Three marks that differ from one another are one too many.
    have hnone : ∀ r ∈ passes, ∀ q ∈ passes, ∀ p ∈ passes, MayHold r q → MayHold q p →
        ¬ MayHold r p := by decide
    refine absurd (hholds r (by simp)) (hnone r (hmem r (by simp)) q (hmem q (by simp)) p hp ?_ ?_)
    · exact (List.pairwise_cons.mp hpair).1 r (by simp)
    · exact hholds q (by simp)

/-- Tags hold no line break. -/
theorem not_mem_tags {p : Pass} (hp : p ∈ passes) {c : Char} (hc : c = '\r' ∨ c = '\n') :
    c ∉ p.opening ∧ c ∉ p.closing := by
  revert p
  rcases hc with rfl | rfl <;> decide

theorem MarkedUp.not_mem {outer : List Pass} {s t : List Char} (h : MarkedUp outer s t) {c : Char}
    (hc : c = '\r' ∨ c = '\n') (hs : c ∉ s) : c ∉ t := by
  induction h with
  | text => exact hs
  | span hp _ _ _ ih =>
    obtain ⟨hopen, hclose⟩ := not_mem_tags hp hc
    simp only [List.mem_append, not_or] at hs ⊢
    exact ⟨⟨hopen, ih hs.1.2⟩, hclose⟩
  | append _ _ ih₁ ih₂ =>
    rw [List.mem_append, not_or] at hs ⊢
    exact ⟨ih₁ hs.1, ih₂ hs.2⟩

theorem ne_break_of_bars {p : Pass} {s : List Char} (h : ∀ c ∈ s, p.bars c = false) {c : Char}
    (hc : c = '\r' ∨ c = '\n') : c ∉ s := by
  intro hm
  have hbar := h c hm
  rcases hc with rfl | rfl <;> simp [Pass.bars] at hbar

/-- **Marked-up text nests** as the passes of the spans around it allow. -/
theorem nested_of_markedUp {outer : List Pass} {s t : List Char} (h : MarkedUp outer s t) :
    Stacked outer → Nested (outer.map Pass.tag) t := by
  induction h with
  | text hs =>
    intro _
    exact .text (hs.not_mem (Or.inl rfl)) (hs.not_mem (Or.inr (Or.inl rfl)))
  | span hp hholds hbars hinner ih =>
    intro hout
    have hbreak : ∀ {c}, c = '\r' ∨ c = '\n' → c ∉ _ := fun hc =>
      hinner.not_mem hc (ne_break_of_bars hbars hc)
    exact .element (tag_mem_tagsWithin hout hp hholds) (hbreak (Or.inl rfl)) (hbreak (Or.inr rfl))
      (ih (stacked_cons hout hp hholds))
  | append _ _ ih₁ ih₂ =>
    intro hout
    exact .append (ih₁ hout) (ih₂ hout)

/-- **Formatted text nests.** -/
theorem format_nested (s : String) : Nested [] (format s).toList := by
  have hstacked : Stacked [] := ⟨by simp, List.Pairwise.nil⟩
  rw [format, String.toList_ofList]
  exact nested_of_markedUp (markedUp_formatChars s.toList) hstacked

-- Each way of nesting that the grammar allows occurs.
example : format "**a __b__ _c_** __d *e*__ *f _g_*" =
    "<strong>a <u>b</u> <em>c</em></strong> <u>d <em>e</em></u> <em>f <em>g</em></em>" := by
  decide +kernel

/-! ## Formatted text in a page -/

theorem MarkedUp.markup {outer : List Pass} {s t : List Char} (h : MarkedUp outer s t) :
    Markup t [] := by
  induction h with
  | text hs => exact .text hs
  | @span outer p s t hp _ _ _ ih =>
    have hall : ∀ p ∈ passes, p.tag ∈ elementTags ∧ [p.tag].filter isLandmark = [] ∧
        p.tag ≠ "section" := by decide
    obtain ⟨htag, hstart, hsection⟩ := hall p hp
    have hspan := markup_element [] (Or.inl htag) hsection ih
    rw [hstart] at hspan
    exact hspan
  | append _ _ ih₁ ih₂ => exact ih₁.append ih₂

/-- Formatted text is markup without landmarks. -/
theorem markup_format (s : String) : Markup (format s).toList [] := by
  rw [format, String.toList_ofList]
  exact (markedUp_formatChars s.toList).markup

end Deck.Emphasis
