import Deck.Proofs.Fence.Grammar
import Deck.Proofs.Html.Markup
import Deck.Render.Code
import Deck.Render.Style

/-!
# The attributes of rendered tags

Author text gets into a tag by five ways: the style block, the locator and alternative
text of a media line, and the language, the lines and the first number of a code block.
Each of them ends up in an attribute with an escaped value.

* `isAttributes_of_style`: what a style block gives is a row of attributes, or nothing.
* `isDirective_of_mem_language`, `isDirective_of_mem_numbering`: so is each directive of
  a code block.  A language is made of letters, digits and hyphens, and a first number
  of digits, which is why neither has to be escaped.
-/

namespace Deck.Render

open Html Text

/-- Whether a text is a row of attributes, as it stands in a tag. -/
def IsAttributes (s : String) : Prop :=
  ∃ as : List Attribute, s.toList = as.flatMap Attribute.text

/-- Whether a text is an attribute, without the space in front of it. -/
def IsDirective (s : String) : Prop := ∃ a : Attribute, ' ' :: s.toList = a.text

theorem isAttributes_empty : IsAttributes "" := ⟨[], rfl⟩

/-- Directives with spaces between them, and one in front. -/
theorem exists_attributes_of_directives {ds : List String} (h : ∀ d ∈ ds, IsDirective d)
    (hne : ds ≠ []) : ∃ as : List Attribute,
      ' ' :: (" ".intercalate ds).toList = as.flatMap Attribute.text := by
  induction ds with
  | nil => exact absurd rfl hne
  | cons d ds ih =>
    obtain ⟨a, ha⟩ := h d List.mem_cons_self
    cases ds with
    | nil => exact ⟨[a], by simpa using ha⟩
    | cons e ds =>
      obtain ⟨as, has⟩ := ih (fun x hx => h x (List.mem_cons_of_mem d hx)) (by simp)
      refine ⟨a :: as, ?_⟩
      rw [List.flatMap_cons, ← ha, ← has, String.intercalate_cons_cons]
      simp

/-! ## Style -/

theorem isAttributes_styleText (declarations : List String) :
    IsAttributes (styleText declarations) :=
  ⟨[.quoted "style" (by decide) (escaped_escape ("; ".intercalate declarations))],
    by simp [styleText]⟩

/-- What a style block gives is a row of attributes. -/
theorem isAttributes_of_style {raw s : String} (h : (styleAttribute raw).outcome = .ok s) :
    IsAttributes s := by
  unfold styleAttribute at h
  split at h
  · obtain rfl : "" = s := Except.ok.inj h
    exact isAttributes_empty
  · obtain rfl : "" = s := Except.ok.inj h
    exact isAttributes_empty
  · rename_i p ps _
    obtain rfl : styleText (Style.declarations (p :: ps)) = s := Except.ok.inj h
    exact isAttributes_styleText _

/-! ## Language -/

theorem escaped_of_isLanguage {l : List Char} (h : Fence.IsLanguage l) : Escaped l := by
  have hchar : ∀ c, Fence.isLanguageChar c = true → isSpecial c = false := fun c hc =>
    isSpecial_eq_false (p := Fence.isLanguageChar) (by decide) hc
  obtain ⟨c, r, rfl, hc, hr⟩ := h
  refine .char (hchar c ?_) (escaped_of_forall fun x hx => hchar x ?_)
  · simp [Fence.isLanguageChar, Char.isAlphanum, hc]
  · simpa [Fence.isLanguageChar] using hr x hx

/-- The directive that names the language of a fenced block. -/
theorem isDirective_of_mem_language {raw : List Char} {b : Fence.Block}
    (h : Fence.read? raw = some b) : ∀ d ∈ languageDirectives b.language, IsDirective d := by
  intro d hd
  obtain ⟨l, hl, rfl⟩ := List.mem_map.mp hd
  have hlang : Fence.IsLanguage l :=
    (Fence.fenced_of_read? h).1.language l (Option.mem_toList.mp hl)
  have hl' : Escaped ("language-".toList ++ l) :=
    (escaped_of_isPlain (by decide)).append (escaped_of_isLanguage hlang)
  exact ⟨.quoted "class" (by decide) hl', by simp⟩

/-! ## Line numbers -/

theorem escaped_of_isNumeral {s : List Char} (h : isNumeral s = true) : Escaped s := by
  rw [isNumeral, Bool.and_eq_true] at h
  refine escaped_of_forall ?_
  intro c hc
  refine isSpecial_eq_false (p := isDigit) (by decide +kernel) ?_
  exact List.all_eq_true.mp h.2 c hc

/-- A first number that counts is a numeral. -/
theorem isNumeral_of_start {as : List Fence.Attribute} {n : List Char}
    (h : (Fence.LineNumbering.ofAttributes as).start = some n) : isNumeral n = true := by
  suffices ∀ m : Fence.LineNumbering, (∀ n, m.start = some n → isNumeral n = true) →
      ∀ n, (as.foldl (fun n a => n.add a.meaning) m).start = some n → isNumeral n = true by
    exact this Fence.LineNumbering.empty (by simp [Fence.LineNumbering.empty]) n h
  clear h
  induction as with
  | nil => intro m hm; exact hm
  | cons a as ih =>
    intro m hm
    rw [List.foldl_cons]
    refine ih _ fun n hn => ?_
    unfold Fence.Attribute.meaning at hn
    split at hn
    · exact hm n hn
    split at hn
    · split at hn
      · rename_i hnum
        obtain rfl := Option.some.inj hn
        exact hnum
      · exact hm n hn
    · exact hm n hn

/-- The directives about line numbers. -/
theorem isDirective_of_mem_numbering {n : Fence.LineNumbering}
    (hstart : ∀ s, n.start = some s → isNumeral s = true) :
    ∀ d ∈ numberingDirectives n, IsDirective d := by
  obtain ⟨lines, start⟩ := n
  have hbare : IsDirective "data-line-numbers" :=
    ⟨.bare "data-line-numbers" (by decide), by simp⟩
  intro d hd
  rcases List.mem_append.mp hd with hd | hd
  · cases lines with
    | some range =>
      rw [List.mem_singleton] at hd
      exact ⟨.quoted "data-line-numbers" (by decide) (escaped_escape (String.ofList range)),
        by simp [hd]⟩
    | none =>
      cases start with
      | some s => rw [List.mem_singleton.mp hd]; exact hbare
      | none => exact absurd hd List.not_mem_nil
  · cases start with
    | some s =>
      rw [List.mem_singleton] at hd
      exact ⟨.quoted "data-ln-start-from" (by decide) (escaped_of_isNumeral (hstart s rfl)),
        by simp [hd]⟩
    | none => exact absurd hd List.not_mem_nil

end Deck.Render
