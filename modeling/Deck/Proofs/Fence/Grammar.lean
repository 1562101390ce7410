import Deck.Fence.Block

/-!
# The grammar of fenced blocks

A fenced block is written as three backticks, a language, attributes in brackets, the end of
the line, its body, and three backticks again.  Language and attributes may be missing, blanks
may stand around the whole, and spaces and tabs behind the language and the attributes.

`Block.text` writes a block with given spacing, and `Fenced` says that a text is such a
written form.  Neither looks at how a block is read.

* `read?_text`: a block is read from its written form, whatever the spacing.
* `fenced_of_read?`: only written forms are read.
* `read?_eq_some_iff`: **reading takes exactly the written forms apart**, so that a text is
  the written form of one block at most (`Fenced.unique`).
* `withoutFinalBreak_code`: the code of a block is its body without one line break at its end.
-/

namespace Deck.Fence

open Text

/-! ## Written forms -/

/-- What stands around the parts of a block. -/
structure Spacing where
  before : List Char
  afterLanguage : List Char
  afterAttributes : List Char
  lineEnd : List Char
  after : List Char
  before_blank : ∀ c ∈ before, isBlank c = true
  afterLanguage_inline : ∀ c ∈ afterLanguage, c = ' ' ∨ c = '\t'
  afterAttributes_inline : ∀ c ∈ afterAttributes, c = ' ' ∨ c = '\t'
  lineEnd_eq : lineEnd = ['\n'] ∨ lineEnd = ['\r', '\n']
  after_blank : ∀ c ∈ after, isBlank c = true

/-- A language is a letter, with letters, digits and hyphens behind it. -/
def IsLanguage (l : List Char) : Prop :=
  ∃ c r, l = c :: r ∧ c.isAlpha = true ∧ ∀ x ∈ r, x.isAlphanum = true ∨ x = '-'

/-- Attributes stay on their line and hold no closing bracket. -/
def AreAttributes (a : List Char) : Prop := ∀ c ∈ a, c ≠ ']' ∧ c ≠ '\r' ∧ c ≠ '\n'

/-- The parts of a block that can be written.  Its body may be any text. -/
structure Block.Valid (b : Block) : Prop where
  language : ∀ l, b.language = some l → IsLanguage l
  attributes : ∀ a, b.attributes = some a → AreAttributes a

def fence : List Char := ['`', '`', '`']

/-- Attributes in their brackets. -/
def bracketed : Option (List Char) → List Char
  | none => []
  | some a => '[' :: (a ++ [']'])

/-- A block as it is written. -/
def Block.text (b : Block) (g : Spacing) : List Char :=
  g.before ++ fence ++ b.language.getD [] ++ g.afterLanguage ++ bracketed b.attributes
    ++ g.afterAttributes ++ g.lineEnd ++ b.body ++ fence ++ g.after

/-- The text is the written form of the block. -/
def Fenced (raw : List Char) (b : Block) : Prop := b.Valid ∧ ∃ g : Spacing, raw = b.text g

/-! ## Fences -/

theorem afterFence?_eq_some_iff {s r : List Char} : afterFence? s = some r ↔ s = fence ++ r := by
  unfold afterFence?
  split
  · simp [fence]
  · rename_i h
    constructor
    · intro he
      exact absurd he (by simp)
    · intro he
      exact absurd he (h r)

/-- Blanks and a fence at the start of a text. -/
theorem afterFence?_trimStart_iff {s r : List Char} : afterFence? (trimStart s) = some r ↔
    ∃ w, (∀ c ∈ w, isBlank c = true) ∧ s = w ++ fence ++ r := by
  rw [afterFence?_eq_some_iff, trimStart]
  constructor
  · intro h
    refine ⟨s.takeWhile isBlank, forall_mem_takeWhile isBlank s, ?_⟩
    rw [List.append_assoc, ← h, List.takeWhile_append_dropWhile]
  · rintro ⟨w, hw, rfl⟩
    rw [List.append_assoc]
    refine dropWhile_append_of_all hw ?_
    rintro c ⟨⟩
    decide

/-- A fence and blanks at the end of a text. -/
theorem beforeFence?_trimEnd_iff {s body : List Char} : beforeFence? (trimEnd s) = some body ↔
    ∃ w, (∀ c ∈ w, isBlank c = true) ∧ s = body ++ fence ++ w := by
  have hfence : ∀ t, beforeFence? t = some body ↔ t = body ++ fence := by
    intro t
    rw [beforeFence?, Option.map_eq_some_iff]
    constructor
    · rintro ⟨r, hr, rfl⟩
      rw [← List.reverse_reverse t, afterFence?_eq_some_iff.mp hr, List.reverse_append]
      rfl
    · rintro rfl
      refine ⟨body.reverse, afterFence?_eq_some_iff.mpr ?_, List.reverse_reverse body⟩
      rw [List.reverse_append]
      rfl
  rw [hfence]
  constructor
  · intro h
    obtain ⟨w, hs, hw⟩ := exists_trimEnd_append s
    exact ⟨w, hw, h ▸ hs⟩
  · rintro ⟨w, hw, rfl⟩
    have hlast : body ++ fence ++ w = (body ++ ['`', '`']) ++ '`' :: w := by simp [fence]
    rw [hlast, trimEnd_append (by decide) _ hw]
    simp [fence]

/-! ## The opening line -/

theorem language_append {lang : Option (List Char)} (hlang : ∀ l, lang = some l → IsLanguage l)
    {t : List Char} (ht : ∀ c, t.head? = some c → isLanguageChar c = false) :
    language (lang.getD [] ++ t) = (lang, t) := by
  cases lang with
  | none =>
    cases t with
    | nil => rfl
    | cons c r =>
      have hc : c.isAlpha = false := by
        have := ht c rfl
        simp only [isLanguageChar, Char.isAlphanum, Bool.or_eq_false_iff] at this
        exact this.1.1
      simp [language, hc]
  | some l =>
    obtain ⟨c, r, rfl, hc, hr⟩ := hlang l rfl
    have hall : ∀ x ∈ r, isLanguageChar x = true := by
      intro x hx
      simpa [isLanguageChar] using hr x hx
    simp only [Option.getD_some, List.cons_append, language, if_pos hc]
    rw [takeWhile_append_of_all hall ht, dropWhile_append_of_all hall ht]

theorem language_spec (s : List Char) :
    s = (language s).1.getD [] ++ (language s).2 ∧ ∀ l, (language s).1 = some l → IsLanguage l := by
  unfold language
  split
  · rename_i c r
    split
    · rename_i hc
      refine ⟨by simp, ?_⟩
      rintro l ⟨⟩
      refine ⟨c, _, rfl, hc, fun x hx => ?_⟩
      simpa [isLanguageChar] using forall_mem_takeWhile isLanguageChar r x hx
    · simp
  · simp

theorem attributes?_eq_some {s t : List Char} {attrs : Option (List Char)}
    (h : attributes? s = some (attrs, t)) :
    s = bracketed attrs ++ t ∧ ∀ a, attrs = some a → AreAttributes a := by
  unfold attributes? at h
  split at h
  · rename_i r
    split at h
    · rename_i u hu
      simp only [Option.some.injEq, Prod.mk.injEq] at h
      obtain ⟨rfl, rfl⟩ := h
      constructor
      · have hsplit := List.takeWhile_append_dropWhile (p := isAttributeChar) (l := r)
        rw [hu] at hsplit
        simp [bracketed, hsplit]
      · rintro a ⟨⟩ c hc
        simpa [isAttributeChar, and_assoc] using forall_mem_takeWhile isAttributeChar r c hc
    · exact absurd h (by simp)
  · simp only [Option.some.injEq, Prod.mk.injEq] at h
    obtain ⟨rfl, rfl⟩ := h
    simp [bracketed]

/-- The attributes of an opening line, with spaces and tabs around them. -/
theorem attributes?_spaced {attrs : Option (List Char)}
    (hattrs : ∀ a, attrs = some a → AreAttributes a) {u v t : List Char}
    (hu : ∀ c ∈ u, isInlineBlank c = true) (hv : ∀ c ∈ v, isInlineBlank c = true)
    (ht : ∀ c, t.head? = some c → c = '\r' ∨ c = '\n') : ∃ r,
      attributes? ((u ++ (bracketed attrs ++ (v ++ t))).dropWhile isInlineBlank) = some (attrs, r) ∧
        r.dropWhile isInlineBlank = t := by
  have hstop : ∀ c, t.head? = some c → isInlineBlank c = false := by
    intro c hc
    rcases ht c hc with rfl | rfl <;> rfl
  cases attrs with
  | none =>
    have huv : ∀ c ∈ u ++ v, isInlineBlank c = true := by
      simpa [or_imp, forall_and] using And.intro hu hv
    refine ⟨t, ?_, by simpa using dropWhile_append_of_all (s := []) (by simp) hstop⟩
    rw [bracketed, List.nil_append, ← List.append_assoc, dropWhile_append_of_all huv hstop]
    unfold attributes?
    split
    · rename_i r
      exact absurd (ht '[' rfl) (by decide)
    · rfl
  | some a =>
    have hall : ∀ c ∈ a, isAttributeChar c = true := by
      intro c hc
      simpa [isAttributeChar, and_assoc] using hattrs a rfl c hc
    refine ⟨v ++ t, ?_, dropWhile_append_of_all hv hstop⟩
    have hopen : bracketed (some a) ++ (v ++ t) = '[' :: (a ++ ']' :: (v ++ t)) := by
      simp [bracketed]
    have hclose : ∀ c, (']' :: (v ++ t)).head? = some c → isAttributeChar c = false := by
      rintro c ⟨⟩
      rfl
    rw [hopen, dropWhile_append_of_all hu (by rintro c ⟨⟩; rfl)]
    simp only [attributes?, dropWhile_append_of_all hall hclose,
      takeWhile_append_of_all hall hclose]

theorem afterBreak?_eq_some_iff {s r : List Char} : afterBreak? s = some r ↔
    ∃ e, (e = ['\n'] ∨ e = ['\r', '\n']) ∧ s = e ++ r := by
  unfold afterBreak?
  split <;> simp_all

/-! ## Reading -/

theorem Spacing.head_lineEnd (g : Spacing) (t : List Char) :
    ∀ c, (g.lineEnd ++ t).head? = some c → c = '\r' ∨ c = '\n' := by
  intro c hc
  rcases g.lineEnd_eq with he | he
  · rw [he] at hc
    exact Or.inr (Option.some.inj hc).symm
  · rw [he] at hc
    exact Or.inl (Option.some.inj hc).symm

/-- What follows the language in an opening line ends it. -/
theorem Spacing.head_afterLanguage (g : Spacing) (attrs : Option (List Char)) (t : List Char) :
    ∀ c, (g.afterLanguage ++ (bracketed attrs ++ (g.afterAttributes ++ (g.lineEnd ++ t)))).head?
      = some c → isLanguageChar c = false := by
  have hinline : ∀ {c}, c = ' ' ∨ c = '\t' → isLanguageChar c = false := by
    rintro c (rfl | rfl) <;> rfl
  have hend : ∀ c, (g.lineEnd ++ t).head? = some c → isLanguageChar c = false := by
    intro c hc
    rcases g.head_lineEnd t c hc with rfl | rfl <;> rfl
  have hattrs : ∀ c, (bracketed attrs ++ (g.afterAttributes ++ (g.lineEnd ++ t))).head? = some c →
      isLanguageChar c = false := by
    cases attrs with
    | none =>
      rw [bracketed, List.nil_append]
      exact head?_append_of_forall (fun c hc => hinline (g.afterAttributes_inline c hc)) hend
    | some a =>
      rintro c ⟨⟩
      rfl
  exact head?_append_of_forall (fun c hc => hinline (g.afterLanguage_inline c hc)) hattrs

/-- **A block is read from its written form.** -/
theorem read?_text {b : Block} (hb : b.Valid) (g : Spacing) : read? (b.text g) = some b := by
  have hinline : ∀ {u : List Char}, (∀ c ∈ u, c = ' ' ∨ c = '\t') →
      ∀ c ∈ u, isInlineBlank c = true := by
    intro u hu c hc
    simpa [isInlineBlank] using hu c hc
  have hfence : afterFence? (trimStart (b.text g)) = some (b.language.getD [] ++ (g.afterLanguage ++
      (bracketed b.attributes ++ (g.afterAttributes ++ (g.lineEnd ++
        (b.body ++ fence ++ g.after)))))) :=
    afterFence?_trimStart_iff.mpr ⟨g.before, g.before_blank, by simp [Block.text]⟩
  obtain ⟨r, hattrs, hr⟩ := attributes?_spaced hb.attributes (hinline g.afterLanguage_inline)
    (hinline g.afterAttributes_inline) (g.head_lineEnd (b.body ++ fence ++ g.after))
  have hbreak : afterBreak? (g.lineEnd ++ (b.body ++ fence ++ g.after)) =
      some (b.body ++ fence ++ g.after) :=
    afterBreak?_eq_some_iff.mpr ⟨g.lineEnd, g.lineEnd_eq, rfl⟩
  have hbody : beforeFence? (trimEnd (b.body ++ fence ++ g.after)) = some b.body :=
    beforeFence?_trimEnd_iff.mpr ⟨g.after, g.after_blank, rfl⟩
  unfold read?
  simp only [hfence, language_append hb.language (g.head_afterLanguage _ _), hattrs, hr, hbreak,
    hbody, Option.map_some]

/-- **Only written forms are read.** -/
theorem fenced_of_read? {raw : List Char} {b : Block} (h : read? raw = some b) : Fenced raw b := by
  unfold read? at h
  split at h
  · exact absurd h (by simp)
  rename_i s hfence
  dsimp only at h
  split at h
  · exact absurd h (by simp)
  rename_i attrs t hattrs
  split at h
  · exact absurd h (by simp)
  rename_i u hbreak
  obtain ⟨body, hbody, rfl⟩ := Option.map_eq_some_iff.mp h
  obtain ⟨before, hbefore, rfl⟩ := afterFence?_trimStart_iff.mp hfence
  obtain ⟨hs, hlang⟩ := language_spec s
  obtain ⟨hattrs, hvalid⟩ := attributes?_eq_some hattrs
  obtain ⟨lineEnd, hlineEnd, hbreak⟩ := afterBreak?_eq_some_iff.mp hbreak
  obtain ⟨after, hafter, rfl⟩ := beforeFence?_trimEnd_iff.mp hbody
  have hinline : ∀ v : List Char, ∀ c ∈ v.takeWhile isInlineBlank, c = ' ' ∨ c = '\t' := by
    intro v c hc
    simpa [isInlineBlank] using forall_mem_takeWhile isInlineBlank v c hc
  refine ⟨⟨hlang, hvalid⟩, ⟨before, (language s).2.takeWhile isInlineBlank,
    t.takeWhile isInlineBlank, lineEnd, after, hbefore, hinline _, hinline _, hlineEnd, hafter⟩, ?_⟩
  have hgap : (language s).2 =
      (language s).2.takeWhile isInlineBlank ++ (bracketed attrs ++ t) := by
    rw [← hattrs, List.takeWhile_append_dropWhile]
  have hline : t = t.takeWhile isInlineBlank ++ (lineEnd ++ (body ++ fence ++ after)) := by
    rw [← hbreak, List.takeWhile_append_dropWhile]
  calc before ++ fence ++ s
      = before ++ fence ++ ((language s).1.getD [] ++ ((language s).2.takeWhile isInlineBlank ++
          (bracketed attrs ++ (t.takeWhile isInlineBlank ++
            (lineEnd ++ (body ++ fence ++ after)))))) := by rw [← hline, ← hgap, ← hs]
    _ = _ := by simp [Block.text]

/-- **Reading takes exactly the written forms apart.** -/
theorem read?_eq_some_iff {raw : List Char} {b : Block} : read? raw = some b ↔ Fenced raw b := by
  constructor
  · exact fenced_of_read?
  · rintro ⟨hb, g, rfl⟩
    exact read?_text hb g

/-- A text is the written form of one block at most. -/
theorem Fenced.unique {raw : List Char} {b b' : Block} (h : Fenced raw b) (h' : Fenced raw b') :
    b = b' := by
  rw [← read?_eq_some_iff] at h h'
  exact Option.some.inj (h.symm.trans h')

/-! ## The code of a block -/

/-- The second text is the first one without the line break at its end, if there is one. -/
inductive WithoutFinalBreak : List Char → List Char → Prop
  | crlf (t : List Char) : WithoutFinalBreak (t ++ ['\r', '\n']) t
  | lf {t : List Char} : t.getLast? ≠ some '\r' → WithoutFinalBreak (t ++ ['\n']) t
  | kept {t : List Char} : t.getLast? ≠ some '\n' → WithoutFinalBreak t t

/-- **The code of a block** is its body without one line break at its end. -/
theorem withoutFinalBreak_code (b : Block) : WithoutFinalBreak b.body b.code := by
  unfold Block.code dropFinalBreak
  split
  · rename_i hlf
    obtain ⟨t, ht⟩ := List.getLast?_eq_some_iff.mp hlf
    simp only [ht, List.dropLast_concat]
    split
    · rename_i hcr
      obtain ⟨u, rfl⟩ := List.getLast?_eq_some_iff.mp hcr
      rw [List.dropLast_concat, List.append_assoc]
      exact .crlf u
    · rename_i hcr
      exact .lf hcr
  · rename_i hlf
    exact .kept hlf

end Deck.Fence
