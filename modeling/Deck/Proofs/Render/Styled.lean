import Deck.Proofs.Html.Markup
import Deck.Proofs.Render.Code
import Deck.Proofs.Render.Outline

/-!
# Where the style of a line goes

The style attribute of a line stands at one place: at the end of the first tag, which is the
tag of the element itself.  What else an element is rendered as does not hang on the style,
and neither does whether it is rendered at all.

* `StyleSlot`: a text with a place for the style in its first tag.
* `styleSlot_listMarkup`, `styleSlot_picture`, `styleSlot_video`, `styleSlot_codeMarkup`: the
  forms of markup.
* `styledOutcome`: what an element comes out as, with the style where it has a place.
* `line_styled_outcome`: **a line with a style block is the line without it, with the attribute
  before the first closing bracket.**
-/

namespace Deck.Render

open Html Text

/-! ## Texts with a place for the style -/

/-- The text hangs on the style in one place: it starts with the tag `tag`, and the style stands
right before the bracket that closes this tag. -/
def StyleSlot (tag : String) (text : String → String) : Prop :=
  ∃ attributes rest : String, '<' ∉ attributes.toList ∧
    '>' ∉ (lineIndent ++ "<" ++ tag ++ attributes).toList ∧
    ∀ style, text style = lineIndent ++ "<" ++ tag ++ attributes ++ style ++ ">" ++ rest

theorem not_mem_of_isTag {tag : String} (h : IsElementTag tag ∨ tag ∈ voidTags) :
    '>' ∉ tag.toList := by
  intro hm
  exact absurd (isNameChar_of_mem h '>' hm) (by decide)

/-- The bracket that closes the first tag is the first one of its kind. -/
theorem not_mem_opening {tag attributes : String} (htag : IsElementTag tag ∨ tag ∈ voidTags)
    (h : '>' ∉ attributes.toList) : '>' ∉ (lineIndent ++ "<" ++ tag ++ attributes).toList := by
  have hindent : '>' ∉ lineIndent.toList := by decide
  simp [hindent, not_mem_of_isTag htag, h]

/-- A first tag without attributes of its own. -/
theorem styleSlot_of_bare {tag : String} (htag : IsElementTag tag) {text : String → String}
    (rest : String) (h : ∀ style, text style = lineIndent ++ "<" ++ tag ++ style ++ ">" ++ rest) :
    StyleSlot tag text := by
  refine ⟨"", rest, by decide, not_mem_opening (Or.inl htag) (by decide), fun style => ?_⟩
  rw [h, String.append_empty]

theorem styleSlot_tagged {tag : String} (htag : IsElementTag tag) (content : String) :
    StyleSlot tag fun style => lineIndent ++ tagged tag style content := by
  refine styleSlot_of_bare htag (content ++ "</" ++ tag ++ ">") fun style => ?_
  simp only [tagged, String.append_assoc]

/-- The items of a list stand behind its first tag. -/
theorem styleSlot_listMarkup (kind : ListKind) (items : List String) :
    StyleSlot (listTag kind) fun style => listMarkup (listTag kind) style items := by
  have htag : IsElementTag (listTag kind) := by cases kind <;> exact Or.inl (by decide)
  have hne : items.map (fun s => innerIndent ++ tagged "li" "" s) ++
      [lineIndent ++ "</" ++ listTag kind ++ ">"] ≠ [] := by simp
  refine styleSlot_of_bare htag ("\n" ++ "\n".intercalate
    (items.map (fun s => innerIndent ++ tagged "li" "" s) ++
      [lineIndent ++ "</" ++ listTag kind ++ ">"])) fun style => ?_
  rw [listMarkup, List.cons_append, String.intercalate_cons_of_ne_nil hne]
  simp only [String.append_assoc]

/-- The attributes of a picture stand before its style.  As their values are escaped, none of
them closes the tag. -/
theorem styleSlot_picture {ext : List Char} (hext : Media.isVideoExtension ext = false)
    (url alt : String) : StyleSlot "img" fun style => mediaMarkup style ext url alt := by
  have hurl := fun {c : Char} => (escaped_escape url).not_mem (x := c)
  have halt := fun {c : Char} => (escaped_escape alt).not_mem (x := c)
  refine ⟨" src=\"" ++ escape url ++ "\" alt=\"" ++ escape alt ++ "\"", "", ?_,
    not_mem_opening (Or.inr (by decide)) ?_, fun style => ?_⟩
  · simp [hurl, halt]
  · simp [hurl, halt]
  · apply String.toList_inj.mp
    simp [mediaMarkup, hext]

/-- The source of a video stands behind its first tag. -/
theorem styleSlot_video {ext : List Char} (hext : Media.isVideoExtension ext = true)
    (url alt : String) : StyleSlot "video" fun style => mediaMarkup style ext url alt := by
  refine ⟨" controls", "\n" ++ innerIndent ++ "<source src=\"" ++ escape url ++
    "\" type=\"video/" ++ Media.videoFormat ext ++ "\">\n" ++ innerIndent ++ escape alt ++
    "\n" ++ lineIndent ++ "</video>", by decide,
    not_mem_opening (Or.inl (Or.inl (by decide))) (by decide), fun style => ?_⟩
  apply String.toList_inj.mp
  simp [mediaMarkup, hext]

/-- The element that holds the code stands behind the first tag. -/
theorem styleSlot_codeMarkup (directives : List String) (code : List Char) :
    StyleSlot "pre" fun style => lineIndent ++ codeMarkup style directives code := by
  refine styleSlot_of_bare (Or.inl (by decide)) ("<code " ++
    " ".intercalate ("data-trim" :: "data-noescape" :: directives) ++ ">" ++
    escape (String.ofList code) ++ "</code></pre>") fun style => ?_
  apply String.toList_inj.mp
  simp [codeMarkup]

/-! ## Elements -/

/-- The tags that stand within an element and never carry its style. -/
def innerTags : List String := ["li", "source", "code"]

/-- What an element comes out as, for every style at once. -/
inductive StyledOutcome (e : Element String) : Prop
  /-- It fails, whatever the style is. -/
  | fault (fault : Fault) : (∀ style, (element style e).outcome = .error fault) → StyledOutcome e
  /-- It is dropped, whatever the style is. -/
  | dropped : (∀ style, (element style e).outcome = .ok "") → StyledOutcome e
  /-- Its own tag has a place for the style. -/
  | slot {t : String} {f : String → String} : (elementOutline e).head? = some t → t ∉ innerTags →
      StyleSlot t f → (∀ style, (element style e).outcome = .ok (f style)) → StyledOutcome e

theorem styledOutcome_of_mediaExtension {source : MediaSource String} {url : String} (alt : String)
    (houtline : mediaOutline source = locatorOutline url)
    (h : ∀ style, (mediaElement style source).outcome =
      (mediaExtension url).map fun ext => mediaMarkup style ext url alt) :
    StyledOutcome (.media source) := by
  cases hext : mediaExtension url with
  | error e =>
    refine .fault e fun style => (h style).trans ?_
    rw [hext]
    rfl
  | ok ext =>
    have htext : ∀ style, (element style (.media source)).outcome =
        .ok (mediaMarkup style ext url alt) := by
      intro style
      refine (h style).trans ?_
      rw [hext]
      rfl
    have hhead : (elementOutline (.media source)).head? =
        some (if Media.isVideoExtension ext then "video" else "img") := by
      rw [elementOutline, houtline, locatorOutline, mediaExtension_eq_ok_iff.mp hext]
      rfl
    by_cases hvideo : Media.isVideoExtension ext = true
    · rw [if_pos hvideo] at hhead
      exact .slot hhead (by decide) (styleSlot_video hvideo url alt) htext
    · rw [if_neg hvideo] at hhead
      exact .slot hhead (by decide) (styleSlot_picture (by simpa using hvideo) url alt) htext

/-- A locator, or a reference with a locator that is accepted as it stands. -/
theorem styledOutcome_media (source : MediaSource String) : StyledOutcome (.media source) := by
  cases source with
  | located url alt =>
    obtain ⟨text, htext⟩ := located_outcome url alt
    have houtline : mediaOutline (.located url alt) = locatorOutline (trimmed url) := rfl
    exact styledOutcome_of_mediaExtension text houtline htext
  | written content =>
    cases hf : Media.Reference.find? (content.getD "").toList with
    | none => exact .dropped (written_outcome_of_none hf)
    | some f =>
      have houtline : mediaOutline (.written content) =
          locatorOutline (trimmed (String.ofList f.url)) := by
        rw [mediaOutline, hf]
      have hwritten := written_outcome_of_some hf
      cases hraw : mediaExtension (String.ofList f.url) with
      | error e =>
        refine .fault e fun style => (hwritten style).trans ?_
        rw [hraw]
        rfl
      | ok ext =>
        refine styledOutcome_of_mediaExtension (String.ofList f.alt) houtline
          fun style => (hwritten style).trans ?_
        rw [hraw, Except.bind]

theorem styledOutcome_code (content : String) : StyledOutcome (.code content) := by
  have houtcome : ∀ style, (element style (.code content)).outcome =
      (codeBlock style content).outcome.map fun markup =>
        if markup = "" then "" else lineIndent ++ markup :=
    fun style => element_code_outcome style content
  cases hread : Fence.read? content.toList with
  | none =>
    refine .dropped fun style => (houtcome style).trans ?_
    rw [codeBlock_outcome, hread]
    rfl
  | some b =>
    have hhead : (elementOutline (.code content)).head? = some "pre" := by
      rw [elementOutline, hread]
      rfl
    refine .slot hhead (by decide) (styleSlot_codeMarkup (languageDirectives b.language ++
      numberingDirectives (.ofAttributes (Fence.scan (b.attributes.getD [])))) b.code)
      fun style => (houtcome style).trans ?_
    rw [codeBlock_outcome, hread, Except.map, if_neg (codeMarkup_ne_empty _ _ _)]

/-- No heading has the tag of something that stands within an element. -/
theorem headingTag_not_mem_innerTags (marker : String) : headingTag marker ∉ innerTags := by
  have hall : ∀ t ∈ innerTags, t.toList.head? ≠ some 'h' := by decide
  intro h
  refine hall _ h ?_
  rw [headingTag, String.toList_append]
  rfl

theorem styledOutcome (e : Element String) : StyledOutcome e := by
  cases e with
  | heading level text =>
    exact .slot rfl (headingTag_not_mem_innerTags level)
      (styleSlot_tagged (Or.inr ⟨_, rfl⟩) (Emphasis.format text)) fun style => rfl
  | paragraph text =>
    exact .slot rfl (by decide) (styleSlot_tagged (Or.inl (by decide)) (Emphasis.format text))
      fun style => rfl
  | quote text =>
    exact .slot rfl (by decide) (styleSlot_tagged (Or.inl (by decide)) (Emphasis.format text))
      fun style => rfl
  | list kind items =>
    refine .slot (t := listTag kind) ?_ ?_ (styleSlot_listMarkup kind _)
      fun style => element_list_outcome style kind items
    · cases kind <;> rfl
    · cases kind <;> decide
  | media source => exact styledOutcome_media source
  | code content => exact styledOutcome_code content

/-! ## Lines -/

/-- A style block that is ignored or declares nothing gives no attribute. -/
theorem styleAttribute_of_nothing {raw : String}
    (h : ∀ p ps, Style.read raw.toList ≠ .ok (p :: ps)) :
    (styleAttribute raw).outcome = .ok "" := by
  unfold styleAttribute
  split
  · rfl
  · rfl
  · rename_i p ps hread
    exact absurd hread (h p ps)

/-- **The style goes to one place.**  The style block of a line gives an attribute.  The line
fails or is dropped as it would be without the block; else the attribute is put before the first
closing bracket, which ends the tag of the element itself, and the rest is the same.  A block
that is ignored or declares nothing changes nothing. -/
theorem line_styled_outcome (e : Element String) (style : Option String) :
    ∃ added, (lineStyle style).outcome = .ok added ∧
      (∀ fault, (line (.plain e)).outcome = .error fault →
        (line (.styled (.plain e) style)).outcome = .error fault) ∧
      ((line (.plain e)).outcome = .ok "" → (line (.styled (.plain e) style)).outcome = .ok "") ∧
      (∀ bare, (line (.plain e)).outcome = .ok bare → bare ≠ "" →
        ∃ tag attributes rest, (elementOutline e).head? = some tag ∧ tag ∉ innerTags ∧
          '<' ∉ attributes.toList ∧ '>' ∉ (lineIndent ++ "<" ++ tag ++ attributes).toList ∧
          bare = lineIndent ++ "<" ++ tag ++ attributes ++ ">" ++ rest ∧
          (line (.styled (.plain e) style)).outcome =
            .ok (lineIndent ++ "<" ++ tag ++ attributes ++ added ++ ">" ++ rest)) ∧
      ((∀ p ps, Style.read (style.getD "").toList ≠ .ok (p :: ps)) →
        (line (.styled (.plain e) style)).outcome = (line (.plain e)).outcome) := by
  obtain ⟨added, hadded⟩ := exists_styleAttribute (style.getD "")
  have hstyle : (lineStyle style).outcome = .ok added := by
    rw [lineStyle_outcome, hadded]
  have hplain : (line (.plain e)).outcome = (element "" e).outcome := rfl
  have hstyled : (line (.styled (.plain e) style)).outcome = (element added e).outcome := by
    show ((lineStyle style).bind fun s => element s e).outcome = _
    rw [Report.bind_outcome, hstyle]
    rfl
  have hnothing : (∀ p ps, Style.read (style.getD "").toList ≠ .ok (p :: ps)) →
      added = "" := by
    intro h
    rw [styleAttribute_of_nothing h] at hadded
    exact (Except.ok.inj hadded).symm
  refine ⟨added, hstyle, ?_⟩
  rw [hplain, hstyled]
  have hsame : (∀ p ps, Style.read (style.getD "").toList ≠ .ok (p :: ps)) →
      (element added e).outcome = (element "" e).outcome := fun h => by rw [hnothing h]
  cases styledOutcome e with
  | fault fault h =>
    rw [h, h] at hsame ⊢
    exact ⟨fun f hf => hf, fun hempty => (nomatch hempty), fun bare hbare => (nomatch hbare), hsame⟩
  | dropped h =>
    rw [h, h] at hsame ⊢
    refine ⟨fun f hf => hf, fun hempty => hempty, fun bare hbare hne => ?_, hsame⟩
    exact absurd (Except.ok.inj hbare).symm hne
  | @slot tag text hhead htag hslot h =>
    rw [h, h] at hsame ⊢
    obtain ⟨attributes, rest, hopen, hclose, htext⟩ := hslot
    refine ⟨fun f hf => (nomatch hf), fun hempty => ?_, fun bare hbare hne => ?_, hsame⟩
    · -- What has a place for the style is not empty.
      rw [htext, Except.ok.injEq] at hempty
      exact absurd (congrArg String.toList hempty) (by simp)
    · refine ⟨tag, attributes, rest, hhead, htag, hopen, hclose, ?_, ?_⟩
      · rw [← Except.ok.inj hbare, htext, String.append_empty]
      · rw [htext]

end Deck.Render
