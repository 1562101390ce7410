import Deck.Proofs.Report
import Deck.Render.Presentation

/-!
# Decks of strings

In a deck that someone has written every field holds a string, and reading a field never
fails.  What remains to be decided, when a line is rendered, is what the locators of its
media elements are good for.

* `element_list_outcome`, `element_code_outcome`, `lineStyle_outcome`: lists, code blocks
  and style blocks always come out.
* `located_outcome`, `written_outcome_of_none`, `written_outcome_of_some`: a media element
  comes out when its locators are accepted.
-/

namespace Deck.Render

open Text

/-! ## Fields -/

/-- An optional string that is read with the empty text as default. -/
theorem givenOr_empty (use : Use) (a : Option String) :
    Field.givenOr use "" a = .ok (a.getD "") := by
  cases a with
  | none => rfl
  | some s =>
    rw [Field.givenOr, Option.getD_some]
    split
    · rfl
    · rename_i h
      have hs : s = "" := by simpa [Field.isGiven] using h
      rw [hs]

theorem exists_givenOr (use : Use) (default : String) (a : Option String) :
    ∃ s, Field.givenOr use default a = .ok s := by
  cases a with
  | none => exact ⟨default, rfl⟩
  | some s =>
    rw [Field.givenOr]
    split
    · exact ⟨s, rfl⟩
    · exact ⟨default, rfl⟩

/-- A string that is not empty is read as it is. -/
theorem givenOr_of_ne_empty (use : Use) (default : String) {s : String} (hs : s ≠ "") :
    Field.givenOr use default (some s) = .ok s := by
  have hgiven : Field.isGiven s = true := bne_iff_ne.mpr hs
  rw [Field.givenOr, if_pos hgiven]
  rfl

theorem mapM_formatted (items : List String) :
    items.mapM (formatted (α := String)) = .ok (items.map Emphasis.format) := by
  induction items with
  | nil => rfl
  | cons s items ih =>
    rw [List.mapM_cons, ih]
    rfl

/-! ## Elements that always come out -/

theorem element_list_outcome (style : String) (kind : ListKind) (items : List String) :
    (element style (.list kind items)).outcome =
      .ok (listMarkup (listTag kind) style (items.map Emphasis.format)) := by
  rw [element, mapM_formatted]
  rfl

/-- What becomes of the text of a code block: it is never refused. -/
theorem codeBlock_outcome (style raw : String) :
    (codeBlock style raw).outcome = .ok
      (match Fence.read? raw.toList with
        | none => ""
        | some b => codeMarkup style (languageDirectives b.language ++ numberingDirectives
            (.ofAttributes (Fence.scan (b.attributes.getD [])))) b.code) := by
  unfold codeBlock
  cases Fence.read? raw.toList with
  | none => rfl
  | some b =>
    simp only [lineDirectives, Report.bind_def, Report.pure_def, String.toList_ofList]
    rfl

theorem element_code_outcome (style content : String) :
    (element style (.code content)).outcome = (codeBlock style content).outcome.map
      fun markup => if markup = "" then "" else lineIndent ++ markup := by
  rw [element]
  simp only [Field.textFor_string, Report.ofExcept, Report.bind_def, Report.pure_def]
  rw [Report.bind_of_ok rfl, Report.bind_outcome]
  cases (codeBlock style content).outcome <;> rfl

/-- A line without a style block is rendered as one with the empty block. -/
theorem lineStyle_eq (style : Option String) :
    lineStyle style = styleAttribute (style.getD "") := by
  rw [lineStyle, givenOr_empty, Report.bind_def, Report.ofExcept_ok_bind]

/-- The style block of a line always gives an attribute, if only the empty one. -/
theorem lineStyle_outcome (style : Option String) :
    (lineStyle style).outcome = (styleAttribute (style.getD "")).outcome := by
  rw [lineStyle_eq]

theorem exists_styleAttribute (raw : String) : ∃ s, (styleAttribute raw).outcome = .ok s := by
  unfold styleAttribute
  split
  · exact ⟨"", rfl⟩
  · exact ⟨"", rfl⟩
  · exact ⟨_, rfl⟩

/-- A line with a style block is its element with the attribute that the block gives. -/
theorem line_outcome_of_lineStyle {style : Option String} {added : String}
    (h : (lineStyle style).outcome = .ok added) (e : Element String) :
    (line (.styled (.plain e) style)).outcome = (element added e).outcome := by
  show ((lineStyle style).bind fun s => element s e).outcome = _
  rw [Report.bind_outcome, h]
  rfl

/-! ## Media elements -/

theorem mediaExtension_eq_ok_iff {url : String} {ext : List Char} :
    mediaExtension url = .ok ext ↔ Locator.extension url.toList = .ok ext := by
  unfold mediaExtension
  cases Locator.extension url.toList with
  | ok e => rw [Except.ok.injEq, Except.ok.injEq]
  | error e => simp

/-- A locator with its alternative text. -/
theorem located_outcome_of_alt {alt : Option String} {text : String}
    (htext : Field.givenOr .escaping defaultAlt alt = .ok text) (style url : String) :
    (mediaElement style (.located url alt)).outcome =
      (mediaExtension (trimmed url)).map fun ext => mediaMarkup style ext (trimmed url) text := by
  rw [mediaElement, Field.textFor_string, htext]
  simp only [Report.ofExcept]
  cases h : mediaExtension (trimmed url) <;>
    simp [bind, Except.bind, pure, Except.pure, h, Except.map]

theorem located_outcome (url : String) (alt : Option String) : ∃ text, ∀ style,
    (mediaElement style (.located url alt)).outcome =
      (mediaExtension (trimmed url)).map fun ext => mediaMarkup style ext (trimmed url) text := by
  obtain ⟨text, htext⟩ := exists_givenOr .escaping defaultAlt alt
  exact ⟨text, fun style => located_outcome_of_alt htext style url⟩

/-- A line without a reference leaves the empty text. -/
theorem written_outcome_of_none {content : Option String}
    (h : Media.Reference.find? (content.getD "").toList = none) (style : String) :
    (mediaElement style (.written content)).outcome = .ok "" := by
  rw [mediaElement, givenOr_empty, Report.bind_def, Report.ofExcept, Report.bind_of_ok rfl,
    writtenMedia, h]
  rfl

/-- The locator of a reference is accepted as it stands, before it is trimmed. -/
theorem written_outcome_of_some {content : Option String} {f : Media.Reference}
    (h : Media.Reference.find? (content.getD "").toList = some f) (style : String) :
    (mediaElement style (.written content)).outcome =
      (mediaExtension (String.ofList f.url)).bind fun _ =>
        (mediaExtension (trimmed (String.ofList f.url))).map fun ext =>
          mediaMarkup style ext (trimmed (String.ofList f.url)) (String.ofList f.alt) := by
  rw [mediaElement, givenOr_empty, Report.bind_def, Report.ofExcept, Report.bind_of_ok rfl,
    writtenMedia, h]
  simp only [Report.bind_def, Report.ofExcept]
  cases mediaExtension (String.ofList f.url) with
  | error e => rfl
  | ok ext =>
    rw [Report.bind_of_ok rfl, Report.bind_of_ok rfl]
    show mediaTag style _ _ = _
    unfold mediaTag
    cases mediaExtension (trimmed (String.ofList f.url)) <;> rfl

end Deck.Render
