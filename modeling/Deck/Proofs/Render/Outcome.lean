import Deck.Proofs.Render.Fields
import Deck.Proofs.Render.Shell

/-!
# When a deck can be rendered

A deck of strings is rendered unless one of its media lines holds a locator that is
refused when it is split, or a style block stands in another one.  Nothing else that an
author may write ends the work, and the first line that does decides the fault.

* `fault?_line`: the fault of a line.
* `fault?_presentation`: a deck has the fault of its first faulty line.
* `exists_page_iff`: **a deck whose style blocks stand alone comes out as a page exactly
  when all its locators can be split.**
-/

namespace Deck

/-- The lines of a deck in their order, those of the template first. -/
def Presentation.lines {α : Type} (p : Presentation α) : List (Line α) :=
  p.sections.flatMap fun s => s.blocks.flatMap Block.lines

/-- No style block stands in another one. -/
def Line.Unnested {α : Type} : Line α → Prop
  | .styled (.styled _ _) _ => False
  | _ => True

instance {α : Type} : (l : Line α) → Decidable l.Unnested
  | .plain _ => .isTrue trivial
  | .foreign _ => .isTrue trivial
  | .styled (.plain _) _ => .isTrue trivial
  | .styled (.foreign _) _ => .isTrue trivial
  | .styled (.styled _ _) _ => .isFalse id

namespace Render

open Text

/-! ## The locators of a line -/

/-- The locators of a media element, in the order in which they are split. -/
def mediaLocators : MediaSource String → List String
  | .written content =>
    match Media.Reference.find? (content.getD "").toList with
    | some f => [String.ofList f.url, trimmed (String.ofList f.url)]
    | none => []
  | .located url _ => [trimmed url]

/-- The locator of a reference is split twice. -/
theorem mediaLocators_of_find {content : Option String} {f : Media.Reference}
    (h : Media.Reference.find? (content.getD "").toList = some f) :
    mediaLocators (.written content) =
      [String.ofList f.url] ++ [trimmed (String.ofList f.url)] := by
  rw [mediaLocators, h]
  rfl

def elementLocators : Element String → List String
  | .media source => mediaLocators source
  | _ => []

def lineLocators : Line String → List String
  | .plain e => elementLocators e
  | .styled inner _ => lineLocators inner
  | .foreign _ => []

/-- The fault of a locator that cannot be split. -/
def locatorFault (url : String) : Option Fault :=
  match Locator.path url.toList with
  | .ok _ => none
  | .error e => some (.locator e)

/-- The fault of a line: a nested style block, or its first locator that cannot be split. -/
def lineFault : Line String → Option Fault
  | .styled (.styled _ _) _ => some .nestedStyle
  | l => (lineLocators l).findSome? locatorFault

theorem locatorFault_eq_none_iff {url : String} :
    locatorFault url = none ↔ ∃ path, Locator.path url.toList = .ok path := by
  rw [locatorFault]
  cases Locator.path url.toList with
  | ok path => simp
  | error e => simp

theorem lineFault_eq_none_iff {l : Line String} (hl : l.Unnested) : lineFault l = none ↔
    ∀ url ∈ lineLocators l, ∃ path, Locator.path url.toList = .ok path := by
  have hfault : lineFault l = (lineLocators l).findSome? locatorFault := by
    unfold lineFault
    split
    · exact hl.elim
    · rfl
  rw [hfault, List.findSome?_eq_none_iff]
  exact forall₂_congr fun url _ => locatorFault_eq_none_iff

/-! ## Faults of elements and lines -/

/-- An extension is found wherever the locator can be split, and the fault is the same else. -/
theorem mediaExtension_or (url : String) :
    (∃ ext, mediaExtension url = .ok ext ∧ locatorFault url = none) ∨
      ∃ e, mediaExtension url = .error e ∧ locatorFault url = some e := by
  unfold mediaExtension locatorFault Locator.extension
  cases Locator.path url.toList with
  | ok path => exact Or.inl ⟨_, rfl, rfl⟩
  | error e => exact Or.inr ⟨_, rfl, rfl⟩

theorem fault?_located (style url : String) (alt : Option String) :
    (mediaElement style (.located url alt)).fault? = locatorFault (trimmed url) := by
  obtain ⟨text, htext⟩ := located_outcome url alt
  rw [Report.fault?, htext]
  obtain ⟨ext, hext, hnone⟩ | ⟨e, hext, hsome⟩ := mediaExtension_or (trimmed url)
  · rw [hext, hnone]
    rfl
  · rw [hext, hsome]
    rfl

theorem fault?_written {content : Option String} {f : Media.Reference}
    (h : Media.Reference.find? (content.getD "").toList = some f) (style : String) :
    (mediaElement style (.written content)).fault? =
      (locatorFault (String.ofList f.url)).or (locatorFault (trimmed (String.ofList f.url))) := by
  rw [Report.fault?, written_outcome_of_some h]
  obtain ⟨ext, hext, hnone⟩ | ⟨e, hext, hsome⟩ := mediaExtension_or (String.ofList f.url)
  · rw [hext, hnone, Option.none_or]
    obtain ⟨ext', hext', hnone'⟩ | ⟨e', hext', hsome'⟩ :=
      mediaExtension_or (trimmed (String.ofList f.url))
    · rw [hext', hnone']
      rfl
    · rw [hext', hsome']
      rfl
  · rw [hext, hsome]
    rfl

theorem fault?_media (style : String) (source : MediaSource String) :
    (mediaElement style source).fault? = (mediaLocators source).findSome? locatorFault := by
  cases source with
  | located url alt =>
    rw [fault?_located, mediaLocators, List.findSome?_singleton]
  | written content =>
    cases hf : Media.Reference.find? (content.getD "").toList with
    | none =>
      rw [Report.fault?_of_ok (written_outcome_of_none hf style), mediaLocators, hf]
      rfl
    | some f =>
      rw [fault?_written hf, mediaLocators_of_find hf, List.findSome?_append,
        List.findSome?_singleton, List.findSome?_singleton]

/-- Of the elements only media have faults, whatever the style. -/
theorem fault?_element (style : String) (e : Element String) :
    (element style e).fault? = (elementLocators e).findSome? locatorFault := by
  cases e with
  | heading level text => rfl
  | paragraph text => rfl
  | quote text => rfl
  | list kind items => exact Report.fault?_of_ok (element_list_outcome style kind items)
  | media source => exact fault?_media style source
  | code content =>
    have hblock := (element_code_outcome style content).trans
      (congrArg (Except.map _) (codeBlock_outcome style content))
    exact Report.fault?_of_ok hblock

/-- **The fault of a line.**  A style block that stands alone has none of its own. -/
theorem fault?_line (l : Line String) : (line l).fault? = lineFault l := by
  have hstyle : ∀ style : Option String, (lineStyle style).fault? = none := by
    intro style
    obtain ⟨s, hs⟩ := exists_styleAttribute (style.getD "")
    exact Report.fault?_of_ok ((lineStyle_outcome style).trans hs)
  cases l with
  | plain e => exact fault?_element "" e
  | foreign kind => rfl
  | styled inner style =>
    cases inner with
    | plain e =>
      show ((lineStyle style).bind fun s => element s e).fault? = _
      rw [Report.fault?_bind fun s _ => fault?_element s e, hstyle, Option.none_or]
      rfl
    | foreign kind =>
      show ((lineStyle style).bind fun s => unstyledLine s (.foreign kind)).fault? = _
      rw [Report.fault?_bind_of_none fun _ _ => rfl, hstyle]
      rfl
    | styled _ _ => rfl

/-! ## Faults of decks -/

theorem findSome?_flatMap {α β γ : Type} (f : β → Option γ) (g : α → List β) (as : List α) :
    (as.flatMap g).findSome? f = as.findSome? fun a => (g a).findSome? f := by
  induction as with
  | nil => rfl
  | cons a as ih =>
    rw [List.flatMap_cons, List.findSome?_append, ih, List.findSome?_cons]
    cases (g a).findSome? f with
    | none => rfl
    | some c => rfl

theorem fault?_block (b : Block String) : (block b).fault? = b.lines.findSome? lineFault := by
  show ((Report.each line b.lines).bind _).fault? = _
  rw [Report.fault?_bind_of_none fun _ _ => rfl, Report.fault?_each, funext fault?_line]

theorem fault?_slide (s : Slide String) :
    (slide s).fault? = (s.blocks.flatMap Block.lines).findSome? lineFault := by
  show ((Report.each block s.blocks).bind _).fault? = _
  rw [Report.fault?_bind_of_none fun _ _ => rfl, Report.fault?_each, findSome?_flatMap,
    funext fault?_block]

/-- **A deck has the fault of its first faulty line**, whatever its metadata and the shell. -/
theorem fault?_presentation (p : Presentation String) (shell : Shell) :
    (presentation p shell).fault? = p.lines.findSome? lineFault := by
  show ((Report.each slide p.sections).bind _).fault? = _
  rw [Report.fault?_bind_of_none, Report.fault?_each, Presentation.lines, findSome?_flatMap,
    funext fault?_slide]
  -- Once the slides are rendered, nothing is left that could fail.
  intro ss _
  obtain ⟨t, a, hpage, -⟩ := page_eq_ok ("\n".intercalate ss) (p.metadata.bind (·.title))
    (p.metadata.bind (·.author)) shell
  exact Report.fault?_of_ok (r := ⟨_, page _ _ _ shell⟩) hpage

/-- **A deck whose style blocks stand alone comes out as a page exactly when all its locators
can be split.** -/
theorem exists_page_iff {p : Presentation String} (hp : ∀ l ∈ p.lines, l.Unnested)
    (shell : Shell) : (∃ page, (presentation p shell).outcome = .ok page) ↔
      ∀ l ∈ p.lines, ∀ url ∈ lineLocators l, ∃ path, Locator.path url.toList = .ok path := by
  rw [← Report.fault?_eq_none_iff, fault?_presentation, List.findSome?_eq_none_iff]
  exact forall₂_congr fun l hl => lineFault_eq_none_iff (hp l hl)

/-- A deck whose locators can be split, one of them after it has been trimmed. -/
def pictureDeck : Presentation String where
  slides := [⟨[⟨[.plain (.media (.located " a.png " none)),
    .styled (.plain (.media (.written (some "![b](http://[::1]/b.mp4)")))) (some "[")]⟩]⟩]
  template := none
  metadata := none

theorem pictureDeck_page : (∀ l ∈ pictureDeck.lines, l.Unnested) ∧
    ∃ page, (presentation pictureDeck Shell.default).outcome = .ok page := by
  have hlines : ∀ l ∈ pictureDeck.lines, l.Unnested ∧ lineFault l = none := by decide +kernel
  refine ⟨fun l hl => (hlines l hl).1, ?_⟩
  rw [exists_page_iff fun l hl => (hlines l hl).1]
  exact fun l hl => (lineFault_eq_none_iff (hlines l hl).1).mp (hlines l hl).2

/-- A deck with one line, which opens a bracket in its locator and does not close it. -/
def bracketDeck : Presentation String where
  slides := [⟨[⟨[.plain (.media (.written (some "![a](http://[)")))]⟩]⟩]
  template := none
  metadata := none

theorem bracketDeck_no_page : (∀ l ∈ bracketDeck.lines, l.Unnested) ∧
    ∀ shell, ¬∃ page, (presentation bracketDeck shell).outcome = .ok page := by
  refine ⟨by decide, fun shell => ?_⟩
  have hfault : bracketDeck.lines.findSome? lineFault = some (.locator .badBrackets) := by
    decide +kernel
  rw [← Report.fault?_eq_none_iff, fault?_presentation, hfault]
  exact Option.some_ne_none _

end Render

end Deck
