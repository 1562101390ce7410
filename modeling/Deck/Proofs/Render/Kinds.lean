import Deck.Proofs.Dump.Kinds
import Deck.Proofs.Render.Fields

/-!
# What comes of a dump

A dump whose values are of the right kinds becomes a page, or ends with a fault that can be
told.  No other dump becomes a page.

* `keeps_line`, `keeps_presentation`: rendering keeps kinds.
* `keeps_compiled`: **so does the whole way from a dump to its page**.
-/

namespace Deck

open Json Dump

variable {lax : Fields → Bool}

namespace Render

open Text

/-! ## Fields -/

/-- Every text is right. -/
abbrev anyText : String → Bool := fun _ => true

theorem keeps_textFor (use : Use) (v : Json) :
    Keeps lax (Field.textFor use v) (isText v) anyText := by
  cases v with
  | str s => exact .ok rfl
  | _ => exact .wrong _

theorem keeps_givenOr (use : Use) (default : String) (a : Option Json) :
    Keeps lax (Field.givenOr use default a) (a.all isTextIfGiven) anyText := by
  cases a with
  | none => exact .ok rfl
  | some v => exact (keeps_textFor use v).ifGiven rfl v

theorem keeps_mediaExtension (url : String) :
    Keeps lax (mediaExtension url) true fun _ => true := by
  unfold mediaExtension Locator.extension
  cases hpath : Locator.path url.toList with
  | ok path => exact .ok rfl
  | error e => exact .told fun _ => .locator hpath

/-! ## Elements -/

theorem keeps_formatted (v : Json) : Keeps lax (formatted v) (isText v) anyText :=
  (keeps_textFor .escaping v).bind_pure fun _ => rfl

theorem keeps_mediaTag (style url alt : String) :
    Keeps lax (mediaTag style url alt) true anyText := by
  rw [mediaTag]
  exact (keeps_mediaExtension _).bind_pure fun ext => rfl

theorem keeps_writtenMedia (style content : String) :
    Keeps lax (writtenMedia style content).outcome true anyText := by
  unfold writtenMedia
  cases Media.Reference.find? content.toList with
  | none => exact .ok rfl
  | some f =>
    refine Keeps.bindReport (x := Report.ofExcept _) (keeps_mediaExtension _) fun ext _ => ?_
    exact Keeps.bindReport (x := Report.note _) (q := fun _ => true) (.ok rfl)
      fun _ _ => keeps_mediaTag style _ _

theorem keeps_mediaElement (style : String) (source : MediaSource Json) :
    Keeps lax (mediaElement style source).outcome source.hasTexts anyText := by
  cases source with
  | written content =>
    exact Keeps.bindReport (x := Report.ofExcept _) (keeps_givenOr .matching "" content)
      fun s _ => keeps_writtenMedia style s
  | located url alt =>
    simp only [mediaElement, Report.ofExcept]
    refine ((keeps_textFor .trimming url).and_right _).bind fun s _ => ?_
    refine ((keeps_mediaExtension (trimmed s)).and_right _).bind fun ext _ => ?_
    exact (keeps_givenOr .escaping defaultAlt alt).bind_pure fun text => rfl

/-- Rendering an element keeps its kinds. -/
theorem keeps_element (style : String) (e : Element Json) :
    Keeps lax (element style e).outcome e.hasTexts anyText := by
  cases e with
  | heading level text =>
    exact ((keeps_textFor .trimming level).and_right _).bind fun marker _ =>
      (keeps_formatted text).bind_pure fun s => rfl
  | paragraph text | quote text => exact (keeps_formatted text).bind_pure fun s => rfl
  | list kind items =>
    refine Keeps.bind_pure (q := (·.all anyText)) (Keeps.mapM keeps_formatted) fun texts => ?_
    exact (List.all_eq_true.mpr fun _ _ => rfl).symm
  | media source => exact keeps_mediaElement style source
  | code content =>
    refine Keeps.bindReport (x := Report.ofExcept _) (keeps_textFor .matching content)
      fun raw _ => ?_
    exact Keeps.bindReport (x := codeBlock style raw) (q := anyText)
      (codeBlock_outcome style raw ▸ .ok rfl) fun markup _ => .ok rfl

/-! ## Lines -/

theorem keeps_lineStyle (style : Option Json) :
    Keeps lax (lineStyle style).outcome (style.all isTextIfGiven) anyText := by
  refine Keeps.bindReport (x := Report.ofExcept _) (keeps_givenOr .trimming "" style)
    fun raw _ => ?_
  obtain ⟨text, htext⟩ := exists_styleAttribute raw
  exact htext ▸ .ok rfl

/-- Rendering a line keeps its kinds. -/
theorem keeps_line (l : Line Json) : Keeps lax (line l).outcome l.hasTexts anyText := by
  cases l with
  | plain e => exact keeps_element "" e
  | foreign kind => exact .ok rfl
  | styled inner style =>
    cases inner with
    | plain e =>
      rw [Line.hasTexts, Bool.and_comm]
      exact Keeps.bindReport ((keeps_lineStyle style).and_right _) fun s _ => keeps_element s e
    | foreign kind =>
      exact Keeps.bindReport (keeps_lineStyle style) fun s _ => .ok rfl
    | styled inner s => exact .wrong _

/-! ## Slides and decks -/

/-- Nothing is wrong with texts that have come out. -/
theorem all_anyText (texts : List String) : texts.all anyText = true :=
  List.all_eq_true.mpr fun _ _ => rfl

theorem keeps_block (b : Block Json) : Keeps lax (block b).outcome b.hasTexts anyText :=
  Keeps.bindReport_pure (Keeps.each keeps_line) fun texts => (all_anyText texts).symm

theorem keeps_slide (s : Slide Json) : Keeps lax (slide s).outcome s.hasTexts anyText :=
  Keeps.bindReport_pure (Keeps.each keeps_block) fun texts => (all_anyText texts).symm

theorem keeps_caption (default : String) (a : Option Json) :
    Keeps lax (caption default a) (a.all isText) anyText := by
  cases a with
  | none => exact .ok rfl
  | some v => exact (keeps_textFor .matching v).bind_pure fun s => rfl

theorem keeps_page (body : String) (m : Option (Metadata Json)) (shell : Shell) :
    Keeps lax (page body (m.bind (·.title)) (m.bind (·.author)) shell)
      (m.all Metadata.hasTexts) anyText := by
  have hall : m.all Metadata.hasTexts =
      ((m.bind (·.title)).all isText && (m.bind (·.author)).all isText) := by
    cases m <;> rfl
  rw [hall]
  exact ((keeps_caption _ _).and_right _).bind fun t _ =>
    (keeps_caption _ _).bind_pure fun a => rfl

/-- Rendering a deck keeps its kinds. -/
theorem keeps_presentation (p : Presentation Json) (shell : Shell) :
    Keeps lax (presentation p shell).outcome p.hasTexts anyText := by
  have hall : p.hasTexts = (p.sections.all Slide.hasTexts && p.metadata.all Metadata.hasTexts) := by
    rw [Presentation.hasTexts, Presentation.sections, List.all_append, Bool.and_comm (List.all _ _)]
    cases p.template <;> simp
  rw [hall]
  refine Keeps.bindReport ((Keeps.each keeps_slide).and_right _) fun ss _ => ?_
  rw [all_anyText, Bool.true_and]
  exact keeps_page _ p.metadata shell

/-- What becomes of a dump: it is read, and its deck is rendered. -/
def compiled (dump : Json) (shell : Shell) : Except Fault String :=
  ((Dump.presentation dump).bind fun deck => presentation deck shell).outcome

/-- **A dump becomes a page only if its values are of the right kinds**, and if they are and it
does not, then for a fault that can be told. -/
theorem keeps_compiled (dump : Json) (shell : Shell) :
    Keeps lax (compiled dump shell) (rightKinds lax dump) anyText :=
  (Dump.keeps_presentation dump).bindReport fun deck _ => keeps_presentation deck shell

end Render

end Deck
