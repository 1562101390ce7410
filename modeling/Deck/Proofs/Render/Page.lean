import Deck.Proofs.Render.Line
import Deck.Proofs.Render.Outline
import Deck.Proofs.Render.Shell

/-!
# The page of a deck

A page is the shell with the title, the author and the sections put into it, and author
text cannot change its layout.

* `markup_slide`: a slide is rendered as one section around the markup of its lines.
* `parts_of_presentation`: a page is made of the markup of the slides and of two escaped
  captions.
* `page_wellNested`: **what stands between the tags of the slides container is well-nested
  markup**, and title and author cannot leave their places.
* `page_outline`: **the landmarks of the page are the outline of the deck**, the sections
  stand one line break apart, and a template is the first slide.
-/

namespace Deck.Render

open Html Text

/-! ## Blocks and slides -/

theorem markup_joined {α : Type} {f : α → Report String} {g : α → List String}
    (hf : ∀ a out, (f a).outcome = .ok out → Markup out.toList (g a)) {as : List α}
    {outs : List String} (h : (Report.each f as).outcome = .ok outs) :
    Markup ("\n".intercalate outs).toList (as.flatMap g) := by
  have hall : List.Forall₂ (fun a s => Markup s (g a)) as (outs.map String.toList) := by
    rw [List.forall₂_map_right_iff]
    exact (Report.each_outcome_eq_ok_iff.mp h).imp fun a out => hf a out
  rw [String.toList_intercalate]
  exact markup_intercalate (escaped_of_isPlain (by decide)) hall

theorem markup_block {b : Block String} {out : String} (h : (block b).outcome = .ok out) :
    Markup out.toList (blockOutline b) := by
  obtain ⟨ls, hls, h⟩ := Report.bind_outcome_eq_ok_iff.mp h
  obtain rfl := Except.ok.inj h
  exact markup_joined (fun _ _ => markup_line) hls

/-- A slide is rendered as one section around the markup of its lines. -/
theorem markup_slide {s : Slide String} {out : String} (h : (slide s).outcome = .ok out) :
    ∃ content, out = sectionMarkup content ∧ Markup content.toList (slideOutline s) := by
  obtain ⟨bs, hbs, h⟩ := Report.bind_outcome_eq_ok_iff.mp h
  obtain rfl := Except.ok.inj h
  exact ⟨_, rfl, markup_joined (fun _ _ => markup_block) hbs⟩

theorem markup_section {content : String} {ls : List String} (h : Markup content.toList ls) :
    Markup (sectionMarkup content).toList ("section" :: (ls ++ ["/section"])) := by
  have hindent : Markup sectionIndent.toList [] := markup_of_isPlain (by decide)
  have hbreak : Markup "\n".toList [] := markup_of_isPlain (by decide)
  have hinner := ((hbreak.append h).append hbreak).append hindent
  have htag : IsElementTag "section" := Or.inl (by decide)
  have hsection := Markup.element [] htag hinner
  have htext : (sectionMarkup content).toList = sectionIndent.toList ++ (startTag "section" [] ++
      ("\n".toList ++ content.toList ++ "\n".toList ++ sectionIndent.toList) ++
        endTag "section") := by
    simp [sectionMarkup, startTag, endTag]
  have hstart : ["section"].filter isLandmark = ["section"] := by decide
  have hend : ["/" ++ "section"].filter isLandmark = ["/section"] := by decide
  rw [hstart, hend] at hsection
  rw [htext]
  simpa using hindent.append hsection

/-! ## The parts of a page -/

theorem exists_map_of_forall₂ {α β γ : Type} {f : γ → β} {R : α → γ → Prop} {as : List α}
    {bs : List β} (h : List.Forall₂ (fun a b => ∃ c, b = f c ∧ R a c) as bs) :
    ∃ cs : List γ, bs = cs.map f ∧ List.Forall₂ R as cs := by
  induction h with
  | nil => exact ⟨[], rfl, .nil⟩
  | cons hab _ ih =>
    obtain ⟨c, rfl, hc⟩ := hab
    obtain ⟨cs, rfl, hcs⟩ := ih
    exact ⟨c :: cs, rfl, .cons hc hcs⟩

/-- What a slide comes to: a section with this markup in it. -/
def IsSection (s : Slide String) (content : String) : Prop :=
  (slide s).outcome = .ok (sectionMarkup content) ∧ Markup content.toList (slideOutline s)

/-- **The parts of a page**: two escaped captions, and a section for each slide. -/
theorem parts_of_presentation {p : Presentation String} {shell : Shell} {page : String}
    (h : (presentation p shell).outcome = .ok page) :
    ∃ (contents : List String) (title author : String),
      page = pageText ("\n".intercalate (contents.map sectionMarkup)) title author shell ∧
      List.Forall₂ IsSection p.sections contents ∧
      Escaped title.toList ∧ Escaped author.toList := by
  obtain ⟨ss, hss, h⟩ := Report.bind_outcome_eq_ok_iff.mp h
  have hsections : List.Forall₂ (fun s out => ∃ c, out = sectionMarkup c ∧ IsSection s c)
      p.sections ss := by
    refine (Report.each_outcome_eq_ok_iff.mp hss).imp ?_
    intro s out hout
    obtain ⟨c, rfl, hc⟩ := markup_slide hout
    exact ⟨c, rfl, hout, hc⟩
  obtain ⟨contents, rfl, hcontents⟩ := exists_map_of_forall₂ hsections
  obtain ⟨title, author, hpage, htitle, hauthor⟩ := page_eq_ok
    ("\n".intercalate (contents.map sectionMarkup)) (p.metadata.bind (·.title))
    (p.metadata.bind (·.author)) shell
  obtain ⟨-, -, h⟩ := Report.bind_outcome_eq_ok_iff.mp h
  refine ⟨contents, title, author, ?_, hcontents, htitle, hauthor⟩
  exact (Except.ok.inj (hpage.symm.trans h)).symm

theorem markup_sections {p : Presentation String} {contents : List String}
    (h : List.Forall₂ IsSection p.sections contents) :
    Markup ("\n".intercalate (contents.map sectionMarkup)).toList (outline p) := by
  rw [String.toList_intercalate]
  refine markup_intercalate (escaped_of_isPlain (by decide)) ?_
  rw [List.forall₂_map_right_iff, List.forall₂_map_right_iff]
  exact h.imp fun s c hc => markup_section hc.2

/-! ## The page -/

/-- **Author text stays in its place.**  What stands between the tags of the slides container is
well-nested markup, and no title or author ends the quotes or the element around it. -/
theorem page_wellNested {p : Presentation String} {shell : Shell} {page : String}
    (h : (presentation p shell).outcome = .ok page) : ∃ body title author : String,
      page = pageText body title author shell ∧ WellNested body.toList ∧
      Escaped title.toList ∧ Escaped author.toList ∧
      ∀ c ∈ title.toList ++ author.toList, c ≠ '<' ∧ c ≠ '>' ∧ c ≠ '"' ∧ c ≠ '\'' := by
  obtain ⟨contents, title, author, rfl, hcontents, htitle, hauthor⟩ := parts_of_presentation h
  refine ⟨_, title, author, rfl, ⟨_, markup_sections hcontents⟩, htitle, hauthor, ?_⟩
  have hcaptions := htitle.append hauthor
  intro c hc
  refine ⟨?_, ?_, ?_, ?_⟩ <;> rintro rfl <;> exact hcaptions.not_mem (by simp) hc

/-- A deck whose fields try to get out of their places. -/
def restlessDeck : Presentation String where
  slides := [⟨[⟨[.plain (.heading "##" "**</h2>**"), .foreign "object",
    .plain (.media (.written (some "![\"><p](a.mp4)")))]⟩]⟩]
  template := some ⟨[⟨[.styled (.plain (.list .ordered ["<li>"])) (some "[color=\"red\"]")]⟩]⟩
  metadata := some ⟨some "</title>", some "\" onload=\""⟩

theorem exists_restlessDeck_page :
    ∃ page, (presentation restlessDeck Shell.default).outcome = .ok page :=
  Report.fault?_eq_none_iff.mp (by decide +kernel)

theorem restlessDeck_wellNested : ∃ page,
    (presentation restlessDeck Shell.default).outcome = .ok page ∧
      ∃ body title author : String, page = pageText body title author Shell.default ∧
        WellNested body.toList := by
  obtain ⟨page, h⟩ := exists_restlessDeck_page
  obtain ⟨body, title, author, hpage, hbody, -⟩ := page_wellNested h
  exact ⟨page, h, body, title, author, hpage, hbody⟩

/-- **The landmarks of a page are the outline of its deck**, whatever the fields hold.  The
sections stand one line break apart, and a template is the first of them. -/
theorem page_outline {shell : Shell} (hshell : shell.Tagless) :
    (∀ (p : Presentation String) (page : String), (presentation p shell).outcome = .ok page →
      landmarks page.toList = outline p ∧
      ∃ (contents : List String) (title author : String),
        page = pageText ("\n".intercalate (contents.map sectionMarkup)) title author shell ∧
        List.Forall₂ (fun s c => (slide s).outcome = .ok (sectionMarkup c) ∧
          landmarks c.toList = slideOutline s) p.sections contents) ∧
    ∀ (t : Slide String) (ss : List (Slide String)) (m : Option (Metadata String)),
      (presentation ⟨ss, some t, m⟩ shell).outcome =
        (presentation ⟨t :: ss, none, m⟩ shell).outcome := by
  constructor
  · intro p page h
    obtain ⟨contents, title, author, rfl, hcontents, htitle, hauthor⟩ := parts_of_presentation h
    constructor
    · exact landmarks_pageText hshell htitle hauthor (markup_sections hcontents).landmarks_append
    · refine ⟨contents, title, author, rfl, hcontents.imp ?_⟩
      exact fun s c hc => ⟨hc.1, hc.2.landmarks_eq⟩
  · intro t ss m
    show ((Report.each slide (t :: ss)).bind _).outcome =
      ((Report.each slide (t :: ss)).bind _).outcome
    rw [Report.bind_outcome, Report.bind_outcome]
    rfl

theorem restlessDeck_outline : ∃ page,
    (presentation restlessDeck Shell.default).outcome = .ok page ∧
      landmarks page.toList =
        ["section", "ol", "li", "/section", "section", "h2", "video", "/section"] := by
  obtain ⟨page, h⟩ := exists_restlessDeck_page
  have houtline := ((page_outline tagless_default).1 restlessDeck page h).1
  have hlist : outline restlessDeck =
      ["section", "ol", "li", "/section", "section", "h2", "video", "/section"] := by
    decide +kernel
  exact ⟨page, h, houtline.trans hlist⟩

end Deck.Render
