import Deck.Proofs.Html.Escaped
import Deck.Proofs.Html.Landmarks
import Deck.Render.Page

/-!
# The shell around the slides

The shell is text that shows no landmark of its own, as long as its settings open no tag.
What it shows is then what has been put between its lines.

* `page_eq_ok`: a page always comes out, with title and author escaped.
* `silent_pageHead`, `silent_pageFoot`: no line of the shell shows a landmark.
* `landmarks_pageText`: a page shows what its body shows.
-/

namespace Deck.Render

open Html

/-- A caption always comes out, and escaped. -/
theorem exists_caption (default : String) (a : Option String) :
    ∃ s, caption default a = .ok s ∧ Escaped s.toList := by
  cases a with
  | none => exact ⟨_, rfl, escaped_escape default⟩
  | some a => exact ⟨_, rfl, escaped_escape (stripQuotes a)⟩

/-- The page always comes out, with two escaped captions in it. -/
theorem page_eq_ok (body : String) (title author : Option String) (shell : Shell) :
    ∃ t a, page body title author shell = .ok (pageText body t a shell) ∧
      Escaped t.toList ∧ Escaped a.toList := by
  obtain ⟨t, ht, htitle⟩ := exists_caption defaultTitle title
  obtain ⟨a, ha, hauthor⟩ := exists_caption defaultAuthor author
  refine ⟨t, a, ?_, htitle, hauthor⟩
  rw [page, ht, ha]
  rfl

/-! ## The lines of the shell -/

/-- The settings of a shell that opens no tag with them. -/
def Shell.Tagless (shell : Shell) : Prop :=
  ∀ s ∈ [shell.version, shell.theme, shell.transition, shell.backgroundTransition], '<' ∉ s.toList

theorem tagless_default : Shell.default.Tagless := by
  unfold Shell.Tagless
  decide

/-- Text put between two pieces of markup of which all is known. -/
theorem silent_around {before text after : String} (hbefore : isSilent before.toList = true)
    (htext : '<' ∉ text.toList) (hafter : isSilent after.toList = true) :
    Silent (before ++ text ++ after).toList := by
  rw [String.toList_append, String.toList_append]
  exact ((silent_of_isSilent hbefore).append (silent_of_not_mem htext)).append
    (silent_of_isSilent hafter)

theorem Shell.Tagless.not_mem_source {shell : Shell} (h : shell.Tagless) :
    '<' ∉ shell.source.toList := by
  have hversion : '<' ∉ shell.version.toList := h _ (by simp)
  have hhost : '<' ∉ "https://cdn.jsdelivr.net/npm/reveal.js@".toList := by decide
  have hdist : '<' ∉ "/dist".toList := by decide
  show '<' ∉ ("https://cdn.jsdelivr.net/npm/reveal.js@" ++ shell.version ++ "/dist").toList
  simp only [String.toList_append, List.mem_append, not_or]
  exact ⟨⟨hhost, hversion⟩, hdist⟩

theorem silent_pageHead {shell : Shell} (hshell : shell.Tagless) {title author : String}
    (htitle : Escaped title.toList) (hauthor : Escaped author.toList) :
    ∀ l ∈ pageHead title author shell, Silent l.toList := by
  have ht : '<' ∉ title.toList := htitle.not_mem (by simp)
  have ha : '<' ∉ author.toList := hauthor.not_mem (by simp)
  have hsource := hshell.not_mem_source
  have htheme : '<' ∉ shell.theme.toList := hshell _ (by simp)
  have hlink : Silent ("    <link rel=\"stylesheet\" href=\"" ++ shell.source ++ "/theme/" ++
      shell.theme ++ ".css\">").toList := by
    rw [String.append_assoc, String.toList_append]
    refine (silent_around (by decide) hsource (by decide)).append ?_
    rw [String.toList_append]
    exact (silent_of_not_mem htheme).append (silent_of_isSilent (by decide))
  simp only [pageHead, List.forall_mem_cons]
  refine ⟨?_, ?_, ?_, ?_, ?_, ?_, ?_, ?_, ?_, ?_, ?_, ?_, ?_, ?_, fun _ h => absurd h (by simp)⟩
  case refine_6 => exact silent_around (by decide) ha (by decide)
  case refine_7 => exact silent_around (by decide) ht (by decide)
  case refine_8 => exact silent_around (by decide) ht (by decide)
  case refine_9 => exact silent_around (by decide) hsource (by decide)
  case refine_10 => exact hlink
  all_goals exact silent_of_isSilent (by decide)

theorem silent_pageFoot {shell : Shell} (hshell : shell.Tagless) :
    ∀ l ∈ pageFoot shell, Silent l.toList := by
  have htransition : '<' ∉ shell.transition.toList := hshell _ (by simp)
  have hbackground : '<' ∉ shell.backgroundTransition.toList := hshell _ (by simp)
  have hhash : '<' ∉ (if shell.hash then "true" else "false").toList := by
    cases shell.hash <;> decide
  simp only [pageFoot, List.forall_mem_cons]
  refine ⟨?_, ?_, ?_, ?_, ?_, ?_, ?_, ?_, ?_, ?_, ?_, ?_, fun _ h => absurd h (by simp)⟩
  case refine_3 => exact silent_around (by decide) hshell.not_mem_source (by decide)
  case refine_6 => exact silent_around (by decide) hhash (by decide)
  case refine_7 => exact silent_around (by decide) htransition (by decide)
  case refine_8 => exact silent_around (by decide) hbackground (by decide)
  all_goals exact silent_of_isSilent (by decide)

theorem silent_lines {ls : List String} (h : ∀ l ∈ ls, Silent l.toList) :
    Silent ("\n".intercalate ls).toList := by
  rw [String.toList_intercalate]
  refine Silent.intercalate (silent_of_isSilent (by decide)) ?_
  simpa using h

/-- **A page shows what its body shows.** -/
theorem landmarks_pageText {shell : Shell} (hshell : shell.Tagless) {body title author : String}
    {ls : List String} (htitle : Escaped title.toList) (hauthor : Escaped author.toList)
    (hbody : ∀ t, landmarks (body.toList ++ t) = ls ++ landmarks t) :
    landmarks (pageText body title author shell).toList = ls := by
  have hhead := silent_lines (silent_pageHead hshell htitle hauthor)
  have hfoot := silent_lines (silent_pageFoot hshell)
  have hbreak : Silent "\n".toList := silent_of_isSilent (by decide)
  have hend : landmarks ("\n".intercalate (pageFoot shell)).toList = [] := by
    have h := hfoot []
    rwa [List.append_nil] at h
  have htext : pageText body title author shell = "\n".intercalate (pageHead title author shell) ++
      "\n" ++ (body ++ "\n" ++ "\n".intercalate (pageFoot shell)) := by
    rw [pageText, String.intercalate_append_of_ne_nil (by simp [pageHead]) (by simp),
      String.intercalate_cons_of_ne_nil (by simp [pageFoot])]
  rw [htext]
  simp only [String.toList_append, List.append_assoc]
  rw [hhead, hbreak, hbody, hbreak, hend, List.append_nil]

end Deck.Render
