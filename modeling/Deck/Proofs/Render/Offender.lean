import Deck.Proofs.Render.Outcome

/-!
# The line that ends the work

What ends the work on a deck is always one line: a style block around a style block, or a media
line with a locator that is refused.  The lines are rendered in their order, so the first of
these lines tells its fault, and nothing is told of the others.

* `RefusedLocator`: the locators of a media element that are refused, each with its fault.
* `Offends`: the lines that cannot be rendered, each with its fault.
* `lineFault_eq_some_iff`: these are the faults of lines.
* `page_error_iff`: **a deck cannot be rendered exactly if one of its lines cannot, and then it
  has the fault of the first such line.**
-/

namespace Deck.Render

open Text

/-! ## Lines that cannot be rendered -/

/-- A locator of a media element is refused.  One that stands by itself is trimmed before it is
split; the one of a reference is split as it stands, and then trimmed as well. -/
inductive RefusedLocator : MediaSource String → Locator.Fault → Prop
  | located {url : String} {alt : Option String} {e : Locator.Fault} :
      Locator.path (trim url.toList) = .error e → RefusedLocator (.located url alt) e
  | standing {content : Option String} {f : Media.Reference} {e : Locator.Fault} :
      Media.Reference.find? (content.getD "").toList = some f → Locator.path f.url = .error e →
      RefusedLocator (.written content) e
  | trimmed {content : Option String} {f : Media.Reference} {path : List Char}
      {e : Locator.Fault} : Media.Reference.find? (content.getD "").toList = some f →
      Locator.path f.url = .ok path → Locator.path (trim f.url) = .error e →
      RefusedLocator (.written content) e

/-- The line cannot be rendered, for this fault. -/
inductive Offends : Line String → Fault → Prop
  | nested (l : Line String) (inner outer : Option String) :
      Offends (.styled (.styled l inner) outer) .nestedStyle
  | plain {source : MediaSource String} {e : Locator.Fault} : RefusedLocator source e →
      Offends (.plain (.media source)) (.locator e)
  | styled {source : MediaSource String} {e : Locator.Fault} (style : Option String) :
      RefusedLocator source e → Offends (.styled (.plain (.media source)) style) (.locator e)

/-! ## Their faults -/

theorem locatorFault_eq_some_iff {url : String} {fault : Fault} :
    locatorFault url = some fault ↔
      ∃ e, Locator.path url.toList = .error e ∧ fault = .locator e := by
  rw [locatorFault]
  cases Locator.path url.toList with
  | ok path => simp
  | error e => simp [eq_comm]

theorem locatedFault_iff {url : String} {alt : Option String} {fault : Fault} :
    (mediaLocators (.located url alt)).findSome? locatorFault = some fault ↔
      ∃ e, RefusedLocator (.located url alt) e ∧ fault = .locator e := by
  rw [mediaLocators, List.findSome?_singleton, locatorFault_eq_some_iff, Text.trimmed,
    String.toList_ofList]
  constructor
  · rintro ⟨e, he, rfl⟩
    exact ⟨e, .located he, rfl⟩
  · rintro ⟨e, ⟨he⟩, rfl⟩
    exact ⟨e, he, rfl⟩

/-- What is refused of a reference: its locator as it stands, or else the trimmed one. -/
theorem refusedLocator_written_iff {content : Option String} {f : Media.Reference}
    (hf : Media.Reference.find? (content.getD "").toList = some f) {e : Locator.Fault} :
    RefusedLocator (.written content) e ↔ Locator.path f.url = .error e ∨
      (∃ path, Locator.path f.url = .ok path) ∧ Locator.path (trim f.url) = .error e := by
  constructor
  · rintro (_ | ⟨hg, he⟩ | ⟨hg, hpath, he⟩)
    · obtain rfl := Option.some.inj (hf.symm.trans hg)
      exact Or.inl he
    · obtain rfl := Option.some.inj (hf.symm.trans hg)
      exact Or.inr ⟨⟨_, hpath⟩, he⟩
  · rintro (he | ⟨⟨path, hpath⟩, he⟩)
    · exact .standing hf he
    · exact .trimmed hf hpath he

theorem writtenFault_iff {content : Option String} {fault : Fault} :
    (mediaLocators (.written content)).findSome? locatorFault = some fault ↔
      ∃ e, RefusedLocator (.written content) e ∧ fault = .locator e := by
  cases hf : Media.Reference.find? (content.getD "").toList with
  | none =>
    rw [mediaLocators, hf, List.findSome?_nil]
    refine iff_of_false (by simp) ?_
    rintro ⟨e, he, -⟩
    cases he with
    | standing hg | trimmed hg =>
      rw [hf] at hg
      cases hg
  | some f =>
    rw [mediaLocators_of_find hf, List.findSome?_append, List.findSome?_singleton,
      List.findSome?_singleton, Option.or_eq_some_iff, locatorFault_eq_some_iff,
      locatorFault_eq_none_iff, locatorFault_eq_some_iff, trimmed, String.toList_ofList,
      String.toList_ofList]
    simp only [refusedLocator_written_iff hf, or_and_right, exists_or, and_assoc,
      exists_and_left]

theorem mediaFault_eq_some_iff {source : MediaSource String} {fault : Fault} :
    (mediaLocators source).findSome? locatorFault = some fault ↔
      ∃ e, RefusedLocator source e ∧ fault = .locator e := by
  cases source with
  | located url alt => exact locatedFault_iff
  | written content => exact writtenFault_iff

/-- Of the elements only media are refused. -/
theorem elementFault_eq_some_iff {e : Element String} {fault : Fault} :
    (elementLocators e).findSome? locatorFault = some fault ↔
      ∃ source d, e = .media source ∧ RefusedLocator source d ∧ fault = .locator d := by
  cases e with
  | media source =>
    refine mediaFault_eq_some_iff.trans ⟨?_, ?_⟩
    · rintro ⟨d, hd, hfault⟩
      exact ⟨source, d, rfl, hd, hfault⟩
    · rintro ⟨s, d, hs, hd, hfault⟩
      obtain rfl := Element.media.inj hs
      exact ⟨d, hd, hfault⟩
  | _ =>
    refine iff_of_false (by simp [elementLocators]) ?_
    rintro ⟨source, d, hs, -⟩
    cases hs

/-- **The faults of lines** are the ones that lines offend with. -/
theorem lineFault_eq_some_iff {l : Line String} {fault : Fault} :
    lineFault l = some fault ↔ Offends l fault := by
  cases l with
  | plain e =>
    refine (elementFault_eq_some_iff (e := e)).trans ⟨?_, ?_⟩
    · rintro ⟨source, d, rfl, hd, rfl⟩
      exact .plain hd
    · intro h
      cases h with
      | plain hd => exact ⟨_, _, rfl, hd, rfl⟩
  | foreign kind =>
    refine iff_of_false (by simp [lineFault, lineLocators]) ?_
    intro h
    cases h
  | styled inner style =>
    cases inner with
    | plain e =>
      refine (elementFault_eq_some_iff (e := e)).trans ⟨?_, ?_⟩
      · rintro ⟨source, d, rfl, hd, rfl⟩
        exact .styled style hd
      · intro h
        cases h with
        | styled _ hd => exact ⟨_, _, rfl, hd, rfl⟩
    | foreign kind =>
      refine iff_of_false (by simp [lineFault, lineLocators]) ?_
      intro h
      cases h
    | styled l s =>
      constructor
      · intro h
        obtain rfl := Option.some.inj h
        exact .nested l s style
      · intro h
        cases h with
        | nested => rfl

theorem line_error_iff {l : Line String} {fault : Fault} :
    (line l).outcome = .error fault ↔ Offends l fault := by
  rw [← Report.fault?_eq_some_iff, fault?_line, lineFault_eq_some_iff]

theorem lineFault_eq_none_iff_forall {l : Line String} :
    lineFault l = none ↔ ∀ fault, ¬Offends l fault := by
  rw [Option.eq_none_iff_forall_ne_some]
  exact forall_congr' fun fault => not_congr lineFault_eq_some_iff

theorem isSome_lineFault_iff {l : Line String} :
    (lineFault l).isSome ↔ ∃ fault, Offends l fault := by
  rw [Option.isSome_iff_exists]
  exact exists_congr fun fault => lineFault_eq_some_iff

theorem exists_error_iff {ε α : Type} {x : Except ε α} :
    (∃ e, x = .error e) ↔ ¬∃ a, x = .ok a := by
  cases x <;> simp

/-- A line offends in one of two ways. -/
theorem exists_offends_iff {l : Line String} : (∃ fault, Offends l fault) ↔
    ¬l.Unnested ∨ ∃ url ∈ lineLocators l, ∃ e, Locator.path url.toList = .error e := by
  by_cases hl : l.Unnested
  · rw [or_iff_right (not_not_intro hl), ← not_forall_not, ← lineFault_eq_none_iff_forall,
      lineFault_eq_none_iff hl]
    simp only [exists_error_iff, not_forall, exists_prop]
  · refine iff_of_true ?_ (Or.inl hl)
    unfold Line.Unnested at hl
    split at hl
    · rename_i l inner outer
      exact ⟨.nestedStyle, .nested l inner outer⟩
    · exact absurd trivial hl

/-! ## Decks -/

/-- **The first line that offends ends the work.**  A deck cannot be rendered exactly if a style
block stands in another one, or if a locator of a media line is refused.  Its fault is that of
the first such line, as it is when this line is rendered by itself, whatever stands in the other
lines, in the metadata and in the shell. -/
theorem page_error_iff (p : Presentation String) (shell : Shell) :
    ((∃ fault, (presentation p shell).outcome = .error fault) ↔ ∃ l ∈ p.lines, ¬l.Unnested ∨
      ∃ url ∈ lineLocators l, ∃ e, Locator.path url.toList = .error e) ∧
    (∀ fault, (presentation p shell).outcome = .error fault ↔
      ∃ before l after, p.lines = before ++ l :: after ∧
        (∀ k ∈ before, ∀ e, ¬Offends k e) ∧ Offends l fault) ∧
    ∀ l fault, (line l).outcome = .error fault ↔ Offends l fault := by
  refine ⟨?_, fun fault => ?_, fun l fault => line_error_iff⟩
  · calc (∃ fault, (presentation p shell).outcome = .error fault)
        ↔ (presentation p shell).fault?.isSome := by
          simp only [Option.isSome_iff_exists, Report.fault?_eq_some_iff]
      _ ↔ ∃ l ∈ p.lines, (lineFault l).isSome := by
          rw [fault?_presentation, List.findSome?_isSome_iff]
      _ ↔ _ := by simp only [isSome_lineFault_iff, exists_offends_iff]
  · rw [← Report.fault?_eq_some_iff, fault?_presentation, List.findSome?_eq_some_iff]
    simp only [lineFault_eq_some_iff, lineFault_eq_none_iff_forall]
    constructor
    · rintro ⟨before, l, after, hsplit, hl, hbefore⟩
      exact ⟨before, l, after, hsplit, hbefore, hl⟩
    · rintro ⟨before, l, after, hsplit, hbefore, hl⟩
      exact ⟨before, l, after, hsplit, hl, hbefore⟩

end Deck.Render
