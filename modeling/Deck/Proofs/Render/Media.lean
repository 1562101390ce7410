import Deck.Proofs.Locator.Authority
import Deck.Proofs.Media.Search
import Deck.Proofs.Render.Fields

/-!
# References that are rendered

Of a line of text the leftmost reference is rendered, and all else in it counts for nothing.

A media element holds a reference as it is written, or the locator and the alternative text by
themselves.  The locator of a written reference is split twice, once as it stands and once
trimmed, while a locator by itself is trimmed first.  So the two forms come out alike unless the
blanks behind the locator make a difference, and these count only where they end up in the
authority.

* `written_outcome_complete`, `located_outcome_complete`: what the two forms come out as.
* `media_outcome_eq_iff`: when these are the same, for one element and one style.
* `variants_agree_iff`: **a reference is rendered as its parts are**, on a line with a style block
  or without one, exactly if the blanks behind its authority do not count.
* `leftmost_reference_rendered`: **a text is rendered as its leftmost reference**, and comes out
  empty if it has none.
-/

namespace Deck.Media.Reference

/-- The media element that holds a reference as it is written. -/
def written (f : Reference) : MediaSource String := .written (some (String.ofList f.write))

/-- The media element that holds the parts of a reference. -/
def located (f : Reference) : MediaSource String :=
  .located (String.ofList f.url) (some (String.ofList f.alt))

end Deck.Media.Reference

namespace Deck.Render

open Text Media Locator

/-! ## Outcomes of media elements -/

theorem mediaExtension_eq_error_iff {url : String} {fault : Fault} :
    mediaExtension url = .error fault ↔ ∃ e, path url.toList = .error e ∧ fault = .locator e := by
  unfold mediaExtension Locator.extension
  cases path url.toList with
  | ok p => simp [Except.map]
  | error e => simp [Except.map, eq_comm]

variable {f : Reference}

/-- The tag for a reference whose locator is trimmed first. -/
def trimmedMarkup (style : String) (f : Reference) : Except Fault String :=
  (mediaExtension (trimmed (String.ofList f.url))).map fun ext =>
    mediaMarkup style ext (trimmed (String.ofList f.url)) (String.ofList f.alt)

theorem trimmedMarkup_eq_error_iff {style : String} {e : Locator.Fault} :
    trimmedMarkup style f = .error (.locator e) ↔ path (trim f.url) = .error e := by
  have hsplit : path (trimmed (String.ofList f.url)).toList = path (trim f.url) := by
    rw [trimmed, String.toList_ofList, String.toList_ofList]
  calc trimmedMarkup style f = .error (.locator e)
      ↔ mediaExtension (trimmed (String.ofList f.url)) = .error (.locator e) := by
        rw [trimmedMarkup]
        cases mediaExtension (trimmed (String.ofList f.url)) <;> simp [Except.map]
    _ ↔ path (trim f.url) = .error e := by
        rw [mediaExtension_eq_error_iff, hsplit]
        simp

/-- A reference by its parts is trimmed at once. -/
theorem located_outcome_complete (hf : f.Complete) (style : String) :
    (mediaElement style f.located).outcome = trimmedMarkup style f := by
  have halt : String.ofList f.alt ≠ "" := by
    intro h
    exact hf.alt_ne_nil (by simpa using congrArg String.toList h)
  exact located_outcome_of_alt (givenOr_of_ne_empty _ _ halt) style _

/-- The locator of a written reference has to be accepted as it stands, too. -/
theorem written_outcome_complete (hf : f.Complete) (style : String) :
    (mediaElement style f.written).outcome =
      (mediaExtension (String.ofList f.url)).bind fun _ => trimmedMarkup style f := by
  refine written_outcome_of_some ?_ style
  rw [Option.getD_some, String.toList_ofList]
  exact hf.find?_write

/-- What is only checked before changes the outcome if the check fails and the rest does not fail
in the same way. -/
theorem bind_const_eq_iff {ε α β : Type} (r : Except ε α) (x : Except ε β) :
    (r.bind fun _ => x) = x ↔ ∀ e, r = .error e → x = .error e := by
  cases r with
  | ok a => simp [Except.bind]
  | error d => simp [Except.bind, eq_comm]

theorem media_outcome_eq_iff (hf : f.Complete) (style : String) :
    (mediaElement style f.written).outcome = (mediaElement style f.located).outcome ↔
      JudgedAlike f.url := by
  rw [written_outcome_complete hf, located_outcome_complete hf, bind_const_eq_iff, judgedAlike_iff]
  constructor
  · intro h e he
    refine trimmedMarkup_eq_error_iff.mp (h _ (mediaExtension_eq_error_iff.mpr ⟨e, ?_, rfl⟩))
    rwa [String.toList_ofList]
  · intro h fault hfault
    obtain ⟨e, he, rfl⟩ := mediaExtension_eq_error_iff.mp hfault
    rw [String.toList_ofList] at he
    exact trimmedMarkup_eq_error_iff.mpr (h e he)

/-! ## Lines -/

/-- **A reference is rendered as its parts are**, on a line with a style block or without one,
exactly if the blanks behind its authority do not count. -/
theorem variants_agree_iff (hf : f.Complete) :
    ((line (.plain (.media f.written))).outcome = (line (.plain (.media f.located))).outcome ↔
      JudgedAlike f.url) ∧
    ∀ style, (line (.styled (.plain (.media f.written)) style)).outcome =
        (line (.styled (.plain (.media f.located)) style)).outcome ↔ JudgedAlike f.url := by
  refine ⟨media_outcome_eq_iff hf "", fun style => ?_⟩
  obtain ⟨added, hadded⟩ := exists_styleAttribute (style.getD "")
  have hstyle : (lineStyle style).outcome = .ok added := (lineStyle_outcome style).trans hadded
  rw [line_outcome_of_lineStyle hstyle, line_outcome_of_lineStyle hstyle]
  exact media_outcome_eq_iff hf added

/-- A reference with blanks around its locator, the authority of which is a numeric address. -/
def paddedVideo : Reference := ⟨"a".toList, "\n http://[::1]/b.mp4 ".toList⟩

theorem paddedVideo_agrees : paddedVideo.Complete ∧
    (line (.plain (.media paddedVideo.written))).outcome =
      (line (.plain (.media paddedVideo.located))).outcome ∧
    ∀ style, (line (.styled (.plain (.media paddedVideo.written)) style)).outcome =
      (line (.styled (.plain (.media paddedVideo.located)) style)).outcome := by
  have hcomplete : paddedVideo.Complete :=
    ⟨by decide, by decide, by decide, by decide⟩
  have hpath : path paddedVideo.url = .ok "/b.mp4 ".toList := by decide +kernel
  have halike : JudgedAlike paddedVideo.url :=
    judgedAlike_iff.mpr fun e he => nomatch hpath.symm.trans he
  obtain ⟨hplain, hstyled⟩ := variants_agree_iff hcomplete
  exact ⟨hcomplete, hplain.mpr halike, fun style => (hstyled style).mpr halike⟩

/-- A reference with a blank behind its locator, which ends with the authority. -/
def paddedHost : Reference := ⟨"a".toList, "http://[::1] ".toList⟩

/-- The blank becomes part of the authority of the written reference, which is refused for it. -/
theorem paddedHost_refused : paddedHost.Complete ∧
    (line (.plain (.media paddedHost.written))).outcome = .error (.locator .badBrackets) ∧
    (line (.plain (.media paddedHost.located))).outcome =
      .ok "            <img src=\"http://[::1]\" alt=\"a\">" := by
  refine ⟨⟨by decide, by decide, by decide, by decide⟩, ?_, ?_⟩
  · decide +kernel
  · decide +kernel

/-! ## Texts with references in them -/

/-- A locator that is accepted as it stands leaves the tag to the trimmed one. -/
theorem writtenMedia_of_find? {content : String} (hfind : Reference.find? content.toList = some f)
    {p : List Char} (hpath : path f.url = .ok p) (style : String) :
    ∃ video, writtenMedia style content =
      ⟨[.mediaRead (String.ofList f.alt) (String.ofList f.url) video],
        mediaTag style (String.ofList f.url) (String.ofList f.alt)⟩ := by
  have hext : mediaExtension (String.ofList f.url) = .ok (lower (extensionOf p)) := by
    rw [mediaExtension_eq_ok_iff, String.toList_ofList, Locator.extension, hpath]
    rfl
  refine ⟨Media.isVideoExtension (lower (extensionOf p)), ?_⟩
  rw [writtenMedia, hfind]
  dsimp only
  rw [hext]
  rfl

open Reference in
/-- **A text is rendered as its leftmost reference.**  If any reference stands in the text, then
one of them is the leftmost, and it is the only one at its place.  If its locator is accepted as it
stands, then the text comes out as the tag for its parts, whatever follows them.  A text without
a reference comes out empty, with one warning. -/
theorem leftmost_reference_rendered (style content : String) :
    ((∃ before f after, StandsIn content.toList before f after) →
      ∃ before f after, Leftmost content.toList before f after) ∧
    (∀ before f after, Leftmost content.toList before f after →
      (∀ g after', StandsIn content.toList before g after' → g = f ∧ after' = after) ∧
      ((∃ p, path f.url = .ok p) → ∀ (content' : String) (rest : List Char),
        content'.toList = before ++ f.write ++ rest →
          (writtenMedia style content').outcome =
              mediaTag style (String.ofList f.url) (String.ofList f.alt) ∧
            (writtenMedia style content').warnings = [])) ∧
    ((∀ before f after, ¬StandsIn content.toList before f after) →
      (writtenMedia style content).outcome = .ok "" ∧
        (writtenMedia style content).warnings.length = 1) := by
  refine ⟨?_, fun before f after hf => ⟨fun g after' hg => hf.toStandsIn.unique hg, ?_⟩, ?_⟩
  · rintro ⟨before, f, after, hf⟩
    cases hfind : find? content.toList with
    | none => exact absurd hf (find?_eq_none_iff.mp hfind before f after)
    | some g =>
      obtain ⟨before', after', hg⟩ := find?_eq_some_iff.mp hfind
      exact ⟨before', g, after', hg⟩
  · rintro ⟨p, hpath⟩ content' rest hcontent
    have hfind : find? content'.toList = some f := by
      rw [hcontent]
      rw [hf.text_eq] at hf
      exact find?_eq_some_iff.mpr ⟨before, rest, hf.of_after rest⟩
    obtain ⟨video, hrendered⟩ := writtenMedia_of_find? hfind hpath style
    rw [hrendered]
    exact ⟨rfl, rfl⟩
  · intro hnone
    rw [writtenMedia, find?_eq_none_iff.mpr hnone]
    exact ⟨rfl, rfl⟩

/-- Two references behind false starts: an alternative text that is empty, and a bracket that no
locator follows.  The alternative text of the first one holds the start of another. -/
def crowdedLine : String := "![](x) ![a]b ![c![d](e.mp4 )![f](g)"

theorem crowdedLine_rendered : ∃ before after,
    Reference.Leftmost crowdedLine.toList before ⟨"c![d".toList, "e.mp4 ".toList⟩ after ∧
      (∃ p, path "e.mp4 ".toList = .ok p) ∧
      (writtenMedia "" crowdedLine).outcome = .ok
        ("            <video controls>\n                <source src=\"e.mp4\" type=\"video/mp4\">\n"
          ++ "                c![d\n            </video>") := by
  have hpath : path "e.mp4 ".toList = .ok "e.mp4 ".toList := by decide +kernel
  have hfind : Reference.find? crowdedLine.toList = some ⟨"c![d".toList, "e.mp4 ".toList⟩ := by
    decide +kernel
  obtain ⟨before, after, hf⟩ := Reference.find?_eq_some_iff.mp hfind
  refine ⟨before, after, hf, ⟨_, hpath⟩, ?_⟩
  obtain ⟨-, hrendered, -⟩ := leftmost_reference_rendered "" crowdedLine
  rw [((hrendered before _ after hf).2 ⟨_, hpath⟩ crowdedLine after hf.text_eq).1]
  decide +kernel

end Deck.Render
