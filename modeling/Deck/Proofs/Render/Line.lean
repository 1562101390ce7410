import Deck.Proofs.Emphasis.Nesting
import Deck.Proofs.Render.Attributes
import Deck.Proofs.Render.Fields
import Deck.Proofs.Render.Outline

/-!
# The markup of a line

Whatever its fields hold, a line that is rendered is well-nested markup, and its
landmarks are those of its outline.  There is one lemma for each form of markup that a
line can take, and `markup_element` goes through the elements.

* `markup_line`: the statement for a line, plain or with a style block.
-/

namespace Deck.Render

open Html Text

/-! ## Elements in one piece -/

theorem markup_string_append {s t : String} {ls ms : List String} (hs : Markup s.toList ls)
    (ht : Markup t.toList ms) : Markup (s ++ t).toList (ls ++ ms) := by
  rw [String.toList_append]
  exact hs.append ht

/-- Blanks in front of markup change nothing of its landmarks. -/
theorem markup_indented {indent s : String} (hindent : isPlain indent.toList = true)
    {ls : List String} (hs : Markup s.toList ls) : Markup (indent ++ s).toList ls :=
  markup_string_append (markup_of_isPlain hindent) hs

theorem isPlain_lineIndent : isPlain lineIndent.toList = true := by decide

theorem toList_tagged {tag style content : String} {as : List Attribute}
    (hstyle : style.toList = as.flatMap Attribute.text) :
    (tagged tag style content).toList = startTag tag as ++ content.toList ++ endTag tag := by
  simp [tagged, startTag, endTag, hstyle]

theorem markup_tagged {tag style content : String} (htag : IsElementTag tag)
    (hsection : tag ≠ "section") (hstyle : IsAttributes style) {ls : List String}
    (hcontent : Markup content.toList ls) :
    Markup (tagged tag style content).toList ([tag].filter isLandmark ++ ls) := by
  obtain ⟨as, has⟩ := hstyle
  rw [toList_tagged has]
  exact markup_element as htag hsection hcontent

/-! ## Lists -/

/-- A joined list is its first piece, and each other piece with the separator in front. -/
theorem intercalate_cons_eq_flatMap (sep s : List Char) (ss : List (List Char)) :
    sep.intercalate (s :: ss) = s ++ ss.flatMap (sep ++ ·) := by
  induction ss generalizing s with
  | nil => rw [List.intercalate_singleton, List.flatMap_nil, List.append_nil]
  | cons t ss ih =>
    rw [List.intercalate_cons_cons, ih, List.flatMap_cons]
    simp only [List.append_assoc]

theorem toList_listMarkup {tag style : String} {as : List Attribute}
    (hstyle : style.toList = as.flatMap Attribute.text) (items : List String) :
    (listMarkup tag style items).toList = lineIndent.toList ++ (startTag tag as ++
      (items.flatMap (fun s => ("\n" ++ innerIndent ++ tagged "li" "" s).toList) ++
        ("\n" ++ lineIndent).toList) ++ endTag tag) := by
  rw [listMarkup, List.cons_append, String.toList_intercalate, List.map_cons,
    intercalate_cons_eq_flatMap]
  simp [startTag, endTag, hstyle, List.flatMap_map, List.map_map, Function.comp_def]

theorem markup_listMarkup {tag style : String} (htag : tag = "ul" ∨ tag = "ol")
    (hstyle : IsAttributes style) (items : List String) :
    Markup (listMarkup tag style (items.map Emphasis.format)).toList
      (tag :: items.map fun _ => "li") := by
  obtain ⟨as, has⟩ := hstyle
  have htag' : IsElementTag tag ∧ tag ≠ "section" ∧ [tag].filter isLandmark = [tag] := by
    rcases htag with rfl | rfl
    · exact ⟨Or.inl (by decide), by decide, by decide⟩
    · exact ⟨Or.inl (by decide), by decide, by decide⟩
  obtain ⟨helement, hsection, hlandmark⟩ := htag'
  have hitem : ∀ s ∈ items,
      Markup ("\n" ++ innerIndent ++ tagged "li" "" (Emphasis.format s)).toList ["li"] := by
    intro s _
    refine markup_indented (by decide) ?_
    exact markup_tagged (Or.inl (by decide)) (by decide) isAttributes_empty
      (Emphasis.markup_format s)
  have hitems := (markup_flatMap hitem).append
    (markup_of_isPlain (s := ("\n" ++ lineIndent).toList) (by decide))
  have hlist := markup_element as helement hsection hitems
  rw [toList_listMarkup has, List.flatMap_map]
  rw [hlandmark, List.append_nil, ← List.map_eq_flatMap] at hlist
  exact (markup_of_isPlain isPlain_lineIndent).append hlist

/-! ## Code -/

theorem markup_codeMarkup {style : String} (hstyle : IsAttributes style) {directives : List String}
    (hdirectives : ∀ d ∈ directives, IsDirective d) (code : List Char) :
    Markup (codeMarkup style directives code).toList ["pre"] := by
  obtain ⟨as, has⟩ := hstyle
  have hall : ∀ d ∈ "data-trim" :: "data-noescape" :: directives, IsDirective d := by
    intro d hd
    rcases List.mem_cons.mp hd with rfl | hd
    · exact ⟨.bare "data-trim" (by decide), by simp⟩
    rcases List.mem_cons.mp hd with rfl | hd
    · exact ⟨.bare "data-noescape" (by decide), by simp⟩
    · exact hdirectives d hd
  obtain ⟨bs, hbs⟩ := exists_attributes_of_directives hall (by simp)
  have hcode : IsElementTag "code" := Or.inl (by decide)
  have hpre : IsElementTag "pre" := Or.inl (by decide)
  have hinner := markup_element bs hcode (by decide)
    (.text (escaped_escape (String.ofList code)))
  have houter := markup_element as hpre (by decide) hinner
  have htext : (codeMarkup style directives code).toList = startTag "pre" as ++
      (startTag "code" bs ++ (escape (String.ofList code)).toList ++ endTag "code") ++
        endTag "pre" := by
    rw [startTag, startTag, ← has, ← hbs]
    simp [codeMarkup, endTag]
  rw [htext]
  exact houter

/-- A code block, or the empty text that a malformed one leaves. -/
theorem markup_codeBlock {style raw out : String} (hstyle : IsAttributes style)
    (h : (codeBlock style raw).outcome = .ok out) :
    Markup out.toList (if (Fence.read? raw.toList).isSome then ["pre"] else []) := by
  rw [codeBlock_outcome, Except.ok.injEq] at h
  subst h
  cases hread : Fence.read? raw.toList with
  | none => exact .text .nil
  | some b =>
    refine markup_codeMarkup hstyle (fun d hd => ?_) b.code
    rcases List.mem_append.mp hd with hd | hd
    · exact isDirective_of_mem_language hread d hd
    · exact isDirective_of_mem_numbering (fun s => isNumeral_of_start) d hd

/-! ## Pictures and videos -/

theorem escaped_videoFormat (ext : List Char) :
    Escaped ("video/" ++ Media.videoFormat ext).toList := by
  refine escaped_of_isPlain ?_
  unfold Media.videoFormat
  split
  · decide
  split
  · decide
  split <;> decide

/-- The attributes that hold a locator and the text of a picture. -/
def pictureAttributes (url alt : String) : List Attribute :=
  [.quoted "src" (by decide) (escaped_escape url), .quoted "alt" (by decide) (escaped_escape alt)]

/-- The attributes of the source of a video. -/
def sourceAttributes (url : String) (ext : List Char) : List Attribute :=
  [.quoted "src" (by decide) (escaped_escape url),
    .quoted "type" (by decide) (escaped_videoFormat ext)]

theorem markup_picture {style : String} (hstyle : IsAttributes style) {ext : List Char}
    (hext : Media.isVideoExtension ext = false) (url alt : String) :
    Markup (mediaMarkup style ext url alt).toList ["img"] := by
  obtain ⟨as, has⟩ := hstyle
  have htext : (mediaMarkup style ext url alt).toList =
      lineIndent.toList ++ startTag "img" (pictureAttributes url alt ++ as) := by
    simp [mediaMarkup, hext, startTag, pictureAttributes, has]
  rw [htext]
  exact (markup_of_isPlain isPlain_lineIndent).append (.void _ (by decide))

theorem markup_video {style : String} (hstyle : IsAttributes style) {ext : List Char}
    (hext : Media.isVideoExtension ext = true) (url alt : String) :
    Markup (mediaMarkup style ext url alt).toList ["video"] := by
  obtain ⟨as, has⟩ := hstyle
  have hbreak : Markup ("\n" ++ innerIndent).toList [] := markup_of_isPlain (by decide)
  have hend : Markup ("\n" ++ lineIndent).toList [] := markup_of_isPlain (by decide)
  have hsource : Markup (startTag "source" (sourceAttributes url ext)) [] :=
    .void _ (by decide)
  have hinner := (((hbreak.append hsource).append hbreak).append
    (.text (escaped_escape alt))).append hend
  have htag : IsElementTag "video" := Or.inl (by decide)
  have hvideo := markup_element (.bare "controls" (by decide) :: as) htag (by decide) hinner
  have htext : (mediaMarkup style ext url alt).toList = lineIndent.toList ++
      (startTag "video" (.bare "controls" (by decide) :: as) ++
        (("\n" ++ innerIndent).toList ++ startTag "source" (sourceAttributes url ext) ++
          ("\n" ++ innerIndent).toList ++ (escape alt).toList ++ ("\n" ++ lineIndent).toList) ++
        endTag "video") := by
    simp [mediaMarkup, hext, startTag, endTag, sourceAttributes, has]
  rw [htext]
  exact (markup_of_isPlain isPlain_lineIndent).append hvideo

theorem markup_mediaMarkup {style : String} (hstyle : IsAttributes style) (ext : List Char)
    (url alt : String) : Markup (mediaMarkup style ext url alt).toList
      [if Media.isVideoExtension ext then "video" else "img"] := by
  by_cases hext : Media.isVideoExtension ext = true
  · rw [if_pos hext]
    exact markup_video hstyle hext url alt
  · rw [if_neg hext]
    exact markup_picture hstyle (by simpa using hext) url alt

theorem markup_of_mediaExtension {style url alt : String} (hstyle : IsAttributes style)
    {ext : List Char} (h : mediaExtension url = .ok ext) :
    Markup (mediaMarkup style ext url alt).toList (locatorOutline url) := by
  rw [locatorOutline, mediaExtension_eq_ok_iff.mp h]
  exact markup_mediaMarkup hstyle ext url alt

theorem markup_mediaElement {style out : String} (hstyle : IsAttributes style)
    {source : MediaSource String} (h : (mediaElement style source).outcome = .ok out) :
    Markup out.toList (mediaOutline source) := by
  cases source with
  | located url alt =>
    obtain ⟨text, htext⟩ := located_outcome url alt
    rw [htext] at h
    cases hext : mediaExtension (trimmed url) with
    | error e =>
      rw [hext] at h
      exact absurd h (by simp [Except.map])
    | ok ext =>
      rw [hext] at h
      obtain rfl := Except.ok.inj h
      exact markup_of_mediaExtension hstyle hext
  | written content =>
    rw [mediaOutline]
    cases hf : Media.Reference.find? (content.getD "").toList with
    | none =>
      rw [written_outcome_of_none hf] at h
      obtain rfl := Except.ok.inj h
      exact .text .nil
    | some f =>
      rw [written_outcome_of_some hf] at h
      cases hraw : mediaExtension (String.ofList f.url) with
      | error e =>
        rw [hraw] at h
        exact absurd h (by simp [Except.bind])
      | ok _ =>
        cases hext : mediaExtension (trimmed (String.ofList f.url)) with
        | error e =>
          rw [hraw, hext] at h
          exact absurd h (by simp [Except.bind, Except.map])
        | ok ext =>
          rw [hraw, hext] at h
          obtain rfl := Except.ok.inj h
          exact markup_of_mediaExtension hstyle hext

/-! ## Lines -/

/-- An element with one piece of formatted text. -/
theorem markup_formatted {tag style : String} (htag : IsElementTag tag) (hsection : tag ≠ "section")
    (hlandmark : isLandmark tag = true) (hstyle : IsAttributes style) (text : String) :
    Markup (lineIndent ++ tagged tag style (Emphasis.format text)).toList [tag] := by
  have h := markup_tagged htag hsection hstyle (Emphasis.markup_format text)
  rw [List.filter_cons, if_pos hlandmark] at h
  exact markup_indented isPlain_lineIndent h

theorem markup_of_element {style out : String} (hstyle : IsAttributes style) {e : Element String}
    (h : (element style e).outcome = .ok out) : Markup out.toList (elementOutline e) := by
  cases e with
  | heading level text =>
    obtain rfl := Except.ok.inj h
    refine markup_formatted (Or.inr ⟨_, rfl⟩) ?_ (isLandmark_heading _) hstyle text
    intro hsection
    have hhead := congrArg (List.head? ∘ String.toList) hsection
    simp at hhead
  | paragraph text =>
    obtain rfl := Except.ok.inj h
    exact markup_formatted (Or.inl (by decide)) (by decide) (by decide) hstyle text
  | quote text =>
    obtain rfl := Except.ok.inj h
    exact markup_formatted (Or.inl (by decide)) (by decide) (by decide) hstyle text
  | list kind items =>
    rw [element_list_outcome] at h
    obtain rfl := Except.ok.inj h
    cases kind with
    | unordered => exact markup_listMarkup (Or.inl rfl) hstyle items
    | ordered => exact markup_listMarkup (Or.inr rfl) hstyle items
  | media source => exact markup_mediaElement hstyle h
  | code content =>
    rw [element_code_outcome] at h
    cases hcode : (codeBlock style content).outcome with
    | error e =>
      rw [hcode] at h
      exact absurd h (by simp [Except.map])
    | ok markup =>
      rw [hcode] at h
      obtain rfl := Except.ok.inj h
      have hmarkup := markup_codeBlock hstyle hcode
      dsimp only
      split
      · rename_i hempty
        rwa [hempty] at hmarkup
      · exact markup_indented isPlain_lineIndent hmarkup

/-- **What a line is rendered as.** -/
theorem markup_line {l : Line String} {out : String} (h : (line l).outcome = .ok out) :
    Markup out.toList (lineOutline l) := by
  cases l with
  | plain e => exact markup_of_element isAttributes_empty h
  | foreign kind =>
    obtain rfl : "" = out := Except.ok.inj h
    exact .text .nil
  | styled inner style =>
    cases inner with
    | plain e =>
      obtain ⟨s, hs, he⟩ := Report.bind_outcome_eq_ok_iff.mp h
      rw [lineStyle_outcome] at hs
      exact markup_of_element (isAttributes_of_style hs) he
    | foreign kind =>
      obtain ⟨s, -, he⟩ := Report.bind_outcome_eq_ok_iff.mp h
      obtain rfl : "" = out := Except.ok.inj he
      exact .text .nil
    | styled _ _ => exact absurd h (by simp [line, Report.fail])

end Deck.Render
