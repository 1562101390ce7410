import Deck.Proofs.Render.Styled

/-!
# Lines that are dropped

A line of which nothing is left leaves the empty text in its place and a record in the log.  There
is one record for each such line and none for another one, whatever else is told of style blocks
and of attributes.

* `Record.TellsDrop`: the records that tell of a line that has been dropped.
* `tellsDrop_record_iff`: the notices that they are made of.
* `tellsDrops_element`, `tellsDrops_line`: what is told of a line is one such record if it comes
  out empty, and none else.
* `count_eq_of_along`: in a block the records count the lines that come out empty.
* `dropped_lines_told`: **no line vanishes silently**, and every line keeps its place.
-/

namespace Deck

open Text

/-! ## Records of dropped lines -/

/-- The record tells that a line has been dropped: a code block or a media line that is
malformed, or something that is no line. -/
def Record.TellsDrop (r : Record) : Prop :=
  r.severity = .warning ∧
    ((r.origin = "slidedeckml.code_fence" ∨ r.origin = "slidedeckml.media") ∧
        "Skipping malformed".toList <+: r.text.toList ∨
      r.origin = "slidedeckml.elements" ∧ "Dropping unrecognised".toList <+: r.text.toList)

instance (r : Record) : Decidable r.TellsDrop := inferInstanceAs (Decidable (_ ∧ _))

/-- The notices about lines that are dropped. -/
def Notice.tellsDrop : Notice → Bool
  | .badFence _ | .badMedia _ | .foreignLine _ => true
  | _ => false

theorem prefix_toList_append {start before : String} (h : start.toList <+: before.toList)
    (after : String) : start.toList <+: (before ++ after).toList := by
  rw [String.toList_append]
  exact h.trans (List.prefix_append _ _)

/-- Of two texts that start a text, one starts the other. -/
theorem not_prefix_toList_append {start before : String}
    (h : ¬start.toList <+: before.toList) (h' : ¬before.toList <+: start.toList)
    (after : String) : ¬start.toList <+: (before ++ after).toList := by
  rw [String.toList_append]
  intro hstart
  exact (List.prefix_or_prefix_of_prefix hstart (List.prefix_append _ _)).elim h h'

theorem tellsDrop_record_iff (n : Notice) : n.record.TellsDrop ↔ n.tellsDrop = true := by
  cases n with
  | badFence opening =>
    exact iff_of_true ⟨rfl, Or.inl ⟨Or.inl rfl, prefix_toList_append (by decide) _⟩⟩ rfl
  | badMedia content =>
    exact iff_of_true ⟨rfl, Or.inl ⟨Or.inr rfl, prefix_toList_append (by decide) _⟩⟩ rfl
  | foreignLine kind =>
    exact iff_of_true ⟨rfl, Or.inr ⟨rfl, prefix_toList_append (by decide) _⟩⟩ rfl
  | badFenceStart value =>
    -- This is a warning about a code block, too, but it starts with another word.
    refine iff_of_false ?_ Bool.false_ne_true
    rintro ⟨-, ⟨-, hprefix⟩ | ⟨horigin, -⟩⟩
    · exact not_prefix_toList_append (by decide) (by decide) _ hprefix
    · simp [Notice.record, Notice.origin] at horigin
  | styleIgnored | unknownNode | unknownStyledNode =>
    refine iff_of_false ?_ Bool.false_ne_true
    rintro ⟨-, ⟨horigin, -⟩ | ⟨horigin, -⟩⟩ <;> simp [Notice.record, Notice.origin] at horigin
  | styleRead | unknownFenceAttribute | mediaRead | sectionsRendered | deckLoaded =>
    refine iff_of_false ?_ Bool.false_ne_true
    rintro ⟨hseverity, -⟩
    cases hseverity

namespace Render

/-! ## Elements -/

/-- What is told of a line: one record if it comes out empty, and none else. -/
def Accounted (out : String) (drops : Nat) : Prop := drops = if out = "" then 1 else 0

/-- What there is to tell of work that yields a line. -/
def TellsDrops (r : Report String) : Prop := r.Tallies Notice.tellsDrop Accounted

theorem StyleSlot.ne_empty {tag : String} {text : String → String} (h : StyleSlot tag text)
    (style : String) : text style ≠ "" := by
  obtain ⟨attributes, rest, -, -, htext⟩ := h
  intro hempty
  rw [htext] at hempty
  exact absurd (congrArg String.toList hempty) (by simp)

theorem mediaMarkup_ne_empty (style : String) (ext : List Char) (url alt : String) :
    mediaMarkup style ext url alt ≠ "" := by
  by_cases hvideo : Media.isVideoExtension ext = true
  · exact (styleSlot_video hvideo url alt).ne_empty style
  · exact (styleSlot_picture (by simpa using hvideo) url alt).ne_empty style

/-- A line of which something is left, without a notice. -/
theorem tellsDrops_of_ne_empty {x : Except Fault String} (h : ∀ out, x = .ok out → out ≠ "") :
    TellsDrops (Report.ofExcept x) :=
  Report.Tallies.ofExcept fun out hout => (if_neg (h out hout)).symm

theorem tellsDrops_of_slot {tag style : String} {text : String → String}
    (h : StyleSlot tag text) {x : Except Fault String} (hx : x = .ok (text style)) :
    TellsDrops (Report.ofExcept x) :=
  tellsDrops_of_ne_empty fun _ hout => Except.ok.inj (hx.symm.trans hout) ▸ h.ne_empty style

/-- A line of which nothing is left, with the notice of it. -/
theorem tellsDrops_note {n : Notice} (h : n.tellsDrop = true) :
    TellsDrops ((Report.note n).bind fun _ => Report.pure "") := by
  intro out hout
  obtain rfl := Except.ok.inj hout
  show [n].countP _ = 1
  rw [List.countP_singleton, if_pos h]

/-- Whatever locator is split, markup that comes of it is not empty. -/
theorem tellsDrops_of_mediaMarkup {x : Except Fault String} {ext : Except Fault (List Char)}
    {style url alt : String} (h : x = ext.map fun ext => mediaMarkup style ext url alt) :
    TellsDrops (Report.ofExcept x) := by
  refine tellsDrops_of_ne_empty fun out hout => ?_
  rw [h] at hout
  cases ext with
  | error e => cases hout
  | ok ext =>
    obtain rfl := Except.ok.inj hout
    exact mediaMarkup_ne_empty style ext url alt

theorem tellsDrops_located (style url : String) (alt : Option String) :
    TellsDrops (mediaElement style (.located url alt)) := by
  obtain ⟨text, htext⟩ := located_outcome url alt
  exact tellsDrops_of_mediaMarkup (htext style)

theorem mediaTag_eq_map (style url alt : String) : mediaTag style url alt =
    (mediaExtension (trimmed url)).map fun ext => mediaMarkup style ext (trimmed url) alt := by
  unfold mediaTag
  cases mediaExtension (trimmed url) <;> rfl

theorem tellsDrops_writtenMedia (style content : String) :
    TellsDrops (writtenMedia style content) := by
  unfold writtenMedia
  cases Media.Reference.find? content.toList with
  | none => exact tellsDrops_note rfl
  | some f =>
    refine Report.Tallies.bind_of_silent (r := Report.ofExcept _) rfl fun ext _ => ?_
    refine Report.Tallies.bind_of_silent (r := Report.note _) rfl fun _ _ => ?_
    exact tellsDrops_of_mediaMarkup (mediaTag_eq_map style _ _)

theorem tellsDrops_mediaElement (style : String) (source : MediaSource String) :
    TellsDrops (mediaElement style source) := by
  cases source with
  | located url alt => exact tellsDrops_located style url alt
  | written content =>
    rw [mediaElement, givenOr_empty]
    exact tellsDrops_writtenMedia style _

/-- The notices about attributes tell of no line. -/
theorem countP_lineDirectives (attributes : String) :
    (lineDirectives attributes).notices.countP Notice.tellsDrop = 0 := by
  show (((Fence.scan attributes.toList).filterMap fun a : Fence.Attribute =>
    attributeNotice a.meaning) ++ []).countP Notice.tellsDrop = 0
  rw [List.append_nil, List.countP_eq_zero]
  intro n hn
  obtain ⟨a, -, ha⟩ := List.mem_filterMap.mp hn
  cases hmeaning : a.meaning <;> rw [hmeaning] at ha <;> cases ha <;> exact Bool.false_ne_true

theorem tellsDrops_codeBlock (style raw : String) : TellsDrops (codeBlock style raw) := by
  unfold codeBlock
  cases Fence.read? raw.toList with
  | none => exact tellsDrops_note rfl
  | some b =>
    refine Report.Tallies.bind_of_silent (countP_lineDirectives _) fun directives _ => ?_
    exact tellsDrops_of_ne_empty (x := .ok _) fun out hout =>
      Except.ok.inj hout ▸ codeMarkup_ne_empty _ _ _

/-- The indentation leaves empty what is empty. -/
theorem tellsDrops_code (style content : String) :
    TellsDrops (element style (.code content)) := by
  refine (tellsDrops_codeBlock style content).bind_pure fun markup n hn => ?_
  by_cases hempty : markup = ""
  · rwa [if_pos hempty, ← hempty]
  · have hindented : lineIndent ++ markup ≠ "" := by
      intro h
      exact absurd (congrArg String.toList h) (by simp [lineIndent])
    rw [if_neg hempty, Accounted, if_neg hindented]
    rwa [Accounted, if_neg hempty] at hn

theorem tellsDrops_element (style : String) (e : Element String) :
    TellsDrops (element style e) := by
  cases e with
  | heading level text => exact tellsDrops_of_slot (styleSlot_tagged (Or.inr ⟨_, rfl⟩) _) rfl
  | paragraph text => exact tellsDrops_of_slot (styleSlot_tagged (Or.inl (by decide)) _) rfl
  | quote text => exact tellsDrops_of_slot (styleSlot_tagged (Or.inl (by decide)) _) rfl
  | list kind items =>
    exact tellsDrops_of_slot (styleSlot_listMarkup kind _) (element_list_outcome style kind items)
  | media source => exact tellsDrops_mediaElement style source
  | code content => exact tellsDrops_code style content

/-! ## Lines -/

/-- What is told of a style block is nothing about its line. -/
theorem countP_lineStyle (style : Option String) :
    (lineStyle style).notices.countP Notice.tellsDrop = 0 := by
  rw [lineStyle_eq, styleAttribute]
  split <;> rfl

/-- **What is told of a line:** one record if it comes out empty, and none else. -/
theorem tellsDrops_line (l : Line String) : TellsDrops (line l) := by
  cases l with
  | plain e => exact tellsDrops_element "" e
  | foreign kind => exact tellsDrops_note rfl
  | styled inner style =>
    cases inner with
    | plain e =>
      exact Report.Tallies.bind_of_silent (countP_lineStyle style) fun s _ => tellsDrops_element s e
    | foreign kind =>
      exact Report.Tallies.bind_of_silent (countP_lineStyle style) fun s _ => tellsDrops_note rfl
    | styled l s => exact fun out hout => (nomatch hout)

/-! ## Blocks -/

/-- Along a block the records count the lines that come out empty. -/
theorem count_eq_of_along {ls : List (Line String)} {outs : List String} {drops : Nat}
    (h : Report.Along (fun _ => Accounted) ls outs drops) : outs.count "" = drops := by
  induction h with
  | nil => rfl
  | @cons l out m n ls outs hout _ ih =>
    rw [List.count_cons, ih, hout, Nat.add_comm]
    simp only [beq_iff_eq]

theorem length_filter_log {α : Type} (r : Report α) :
    (r.log.filter (·.TellsDrop)).length = r.notices.countP Notice.tellsDrop := by
  rw [← List.countP_eq_length_filter, Report.log, List.countP_map]
  refine List.countP_congr fun n _ => ?_
  simp [tellsDrop_record_iff]

theorem exists_record_iff {α : Type} (r : Report α) :
    (∃ x ∈ r.log, x.TellsDrop) ↔ 0 < r.notices.countP Notice.tellsDrop := by
  rw [← length_filter_log, List.length_pos_iff_exists_mem]
  simp

/-- **No line vanishes silently.**  A line that is rendered comes out empty exactly if the log
tells that it has been dropped, which it tells once at most.  In a block every line keeps its
place and is what it is by itself, and the log tells of as many lines as have come out empty. -/
theorem dropped_lines_told :
    (∀ (l : Line String) out, (line l).outcome = .ok out →
      (out = "" ↔ ∃ r ∈ (line l).log, r.TellsDrop) ∧
        ((line l).log.filter (·.TellsDrop)).length ≤ 1) ∧
    ∀ b : Block String,
      (∀ out, (block b).outcome = .ok out ↔ ∃ outs,
        List.Forall₂ (fun l o => (line l).outcome = .ok o) b.lines outs ∧
          out = "\n".intercalate outs) ∧
      ∀ outs, List.Forall₂ (fun l o => (line l).outcome = .ok o) b.lines outs →
        outs.count "" = ((block b).log.filter (·.TellsDrop)).length := by
  refine ⟨fun l out hout => ?_, fun b => ⟨fun out => ?_, fun outs houts => ?_⟩⟩
  · have hdrops : _ = if out = "" then 1 else 0 := tellsDrops_line l out hout
    rw [exists_record_iff, length_filter_log, hdrops]
    by_cases hempty : out = "" <;> simp [hempty]
  · rw [block, Report.bind_def, Report.bind_outcome_eq_ok_iff]
    refine exists_congr fun outs => and_congr Report.each_outcome_eq_ok_iff ?_
    rw [Report.pure_def, Except.ok.injEq, eq_comm]
  · have heach := Report.each_outcome_eq_ok_iff.mpr houts
    have halong : Report.Along (fun _ => Accounted) b.lines outs _ :=
      Report.Tallies.each (fun l _ => tellsDrops_line l) outs heach
    have hblock : (block b).notices = (Report.each line b.lines).notices := by
      rw [block, Report.bind_def, Report.bind_of_ok heach]
      exact List.append_nil _
    rw [length_filter_log, hblock]
    exact count_eq_of_along halong

/-- A line with a malformed code block, and with a style block that is ignored. -/
def malformedLine : Line String := .styled (.plain (.code "x = 1")) (some "color: red")

/-- A block of which one line is left. -/
def thinnedBlock : Block String := ⟨[.foreign "int", .plain (.paragraph "kept"), malformedLine]⟩

theorem thinnedBlock_told :
    (∃ r ∈ (line malformedLine).log, r.TellsDrop) ∧
      (block thinnedBlock).outcome = .ok "\n            <p>kept</p>\n" ∧
      ((block thinnedBlock).log.filter (·.TellsDrop)).length = 2 := by
  have hlines : List.Forall₂ (fun l o => (line l).outcome = .ok o) thinnedBlock.lines
      ["", "            <p>kept</p>", ""] :=
    .cons rfl (.cons (by decide +kernel) (.cons (by decide +kernel) .nil))
  obtain ⟨hline, hblock⟩ := dropped_lines_told
  exact ⟨(hline _ "" (by decide +kernel)).1.mp rfl, ((hblock _).1 _).mpr ⟨_, hlines, by decide⟩,
    ((hblock _).2 _ hlines).symm⟩

end Render

end Deck
