import Deck.Proofs.Fence.FirstNumber
import Deck.Proofs.Render.Code

/-!
# Line numbers of a code block

The attributes of a code block become directives.  Different numberings become different
directives, and those of a row of tokens are decided by the last range and the last numeral in
it.

* `numberingDirectives_inj`: the directives tell the numbering.
* `lineDirectives_written`: **the directives of a row of tokens**.
* `spellings_agree_iff`: **when the two spellings of an attribute give the same directives**.
* `firstNumber_whole_iff`: **when the number of the first line is one that can be read**.
-/

namespace Deck.Render

open Fence Html Text

/-! ## Directives -/

/-- The directive that names lines to highlight. -/
def rangeDirective (range : List Char) : String :=
  "data-line-numbers=\"" ++ escape (String.ofList range) ++ "\""

/-- The directive that gives the first line a number. -/
def startDirective (numeral : List Char) : String :=
  "data-ln-start-from=\"" ++ String.ofList numeral ++ "\""

theorem quoted_injective {name s t : String} (h : name ++ s ++ "\"" = name ++ t ++ "\"") :
    s = t := by
  have hlist := congrArg String.toList h
  simp only [String.toList_append] at hlist
  exact String.toList_inj.mp (List.append_cancel_left (List.append_cancel_right hlist))

theorem rangeDirective_inj {s t : List Char} : rangeDirective s = rangeDirective t ↔ s = t := by
  constructor
  · intro h
    unfold rangeDirective at h
    have hescaped := quoted_injective h
    have hdecoded := congrArg (fun x => unescape x.toList) hescaped
    simpa only [unescape_escape, String.toList_ofList] using hdecoded
  · exact congrArg rangeDirective

theorem startDirective_inj {s t : List Char} : startDirective s = startDirective t ↔ s = t := by
  constructor
  · intro h
    unfold startDirective at h
    have hnumeral := quoted_injective h
    exact String.ofList_inj.mp hnumeral
  · exact congrArg startDirective

theorem rangeDirective_ne (range : List Char) : rangeDirective range ≠ "data-line-numbers" := by
  intro h
  unfold rangeDirective at h
  have hlength := congrArg String.length h
  rw [String.length_append, String.length_append] at hlength
  have hopening : "data-line-numbers=\"".length = 19 := by decide
  have hbare : "data-line-numbers".length = 17 := by decide
  omega

section

variable (range numeral : List Char)

theorem numberingDirectives_none : numberingDirectives ⟨none, none⟩ = [] := rfl

theorem numberingDirectives_range :
    numberingDirectives ⟨some range, none⟩ = [rangeDirective range] := rfl

theorem numberingDirectives_start : numberingDirectives ⟨none, some numeral⟩ =
    ["data-line-numbers", startDirective numeral] := rfl

theorem numberingDirectives_both : numberingDirectives ⟨some range, some numeral⟩ =
    [rangeDirective range, startDirective numeral] := rfl

end

/-- **The directives tell the numbering.** -/
theorem numberingDirectives_inj {n m : LineNumbering} :
    numberingDirectives n = numberingDirectives m ↔ n = m := by
  refine ⟨fun h => ?_, congrArg numberingDirectives⟩
  obtain ⟨l, s⟩ := n
  obtain ⟨l', s'⟩ := m
  cases l <;> cases s <;> cases l' <;> cases s' <;>
    simp_all [numberingDirectives_none, numberingDirectives_range, numberingDirectives_start,
      numberingDirectives_both, rangeDirective_inj, startDirective_inj, rangeDirective_ne,
      (rangeDirective_ne _).symm]

/-- The directive turns line numbers on. -/
def turnsNumbersOn (d : String) : Bool := "data-line-numbers".toList.isPrefixOf d.toList

theorem turnsNumbersOn_startDirective (numeral : List Char) :
    turnsNumbersOn (startDirective numeral) = false := by
  have hnumbers : "data-line-numbers".toList = "data-l".toList ++ 'i' :: "ne-numbers".toList := by
    decide
  have hstart : "data-ln-start-from=\"".toList =
      "data-l".toList ++ 'n' :: "-start-from=\"".toList := by decide
  rw [Bool.eq_false_iff, Ne, turnsNumbersOn, List.isPrefixOf_iff_prefix]
  unfold startDirective
  rw [String.toList_append, String.toList_append, hnumbers, hstart, List.append_assoc,
    List.append_assoc, List.prefix_append_right_inj]
  rintro ⟨t, ht⟩
  exact absurd (List.cons.inj ht).1 (by decide)

theorem turnsNumbersOn_rangeDirective (range : List Char) :
    turnsNumbersOn (rangeDirective range) = true := by
  have hbare : "data-line-numbers=\"".toList = "data-line-numbers".toList ++ ['=', '"'] := by
    decide
  rw [turnsNumbersOn, List.isPrefixOf_iff_prefix]
  unfold rangeDirective
  rw [String.toList_append, String.toList_append, hbare, List.append_assoc, List.append_assoc]
  exact List.prefix_append _ _

/-- The first line has the number that the numbering gives it, and no other. -/
theorem startDirective_mem_iff {n : LineNumbering} {numeral : List Char} :
    startDirective numeral ∈ numberingDirectives n ↔ n.start = some numeral := by
  have hnot : ∀ {d}, turnsNumbersOn d = true → startDirective numeral ≠ d := by
    rintro d hd rfl
    rw [turnsNumbersOn_startDirective] at hd
    cases hd
  have hbare := hnot (d := "data-line-numbers") (by decide)
  have hrange := fun range => hnot (turnsNumbersOn_rangeDirective range)
  obtain ⟨_ | range, _ | start⟩ := n
  · simp [numberingDirectives_none]
  · simp [numberingDirectives_start, hbare, startDirective_inj, eq_comm]
  · simp [numberingDirectives_range, hrange]
  · simp [numberingDirectives_both, hrange, startDirective_inj, eq_comm]

/-- Line numbers are turned on once at most. -/
theorem filter_turnsNumbersOn_length (n : LineNumbering) :
    ((numberingDirectives n).filter turnsNumbersOn).length ≤ 1 := by
  have hone : ∀ d, ([d].filter turnsNumbersOn).length ≤ 1 := fun d => List.length_filter_le _ [d]
  have htwo : ∀ d numeral, ([d, startDirective numeral].filter turnsNumbersOn).length ≤ 1 := by
    intro d numeral
    have hstart : [startDirective numeral].filter turnsNumbersOn = [] :=
      List.filter_cons_of_neg (by rw [turnsNumbersOn_startDirective]; exact Bool.false_ne_true)
    rw [← List.singleton_append, List.filter_append, hstart, List.append_nil]
    exact hone d
  obtain ⟨_ | range, _ | numeral⟩ := n
  · exact Nat.zero_le 1
  · exact htwo _ numeral
  · exact hone _
  · exact htwo _ numeral

/-! ## Rows of tokens -/

/-- **The directives of a row of tokens** are those of the last range and the last numeral, and
tokens that say nothing about line numbers change nothing. -/
theorem lineDirectives_written {ts : List Token} {attributes : String}
    (h : WrittenTokens ts attributes.toList) :
    ∃ ds, (lineDirectives attributes).outcome = .ok ds ∧
      (lastRange ts = none → lastStart ts = none → ds = []) ∧
      (∀ range, lastRange ts = some range → lastStart ts = none →
        ds = ["data-line-numbers=\"" ++ escape (String.ofList range) ++ "\""]) ∧
      (∀ numeral, lastRange ts = none → lastStart ts = some numeral →
        ds = ["data-line-numbers", "data-ln-start-from=\"" ++ String.ofList numeral ++ "\""]) ∧
      (∀ range numeral, lastRange ts = some range → lastStart ts = some numeral →
        ds = ["data-line-numbers=\"" ++ escape (String.ofList range) ++ "\"",
          "data-ln-start-from=\"" ++ String.ofList numeral ++ "\""]) ∧
      (ds.filter turnsNumbersOn).length ≤ 1 ∧
      ∀ attributes' : String, WrittenTokens (ts.filter Token.counts) attributes'.toList →
        (lineDirectives attributes').outcome = .ok ds := by
  have houtcome : ∀ {us : List Token} {s : String}, WrittenTokens us s.toList →
      (lineDirectives s).outcome = .ok (numberingDirectives ⟨lastRange us, lastStart us⟩) := by
    intro us s hus
    rw [← numbering_written hus]
    rfl
  refine ⟨numberingDirectives ⟨lastRange ts, lastStart ts⟩, houtcome h, ?_, ?_, ?_, ?_,
    filter_turnsNumbersOn_length _, ?_⟩
  · intro hrange hstart
    rw [hrange, hstart, numberingDirectives_none]
  · intro range hrange hstart
    rw [hrange, hstart, numberingDirectives_range]
    rfl
  · intro numeral hrange hstart
    rw [hrange, hstart, numberingDirectives_start]
    rfl
  · intro range numeral hrange hstart
    rw [hrange, hstart, numberingDirectives_both]
    rfl
  · intro attributes' h'
    rw [houtcome h', lastRange_filter_counts, lastStart_filter_counts]

/-- Two ranges and two starts, of which the last is no numeral, in both spellings, and a key that
is not known. -/
def mixedTokens : List Token :=
  [⟨.valueQuoted, "lines".toList, "1-3,5".toList, by decide, by decide,
      List.all_iff_forall_prop.mp (by decide), by decide⟩,
    ⟨.whole, "start".toList, "7".toList, by decide, by decide,
      List.all_iff_forall_prop.mp (by decide), by decide⟩,
    ⟨.valueQuoted, "theme".toList, "a:b".toList, by decide, by decide,
      List.all_iff_forall_prop.mp (by decide), by decide⟩,
    ⟨.whole, "lines".toList, "<2|4>".toList, by decide, by decide,
      List.all_iff_forall_prop.mp (by decide), by decide⟩,
    ⟨.valueQuoted, "start".toList, "ten".toList, by decide, by decide,
      List.all_iff_forall_prop.mp (by decide), by decide⟩]

def mixedAttributes : String :=
  "lines:'1-3,5',\t'start:7' theme:'a:b' , 'lines:<2|4>',start:'ten'"

theorem mixedAttributes_written : WrittenTokens mixedTokens mixedAttributes.toList := by
  have htab : IsSeparator [',', '\t'] := by decide
  have hspace : IsSeparator [' '] := by decide
  have hspaced : IsSeparator [' ', ',', ' '] := by decide
  have hcomma : IsSeparator [','] := by decide
  exact .cons htab (.cons hspace (.cons hspaced (.cons hcomma (.single _))))

theorem mixedAttributes_directives : WrittenTokens mixedTokens mixedAttributes.toList ∧
    (lineDirectives mixedAttributes).outcome =
      .ok ["data-line-numbers=\"&lt;2|4&gt;\"", "data-ln-start-from=\"7\""] := by
  obtain ⟨ds, hds, -, -, -, hboth, -⟩ := lineDirectives_written mixedAttributes_written
  have hmarkup := hboth "<2|4>".toList "7".toList (by decide) (by decide)
  refine ⟨mixedAttributes_written, ?_⟩
  rw [hds, hmarkup]
  exact congrArg Except.ok (by decide)

/-! ## The two spellings -/

/-- **When the two spellings of an attribute give the same directives**: if the value is bare, or
if neither gives any.  The second spelling gives a range as it is, and so does the first one if
the range is bare. -/
theorem spellings_agree_iff {k v : List Char} (hk : IsKey k) (hv : '\'' ∉ v) :
    ∃ whole quoted,
      (lineDirectives (String.ofList (Spelling.whole.text k v))).outcome = .ok whole ∧
      (lineDirectives (String.ofList (Spelling.valueQuoted.text k v))).outcome = .ok quoted ∧
      (whole = quoted ↔ IsBare (trim v) ∨ whole = [] ∧ quoted = []) ∧
      (k = "lines".toList → trim v ≠ [] →
        quoted = ["data-line-numbers=\"" ++ escape (String.ofList (trim v)) ++ "\""] ∧
        (whole = quoted ↔ IsBare (trim v))) := by
  have houtcome : ∀ s, (lineDirectives (String.ofList s)).outcome =
      .ok (numberingDirectives (.ofAttributes (scan s))) := by
    intro s
    rw [lineDirectives_outcome, String.toList_ofList]
  have hiff := numbering_spellings_iff hk hv
  rw [← numberingDirectives_inj, ← numberingDirectives_inj, ← numberingDirectives_inj,
    LineNumbering.empty, numberingDirectives_none] at hiff
  refine ⟨_, _, houtcome _, houtcome _, hiff, fun hlines hrange => ?_⟩
  have hquoted : numberingDirectives (.ofAttributes (scan (Spelling.valueQuoted.text k v))) =
      [rangeDirective (trim v)] := by
    have hne : "lines".toList ≠ "start".toList := by decide
    rw [numbering_valueQuoted hk hv, if_pos ⟨hlines, hrange⟩,
      if_neg fun h => hne (hlines.symm.trans h.1), numberingDirectives_range]
  refine ⟨hquoted, hiff.trans ⟨?_, Or.inl⟩⟩
  rintro (hbare | ⟨-, hempty⟩)
  · exact hbare
  · exact absurd (hquoted.symm.trans hempty) (List.cons_ne_nil _ _)

/-- A bare range with blanks around it means the same in either spelling. -/
theorem bareRange_kept : IsKey "lines".toList ∧ '\'' ∉ " 1-3,5|7 ".toList ∧
    ∃ whole quoted,
      (lineDirectives "'lines: 1-3,5|7 '").outcome = .ok whole ∧
      (lineDirectives "lines:' 1-3,5|7 '").outcome = .ok quoted ∧
      whole = quoted ∧ quoted = ["data-line-numbers=\"1-3,5|7\""] := by
  have hkey : IsKey "lines".toList := by decide
  have hquote : '\'' ∉ " 1-3,5|7 ".toList := by decide
  obtain ⟨whole, quoted, hwhole, hquoted, -, hlines⟩ := spellings_agree_iff hkey hquote
  obtain ⟨hrange, hiff⟩ := hlines rfl (by decide)
  refine ⟨hkey, hquote, whole, quoted, hwhole, hquoted, hiff.mpr (by decide), ?_⟩
  rw [hrange]
  decide

/-- A range with a blank in it is cut if quotes stand around the whole. -/
theorem spacedRange_cut :
    IsKey "lines".toList ∧ (∀ c ∈ "1, 3".toList, c ≠ '\'' ∧ c ≠ ']' ∧ c ≠ '\r' ∧ c ≠ '\n') ∧
      (lineDirectives "'lines:1, 3'").outcome = .ok ["data-line-numbers=\"1\""] ∧
      (lineDirectives "lines:'1, 3'").outcome = .ok ["data-line-numbers=\"1, 3\""] := by
  have hkey : IsKey "lines".toList := by decide
  have hwhole : scan "'lines:1, 3'".toList =
      [⟨"lines".toList, ['1'], "'lines:1,".toList⟩] := by
    have hread : Attribute.read? "'lines:1, 3'".toList =
        some (⟨"lines".toList, ['1'], "'lines:1,".toList⟩, " 3".toList ++ ['\'']) := by
      decide
    have hidle : ∀ c ∈ " 3".toList, c.isAlpha = false ∧ c ≠ '\'' :=
      List.all_iff_forall_prop.mp (by decide)
    have hquote : scan ['\''] = [] := by
      rw [scan_of_none rfl, scan_nil]
    rw [scan_of_read? hread, scan_append_of_idle hidle, hquote]
  have hquoted : scan "lines:'1, 3'".toList =
      [⟨"lines".toList, "1, 3".toList, "lines:'1, 3'".toList⟩] :=
    scan_valueQuoted (v := "1, 3".toList) hkey (by decide)
  refine ⟨hkey, List.all_iff_forall_prop.mp (by decide), ?_, ?_⟩
  · rw [lineDirectives_outcome, hwhole]
    exact congrArg Except.ok (by decide)
  · rw [lineDirectives_outcome, hquoted]
    exact congrArg Except.ok (by decide)

/-! ## The number of the first line -/

/-- **When the number of the first line can be read.**  The first line gets the last start that is
a numeral.  It is a number that can be read, and of the starts that are none not one makes a
difference, exactly if that numeral is such a number.  So it is wherever all digits are decimal
and a reader takes as many of them. -/
theorem firstNumber_whole_iff (limit : Option Nat) (attributes : String) :
    ∃ ds, (lineDirectives attributes).outcome = .ok ds ∧
      (∀ v : String, "data-ln-start-from=\"" ++ v ++ "\"" ∈ ds ↔
        lastValue Attribute.namesStart (scan attributes.toList) = some v.toList) ∧
      ((∀ v : String, "data-ln-start-from=\"" ++ v ++ "\"" ∈ ds → isWhole limit v.toList = true) ∧
          ds = numberingDirectives ⟨lastValue Attribute.namesLines (scan attributes.toList),
            lastValue (Attribute.namesWholeStart limit) (scan attributes.toList)⟩ ↔
        ∀ v, lastValue Attribute.namesStart (scan attributes.toList) = some v →
          isWhole limit v = true) ∧
      ((∀ c ∈ attributes.toList, isDigit c = true → isDecimal c = true) →
        (∀ n ∈ limit, attributes.length ≤ n) →
          ∀ v : String, "data-ln-start-from=\"" ++ v ++ "\"" ∈ ds →
            isWhole limit v.toList = true) := by
  have hmem : ∀ v : String, "data-ln-start-from=\"" ++ v ++ "\"" ∈
      numberingDirectives (.ofAttributes (scan attributes.toList)) ↔
        lastValue Attribute.namesStart (scan attributes.toList) = some v.toList := by
    intro v
    have hdirective : startDirective v.toList = "data-ln-start-from=\"" ++ v ++ "\"" := by
      unfold startDirective
      rw [String.ofList_toList]
    rw [← hdirective, startDirective_mem_iff, LineNumbering.ofAttributes_eq]
  refine ⟨_, lineDirectives_outcome attributes, hmem, ?_, ?_⟩
  · rw [numberingDirectives_inj, LineNumbering.ofAttributes_eq, LineNumbering.mk.injEq,
      eq_self, true_and, eq_comm, lastValue_wholeStart_iff]
    refine and_iff_right_of_imp fun h v hv => ?_
    rw [← LineNumbering.ofAttributes_eq, hmem] at hv
    exact h v.toList hv
  · intro hdecimal hlength v hv
    rw [← String.length_toList] at hlength
    exact isWhole_of_lastValue hdecimal hlength ((hmem v).mp hv)

/-- A superscript is a digit, but no number can be read from it: it takes the place of a start
that stands before it. -/
theorem superscriptStart_kept :
    (lineDirectives "start:7 start:²").outcome =
        .ok ["data-line-numbers", "data-ln-start-from=\"²\""] ∧
      (∀ limit, isWhole limit "²".toList = false) ∧
      numberingDirectives ⟨lastValue Attribute.namesLines (scan "start:7 start:²".toList),
          lastValue (Attribute.namesWholeStart none) (scan "start:7 start:²".toList)⟩ =
        ["data-line-numbers", "data-ln-start-from=\"7\""] := by
  have hscan : scan "start:7 start:²".toList =
      [⟨"start".toList, ['7'], "start:7".toList⟩, ⟨"start".toList, ['²'], "start:²".toList⟩] := by
    have hfirst : Attribute.read? "start:7 start:²".toList =
        some (⟨"start".toList, ['7'], "start:7".toList⟩, " start:²".toList) := by
      decide +kernel
    have hsecond : Attribute.read? "start:²".toList =
        some (⟨"start".toList, ['²'], "start:²".toList⟩, []) := by
      decide +kernel
    have hspace : ∀ c ∈ [' '], c.isAlpha = false ∧ c ≠ '\'' :=
      List.all_iff_forall_prop.mp (by decide)
    rw [scan_of_read? hfirst, show " start:²".toList = [' '] ++ "start:²".toList from rfl,
      scan_append_of_idle hspace, scan_of_read? hsecond, scan_nil]
  refine ⟨?_, ?_, ?_⟩
  · rw [lineDirectives_outcome, hscan]
    exact congrArg Except.ok (by decide +kernel)
  · intro limit
    rw [Bool.eq_false_iff]
    intro h
    exact absurd ((isWhole_iff.mp h).2.1 '²' (by decide)) (by decide +kernel)
  · rw [hscan]
    decide +kernel

end Deck.Render
