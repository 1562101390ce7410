import Deck.Proofs.Emphasis.MarkedUp

/-!
# Formatting line by line

A text is cut at its line breaks, and the breaks are kept between the lines.  Escaping leaves
line breaks alone, and no pass finds a span that goes over one, so that formatting the text is
formatting its lines.

* `Lines.ofText_eq_iff`: a text can be cut into lines in one way.
* `Lines.text_map`: what works on each side of a line break by itself works line by line.
* `formatChars_append_break`: each pass works so, and all of them together do.
* `format_lines`: **formatting works line by line.**
-/

namespace Deck.Emphasis

open Html

/-! ## Lines -/

/-- The two characters that end a line. -/
inductive LineBreak where
  | carriageReturn
  | lineFeed
  deriving DecidableEq, Repr

namespace LineBreak

def char : LineBreak → Char
  | .carriageReturn => '\r'
  | .lineFeed => '\n'

def text (b : LineBreak) : String := String.singleton b.char

/-- The line break that a character is, if it is one. -/
def ofChar? (c : Char) : Option LineBreak :=
  if c = '\r' then some .carriageReturn else if c = '\n' then some .lineFeed else none

theorem ofChar?_char (b : LineBreak) : ofChar? b.char = some b := by
  cases b <;> rfl

theorem char_of_ofChar? {c : Char} {b : LineBreak} (h : ofChar? c = some b) : b.char = c := by
  unfold ofChar? at h
  split at h
  · rename_i hc
    rw [← Option.some.inj h, hc]
    rfl
  · split at h
    · rename_i hc
      rw [← Option.some.inj h, hc]
      rfl
    · exact absurd h (by simp)

end LineBreak

/-- No line break occurs in the text. -/
def Unbroken (s : List Char) : Prop := ∀ b : LineBreak, b.char ∉ s

theorem unbroken_nil : Unbroken [] := fun _ => List.not_mem_nil

theorem unbroken_cons {c : Char} {s : List Char} :
    Unbroken (c :: s) ↔ LineBreak.ofChar? c = none ∧ Unbroken s := by
  constructor
  · intro h
    refine ⟨Option.eq_none_iff_forall_ne_some.mpr ?_, fun b hb => h b (List.mem_cons_of_mem c hb)⟩
    intro b hb
    refine h b ?_
    rw [LineBreak.char_of_ofChar? hb]
    exact List.mem_cons_self
  · rintro ⟨hc, hs⟩ b hb
    rcases List.mem_cons.mp hb with rfl | hb
    · rw [b.ofChar?_char] at hc
      exact absurd hc (by simp)
    · exact hs b hb

/-- A text cut at line breaks: the first line, and each break with the line behind it. -/
structure Lines where
  first : List Char
  rest : List (LineBreak × List Char)
  deriving DecidableEq, Repr

namespace Lines

/-- The lines without the breaks. -/
def lines (ls : Lines) : List (List Char) := ls.first :: ls.rest.map Prod.snd

/-- The lines with the breaks between them. -/
def text (ls : Lines) : List Char := ls.first ++ ls.rest.flatMap fun l => l.1.char :: l.2

/-- Works on each line. -/
def map (f : List Char → List Char) (ls : Lines) : Lines :=
  ⟨f ls.first, ls.rest.map fun l => (l.1, f l.2)⟩

/-- A text cut at all its line breaks. -/
def ofText : List Char → Lines
  | [] => ⟨[], []⟩
  | c :: r =>
    match LineBreak.ofChar? c with
    | some b => ⟨[], (b, (ofText r).first) :: (ofText r).rest⟩
    | none => ⟨c :: (ofText r).first, (ofText r).rest⟩

theorem text_cons (first line : List Char) (b : LineBreak) (rest : List (LineBreak × List Char)) :
    text ⟨first, (b, line) :: rest⟩ = first ++ b.char :: text ⟨line, rest⟩ := by
  simp [text]

theorem text_ofText (s : List Char) : (ofText s).text = s := by
  induction s with
  | nil => rfl
  | cons c r ih =>
    rw [ofText]
    split
    · rename_i b hb
      rw [text_cons, LineBreak.char_of_ofChar? hb, List.nil_append]
      exact congrArg (c :: ·) ih
    · exact congrArg (c :: ·) ih

theorem unbroken_of_mem_ofText (s : List Char) : ∀ l ∈ (ofText s).lines, Unbroken l := by
  induction s with
  | nil => exact List.forall_mem_singleton.mpr unbroken_nil
  | cons c r ih =>
    obtain ⟨hfirst, hrest⟩ := List.forall_mem_cons.mp ih
    rw [ofText]
    split
    · exact List.forall_mem_cons.mpr ⟨unbroken_nil, List.forall_mem_cons.mpr ⟨hfirst, hrest⟩⟩
    · rename_i hc
      exact List.forall_mem_cons.mpr ⟨unbroken_cons.mpr ⟨hc, hfirst⟩, hrest⟩

theorem ofText_append_of_unbroken {u : List Char} (hu : Unbroken u) (s : List Char) :
    ofText (u ++ s) = ⟨u ++ (ofText s).first, (ofText s).rest⟩ := by
  induction u with
  | nil => rfl
  | cons c u ih =>
    obtain ⟨hc, hu⟩ := unbroken_cons.mp hu
    rw [List.cons_append, ofText, hc, ih hu]
    rfl

theorem ofText_text : ∀ {ls : Lines}, (∀ l ∈ ls.lines, Unbroken l) → ofText ls.text = ls := by
  rintro ⟨first, rest⟩ h
  induction rest generalizing first with
  | nil =>
    have hfirst := ofText_append_of_unbroken (List.forall_mem_singleton.mp h) []
    simpa [text, ofText] using hfirst
  | cons l rest ih =>
    obtain ⟨b, line⟩ := l
    obtain ⟨hfirst, hrest⟩ := List.forall_mem_cons.mp h
    rw [text_cons, ofText_append_of_unbroken hfirst, ofText, b.ofChar?_char]
    simp only [ih line hrest, List.append_nil]

/-- **A text can be cut into lines in one way.** -/
theorem ofText_eq_iff {s : List Char} {ls : Lines} :
    ofText s = ls ↔ ls.text = s ∧ ∀ l ∈ ls.lines, Unbroken l := by
  constructor
  · rintro rfl
    exact ⟨text_ofText s, unbroken_of_mem_ofText s⟩
  · rintro ⟨rfl, h⟩
    exact ofText_text h

/-- What works on each side of a line break by itself works line by line. -/
theorem text_map {f : List Char → List Char}
    (hf : ∀ (b : LineBreak) (u v : List Char), f (u ++ b.char :: v) = f u ++ b.char :: f v)
    (ls : Lines) : f ls.text = (ls.map f).text := by
  obtain ⟨first, rest⟩ := ls
  induction rest generalizing first with
  | nil => simp [text, map]
  | cons l rest ih =>
    obtain ⟨b, line⟩ := l
    rw [text_cons, hf, ih line]
    exact (text_cons (f first) (f line) b (rest.map fun l => (l.1, f l.2))).symm

theorem lines_map (f : List Char → List Char) (ls : Lines) : (ls.map f).lines = ls.lines.map f := by
  simp [lines, map]

/-- What is no line break stands in one of the lines. -/
theorem mem_text_iff {c : Char} (hc : ∀ b : LineBreak, c ≠ b.char) (ls : Lines) :
    c ∈ ls.text ↔ ∃ l ∈ ls.lines, c ∈ l := by
  obtain ⟨first, rest⟩ := ls
  induction rest generalizing first with
  | nil => simp [text, lines]
  | cons l rest ih =>
    obtain ⟨b, line⟩ := l
    rw [text_cons, List.mem_append, List.mem_cons, ih line]
    simp [lines, hc b]

end Lines

/-! ## Line breaks and passes -/

theorem bars_break (p : Pass) (b : LineBreak) : p.bars b.char = true := by
  cases b <;> simp [Pass.bars, LineBreak.char]

theorem break_ne_mark {p : Pass} (hp : p ∈ passes) (b : LineBreak) : b.char ≠ p.mark := by
  revert p
  cases b <;> decide

theorem escapeChars_append_break (b : LineBreak) (u v : List Char) :
    escapeChars (u ++ b.char :: v) = escapeChars u ++ b.char :: escapeChars v := by
  have hb : entity b.char = [b.char] := by cases b <;> rfl
  rw [escapeChars_append, escapeChars_cons, hb, List.singleton_append]

/-- The passes, one after the other, work on each side of a line break by themselves. -/
theorem run_append_break (b : LineBreak) (v : List Char) : ∀ {ps : List Pass}, ps ⊆ passes →
    ∀ u : List Char, run ps (u ++ b.char :: v) = run ps u ++ b.char :: run ps v := by
  intro ps
  induction ps generalizing v with
  | nil => intro _ u; rfl
  | cons p ps ih =>
    intro hps u
    obtain ⟨hp, hps⟩ := List.cons_subset.mp hps
    rw [run_cons, p.apply_append_bar (width_pos hp) (bars_break p b) (break_ne_mark hp b),
      ih _ hps, run_cons, run_cons]

theorem formatChars_append_break (b : LineBreak) (u v : List Char) :
    formatChars (u ++ b.char :: v) = formatChars u ++ b.char :: formatChars v := by
  show run passes _ = run passes _ ++ b.char :: run passes _
  rw [escapeChars_append_break, run_append_break b _ (List.Subset.refl passes)]

/-- **Formatting works line by line.**  What stands on one side of a line break is formatted as
if there were nothing on the other side; and a text, which is its lines with the breaks between
them, comes out as its formatted lines with the same breaks between them. -/
theorem format_lines :
    (∀ (a b : String) (c : LineBreak),
      format (a ++ c.text ++ b) = format a ++ c.text ++ format b) ∧
    ∀ s : String, (Lines.ofText s.toList).text = s.toList ∧
      (∀ l ∈ (Lines.ofText s.toList).lines, Unbroken l) ∧
      (format s).toList = ((Lines.ofText s.toList).map formatChars).text := by
  constructor
  · intro a b c
    apply String.toList_inj.mp
    have hjoin := formatChars_append_break c a.toList b.toList
    simpa [format, LineBreak.text] using hjoin
  · intro s
    refine ⟨Lines.text_ofText _, Lines.unbroken_of_mem_ofText _, ?_⟩
    rw [← Lines.text_map formatChars_append_break, Lines.text_ofText, format, String.toList_ofList]

-- A delimiter has its partner on the next line, and both stay as they are.
example : format "*a\nb* _c_\r\n**d**" = "*a\nb* <em>c</em>\r\n<strong>d</strong>" := by
  decide +kernel

end Deck.Emphasis
