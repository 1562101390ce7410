import Deck.Proofs.Emphasis.MarkedUp
import Deck.Proofs.Html.Unescape

/-!
# Nothing is lost by formatting

Formatted text is read as pieces: characters, and the tags between them.  `Restored` puts
delimiters back in the place of tags.  It chooses a delimiter where an element opens, among
those that the tag may stand for, keeps it while the element is open, and writes the same one
where the element closes.

* `restored_of_markedUp`: marked-up text goes back to the text that it came from, whatever
  surrounds it.  The induction is on how the text was marked up.
* `withoutMarks_of_restored`: putting delimiters back adds marks and nothing else.
* `format_restored`: **formatted text goes back to the escaped text**, and without tags,
  marks and entities it is the text without its marks.
-/

namespace Deck.Emphasis

open Html Text

/-! ## Pieces -/

/-- A character of formatted text, or a tag. -/
inductive Piece where
  | char (c : Char)
  | opening (tag : String)
  | closing (tag : String)
  deriving DecidableEq, Repr

/-- The tag with this text between its angle brackets. -/
def Piece.ofTag (s : List Char) : Piece :=
  match s with
  | '/' :: name => .closing (String.ofList name)
  | name => .opening (String.ofList name)

/-- The character that a piece is, if it is no tag. -/
def Piece.char? : Piece → Option Char
  | .char c => some c
  | .opening _ | .closing _ => none

/-- The pieces of a text: a tag goes from an angle bracket to the next closing one. -/
def pieces (s : List Char) : List Piece :=
  match s with
  | [] => []
  | c :: r =>
    if c = '<' then .ofTag (r.takeWhile (· != '>')) :: pieces (r.dropWhile (· != '>')).tail
    else .char c :: pieces r
termination_by s.length
decreasing_by
  · have h := (List.dropWhile_sublist (l := r) (· != '>')).length_le
    rw [List.length_tail, List.length_cons]
    omega
  · exact Nat.lt_succ_self r.length

theorem pieces_append_of_not_mem {s : List Char} (h : '<' ∉ s) (t : List Char) :
    pieces (s ++ t) = s.map .char ++ pieces t := by
  induction s with
  | nil => rfl
  | cons c r ih =>
    obtain ⟨hc, hr⟩ := List.ne_and_not_mem_of_not_mem_cons h
    rw [List.cons_append, pieces, if_neg hc.symm, ih hr]
    rfl

theorem pieces_append_tag {name : List Char} (h : '>' ∉ name) (t : List Char) :
    pieces ('<' :: (name ++ '>' :: t)) = .ofTag name :: pieces t := by
  rw [pieces, if_pos rfl, takeWhile_ne_append h, dropWhile_ne_append h, List.tail_cons]

/-! ## Putting delimiters back -/

/-- What each tag may stand for. -/
def tagDelimiters : List (String × List Char) :=
  [("strong", ['*', '*']), ("u", ['_', '_']), ("em", ['*']), ("em", ['_'])]

/-- The second text is made of the pieces, with delimiters in place of the tags.  The elements
that are open are given from the inside out, each with the delimiter that it opened with. -/
inductive Restored : List (String × List Char) → List Piece → List Char → Prop
  | nil : Restored [] [] []
  | char {around : List (String × List Char)} {ps : List Piece} {s : List Char} (c : Char) :
      Restored around ps s → Restored around (.char c :: ps) (c :: s)
  | opening {around : List (String × List Char)} {ps : List Piece} {s : List Char}
      {tag : String} {d : List Char} : (tag, d) ∈ tagDelimiters →
      Restored ((tag, d) :: around) ps s → Restored around (.opening tag :: ps) (d ++ s)
  | closing {around : List (String × List Char)} {ps : List Piece} {s : List Char}
      {tag : String} {d : List Char} : Restored around ps s →
      Restored ((tag, d) :: around) (.closing tag :: ps) (d ++ s)

theorem Restored.chars {around : List (String × List Char)} {ps : List Piece} {t : List Char}
    (h : Restored around ps t) (s : List Char) : Restored around (s.map .char ++ ps) (s ++ t) := by
  induction s with
  | nil => exact h
  | cons c r ih => exact .char c ih

theorem pieces_opening {p : Pass} (hp : p ∈ passes) (t : List Char) :
    pieces (p.opening ++ t) = .opening p.tag :: pieces t := by
  have hname : ∀ p ∈ passes, '>' ∉ p.tag.toList ∧ Piece.ofTag p.tag.toList = .opening p.tag := by
    decide
  obtain ⟨hend, htag⟩ := hname p hp
  have htext : p.opening ++ t = '<' :: (p.tag.toList ++ '>' :: t) := by simp [Pass.opening]
  rw [htext, pieces_append_tag hend, htag]

theorem pieces_closing {p : Pass} (hp : p ∈ passes) (t : List Char) :
    pieces (p.closing ++ t) = .closing p.tag :: pieces t := by
  have hname : ∀ p ∈ passes, '>' ∉ '/' :: p.tag.toList ∧
      Piece.ofTag ('/' :: p.tag.toList) = .closing p.tag := by
    decide
  obtain ⟨hend, htag⟩ := hname p hp
  have htext : p.closing ++ t = '<' :: ('/' :: p.tag.toList ++ '>' :: t) := by simp [Pass.closing]
  rw [htext, pieces_append_tag hend, htag]

theorem mem_tagDelimiters {p : Pass} (hp : p ∈ passes) : (p.tag, p.delimiter) ∈ tagDelimiters := by
  revert p
  decide

/-- **Marked-up text goes back to the text that it came from**, whatever surrounds it. -/
theorem restored_of_markedUp {outer : List Pass} {s t : List Char} (h : MarkedUp outer s t)
    {around : List (String × List Char)} {s' t' : List Char}
    (hrest : Restored around (pieces t') s') : Restored around (pieces (t ++ t')) (s ++ s') := by
  induction h generalizing around s' t' with
  | @text outer s hs =>
    rw [pieces_append_of_not_mem (hs.not_mem (Or.inl rfl))]
    exact hrest.chars s
  | @span outer p s t hp _ _ _ ih =>
    -- What follows the content closes the element with the delimiter that opened it.
    have hclose : Restored ((p.tag, p.delimiter) :: around) (pieces (p.closing ++ t'))
        (p.delimiter ++ s') := by
      rw [pieces_closing hp]
      exact .closing hrest
    simp only [List.append_assoc]
    rw [pieces_opening hp]
    exact .opening (mem_tagDelimiters hp) (ih hclose)
  | append _ _ ih₁ ih₂ =>
    rw [List.append_assoc, List.append_assoc]
    exact ih₁ (ih₂ hrest)

/-! ## Texts without marks -/

def isMark (c : Char) : Bool := c == '*' || c == '_'

def withoutMarks (s : List Char) : List Char := s.filter (!isMark ·)

/-- A text without the tags in it. -/
def withoutTags (s : List Char) : List Char := (pieces s).filterMap Piece.char?

theorem withoutMarks_delimiter {tag : String} {d : List Char} (h : (tag, d) ∈ tagDelimiters) :
    withoutMarks d = [] := by
  have hall : ∀ e ∈ tagDelimiters, withoutMarks e.2 = [] := by decide
  exact hall (tag, d) h

theorem withoutMarks_append (s t : List Char) :
    withoutMarks (s ++ t) = withoutMarks s ++ withoutMarks t :=
  List.filter_append s t

/-- **Putting delimiters back adds marks and nothing else.** -/
theorem withoutMarks_of_restored {around : List (String × List Char)} {ps : List Piece}
    {s : List Char} (h : Restored around ps s) (haround : ∀ e ∈ around, e ∈ tagDelimiters) :
    withoutMarks (ps.filterMap Piece.char?) = withoutMarks s := by
  induction h with
  | nil => rfl
  | @char around ps s c _ ih =>
    show withoutMarks ([c] ++ ps.filterMap Piece.char?) = withoutMarks ([c] ++ s)
    rw [withoutMarks_append, withoutMarks_append, ih haround]
  | opening hd _ ih =>
    rw [withoutMarks_append, withoutMarks_delimiter hd, List.nil_append]
    exact ih (List.forall_mem_cons.mpr ⟨hd, haround⟩)
  | closing _ ih =>
    obtain ⟨hd, haround⟩ := List.forall_mem_cons.mp haround
    rw [withoutMarks_append, withoutMarks_delimiter hd, List.nil_append]
    exact ih haround

theorem withoutMarks_entity (c : Char) :
    withoutMarks (entity c) = escapeChars (withoutMarks [c]) := by
  by_cases hc : isMark c = true
  · have hmark : c = '*' ∨ c = '_' := by simpa [isMark] using hc
    rcases hmark with rfl | rfl <;> rfl
  · have hkeep : withoutMarks [c] = [c] := by simp [withoutMarks, hc]
    rw [hkeep, escapeChars_cons, escapeChars_nil, List.append_nil, withoutMarks,
      List.filter_eq_self]
    intro x hx
    rw [Bool.not_eq_true', ← Bool.not_eq_true]
    intro hmark
    have hxc : c = x := mem_entity_of_mark (by simpa [isMark] using hmark) hx
    exact hc (hxc ▸ hmark)

/-- Marks may be left out before or after escaping. -/
theorem withoutMarks_escapeChars (s : List Char) :
    withoutMarks (escapeChars s) = escapeChars (withoutMarks s) := by
  induction s with
  | nil => rfl
  | cons c r ih =>
    rw [escapeChars_cons, withoutMarks_append, ih, withoutMarks_entity, ← escapeChars_append,
      ← withoutMarks_append, List.singleton_append]

/-- **Formatting loses nothing.**  With delimiters put back in the place of its tags, formatted
text is the escaped text; and without tags, marks and entities it is the text without marks. -/
theorem format_restored (s : String) :
    Restored [] (pieces (format s).toList) (escape s).toList ∧
      unescape (withoutMarks (withoutTags (format s).toList)) = withoutMarks s.toList := by
  have hnil : Restored [] (pieces []) [] := by
    rw [pieces]
    exact .nil
  have hrestored : Restored [] (pieces (format s).toList) (escape s).toList := by
    have h := restored_of_markedUp (markedUp_formatChars s.toList) hnil
    rw [List.append_nil, List.append_nil] at h
    rwa [format, escape, String.toList_ofList, String.toList_ofList]
  refine ⟨hrestored, ?_⟩
  rw [withoutTags, withoutMarks_of_restored hrestored (by simp), escape, String.toList_ofList,
    withoutMarks_escapeChars, unescape_escapeChars]

end Deck.Emphasis
