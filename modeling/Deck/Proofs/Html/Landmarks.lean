import Deck.Text.Scan

/-!
# The landmarks of a page

A tag begins wherever an angle bracket opens, and its name is the run of letters and
digits behind the bracket, with a slash in front where the tag closes an element.  The
*landmarks* of a text are the tags that show how a page is laid out: the start and the
end of each section, and the starts of headings, paragraphs, quotations, lists and their
items, pictures, videos and code blocks.  They are read off the characters alone.

* `landmarks_append_of_not_mem`: text without an opening bracket holds none.
* `landmarks_append_tag`: a tag is read as soon as its name has ended, whatever follows.
-/

namespace Deck.Html

open Text

/-- What may stand in the name of a tag. -/
def isNameChar (c : Char) : Bool := c.isAlphanum || c == '/'

/-- The names of the tags that begin in a text, from left to right. -/
def tagNames : List Char → List String
  | [] => []
  | c :: r =>
    if c = '<' then String.ofList (r.takeWhile isNameChar) :: tagNames r else tagNames r

/-- Whether a name is that of a heading: the letter `h` and a number. -/
def isHeadingName (name : List Char) : Bool :=
  match name with
  | 'h' :: d :: ds => (d :: ds).all Char.isDigit
  | _ => false

/-- The names of the landmarks other than headings. -/
def landmarkNames : List String :=
  ["section", "/section", "p", "blockquote", "ul", "ol", "li", "img", "video", "pre"]

def isLandmark (name : String) : Bool :=
  landmarkNames.contains name || isHeadingName name.toList

/-- The landmarks of a text, from left to right. -/
def landmarks (s : List Char) : List String := (tagNames s).filter isLandmark

/-! ## Reading on -/

theorem tagNames_append_of_not_mem {s : List Char} (h : '<' ∉ s) (t : List Char) :
    tagNames (s ++ t) = tagNames t := by
  induction s with
  | nil => rfl
  | cons c r ih =>
    obtain ⟨hc, hr⟩ := List.ne_and_not_mem_of_not_mem_cons h
    rw [List.cons_append, tagNames, if_neg hc.symm, ih hr]

theorem not_mem_of_isNameChar {name : List Char} (h : ∀ c ∈ name, isNameChar c = true) :
    '<' ∉ name := by
  intro hm
  exact absurd (h '<' hm) (by decide)

theorem takeWhile_isNameChar {name : List Char} (h : ∀ c ∈ name, isNameChar c = true) {c : Char}
    (hc : isNameChar c = false) (t : List Char) : (name ++ c :: t).takeWhile isNameChar = name := by
  exact takeWhile_append_of_all h (by simpa using hc)

/-- A tag is read as soon as its name has ended. -/
theorem tagNames_append_tag {name : List Char} (h : ∀ c ∈ name, isNameChar c = true) {c : Char}
    (hc : isNameChar c = false) (t : List Char) :
    tagNames ('<' :: (name ++ c :: t)) = String.ofList name :: tagNames (c :: t) := by
  rw [tagNames, if_pos rfl, takeWhile_isNameChar h hc,
    tagNames_append_of_not_mem (not_mem_of_isNameChar h)]

theorem landmarks_append_of_not_mem {s : List Char} (h : '<' ∉ s) (t : List Char) :
    landmarks (s ++ t) = landmarks t := by
  rw [landmarks, tagNames_append_of_not_mem h, landmarks]

/-- A landmark is read as soon as its name has ended; any other tag is passed over. -/
theorem landmarks_append_tag {name : List Char} (h : ∀ c ∈ name, isNameChar c = true) {c : Char}
    (hc : isNameChar c = false) (t : List Char) :
    landmarks ('<' :: (name ++ c :: t)) =
      [String.ofList name].filter isLandmark ++ landmarks (c :: t) := by
  rw [landmarks, tagNames_append_tag h hc, ← List.singleton_append, List.filter_append, landmarks]

/-- Whether the name of each tag that begins in a text also ends in it. -/
def namesEnd : List Char → Bool
  | [] => true
  | c :: r => (c != '<' || r.any (!isNameChar ·)) && namesEnd r

theorem takeWhile_append_of_any {p : Char → Bool} {s : List Char} (h : s.any (!p ·) = true)
    (t : List Char) : (s ++ t).takeWhile p = s.takeWhile p := by
  induction s with
  | nil => exact absurd h (by simp)
  | cons c r ih =>
    rw [List.cons_append, List.takeWhile_cons, List.takeWhile_cons]
    split
    · rename_i hc
      rw [ih (by simpa [hc] using h)]
    · rfl

/-- The landmarks of a text in which all names end do not hang on what follows. -/
theorem landmarks_append_of_namesEnd {s : List Char} (h : namesEnd s = true) (t : List Char) :
    landmarks (s ++ t) = landmarks s ++ landmarks t := by
  suffices tagNames (s ++ t) = tagNames s ++ tagNames t by
    rw [landmarks, this, List.filter_append, landmarks, landmarks]
  induction s with
  | nil => rfl
  | cons c r ih =>
    rw [namesEnd, Bool.and_eq_true] at h
    obtain ⟨hc, hr⟩ := h
    rw [List.cons_append, tagNames, tagNames, ih hr]
    split
    · rename_i hlt
      have hany : r.any (!isNameChar ·) = true := by simpa [hlt] using hc
      rw [takeWhile_append_of_any hany, List.cons_append]
    · rfl

/-! ## Text without landmarks -/

/-- Text that shows no landmark, whatever follows it. -/
def Silent (s : List Char) : Prop := ∀ t, landmarks (s ++ t) = landmarks t

/-- A check for text of which all is known. -/
def isSilent (s : List Char) : Bool := namesEnd s && (landmarks s).isEmpty

theorem silent_of_isSilent {s : List Char} (h : isSilent s = true) : Silent s := by
  rw [isSilent, Bool.and_eq_true, List.isEmpty_iff] at h
  intro t
  rw [landmarks_append_of_namesEnd h.1, h.2, List.nil_append]

theorem silent_of_not_mem {s : List Char} (h : '<' ∉ s) : Silent s :=
  landmarks_append_of_not_mem h

theorem Silent.append {s t : List Char} (hs : Silent s) (ht : Silent t) : Silent (s ++ t) := by
  intro r
  rw [List.append_assoc, hs, ht]

theorem Silent.intercalate {sep : List Char} (hsep : Silent sep) {ss : List (List Char)}
    (h : ∀ s ∈ ss, Silent s) : Silent (sep.intercalate ss) := by
  induction ss with
  | nil => intro t; rfl
  | cons s ss ih =>
    have hs := h s List.mem_cons_self
    cases ss with
    | nil => rwa [List.intercalate_singleton]
    | cons r ss =>
      rw [List.intercalate_cons_cons]
      exact (hs.append hsep).append (ih fun x hx => h x (List.mem_cons_of_mem s hx))

end Deck.Html
