import Deck.Proofs.Html.Escaped
import Deck.Proofs.Html.Landmarks
import Mathlib.Data.List.Forall2

/-!
# Well-nested markup

The markup of a page is a grammar over characters: escaped text, tags that stand alone,
and elements, whose start and end tags enclose markup again.  The tags and the
attributes that may occur are listed, and an attribute carries the proof that its value
is escaped, so that no value can end its own quotes or its tag.

`Markup s ls` says that `s` is such markup and that `ls` are its landmarks, from left to
right.  What the grammar calls landmarks is what the characters show:

* `Markup.landmarks_append`: the landmarks of markup, with any text after it, are the
  ones that the grammar lists.
* `WellNested`: markup, whatever its landmarks.
-/

namespace Deck.Html

/-! ## Tags -/

/-- The tags that stand alone. -/
def voidTags : List String := ["source", "img"]

/-- The tags of elements, headings apart. -/
def elementTags : List String :=
  ["section", "p", "blockquote", "ul", "ol", "li", "strong", "u", "em", "pre", "code", "video"]

/-- Whether a tag encloses something: the tags of a heading are numbered. -/
def IsElementTag (tag : String) : Prop :=
  tag ∈ elementTags ∨ ∃ level : Nat, tag = "h" ++ toString level

/-- The names of attributes. -/
def attributeNames : List String :=
  ["style", "src", "alt", "type", "controls", "class", "data-trim", "data-noescape",
    "data-line-numbers", "data-ln-start-from"]

/-- An attribute, with its value if it has one. -/
structure Attribute where
  name : String
  value : Option (List Char)
  name_mem : name ∈ attributeNames
  escaped : ∀ v, value = some v → Escaped v

namespace Attribute

/-- The attribute as it is written in a tag: a space goes before it, and quotes around its
value. -/
def text (a : Attribute) : List Char :=
  ' ' :: (a.name.toList ++
    match a.value with
    | none => []
    | some v => '=' :: '"' :: (v ++ ['"']))

/-- An attribute without a value. -/
def bare (name : String) (h : name ∈ attributeNames) : Attribute :=
  ⟨name, none, h, fun _ h => absurd h (by simp)⟩

/-- An attribute with a value. -/
def quoted (name : String) (h : name ∈ attributeNames) {v : List Char} (hv : Escaped v) :
    Attribute :=
  ⟨name, some v, h, fun _ h => Option.some.inj h ▸ hv⟩

@[simp] theorem text_bare (name : String) (h : name ∈ attributeNames) :
    (bare name h).text = ' ' :: name.toList := by
  simp [bare, text]

@[simp] theorem text_quoted (name : String) (h : name ∈ attributeNames) {v : List Char}
    (hv : Escaped v) :
    (quoted name h hv).text = ' ' :: (name.toList ++ '=' :: '"' :: (v ++ ['"'])) := rfl

end Attribute

/-- The start tag of an element, or a tag that stands alone. -/
def startTag (tag : String) (as : List Attribute) : List Char :=
  '<' :: (tag.toList ++ (as.flatMap Attribute.text ++ ['>']))

def endTag (tag : String) : List Char := '<' :: '/' :: (tag.toList ++ ['>'])

/-- Well-nested markup, and its landmarks. -/
inductive Markup : List Char → List String → Prop
  | text {s : List Char} : Escaped s → Markup s []
  | void {tag : String} (as : List Attribute) : tag ∈ voidTags →
      Markup (startTag tag as) ([tag].filter isLandmark)
  | element {tag : String} (as : List Attribute) {s : List Char} {ls : List String} :
      IsElementTag tag → Markup s ls →
      Markup (startTag tag as ++ s ++ endTag tag)
        ([tag].filter isLandmark ++ ls ++ ["/" ++ tag].filter isLandmark)
  | append {s t : List Char} {ls ms : List String} : Markup s ls → Markup t ms →
      Markup (s ++ t) (ls ++ ms)

/-- Text that is well-nested markup. -/
def WellNested (s : List Char) : Prop := ∃ ls, Markup s ls

/-! ## Reading tags -/

theorem Attribute.not_mem_text (a : Attribute) : '<' ∉ a.text := by
  intro h
  have hname : '<' ∉ a.name.toList := by
    have : ∀ n ∈ attributeNames, '<' ∉ n.toList := by decide
    exact this a.name a.name_mem
  rcases List.mem_cons.mp h with h | h
  · exact absurd h (by decide)
  rcases List.mem_append.mp h with h | h
  · exact hname h
  cases hv : a.value with
  | none => rw [hv] at h; exact absurd h List.not_mem_nil
  | some v =>
    rw [hv] at h
    have hescaped : '<' ∉ v := (a.escaped v hv).not_mem (Or.inl rfl)
    simp [hescaped] at h

theorem not_mem_attributes (as : List Attribute) : '<' ∉ as.flatMap Attribute.text := by
  intro h
  obtain ⟨a, -, ha⟩ := List.mem_flatMap.mp h
  exact a.not_mem_text ha

/-- The attributes start with a space, so that they end the name of their tag. -/
theorem exists_attributes_append (as : List Attribute) : ∃ c t,
    as.flatMap Attribute.text ++ ['>'] = c :: t ∧ isNameChar c = false ∧ '<' ∉ c :: t := by
  have hnot : '<' ∉ as.flatMap Attribute.text ++ ['>'] := by
    rw [List.mem_append, not_or]
    exact ⟨not_mem_attributes as, by decide⟩
  cases as with
  | nil => exact ⟨'>', [], rfl, by decide, hnot⟩
  | cons a as => exact ⟨' ', _, rfl, by decide, hnot⟩

theorem isNameChar_of_isDigit {c : Char} (h : c.isDigit = true) : isNameChar c = true := by
  simp [isNameChar, Char.isAlphanum, h]

theorem isNameChar_of_mem {tag : String} (h : IsElementTag tag ∨ tag ∈ voidTags) :
    ∀ c ∈ tag.toList, isNameChar c = true := by
  rcases h with (h | ⟨level, rfl⟩) | h
  · have hall : (elementTags.all fun t => t.toList.all isNameChar) = true := by decide
    exact List.all_eq_true.mp (List.all_eq_true.mp hall tag h)
  · intro c hc
    rw [String.toList_append, List.mem_append] at hc
    rcases hc with hc | hc
    · have hh : "h".toList.all isNameChar = true := by decide
      exact List.all_eq_true.mp hh c hc
    · refine isNameChar_of_isDigit ?_
      rw [Nat.toString_eq_repr, Nat.repr, String.toList_ofList] at hc
      exact Nat.isDigit_of_mem_toDigits (by decide) (by decide) hc
  · have hall : (voidTags.all fun t => t.toList.all isNameChar) = true := by decide
    exact List.all_eq_true.mp (List.all_eq_true.mp hall tag h)

theorem landmarks_startTag {tag : String} (h : IsElementTag tag ∨ tag ∈ voidTags)
    (as : List Attribute) (t : List Char) :
    landmarks (startTag tag as ++ t) = [tag].filter isLandmark ++ landmarks t := by
  obtain ⟨c, r, hr, hc, hnot⟩ := exists_attributes_append as
  rw [startTag, hr, List.cons_append, List.append_assoc, List.cons_append,
    landmarks_append_tag (isNameChar_of_mem h) hc, ← List.cons_append,
    landmarks_append_of_not_mem hnot, String.ofList_toList]

theorem landmarks_endTag {tag : String} (h : IsElementTag tag) (t : List Char) :
    landmarks (endTag tag ++ t) = ["/" ++ tag].filter isLandmark ++ landmarks t := by
  have hname : ∀ c ∈ '/' :: tag.toList, isNameChar c = true := by
    intro c hc
    rcases List.mem_cons.mp hc with rfl | hc
    · decide
    · exact isNameChar_of_mem (Or.inl h) c hc
  have htag : String.ofList ('/' :: tag.toList) = "/" ++ tag := String.toList_inj.mp (by simp)
  have htext : endTag tag ++ t = '<' :: (('/' :: tag.toList) ++ '>' :: t) := by simp [endTag]
  have hrest : landmarks ('>' :: t) = landmarks t :=
    landmarks_append_of_not_mem (s := ['>']) (by decide) t
  rw [htext, landmarks_append_tag hname (by decide), htag, hrest]

/-- **The landmarks of markup** are the ones that the grammar lists, whatever follows it. -/
theorem Markup.landmarks_append {s : List Char} {ls : List String} (h : Markup s ls)
    (t : List Char) : landmarks (s ++ t) = ls ++ landmarks t := by
  induction h generalizing t with
  | text hs =>
    rw [landmarks_append_of_not_mem (hs.not_mem (Or.inl rfl)), List.nil_append]
  | void as htag => exact landmarks_startTag (Or.inr htag) as t
  | element as htag _ ih =>
    rw [List.append_assoc, List.append_assoc, landmarks_startTag (Or.inl htag), ih,
      landmarks_endTag htag, List.append_assoc, List.append_assoc]
  | append _ _ ih₁ ih₂ => rw [List.append_assoc, ih₁, ih₂, List.append_assoc]

/-- What markup shows by itself. -/
theorem Markup.landmarks_eq {s : List Char} {ls : List String} (h : Markup s ls) :
    landmarks s = ls := by
  have := h.landmarks_append []
  simpa [landmarks, tagNames] using this

/-! ## Which tags are landmarks -/

theorem isLandmark_heading (level : Nat) : isLandmark ("h" ++ toString level) = true := by
  have hdigits : isHeadingName ("h" ++ toString level).toList = true := by
    have hlist : ("h" ++ toString level).toList = 'h' :: Nat.toDigits 10 level := by
      rw [String.toList_append, Nat.toString_eq_repr, Nat.toList_repr]
      rfl
    rw [hlist]
    cases hd : Nat.toDigits 10 level with
    | nil => exact absurd hd Nat.toDigits_ne_nil
    | cons d ds =>
      rw [isHeadingName, List.all_eq_true]
      intro c hc
      rw [← hd] at hc
      exact Nat.isDigit_of_mem_toDigits (by decide) (by decide) hc
  rw [isLandmark, hdigits, Bool.or_true]

/-- Of the end tags, only that of a section is a landmark. -/
theorem isLandmark_end {tag : String} (h : tag ≠ "section") : isLandmark ("/" ++ tag) = false := by
  have hlist : ("/" ++ tag).toList = '/' :: tag.toList := by rw [String.toList_append]; rfl
  have hname : "/" ++ tag ∉ landmarkNames := by
    intro hm
    have hfirst : ∀ n ∈ landmarkNames, n.toList.head? = some '/' → n = "/section" := by decide
    have hsection := hfirst _ hm (by rw [hlist]; rfl)
    refine h (String.toList_inj.mp ?_)
    rw [hsection] at hlist
    exact (List.cons.inj hlist).2.symm
  have hheading : isHeadingName ("/" ++ tag).toList = false := by rw [hlist]; rfl
  rw [isLandmark, hheading, Bool.or_false, ← Bool.not_eq_true, List.contains_iff_mem]
  exact hname

/-! ## Larger pieces of markup -/

/-- An element other than a section. -/
theorem markup_element {tag : String} (as : List Attribute) (htag : IsElementTag tag)
    (hsection : tag ≠ "section") {s : List Char} {ls : List String} (hs : Markup s ls) :
    Markup (startTag tag as ++ s ++ endTag tag) ([tag].filter isLandmark ++ ls) := by
  have hend : ["/" ++ tag].filter isLandmark = [] := by
    rw [List.filter_cons, isLandmark_end hsection]
    rfl
  have helement := Markup.element as htag hs
  rwa [hend, List.append_nil] at helement

theorem markup_of_isPlain {s : List Char} (h : isPlain s = true) : Markup s [] :=
  .text (escaped_of_isPlain h)

theorem markup_flatMap {α : Type} {f : α → List Char} {g : α → List String} {as : List α}
    (h : ∀ a ∈ as, Markup (f a) (g a)) : Markup (as.flatMap f) (as.flatMap g) := by
  induction as with
  | nil => exact .text .nil
  | cons a as ih =>
    rw [List.flatMap_cons, List.flatMap_cons]
    exact (h a List.mem_cons_self).append (ih fun b hb => h b (List.mem_cons_of_mem a hb))

/-- Pieces of markup with escaped text between them. -/
theorem markup_intercalate {α : Type} {sep : List Char} (hsep : Escaped sep)
    {g : α → List String} {as : List α} {ss : List (List Char)}
    (h : List.Forall₂ (fun a s => Markup s (g a)) as ss) :
    Markup (sep.intercalate ss) (as.flatMap g) := by
  induction h with
  | nil => exact .text .nil
  | @cons a s as ss hs hss ih =>
    rw [List.flatMap_cons]
    cases hss with
    | nil =>
      rw [List.intercalate_singleton, List.flatMap_nil, List.append_nil]
      exact hs
    | cons =>
      rw [List.intercalate_cons_cons]
      have hjoin := (hs.append (.text hsep)).append ih
      rwa [List.append_nil] at hjoin

end Deck.Html
