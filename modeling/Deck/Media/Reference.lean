import Deck.Text.Scan

/-!
# Media references

A media line refers to a picture or to a video by `![alt](url)`.  The leftmost
complete reference of a text counts, and what surrounds it is passed over.  The
alternative text ends at the first closing bracket and the locator at the first
closing parenthesis; neither is empty.

* `Reference.read?_write`: a reference is read from where it is written.
* `Reference.Complete.find?_write`: a reference is found where nothing else is written.
-/

namespace Deck.Media

/-- A reference: the alternative text and the locator. -/
structure Reference where
  alt : List Char
  url : List Char
  deriving DecidableEq, Repr

namespace Reference

open Text

/-- The reference as it is written. -/
def write (f : Reference) : List Char :=
  '!' :: '[' :: (f.alt ++ ']' :: '(' :: (f.url ++ [')']))

/-- The reference at the start of a text. -/
def read? (s : List Char) : Option Reference :=
  match s with
  | '!' :: '[' :: r =>
    match r.dropWhile (· != ']') with
    | ']' :: '(' :: t =>
      let alt := r.takeWhile (· != ']')
      let url := t.takeWhile (· != ')')
      if alt = [] ∨ url = [] ∨ t.dropWhile (· != ')') = [] then none else some ⟨alt, url⟩
    | _ => none
  | _ => none

/-- The leftmost reference in a text. -/
def find? : List Char → Option Reference
  | [] => none
  | c :: r =>
    match read? (c :: r) with
    | some f => some f
    | none => find? r

/-- A reference is read from where it is written. -/
theorem read?_write {f : Reference} (ha : f.alt ≠ []) (hb : ']' ∉ f.alt) (hu : f.url ≠ [])
    (hp : ')' ∉ f.url) (t : List Char) : read? (f.write ++ t) = some f := by
  have hw : f.write ++ t = '!' :: '[' :: (f.alt ++ ']' :: '(' :: (f.url ++ ')' :: t)) := by
    simp [write]
  rw [hw]
  simp only [read?, dropWhile_ne_append hb, takeWhile_ne_append hb, dropWhile_ne_append hp,
    takeWhile_ne_append hp]
  simp [ha, hu]

/-- The parts of a reference can be told apart where it is written. -/
structure Complete (f : Reference) : Prop where
  alt_ne_nil : f.alt ≠ []
  bracket_not_mem_alt : ']' ∉ f.alt
  url_ne_nil : f.url ≠ []
  paren_not_mem_url : ')' ∉ f.url

/-- A written reference is the leftmost one in its text. -/
theorem Complete.find?_write {f : Reference} (hf : f.Complete) : find? f.write = some f := by
  have hread := read?_write hf.alt_ne_nil hf.bracket_not_mem_alt hf.url_ne_nil
    hf.paren_not_mem_url []
  rw [List.append_nil] at hread
  have hfind : find? f.write = match read? f.write with
    | some g => some g
    | none => find? ('[' :: (f.alt ++ ']' :: '(' :: (f.url ++ [')']))) := rfl
  rw [hfind, hread]

end Reference

end Deck.Media
