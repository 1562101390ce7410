/-!
# Escaping

Author text is written into a page with the five characters that mean something
in markup replaced by entities.  One pass over the text is enough, since what
replaces a character holds none of them but the ampersand that begins it.

* `escapeChars_append`: escaping works character by character.
* `not_mem_escapeChars`: no angle bracket and no quote is left.
-/

namespace Deck.Html

/-- A character as it stands in the text of an element or in the value of an attribute. -/
def entity : Char → List Char
  | '&' => ['&', 'a', 'm', 'p', ';']
  | '<' => ['&', 'l', 't', ';']
  | '>' => ['&', 'g', 't', ';']
  | '"' => ['&', 'q', 'u', 'o', 't', ';']
  | '\'' => ['&', '#', 'x', '2', '7', ';']
  | c => [c]

/-- The characters of a text, escaped. -/
def escapeChars (s : List Char) : List Char := s.flatMap entity

/-- A text, escaped. -/
def escape (s : String) : String := String.ofList (escapeChars s.toList)

@[simp] theorem escapeChars_nil : escapeChars [] = [] := rfl

@[simp] theorem escapeChars_cons (c : Char) (s : List Char) :
    escapeChars (c :: s) = entity c ++ escapeChars s := by
  simp [escapeChars]

theorem escapeChars_append (s t : List Char) :
    escapeChars (s ++ t) = escapeChars s ++ escapeChars t := by
  simp [escapeChars]

theorem escape_append (a b : String) : escape (a ++ b) = escape a ++ escape b := by
  simp [escape, escapeChars_append]

/-- A character that is none of the five stands for itself. -/
theorem entity_of_ne {c : Char} (h₁ : c ≠ '&') (h₂ : c ≠ '<') (h₃ : c ≠ '>') (h₄ : c ≠ '"')
    (h₅ : c ≠ '\'') : entity c = [c] := by
  unfold entity
  split <;> first | contradiction | rfl

theorem not_mem_entity {x : Char} (hx : x = '<' ∨ x = '>' ∨ x = '"' ∨ x = '\'') (c : Char) :
    x ∉ entity c := by
  intro h
  unfold entity at h
  split at h
  case h_6 =>
    rw [List.mem_singleton] at h
    subst h
    rcases hx with rfl | rfl | rfl | rfl <;> contradiction
  all_goals rcases hx with rfl | rfl | rfl | rfl <;> simp at h

/-- No angle bracket and no quote is left. -/
theorem not_mem_escapeChars {x : Char} (hx : x = '<' ∨ x = '>' ∨ x = '"' ∨ x = '\'')
    (s : List Char) : x ∉ escapeChars s := by
  intro h
  obtain ⟨c, -, hc⟩ := List.mem_flatMap.mp h
  exact not_mem_entity hx c hc

end Deck.Html
