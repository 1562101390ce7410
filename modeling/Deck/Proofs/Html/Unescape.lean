import Deck.Html.Escape

/-!
# Decoding entities

`unescape` reads a text once, from left to right, and writes for each of the five entities
the character that it stands for.

* `unescape_entity_append`: an entity is read as soon as it has ended, whatever follows.
* `unescape_escapeChars`: **decoding undoes escaping**, also of a text with entities in it.
-/

namespace Deck.Html

/-- A text with its entities decoded. -/
def unescape : List Char → List Char
  | [] => []
  | '&' :: 'a' :: 'm' :: 'p' :: ';' :: r => '&' :: unescape r
  | '&' :: 'l' :: 't' :: ';' :: r => '<' :: unescape r
  | '&' :: 'g' :: 't' :: ';' :: r => '>' :: unescape r
  | '&' :: 'q' :: 'u' :: 'o' :: 't' :: ';' :: r => '"' :: unescape r
  | '&' :: '#' :: 'x' :: '2' :: '7' :: ';' :: r => '\'' :: unescape r
  | c :: r => c :: unescape r

/-- No entity begins with any other character than the ampersand. -/
theorem unescape_cons_of_ne {c : Char} (hc : c ≠ '&') (r : List Char) :
    unescape (c :: r) = c :: unescape r := by
  rw [unescape]
  all_goals
    intro t h
    exact absurd h hc

/-- An entity is read as soon as it has ended. -/
theorem unescape_entity_append (c : Char) (r : List Char) :
    unescape (entity c ++ r) = c :: unescape r := by
  unfold entity
  split
  case h_6 h _ _ _ _ => exact unescape_cons_of_ne h r
  all_goals rfl

/-- **Decoding undoes escaping.** -/
theorem unescape_escapeChars (s : List Char) : unescape (escapeChars s) = s := by
  induction s with
  | nil => rfl
  | cons c r ih => rw [escapeChars_cons, unescape_entity_append, ih]

theorem unescape_escape (s : String) : unescape (escape s).toList = s.toList := by
  rw [escape, String.toList_ofList, unescape_escapeChars]

/-- No two texts are escaped alike. -/
theorem escape_injective {s t : String} (h : escape s = escape t) : s = t := by
  have hdecoded := congrArg (fun x => unescape x.toList) h
  simp only [unescape_escape] at hdecoded
  exact String.toList_inj.mp hdecoded

end Deck.Html
