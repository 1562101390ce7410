/-!
# Taking off quotes

A value in a dump or in a style block may be wrapped in a pair of equal quotes,
single or double ones.

* `unquote_wrap`: the pair is taken off, whatever it encloses.
* `unquote_of_not_wrapped`: a text that stands in no pair of equal quotes is kept.
-/

namespace Deck.Text

def isQuote (c : Char) : Bool := c == '\'' || c == '"'

/-- The text without the pair of equal quotes around it, if there is one. -/
def unquote (s : List Char) : List Char :=
  match s with
  | [] => []
  | q :: r => if isQuote q ∧ r.getLast? = some q then r.dropLast else s

theorem unquote_wrap {q : Char} (hq : isQuote q = true) (s : List Char) :
    unquote (q :: (s ++ [q])) = s := by
  simp [unquote, hq]

theorem unquote_of_not_wrapped {s : List Char}
    (h : ∀ q t, isQuote q = true → s ≠ q :: (t ++ [q])) : unquote s = s := by
  cases s with
  | nil => rfl
  | cons q r =>
    rw [unquote, if_neg]
    rintro ⟨hq, hlast⟩
    obtain ⟨t, ht⟩ := List.getLast?_eq_some_iff.mp hlast
    exact h q t hq (by rw [ht])

end Deck.Text
