/-!
# Sets of code points

A class of characters beyond ASCII is a table of ranges.  `Ranges` holds such a
table in increasing order, and `Ranges.contains` looks a code point up.

* `Ranges.contains_iff`: a code point is in the set when it lies within one of
  the ranges.
-/

namespace Deck.Text

/-- A set of code points, given by inclusive ranges in increasing order. -/
structure Ranges where
  pairs : List (Nat × Nat)

namespace Ranges

/-- Whether the code point `n` lies within one of the ranges. -/
def contains (rs : Ranges) (n : Nat) : Bool :=
  rs.pairs.any fun r => r.1 ≤ n && n ≤ r.2

theorem contains_iff {rs : Ranges} {n : Nat} :
    rs.contains n = true ↔ ∃ r ∈ rs.pairs, r.1 ≤ n ∧ n ≤ r.2 := by
  simp [contains]

end Ranges

end Deck.Text
