/-!
# Cutting at commas

A style block is cut at its commas, except for those within parentheses, which
belong to a value such as `rgb(1, 2, 3)`.  A closing parenthesis without a partner
changes nothing.

* `join_pieces`: with the commas put back the pieces give the text again.
* `pieces_ne_nil`: there is one piece at least.
-/

namespace Deck.Style

/-- How deep in parentheses the text is after `c`. -/
def depthAfter (depth : Nat) (c : Char) : Nat :=
  if c = '(' then depth + 1 else if c = ')' then depth - 1 else depth

/-- The pieces of a text that starts `depth` parentheses deep. -/
def piecesFrom (depth : Nat) : List Char → List (List Char)
  | [] => [[]]
  | c :: r =>
    if c = ',' ∧ depth = 0 then [] :: piecesFrom 0 r
    else (piecesFrom (depthAfter depth c) r).modifyHead (c :: ·)

/-- The pieces between the commas that stand in no parentheses. -/
def pieces (s : List Char) : List (List Char) := piecesFrom 0 s

theorem piecesFrom_ne_nil (depth : Nat) (s : List Char) : piecesFrom depth s ≠ [] := by
  induction s generalizing depth with
  | nil => simp [piecesFrom]
  | cons c r ih =>
    rw [piecesFrom]
    split
    · simp
    · simpa using ih _

theorem pieces_ne_nil (s : List Char) : pieces s ≠ [] := piecesFrom_ne_nil 0 s

/-- The pieces with commas between them. -/
def join : List (List Char) → List Char
  | [] => []
  | [p] => p
  | p :: q :: ps => p ++ ',' :: join (q :: ps)

theorem join_cons {p : List Char} {ps : List (List Char)} (h : ps ≠ []) :
    join (p :: ps) = p ++ ',' :: join ps := by
  cases ps with
  | nil => exact absurd rfl h
  | cons q qs => rfl

theorem join_modifyHead (c : Char) {ps : List (List Char)} (h : ps ≠ []) :
    join (ps.modifyHead (c :: ·)) = c :: join ps := by
  match ps, h with
  | [_], _ => rfl
  | _ :: _ :: _, _ => rfl

theorem join_piecesFrom (depth : Nat) (s : List Char) : join (piecesFrom depth s) = s := by
  induction s generalizing depth with
  | nil => rfl
  | cons c r ih =>
    rw [piecesFrom]
    split
    · rename_i h
      rw [join_cons (piecesFrom_ne_nil 0 r), ih, h.1]
      rfl
    · rw [join_modifyHead c (piecesFrom_ne_nil _ r), ih]

/-- **Nothing is lost.**  With the commas put back the pieces give the text again. -/
theorem join_pieces (s : List Char) : join (pieces s) = s := join_piecesFrom 0 s

end Deck.Style
