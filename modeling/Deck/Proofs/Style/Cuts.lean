import Deck.Proofs.Style.Pieces

/-!
# Where a style block is cut

The depth of a text counts the parentheses that are open at its end; one that closes nothing
does not count, so that the depth never goes below zero.  `Cut` says that some pieces are a text
taken apart at its commas of depth zero.  It names the pieces by concatenation and does not look
at how they are found.

* `piecesFrom_append_comma`: a comma of depth zero is a cut, whatever stands around it.
* `pieces_eq_iff_cut`: **the pieces of a text are the one way to cut it**.
-/

namespace Deck.Style

/-- How deep in parentheses a text ends that starts `depth` parentheses deep. -/
def depthAt (depth : Nat) (s : List Char) : Nat := s.foldl depthAfter depth

/-- All commas of the text stand in parentheses, if it starts `depth` parentheses deep. -/
def Whole (depth : Nat) (s : List Char) : Prop := ∀ a b, s = a ++ ',' :: b → depthAt depth a ≠ 0

/-- The pieces are the text, taken apart at its commas of depth zero. -/
inductive Cut : Nat → List Char → List (List Char) → Prop
  | last {depth : Nat} {p : List Char} : Whole depth p → Cut depth p [p]
  | comma {depth : Nat} {p s : List Char} {ps : List (List Char)} : Whole depth p →
      depthAt depth p = 0 → Cut 0 s ps → Cut depth (p ++ ',' :: s) (p :: ps)

theorem whole_nil (depth : Nat) : Whole depth [] := by
  intro a b h
  exact absurd h (by simp)

theorem whole_cons {depth : Nat} {c : Char} {s : List Char} : Whole depth (c :: s) ↔
    (c ≠ ',' ∨ 0 < depth) ∧ Whole (depthAfter depth c) s := by
  constructor
  · intro h
    constructor
    · by_cases hc : c = ','
      · exact Or.inr (Nat.pos_of_ne_zero (h [] s (by rw [hc, List.nil_append])))
      · exact Or.inl hc
    · rintro a b rfl
      exact h (c :: a) b rfl
  · rintro ⟨hcomma, hs⟩ a b h
    cases a with
    | nil =>
      obtain ⟨rfl, -⟩ := List.cons.inj h
      rcases hcomma with hc | hdepth
      · exact absurd rfl hc
      · exact Nat.ne_of_gt hdepth
    | cons x a =>
      obtain ⟨rfl, rfl⟩ := List.cons.inj h
      exact hs a b rfl

/-! ## Pieces are cuts -/

/-- A comma of depth zero is a cut. -/
theorem piecesFrom_append_comma {depth : Nat} {a : List Char} (h : depthAt depth a = 0)
    (b : List Char) : piecesFrom depth (a ++ ',' :: b) = piecesFrom depth a ++ pieces b := by
  induction a generalizing depth with
  | nil =>
    obtain rfl : depth = 0 := h
    rfl
  | cons c a ih =>
    have hrest := @ih (depthAfter depth c) h
    by_cases hc : c = ',' ∧ depth = 0
    · obtain ⟨rfl, rfl⟩ := hc
      rw [List.cons_append, piecesFrom, if_pos ⟨rfl, rfl⟩, piecesFrom, if_pos ⟨rfl, rfl⟩,
        List.cons_append]
      exact congrArg _ hrest
    · obtain ⟨p, ps, hps⟩ := List.exists_cons_of_ne_nil (piecesFrom_ne_nil (depthAfter depth c) a)
      rw [List.cons_append, piecesFrom, if_neg hc, piecesFrom, if_neg hc, hrest, hps]
      rfl

/-- A text without a comma of depth zero is one piece. -/
theorem piecesFrom_of_whole {depth : Nat} {p : List Char} (h : Whole depth p) :
    piecesFrom depth p = [p] := by
  induction p generalizing depth with
  | nil => rfl
  | cons c p ih =>
    obtain ⟨hcomma, hp⟩ := whole_cons.mp h
    rw [piecesFrom_cons hcomma, ih hp]
    rfl

theorem piecesFrom_of_cut {depth : Nat} {s : List Char} {ps : List (List Char)}
    (h : Cut depth s ps) : piecesFrom depth s = ps := by
  induction h with
  | last hp => exact piecesFrom_of_whole hp
  | comma hp hdepth _ ih =>
    rw [piecesFrom_append_comma hdepth, piecesFrom_of_whole hp, pieces, ih]
    rfl

/-- A character that is no cut belongs to the first piece. -/
theorem Cut.cons {depth : Nat} {c : Char} (hc : c ≠ ',' ∨ 0 < depth) {s : List Char}
    {ps : List (List Char)} (h : Cut (depthAfter depth c) s ps) :
    Cut depth (c :: s) (ps.modifyHead (c :: ·)) := by
  cases h with
  | last hp => exact .last (whole_cons.mpr ⟨hc, hp⟩)
  | @comma _ p s ps hp hdepth hs =>
    exact .comma (p := c :: p) (whole_cons.mpr ⟨hc, hp⟩) hdepth hs

theorem cut_piecesFrom (depth : Nat) (s : List Char) : Cut depth s (piecesFrom depth s) := by
  induction s generalizing depth with
  | nil => exact .last (whole_nil depth)
  | cons c s ih =>
    by_cases hc : c ≠ ',' ∨ 0 < depth
    · rw [piecesFrom_cons hc]
      exact .cons hc (ih _)
    · obtain ⟨rfl, rfl⟩ : c = ',' ∧ depth = 0 := by simpa using hc
      exact .comma (p := []) (whole_nil 0) rfl (ih 0)

/-- **The pieces of a text are the one way to cut it.** -/
theorem pieces_eq_iff_cut {s : List Char} {ps : List (List Char)} :
    pieces s = ps ↔ Cut 0 s ps := by
  constructor
  · rintro rfl
    exact cut_piecesFrom 0 s
  · exact piecesFrom_of_cut

end Deck.Style
