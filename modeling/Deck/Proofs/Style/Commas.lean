import Deck.Proofs.Style.Cuts

/-!
# Commas outside of parentheses and within them

What a comma does hangs on the depth of the text in front of it alone.  At depth zero it cuts,
and the two sides are cut as if each stood by itself.  In parentheses it does not, and the last
piece in front of it and the first one behind it are one piece.

The pieces can also be found in one scan over the places of a text that remembers where the
piece began that it is in.  The scan is sound because of what it keeps: at each place the pieces
that have ended, and the slice that has not, are the pieces of what has been read.

* `Cut.append`, `Cut.append_comma`: the pieces of a text go on in the text behind it, or end at a
  comma of depth zero.
* `slices_eq_pieces`: **the scan finds the pieces**.
* `pieces_of_mem`: a piece is not cut again.
* `pieces_cut_exactly`: nothing is lost, no piece is cut again, and the commas at depth zero are
  the cuts.
-/

namespace Deck.Style

/-! ## Texts put together -/

section

variable {depth : Nat} {p q s t : List Char} {before after ps : List (List Char)}

theorem depthAt_append (depth : Nat) (s t : List Char) :
    depthAt depth (s ++ t) = depthAt (depthAt depth s) t := List.foldl_append

theorem Whole.append (hp : Whole depth p) (hq : Whole (depthAt depth p) q) :
    Whole depth (p ++ q) := by
  induction p generalizing depth with
  | nil => exact hq
  | cons c p ih =>
    obtain ⟨hcomma, hrest⟩ := whole_cons.mp hp
    exact whole_cons.mpr ⟨hcomma, ih hrest hq⟩

theorem Cut.ne_nil (h : Cut depth s ps) : ps ≠ [] := by
  cases h with
  | last _ => simp
  | comma _ _ _ => simp

/-- A text that follows on a whole one goes on with its piece. -/
theorem Cut.whole_append (hp : Whole depth p)
    (h : Cut (depthAt depth p) t (q :: after)) : Cut depth (p ++ t) ((p ++ q) :: after) := by
  cases h with
  | last hq => exact .last (hp.append hq)
  | @comma _ _ s _ hq hdepth hs =>
    have hend : depthAt depth (p ++ q) = 0 := by rw [depthAt_append, hdepth]
    rw [← List.append_assoc]
    exact .comma (hp.append hq) hend hs

/-- **The pieces of a text go on in the text behind it**: the last piece of the one and the first
piece of the other are one. -/
theorem Cut.append (hs : Cut depth s (before ++ [p])) (ht : Cut (depthAt depth s) t (q :: after)) :
    Cut depth (s ++ t) (before ++ (p ++ q) :: after) := by
  induction before generalizing depth s with
  | nil =>
    cases hs with
    | last hp => exact .whole_append hp ht
    | comma _ _ hrest => exact absurd rfl hrest.ne_nil
  | cons b before ih =>
    rw [List.cons_append] at hs
    generalize hps : before ++ [p] = ps at hs
    cases hs with
    | last _ => exact absurd hps (by simp)
    | @comma _ _ r _ hb hdepth hr =>
      subst hps
      have hend : depthAt depth (b ++ ',' :: r) = depthAt 0 r := by
        rw [depthAt_append, hdepth]
        rfl
      rw [hend] at ht
      rw [List.append_assoc]
      exact .comma hb hdepth (ih hr ht)

/-- Behind a comma of depth zero the text is cut as if it stood by itself. -/
theorem Cut.append_comma (hs : Cut depth s ps) (hdepth : depthAt depth s = 0) (t : List Char) :
    Cut depth (s ++ ',' :: t) (ps ++ pieces t) := by
  have hpieces := piecesFrom_append_comma hdepth t
  rw [piecesFrom_of_cut hs] at hpieces
  rw [← hpieces]
  exact cut_piecesFrom depth _

/-- All commas of the pieces stand in parentheses. -/
theorem Cut.whole (h : Cut depth s ps) :
    ∃ p qs, ps = p :: qs ∧ Whole depth p ∧ ∀ q ∈ qs, Whole 0 q := by
  induction h with
  | last hp => exact ⟨_, [], rfl, hp, fun q hq => absurd hq List.not_mem_nil⟩
  | comma hp _ _ ih =>
    obtain ⟨q, qs, rfl, hq, hqs⟩ := ih
    exact ⟨_, q :: qs, rfl, hp, List.forall_mem_cons.mpr ⟨hq, hqs⟩⟩

theorem cut_singleton {c : Char} (h : c ≠ ',' ∨ 0 < depth) : Cut depth [c] [[c]] :=
  .last (whole_cons.mpr ⟨h, whole_nil _⟩)

end

/-! ## One scan -/

/-- What a scan has found: the pieces that have ended, how deep in parentheses it is, and the
place where the piece began that it is in. -/
structure Slicing where
  ended : List (List Char)
  depth : Nat
  start : Nat

namespace Slicing

variable {σ : Slicing} {s seen : List Char}

/-- The scan of `s` reads the character `c` at the place `i`. -/
def step (s : List Char) (σ : Slicing) (c : Char) (i : Nat) : Slicing :=
  if c = '(' then { σ with depth := σ.depth + 1 }
  else if c = ')' then { σ with depth := σ.depth - 1 }
  else if c = ',' ∧ σ.depth = 0 then
    { σ with ended := σ.ended ++ [(s.take i).drop σ.start], start := i + 1 }
  else σ

/-- The scan of `s` reads `rest`, which begins at the place `i`. -/
def run (s rest : List Char) (i : Nat) (σ : Slicing) : Slicing :=
  (rest.zipIdx i).foldl (fun σ x => σ.step s x.1 x.2) σ

/-- The pieces that have ended in `seen`, and what has been read of the one that has not. -/
def slices (σ : Slicing) (seen : List Char) : List (List Char) := σ.ended ++ [seen.drop σ.start]

theorem run_cons (s : List Char) (c : Char) (rest : List Char) (i : Nat) (σ : Slicing) :
    run s (c :: rest) i σ = run s rest (i + 1) (σ.step s c i) := by
  rw [run, List.zipIdx_cons, List.foldl_cons, run]

theorem step_comma (hdepth : σ.depth = 0) (i : Nat) :
    σ.step s ',' i = ⟨σ.slices (s.take i), 0, i + 1⟩ := by
  rw [step, if_neg (by decide), if_neg (by decide), if_pos ⟨rfl, hdepth⟩, hdepth, slices]

theorem step_of_ne {c : Char} (h : c ≠ ',' ∨ 0 < σ.depth) (i : Nat) :
    σ.step s c i = { σ with depth := depthAfter σ.depth c } := by
  have hcut : ¬(c = ',' ∧ σ.depth = 0) := by
    rintro ⟨hc, hdepth⟩
    rcases h with h | h
    · exact h hc
    · omega
  rw [step, depthAfter, if_neg hcut]
  split
  · rfl
  · split <;> rfl

/-- What the scan keeps: it knows the depth of what has been read, the slice that has not ended
lies in it, and the slices are its pieces. -/
structure Follows (σ : Slicing) (seen : List Char) : Prop where
  depth_eq : σ.depth = depthAt 0 seen
  start_le : σ.start ≤ seen.length
  cut : Cut 0 seen (σ.slices seen)

theorem follows_nil : Follows ⟨[], 0, 0⟩ [] := ⟨rfl, Nat.le_refl 0, .last (whole_nil 0)⟩

/-- **Each step keeps it.** -/
theorem Follows.step (h : Follows σ seen) (c : Char) (rest : List Char) :
    Follows (σ.step (seen ++ c :: rest) c seen.length) (seen ++ [c]) := by
  have hdepth : depthAfter σ.depth c = depthAt 0 (seen ++ [c]) := by
    rw [depthAt_append, ← h.depth_eq]
    rfl
  have hlength : (seen ++ [c]).length = seen.length + 1 := List.length_append
  by_cases hcut : c ≠ ',' ∨ 0 < σ.depth
  · rw [step_of_ne hcut]
    refine ⟨hdepth, ?_, ?_⟩
    · rw [hlength]
      exact Nat.le_succ_of_le h.start_le
    · have hgrown := h.cut.append (cut_singleton (h.depth_eq ▸ hcut))
      rwa [← List.drop_append_of_le_length h.start_le] at hgrown
  · obtain ⟨rfl, hzero⟩ : c = ',' ∧ σ.depth = 0 := by simpa using hcut
    rw [step_comma hzero, List.take_left]
    refine ⟨?_, ?_, ?_⟩
    · rw [← hdepth, hzero]
      rfl
    · exact Nat.le_of_eq hlength.symm
    · -- The new slice begins behind the comma and is empty.
      rw [slices, ← hlength, List.drop_length]
      exact h.cut.append_comma (h.depth_eq.symm.trans hzero) []

/-- **So does the run.** -/
theorem Follows.run (h : Follows σ seen) (rest : List Char) :
    Follows (Slicing.run (seen ++ rest) rest seen.length σ) (seen ++ rest) := by
  induction rest generalizing σ seen with
  | nil => rwa [List.append_nil]
  | cons c rest ih =>
    have hnext := ih (h.step c rest)
    rw [List.append_assoc, List.length_append] at hnext
    rw [run_cons]
    exact hnext

end Slicing

/-- The pieces that the scan of a text finds. -/
def slices (s : List Char) : List (List Char) := (Slicing.run s s 0 ⟨[], 0, 0⟩).slices s

/-- **The scan finds the pieces.** -/
theorem slices_eq_pieces (s : List Char) : slices s = pieces s :=
  (pieces_eq_iff_cut.mpr (Slicing.follows_nil.run s).cut).symm

/-! ## Where a text is cut -/

/-- **A piece is not cut again.** -/
theorem pieces_of_mem {s p : List Char} (h : p ∈ pieces s) : pieces p = [p] := by
  obtain ⟨q, qs, hpieces, hq, hqs⟩ := (cut_piecesFrom 0 s).whole
  rw [pieces, hpieces] at h
  exact piecesFrom_of_whole (List.forall_mem_cons.mpr ⟨hq, hqs⟩ p h)

/-- **A comma in parentheses is no cut**: it stands in the piece that goes on over it. -/
theorem pieces_append_comma_of_pos {a : List Char} (h : 0 < depthAt 0 a) (b : List Char) :
    ∃ before last first after, pieces a = before ++ [last] ∧
      Cut (depthAt 0 a) b (first :: after) ∧
      pieces (a ++ ',' :: b) = before ++ (last ++ ',' :: first) :: after := by
  have hb := cut_piecesFrom (depthAt 0 a) b
  obtain ⟨first, after, hfirst⟩ := List.exists_cons_of_ne_nil hb.ne_nil
  obtain ⟨before, last, hlast⟩ := (List.eq_nil_or_concat (pieces a)).resolve_left (pieces_ne_nil a)
  rw [List.concat_eq_append] at hlast
  rw [hfirst] at hb
  have hcomma : Cut (depthAt 0 a) (',' :: b) ((',' :: first) :: after) :=
    .cons (c := ',') (Or.inr h) hb
  exact ⟨before, last, first, after, hlast, hb,
    pieces_eq_iff_cut.mpr ((pieces_eq_iff_cut.mp hlast).append hcomma)⟩

/-- **A text is cut at its commas of depth zero and nowhere else.**  With the commas put back the
pieces give the text again, no piece is cut again, and one scan that remembers where its piece
began finds them.  A comma cuts exactly if its depth is zero: then the two sides are cut each by
itself, and otherwise the last piece in front of it and the first one behind it are one. -/
theorem pieces_cut_exactly (s a b : List Char) :
    join (pieces s) = s ∧ (∀ p ∈ pieces s, pieces p = [p]) ∧ slices s = pieces s ∧
    (pieces (a ++ ',' :: b) = pieces a ++ pieces b ↔ depthAt 0 a = 0) ∧
    (0 < depthAt 0 a → ∃ before last first after, pieces a = before ++ [last] ∧
      Cut (depthAt 0 a) b (first :: after) ∧
      pieces (a ++ ',' :: b) = before ++ (last ++ ',' :: first) :: after) := by
  refine ⟨join_pieces s, fun p hp => pieces_of_mem hp, slices_eq_pieces s, ⟨?_, ?_⟩,
    fun h => pieces_append_comma_of_pos h b⟩
  · intro hcut
    rcases Nat.eq_zero_or_pos (depthAt 0 a) with hdepth | hdepth
    · exact hdepth
    · obtain ⟨before, last, first, after, hlast, -, hjoined⟩ := pieces_append_comma_of_pos hdepth b
      -- The piece that goes on over the comma is longer than the one in front of it.
      rw [hjoined, hlast, List.append_assoc] at hcut
      have hsame := congrArg List.length (List.cons.inj (List.append_cancel_left hcut)).1
      rw [List.length_append, List.length_cons] at hsame
      omega
  · exact fun hdepth => piecesFrom_append_comma hdepth b

/-- A colour behind another value: the comma within it is no cut, and it is one piece. -/
theorem colour_not_cut :
    "rgb(1,2)".toList ∈ pieces "red,rgb(1,2)".toList ∧
    pieces "rgb(1,2)".toList = ["rgb(1,2)".toList] ∧
    0 < depthAt 0 "red,rgb(1".toList ∧
    ∃ before last first after, pieces "red,rgb(1".toList = before ++ [last] ∧
      Cut (depthAt 0 "red,rgb(1".toList) "2)".toList (first :: after) ∧
      pieces ("red,rgb(1".toList ++ ',' :: "2)".toList) =
        before ++ (last ++ ',' :: first) :: after :=
  have hmem : "rgb(1,2)".toList ∈ pieces "red,rgb(1,2)".toList := by decide
  have hdepth : 0 < depthAt 0 "red,rgb(1".toList := by decide
  have hcut := pieces_cut_exactly "red,rgb(1,2)".toList "red,rgb(1".toList "2)".toList
  ⟨hmem, hcut.2.1 _ hmem, hdepth, hcut.2.2.2.2 hdepth⟩

example : pieces "a),b(,c".toList = ["a)".toList, "b(,c".toList] := by decide

end Deck.Style
