import Deck.Proofs.Style.Cuts
import Deck.Proofs.Style.Written

/-!
# Which style blocks are accepted

A style block is accepted as a whole or not at all.  `Accepted` says what that takes without
looking at how a block is read: braces, some piece that is not blank, and a key and a value in
each piece that is not.  `Hollow` says which blocks declare nothing and are no mistake either.

* `read_eq_ok_iff`: what a block is read as.
* `exists_read_cons_iff`: **pairs are read from the accepted blocks**, and from no other ones.
* `read_eq_nil_iff`: **no pair is read from the hollow blocks**; all others are rejected.
-/

namespace Deck.Style

open Text

/-! ## Pieces -/

/-- Something is left of the text without the blanks around it, and also of what a pair of
quotes encloses there. -/
def GivesValue (v : List Char) : Prop :=
  ¬AllBlank v ∧ ∀ q t, isQuote q = true → trim v = q :: (t ++ [q]) → ¬AllBlank t

/-- A key in front of the first colon, and a value behind it. -/
def IsPair (piece : List Char) : Prop :=
  ∃ k v, piece = k ++ ':' :: v ∧ ':' ∉ k ∧ ¬AllBlank k ∧ GivesValue v

theorem allBlank_iff {s : List Char} : AllBlank s ↔ trim s = [] := trim_eq_nil_iff.symm

theorem givesValue_iff {v : List Char} : GivesValue v ↔ trim (unquote (trim v)) ≠ [] := by
  by_cases hwrapped : ∃ q t, isQuote q = true ∧ trim v = q :: (t ++ [q])
  · obtain ⟨q, t, hq, hv⟩ := hwrapped
    rw [hv, unquote_wrap hq, Ne, ← allBlank_iff]
    constructor
    · rintro ⟨-, hinner⟩
      exact hinner q t hq hv
    · intro ht
      refine ⟨fun hblank => ?_, fun q' t' _ hv' => ?_⟩
      · rw [allBlank_iff, hv] at hblank
        exact absurd hblank (by simp)
      · rw [hv, List.cons.injEq] at hv'
        obtain ⟨rfl, htt⟩ := hv'
        rwa [← List.append_cancel_right htt]
  · have hbare : ∀ q t, isQuote q = true → trim v ≠ q :: (t ++ [q]) :=
      fun q t hq hv => hwrapped ⟨q, t, hq, hv⟩
    rw [unquote_of_not_wrapped hbare, trim_trim, Ne, ← allBlank_iff]
    constructor
    · exact And.left
    · exact fun hv => ⟨hv, fun q t hq he => absurd he (hbare q t hq)⟩

theorem ofPiece?_append {k : List Char} (hk : ':' ∉ k) (v : List Char) :
    Pair.ofPiece? (k ++ ':' :: v) =
      if trim k = [] ∨ trim (unquote (trim v)) = [] then none
      else some ⟨trim k, trim (unquote (trim v))⟩ := by
  rw [Pair.ofPiece?, dropWhile_ne_append hk]
  simp only [takeWhile_ne_append hk]

/-- **A pair is read from a piece** that has a key and a value, and from no other one. -/
theorem exists_ofPiece?_iff {piece : List Char} :
    (∃ p, Pair.ofPiece? piece = some p) ↔ IsPair piece := by
  by_cases hcolon : ':' ∈ piece
  · obtain ⟨k, v, rfl, hk⟩ := List.eq_append_cons_of_mem hcolon
    have hparts : IsPair (k ++ ':' :: v) ↔ ¬(trim k = [] ∨ trim (unquote (trim v)) = []) := by
      rw [not_or, ← allBlank_iff, ← Ne, ← givesValue_iff]
      constructor
      · rintro ⟨k', v', he, hk', h⟩
        have hkey := congrArg (List.takeWhile (· != ':')) he
        have hvalue := congrArg (List.dropWhile (· != ':')) he
        rw [takeWhile_ne_append hk, takeWhile_ne_append hk'] at hkey
        rw [dropWhile_ne_append hk, dropWhile_ne_append hk', List.cons.injEq] at hvalue
        rw [hkey, hvalue.2]
        exact h
      · exact fun h => ⟨k, v, rfl, hk, h⟩
    rw [hparts, ofPiece?_append hk]
    split
    · rename_i hmissing
      simp [hmissing]
    · rename_i hgiven
      simp [hgiven]
  · have hnone : piece.dropWhile (· != ':') = [] := dropWhile_eq_nil (all_ne_of_not_mem hcolon)
    rw [Pair.ofPiece?, hnone]
    constructor
    · rintro ⟨p, hp⟩
      cases hp
    · rintro ⟨k, v, rfl, -⟩
      exact absurd (by simp) hcolon

/-! ## Pieces in a row -/

theorem exists_pairs_iff {ss : List (List Char)} :
    (∃ ps, pairs ss = .ok ps) ↔ ∀ s ∈ ss, ¬AllBlank s → IsPair s := by
  induction ss with
  | nil => exact ⟨fun _ s hs => absurd hs List.not_mem_nil, fun _ => ⟨[], rfl⟩⟩
  | cons s ss ih =>
    rw [List.forall_mem_cons, pairs, ← ih, ← exists_ofPiece?_iff]
    by_cases hblank : trim s = []
    · rw [if_pos hblank]
      exact ⟨fun h => ⟨fun hs => absurd (allBlank_iff.mpr hblank) hs, h⟩, And.right⟩
    · rw [if_neg hblank]
      have hs : ¬AllBlank s := fun h => hblank (allBlank_iff.mp h)
      cases Pair.ofPiece? s with
      | none => simp [hs]
      | some p => cases pairs ss <;> simp [hs, Except.map]

theorem pairs_eq_nil_iff {ss : List (List Char)} :
    pairs ss = .ok [] ↔ ∀ s ∈ ss, AllBlank s := by
  induction ss with
  | nil => exact ⟨fun _ s hs => absurd hs List.not_mem_nil, fun _ => rfl⟩
  | cons s ss ih =>
    rw [List.forall_mem_cons, pairs, ← ih]
    by_cases hblank : trim s = []
    · rw [if_pos hblank]
      exact ⟨fun h => ⟨allBlank_iff.mpr hblank, h⟩, And.right⟩
    · rw [if_neg hblank]
      have hs : ¬AllBlank s := fun h => hblank (allBlank_iff.mp h)
      cases Pair.ofPiece? s with
      | none => simp [hs]
      | some p => cases pairs ss <;> simp [hs, Except.map]

theorem pairs_ne_nil_iff {ss : List (List Char)} :
    pairs ss ≠ .ok [] ↔ ∃ s ∈ ss, ¬AllBlank s := by
  simp only [Ne, pairs_eq_nil_iff, Classical.not_forall, exists_prop]

/-! ## Blocks -/

/-- The block stands in braces, and there are no other ones between them. -/
def Braced (raw inner : List Char) : Prop :=
  trim raw = '\x7b' :: (inner ++ ['\x7d']) ∧ '\x7b' ∉ inner ∧ '\x7d' ∉ inner

/-- What a block has to be: between its braces, cut at the commas outside of parentheses, there
is something, and all that there is are pairs. -/
def Accepted (raw : List Char) : Prop :=
  ∃ inner ss, Braced raw inner ∧ Cut 0 inner ss ∧ (∃ s ∈ ss, ¬AllBlank s) ∧
    ∀ s ∈ ss, ¬AllBlank s → IsPair s

/-- Nothing is declared: the block is blank, or has nothing but blanks and commas between its
braces. -/
def Hollow (raw : List Char) : Prop :=
  AllBlank raw ∨
    ∃ inner, trim raw = '\x7b' :: (inner ++ ['\x7d']) ∧ ∀ c ∈ inner, isBlank c = true ∨ c = ','

theorem interior?_eq_some_iff {block inner : List Char} :
    interior? block = some inner ↔ block = '\x7b' :: (inner ++ ['\x7d']) := by
  constructor
  · intro h
    unfold interior? at h
    split at h
    · split at h
      · rename_i r hlast
        obtain ⟨t, rfl⟩ := List.getLast?_eq_some_iff.mp hlast
        rw [List.dropLast_concat, Option.some.injEq] at h
        rw [h]
      · cases h
    · cases h
  · rintro rfl
    simp [interior?]

/-- **What a block is read as.** -/
theorem read_eq_ok_iff {raw : List Char} {ps : List Pair} : read raw = .ok ps ↔
    AllBlank raw ∧ ps = [] ∨ ∃ inner, Braced raw inner ∧ pairs (pieces inner) = .ok ps := by
  by_cases hblank : trim raw = []
  · have hraw : AllBlank raw := allBlank_iff.mpr hblank
    rw [read, if_pos hblank, Except.ok.injEq]
    constructor
    · exact fun h => Or.inl ⟨hraw, h.symm⟩
    · rintro (⟨-, rfl⟩ | ⟨inner, ⟨hbraces, -⟩, -⟩)
      · rfl
      · exact absurd (hblank.symm.trans hbraces) (by simp)
  · have hraw : ¬AllBlank raw := fun h => hblank (allBlank_iff.mp h)
    rw [read, if_neg hblank]
    constructor
    · intro h
      split at h
      · cases h
      · rename_i inner hinner
        split at h
        · cases h
        · rename_i hfree
          rw [not_or] at hfree
          exact Or.inr ⟨inner, ⟨interior?_eq_some_iff.mp hinner, hfree⟩, h⟩
    · rintro (⟨h, -⟩ | ⟨inner, ⟨hbraces, hopen, hclose⟩, h⟩)
      · exact absurd h hraw
      · rw [interior?_eq_some_iff.mpr hbraces]
        simp only [if_neg (not_or.mpr ⟨hopen, hclose⟩), h]

/-- **Pairs are read from the accepted blocks**, and from no other ones. -/
theorem exists_read_cons_iff {raw : List Char} :
    (∃ p ps, read raw = .ok (p :: ps)) ↔ Accepted raw := by
  constructor
  · rintro ⟨p, ps, h⟩
    obtain ⟨-, hps⟩ | ⟨inner, hbraced, hpairs⟩ := read_eq_ok_iff.mp h
    · cases hps
    · have hne : pairs (pieces inner) ≠ .ok [] := by
        rw [hpairs]
        simp
      exact ⟨inner, pieces inner, hbraced, pieces_eq_iff_cut.mp rfl, pairs_ne_nil_iff.mp hne,
        exists_pairs_iff.mp ⟨_, hpairs⟩⟩
  · rintro ⟨inner, ss, hbraced, hcut, hsome, hall⟩
    obtain rfl := pieces_eq_iff_cut.mpr hcut
    obtain ⟨ps, hps⟩ := exists_pairs_iff.mpr hall
    cases ps with
    | nil => exact absurd hps (pairs_ne_nil_iff.mpr hsome)
    | cons p ps => exact ⟨p, ps, read_eq_ok_iff.mpr (Or.inr ⟨inner, hbraced, hps⟩)⟩

/-! ## Blocks without a pair -/

/-- All pieces are blank if there is nothing but blanks and commas. -/
theorem allBlank_pieces_iff {s : List Char} :
    (∀ p ∈ pieces s, AllBlank p) ↔ ∀ c ∈ s, isBlank c = true ∨ c = ',' := by
  constructor
  · intro h c hc
    rw [← join_pieces s] at hc
    obtain hcomma | ⟨p, hp, hcp⟩ := mem_join hc
    · exact Or.inr hcomma
    · exact Or.inl (h p hp c hcp)
  · intro h
    induction s with
    | nil => simp [pieces, piecesFrom, AllBlank]
    | cons c s ih =>
      obtain ⟨hc, hs⟩ := List.forall_mem_cons.mp h
      have hrest := ih hs
      by_cases hcomma : c = ','
      · rw [hcomma, pieces, piecesFrom, if_pos ⟨rfl, rfl⟩]
        exact List.forall_mem_cons.mpr ⟨fun x hx => absurd hx List.not_mem_nil, hrest⟩
      · -- A blank is no parenthesis, so it belongs to the first piece of what follows.
        have hblank := hc.resolve_right hcomma
        have hdepth : depthAfter 0 c = 0 := by
          rw [depthAfter, if_neg, if_neg] <;> rintro rfl <;> exact absurd hblank (by decide)
        obtain ⟨q, qs, hqs⟩ := List.exists_cons_of_ne_nil (pieces_ne_nil s)
        rw [hqs, List.forall_mem_cons] at hrest
        rw [pieces, piecesFrom_cons (Or.inl hcomma), hdepth, ← pieces, hqs, List.modifyHead_cons,
          List.forall_mem_cons]
        exact ⟨List.forall_mem_cons.mpr ⟨hblank, hrest.1⟩, hrest.2⟩

/-- **No pair is read from the hollow blocks**, and all blocks without a pair are hollow or
rejected. -/
theorem read_eq_nil_iff {raw : List Char} : read raw = .ok [] ↔ Hollow raw := by
  have hbraced : ∀ inner : List Char, (∀ c ∈ inner, isBlank c = true ∨ c = ',') →
      '\x7b' ∉ inner ∧ '\x7d' ∉ inner := by
    intro inner h
    constructor <;> intro hm <;> rcases h _ hm with hc | hc <;> exact absurd hc (by decide)
  simp only [read_eq_ok_iff, pairs_eq_nil_iff, allBlank_pieces_iff, Hollow, Braced, and_true]
  refine or_congr_right (exists_congr fun inner => ?_)
  constructor
  · rintro ⟨⟨h, -⟩, hall⟩
    exact ⟨h, hall⟩
  · rintro ⟨h, hall⟩
    exact ⟨⟨h, hbraced inner hall⟩, hall⟩

end Deck.Style
