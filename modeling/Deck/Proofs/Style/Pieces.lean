import Deck.Style.Pieces

/-!
# Texts that are not cut

A style block is cut at the commas outside of parentheses.  `Balanced` and `Shielded` are
grammars of parentheses: in a balanced text each parenthesis has its partner, and in a shielded
one all commas stand between partners.  Neither counts how deep the text is.

* `Uncut.append`: texts that are not cut may be put together.
* `uncut_of_shielded`: a shielded text is not cut.
* `pieces_join`: texts that are not cut are the pieces of what they are joined to.
-/

namespace Deck.Style

/-- Text in which each parenthesis has a partner. -/
inductive Balanced : List Char → Prop
  | nil : Balanced []
  | char {c : Char} {s : List Char} : c ≠ '(' → c ≠ ')' → Balanced s → Balanced (c :: s)
  | group {s t : List Char} : Balanced s → Balanced t → Balanced ('(' :: (s ++ ')' :: t))

/-- Balanced text whose commas all stand in parentheses. -/
inductive Shielded : List Char → Prop
  | nil : Shielded []
  | char {c : Char} {s : List Char} : c ≠ '(' → c ≠ ')' → c ≠ ',' → Shielded s → Shielded (c :: s)
  | group {s t : List Char} : Balanced s → Shielded t → Shielded ('(' :: (s ++ ')' :: t))

/-- The text is not cut where it starts `depth` parentheses deep, and ends as deep. -/
def Uncut (depth : Nat) (s : List Char) : Prop :=
  ∀ t, piecesFrom depth (s ++ t) = (piecesFrom depth t).modifyHead (s ++ ·)

/-- A character that is no comma outside of parentheses goes to the piece that follows. -/
theorem piecesFrom_cons {depth : Nat} {c : Char} (h : c ≠ ',' ∨ 0 < depth) (r : List Char) :
    piecesFrom depth (c :: r) = (piecesFrom (depthAfter depth c) r).modifyHead (c :: ·) := by
  rw [piecesFrom, if_neg]
  rintro ⟨hc, hdepth⟩
  rcases h with h | h
  · exact h hc
  · exact absurd hdepth (Nat.ne_of_gt h)

namespace Uncut

variable {depth : Nat} {s t : List Char}

theorem nil (depth : Nat) : Uncut depth [] := by
  intro t
  have hid : (fun p : List Char => [] ++ p) = id := rfl
  rw [hid, List.modifyHead_id]
  rfl

theorem append (hs : Uncut depth s) (ht : Uncut depth t) : Uncut depth (s ++ t) := by
  intro r
  rw [List.append_assoc, hs, ht, List.modifyHead_modifyHead]
  congr 1
  funext p
  exact (List.append_assoc s t p).symm

theorem cons {c : Char} (hc : c ≠ '(' ∧ c ≠ ')') (hcomma : c ≠ ',' ∨ 0 < depth)
    (hs : Uncut depth s) : Uncut depth (c :: s) := by
  intro t
  have hdepth : depthAfter depth c = depth := by rw [depthAfter, if_neg hc.1, if_neg hc.2]
  rw [List.cons_append, piecesFrom_cons hcomma, hdepth, hs, List.modifyHead_modifyHead]
  rfl

/-- Within a pair of parentheses the text is one deeper. -/
theorem group (hs : Uncut (depth + 1) s) (ht : Uncut depth t) :
    Uncut depth ('(' :: (s ++ ')' :: t)) := by
  intro r
  have hopen : depthAfter depth '(' = depth + 1 := rfl
  have hclose : depthAfter (depth + 1) ')' = depth := rfl
  rw [List.cons_append, List.append_assoc, List.cons_append, piecesFrom_cons (Or.inl (by decide)),
    hopen, hs, piecesFrom_cons (Or.inl (by decide)), hclose, ht]
  simp only [List.modifyHead_modifyHead]
  congr 1
  funext p
  simp

/-- Text without parentheses and commas. -/
theorem of_forall (h : ∀ c ∈ s, c ≠ '(' ∧ c ≠ ')' ∧ c ≠ ',') : Uncut depth s := by
  induction s with
  | nil => exact nil depth
  | cons c r ih =>
    obtain ⟨hopen, hclose, hcomma⟩ := h c List.mem_cons_self
    exact cons ⟨hopen, hclose⟩ (Or.inl hcomma) (ih fun x hx => h x (List.mem_cons_of_mem c hx))

end Uncut

theorem uncut_of_balanced {s : List Char} (h : Balanced s) {depth : Nat} (hdepth : 0 < depth) :
    Uncut depth s := by
  induction h generalizing depth with
  | nil => exact .nil depth
  | char hopen hclose _ ih => exact .cons ⟨hopen, hclose⟩ (Or.inr hdepth) (ih hdepth)
  | group _ _ ihs iht => exact .group (ihs (Nat.succ_pos depth)) (iht hdepth)

/-- **A shielded text is not cut.** -/
theorem uncut_of_shielded {s : List Char} (h : Shielded s) : Uncut 0 s := by
  induction h with
  | nil => exact .nil 0
  | char hopen hclose hcomma _ ih => exact .cons ⟨hopen, hclose⟩ (Or.inl hcomma) ih
  | group hs _ iht => exact .group (uncut_of_balanced hs Nat.one_pos) iht

/-- **Texts that are not cut** are the pieces of what they are joined to. -/
theorem pieces_join {ss : List (List Char)} (hne : ss ≠ []) (h : ∀ s ∈ ss, Uncut 0 s) :
    pieces (join ss) = ss := by
  induction ss with
  | nil => exact absurd rfl hne
  | cons s ss ih =>
    have hs := h s List.mem_cons_self
    by_cases hss : ss = []
    · subst hss
      have hlast := hs []
      rw [List.append_nil] at hlast
      rw [pieces, join, hlast, piecesFrom, List.modifyHead_cons, List.append_nil]
    · have hrest := ih hss fun x hx => h x (List.mem_cons_of_mem s hx)
      rw [pieces] at hrest ⊢
      rw [join_cons hss, hs, piecesFrom, if_pos ⟨rfl, rfl⟩, hrest, List.modifyHead_cons,
        List.append_nil]

end Deck.Style
