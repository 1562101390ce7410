import Deck.Media.Reference

/-!
# The leftmost reference in a text

A search for a reference goes through the text from left to right, and there are many ways of
starting in vain: brackets that are closed by nothing, an alternative text that is empty, a
closing bracket that no locator follows.  None of them makes a difference: what is found is the
reference that starts first, and at the place where it starts there is only one.

The places of a reference are told by concatenation, as `before ++ reference ++ after`, and not by
numbers, since the search drops the characters of `before` one by one.

* `read?_eq_some_iff`: what is read at the start of a text.
* `StandsIn.unique`: **at one place there is one reference at most**.
* `Leftmost.unique`: so there is one leftmost reference at most.
* `find?_eq_some_iff`, `find?_eq_none_iff`: **the search finds the leftmost reference**, and finds
  nothing only where there is none.
* `Leftmost.of_after`: which reference is the leftmost one does not hang on what follows it.
-/

namespace Deck.Media.Reference

open Text

/-! ## Reading at one place -/

/-- What is read at the start of a text is written there. -/
theorem written_of_read? {s : List Char} {f : Reference} (h : read? s = some f) :
    f.Complete ∧ ∃ after, s = f.write ++ after := by
  unfold read? at h
  split at h
  · rename_i r
    split at h
    · rename_i t hbracket
      dsimp only at h
      split at h
      · cases h
      · rename_i hparts
        obtain ⟨halt, hurl, hparen⟩ := not_or.mp hparts |>.imp_right not_or.mp
        obtain rfl := Option.some.inj h
        obtain ⟨after, hafter⟩ := exists_of_dropWhile_ne hparen
        refine ⟨⟨halt, not_mem_takeWhile_ne ']' r, hurl, not_mem_takeWhile_ne ')' t⟩, after, ?_⟩
        have hr : r = r.takeWhile (· != ']') ++ ']' :: '(' :: t := by
          rw [← hbracket, List.takeWhile_append_dropWhile]
        simp only [write, List.cons_append, List.append_assoc, List.nil_append]
        rw [← hafter, ← hr]
    · cases h
  · cases h

/-- What is read at the start of a text is the reference that is written there. -/
theorem read?_eq_some_iff {s : List Char} {f : Reference} :
    read? s = some f ↔ f.Complete ∧ ∃ after, s = f.write ++ after := by
  refine ⟨written_of_read?, ?_⟩
  rintro ⟨hf, after, rfl⟩
  exact read?_write hf.alt_ne_nil hf.bracket_not_mem_alt hf.url_ne_nil hf.paren_not_mem_url after

/-! ## Places in a text -/

/-- The reference stands in the text `s`, between `before` and `after`. -/
structure StandsIn (s before : List Char) (f : Reference) (after : List Char) : Prop where
  complete : f.Complete
  text_eq : s = before ++ f.write ++ after

/-- The reference stands in the text, and none stands in it that starts further to the left. -/
structure Leftmost (s before : List Char) (f : Reference) (after : List Char) : Prop
    extends StandsIn s before f after where
  length_le {before' : List Char} {g : Reference} {after' : List Char} :
    StandsIn s before' g after' → before.length ≤ before'.length

variable {s before after before' after' : List Char} {f g : Reference}

theorem standsIn_nil_iff : (∃ after, StandsIn s [] f after) ↔ read? s = some f := by
  rw [read?_eq_some_iff]
  exact ⟨fun ⟨after, h⟩ => ⟨h.complete, after, h.text_eq⟩,
    fun ⟨hf, after, hs⟩ => ⟨after, hf, hs⟩⟩

theorem standsIn_cons_iff {c : Char} :
    StandsIn (c :: s) (c :: before) f after ↔ StandsIn s before f after := by
  constructor
  · rintro ⟨hf, hs⟩
    exact ⟨hf, (List.cons.inj hs).2⟩
  · rintro ⟨hf, rfl⟩
    exact ⟨hf, rfl⟩

/-- The places in a text with one more character: the start of it, and the old ones. -/
theorem StandsIn.cons_cases {c : Char} (h : StandsIn (c :: s) before f after) :
    before = [] ∧ read? (c :: s) = some f ∨ ∃ r, before = c :: r ∧ StandsIn s r f after := by
  cases before with
  | nil => exact Or.inl ⟨rfl, standsIn_nil_iff.mp ⟨after, h⟩⟩
  | cons d r =>
    obtain ⟨rfl, -⟩ := List.cons.inj h.text_eq
    exact Or.inr ⟨r, rfl, standsIn_cons_iff.mp h⟩

/-- **At one place there is one reference at most.** -/
theorem StandsIn.unique (hf : StandsIn s before f after) (hg : StandsIn s before g after') :
    g = f ∧ after' = after := by
  have htext := hf.text_eq.symm.trans hg.text_eq
  rw [List.append_assoc, List.append_assoc, List.append_cancel_left_eq] at htext
  obtain rfl : f = g := by
    have hread := read?_eq_some_iff.mpr ⟨hf.complete, after, rfl⟩
    rw [htext, read?_eq_some_iff.mpr ⟨hg.complete, after', rfl⟩] at hread
    exact (Option.some.inj hread).symm
  exact ⟨rfl, (List.append_cancel_left htext).symm⟩

/-- There is one leftmost reference at most. -/
theorem Leftmost.unique (hf : Leftmost s before f after) (hg : Leftmost s before' g after') :
    before' = before ∧ g = f ∧ after' = after := by
  have hlength := Nat.le_antisymm (hg.length_le hf.toStandsIn) (hf.length_le hg.toStandsIn)
  have htext := hg.text_eq.symm.trans hf.text_eq
  rw [List.append_assoc, List.append_assoc] at htext
  obtain ⟨rfl, -⟩ := List.append_inj htext hlength
  exact ⟨rfl, hf.toStandsIn.unique hg.toStandsIn⟩

/-! ## Searching -/

theorem find?_cons (c : Char) (s : List Char) :
    find? (c :: s) = (read? (c :: s)).or (find? s) := by
  rw [find?]
  cases read? (c :: s) <;> rfl

theorem find?_eq_none_iff :
    find? s = none ↔ ∀ before f after, ¬StandsIn s before f after := by
  induction s with
  | nil =>
    refine iff_of_true rfl fun before f after h => ?_
    have hlength := congrArg List.length h.text_eq
    simp [write] at hlength
  | cons c s ih =>
    rw [find?_cons, Option.or_eq_none_iff, ih]
    constructor
    · rintro ⟨hread, hrest⟩ before f after h
      rcases h.cons_cases with ⟨-, hf⟩ | ⟨r, -, hr⟩
      · rw [hread] at hf
        cases hf
      · exact hrest r f after hr
    · intro h
      refine ⟨Option.eq_none_iff_forall_ne_some.mpr fun f hf => ?_, fun before f after hs => ?_⟩
      · obtain ⟨after, hafter⟩ := standsIn_nil_iff.mpr hf
        exact h [] f after hafter
      · exact h (c :: before) f after (standsIn_cons_iff.mpr hs)

/-- What a search finds is leftmost. -/
theorem exists_leftmost_of_find? (h : find? s = some f) :
    ∃ before after, Leftmost s before f after := by
  induction s with
  | nil => cases h
  | cons c s ih =>
    rw [find?_cons] at h
    cases hread : read? (c :: s) with
    | some g =>
      rw [hread] at h
      obtain rfl := Option.some.inj h
      obtain ⟨after, hafter⟩ := standsIn_nil_iff.mpr hread
      exact ⟨[], after, hafter, fun _ => Nat.zero_le _⟩
    | none =>
      rw [hread] at h
      obtain ⟨before, after, hrest⟩ := ih h
      refine ⟨c :: before, after, standsIn_cons_iff.mpr hrest.toStandsIn, fun hg => ?_⟩
      -- Nothing is read at the start, so what stands anywhere stands further to the right.
      rcases hg.cons_cases with ⟨-, hg⟩ | ⟨r, rfl, hr⟩
      · rw [hread] at hg
        cases hg
      · exact Nat.succ_le_succ (hrest.length_le hr)

/-- **The search finds the leftmost reference.** -/
theorem find?_eq_some_iff :
    find? s = some f ↔ ∃ before after, Leftmost s before f after := by
  refine ⟨exists_leftmost_of_find?, ?_⟩
  rintro ⟨before, after, hf⟩
  cases hfind : find? s with
  | none => exact absurd hf.toStandsIn (find?_eq_none_iff.mp hfind before f after)
  | some g =>
    obtain ⟨before', after', hg⟩ := exists_leftmost_of_find? hfind
    rw [(hf.unique hg).2.1]

/-! ## What follows the leftmost reference -/

/-- A reference that ends within another one ends where this one does: behind the bracket that
closes its alternative text there is only one closing parenthesis. -/
theorem eq_nil_of_write_eq {m u : List Char} (hg : g.Complete) (h : g.write = m ++ f.write ++ u) :
    u = [] := by
  have hdrop : ']' :: '(' :: (g.url ++ [')']) =
      (m ++ '!' :: '[' :: f.alt).dropWhile (· != ']') ++ ']' :: '(' :: (f.url ++ ')' :: u) := by
    have hbracket : ']' ∉ '!' :: '[' :: g.alt := by simp [hg.bracket_not_mem_alt]
    calc ']' :: '(' :: (g.url ++ [')'])
        = (('!' :: '[' :: g.alt) ++ ']' :: '(' :: (g.url ++ [')'])).dropWhile (· != ']') :=
          (dropWhile_ne_append hbracket _).symm
      _ = (m ++ f.write ++ u).dropWhile (· != ']') := by rw [← h]; rfl
      _ = ((m ++ '!' :: '[' :: f.alt) ++ ']' :: '(' :: (f.url ++ ')' :: u)).dropWhile
            (· != ']') := by simp [write]
      _ = _ := dropWhile_append_cons (by simp) _ _
  rcases u.eq_nil_or_concat with rfl | ⟨u, x, rfl⟩
  · rfl
  · -- The parenthesis at the end of `f` would stand before the one at the end of `g`.
    have hlast := congrArg List.dropLast hdrop
    simp only [← List.cons_append, ← List.append_assoc, List.concat_eq_append,
      List.dropLast_concat] at hlast
    have hmem : ')' ∈ ']' :: '(' :: g.url := by
      rw [hlast]
      simp
    simp [hg.paren_not_mem_url] at hmem

/-- **Which reference is the leftmost one** does not hang on what follows it. -/
theorem Leftmost.of_after (h : Leftmost s before f after) (rest : List Char) :
    Leftmost (before ++ f.write ++ rest) before f rest := by
  refine ⟨⟨h.complete, rfl⟩, fun {before' g after'} hg => Nat.le_of_not_lt fun hlt => ?_⟩
  have htext := hg.text_eq
  -- The other reference starts within `before`, and ends with `f` at the latest.
  obtain ⟨m, rfl⟩ : before' <+: before := by
    have hg' : before' <+: before ++ f.write ++ rest :=
      ⟨g.write ++ after', by rw [htext, List.append_assoc]⟩
    have hf' : before <+: before ++ f.write ++ rest :=
      ⟨f.write ++ rest, (List.append_assoc ..).symm⟩
    exact List.prefix_of_prefix_length_le hg' hf' (Nat.le_of_lt hlt)
  have hends : g.write <+: m ++ f.write := by
    have hrest : m ++ f.write ++ rest = g.write ++ after' := by
      simpa only [List.append_assoc, List.append_cancel_left_eq] using htext
    have hg' : g.write <+: g.write ++ after' := List.prefix_append _ _
    rcases List.prefix_or_prefix_of_prefix hg' ⟨rest, hrest⟩ with hg' | ⟨u, hu⟩
    · exact hg'
    · obtain rfl := eq_nil_of_write_eq hg.complete hu.symm
      exact ⟨[], by rw [← hu, List.append_nil, List.append_nil]⟩
  obtain ⟨v, hv⟩ := hends
  have hstands : StandsIn s before' g (v ++ after) := by
    refine ⟨hg.complete, ?_⟩
    calc s = before' ++ (m ++ f.write) ++ after := by rw [h.text_eq]; simp
      _ = before' ++ g.write ++ (v ++ after) := by rw [← hv]; simp
  exact Nat.not_lt_of_le (h.length_le hstands) hlt

end Deck.Media.Reference
