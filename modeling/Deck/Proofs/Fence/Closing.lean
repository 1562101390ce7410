import Deck.Proofs.Fence.Grammar

/-!
# The fence that closes a block

Behind the opening line of a block fences may stand in several places, which may overlap.  A
fence closes the block if only blanks follow it, so that no fence but the last one can.  The
other ones, the first one among them, then belong to the body.

Where fences stand is told by splitting the text, with no regard to how a block is read.

* `Opens.unique`: a text has one opening line at most.
* `Opens.read?_iff`: **a block is read up to the fence that closes it**.
* `ClosingFence.last`: only the last fence can close a block.
* `ClosingFence.first_iff`: it is the first one only if there is no other.
-/

namespace Deck.Fence

open Text

/-! ## Opening lines -/

/-- The opening line of a block, and the blanks before it. -/
def Block.opening (b : Block) (g : Spacing) : List Char :=
  g.before ++ fence ++ b.language.getD [] ++ g.afterLanguage ++ bracketed b.attributes
    ++ g.afterAttributes ++ g.lineEnd

/-- The text opens a block, and `rest` is what stands behind the opening line. -/
def Opens (raw rest : List Char) : Prop :=
  ∃ (b : Block) (g : Spacing), b.Valid ∧ raw = b.opening g ++ rest

theorem Block.text_eq (b : Block) (g : Spacing) :
    b.text g = b.opening g ++ (b.body ++ fence ++ g.after) := by
  simp only [Block.text, Block.opening, List.append_assoc]

/-- An opening line with a body, a fence and blanks behind it is a block. -/
theorem fenced_opening {b : Block} (hb : b.Valid) (g : Spacing) {body after : List Char}
    (hafter : ∀ c ∈ after, isBlank c = true) :
    Fenced (b.opening g ++ (body ++ fence ++ after)) { b with body := body } := by
  refine ⟨⟨hb.language, hb.attributes⟩, { g with after := after, after_blank := hafter }, ?_⟩
  rw [Block.text_eq]
  rfl

/-- **A text has one opening line at most.** -/
theorem Opens.unique {raw rest rest' : List Char} (h : Opens raw rest) (h' : Opens raw rest') :
    rest = rest' := by
  obtain ⟨b, g, hb, rfl⟩ := h
  obtain ⟨b', g', hb', heq⟩ := h'
  -- With a fence at its end the text is a block, whose body is what follows the opening line.
  have hclosed : Fenced (b.opening g ++ (rest ++ fence ++ [])) { b with body := rest } :=
    fenced_opening hb g (by simp)
  have hclosed' : Fenced (b'.opening g' ++ (rest' ++ fence ++ [])) { b' with body := rest' } :=
    fenced_opening hb' g' (by simp)
  have htext : b.opening g ++ (rest ++ fence ++ []) = b'.opening g' ++ (rest' ++ fence ++ []) := by
    simpa using congrArg (· ++ fence) heq
  rw [htext] at hclosed
  exact congrArg Block.body (hclosed.unique hclosed')

/-! ## Fences in a text -/

/-- A fence stands in the text, between the two parts. -/
def FenceBetween (s before after : List Char) : Prop := s = before ++ fence ++ after

/-- No fence of the text starts further left. -/
structure FirstFence (s before after : List Char) : Prop where
  between : FenceBetween s before after
  first : ∀ b a, FenceBetween s b a → before.length ≤ b.length

/-- No fence of the text starts further right. -/
structure LastFence (s before after : List Char) : Prop where
  between : FenceBetween s before after
  last : ∀ b a, FenceBetween s b a → b.length ≤ before.length

/-- Only blanks follow the fence. -/
structure ClosingFence (s before after : List Char) : Prop where
  between : FenceBetween s before after
  blank : ∀ c ∈ after, isBlank c = true

section

variable {s before after b a : List Char}

theorem FenceBetween.length_eq (h : FenceBetween s before after) :
    s.length = before.length + 3 + after.length := by
  rw [h, List.length_append, List.length_append]
  rfl

/-- Where a fence starts tells what stands around it. -/
theorem FenceBetween.eq_of_length (h : FenceBetween s before after) (h' : FenceBetween s b a)
    (hlength : before.length = b.length) : before = b ∧ after = a := by
  have heq : before ++ (fence ++ after) = b ++ (fence ++ a) := by
    rw [← List.append_assoc, ← List.append_assoc, ← h, ← h']
  obtain ⟨hbefore, hafter⟩ := List.append_inj heq hlength
  exact ⟨hbefore, List.append_cancel_left hafter⟩

/-- There is no fence before the first one. -/
theorem FirstFence.not_infix (h : FirstFence s before after) : ¬fence <:+: before := by
  rintro ⟨x, y, rfl⟩
  have hearlier : FenceBetween s x (y ++ fence ++ after) := by
    rw [FenceBetween, h.between]
    simp only [List.append_assoc]
  have hle := h.first x _ hearlier
  have hfence : fence.length = 3 := rfl
  simp only [List.length_append, hfence] at hle
  omega

/-- One fence at most closes a block. -/
theorem ClosingFence.unique (h : ClosingFence s before after) (h' : ClosingFence s b a) :
    before = b :=
  Option.some.inj ((beforeFence?_trimEnd_iff.mpr ⟨after, h.blank, h.between⟩).symm.trans
    (beforeFence?_trimEnd_iff.mpr ⟨a, h'.blank, h'.between⟩))

/-- **Only the last fence can close a block.** -/
theorem ClosingFence.last (h : ClosingFence s before after) : LastFence s before after := by
  refine ⟨h.between, fun b a hb => Nat.le_of_not_lt fun hlt => ?_⟩
  -- Behind a fence further right there are only blanks too.
  have hlength : a.length ≤ after.length := by
    have := h.between.length_eq
    have := hb.length_eq
    omega
  have hsuffix : a <:+ after :=
    List.suffix_of_suffix_length_le ⟨b ++ fence, hb.symm⟩ ⟨before ++ fence, h.between.symm⟩ hlength
  have hclosing : ClosingFence s b a := ⟨hb, fun c hc => h.blank c (hsuffix.mem hc)⟩
  rw [h.unique hclosing] at hlt
  exact Nat.lt_irrefl _ hlt

/-- The fence that closes a block is the first one only if there is no other. -/
theorem ClosingFence.first_iff (h : ClosingFence s before after) :
    FirstFence s before after ↔ ∀ b a, FenceBetween s b a → b = before := by
  constructor
  · intro hfirst b a hb
    have hlength := Nat.le_antisymm (hfirst.first b a hb) (h.last.last b a hb)
    exact (h.between.eq_of_length hb hlength).1.symm
  · intro honly
    exact ⟨h.between, fun b a hb => Nat.le_of_eq (congrArg List.length (honly b a hb).symm)⟩

end

/-! ## Reading up to a fence -/

/-- Only texts that open a block are read. -/
theorem exists_opens_of_read? {raw : List Char} {b : Block} (h : read? raw = some b) :
    ∃ rest after, Opens raw rest ∧ ClosingFence rest b.body after := by
  obtain ⟨hb, g, rfl⟩ := fenced_of_read? h
  exact ⟨_, g.after, ⟨b, g, hb, b.text_eq g⟩, rfl, g.after_blank⟩

/-- **A block is read up to the fence that closes it.** -/
theorem Opens.read?_iff {raw rest body : List Char} (h : Opens raw rest) :
    (∃ b, read? raw = some b ∧ b.body = body) ↔ ∃ after, ClosingFence rest body after := by
  constructor
  · rintro ⟨b, hb, rfl⟩
    obtain ⟨rest', after, hopens, hclosing⟩ := exists_opens_of_read? hb
    rw [h.unique hopens]
    exact ⟨after, hclosing⟩
  · rintro ⟨after, hbetween, hblank⟩
    obtain ⟨b, g, hb, rfl⟩ := h
    rw [hbetween]
    exact ⟨_, read?_eq_some_iff.mpr (fenced_opening hb g hblank), rfl⟩

section

variable {raw rest : List Char} (h : Opens raw rest)
include h

/-- Blocks are closed by the first fence behind their opening line only if they hold no other. -/
theorem Opens.read?_first_iff :
    (∀ b, read? raw = some b → ¬fence <:+: b.body ∧ ∃ after, FirstFence rest b.body after) ↔
      ∀ before after, ClosingFence rest before after →
        ∀ b a, FenceBetween rest b a → b = before := by
  constructor
  · intro hbody before after hclosing
    obtain ⟨b, hb, rfl⟩ := h.read?_iff.mpr ⟨after, hclosing⟩
    obtain ⟨-, after', hfirst⟩ := hbody b hb
    obtain ⟨-, rfl⟩ := hfirst.between.eq_of_length hclosing.between rfl
    exact hclosing.first_iff.mp hfirst
  · intro honly b hb
    obtain ⟨after, hclosing⟩ := h.read?_iff.mp ⟨b, hb, rfl⟩
    have hfirst := hclosing.first_iff.mpr (honly _ _ hclosing)
    exact ⟨hfirst.not_infix, after, hfirst⟩

/-- Then no text is read that goes on behind the first fence. -/
theorem Opens.read?_eq_none
    (hfirst : ∀ b, read? raw = some b → ¬fence <:+: b.body ∧ ∃ after, FirstFence rest b.body after)
    {before after : List Char} (hbefore : FirstFence rest before after)
    (hmore : ∃ c ∈ after, isBlank c = false) : read? raw = none := by
  rw [Option.eq_none_iff_forall_ne_some]
  intro b hb
  obtain ⟨after', hclosing⟩ := h.read?_iff.mp ⟨b, hb, rfl⟩
  have hbody := h.read?_first_iff.mp hfirst _ _ hclosing _ _ hbefore.between
  obtain ⟨-, rfl⟩ := hbefore.between.eq_of_length hclosing.between (congrArg _ hbody)
  obtain ⟨c, hc, hnot⟩ := hmore
  rw [hclosing.blank c hc] at hnot
  cases hnot

end

end Deck.Fence
