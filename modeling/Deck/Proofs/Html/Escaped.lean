import Deck.Html.Escape

/-!
# Escaped text

A text is *escaped* when it holds no angle bracket and no quote, and when each of
its ampersands begins one of five entities.  This says nothing of how the text came
about: `Escaped` is a grammar, and escaping is shown to produce it.

* `escaped_escapeChars`: what escaping gives is escaped.
* `Escaped.cut`: an escaped text may be cut at a character that occurs in no entity,
  and both parts are escaped.  A mark of emphasis is such a character.
* `Escaped.not_mem`: no angle bracket and no quote occurs.
-/

namespace Deck.Html

/-- The entities for the characters with a meaning in markup. -/
def entities : List (List Char) :=
  ["&amp;".toList, "&lt;".toList, "&gt;".toList, "&quot;".toList, "&#x27;".toList]

/-- The characters with a meaning in markup. -/
def specialChars : List Char := ['&', '<', '>', '"', '\'']

def isSpecial (c : Char) : Bool := specialChars.contains c

/-- Text made of entities and of characters without a meaning in markup. -/
inductive Escaped : List Char → Prop
  | nil : Escaped []
  | char {c : Char} {s : List Char} : isSpecial c = false → Escaped s → Escaped (c :: s)
  | entity {e s : List Char} : e ∈ entities → Escaped s → Escaped (e ++ s)

/-! ## Escaped parts -/

theorem Escaped.append {s t : List Char} (hs : Escaped s) (ht : Escaped t) :
    Escaped (s ++ t) := by
  induction hs with
  | nil => exact ht
  | char hc _ ih => exact .char hc ih
  | entity he _ ih =>
    rw [List.append_assoc]
    exact .entity he ih

theorem escaped_of_forall {s : List Char} (h : ∀ c ∈ s, isSpecial c = false) : Escaped s := by
  induction s with
  | nil => exact .nil
  | cons c r ih =>
    exact .char (h c List.mem_cons_self) (ih fun x hx => h x (List.mem_cons_of_mem c hx))

/-- A check for text of which all is known. -/
def isPlain (s : List Char) : Bool := s.all (!isSpecial ·)

theorem escaped_of_isPlain {s : List Char} (h : isPlain s = true) : Escaped s := by
  refine escaped_of_forall ?_
  intro c hc
  have hplain := List.all_eq_true.mp h c hc
  rwa [Bool.not_eq_true'] at hplain

/-- A class of characters that holds no special one. -/
theorem isSpecial_eq_false {p : Char → Bool} (hp : specialChars.any p = false) {c : Char}
    (h : p c = true) : isSpecial c = false := by
  rw [← Bool.not_eq_true, isSpecial, List.contains_iff_mem]
  intro hm
  rw [List.any_eq_false] at hp
  exact hp c hm h

theorem escaped_of_mem_entities {e : List Char} (h : e ∈ entities) : Escaped e := by
  rw [← List.append_nil e]
  exact .entity h .nil

/-- Each of the five characters has its entity. -/
theorem entities_eq : entities = specialChars.map entity := by decide

/-- A character stands for itself, or one of the entities stands for it. -/
theorem entity_cases (c : Char) :
    isSpecial c = false ∧ entity c = [c] ∨ isSpecial c = true ∧ entity c ∈ entities := by
  cases hc : isSpecial c with
  | false =>
    have hne : c ≠ '&' ∧ c ≠ '<' ∧ c ≠ '>' ∧ c ≠ '"' ∧ c ≠ '\'' := by
      simpa [isSpecial, specialChars] using hc
    obtain ⟨h₁, h₂, h₃, h₄, h₅⟩ := hne
    exact Or.inl ⟨rfl, entity_of_ne h₁ h₂ h₃ h₄ h₅⟩
  | true =>
    rw [entities_eq]
    exact Or.inr ⟨rfl, List.mem_map_of_mem (List.contains_iff_mem.mp hc)⟩

theorem escaped_entity (c : Char) : Escaped (entity c) := by
  rcases entity_cases c with ⟨hc, hentity⟩ | ⟨-, hentity⟩
  · rw [hentity]
    exact .char hc .nil
  · exact escaped_of_mem_entities hentity

/-- **Escaping gives escaped text.** -/
theorem escaped_escapeChars (s : List Char) : Escaped (escapeChars s) := by
  induction s with
  | nil => exact .nil
  | cons c r ih =>
    rw [escapeChars_cons]
    exact (escaped_entity c).append ih

theorem escaped_escape (s : String) : Escaped (escape s).toList := by
  rw [escape, String.toList_ofList]
  exact escaped_escapeChars s.toList

/-- No angle bracket and no quote occurs. -/
theorem Escaped.not_mem {s : List Char} (hs : Escaped s) {x : Char}
    (hx : x = '<' ∨ x = '>' ∨ x = '"' ∨ x = '\'') : x ∉ s := by
  have hspecial : isSpecial x = true := by rcases hx with rfl | rfl | rfl | rfl <;> decide
  have hentity : ∀ e ∈ entities, x ∉ e := by rcases hx with rfl | rfl | rfl | rfl <;> decide
  induction hs with
  | nil => exact List.not_mem_nil
  | @char c s hc _ ih =>
    intro hm
    rcases List.mem_cons.mp hm with rfl | hm
    · rw [hc] at hspecial
      exact absurd hspecial (by decide)
    · exact ih hm
  | entity he _ ih =>
    intro hm
    rcases List.mem_append.mp hm with hm | hm
    · exact hentity _ he hm
    · exact ih hm

/-- A character that occurs in no entity is escaped by itself. -/
theorem mem_of_mem_escapeChars {x : Char} (hx : ∀ e ∈ entities, x ∉ e) {s : List Char}
    (h : x ∈ escapeChars s) : x ∈ s := by
  obtain ⟨c, hc, hxc⟩ := List.mem_flatMap.mp h
  rcases entity_cases c with ⟨-, hentity⟩ | ⟨-, hentity⟩
  · rw [hentity, List.mem_singleton] at hxc
    exact hxc ▸ hc
  · exact absurd hxc (hx _ hentity)

/-! ## Cutting -/

/-- An escaped text may be cut at a character that occurs in no entity. -/
theorem Escaped.cut {c : Char} (hc : ∀ e ∈ entities, c ∉ e) {s : List Char} (hs : Escaped s) :
    ∀ {a b : List Char}, s = a ++ c :: b → Escaped a ∧ Escaped b := by
  induction hs with
  | nil => intro a b h; simp at h
  | @char d s hd hs ih =>
    intro a b h
    cases a with
    | nil =>
      obtain ⟨-, rfl⟩ := List.cons.inj h
      exact ⟨.nil, hs⟩
    | cons d' a =>
      obtain ⟨rfl, hr⟩ := List.cons.inj h
      obtain ⟨ha, hb⟩ := ih hr
      exact ⟨.char hd ha, hb⟩
  | @entity e s he hs ih =>
    intro a b h
    rcases List.append_eq_append_iff.mp h with ⟨a', rfl, hr⟩ | ⟨e', rfl, hr⟩
    · obtain ⟨ha, hb⟩ := ih hr
      exact ⟨.entity he ha, hb⟩
    · -- The cut would fall within the entity, unless it stands right behind it.
      cases e' with
      | nil =>
        rw [List.append_nil] at he
        obtain ⟨-, hb⟩ := ih (a := []) hr.symm
        exact ⟨escaped_of_mem_entities he, hb⟩
      | cons d e' =>
        obtain ⟨rfl, -⟩ := List.cons.inj hr
        exact absurd (by simp) (hc _ he)

/-- The same for a row of such characters. -/
theorem Escaped.cut_replicate {c : Char} (hc : ∀ e ∈ entities, c ∉ e) {n : Nat} (hn : 0 < n)
    {a b : List Char} (h : Escaped (a ++ List.replicate n c ++ b)) : Escaped a ∧ Escaped b := by
  induction n generalizing a with
  | zero => exact absurd hn (Nat.lt_irrefl 0)
  | succ n ih =>
    have hcut : a ++ List.replicate (n + 1) c ++ b = a ++ c :: (List.replicate n c ++ b) := by
      simp [List.replicate_succ]
    obtain ⟨ha, hb⟩ := h.cut hc hcut
    cases n with
    | zero => exact ⟨ha, hb⟩
    | succ n => exact ⟨ha, (ih (Nat.succ_pos n) (a := []) hb).2⟩

end Deck.Html
