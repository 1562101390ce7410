import Deck.Proofs.Html.Escaped
import Deck.Proofs.Html.Unescape

/-!
# Escaping as an encoding

The five characters can be replaced one after the other, each in all that the ones before have
left, or all at once in one pass.  A replacement made in its turn also reads what earlier ones
have put in.  It finds nothing there as long as none of them puts in a character that has its
turn later, and this is why the ampersand, with which all entities begin, has the first turn.

`Safe` says of a text, place by place, that it may stand anywhere in a page.  The safe texts are
the escaped ones, so that escaping and decoding go back and forth between all texts and the safe
ones.

* `replaceInTurn_eq`: replacements in turn and replacements at once come to the same.
* `safe_iff_escaped`: what is safe place by place is escaped by the grammar.
* `exists_escapeChars_iff`: **each escaped text is what some text is escaped as**.
* `filter_escapeChars`: characters that occur in no entity are neither added nor removed.
* `escape_encodes`: **escaping is an encoding of all texts into safe text**.
-/

namespace Deck.Html

/-! ## Replacements -/

/-- A character, and the text that takes its place. -/
structure Replacement where
  char : Char
  text : List Char

/-- The text with one character replaced, wherever it stands. -/
def Replacement.apply (r : Replacement) (s : List Char) : List Char :=
  s.flatMap fun c => if c = r.char then r.text else [c]

/-- The text with the replacements made one after the other, each in what the ones before have
left. -/
def replaceInTurn (rs : List Replacement) (s : List Char) : List Char :=
  rs.foldl (fun t r => r.apply t) s

/-- What takes the place of a character when all replacements are made at once. -/
def replaced : List Replacement → Char → List Char
  | [], c => [c]
  | r :: rs, c => if c = r.char then r.text else replaced rs c

theorem replaced_of_forall {rs : List Replacement} {c : Char} (h : ∀ r ∈ rs, r.char ≠ c) :
    replaced rs c = [c] := by
  induction rs with
  | nil => rfl
  | cons r rs ih =>
    obtain ⟨hr, hrs⟩ := List.forall_mem_cons.mp h
    rw [replaced, if_neg hr.symm, ih hrs]

theorem flatMap_replaced_of_forall {rs : List Replacement} {t : List Char}
    (h : ∀ r ∈ rs, r.char ∉ t) : t.flatMap (replaced rs) = t := by
  induction t with
  | nil => rfl
  | cons c t ih =>
    have hc : ∀ r ∈ rs, r.char ≠ c := fun r hr he => h r hr (he ▸ List.mem_cons_self)
    rw [List.flatMap_cons, replaced_of_forall hc,
      ih fun r hr ht => h r hr (List.mem_cons_of_mem c ht), List.singleton_append]

/-- **Replacements in turn are replacements at once**, if none puts in a character that has its
turn later. -/
theorem replaceInTurn_eq {rs : List Replacement} (h : rs.Pairwise fun r q => q.char ∉ r.text)
    (s : List Char) : replaceInTurn rs s = s.flatMap (replaced rs) := by
  induction rs generalizing s with
  | nil => exact (List.flatMap_singleton' s).symm
  | cons r rs ih =>
    obtain ⟨hr, hrs⟩ := List.pairwise_cons.mp h
    have hstep : ∀ c, (if c = r.char then r.text else [c]).flatMap (replaced rs) =
        replaced (r :: rs) c := by
      intro c
      rw [replaced]
      split
      · exact flatMap_replaced_of_forall hr
      · exact List.flatMap_singleton _ c
    calc replaceInTurn (r :: rs) s
        = (r.apply s).flatMap (replaced rs) := ih hrs (r.apply s)
      _ = s.flatMap (replaced (r :: rs)) := by
          rw [Replacement.apply, List.flatMap_assoc]
          exact congrArg (List.flatMap · s) (funext hstep)

/-- The replacements that escape a text, in their order. -/
def replacements : List Replacement :=
  [⟨'&', "&amp;".toList⟩, ⟨'<', "&lt;".toList⟩, ⟨'>', "&gt;".toList⟩, ⟨'"', "&quot;".toList⟩,
    ⟨'\'', "&#x27;".toList⟩]

theorem replaced_replacements (c : Char) : replaced replacements c = entity c := by
  unfold entity
  split
  case h_6 h₁ h₂ h₃ h₄ h₅ =>
    refine replaced_of_forall ?_
    simpa [replacements, eq_comm] using And.intro h₁ ⟨h₂, h₃, h₄, h₅⟩
  all_goals decide

/-- Replacing the five characters in turn escapes a text. -/
theorem replaceInTurn_replacements (s : List Char) :
    replaceInTurn replacements s = escapeChars s := by
  rw [replaceInTurn_eq (by decide), escapeChars]
  exact congrArg (List.flatMap · s) (funext replaced_replacements)

-- The ampersand in the last turn is replaced in the entities as well.
example : replaceInTurn replacements.reverse "<".toList = "&amp;lt;".toList := by decide

/-! ## Safe text -/

/-- Text that may stand anywhere in a page: it holds no angle bracket and no quote, and each of
its ampersands begins an entity. -/
structure Safe (s : List Char) : Prop where
  free : ∀ c ∈ s, c ≠ '<' ∧ c ≠ '>' ∧ c ≠ '"' ∧ c ≠ '\''
  entity_at : ∀ a b, s = a ++ '&' :: b → ∃ e ∈ entities, e <+: '&' :: b

theorem Safe.of_suffix {s t : List Char} (h : Safe s) (ht : t <:+ s) : Safe t := by
  obtain ⟨u, rfl⟩ := ht
  refine ⟨fun c hc => h.free c (List.mem_append_right u hc), ?_⟩
  rintro a b rfl
  exact h.entity_at (u ++ a) b (List.append_assoc u a _).symm

/-- An ampersand of an escaped text begins an entity. -/
theorem Escaped.entity_at {s : List Char} (h : Escaped s) :
    ∀ a b, s = a ++ '&' :: b → ∃ e ∈ entities, e <+: '&' :: b := by
  have htail : ∀ e ∈ entities, '&' ∉ e.tail := by decide
  induction h with
  | nil => intro a b h; simp at h
  | @char c s hc _ ih =>
    intro a b h
    cases a with
    | nil =>
      obtain ⟨rfl, -⟩ := List.cons.inj h
      exact absurd hc (by decide)
    | cons d a => exact ih a b (List.cons.inj h).2
  | @entity e s he _ ih =>
    intro a b h
    rcases List.append_eq_append_iff.mp h with ⟨a', rfl, hs⟩ | ⟨e', rfl, hb⟩
    · exact ih a' b hs
    · cases e' with
      | nil => exact ih [] b hb.symm
      | cons d e' =>
        -- The ampersand is one of this entity, so it is the first one.
        obtain ⟨rfl, rfl⟩ := List.cons.inj hb
        cases a with
        | nil => exact ⟨_, he, List.prefix_append _ _⟩
        | cons x a => exact absurd (by simp) (htail _ he)

theorem Escaped.safe {s : List Char} (h : Escaped s) : Safe s := by
  refine ⟨fun c hc => ⟨?_, ?_, ?_, ?_⟩, h.entity_at⟩
  all_goals
    rintro rfl
    exact h.not_mem (by decide) hc

theorem Safe.escaped {s : List Char} (h : Safe s) : Escaped s := by
  induction hn : s.length using Nat.strongRecOn generalizing s with
  | ind n ih =>
    cases s with
    | nil => exact .nil
    | cons c r =>
      by_cases hc : c = '&'
      · subst hc
        obtain ⟨e, he, t, ht⟩ := h.entity_at [] r rfl
        have hpos : ∀ e ∈ entities, 0 < e.length := by decide
        have hshorter : t.length < n := by
          have hlength := congrArg List.length ht
          have he := hpos e he
          rw [List.length_append] at hlength
          omega
        rw [← ht]
        exact .entity he (ih t.length hshorter (h.of_suffix ⟨e, ht⟩) rfl)
      · have hfree := h.free c List.mem_cons_self
        have hspecial : isSpecial c = false := by
          simpa [isSpecial, specialChars] using And.intro hc hfree
        have hshorter : r.length < n := hn ▸ Nat.lt_succ_self r.length
        exact .char hspecial (ih r.length hshorter (h.of_suffix ⟨[c], rfl⟩) rfl)

/-- **What is safe place by place is escaped** by the grammar. -/
theorem safe_iff_escaped {s : List Char} : Safe s ↔ Escaped s := ⟨Safe.escaped, Escaped.safe⟩

/-- **Each escaped text is what some text is escaped as.** -/
theorem exists_escapeChars_iff {t : List Char} : (∃ s, escapeChars s = t) ↔ Escaped t := by
  constructor
  · rintro ⟨s, rfl⟩
    exact escaped_escapeChars s
  · intro h
    induction h with
    | nil => exact ⟨[], rfl⟩
    | @char c _ hc _ ih =>
      obtain ⟨s, rfl⟩ := ih
      obtain ⟨-, hself⟩ : isSpecial c = false ∧ entity c = [c] :=
        (entity_cases c).resolve_right fun h => by simp [hc] at h
      exact ⟨c :: s, by rw [escapeChars_cons, hself, List.singleton_append]⟩
    | entity he _ ih =>
      obtain ⟨s, rfl⟩ := ih
      obtain ⟨c, -, rfl⟩ := List.mem_map.mp (entities_eq ▸ he)
      exact ⟨c :: s, escapeChars_cons c s⟩

/-! ## Characters that escaping passes over -/

/-- **What escaping passes over is kept**, each character and their order. -/
theorem filter_escapeChars {p : Char → Bool} (hspecial : specialChars.any p = false)
    (hentities : ∀ e ∈ entities, e.any p = false) (s : List Char) :
    (escapeChars s).filter p = s.filter p := by
  have hentity : ∀ c, (entity c).filter p = [c].filter p := by
    intro c
    rcases entity_cases c with ⟨-, hself⟩ | ⟨hc, hmem⟩
    · rw [hself]
    · have hnone : ¬p c = true := fun hp => by simp [isSpecial_eq_false hspecial hp] at hc
      rw [List.filter_cons_of_neg hnone, List.filter_nil, List.filter_eq_nil_iff]
      exact List.any_eq_false.mp (hentities _ hmem)
  induction s with
  | nil => rfl
  | cons c s ih =>
    rw [escapeChars_cons, List.filter_append, hentity, ih, ← List.filter_append,
      List.singleton_append]

/-! ## The encoding -/

/-- The marks of emphasis and the characters of a line break. -/
def passedOver : List Char := ['*', '_', '\r', '\n']

/-- Each safe text is what some text is escaped as, and no other one is. -/
theorem safe_iff_exists_escape {t : List Char} : Safe t ↔ ∃ s, (escape s).toList = t := by
  rw [safe_iff_escaped, ← exists_escapeChars_iff]
  constructor
  · rintro ⟨s, rfl⟩
    exact ⟨String.ofList s, by rw [escape, String.toList_ofList, String.toList_ofList]⟩
  · rintro ⟨s, rfl⟩
    exact ⟨s.toList, by rw [escape, String.toList_ofList]⟩

/-- **Escaping encodes all texts as safe ones.**  It replaces the ampersand first and then the
other four characters; what comes out is safe, and all that is safe comes out of some text.
Decoding gives the text back, so that no two texts are escaped alike.  Texts may be escaped part
by part, and marks and line breaks come through as they are. -/
theorem escape_encodes (s a b : String) (t : List Char) :
    escape s = String.ofList (replaceInTurn replacements s.toList) ∧
    Safe (escape s).toList ∧ (Safe t ↔ ∃ x, (escape x).toList = t) ∧
    unescape (escape s).toList = s.toList ∧ (escape a = escape b ↔ a = b) ∧
    escape (a ++ b) = escape a ++ escape b ∧
    (escape s).toList.filter (· ∈ passedOver) = s.toList.filter (· ∈ passedOver) := by
  refine ⟨?_, (escaped_escape s).safe, safe_iff_exists_escape, unescape_escape s,
    ⟨escape_injective, congrArg escape⟩, escape_append a b, ?_⟩
  · rw [replaceInTurn_replacements, escape]
  · rw [escape, String.toList_ofList, filter_escapeChars (by decide) (by decide)]

end Deck.Html
