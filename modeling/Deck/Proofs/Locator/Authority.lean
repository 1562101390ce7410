import Deck.Locator.Path
import Deck.Text.Blank

/-!
# Authorities and the blanks around a locator

A locator is refused for its authority and for nothing else.  Blanks in front of a locator either
count for nothing when it is split or keep it from having an authority.  Blanks behind it are
part of the authority unless something ends the authority before them.

* `path_eq_error_iff`: a locator is refused exactly if it has an authority and this is refused.
* `authority?_trimStart`: what blanks in front of a locator do.
* `authority?_append_of_blank`: what blanks behind it do.
* `authority?_trim`: **a locator has the authority that it has when it is trimmed**, with some
  blanks behind it, or has none.
* `judgedAlike_iff`: the blanks do not count if the trimmed locator is refused for what the
  locator is refused for.
* `judgedAlike_of_getLast`, `judgedAlike_of_forall`: so it is where no blank stands at the end,
  and where the locator holds neither brackets nor unsafe characters.
-/

namespace Deck.Locator

open Text

/-- The authority of a locator without its scheme, if it has one. -/
def authorityAfterScheme? (s : List Char) : Option (List Char) :=
  match s with
  | '/' :: '/' :: r => some (r.takeWhile isAuthorityChar)
  | _ => none

/-- The authority of a locator, if it has one. -/
def authority? (s : List Char) : Option (List Char) := authorityAfterScheme? (dropScheme (clean s))

theorem pathAfterScheme_eq_error_iff {s : List Char} {e : Fault} :
    pathAfterScheme s = .error e ↔
      ∃ a, authorityAfterScheme? s = some a ∧ checkAuthority a = .error e := by
  unfold pathAfterScheme authorityAfterScheme?
  split
  · rename_i r
    cases hcheck : checkAuthority (r.takeWhile isAuthorityChar) with
    | error d => simp [Except.map, hcheck]
    | ok u => simp [Except.map, hcheck]
  · simp

/-- A locator is refused for its authority and for nothing else. -/
theorem path_eq_error_iff {s : List Char} {e : Fault} :
    path s = .error e ↔ ∃ a, authority? s = some a ∧ checkAuthority a = .error e :=
  pathAfterScheme_eq_error_iff

/-! ## Blanks in front of a locator -/

/-- Blanks are none of the characters that the parts of a locator end with. -/
theorem ne_of_isBlank {c x : Char} (hc : isBlank c = true) (hx : x ∈ [':', '/', '?', '#']) :
    c ≠ x := by
  have hall : [':', '/', '?', '#'].all (!isBlank ·) = true := by decide
  rintro rfl
  simpa [hc] using List.all_eq_true.mp hall c hx

theorem dropScheme_of_isBlank {c : Char} (hc : isBlank c = true) (s : List Char) :
    dropScheme (c :: s) = c :: s := by
  have hread : (c :: s).takeWhile (· != ':') = c :: s.takeWhile (· != ':') :=
    List.takeWhile_cons_of_pos (bne_iff_ne.mpr (ne_of_isBlank hc (by simp)))
  unfold dropScheme
  split
  · rename_i d r _ _ htake _
    obtain ⟨rfl, -⟩ := List.cons.inj (hread.symm.trans htake)
    rw [isAlpha_of_isBlank hc, Bool.false_and, if_neg Bool.false_ne_true]
  · rfl

/-- A blank that is not passed over stands where a scheme or an authority would have to start. -/
theorem authority?_of_isBlank {c : Char} (hc : isBlank c = true) (hhigh : ¬c.toNat ≤ 0x20)
    (s : List Char) : authority? (c :: s) = none := by
  have hkept : (c != '\t' && c != '\r' && c != '\n') = true := by
    simp only [Bool.and_eq_true, bne_iff_ne]
    refine ⟨⟨?_, ?_⟩, ?_⟩ <;> rintro rfl <;> exact hhigh (by decide)
  have hclean : clean (c :: s) = c :: s.filter fun c => c != '\t' && c != '\r' && c != '\n' := by
    rw [clean, List.dropWhile_cons_of_neg (by simpa using hhigh), List.filter_cons, if_pos hkept]
  rw [authority?, hclean, dropScheme_of_isBlank hc]
  unfold authorityAfterScheme?
  split
  · rename_i hslash
    exact absurd (List.cons.inj hslash).1 (ne_of_isBlank hc (by simp))
  · rfl

/-- Blanks in front of a locator count for nothing, or keep it from having an authority. -/
theorem authority?_trimStart (s : List Char) :
    authority? s = none ∨ authority? s = authority? (trimStart s) := by
  induction s with
  | nil => exact Or.inr rfl
  | cons c r ih =>
    by_cases hc : isBlank c = true
    · by_cases hlow : c.toNat ≤ 0x20
      · have hclean : clean (c :: r) = clean r := by simp [clean, hlow]
        have htrim : trimStart (c :: r) = trimStart r := List.dropWhile_cons_of_pos hc
        rw [authority?, hclean, htrim]
        exact ih
      · exact Or.inl (authority?_of_isBlank hc hlow r)
    · exact Or.inr (by rw [trimStart, List.dropWhile_cons_of_neg hc])

/-! ## Blanks behind a locator -/

variable {b : List Char}

/-- Blanks behind a locator are kept, but for line breaks and tabs. -/
theorem clean_append_of_blank (s : List Char) (hb : ∀ c ∈ b, isBlank c = true) :
    ∃ b', (∀ c ∈ b', isBlank c = true) ∧ clean (s ++ b) = clean s ++ b' := by
  simp only [clean, List.dropWhile_append]
  split
  · rename_i hs
    refine ⟨clean b, fun c hc => hb c ?_, by rw [List.isEmpty_iff.mp hs]; rfl⟩
    exact List.dropWhile_subset _ (List.mem_filter.mp hc).1
  · exact ⟨_, fun c hc => hb c (List.mem_filter.mp hc).1, List.filter_append ..⟩

theorem dropScheme_of_not_mem {s : List Char} (hs : ':' ∉ s) : dropScheme s = s := by
  unfold dropScheme
  split
  · rename_i hdrop
    rw [dropWhile_eq_nil (all_ne_of_not_mem hs)] at hdrop
    exact nomatch hdrop
  · rfl

/-- Whether what stands before a colon is a scheme does not hang on what follows. -/
theorem dropScheme_append_of_mem {s : List Char} (hs : ':' ∈ s) (t : List Char) :
    dropScheme (s ++ t) = dropScheme s ++ t := by
  obtain ⟨l, u, rfl, hl⟩ := List.eq_append_cons_of_mem hs
  rw [List.append_assoc, List.cons_append]
  simp only [dropScheme, takeWhile_ne_append hl, dropWhile_ne_append hl]
  cases l with
  | nil => rfl
  | cons c r =>
    dsimp only
    split
    · rfl
    · simp

theorem dropScheme_append (s : List Char) (hb : ':' ∉ b) :
    dropScheme (s ++ b) = dropScheme s ++ b := by
  by_cases hs : ':' ∈ s
  · exact dropScheme_append_of_mem hs b
  · rw [dropScheme_of_not_mem hs, dropScheme_of_not_mem (by simp [hs, hb])]

theorem authorityAfterScheme?_eq_some_iff {s a : List Char} : authorityAfterScheme? s = some a ↔
    ∃ r, s = '/' :: '/' :: r ∧ r.takeWhile isAuthorityChar = a := by
  unfold authorityAfterScheme?
  split
  · simp
  · rename_i hslashes
    simpa using fun r h => absurd h (hslashes r)

/-- Blanks at the end make no authority of what is none. -/
theorem authorityAfterScheme?_append_eq_none {s : List Char} (hs : authorityAfterScheme? s = none)
    (hb : '/' ∉ b) : authorityAfterScheme? (s ++ b) = none := by
  refine Option.eq_none_iff_forall_ne_some.mpr fun a ha => ?_
  obtain ⟨r, hr, -⟩ := authorityAfterScheme?_eq_some_iff.mp ha
  obtain ⟨-, rfl⟩ | ⟨t, rfl, ht⟩ := List.append_eq_cons_iff.mp hr
  · exact hb List.mem_cons_self
  obtain ⟨-, rfl⟩ | ⟨u, rfl, -⟩ := List.append_eq_cons_iff.mp ht.symm
  · exact hb List.mem_cons_self
  · exact nomatch hs

/-- Blanks at the end belong to the authority unless something ends it before them. -/
theorem takeWhile_isAuthorityChar_append (s : List Char) (hb : ∀ c ∈ b, isBlank c = true) :
    ∃ b', (∀ c ∈ b', isBlank c = true) ∧
      (s ++ b).takeWhile isAuthorityChar = s.takeWhile isAuthorityChar ++ b' := by
  have hall : b.takeWhile isAuthorityChar = b :=
    takeWhile_eq_self fun c hc => by simp [isAuthorityChar, ne_of_isBlank (hb c hc)]
  rw [List.takeWhile_append, hall]
  split
  · rename_i hlength
    rw [(List.takeWhile_prefix isAuthorityChar).eq_of_length hlength]
    exact ⟨b, hb, rfl⟩
  · exact ⟨[], by simp, (List.append_nil _).symm⟩

/-- **Blanks behind a locator** give it no authority and take none away. -/
theorem authority?_append_of_blank (s : List Char) (hb : ∀ c ∈ b, isBlank c = true) :
    authority? s = none ∧ authority? (s ++ b) = none ∨
      ∃ a b', (∀ c ∈ b', isBlank c = true) ∧ authority? s = some a ∧
        authority? (s ++ b) = some (a ++ b') := by
  obtain ⟨d, hd, hclean⟩ := clean_append_of_blank s hb
  have hnot : ∀ x ∈ [':', '/', '?', '#'], x ∉ d := fun x hx hm => ne_of_isBlank (hd x hm) hx rfl
  rw [authority?, authority?, hclean, dropScheme_append _ (hnot ':' (by simp))]
  cases hs : authorityAfterScheme? (dropScheme (clean s)) with
  | none => exact Or.inl ⟨rfl, authorityAfterScheme?_append_eq_none hs (hnot '/' (by simp))⟩
  | some a =>
    obtain ⟨r, hr, rfl⟩ := authorityAfterScheme?_eq_some_iff.mp hs
    obtain ⟨b', hb', htake⟩ := takeWhile_isAuthorityChar_append r hd
    refine Or.inr ⟨_, b', hb', rfl, authorityAfterScheme?_eq_some_iff.mpr ⟨r ++ d, ?_, htake⟩⟩
    rw [hr]
    rfl

/-- **A locator has the authority that it has when it is trimmed**, with some blanks behind it,
or has none. -/
theorem authority?_trim (s : List Char) : authority? s = none ∨
    ∃ a b, (∀ c ∈ b, isBlank c = true) ∧ authority? (trim s) = some a ∧
      authority? s = some (a ++ b) := by
  obtain ⟨t, ht, hblank⟩ := exists_trimEnd_append (trimStart s)
  rcases authority?_trimStart s with hnone | hsame
  · exact Or.inl hnone
  · rw [hsame, ht]
    exact (authority?_append_of_blank _ hblank).imp And.right id

/-! ## Trimming and refusal -/

/-- The blanks that stand behind the authority of a locator do not count: the authority is
accepted with them, or judged as it is without them. -/
def JudgedAlike (url : List Char) : Prop :=
  ∀ a b, authority? (trim url) = some a → authority? url = some (a ++ b) →
    checkAuthority (a ++ b) = .ok () ∨ checkAuthority (a ++ b) = checkAuthority a

theorem judgedAlike_iff {url : List Char} :
    JudgedAlike url ↔ ∀ e, path url = .error e → path (trim url) = .error e := by
  constructor
  · intro h e he
    obtain ⟨a', ha', hcheck⟩ := path_eq_error_iff.mp he
    rcases authority?_trim url with hnone | ⟨a, b, -, ha, hab⟩
    · rw [hnone] at ha'
      exact nomatch ha'
    · obtain rfl : a ++ b = a' := Option.some.inj (hab.symm.trans ha')
      rcases h a b ha hab with hok | hsame
      · rw [hok] at hcheck
        exact nomatch hcheck
      · exact path_eq_error_iff.mpr ⟨a, ha, hsame.symm.trans hcheck⟩
  · intro h a b ha hab
    cases hcheck : checkAuthority (a ++ b) with
    | ok u => exact Or.inl rfl
    | error e =>
      obtain ⟨a', ha', hcheck'⟩ :=
        path_eq_error_iff.mp (h e (path_eq_error_iff.mpr ⟨_, hab, hcheck⟩))
      obtain rfl : a = a' := Option.some.inj (ha.symm.trans ha')
      exact Or.inr hcheck'.symm

/-- Where no blank stands at the end of a locator, the blanks in front of it do no harm. -/
theorem judgedAlike_of_getLast {url : List Char}
    (h : ∀ c, url.getLast? = some c → isBlank c = false) : JudgedAlike url := by
  have htrim : trim url = trimStart url := by
    refine trimEnd_eq_self fun c hc => h c ?_
    obtain ⟨x, hx⟩ := List.dropWhile_suffix isBlank (l := url)
    rw [← hx, List.getLast?_append, show (url.dropWhile isBlank).getLast? = some c from hc]
    rfl
  intro a b ha hab
  rcases authority?_trimStart url with hnone | hsame
  · rw [hnone] at hab
    exact nomatch hab
  · rw [htrim, ← hsame, hab] at ha
    exact Or.inr (congrArg checkAuthority (Option.some.inj ha))

theorem mem_of_mem_authority? {s a : List Char} (h : authority? s = some a) {c : Char}
    (hc : c ∈ a) : c ∈ s := by
  obtain ⟨r, hr, rfl⟩ := authorityAfterScheme?_eq_some_iff.mp h
  have hclean : c ∈ clean s := by
    refine mem_of_mem_dropScheme ?_
    rw [hr]
    simp [List.takeWhile_subset _ hc]
  exact List.dropWhile_subset _ (List.mem_filter.mp hclean).1

/-- Without brackets and unsafe characters no locator is refused. -/
theorem judgedAlike_of_forall {url : List Char}
    (h : ∀ c ∈ url, c ≠ '[' ∧ c ≠ ']' ∧ isUnsafe c = false) : JudgedAlike url := by
  refine judgedAlike_iff.mpr fun e he => ?_
  obtain ⟨a, ha, hcheck⟩ := path_eq_error_iff.mp he
  have hall := fun c hc => h c (mem_of_mem_authority? ha hc)
  have hbrackets : checkBrackets a = .ok () :=
    if_pos ⟨fun hc => (hall _ hc).1 rfl, fun hc => (hall _ hc).2.1 rfl⟩
  have hsafe : a.any isUnsafe = false := List.any_eq_false.mpr fun c hc => by simp [hall c hc]
  rw [checkAuthority, hbrackets, hsafe] at hcheck
  exact nomatch hcheck

end Deck.Locator
