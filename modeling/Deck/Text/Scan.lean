/-!
# Scanning a text

A scan goes on as long as the characters belong to a class: `takeWhile` gives what it has
read, and `dropWhile` what is left.

* `takeWhile_append_of_all`, `dropWhile_append_of_all`: where a scan stops.
* `takeWhile_ne_append`, `dropWhile_ne_append`: a scan up to a character.
* `takeWhile_append_cons`, `dropWhile_append_cons`: a scan ends at a character that is outside
  of the class, if it has not ended before it.
* `forall_mem_takeWhile`, `head_dropWhile_eq_false`: what has been read belongs to the
  class, and what is left starts with no character of it.
* `exists_of_dropWhile_ne`: a scan up to a character has stopped there, if something is left.
-/

namespace Deck.Text

variable {p : Char → Bool} {s t : List Char}

theorem takeWhile_append_of_all (h : ∀ c ∈ s, p c = true)
    (ht : ∀ c, t.head? = some c → p c = false) : (s ++ t).takeWhile p = s := by
  rw [List.takeWhile_append_of_pos h]
  cases t with
  | nil => simp
  | cons c r => simp [ht c rfl]

theorem dropWhile_append_of_all (h : ∀ c ∈ s, p c = true)
    (ht : ∀ c, t.head? = some c → p c = false) : (s ++ t).dropWhile p = t := by
  rw [List.dropWhile_append_of_pos h]
  cases t with
  | nil => rfl
  | cons c r => simp [ht c rfl]

/-- What a text starts with, if all of its first part and the start of the second have it. -/
theorem head?_append_of_forall {P : Char → Prop} (hs : ∀ c ∈ s, P c)
    (ht : ∀ c, t.head? = some c → P c) : ∀ c, (s ++ t).head? = some c → P c := by
  intro c hc
  cases s with
  | nil => exact ht c hc
  | cons x r =>
    obtain rfl : x = c := Option.some.inj hc
    exact hs x List.mem_cons_self

theorem takeWhile_eq_self (h : ∀ c ∈ s, p c = true) : s.takeWhile p = s := by
  simpa using takeWhile_append_of_all h (t := []) (by simp)

theorem dropWhile_eq_nil (h : ∀ c ∈ s, p c = true) : s.dropWhile p = [] := by
  simpa using dropWhile_append_of_all h (t := []) (by simp)

theorem all_ne_of_not_mem {x : Char} (h : x ∉ s) : ∀ c ∈ s, (c != x) = true := by
  intro c hc
  rw [bne_iff_ne]
  rintro rfl
  exact h hc

theorem takeWhile_ne_append {x : Char} (h : x ∉ s) (t : List Char) :
    (s ++ x :: t).takeWhile (· != x) = s :=
  takeWhile_append_of_all (all_ne_of_not_mem h) (by simp)

theorem dropWhile_ne_append {x : Char} (h : x ∉ s) (t : List Char) :
    (s ++ x :: t).dropWhile (· != x) = x :: t :=
  dropWhile_append_of_all (all_ne_of_not_mem h) (by simp)

theorem takeWhile_append_cons {c : Char} (hc : p c = false) (s t : List Char) :
    (s ++ c :: t).takeWhile p = s.takeWhile p := by
  induction s with
  | nil => exact List.takeWhile_cons_of_neg (by simp [hc])
  | cons d s ih => rw [List.cons_append, List.takeWhile_cons, List.takeWhile_cons, ih]

theorem dropWhile_append_cons {c : Char} (hc : p c = false) (s t : List Char) :
    (s ++ c :: t).dropWhile p = s.dropWhile p ++ c :: t := by
  rw [List.dropWhile_append]
  split
  · rename_i hs
    rw [List.isEmpty_iff.mp hs, List.dropWhile_cons_of_neg (by simp [hc]), List.nil_append]
  · rfl

theorem forall_mem_takeWhile (p : Char → Bool) (s : List Char) :
    ∀ c ∈ s.takeWhile p, p c = true :=
  List.all_eq_true.mp List.all_takeWhile

theorem head_dropWhile_eq_false {c : Char} (h : (s.dropWhile p).head? = some c) : p c = false := by
  have hhead := List.head?_dropWhile_not p s
  rw [h] at hhead
  simpa using hhead

theorem not_mem_takeWhile_ne (x : Char) (s : List Char) : x ∉ s.takeWhile (· != x) :=
  fun h => absurd (forall_mem_takeWhile _ s x h) (by simp)

theorem exists_of_dropWhile_ne {x : Char} (h : s.dropWhile (· != x) ≠ []) :
    ∃ t, s = s.takeWhile (· != x) ++ x :: t := by
  obtain ⟨c, t, hdrop⟩ := List.exists_cons_of_ne_nil h
  have hhead : (s.dropWhile (· != x)).head? = some c := by rw [hdrop]; rfl
  obtain rfl : c = x := by simpa using head_dropWhile_eq_false hhead
  exact ⟨t, by rw [← hdrop, List.takeWhile_append_dropWhile]⟩

end Deck.Text
