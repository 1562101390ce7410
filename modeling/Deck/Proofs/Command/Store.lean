import Deck.Command.Store

/-!
# What a store holds

A file can be read where a path leads to one, and written where a path leads to no directory.
Where a path leads depends on nothing but the directories, and a write makes and removes none.

* `Store.read_eq_ok_iff`, `Store.target_eq_ok_iff`: what can be read and written.
* `SameDirectories.find`, `SameDirectories.target`: stores with the same directories.
* `Store.read_put`: what is read from another file than the one that was written.
-/

namespace Deck.Command

variable {s t : Store} {home : Place} {path : String}

namespace Store

theorem read_eq_ok_iff {content : ByteArray} : s.read home path = .ok content ↔
    ∃ p, s.find home path = .ok p ∧ s.get? p = some (.file content) := by
  rw [read]
  cases s.find home path with
  | error e => simp
  | ok p =>
    cases hget : s.get? p with
    | none => simp [hget]
    | some e => cases e <;> simp [hget]

theorem target_eq_ok_iff {target : Place × ByteArray} : s.target home path = .ok target ↔
    s.find home path = .ok target.1 ∧
      (s.get? target.1 = none ∧ target.2 = .empty ∨ s.get? target.1 = some (.file target.2)) := by
  obtain ⟨q, content⟩ := target
  rw [Store.target]
  cases s.find home path with
  | error e => simp
  | ok p =>
    by_cases hpq : p = q
    · subst hpq
      cases hget : s.get? p with
      | none => simp [hget, eq_comm]
      | some e => cases e <;> simp [hget]
    · cases hget : s.get? p with
      | none => simp [hget, hpq]
      | some e => cases e <;> simp [hget, hpq]

theorem isPresent_of_read {content : ByteArray} (h : s.read home path = .ok content) :
    s.isPresent home path = true := by
  obtain ⟨p, hfind, hget⟩ := read_eq_ok_iff.mp h
  simp [isPresent, hfind, hget]

theorem read_of_not_isPresent (h : s.isPresent home path = false) :
    ∃ e, s.read home path = .error e := by
  cases hread : s.read home path with
  | error e => exact ⟨e, rfl⟩
  | ok content => exact absurd (isPresent_of_read hread) (by simp [h])

theorem ne_directory_of_target {target : Place × ByteArray} (h : s.target home path = .ok target) :
    s.get? target.1 ≠ some .directory := by
  obtain ⟨-, ⟨hget, -⟩ | hget⟩ := target_eq_ok_iff.mp h
  · simp [hget]
  · simp [hget]

/-- The root is a directory. -/
theorem ne_nil_of_target {target : Place × ByteArray} (h : s.target home path = .ok target) :
    target.1 ≠ [] := fun hnil => ne_directory_of_target h (by rw [hnil]; rfl)

end Store

/-! ## Directories -/

/-- The stores have the same directories. -/
def SameDirectories (s t : Store) : Prop :=
  ∀ p, t.get? p = some .directory ↔ s.get? p = some .directory

namespace SameDirectories

/-- A walk goes on wherever it comes upon a directory. -/
theorem walk (h : SameDirectories s t) {p q : Place} {names : List (List Char)}
    (hwalk : s.walk p names = .ok q) : t.walk p names = .ok q := by
  induction names generalizing p with
  | nil => exact hwalk
  | cons name names ih =>
    rw [Store.walk] at hwalk ⊢
    cases hget : s.get? p with
    | none =>
      rw [hget] at hwalk
      exact nomatch hwalk
    | some e =>
      rw [hget] at hwalk
      cases e with
      | file content => exact nomatch hwalk
      | directory =>
        rw [(h p).mpr hget]
        exact ih hwalk

/-- A path leads to the same place. -/
theorem find (h : SameDirectories s t) {p : Place} (hfind : s.find home path = .ok p) :
    t.find home path = .ok p := h.walk hfind

/-- What can be written can still be. -/
theorem target (h : SameDirectories s t) {target : Place × ByteArray}
    (htarget : s.target home path = .ok target) :
    ∃ content, t.target home path = .ok (target.1, content) := by
  have hfind := h.find (Store.target_eq_ok_iff.mp htarget).1
  have hnone : t.get? target.1 ≠ some .directory := fun hdir =>
    Store.ne_directory_of_target htarget ((h _).mp hdir)
  cases hget : t.get? target.1 with
  | none => exact ⟨.empty, Store.target_eq_ok_iff.mpr ⟨hfind, .inl ⟨hget, rfl⟩⟩⟩
  | some e =>
    cases e with
    | directory => exact absurd hget hnone
    | file content => exact ⟨content, Store.target_eq_ok_iff.mpr ⟨hfind, .inr hget⟩⟩

theorem refl (s : Store) : SameDirectories s s := fun _ => Iff.rfl

theorem trans {u : Store} (hst : SameDirectories s t) (htu : SameDirectories t u) :
    SameDirectories s u := fun p => (htu p).trans (hst p)

end SameDirectories

namespace Store

theorem sameDirectories_put {target : Place × ByteArray} (h : s.target home path = .ok target)
    (content : ByteArray) : SameDirectories s (s.put target.1 (.file content)) := by
  intro p
  by_cases hp : p = target.1
  · subst hp
    rw [get?_put_self _ (ne_nil_of_target h)]
    exact iff_of_false (by simp) (ne_directory_of_target h)
  · rw [get?_put_of_ne _ hp]

/-- What is read from another file than the one that was written. -/
theorem read_put {other : String} {target : Place × ByteArray} {before : ByteArray}
    (hread : s.read home path = .ok before) (h : s.target home other = .ok target)
    (hne : s.find home path ≠ .ok target.1) (content : ByteArray) :
    (s.put target.1 (.file content)).read home path = .ok before := by
  obtain ⟨p, hfind, hget⟩ := read_eq_ok_iff.mp hread
  have hp : p ≠ target.1 := fun hp => hne (hp ▸ hfind)
  refine read_eq_ok_iff.mpr ⟨p, (sameDirectories_put h content).find hfind, ?_⟩
  rw [get?_put_of_ne _ hp, hget]

end Store

end Deck.Command
