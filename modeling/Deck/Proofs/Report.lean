import Mathlib.Data.List.Forall2
import Deck.Report

/-!
# The outcome of a report

Whether a piece of work ends well is decided by its parts, from left to right.

* `Report.each_of_forall₂`: work on items that stand for values yields these values.
* `Report.bind_outcome_eq_ok_iff`, `Report.each_outcome_eq_ok_iff`: work ends well when
  each part of it does, and these are the values that the parts yield.
* `Report.each_congr`, `Report.each_outcome_congr`: items that come out alike make lists that do.
* `Report.fault?_each`: work on a list ends with the first fault of an item.
* `Report.Tallies`: work that ends well yields such a value and gives so many notices of a sort.
* `Report.Tallies.each`: on a list the notices of the items add up.
-/

namespace Deck

def Notice.isWarning (n : Notice) : Bool := n.severity = .warning

namespace Report

variable {α β : Type}

/-- The notices that matter most. -/
def warnings (r : Report α) : List Notice := r.notices.filter (·.severity = .warning)

/-- The notices as they go into a log. -/
def log (r : Report α) : List Record := r.notices.map Notice.record

/-! ## Values -/

theorem ofExcept_ok_bind (a : α) (f : α → Report β) : (ofExcept (.ok a)).bind f = f a := rfl

theorem each_map {γ : Type} (f : α → Report β) (g : γ → α) (cs : List γ) :
    each f (cs.map g) = each (fun c => f (g c)) cs := by
  induction cs with
  | nil => rfl
  | cons c cs ih => rw [List.map_cons, each_cons, each_cons, ih]

/-- Work on a list whose items stand for values yields these values, and gives no notice. -/
theorem each_of_forall₂ {γ : Type} {f : α → Report β} {g : γ → β} {R : α → γ → Prop}
    {as : List α} {cs : List γ} (hall : List.Forall₂ R as cs)
    (h : ∀ a c, R a c → f a = Report.pure (g c)) : each f as = Report.pure (cs.map g) := by
  induction hall with
  | nil => rfl
  | cons hr _ ih => rw [each_cons, h _ _ hr, Report.pure_bind, ih, Report.pure_bind, List.map_cons]

/-- Work that is the same on the items of two lists is the same on the lists. -/
theorem each_congr {f : α → Report β} {as bs : List α}
    (h : List.Forall₂ (fun a b => f b = f a) as bs) : each f bs = each f as := by
  induction h with
  | nil => rfl
  | cons hab _ ih => rw [each_cons, each_cons, hab, ih]

theorem bind_outcome_eq_ok_iff {r : Report α} {f : α → Report β} {b : β} :
    (r.bind f).outcome = .ok b ↔ ∃ a, r.outcome = .ok a ∧ (f a).outcome = .ok b := by
  rw [bind_outcome]
  cases r.outcome with
  | error e => simp [Except.bind]
  | ok a => simp [Except.bind]

/-- The values that come of the items of a list. -/
theorem each_outcome_eq_ok_iff {f : α → Report β} : ∀ {as : List α} {bs : List β},
    (each f as).outcome = .ok bs ↔ List.Forall₂ (fun a b => (f a).outcome = .ok b) as bs := by
  intro as
  induction as with
  | nil =>
    intro bs
    rw [each_nil, List.forall₂_nil_left_iff, Except.ok.injEq]
    exact eq_comm
  | cons a as ih =>
    intro bs
    rw [each_cons, bind_outcome_eq_ok_iff, List.forall₂_cons_left_iff]
    constructor
    · rintro ⟨b, hb, h⟩
      obtain ⟨cs, hcs, h⟩ := bind_outcome_eq_ok_iff.mp h
      rw [Report.pure, Except.ok.injEq] at h
      exact ⟨b, cs, hb, ih.mp hcs, h.symm⟩
    · rintro ⟨b, cs, hb, hcs, rfl⟩
      exact ⟨b, hb, bind_outcome_eq_ok_iff.mpr ⟨cs, ih.mpr hcs, rfl⟩⟩

theorem bind_pure_outcome (r : Report α) (f : α → β) :
    (r.bind fun a => Report.pure (f a)).outcome = r.outcome.map f := by
  rw [bind_outcome]
  cases r.outcome <;> rfl

theorem each_cons_outcome (f : α → Report β) (a : α) (as : List α) :
    (each f (a :: as)).outcome =
      (f a).outcome.bind fun b => (each f as).outcome.map (b :: ·) := by
  rw [each_cons, bind_outcome]
  simp only [bind_pure_outcome]

/-- Items that come out alike make lists that do. -/
theorem each_outcome_congr {f : α → Report β} {as bs : List α}
    (h : List.Forall₂ (fun a b => (f a).outcome = (f b).outcome) as bs) :
    (each f as).outcome = (each f bs).outcome := by
  induction h with
  | nil => rfl
  | cons hab _ ih => rw [each_cons_outcome, each_cons_outcome, hab, ih]

/-! ## Faults -/

/-- The fault that ended the work, if one did. -/
def fault? (r : Report α) : Option Fault :=
  match r.outcome with
  | .ok _ => none
  | .error e => some e

theorem fault?_eq_none_iff {r : Report α} : r.fault? = none ↔ ∃ a, r.outcome = .ok a := by
  rw [fault?]
  cases r.outcome with
  | error e => simp
  | ok a => simp

theorem fault?_eq_some_iff {r : Report α} {e : Fault} :
    r.fault? = some e ↔ r.outcome = .error e := by
  rw [fault?]
  cases r.outcome with
  | error d => simp
  | ok a => simp

theorem fault?_of_ok {r : Report α} {a : α} (h : r.outcome = .ok a) : r.fault? = none :=
  fault?_eq_none_iff.mpr ⟨a, h⟩

theorem fault?_of_error {r : Report α} {e : Fault} (h : r.outcome = .error e) :
    r.fault? = some e :=
  fault?_eq_some_iff.mpr h

/-- A fault of the first part counts before one of the second part. -/
theorem fault?_bind {r : Report α} {f : α → Report β} {x : Option Fault}
    (h : ∀ a, r.outcome = .ok a → (f a).fault? = x) : (r.bind f).fault? = r.fault?.or x := by
  cases hr : r.outcome with
  | error e => rw [fault?_of_error hr, bind_of_error hr]; rfl
  | ok a => rw [fault?_of_ok hr, bind_of_ok hr, Option.none_or, ← h a hr]; rfl

/-- What follows without a fault adds none. -/
theorem fault?_bind_of_none {r : Report α} {f : α → Report β}
    (h : ∀ a, r.outcome = .ok a → (f a).fault? = none) : (r.bind f).fault? = r.fault? := by
  rw [fault?_bind h, Option.or_none]

/-- **The first fault of an item** ends the work on a list. -/
theorem fault?_each (f : α → Report β) (as : List α) :
    (each f as).fault? = as.findSome? fun a => (f a).fault? := by
  induction as with
  | nil => rfl
  | cons a as ih =>
    have hrest : ∀ b, ((each f as).bind fun bs => Report.pure (b :: bs)).fault?
        = as.findSome? fun a => (f a).fault? := by
      intro b
      rw [fault?_bind_of_none fun _ _ => rfl, ih]
    rw [each_cons, fault?_bind fun b _ => hrest b, List.findSome?_cons]
    cases (f a).fault? with
    | none => rfl
    | some e => rfl

/-! ## Notices that are counted -/

/-- If the work ends well, then `P` holds of its value and of the number of notices with `p`. -/
def Tallies (p : Notice → Bool) (r : Report α) (P : α → Nat → Prop) : Prop :=
  ∀ a, r.outcome = .ok a → P a (r.notices.countP p)

/-- `P` holds of the items of two lists and of some numbers, which add up to the last number. -/
inductive Along (P : α → β → Nat → Prop) : List α → List β → Nat → Prop
  | nil : Along P [] [] 0
  | cons {a : α} {b : β} {m n : Nat} {as : List α} {bs : List β} : P a b m → Along P as bs n →
      Along P (a :: as) (b :: bs) (m + n)

namespace Tallies

variable {p : Notice → Bool} {P : α → Nat → Prop} {Q : β → Nat → Prop}

theorem ofExcept {x : Except Fault α} (h : ∀ a, x = .ok a → P a 0) :
    Tallies p (Report.ofExcept x) P := h

theorem pure {a : α} (h : P a 0) : Tallies p (Report.pure a) P :=
  ofExcept (x := .ok a) fun _ ha => Except.ok.inj ha ▸ h

theorem bind {r : Report α} {f : α → Report β} (hr : Tallies p r P)
    (hf : ∀ a n, P a n → Tallies p (f a) fun b m => Q b (n + m)) : Tallies p (r.bind f) Q := by
  intro b hb
  obtain ⟨a, ha, hfa⟩ := bind_outcome_eq_ok_iff.mp hb
  rw [bind_of_ok ha, List.countP_append]
  exact hf a _ (hr a ha) b hfa

/-- What follows gives no notice. -/
theorem bind_pure {r : Report α} {f : α → β} (hr : Tallies p r P)
    (hf : ∀ a n, P a n → Q (f a) n) : Tallies p (r.bind fun a => Report.pure (f a)) Q :=
  hr.bind fun a n h => pure (hf a n h)

/-- What comes before gives no notice of that sort. -/
theorem bind_of_silent {r : Report α} {f : α → Report β} (hr : r.notices.countP p = 0)
    (hf : ∀ a, r.outcome = .ok a → Tallies p (f a) Q) : Tallies p (r.bind f) Q := by
  intro b hb
  obtain ⟨a, ha, hfa⟩ := bind_outcome_eq_ok_iff.mp hb
  rw [bind_of_ok ha, List.countP_append, hr, Nat.zero_add]
  exact hf a ha b hfa

/-- **On a list the notices add up.** -/
theorem each {f : α → Report β} {P : α → β → Nat → Prop} {as : List α}
    (h : ∀ a ∈ as, Tallies p (f a) (P a)) : Tallies p (Report.each f as) (Along P as) := by
  induction as with
  | nil => exact pure .nil
  | cons a as ih =>
    refine (h a List.mem_cons_self).bind fun b m hb => ?_
    refine (ih fun x hx => h x (List.mem_cons_of_mem a hx)).bind_pure fun bs n hbs => ?_
    exact .cons hb hbs

end Tallies

end Report

end Deck
