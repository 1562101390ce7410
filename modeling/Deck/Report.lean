import Deck.Fault
import Deck.Notice

/-!
# Reports

A report is what comes of a piece of work: the notices that were given, in their
order, and a value or a fault.  The notices that came before a fault are kept.

* `Report.bind_outcome`, `Report.bind_notices`: work that follows a fault is not done.
* `Report` is a lawful monad.
* `Report.each` works through a list from left to right, up to the first fault.
-/

namespace Deck

/-- The notices and the outcome of a piece of work. -/
@[ext] structure Report (α : Type) where
  notices : List Notice
  outcome : Except Fault α

namespace Report

variable {α β : Type}

/-- Work that yields a value and gives no notice. -/
protected def pure (a : α) : Report α := ⟨[], .ok a⟩

/-- One piece of work after another. -/
protected def bind (r : Report α) (f : α → Report β) : Report β :=
  match r.outcome with
  | .error e => ⟨r.notices, .error e⟩
  | .ok a => ⟨r.notices ++ (f a).notices, (f a).outcome⟩

instance : Monad Report where
  pure := Report.pure
  bind := Report.bind

/-- Gives a notice. -/
def note (n : Notice) : Report Unit := ⟨[n], .ok ()⟩

/-- Gives notices, one after the other. -/
def noteAll (ns : List Notice) : Report Unit := ⟨ns, .ok ()⟩

/-- Work that may fail and gives no notice. -/
def ofExcept (r : Except Fault α) : Report α := ⟨[], r⟩

instance : MonadLift (Except Fault) Report := ⟨ofExcept⟩

/-- Ends the work. -/
def fail (e : Fault) : Report α := ⟨[], .error e⟩

@[simp] theorem bind_def (r : Report α) (f : α → Report β) : r >>= f = r.bind f := rfl

@[simp] theorem pure_def (a : α) : (pure a : Report α) = ⟨[], .ok a⟩ := rfl

theorem bind_of_ok {r : Report α} {a : α} (h : r.outcome = .ok a) (f : α → Report β) :
    r.bind f = ⟨r.notices ++ (f a).notices, (f a).outcome⟩ := by
  simp [Report.bind, h]

theorem bind_of_error {r : Report α} {e : Fault} (h : r.outcome = .error e) (f : α → Report β) :
    r.bind f = ⟨r.notices, .error e⟩ := by
  simp [Report.bind, h]

theorem bind_outcome (r : Report α) (f : α → Report β) :
    (r.bind f).outcome = r.outcome.bind fun a => (f a).outcome := by
  cases h : r.outcome with
  | error e => rw [bind_of_error h]; rfl
  | ok a => rw [bind_of_ok h]; rfl

theorem bind_notices (r : Report α) (f : α → Report β) :
    (r.bind f).notices = r.notices ++
      (match r.outcome with | .ok a => (f a).notices | .error _ => []) := by
  cases h : r.outcome with
  | error e => rw [bind_of_error h]; simp
  | ok a => rw [bind_of_ok h]

theorem pure_bind (a : α) (f : α → Report β) : (Report.pure a).bind f = f a := by
  simp [Report.pure, Report.bind]

theorem bind_pure (r : Report α) : r.bind Report.pure = r := by
  cases h : r.outcome with
  | error e => rw [bind_of_error h]; exact Report.ext rfl h.symm
  | ok a => rw [bind_of_ok h]; exact Report.ext (by simp [Report.pure]) (by simp [Report.pure, h])

theorem bind_assoc {γ : Type} (r : Report α) (f : α → Report β) (g : β → Report γ) :
    (r.bind f).bind g = r.bind fun a => (f a).bind g := by
  cases h : r.outcome with
  | error e => rw [bind_of_error h, bind_of_error h, bind_of_error rfl]
  | ok a =>
    rw [bind_of_ok h, bind_of_ok h]
    cases hf : (f a).outcome with
    | error e => rw [bind_of_error rfl, bind_of_error hf]
    | ok b => rw [bind_of_ok rfl, bind_of_ok hf, List.append_assoc]

instance : LawfulMonad Report :=
  LawfulMonad.mk' Report bind_pure pure_bind bind_assoc

/-- The work on each item of a list. -/
def each (f : α → Report β) : List α → Report (List β)
  | [] => .pure []
  | a :: as => (f a).bind fun b => (each f as).bind fun bs => .pure (b :: bs)

@[simp] theorem each_nil (f : α → Report β) : each f [] = ⟨[], .ok []⟩ := rfl

theorem each_cons (f : α → Report β) (a : α) (as : List α) :
    each f (a :: as) = (f a).bind fun b => (each f as).bind fun bs => .pure (b :: bs) := rfl

end Report

end Deck
