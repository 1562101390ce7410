import Deck.Command.Run
import Deck.Proofs.Command.Store

/-!
# Work in a session

A run reads the files of a session, says something, and writes files.  What it does to the
session is told by a relation between the sessions before and after: one that every session has
to itself, that may be put together, and that the passing on of notices does not leave.

* `does_emit`: what passing on a notice does.
* `Allows.leads_bind`: work that is put together leads as far as its parts.
* `Allows.emitAll`, `Allows.fail`: so do all notices and the report of a failure.
* `Allows.compile_end`: **the ways in which a compilation ends**, each with what it needs.
-/

namespace Deck.Command

/-! ## Doing work -/

/-- What comes of some work in a session: an answer, and the session after it. -/
def Session.does {α : Type} (s : Session) (x : StateM Session α) : α × Session := x s

variable {α β : Type}

@[simp] theorem does_bind (s : Session) (x : StateM Session α) (f : α → StateM Session β) :
    s.does (x >>= f) = (s.does x).2.does (f (s.does x).1) := rfl

@[simp] theorem does_pure (s : Session) (a : α) : s.does (pure a) = (a, s) := rfl

@[simp] theorem does_isPresent (s : Session) (path : String) :
    s.does (Host.isPresent path) = (s.store.isPresent s.place path, s) := rfl

@[simp] theorem does_read (s : Session) (path : String) :
    s.does (Host.read path) = (s.store.read s.place path, s) := rfl

@[simp] theorem does_write (s : Session) (path : String) (content : ByteArray) :
    s.does (Host.write path content) = s.update (s.store.write s.place path content) := rfl

@[simp] theorem does_append (s : Session) (path : String) (content : ByteArray) :
    s.does (Host.append path content) = s.update (s.store.append s.place path content) := rfl

@[simp] theorem does_say (s : Session) (text : String) :
    s.does (Host.say text) = ((), { s with said := s.said ++ text }) := rfl

@[simp] theorem does_timestamp (s : Session) : s.does Host.timestamp = ("<time>", s) := rfl

@[simp] theorem does_clock (s : Session) : s.does Host.clock = (0, s) := rfl

/-- The exit of a run. -/
def Session.exit (s : Session) (args : List String) : Exit := (s.does (run args)).1

/-- The session after a run. -/
def Session.next (s : Session) (args : List String) : Session := (s.does (run args)).2

/-- The session after some runs. -/
def Session.after (s : Session) (runs : List (List String)) : Session := runs.foldl Session.next s

/-- A session in a directory that holds a deck and nothing else. -/
def Session.withDeck (content : ByteArray) : Session where
  store := ⟨[(["home".toList], .directory),
    (["home".toList, "talk.json".toList], .file content)]⟩
  place := ["home".toList]
  home := "/home"
  said := ""
  complaints := ""

/-! ## Where work leads -/

/-- Done in a session, the work leads to one that is related to it. -/
def Leads (R : Session → Session → Prop) (x : StateM Session α) : Prop := ∀ s, R s (s.does x).2

/-- Passing on a notice changes what was complained of, and the file that it is appended to. -/
theorem does_emit (s : Session) (l : Log) (r : Record) : ∃ store shown,
    s.does (l.emit r) = ((), { s with store := store, complaints := s.complaints ++ shown }) ∧
      (store = s.store ∨ ∃ path target content, l.file = some path ∧
        s.store.target s.place path = .ok target ∧ store = s.store.put target.1 (.file content)) := by
  -- Whether or not the notice is shown, the rest is done.
  obtain ⟨shown, hshown⟩ : ∃ shown, ∀ rest : StateM Session Unit,
      s.does (if l.shows r = true then
          Host.complain (r.severity.name ++ ": " ++ r.text ++ "\n") >>= fun _ => rest
        else rest) = { s with complaints := s.complaints ++ shown }.does rest := by
    by_cases hshows : l.shows r = true
    · exact ⟨_, fun rest => by rw [if_pos hshows]; rfl⟩
    · exact ⟨"", fun rest => by rw [if_neg hshows, String.append_empty]⟩
  simp only [Log.emit, hshown]
  cases l.file with
  | none => exact ⟨s.store, shown, rfl, .inl rfl⟩
  | some path =>
    simp only [does_bind, does_timestamp, does_append, does_pure, Store.append]
    cases htarget : s.store.target s.place path with
    | error e => exact ⟨s.store, shown, rfl, .inl rfl⟩
    | ok target => exact ⟨_, shown, rfl, .inr ⟨path, target, _, rfl, htarget, rfl⟩⟩

/-- What a relation has to allow if a run with this log is not to leave it before it writes. -/
structure Allows (R : Session → Session → Prop) (l : Log) : Prop where
  refl : ∀ s, R s s
  trans : ∀ s t u, R s t → R t u → R s u
  say : ∀ text, Leads R (Host.say text)
  complain : ∀ text, Leads R (Host.complain text)
  emit : ∀ r, Leads R (l.emit r)

variable {R : Session → Session → Prop} {l : Log}

theorem Allows.leads_bind (h : Allows R l) {x : StateM Session α} {f : α → StateM Session β}
    (hx : Leads R x) (hf : ∀ a, Leads R (f a)) : Leads R (x >>= f) := by
  intro s
  exact h.trans _ _ _ (hx s) (hf _ _)

/-- Work that leads as far as `R` is done before the rest, which is then judged from where it
starts. -/
theorem Allows.after (h : Allows R l) {Q : β × Session → Prop} {s t : Session} (ht : R s t)
    {x : StateM Session α} (hx : Leads R x) {f : α → StateM Session β}
    (hf : ∀ a u, R s u → Q (u.does (f a))) : Q (t.does (x >>= f)) :=
  hf _ _ (h.trans _ _ _ ht (hx t))

theorem Allows.emitAll (h : Allows R l) (ns : List Notice) : Leads R (l.emitAll ns) := by
  induction ns with
  | nil => exact h.refl
  | cons n ns ih => exact h.leads_bind (h.emit n.record) fun _ => ih

/-! ## The end of a compilation -/

/-- The page that the bytes of a dump give. -/
def pageOf (shell : Render.Shell) (bytes : ByteArray) : Except Fault String :=
  ((Dump.load bytes.toList).bind fun deck => Render.presentation deck shell).outcome

/-- The session once the failure of a run has been told. -/
def Session.told (s : Session) (message : String) : Session :=
  { s with complaints := s.complaints ++ ("Error: " ++ message ++ "\n") }

/-- How a compilation in the session `s` ends, and in which session.  Up to the point where the
page is written it leads as far as `R`, and after it again. -/
inductive CompileEnd (R : Session → Session → Prop) (shell : Render.Shell)
    (input output : String) (s : Session) : Exit × Session → Prop
  /-- The input cannot be read. -/
  | unreadable {t : Session} (e : OpenFault) : s.store.read s.place input = .error e → R s t →
      CompileEnd R shell input output s (.failure, t.told (e.message input))
  /-- There is no page, because of what the input holds. -/
  | refused {t : Session} (bytes : ByteArray) (e : Fault) :
      s.store.read s.place input = .ok bytes → pageOf shell bytes = .error e →
      e.ofContent = true → R s t → CompileEnd R shell input output s (.failure, t.told e.message)
  /-- There is no page, because of a fault that is not one of the content. -/
  | broken {t : Session} (bytes : ByteArray) (e : Fault) :
      s.store.read s.place input = .ok bytes → pageOf shell bytes = .error e →
      e.ofContent = false → R s t → CompileEnd R shell input output s (.broken (.fault e), t)
  /-- The page cannot be written. -/
  | unwritable {t u : Session} (bytes : ByteArray) (page : String) (e : OpenFault) :
      s.store.read s.place input = .ok bytes → pageOf shell bytes = .ok page → R s t →
      t.store.target t.place output = .error e → R t u →
      CompileEnd R shell input output s (.failure, u.told (e.message output))
  /-- The page is written. -/
  | written {t u : Session} (bytes : ByteArray) (page : String) (target : Place × ByteArray) :
      s.store.read s.place input = .ok bytes → pageOf shell bytes = .ok page → R s t →
      t.store.target t.place output = .ok target →
      R { t with store := t.store.put target.1 (.file page.toUTF8) } u →
      CompileEnd R shell input output s (.success, u)

theorem Allows.fail (h : Allows R l) (s : Session) (message : String) : ∃ t, R s t ∧
    s.does (Command.fail l message) = (.failure, t.told message) :=
  ⟨_, h.emit _ s, rfl⟩

/-- The end of a compilation without a page. -/
theorem Allows.failAt (h : Allows R l) {shell : Render.Shell} {input output : String}
    {s t : Session} {bytes : ByteArray} {e : Fault} (hread : s.store.read s.place input = .ok bytes)
    (hpage : pageOf shell bytes = .error e) (ht : R s t) :
    CompileEnd R shell input output s (t.does (Command.failAt l e)) := by
  rw [Command.failAt]
  by_cases hcontent : e.ofContent = true
  · obtain ⟨u, hu, hfail⟩ := h.fail t e.message
    rw [if_pos hcontent, hfail]
    exact .refused bytes e hread hpage hcontent (h.trans _ _ _ ht hu)
  · rw [if_neg hcontent]
    exact .broken bytes e hread hpage (by simpa using hcontent) ht

/-- **The ways in which a compilation ends.** -/
theorem Allows.compile_end (h : Allows R l) (shell : Render.Shell) (input output : String)
    (s : Session) : CompileEnd R shell input output s (s.does (compile l shell input output)) := by
  have hstart := h.say ("Compiling " ++ input ++ "...\n") s
  rw [compile]
  simp only [does_bind, does_clock, does_read, does_say] at hstart ⊢
  cases hread : s.store.read s.place input with
  | error e =>
    obtain ⟨t, ht, hfail⟩ := h.fail { s with said := s.said ++ ("Compiling " ++ input ++ "...\n") }
      (e.message input)
    simp only [hfail]
    exact .unreadable e hread (h.trans _ _ _ hstart ht)
  | ok bytes =>
    refine h.after hstart (h.emitAll _) fun _ t ht => ?_
    cases hload : (Dump.load bytes.toList).outcome with
    | error e =>
      refine h.failAt hread ?_ ht
      rw [pageOf, Report.bind_of_error hload]
    | ok deck =>
      have hpage : pageOf shell bytes = (Render.presentation deck shell).outcome := by
        rw [pageOf, Report.bind_of_ok hload]
      refine h.after ht (h.emitAll _) fun _ t ht => ?_
      cases hrender : (Render.presentation deck shell).outcome with
      | error e => exact h.failAt hread (hpage.trans hrender) ht
      | ok page =>
        rw [hrender] at hpage
        simp only [does_bind, does_write, Store.write]
        cases htarget : t.store.target t.place output with
        | error e =>
          obtain ⟨u, hu, hfail⟩ := h.fail t (e.message output)
          simp only [Except.map, Session.update, hfail]
          exact .unwritable bytes page e hread hpage ht htarget hu
        | ok target =>
          exact .written bytes page target hread hpage ht htarget
            (h.trans _ _ _ (h.emit _ _) (h.say _ _))

end Deck.Command
