import Deck.Proofs.Command.Session
import Deck.Proofs.Report

/-!
# The files that runs leave behind

A run without a log file writes all or nothing.  Each obstacle that it may meet comes up before
the output is touched, and a run that meets none writes its page to its output and leaves every
other file alone.

* `WritesPage`, `Obstacle`: what a run has to find in a session, and what may go wrong.
* `filesEnd_perform`: what one run does, whichever obstacle it meets.
* `runs_all_or_nothing`: **after any runs, each file holds what it held at first, or the page of
  the last run that wrote to it**.
-/

namespace Deck.Command

/-! ## What a run finds -/

/-- A run that starts in the directory `home` finds all that it needs: it will write the page to
the place. -/
inductive WritesPage (s : Store) (home : Place) (a : Arguments) : Place → String → Prop
  | intro {output page : String} {bytes : ByteArray} {deck : Presentation Json}
      {target : Place × ByteArray} : a.settings.output = .text output →
      s.read home (Path.normal a.input) = .ok bytes →
      (Dump.load bytes.toList).outcome = .ok deck →
      (Render.presentation deck a.settings.shell).outcome = .ok page →
      s.target home (Path.normal output) = .ok target →
      WritesPage s home a target.1 page

/-- What stands in the way of a run. -/
inductive Obstacle (s : Store) (home : Place) (a : Arguments) : Prop
  /-- The input is missing, or is no file. -/
  | unreadable {e : OpenFault} : s.read home (Path.normal a.input) = .error e → Obstacle s home a
  /-- The input is no text, or no JSON. -/
  | noDump {bytes : ByteArray} {e : Fault} : s.read home (Path.normal a.input) = .ok bytes →
      Dump.ofBytes bytes.toList = .error e → Obstacle s home a
  /-- The input holds no deck. -/
  | noDeck {bytes : ByteArray} {dump : Json} {e : Fault} :
      s.read home (Path.normal a.input) = .ok bytes → Dump.ofBytes bytes.toList = .ok dump →
      (Dump.presentation dump).outcome = .error e → Obstacle s home a
  /-- The deck cannot be rendered. -/
  | noPage {bytes : ByteArray} {deck : Presentation Json} {e : Fault} :
      s.read home (Path.normal a.input) = .ok bytes →
      (Dump.load bytes.toList).outcome = .ok deck →
      (Render.presentation deck a.settings.shell).outcome = .error e → Obstacle s home a
  /-- The output has no path. -/
  | noOutput : a.settings.output = .emptyList → Obstacle s home a
  /-- The output cannot be opened. -/
  | unwritable {output : String} {e : OpenFault} : a.settings.output = .text output →
      s.target home (Path.normal output) = .error e → Obstacle s home a

variable {s : Store} {home : Place} {a : Arguments}

theorem load_outcome (bytes : List UInt8) : (Dump.load bytes).outcome =
    (Dump.ofBytes bytes).bind fun dump => (Dump.presentation dump).outcome := by
  rw [Dump.load, Report.bind_def, Report.bind_outcome]
  rfl

/-- Where there is no page, it is for one of three reasons. -/
theorem obstacle_of_pageOf {bytes : ByteArray} {e : Fault}
    (hread : s.read home (Path.normal a.input) = .ok bytes)
    (hpage : pageOf a.settings.shell bytes = .error e) : Obstacle s home a := by
  rw [pageOf, Report.bind_outcome] at hpage
  cases hload : (Dump.load bytes.toList).outcome with
  | ok deck =>
    rw [hload] at hpage
    exact .noPage hread hload hpage
  | error e =>
    rw [load_outcome] at hload
    cases hdump : Dump.ofBytes bytes.toList with
    | error e => exact .noDump hread hdump
    | ok dump =>
      rw [hdump] at hload
      exact .noDeck hread hdump hload

theorem pageOf_eq_ok_iff {shell : Render.Shell} {bytes : ByteArray} {page : String} :
    pageOf shell bytes = .ok page ↔ ∃ deck, (Dump.load bytes.toList).outcome = .ok deck ∧
      (Render.presentation deck shell).outcome = .ok page :=
  Report.bind_outcome_eq_ok_iff

/-- A run that finds all that it needs meets no obstacle. -/
theorem WritesPage.not_obstacle {q : Place} {page : String} (h : WritesPage s home a q page) :
    ¬Obstacle s home a := by
  obtain ⟨houtput, hread, hload, hrender, htarget⟩ := h
  intro hobstacle
  cases hobstacle with
  | unreadable hr => exact nomatch hread.symm.trans hr
  | noDump hr hdump =>
    obtain rfl := Except.ok.inj (hread.symm.trans hr)
    rw [load_outcome, hdump] at hload
    exact nomatch hload
  | noDeck hr hdump hdeck =>
    obtain rfl := Except.ok.inj (hread.symm.trans hr)
    rw [load_outcome, hdump, Except.bind, hdeck] at hload
    exact nomatch hload
  | noPage hr hl hpage =>
    obtain rfl := Except.ok.inj (hread.symm.trans hr)
    obtain rfl := Except.ok.inj (hload.symm.trans hl)
    exact nomatch hrender.symm.trans hpage
  | noOutput ho => exact nomatch houtput.symm.trans ho
  | unwritable ho ht =>
    obtain rfl := Value.text.inj (houtput.symm.trans ho)
    exact nomatch htarget.symm.trans ht

/-- A run writes to one place, and there is one page that it writes. -/
theorem WritesPage.unique {p q : Place} {page text : String} (hp : WritesPage s home a p page)
    (hq : WritesPage s home a q text) : p = q ∧ page = text := by
  obtain ⟨houtput, hread, hload, hrender, htarget⟩ := hp
  obtain ⟨ho, hr, hl, hpage, ht⟩ := hq
  obtain rfl := Value.text.inj (houtput.symm.trans ho)
  obtain rfl := Except.ok.inj (hread.symm.trans hr)
  obtain rfl := Except.ok.inj (hload.symm.trans hl)
  exact ⟨congrArg Prod.fst (Except.ok.inj (htarget.symm.trans ht)),
    Except.ok.inj (hrender.symm.trans hpage)⟩

theorem WritesPage.place_ne_nil {q : Place} {page : String} (h : WritesPage s home a q page) :
    q ≠ [] := by
  cases h with
  | intro _ _ _ _ htarget => exact Store.ne_nil_of_target htarget

/-! ## What a run does -/

/-- The sessions hold the same files, and paths lead to the same places. -/
structure SameFiles (s t : Session) : Prop where
  store : t.store = s.store
  place : t.place = s.place

/-- Without a log file, notices leave the files alone. -/
theorem allows_sameFiles {l : Log} (hl : l.file = none) : Allows SameFiles l where
  refl _ := ⟨rfl, rfl⟩
  trans _ _ _ hst htu := ⟨htu.store.trans hst.store, htu.place.trans hst.place⟩
  say _ _ := ⟨rfl, rfl⟩
  complain _ _ := ⟨rfl, rfl⟩
  emit r s := by
    obtain ⟨store, shown, hemit, hstore⟩ := does_emit s l r
    rw [hemit]
    obtain rfl | ⟨path, _, _, hfile, -⟩ := hstore
    · exact ⟨rfl, rfl⟩
    · exact nomatch hl.symm.trans hfile

/-- How a run ends: it meets an obstacle and leaves all files as they were, or it writes its
page. -/
inductive FilesEnd (s : Store) (home : Place) (a : Arguments) : Exit × Session → Prop
  | kept {exit : Exit} {t : Session} : Obstacle s home a → exit.code ≠ 0 → t.store = s →
      t.place = home → FilesEnd s home a (exit, t)
  | written {q : Place} {page : String} {t : Session} : WritesPage s home a q page →
      t.store = s.put q (.file page.toUTF8) → t.place = home → FilesEnd s home a (.success, t)

theorem filesEnd_compile {l : Log} (hl : l.file = none) {output : String}
    (houtput : a.settings.output = .text output) (t : Session) :
    FilesEnd t.store t.place a (t.does
      (compile l a.settings.shell (Path.normal a.input) (Path.normal output))) := by
  have hend := (allows_sameFiles hl).compile_end a.settings.shell (Path.normal a.input)
    (Path.normal output) t
  generalize t.does (compile l _ _ _) = result at hend ⊢
  cases hend with
  | unreadable e hread hu => exact .kept (.unreadable hread) (by decide) hu.store hu.place
  | refused bytes e hread hpage _ hu =>
    exact .kept (obstacle_of_pageOf hread hpage) (by decide) hu.store hu.place
  | broken bytes e hread hpage _ hu =>
    exact .kept (obstacle_of_pageOf hread hpage) Nat.one_ne_zero hu.store hu.place
  | @unwritable u v bytes page e hread hpage hu htarget hv =>
    rw [hu.store, hu.place] at htarget
    exact .kept (.unwritable houtput htarget) (by decide) (hv.store.trans hu.store)
      (hv.place.trans hu.place)
  | @written u v bytes page target hread hpage hu htarget hv =>
    rw [hu.store, hu.place] at htarget
    obtain ⟨deck, hload, hrender⟩ := pageOf_eq_ok_iff.mp hpage
    refine .written (.intro houtput hread hload hrender htarget) ?_ (hv.place.trans hu.place)
    rw [hv.store, hu.store]

theorem filesEnd_perform {l : Log} (hl : l.file = none) (t : Session) :
    FilesEnd t.store t.place a (t.does (perform l a)) := by
  have hsame := (allows_sameFiles hl).emit (record .info ("CLI arguments: " ++ a.display)) t
  rw [perform, does_bind]
  generalize (t.does (l.emit _)).2 = u at hsame ⊢
  rw [← hsame.store, ← hsame.place, does_bind, does_isPresent]
  by_cases hpresent : u.store.isPresent u.place (Path.normal a.input) = true
  · rw [if_pos hpresent]
    cases houtput : a.settings.output with
    | emptyList => exact .kept (.noOutput houtput) Nat.one_ne_zero rfl rfl
    | text output => exact filesEnd_compile hl houtput u
  · rw [if_neg hpresent]
    obtain ⟨e, he⟩ := Store.read_of_not_isPresent (Bool.not_eq_true _ ▸ hpresent)
    exact .kept (.unreadable he) (by decide) rfl rfl

/-! ## Runs one after another -/

/-- The arguments ask for no log file. -/
def WithoutLog (args : List String) : Prop :=
  ∀ a, parse args = .ok a → a.settings.logPath? = none

instance (args : List String) : Decidable (WithoutLog args) :=
  match h : parse args with
  | .error _ => .isTrue fun _ ha => nomatch h.symm.trans ha
  | .ok a => decidable_of_iff (a.settings.logPath? = none)
    ⟨fun hnone _ hb => Except.ok.inj (h.symm.trans hb) ▸ hnone, fun hall => hall a h⟩

/-- The run writes the page to the place. -/
def Session.Writes (s : Session) (args : List String) (q : Place) (page : String) : Prop :=
  ∃ a, parse args = .ok a ∧ WritesPage s.store s.place a q page

theorem run_of_ok {args : List String} (hlog : WithoutLog args) (hargs : parse args = .ok a)
    (s : Session) : FilesEnd s.store s.place a (s.exit args, s.next args) := by
  have hrun : s.does (run args) = s.does (perform ⟨a.settings.verbose, none⟩ a) := by
    simp only [run, hargs, start, hlog a hargs]
  have hend := filesEnd_perform (l := ⟨a.settings.verbose, none⟩) (a := a) rfl s
  rwa [← hrun] at hend

/-- Where there is nothing to do, no file is touched. -/
theorem next_of_error {args : List String} {why : Halt} (hargs : parse args = .error why)
    (s : Session) : (s.next args).store = s.store := by
  rw [Session.next, run, hargs]
  cases why with
  | help level => rfl
  | refused level why => rfl

/-- What one run does to the files. -/
structure AllOrNothing (s : Session) (args : List String) : Prop where
  /-- The arguments ask for no compilation. -/
  idle : ∀ {why}, parse args = .error why → (s.next args).store = s.store
  /-- Something stands in the way. -/
  kept : ∀ {a}, parse args = .ok a → Obstacle s.store s.place a →
    (s.exit args).code ≠ 0 ∧ (s.next args).store = s.store
  /-- The page of the deck that the input holds at that moment is written to the output. -/
  written : ∀ {a}, parse args = .ok a → ¬Obstacle s.store s.place a →
    s.exit args = .success ∧ ∃ q page, WritesPage s.store s.place a q page ∧
      (s.next args).store.get? q = some (.file page.toUTF8)
  /-- Nothing changes but the output of a run that succeeds. -/
  changed : ∀ {q}, (s.next args).store.get? q ≠ s.store.get? q →
    s.exit args = .success ∧ ∃ page, s.Writes args q page

theorem allOrNothing {args : List String} (hlog : WithoutLog args) (s : Session) :
    AllOrNothing s args where
  idle hargs := next_of_error hargs s
  kept hargs hobstacle := by
    have hend := run_of_ok hlog hargs s
    generalize s.exit args = exit, s.next args = t at hend ⊢
    cases hend with
    | kept _ hcode hstore => exact ⟨hcode, hstore⟩
    | written hwrites => exact absurd hobstacle hwrites.not_obstacle
  written hargs hnone := by
    have hend := run_of_ok hlog hargs s
    generalize s.exit args = exit, s.next args = t at hend ⊢
    cases hend with
    | kept hobstacle => exact absurd hobstacle hnone
    | @written q page _ hwrites hstore =>
      refine ⟨rfl, q, page, hwrites, ?_⟩
      rw [hstore]
      exact Store.get?_put_self _ hwrites.place_ne_nil _
  changed {q} hchanged := by
    cases hargs : parse args with
    | error why => exact absurd (by rw [next_of_error hargs s]) hchanged
    | ok a =>
      have hend := run_of_ok hlog hargs s
      generalize s.exit args = exit, s.next args = t at hend hchanged ⊢
      cases hend with
      | kept _ _ hstore => exact absurd (by rw [hstore]) hchanged
      | @written p page _ hwrites hstore =>
        obtain rfl : q = p := by
          by_contra hq
          exact hchanged (by rw [hstore]; exact Store.get?_put_of_ne _ hq _)
        exact ⟨rfl, page, a, hargs, hwrites⟩

/-- A run that writes a page to a place leaves it there. -/
theorem AllOrNothing.get?_of_writes {args : List String} {s : Session} (h : AllOrNothing s args)
    {q : Place} {page : String} (hwrites : s.Writes args q page) :
    (s.next args).store.get? q = some (.file page.toUTF8) := by
  obtain ⟨a, hargs, hpage⟩ := hwrites
  obtain ⟨-, p, text, htext, hget⟩ := h.written hargs hpage.not_obstacle
  obtain ⟨rfl, rfl⟩ := hpage.unique htext
  exact hget

/-- None of the runs writes to the place. -/
def NoneWrites (q : Place) : Session → List (List String) → Prop
  | _, [] => True
  | s, args :: runs => (∀ page, ¬s.Writes args q page) ∧ NoneWrites q (s.next args) runs

/-- What a place holds in the end: what it held at first, or the page of the last run that wrote
to it. -/
inductive HoldsLast (q : Place) (s : Session) (runs : List (List String)) : Prop
  | kept : NoneWrites q s runs → (s.after runs).store.get? q = s.store.get? q → HoldsLast q s runs
  | written (before rest : List (List String)) {args : List String} {page : String} :
      runs = before ++ args :: rest → (s.after before).Writes args q page →
      NoneWrites q (s.after (before ++ [args])) rest →
      (s.after runs).store.get? q = some (.file page.toUTF8) → HoldsLast q s runs

theorem holdsLast (q : Place) {runs : List (List String)} (hlog : ∀ args ∈ runs, WithoutLog args)
    (s : Session) : HoldsLast q s runs := by
  induction runs generalizing s with
  | nil => exact .kept trivial rfl
  | cons args runs ih =>
    have hone := allOrNothing (hlog args (.head _)) s
    -- The last run that writes to the place is a later one, or this one, or there is none.
    cases ih (fun args h => hlog args (.tail _ h)) (s.next args) with
    | written before rest hruns hwrites hnone hget =>
      exact .written (args :: before) rest (by rw [hruns]; rfl) hwrites hnone hget
    | kept hnone hget =>
      by_cases hwrites : ∃ page, s.Writes args q page
      · obtain ⟨page, hwrites⟩ := hwrites
        exact .written [] runs rfl hwrites hnone (hget.trans (hone.get?_of_writes hwrites))
      · have hkept : (s.next args).store.get? q = s.store.get? q := by
          by_contra hchanged
          exact hwrites (hone.changed hchanged).2
        exact .kept ⟨not_exists.mp hwrites, hnone⟩ (hget.trans hkept)

/-- A directory with an empty deck in it. -/
def desk : Session := .withDeck "\x7b\"slides\": []\x7d".toUTF8

/-- The second run takes the page of the first one for a deck, and has the deck for its output. -/
def deskRuns : List (List String) :=
  [["compile", "talk.json", "-o", "talk.html"], ["compile", "talk.html", "-o", "talk.json"]]

end Deck.Command
