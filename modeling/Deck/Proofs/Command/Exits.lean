import Deck.Proofs.Command.Session
import Deck.Proofs.Render.Kinds

/-!
# How runs end

A run that finds its input, and can open its output and its log file, breaks off only where the
dump holds a value of the wrong kind.  If it fails, then it tells why, and on one line unless a
node is called by more than one.

* `Prepared`: the files of a run are there, and go on to be there while notices are passed on.
* `endsAs_run`: **a run ends as the compilation of its dump does**.
* `page_or_told`: **a dump of the right kinds becomes a page, or the run tells why not**, and no
  other dump becomes a page.
-/

namespace Deck.Command

open Dump

/-! ## Notices -/

/-- The sessions have the same directories, and between them things were only complained of. -/
structure Grown (s t : Session) : Prop where
  directories : SameDirectories s.store t.store
  place : t.place = s.place
  complaints : ∃ shown, t.complaints = s.complaints ++ shown

/-- Notices only make a session grow, wherever they go. -/
theorem allows_grown (l : Log) : Allows Grown l where
  refl s := ⟨.refl _, rfl, "", String.append_empty.symm⟩
  trans s t u hst htu := by
    obtain ⟨shown, hshown⟩ := hst.complaints
    obtain ⟨more, hmore⟩ := htu.complaints
    refine ⟨hst.directories.trans htu.directories, htu.place.trans hst.place, shown ++ more, ?_⟩
    rw [hmore, hshown, String.append_assoc]
  say text s := ⟨.refl _, rfl, "", String.append_empty.symm⟩
  complain text s := ⟨.refl _, rfl, text, rfl⟩
  emit r s := by
    obtain ⟨store, shown, hemit, hstore⟩ := does_emit s l r
    rw [hemit]
    refine ⟨?_, rfl, shown, rfl⟩
    obtain rfl | ⟨path, target, content, -, htarget, rfl⟩ := hstore
    · exact .refl _
    · exact Store.sameDirectories_put htarget content

/-! ## Files of a run -/

/-- A run that starts in the directory `home` finds the dump in its input, and can open its
output and its log file, which is another file than the input. -/
structure Prepared (s : Store) (home : Place) (a : Arguments) (dump : Json) : Prop where
  input : ∃ bytes, s.read home (Path.normal a.input) = .ok bytes ∧
    Dump.ofBytes bytes.toList = .ok dump
  output : ∃ output target, a.settings.output = .text output ∧
    s.target home (Path.normal output) = .ok target
  log : ∀ path, a.settings.logPath? = some path → ∃ target,
    s.target home (Path.lexical path) = .ok target ∧
      s.find home (Path.normal a.input) ≠ .ok target.1

variable {s : Store} {home : Place} {a : Arguments} {dump : Json}

/-- What is written to the log file takes nothing from the run. -/
theorem Prepared.put (h : Prepared s home a dump) {path : String} {target : Place × ByteArray}
    (hpath : a.settings.logPath? = some path)
    (htarget : s.target home (Path.lexical path) = .ok target) (content : ByteArray) :
    Prepared (s.put target.1 (.file content)) home a dump := by
  have hsame := Store.sameDirectories_put htarget content
  obtain ⟨bytes, hread, hdump⟩ := h.input
  obtain ⟨output, there, houtput, hthere⟩ := h.output
  obtain ⟨p, hfind, -⟩ := Store.read_eq_ok_iff.mp hread
  obtain ⟨same, hlog, hne⟩ := h.log path hpath
  obtain rfl := Except.ok.inj (hlog.symm.trans htarget)
  obtain ⟨now, hnow⟩ := hsame.target hthere
  refine ⟨⟨bytes, Store.read_put hread htarget hne content, hdump⟩, ⟨output, _, houtput, hnow⟩, ?_⟩
  intro other hother
  obtain rfl : path = other := Option.some.inj (hpath.symm.trans hother)
  obtain ⟨later, hlater⟩ := hsame.target htarget
  refine ⟨_, hlater, ?_⟩
  rw [hsame.find hfind, ← hfind]
  exact hne

/-- A notice takes nothing from the run, if it goes to the log file that the run asks for. -/
theorem Prepared.emit {t : Session} (h : Prepared t.store t.place a dump) {l : Log}
    (hl : ∀ file, l.file = some file → ∃ path, a.settings.logPath? = some path ∧
      file = Path.lexical path) (r : Record) :
    Prepared (t.does (l.emit r)).2.store t.place a dump := by
  obtain ⟨store, shown, hemit, hstore⟩ := does_emit t l r
  rw [hemit]
  obtain rfl | ⟨file, target, content, hfile, htarget, rfl⟩ := hstore
  · exact h
  · obtain ⟨path, hpath, rfl⟩ := hl file hfile
    exact h.put hpath htarget content

/-! ## Ends of runs -/

/-- A run ends as the compilation of its dump does: a fault of the content is told, and any other
one breaks it off. -/
inductive EndsAs (s : Session) : Except Fault String → Exit × Session → Prop
  | success {page : String} {t : Session} : EndsAs s (.ok page) (.success, t)
  | failure {e : Fault} {t : Session} (shown : String) : e.ofContent = true →
      t.complaints = s.complaints ++ shown ++ ("Error: " ++ e.message ++ "\n") →
      EndsAs s (.error e) (.failure, t)
  | broken {e : Fault} {t : Session} : e.ofContent = false →
      EndsAs s (.error e) (.broken (.fault e), t)

/-- What was complained of before is still there. -/
theorem EndsAs.of_grown {t u : Session} (h : Grown t u) {x : Except Fault String}
    {result : Exit × Session} (hu : EndsAs u x result) : EndsAs t x result := by
  obtain ⟨before, hbefore⟩ := h.complaints
  cases hu with
  | success => exact .success
  | broken hbroken => exact .broken hbroken
  | failure shown hcontent hcomplaints =>
    refine .failure (before ++ shown) hcontent ?_
    rw [hcomplaints, hbefore]
    simp only [String.append_assoc]

theorem pageOf_of_dump {bytes : ByteArray} (hdump : Dump.ofBytes bytes.toList = .ok dump)
    (shell : Render.Shell) : pageOf shell bytes = Render.compiled dump shell := by
  have hload : Dump.load bytes.toList = Dump.presentation dump := by
    rw [Dump.load, hdump]
    exact Report.ofExcept_ok_bind dump Dump.presentation
  rw [pageOf, hload, Render.compiled]

theorem endsAs_compile {t : Session} (h : Prepared t.store t.place a dump) (l : Log)
    (shell : Render.Shell) {output : String} (houtput : a.settings.output = .text output) :
    EndsAs t (Render.compiled dump shell)
      (t.does (compile l shell (Path.normal a.input) (Path.normal output))) := by
  obtain ⟨bytes, hread, hdump⟩ := h.input
  obtain ⟨same, target, hsame, htarget⟩ := h.output
  obtain rfl := Value.text.inj (houtput.symm.trans hsame)
  have hend := (allows_grown l).compile_end shell (Path.normal a.input) (Path.normal output) t
  rw [← pageOf_of_dump hdump]
  generalize t.does (compile l _ _ _) = result at hend ⊢
  -- The input is read before the first notice, and what can be opened still can after them.
  cases hend with
  | unreadable e hunread => exact nomatch hread.symm.trans hunread
  | refused content e hcontent hpage htold hu =>
    obtain rfl := Except.ok.inj (hread.symm.trans hcontent)
    rw [hpage]
    exact .of_grown hu (.failure "" htold (by rw [String.append_empty]; rfl))
  | broken content e hcontent hpage hbroken =>
    obtain rfl := Except.ok.inj (hread.symm.trans hcontent)
    rw [hpage]
    exact .broken hbroken
  | unwritable content page e _ _ hu hunwritable =>
    obtain ⟨now, hnow⟩ := hu.directories.target htarget
    rw [hu.place] at hunwritable
    exact nomatch hnow.symm.trans hunwritable
  | written content page _ hcontent hpage =>
    obtain rfl := Except.ok.inj (hread.symm.trans hcontent)
    rw [hpage]
    exact .success

theorem endsAs_perform {t : Session} (h : Prepared t.store t.place a dump) {l : Log}
    (hl : ∀ file, l.file = some file → ∃ path, a.settings.logPath? = some path ∧
      file = Path.lexical path) :
    EndsAs t (Render.compiled dump a.settings.shell) (t.does (perform l a)) := by
  have hgrown := (allows_grown l).emit (record .info ("CLI arguments: " ++ a.display)) t
  have hprepared := h.emit hl (record .info ("CLI arguments: " ++ a.display))
  rw [← hgrown.place] at hprepared
  rw [perform, does_bind]
  generalize (t.does (l.emit _)).2 = u at hgrown hprepared ⊢
  obtain ⟨bytes, hread, -⟩ := hprepared.input
  obtain ⟨output, -, houtput, -⟩ := hprepared.output
  rw [does_bind, does_isPresent, if_pos (Store.isPresent_of_read hread), houtput]
  exact .of_grown hgrown (endsAs_compile hprepared l _ houtput)

theorem endsAs_start {t : Session} (h : Prepared t.store t.place a dump) :
    EndsAs t (Render.compiled dump a.settings.shell) (t.does (start a)) := by
  rw [start]
  cases hpath : a.settings.logPath? with
  | none => exact endsAs_perform h fun file hfile => nomatch hfile
  | some path =>
    obtain ⟨target, htarget, -⟩ := h.log path hpath
    simp only [does_bind, does_append, Store.append, htarget, Except.map, Session.update]
    refine EndsAs.of_grown (u := { t with store := _ }) ?_
      (endsAs_perform (h.put hpath htarget _) fun file hfile => ?_)
    · exact ⟨Store.sameDirectories_put htarget _, rfl, "", String.append_empty.symm⟩
    · exact ⟨path, hpath, (Option.some.inj hfile).symm⟩

/-- **A run ends as the compilation of its dump does.** -/
theorem endsAs_run {args : List String} (hargs : parse args = .ok a) {t : Session}
    (h : Prepared t.store t.place a dump) :
    EndsAs t (Render.compiled dump a.settings.shell) (t.exit args, t.next args) := by
  have hrun : t.does (run args) = t.does (start a) := by rw [run, hargs]
  have hend := endsAs_start h
  rwa [← hrun] at hend

/-! ## Dumps of the right kinds -/

/-- The page of a dump of the right kinds, or the fault that is told of it. -/
theorem compiled_of_rightKinds {lax : Fields → Bool} (hkinds : rightKinds lax dump = true)
    (shell : Render.Shell) : (∃ page, Render.compiled dump shell = .ok page) ∨
      ∃ e, Render.compiled dump shell = .error e ∧ Told lax e := by
  have hkeeps : Keeps lax _ _ _ := Render.keeps_compiled dump shell
  cases hcompiled : Render.compiled dump shell with
  | ok page => exact .inl ⟨page, rfl⟩
  | error e =>
    rw [hcompiled] at hkeeps
    cases hkeeps with
    | told htold => exact .inr ⟨e, rfl, htold hkinds⟩

theorem rightKinds_of_page {lax : Fields → Bool} {shell : Render.Shell} {page : String}
    (h : Render.compiled dump shell = .ok page) : rightKinds lax dump = true := by
  have hkeeps : Keeps lax _ _ _ := Render.keeps_compiled dump shell
  rw [h] at hkeeps
  cases hkeeps with
  | ok hkinds => exact hkinds.symm

variable {args : List String} {t : Session}

theorem exit_of_rightKinds (hargs : parse args = .ok a) (h : Prepared t.store t.place a dump)
    {lax : Fields → Bool} (hkinds : rightKinds lax dump = true) :
    t.exit args = .success ∨ t.exit args = .failure := by
  have hend := endsAs_run hargs h
  generalize t.exit args = exit at hend ⊢
  obtain ⟨page, hpage⟩ | ⟨e, he, htold⟩ := compiled_of_rightKinds hkinds a.settings.shell
  · rw [hpage] at hend
    cases hend with
    | success => exact .inl rfl
  · rw [he] at hend
    cases hend with
    | failure => exact .inr rfl
    | broken hbroken => exact nomatch htold.ofContent.symm.trans hbroken

theorem complaint_of_rightKinds (hargs : parse args = .ok a) (h : Prepared t.store t.place a dump)
    (hkinds : rightKinds isNamedOnOneLine dump = true) (hfailure : t.exit args = .failure) :
    ∃ shown message, '\n' ∉ message.toList ∧
      (t.next args).complaints = t.complaints ++ shown ++ ("Error: " ++ message ++ "\n") := by
  have hend := endsAs_run hargs h
  rw [hfailure] at hend
  obtain ⟨page, hpage⟩ | ⟨e, he, htold⟩ := compiled_of_rightKinds hkinds a.settings.shell
  · rw [hpage] at hend
    exact nomatch hend
  · rw [he] at hend
    cases hend with
    | failure shown _ hcomplaints => exact ⟨shown, _, htold.break_not_mem_message, hcomplaints⟩

/-- Whatever node lacks something, this may be told. -/
def anyNode : Fields → Bool := fun _ => true

/-- **A dump whose values are of the right kinds becomes a page, or ends with a fault of the
content, and no other dump becomes a page.**  A run over such a dump succeeds or fails, and if
it fails then it tells why on one line, unless it names a node by more than one. -/
theorem page_or_told (dump : Json) :
    (rightKinds anyNode dump = true → ∀ shell,
      (∃ page, Render.compiled dump shell = .ok page) ∨
        ∃ e, Render.compiled dump shell = .error e ∧ e.ofContent = true) ∧
    (∀ shell page, Render.compiled dump shell = .ok page → rightKinds anyNode dump = true) ∧
    ∀ (t : Session) (args : List String) (a : Arguments), parse args = .ok a →
      Prepared t.store t.place a dump →
        (rightKinds anyNode dump = true → t.exit args = .success ∨ t.exit args = .failure) ∧
        (rightKinds isNamedOnOneLine dump = true → t.exit args = .failure →
          ∃ shown message, '\n' ∉ message.toList ∧ (t.next args).complaints =
            t.complaints ++ shown ++ ("Error: " ++ message ++ "\n")) := by
  refine ⟨fun hkinds shell => ?_, fun shell page hpage => rightKinds_of_page hpage, ?_⟩
  · obtain hpage | ⟨e, he, htold⟩ := compiled_of_rightKinds hkinds shell
    · exact .inl hpage
    · exact .inr ⟨e, he, htold.ofContent⟩
  · intro t args a hargs h
    exact ⟨exit_of_rightKinds hargs h, complaint_of_rightKinds hargs h⟩

/-- A deck with a quote that lacks its text. -/
def hollowQuote : Json := .obj [("slides", .arr [.obj [("blocks", .arr [.obj [("lines", .arr [
  .obj [("$type", .str "Quote")]])]])]])]

def lecternFile : ByteArray :=
  ("\x7b\"slides\": [\x7b\"blocks\": [\x7b\"lines\": " ++
    "[\x7b\"$type\": \"Quote\"\x7d]\x7d]\x7d]\x7d").toUTF8

/-- A directory with this deck in it. -/
def lectern : Session := .withDeck lecternFile

def lecternRun : List String := ["compile", "talk.json", "--log-file", "talk.log"]

def lecternArguments : Arguments :=
  ⟨"talk.json", { Settings.default with logFile := some (.text "talk.log") }⟩

theorem lectern_prepared :
    Prepared lectern.store lectern.place lecternArguments hollowQuote where
  input := ⟨lecternFile, by decide +kernel, by decide +kernel⟩
  output := ⟨"presentation.html", (["home".toList, "presentation.html".toList], .empty), rfl,
    by decide +kernel⟩
  log path hpath := by
    obtain rfl : "talk.log" = path := Option.some.inj hpath
    exact ⟨(["home".toList, "talk.log".toList], .empty), by decide +kernel, by decide +kernel⟩

theorem lecternRun_told : parse lecternRun = .ok lecternArguments ∧
    Prepared lectern.store lectern.place lecternArguments hollowQuote ∧
    rightKinds anyNode hollowQuote = true ∧ rightKinds isNamedOnOneLine hollowQuote = true ∧
    (lectern.exit lecternRun = .success ∨ lectern.exit lecternRun = .failure) := by
  have hparse : parse lecternRun = .ok lecternArguments := by decide +kernel
  have hkinds : rightKinds anyNode hollowQuote = true := by decide +kernel
  obtain ⟨-, -, hruns⟩ := page_or_told hollowQuote
  refine ⟨hparse, lectern_prepared, hkinds, by decide +kernel, ?_⟩
  exact (hruns lectern lecternRun lecternArguments hparse lectern_prepared).1 hkinds

/-- A dump that wraps a number. -/
def wrappedNumber : Json := .obj [("presentation", .int 5)]

/-- A wrapped number is asked for its slides, and no run over it says so. -/
theorem wrappedNumber_breaks :
    (∀ shell, Render.compiled wrappedNumber shell = .error (.wrongKind .membership .int)) ∧
      (Fault.wrongKind .membership .int).ofContent = false ∧
      ∀ (t : Session) (args : List String) (a : Arguments), parse args = .ok a →
        Prepared t.store t.place a wrappedNumber →
          t.exit args = .broken (.fault (.wrongKind .membership .int)) := by
  have hcompiled : ∀ shell, Render.compiled wrappedNumber shell =
      .error (.wrongKind .membership .int) := fun _ => rfl
  refine ⟨hcompiled, rfl, fun t args a hargs h => ?_⟩
  have hend := endsAs_run hargs h
  rw [hcompiled] at hend
  generalize t.exit args = exit at hend ⊢
  cases hend with
  | failure _ htold => exact nomatch htold
  | broken => rfl

end Deck.Command
