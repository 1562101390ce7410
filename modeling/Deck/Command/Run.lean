import Deck.Command.Host
import Deck.Command.Path
import Deck.Command.Usage
import Deck.Dump.Presentation
import Deck.Render.Presentation

/-!
# A run of the program

A run reads the arguments, reads the deck from its dump, renders it and writes the
page.  It says what it does on the main channel; warnings go to the channel for
errors, in a verbose run all notices do, and a log file gets every notice.

A notice is passed on as soon as the reading or the rendering that gave it is over,
and before the next file is opened, so a log that is the input or the output of the
same run is seen as it then stands.
-/

namespace Deck.Command

/-- Why a run breaks off. -/
inductive Breakdown where
  /-- A fault that is not one of the content. -/
  | fault (fault : Fault)
  /-- The log file cannot be opened. -/
  | logFile (fault : OpenFault) (path : String)
  /-- The output has no path. -/
  | noOutputPath

/-- How a fault to open a file is told. -/
def OpenFault.message (e : OpenFault) (path : String) : String :=
  "[Errno " ++ toString e.code ++ "] " ++ e.reason ++ ": " ++ Text.quoted path

def Breakdown.message : Breakdown → String
  | .fault e => e.message
  | .logFile e path => e.message path
  | .noOutputPath => "expected str, bytes or os.PathLike object, not list"

/-- How a run ends. -/
inductive Exit where
  | success
  | failure
  | misuse
  | broken (why : Breakdown)

/-- The code that a run ends with. -/
def Exit.code : Exit → Nat
  | .success => 0
  | .failure | .broken _ => 1
  | .misuse => 2

/-- Where notices go. -/
structure Log where
  verbose : Bool
  file : Option String

/-- Whether a notice is shown on the channel for errors. -/
def Log.shows (l : Log) (r : Record) : Bool := l.verbose || r.severity == .warning

/-- What the command line itself has to tell. -/
def record (severity : Severity) (text : String) : Record := ⟨severity, "slidedeckml.cli", text⟩

/-- A number of hundredths. -/
def hundredths (n : Nat) : String :=
  toString (n / 100) ++ "." ++ Number.padded 2 (n % 100)

/-- The log file that is asked for.  An empty value asks for none. -/
def Settings.logPath? (s : Settings) : Option String :=
  match s.logFile with
  | some (.text path) => if path = "" then none else some path
  | _ => none

/-- The shell that is asked for. -/
def Settings.shell (s : Settings) : Render.Shell :=
  { Render.Shell.default with theme := s.theme.plain, transition := s.transition.plain }

variable {m : Type → Type} [Monad m] [Host m]

/-- Passes one notice on. -/
def Log.emit (l : Log) (r : Record) : m Unit := do
  if l.shows r then
    Host.complain (r.severity.name ++ ": " ++ r.text ++ "\n")
  match l.file with
  | none => pure ()
  | some path =>
    let time ← Host.timestamp
    let text := time ++ " " ++ r.origin ++ " " ++ r.severity.name ++ " " ++ r.text ++ "\n"
    let _ ← Host.append path text.toUTF8

/-- Passes notices on, one after the other. -/
def Log.emitAll (l : Log) : List Notice → m Unit
  | [] => pure ()
  | n :: ns => do
    l.emit n.record
    l.emitAll ns

/-- Ends a run that failed. -/
def fail (l : Log) (message : String) : m Exit := do
  l.emit (record .debug "Compilation failed")
  Host.complain ("Error: " ++ message ++ "\n")
  pure .failure

/-- Ends a run at a fault: one of the content is told, and any other one breaks the run off. -/
def failAt (l : Log) (e : Fault) : m Exit :=
  if e.ofContent then fail l e.message else pure (.broken (.fault e))

/-- Reads the deck at `input` and writes its page to `output`. -/
def compile (l : Log) (shell : Render.Shell) (input output : String) : m Exit := do
  Host.say ("Compiling " ++ input ++ "...\n")
  let start ← Host.clock
  match ← Host.read input with
  | .error e => fail l (e.message input)
  | .ok bytes =>
    let loaded := Dump.load bytes.toList
    l.emitAll loaded.notices
    match loaded.outcome with
    | .error e => failAt l e
    | .ok deck =>
      let rendered := Render.presentation deck shell
      l.emitAll rendered.notices
      match rendered.outcome with
      | .error e => failAt l e
      | .ok page =>
        match ← Host.write output page.toUTF8 with
        | .error e => fail l (e.message output)
        | .ok () =>
          let stop ← Host.clock
          l.emit (record .info ("Compiled " ++ toString deck.slides.length ++ " slide(s) in "
            ++ hundredths (stop - start) ++ "s -> " ++ output))
          Host.say ("✓ Generated: " ++ output ++ "\n"
            ++ "  Open it in your browser to view the presentation!\n")
          pure .success

/-- Does what the arguments ask for, with the log in place. -/
def perform (l : Log) (a : Arguments) : m Exit := do
  l.emit (record .info ("CLI arguments: " ++ a.display))
  let input := Path.normal a.input
  if ← Host.isPresent input then
    match a.settings.output with
    | .emptyList => pure (.broken .noOutputPath)
    | .text output => compile l a.settings.shell input (Path.normal output)
  else
    Host.complain ("Error: Input file not found: " ++ input ++ "\n")
    pure .failure

/-- Opens the log file, and does what the arguments ask for. -/
def start (a : Arguments) : m Exit := do
  match a.settings.logPath? with
  | none => perform ⟨a.settings.verbose, none⟩ a
  | some path =>
    match ← Host.append (Path.lexical path) .empty with
    | .error e =>
      let home ← Host.home
      pure (.broken (.logFile e (Path.within home path)))
    | .ok () => perform ⟨a.settings.verbose, some (Path.lexical path)⟩ a

/-- A run of the program. -/
def run (args : List String) : m Exit := do
  match parse args with
  | .error (.help level) =>
    Host.say level.help
    pure .success
  | .error (.refused level why) =>
    Host.complain (refusalText level why)
    pure .misuse
  | .ok a => start a

end Deck.Command
