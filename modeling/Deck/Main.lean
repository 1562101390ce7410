import Deck.Command.Run
import Std.Time

/-!
# The program

The files, the channels and the clock of the machine, and a run with them.
-/

namespace Deck.Command

/-- The code and the reason that the machine gives for an error. -/
def errorParts : IO.Error → UInt32 × String
  | .alreadyExists _ code reason | .otherError code reason | .resourceBusy code reason
  | .resourceVanished code reason | .unsupportedOperation code reason
  | .hardwareFault code reason | .unsatisfiedConstraints code reason
  | .illegalOperation code reason | .protocolError code reason | .timeExpired code reason
  | .interrupted _ code reason | .noFileOrDirectory _ code reason
  | .invalidArgument _ code reason | .permissionDenied _ code reason
  | .resourceExhausted _ code reason | .inappropriateType _ code reason
  | .noSuchThing _ code reason => (code, reason)
  | .unexpectedEof => (0, "unexpected end of file")
  | .userError reason => (0, reason)

def openFault (e : IO.Error) : OpenFault :=
  let (code, reason) := errorParts e
  if code = 2 then .noEntry
  else if code = 20 then .notDirectory
  else if code = 21 then .isDirectory
  else .other code.toNat reason

/-- Work on a file, with the error that it may end with. -/
def attempt {α : Type} (work : IO α) : IO (Except OpenFault α) := do
  try
    return .ok (← work)
  catch e =>
    return .error (openFault e)

instance : Host IO where
  isPresent path := do
    match ← attempt (IO.FS.realPath path) with
    | .ok _ => return true
    | .error _ => return false
  read path := attempt (IO.FS.readBinFile path)
  write path content := attempt (IO.FS.writeBinFile path content)
  append path content := attempt do
    let file ← IO.FS.Handle.mk path .append
    file.write content
  home := do return (← IO.currentDir).toString
  say text := IO.print text
  complain text := IO.eprint text
  timestamp := do return (← Std.Time.PlainDateTime.now).format "uuuu-MM-dd HH:mm:ss,SSS"
  clock := do return (← IO.monoMsNow) / 10

end Deck.Command

/-- Runs the program with the arguments that it was given. -/
def main (args : List String) : IO UInt32 := do
  let exit : Deck.Command.Exit ← Deck.Command.run args
  match exit with
  | .broken why => IO.eprintln why.message
  | _ => pure ()
  return UInt32.ofNat exit.code
