/-!
# What a run needs around it

A run reads and writes files, says something on two channels, and asks for the
time.  `Host m` offers this in a monad `m`: the world outside for the program, or a
store of files for reasoning about a run.

Reading and opening can fail.  Both channels take every text, and a file that has been
opened takes all that is written to it: a channel that cannot encode a character, a
closed pipe and a full disk are outside of what is said about a run.
-/

namespace Deck.Command

/-- Why a file cannot be opened. -/
inductive OpenFault where
  | noEntry
  | notDirectory
  | isDirectory
  | other (code : Nat) (reason : String)
  deriving DecidableEq, Repr

namespace OpenFault

def code : OpenFault → Nat
  | .noEntry => 2
  | .notDirectory => 20
  | .isDirectory => 21
  | .other code _ => code

def reason : OpenFault → String
  | .noEntry => "No such file or directory"
  | .notDirectory => "Not a directory"
  | .isDirectory => "Is a directory"
  | .other _ reason => reason

end OpenFault

/-- The surroundings of a run. -/
class Host (m : Type → Type) where
  /-- Whether there is something at a path. -/
  isPresent : (path : String) → m Bool
  /-- The content of a file. -/
  read : (path : String) → m (Except OpenFault ByteArray)
  /-- Writes a file anew. -/
  write : (path : String) → ByteArray → m (Except OpenFault Unit)
  /-- Adds to the end of a file, which is created if there is none. -/
  append : (path : String) → ByteArray → m (Except OpenFault Unit)
  /-- The directory that paths start from. -/
  home : m String
  /-- Says something on the main channel. -/
  say : String → m Unit
  /-- Says something on the channel for errors. -/
  complain : String → m Unit
  /-- The time of day, for a log. -/
  timestamp : m String
  /-- A clock that counts hundredths of a second. -/
  clock : m Nat

end Deck.Command
