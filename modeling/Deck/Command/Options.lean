import Deck.Text.Quoted
import Deck.Text.Split

/-!
# Options of the command line

The program has one command, which takes a path and options.  An option has a long
name and may have a short one; it is a switch or takes a value.

* `Table.find?`: the option of a name.
* `Settings.apply`: what an option changes.
-/

namespace Deck.Command

/-- The two levels of the command line: the program, and its command. -/
inductive Level where
  | program
  | compile
  deriving DecidableEq, Repr

/-- The options. -/
inductive Flag where
  | help
  | output
  | theme
  | transition
  | verbose
  | logFile
  deriving DecidableEq, Repr

namespace Flag

def takesValue : Flag → Bool
  | .output | .theme | .transition | .logFile => true
  | .help | .verbose => false

/-- The names of an option in messages. -/
def label : Flag → String
  | .help => "-h/--help"
  | .output => "-o/--output"
  | .theme => "--theme"
  | .transition => "--transition"
  | .verbose => "-v/--verbose"
  | .logFile => "--log-file"

end Flag

/-- The names of the options of a level, in the order in which they are tried. -/
abbrev Table := List (String × Flag)

def table : Level → Table
  | .program => [("-h", .help), ("--help", .help)]
  | .compile =>
    [("-h", .help), ("--help", .help), ("-o", .output), ("--output", .output),
      ("--theme", .theme), ("--transition", .transition), ("-v", .verbose),
      ("--verbose", .verbose), ("--log-file", .logFile)]

def Table.find? (t : Table) (name : String) : Option Flag := t.lookup name

/-! ## Values -/

/-- The value of an option.  Two dashes are no value, even where they are joined to their option:
they are dropped, and leave an empty list. -/
inductive Value where
  | text (s : String)
  | emptyList
  deriving DecidableEq, Repr

namespace Value

def ofChars (s : List Char) : Value :=
  if s = ['-', '-'] then .emptyList else .text (String.ofList s)

/-- The value as it goes into a page. -/
def plain : Value → String
  | .text s => s
  | .emptyList => "[]"

/-- The value as it is shown in a notice. -/
def display : Value → String
  | .text s => Text.quoted s
  | .emptyList => "[]"

end Value

/-- What the options say. -/
structure Settings where
  output : Value
  theme : Value
  transition : Value
  verbose : Bool
  logFile : Option Value
  deriving DecidableEq, Repr

namespace Settings

/-- The settings without any option. -/
def default : Settings :=
  ⟨.text "presentation.html", .text "white", .text "slide", false, none⟩

/-- The settings after one more option with its value. -/
def apply (s : Settings) (flag : Flag) (value : Value) : Settings :=
  match flag with
  | .help => s
  | .output => { s with output := value }
  | .theme => { s with theme := value }
  | .transition => { s with transition := value }
  | .verbose => { s with verbose := true }
  | .logFile => { s with logFile := some value }

end Settings

/-- What the command is asked to do. -/
structure Arguments where
  input : String
  settings : Settings
  deriving DecidableEq, Repr

/-- The arguments as they are shown in a notice. -/
def Arguments.display (a : Arguments) : String :=
  let flag (b : Bool) : String := if b then "True" else "False"
  "\x7b" ++ ", ".intercalate
    ["'command': 'compile'",
      "'input': " ++ Text.quoted a.input,
      "'output': " ++ a.settings.output.display,
      "'theme': " ++ a.settings.theme.display,
      "'transition': " ++ a.settings.transition.display,
      "'verbose': " ++ flag a.settings.verbose,
      "'log_file': " ++ (a.settings.logFile.map Value.display).getD "None"] ++ "\x7d"

end Deck.Command
