import Deck.Command.Arguments

/-!
# Usage and help

What the program says about its arguments, in lines of at most eighty columns.
-/

namespace Deck.Command

/-- The lines of a text, each ended by a line feed. -/
def lines (ls : List String) : String := "\n".intercalate ls ++ "\n"

/-- How a level is named in messages. -/
def Level.name : Level → String
  | .program => "slidedeckml"
  | .compile => "slidedeckml compile"

/-- How a level is used. -/
def Level.usage : Level → String
  | .program => lines ["usage: slidedeckml [-h] \x7bcompile\x7d ..."]
  | .compile => lines
    [ "usage: slidedeckml compile [-h] [-o OUTPUT] [--theme THEME]",
      "                           [--transition TRANSITION] [-v]",
      "                           [--log-file LOG_FILE]",
      "                           input" ]

/-- What a level does, and its arguments. -/
def Level.help (l : Level) : String :=
  l.usage ++ match l with
  | .program => lines
    [ "",
      "Compile SlideDeckML presentations to reveal.js HTML.",
      "",
      "positional arguments:",
      "  \x7bcompile\x7d",
      "    compile   Compile a parsed presentation to HTML",
      "",
      "options:",
      "  -h, --help  show this help message and exit" ]
  | .compile => lines
    [ "",
      "positional arguments:",
      "  input                 Path to the JSON AST of a .sdml presentation",
      "",
      "options:",
      "  -h, --help            show this help message and exit",
      "  -o OUTPUT, --output OUTPUT",
      "                        Output HTML file (default: presentation.html)",
      "  --theme THEME         reveal.js theme name (default: white)",
      "  --transition TRANSITION",
      "                        reveal.js slide transition (default: slide)",
      "  -v, --verbose         Log debug output to stderr",
      "  --log-file LOG_FILE   Also write a debug log to this file" ]

/-- What is said when the arguments are refused. -/
def refusalText (l : Level) (why : Refusal) : String :=
  l.usage ++ l.name ++ ": error: " ++ why.message ++ "\n"

end Deck.Command
