import Deck.Document.Field
import Deck.Html.Escape

/-!
# Pages

A page is the shell that shows the slides, with the slides, the title and the author
put into it.  Title and author may arrive with double quotes around them, which are
taken off one by one; a quote at the end may stand before one last line break.
-/

namespace Deck.Render

/-- The settings of the shell. -/
structure Shell where
  version : String
  theme : String
  transition : String
  backgroundTransition : String
  hash : Bool
  deriving DecidableEq, Repr

/-- The settings that are used where none are given. -/
def Shell.default : Shell := ⟨"5.0.4", "white", "slide", "fade", true⟩

/-- Where the files of the slide viewer are found. -/
def Shell.source (s : Shell) : String :=
  "https://cdn.jsdelivr.net/npm/reveal.js@" ++ s.version ++ "/dist"

def defaultTitle : String := "SlideDeckML Presentation"

def defaultAuthor : String := "Unknown Author"

/-! ## Quotes of a title -/

def dropOpeningQuote (s : List Char) : List Char :=
  match s with
  | '"' :: r => r
  | _ => s

def dropClosingQuote (s : List Char) : List Char :=
  match s.reverse with
  | '"' :: r => r.reverse
  | '\n' :: '"' :: r => ('\n' :: r).reverse
  | _ => s

/-- The text without the double quote at its start and without the one at its end. -/
def stripQuotes (s : String) : String :=
  String.ofList (dropClosingQuote (dropOpeningQuote s.toList))

/-! ## The page -/

/-- A title or an author as it goes into the page. -/
def caption {α : Type} [Field α] (default : String) (a : Option α) : Except Fault String :=
  match a with
  | none => .ok (Html.escape default)
  | some a => (Field.textFor .matching a).map fun s => Html.escape (stripQuotes s)

/-- The lines of the page before the slides. -/
def pageHead (title author : String) (shell : Shell) : List String :=
  [ "<!DOCTYPE html>",
    "<html lang=\"en\">",
    "<head>",
    "    <meta charset=\"UTF-8\">",
    "    <meta name=\"viewport\" content=\"width=device-width, initial-scale=1.0\">",
    "    <meta name=\"author\" content=\"" ++ author ++ "\">",
    "    <meta name=\"title\" content=\"" ++ title ++ "\">",
    "    <title>" ++ title ++ "</title>",
    "    <link rel=\"stylesheet\" href=\"" ++ shell.source ++ "/reveal.css\">",
    "    <link rel=\"stylesheet\" href=\"" ++ shell.source ++ "/theme/" ++ shell.theme ++ ".css\">",
    "</head>",
    "<body>",
    "    <div class=\"reveal\">",
    "        <div class=\"slides\">" ]

/-- The lines of the page after the slides. -/
def pageFoot (shell : Shell) : List String :=
  [ "        </div>",
    "    </div>",
    "    <script src=\"" ++ shell.source ++ "/reveal.js\"></script>",
    "    <script>",
    "        Reveal.initialize(\x7b",
    "            hash: " ++ (if shell.hash then "true" else "false") ++ ",",
    "            transition: '" ++ shell.transition ++ "',",
    "            backgroundTransition: '" ++ shell.backgroundTransition ++ "'",
    "        \x7d);",
    "    </script>",
    "</body>",
    "</html>" ]

/-- The page with its captions in place. -/
def pageText (body title author : String) (shell : Shell) : String :=
  "\n".intercalate (pageHead title author shell ++ body :: pageFoot shell)

/-- The page that shows some slides. -/
def page {α : Type} [Field α] (body : String) (title author : Option α) (shell : Shell) :
    Except Fault String := do
  let t ← caption defaultTitle title
  let a ← caption defaultAuthor author
  pure (pageText body t a shell)

end Deck.Render
