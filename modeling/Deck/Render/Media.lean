import Deck.Html.Escape
import Deck.Media.Kind
import Deck.Media.Reference
import Deck.Report
import Deck.Text.Blank

/-!
# Pictures and videos

A picture is one tag; a video encloses its source and the alternative text.  The
locator is trimmed first.  One that is refused is a fault, and of a raw line it has
to be accepted as it stands, too.
-/

namespace Deck.Render

open Text

/-- The indentation of a line. -/
def lineIndent : String := "            "

/-- The indentation of what a line encloses. -/
def innerIndent : String := "                "

/-- The tag for a locator with the extension `ext`. -/
def mediaMarkup (style : String) (ext : List Char) (url alt : String) : String :=
  if Media.isVideoExtension ext then
    lineIndent ++ "<video controls" ++ style ++ ">\n"
      ++ innerIndent ++ "<source src=\"" ++ Html.escape url ++ "\" type=\"video/"
      ++ Media.videoFormat ext ++ "\">\n"
      ++ innerIndent ++ Html.escape alt ++ "\n"
      ++ lineIndent ++ "</video>"
  else
    lineIndent ++ "<img src=\"" ++ Html.escape url ++ "\" alt=\"" ++ Html.escape alt ++ "\""
      ++ style ++ ">"

/-- The extension of a locator. -/
def mediaExtension (url : String) : Except Fault (List Char) :=
  match Locator.extension url.toList with
  | .ok ext => .ok ext
  | .error e => .error (.locator e)

/-- The tag for a locator and an alternative text. -/
def mediaTag (style url alt : String) : Except Fault String := do
  let ext ← mediaExtension (trimmed url)
  pure (mediaMarkup style ext (trimmed url) alt)

/-- The tag for a line with a reference in it.  A line without one is dropped. -/
def writtenMedia (style content : String) : Report String :=
  match Media.Reference.find? content.toList with
  | none => do
    Report.note (.badMedia content)
    pure ""
  | some f => do
    let url := String.ofList f.url
    let alt := String.ofList f.alt
    let ext ← Report.ofExcept (mediaExtension url)
    Report.note (.mediaRead alt url (Media.isVideoExtension ext))
    Report.ofExcept (mediaTag style url alt)

end Deck.Render
