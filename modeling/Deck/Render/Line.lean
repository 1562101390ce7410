import Deck.Document.Field
import Deck.Emphasis.Format
import Deck.Render.Code
import Deck.Render.Media
import Deck.Render.Style

/-!
# Lines

Each element of a line has a rendering of its own, into which the style of the line
goes.  A line that is dropped is rendered as the empty text and keeps its place in
its block.

The style of a line is read before its element.  Within an element the fields are
read in the order in which they stand in the type, but the locator of a media
element is accepted before its alternative text is read.
-/

namespace Deck.Render

open Text

variable {α : Type} [Field α]

/-- An element with its text between tags. -/
def tagged (tag style content : String) : String :=
  "<" ++ tag ++ style ++ ">" ++ content ++ "</" ++ tag ++ ">"

/-- Text in which emphasis counts. -/
def formatted (a : α) : Except Fault String := do
  let s ← Field.textFor .escaping a
  pure (Emphasis.format s)

/-- The tag of a heading: the length of its marker is the level. -/
def headingTag (marker : String) : String := "h" ++ toString (trim marker.toList).length

/-- The tag of a list. -/
def listTag : ListKind → String
  | .unordered => "ul"
  | .ordered => "ol"

/-- The lines of a list. -/
def listMarkup (tag style : String) (items : List String) : String :=
  "\n".intercalate
    ((lineIndent ++ "<" ++ tag ++ style ++ ">")
      :: items.map (fun s => innerIndent ++ tagged "li" "" s)
      ++ [lineIndent ++ "</" ++ tag ++ ">"])

/-- The alternative text of a media element that has none. -/
def defaultAlt : String := "Image"

/-- A media element. -/
def mediaElement (style : String) : MediaSource α → Report String
  | .written content => do
    let s ← Report.ofExcept (Field.givenOr .matching "" content)
    writtenMedia style s
  | .located url alt => Report.ofExcept do
    let url ← Field.textFor .trimming url
    let ext ← mediaExtension (trimmed url)
    let alt ← Field.givenOr .escaping defaultAlt alt
    pure (mediaMarkup style ext (trimmed url) alt)

/-- An element with a style attribute. -/
def element (style : String) : Element α → Report String
  | .heading level text => Report.ofExcept do
    let marker ← Field.textFor .trimming level
    let s ← formatted text
    pure (lineIndent ++ tagged (headingTag marker) style s)
  | .paragraph text => Report.ofExcept do
    let s ← formatted text
    pure (lineIndent ++ tagged "p" style s)
  | .quote text => Report.ofExcept do
    let s ← formatted text
    pure (lineIndent ++ tagged "blockquote" style s)
  | .list kind items => Report.ofExcept do
    let items ← items.mapM formatted
    pure (listMarkup (listTag kind) style items)
  | .media source => mediaElement style source
  | .code content => do
    let raw ← Report.ofExcept (Field.textFor .matching content)
    let markup ← codeBlock style raw
    pure (if markup = "" then "" else lineIndent ++ markup)

/-- A line without a style block, given the style attribute. -/
def unstyledLine (style : String) : Line α → Report String
  | .plain e => element style e
  | .foreign kind => do
    Report.note (.foreignLine kind)
    pure ""
  | .styled _ _ => Report.fail .nestedStyle

/-- The attribute that the style block of a line gives. -/
def lineStyle (style : Option α) : Report String := do
  let raw ← Report.ofExcept (Field.givenOr .trimming "" style)
  styleAttribute raw

/-- A line. -/
def line : Line α → Report String
  | .styled (.styled _ _) _ => Report.fail .nestedStyle
  | .styled inner style => do
    let s ← lineStyle style
    unstyledLine s inner
  | l => unstyledLine "" l

/-- The lines of a block, each in its place. -/
def block (b : Block α) : Report String := do
  let ls ← Report.each line b.lines
  pure ("\n".intercalate ls)

end Deck.Render
