import Deck.Fence.Attributes
import Deck.Fence.Block
import Deck.Html.Escape
import Deck.Report

/-!
# Code blocks

The code of a fenced block is escaped and otherwise left as it is.  What the block
says about its language and its lines goes into attributes of the element.
-/

namespace Deck.Render

open Fence

/-- The notice that an attribute calls for. -/
def attributeNotice : Meaning → Option Notice
  | .badStart v => some (.badFenceStart (String.ofList v))
  | .unknown source => some (.unknownFenceAttribute (String.ofList source))
  | .lines _ | .start _ => none

/-- What a numbering adds to the element.  A first number without lines to highlight asks for
numbers in front of all lines. -/
def numberingDirectives (n : LineNumbering) : List String :=
  (match n.lines with
    | some range => ["data-line-numbers=\"" ++ Html.escape (String.ofList range) ++ "\""]
    | none => if n.start.isSome then ["data-line-numbers"] else [])
  ++ (match n.start with
    | some numeral => ["data-ln-start-from=\"" ++ String.ofList numeral ++ "\""]
    | none => [])

/-- What the attributes of a block add to the element. -/
def lineDirectives (attributes : String) : Report (List String) := do
  let as := scan attributes.toList
  Report.noteAll (as.filterMap fun a => attributeNotice a.meaning)
  pure (numberingDirectives (LineNumbering.ofAttributes as))

/-- The attribute that names a language. -/
def languageDirectives (language : Option (List Char)) : List String :=
  language.toList.map fun l => "class=\"language-" ++ String.ofList l ++ "\""

/-- The element that holds the code. -/
def codeMarkup (style : String) (directives : List String) (code : List Char) : String :=
  "<pre" ++ style ++ "><code " ++ " ".intercalate ("data-trim" :: "data-noescape" :: directives)
    ++ ">" ++ Html.escape (String.ofList code) ++ "</code></pre>"

/-- A fenced block.  A text that is none is dropped. -/
def codeBlock (style raw : String) : Report String :=
  match Fence.read? raw.toList with
  | none => do
    Report.note (.badFence (String.ofList (raw.toList.take shownLength)))
    pure ""
  | some b => do
    let directives ← lineDirectives (String.ofList (b.attributes.getD []))
    pure (codeMarkup style (languageDirectives b.language ++ directives) b.code)

end Deck.Render
