import Deck.Dump.Node
import Deck.Report
import Deck.Text.Blank
import Deck.Text.Quotes
import Deck.Text.Utf8

/-!
# Reading a deck from a dump

A node tells its type in the field `$type`; several names may stand for one type.
Nodes of unknown types are dropped with a notice, and a field that is needed and
missing is a fault.  The lines of a block come from two fields, `lines` and `media`.

The parts are read in this order: the slides, the template, the metadata; within a
block both lists are gone through before the first line is read.
-/

namespace Deck.Dump

open Json Text

/-- The types of nodes that stand for an element. -/
inductive NodeType where
  | heading
  | paragraph
  | quote
  | list (kind : ListKind)
  | media
  | code
  deriving DecidableEq, Repr

/-- The names of the types. -/
def NodeType.names : List (String × NodeType) :=
  [("Heading", .heading), ("Header", .heading), ("LineHeading", .heading),
    ("Paragraph", .paragraph), ("LineParagraph", .paragraph),
    ("PointedList", .list .unordered), ("UnorderedList", .list .unordered),
    ("OrderedList", .list .ordered), ("Quote", .quote),
    ("Media", .media), ("ImageBlock", .media), ("VideoBlock", .media), ("CodeBlock", .code)]

def NodeType.ofName? (name : String) : Option NodeType := NodeType.names.lookup name

/-- The type of a node that wraps another one with a style block. -/
def styledType : Json := .str "StyledElement"

/-- An item of a list is its text, or a node that holds it. -/
def listItem (v : Json) : Except Fault Json :=
  match v with
  | .str _ => .ok v
  | _ => require v "text"

/-- A locator without the blanks and the quotes around it. -/
def locator (v : Json) : Except Fault Json :=
  match v with
  | .str s => .ok (.str (String.ofList (unquote (trim s.toList))))
  | v => .error (.wrongKind .trimming v.kind)

/-- A media element.  A locator counts before a raw line. -/
def mediaSource (node : Json) : Except Fault (MediaSource Json) := do
  match toOption (← get node "url") with
  | some url =>
    let url ← locator url
    let alt ← get node "alt"
    pure (.located url (toOption alt))
  | none =>
    let content ← require node "content"
    pure (.written (some content))

/-- The element of a node of known type. -/
def elementOfType (node : Json) : NodeType → Except Fault (Element Json)
  | .heading => do
    let level ← require node "level"
    let text ← require node "text"
    pure (.heading level text)
  | .paragraph => do
    let text ← require node "text"
    pure (.paragraph text)
  | .quote => do
    let text ← require node "text"
    pure (.quote text)
  | .list kind => do
    let values ← require node "items"
    let values ← items values
    let texts ← values.mapM listItem
    pure (.list kind texts)
  | .media => do
    let source ← mediaSource node
    pure (.media source)
  | .code => do
    let content ← require node "content"
    pure (.code content)

/-- The element of a node, and nothing for a node of unknown type. -/
def element (node : Json) : Except Fault (Option (Element Json)) := do
  match ← get node "$type" with
  | .str name =>
    match NodeType.ofName? name with
    | some type =>
      let e ← elementOfType node type
      pure (some e)
    | none => pure none
  | .arr _ => .error (.wrongKind .hashing .arr)
  | .obj _ => .error (.wrongKind .hashing .obj)
  | _ => pure none

/-- The line of a node that wraps another one. -/
def styledLine (node : Json) : Report (Option (Line Json)) := do
  let inner ← Report.ofExcept (require node "element")
  let type ← Report.ofExcept (get inner "$type")
  if type = styledType then Report.fail .nestedStyleNode
  else
    match ← Report.ofExcept (element inner) with
    | none => do
      Report.note (.unknownStyledNode type)
      pure none
    | some e => do
      let style ← Report.ofExcept (get node "style")
      pure (some (.styled (.plain e) (some (if style.isGiven then style else .str ""))))

/-- The line of a node, and nothing for a node that is dropped. -/
def line (node : Json) : Report (Option (Line Json)) := do
  let type ← Report.ofExcept (get node "$type")
  if type = styledType then styledLine node
  else
    match ← Report.ofExcept (element node) with
    | none => do
      Report.note (.unknownNode type)
      pure none
    | some e => pure (some (.plain e))

/-- What the field of a node holds; a field that does not count as given holds nothing. -/
def children (node : Json) (name : String) : Except Fault (List Json) := do
  let v ← get node name
  itemsIfGiven v

/-- The block of a node: its lines and then its media. -/
def block (node : Json) : Report (Block Json) := do
  let lines ← Report.ofExcept (children node "lines")
  let media ← Report.ofExcept (children node "media")
  let found ← Report.each line (lines ++ media)
  pure ⟨found.filterMap id⟩

/-- The slide of a node. -/
def slide (node : Json) : Report (Slide Json) := do
  let nodes ← Report.ofExcept (children node "blocks")
  let blocks ← Report.each block nodes
  pure ⟨blocks⟩

/-- The template, if one is given. -/
def template (v : Json) : Report (Option (Slide Json)) :=
  if v.isGiven then do
    let s ← slide v
    pure (some s)
  else pure none

/-- The metadata, if any are given. -/
def metadata (v : Json) : Except Fault (Option (Metadata Json)) :=
  if v.isGiven then do
    let title ← get v "title"
    let author ← get v "author"
    pure (some ⟨toOption title, toOption author⟩)
  else .ok none

/-- The node that holds the slides: a dump may wrap it in the field `presentation`. -/
def root (fields : List (String × Json)) : Json :=
  match lookup "presentation" fields, lookup "slides" fields with
  | some inner, none => inner
  | _, _ => .obj fields

/-- The deck that a dump holds. -/
def presentation (dump : Json) : Report (Presentation Json) :=
  match dump with
  | .obj fields => do
    let node := root fields
    let nodes ← Report.ofExcept (require node "slides" >>= items)
    let slides ← Report.each slide nodes
    let templateNode ← Report.ofExcept (get node "template")
    let template ← template templateNode
    let metadata ← Report.ofExcept (get node "metadata" >>= metadata)
    Report.note (.deckLoaded slides.length template.isSome metadata)
    pure ⟨slides, template, metadata⟩
  | v => Report.fail (.notObject v.kind)

/-! ## Files -/

/-- The value that the bytes of a file stand for. -/
def ofBytes (bytes : List UInt8) : Except Fault Json :=
  match Utf8.decode bytes with
  | .error e => .error (.undecodable e)
  | .ok text =>
    match Json.read (Utf8.unifyBreaks text) with
    | .error e => .error (.malformed e)
    | .ok v => .ok v

/-- The deck in a file. -/
def load (bytes : List UInt8) : Report (Presentation Json) := do
  let dump ← Report.ofExcept (ofBytes bytes)
  presentation dump

end Deck.Dump
