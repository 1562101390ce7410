import Deck.Document.Basic
import Deck.Json.Display
import Deck.Style.Block

/-!
# Notices

While a deck is read and rendered, notices tell what was found and what had to be
dropped.  A notice is given by its cause; its severity, the part of the program it
comes from, and its wording are functions of the cause.
-/

namespace Deck

/-- How much a notice matters. -/
inductive Severity where
  | debug
  | info
  | warning
  deriving DecidableEq, Repr

def Severity.name : Severity → String
  | .debug => "DEBUG"
  | .info => "INFO"
  | .warning => "WARNING"

/-- A notice as it goes into a log. -/
structure Record where
  severity : Severity
  origin : String
  text : String
  deriving DecidableEq, Repr

/-- What there is to tell. -/
inductive Notice where
  /-- A style block is ignored. -/
  | styleIgnored (raw : String) (reason : Style.Rejection)
  /-- A style block declares something. -/
  | styleRead (raw : String) (declarations : List String)
  /-- The first line of a code block has a number that is no numeral. -/
  | badFenceStart (value : String)
  /-- An attribute of a code block says nothing. -/
  | unknownFenceAttribute (source : String)
  /-- A code block is no fenced block; `opening` is how it starts. -/
  | badFence (opening : String)
  /-- A media line holds no reference. -/
  | badMedia (content : String)
  /-- A media line holds a reference. -/
  | mediaRead (alt url : String) (video : Bool)
  /-- A line is none. -/
  | foreignLine (kind : String)
  /-- A deck was rendered. -/
  | sectionsRendered (count : Nat) (template : Bool)
  /-- A node of a dump is of no known type. -/
  | unknownNode (type : Json)
  /-- A styled node of a dump wraps one of no known type. -/
  | unknownStyledNode (type : Json)
  /-- A deck was read from a dump. -/
  | deckLoaded (slides : Nat) (template : Bool) (metadata : Option (Metadata Json))
  deriving DecidableEq

namespace Notice

open Text Json

def severity : Notice → Severity
  | .styleIgnored _ _ | .badFenceStart _ | .badFence _ | .badMedia _ | .foreignLine _
  | .unknownNode _ | .unknownStyledNode _ => .warning
  | .styleRead _ _ | .unknownFenceAttribute _ | .mediaRead _ _ _ | .sectionsRendered _ _
  | .deckLoaded _ _ _ => .debug

def origin : Notice → String
  | .styleIgnored _ _ | .styleRead _ _ => "slidedeckml.style"
  | .badFenceStart _ | .unknownFenceAttribute _ | .badFence _ => "slidedeckml.code_fence"
  | .badMedia _ | .mediaRead _ _ _ => "slidedeckml.media"
  | .foreignLine _ => "slidedeckml.elements"
  | .sectionsRendered _ _ => "slidedeckml.assembler"
  | .unknownNode _ | .unknownStyledNode _ | .deckLoaded _ _ _ => "slidedeckml.loader"

/-- Title and author as they are shown in a notice. -/
def metadataText : Option (Metadata Json) → String
  | none => display .null
  | some m =>
    "Metadata(title=" ++ display (m.title.getD .null) ++ ", author="
      ++ display (m.author.getD .null) ++ ")"

def text : Notice → String
  | .styleIgnored raw .unbraced =>
    "Ignoring style block without enclosing braces: " ++ quoted raw
  | .styleIgnored raw .nestedBraces => "Ignoring style block with nested braces: " ++ quoted raw
  | .styleIgnored raw (.malformedPair piece) =>
    "Ignoring malformed style pair " ++ quoted (String.ofList piece) ++ " in " ++ quoted raw
  | .styleRead raw declarations =>
    "Style block " ++ quoted raw ++ " -> " ++ quotedList declarations
  | .badFenceStart value => "Ignoring non-integer code fence start: " ++ quoted value
  | .unknownFenceAttribute source => "Ignoring unknown code fence attribute: " ++ source
  | .badFence opening => "Skipping malformed code block: " ++ quoted opening
  | .badMedia content => "Skipping malformed media line: " ++ quoted content
  | .mediaRead alt url video =>
    "Media alt=" ++ quoted alt ++ " url=" ++ quoted url ++ " video=" ++ boolText video
  | .foreignLine kind => "Dropping unrecognised line type: " ++ kind
  | .sectionsRendered count template =>
    "Rendered " ++ toString count ++ " section(s) (template=" ++ boolText template ++ ")"
  | .unknownNode type => "Dropping line of unknown type " ++ display type
  | .unknownStyledNode type => "Dropping styled line of unknown type " ++ display type
  | .deckLoaded slides template metadata =>
    "Loaded presentation: " ++ toString slides ++ " slide(s), template=" ++ boolText template
      ++ ", metadata=" ++ metadataText metadata

def record (n : Notice) : Record := ⟨n.severity, n.origin, n.text⟩

end Notice

end Deck
