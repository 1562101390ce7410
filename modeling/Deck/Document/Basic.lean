/-!
# Decks

A deck is a list of slides, a slide a list of blocks, and a block a list of lines.
A line holds one element, which may be wrapped with a style block.  A template
renders like a slide and stands in front of the others.

The types are parametrised by the type `α` of what stands in a field: strings in a
deck that someone has written, any JSON value in one that was read from a dump.
-/

namespace Deck

/-- The two sorts of lists. -/
inductive ListKind where
  | unordered
  | ordered
  deriving DecidableEq, Repr

/-- Where a media element comes from. -/
inductive MediaSource (α : Type) where
  /-- A line of text with a reference in it. -/
  | written (content : Option α)
  /-- A locator, with its alternative text. -/
  | located (url : α) (alt : Option α)
  deriving DecidableEq, Repr

/-- An element of a slide. -/
inductive Element (α : Type) where
  /-- The level is the marker in front of the heading: its length counts. -/
  | heading (level text : α)
  | paragraph (text : α)
  | quote (text : α)
  | list (kind : ListKind) (items : List α)
  | media (source : MediaSource α)
  /-- A fenced block of code. -/
  | code (content : α)
  deriving DecidableEq, Repr

/-- A line of a block. -/
inductive Line (α : Type) where
  | plain (element : Element α)
  /-- A line with a style block.  It ought to wrap a line that has none. -/
  | styled (inner : Line α) (style : Option α)
  /-- Something that is no line; `kind` names what it is. -/
  | foreign (kind : String)
  deriving DecidableEq, Repr

structure Block (α : Type) where
  lines : List (Line α)
  deriving DecidableEq, Repr

structure Slide (α : Type) where
  blocks : List (Block α)
  deriving DecidableEq, Repr

structure Metadata (α : Type) where
  title : Option α
  author : Option α
  deriving DecidableEq, Repr

structure Presentation (α : Type) where
  slides : List (Slide α)
  template : Option (Slide α)
  metadata : Option (Metadata α)
  deriving DecidableEq, Repr

variable {α β : Type}

/-! ## Changing the fields -/

def MediaSource.map (f : α → β) : MediaSource α → MediaSource β
  | .written content => .written (content.map f)
  | .located url alt => .located (f url) (alt.map f)

def Element.map (f : α → β) : Element α → Element β
  | .heading level text => .heading (f level) (f text)
  | .paragraph text => .paragraph (f text)
  | .quote text => .quote (f text)
  | .list kind items => .list kind (items.map f)
  | .media source => .media (source.map f)
  | .code content => .code (f content)

def Line.map (f : α → β) : Line α → Line β
  | .plain element => .plain (element.map f)
  | .styled inner style => .styled (inner.map f) (style.map f)
  | .foreign kind => .foreign kind

def Block.map (f : α → β) (b : Block α) : Block β := ⟨b.lines.map (Line.map f)⟩

def Slide.map (f : α → β) (s : Slide α) : Slide β := ⟨s.blocks.map (Block.map f)⟩

def Metadata.map (f : α → β) (m : Metadata α) : Metadata β := ⟨m.title.map f, m.author.map f⟩

def Presentation.map (f : α → β) (p : Presentation α) : Presentation β :=
  ⟨p.slides.map (Slide.map f), p.template.map (Slide.map f), p.metadata.map (Metadata.map f)⟩

/-- The sections of a deck in their order: the template comes first. -/
def Presentation.sections (p : Presentation α) : List (Slide α) := p.template.toList ++ p.slides

end Deck
