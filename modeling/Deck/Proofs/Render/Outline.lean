import Deck.Render.Presentation

/-!
# The outline of a deck

The outline is what a deck says of the layout of its page, and it is computed from the
tree alone: the sections in order, and in each one the landmarks of its lines.  A
heading shows as deep as its marker is long, a list shows with its items, and a media
line as the picture or the video that its locator refers to.  A line that is dropped
shows as nothing.
-/

namespace Deck.Render

open Text

/-- What a locator refers to. -/
def locatorOutline (url : String) : List String :=
  match Locator.extension url.toList with
  | .ok ext => [if Media.isVideoExtension ext then "video" else "img"]
  | .error _ => []

def mediaOutline : MediaSource String → List String
  | .written content =>
    match Media.Reference.find? (content.getD "").toList with
    | some f => locatorOutline (trimmed (String.ofList f.url))
    | none => []
  | .located url _ => locatorOutline (trimmed url)

def elementOutline : Element String → List String
  | .heading level _ => ["h" ++ toString (trim level.toList).length]
  | .paragraph _ => ["p"]
  | .quote _ => ["blockquote"]
  | .list .unordered items => "ul" :: items.map fun _ => "li"
  | .list .ordered items => "ol" :: items.map fun _ => "li"
  | .media source => mediaOutline source
  | .code content => if (Fence.read? content.toList).isSome then ["pre"] else []

/-- A style block changes nothing of the outline. -/
def lineOutline : Line String → List String
  | .plain e => elementOutline e
  | .styled inner _ => lineOutline inner
  | .foreign _ => []

def blockOutline (b : Block String) : List String := b.lines.flatMap lineOutline

def slideOutline (s : Slide String) : List String := s.blocks.flatMap blockOutline

/-- The landmarks of a deck: its sections, the template first, with what stands in them. -/
def outline (p : Presentation String) : List String :=
  p.sections.flatMap fun s => "section" :: (slideOutline s ++ ["/section"])

end Deck.Render
