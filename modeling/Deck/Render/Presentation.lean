import Deck.Render.Line
import Deck.Render.Page

/-!
# Slides and decks

Every slide becomes a section.  The sections stand one after the other, the template
first, and the page goes around them.
-/

namespace Deck.Render

variable {α : Type} [Field α]

/-- The indentation of a section. -/
def sectionIndent : String := "        "

def sectionMarkup (content : String) : String :=
  sectionIndent ++ "<section>\n" ++ content ++ "\n" ++ sectionIndent ++ "</section>"

/-- A slide. -/
def slide (s : Slide α) : Report String := do
  let bs ← Report.each block s.blocks
  pure (sectionMarkup ("\n".intercalate bs))

/-- The page of a deck. -/
def presentation (p : Presentation α) (shell : Shell) : Report String := do
  let ss ← Report.each slide p.sections
  Report.note (.sectionsRendered ss.length p.template.isSome)
  Report.ofExcept
    (page ("\n".intercalate ss) (p.metadata.bind (·.title)) (p.metadata.bind (·.author)) shell)

end Deck.Render
