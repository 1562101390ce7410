import Deck.Html.Escape
import Deck.Report

/-!
# The style attribute

A style block gives the attribute `style` of the element that it stands with.  A
block that is ignored gives a notice and no attribute, and a block that declares
nothing gives neither.
-/

namespace Deck.Render

/-- The attribute that holds some declarations. -/
def styleText (declarations : List String) : String :=
  " style=\"" ++ Html.escape ("; ".intercalate declarations) ++ "\""

/-- The attribute that a style block gives. -/
def styleAttribute (raw : String) : Report String :=
  match Style.read raw.toList with
  | .error reason => do
    Report.note (.styleIgnored raw reason)
    pure ""
  | .ok [] => pure ""
  | .ok (p :: ps) => do
    Report.note (.styleRead raw (Style.declarations (p :: ps)))
    pure (styleText (Style.declarations (p :: ps)))

end Deck.Render
