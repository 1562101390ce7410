import Deck.Emphasis.Pass
import Deck.Html.Escape

/-!
# Formatting a text

A text is escaped first, so that every angle bracket that a pass meets belongs to
a tag that an earlier one has put in.  Then four passes look for emphasis:

* two asterisks delimit bold text, two underscores underlined text;
* one asterisk or one underscore delimits italic text.

The double delimiters come first, so that two marks are never read as two single
ones.  A delimiter without a partner stays as it was typed.
-/

namespace Deck.Emphasis

def bold : Pass := ⟨'*', 2, "strong", false⟩

def underline : Pass := ⟨'_', 2, "u", true⟩

def starItalic : Pass := ⟨'*', 1, "em", true⟩

def barItalic : Pass := ⟨'_', 1, "em", true⟩

/-- The passes in their order. -/
def passes : List Pass := [bold, underline, starItalic, barItalic]

/-- The passes over a text that has been escaped. -/
def emphasise (s : List Char) : List Char := passes.foldl (fun t p => p.apply t) s

/-- The characters of a text, escaped and with their emphasis marked up. -/
def formatChars (s : List Char) : List Char := emphasise (Html.escapeChars s)

/-- A text, escaped and with its emphasis marked up. -/
def format (s : String) : String := String.ofList (formatChars s.toList)

theorem mem_entity_of_mark {x c : Char} (hx : x = '*' ∨ x = '_') (h : x ∈ Html.entity c) :
    c = x := by
  unfold Html.entity at h
  split at h
  case h_6 => exact (List.mem_singleton.mp h).symm
  all_goals rcases hx with rfl | rfl <;> simp at h

end Deck.Emphasis
