import Deck.Locator.Extension

/-!
# Pictures and videos

What a locator refers to is told by its extension alone.
-/

namespace Deck.Media

/-- The extensions of videos. -/
def videoExtensions : List String := [".mp4", ".webm", ".ogg", ".mov"]

/-- Whether an extension belongs to a video. -/
def isVideoExtension (ext : List Char) : Bool := videoExtensions.contains (String.ofList ext)

/-- The name of a video's format in its media type. -/
def videoFormat (ext : List Char) : String :=
  if ext = ".webm".toList then "webm"
  else if ext = ".ogg".toList then "ogg"
  else if ext = ".mov".toList then "quicktime"
  else "mp4"

/-- Whether a locator refers to a video. -/
def isVideo (url : List Char) : Except Locator.Fault Bool :=
  (Locator.extension url).map isVideoExtension

end Deck.Media
