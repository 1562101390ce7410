import Deck.Command.Arguments
import Deck.Command.Host
import Deck.Command.Options
import Deck.Command.Path
import Deck.Command.Run
import Deck.Command.Store
import Deck.Command.Usage
import Deck.Document.Basic
import Deck.Document.Field
import Deck.Dump.Node
import Deck.Dump.Presentation
import Deck.Emphasis.Format
import Deck.Emphasis.Pass
import Deck.Fault
import Deck.Fence.Attributes
import Deck.Fence.Block
import Deck.Html.Escape
import Deck.Json.Basic
import Deck.Json.Display
import Deck.Json.Reader
import Deck.Json.Writer
import Deck.Locator.Address
import Deck.Locator.Extension
import Deck.Locator.Path
import Deck.Main
import Deck.Media.Kind
import Deck.Media.Reference
import Deck.Notice
import Deck.Number.Binary64
import Deck.Number.Layout
import Deck.Number.Shortest
import Deck.Render.Code
import Deck.Render.Line
import Deck.Render.Media
import Deck.Render.Page
import Deck.Render.Presentation
import Deck.Render.Style
import Deck.Report
import Deck.Style.Block
import Deck.Style.Pieces
import Deck.Text.Blank
import Deck.Text.LowerCase
import Deck.Text.Numeral
import Deck.Text.Position
import Deck.Text.Printable
import Deck.Text.Quoted
import Deck.Text.Quotes
import Deck.Text.Ranges
import Deck.Text.Scan
import Deck.Text.Split
import Deck.Text.Utf8
import Deck.Text.Word
import Deck.Proofs.Emphasis.Pass
import Deck.Proofs.Html.Encoding
import Deck.Proofs.Html.Escaped
import Deck.Proofs.Emphasis.MarkedUp
import Deck.Proofs.Html.Landmarks
import Deck.Proofs.Html.Markup
import Deck.Proofs.Render.Attributes
import Deck.Proofs.Render.Outline
import Deck.Proofs.Report
import Deck.Proofs.Emphasis.Nesting
import Deck.Proofs.Render.Line
import Deck.Proofs.Render.Page
import Deck.Proofs.Render.Outcome
import Deck.Proofs.Html.Unescape
import Deck.Proofs.Emphasis.Restored
import Deck.Proofs.Emphasis.Lines
import Deck.Proofs.Emphasis.Runs
import Deck.Proofs.Emphasis.Pairing
import Deck.Proofs.Emphasis.Literal
import Deck.Proofs.Locator.Authority
import Deck.Proofs.Render.Media
import Deck.Proofs.Fence.Grammar
import Deck.Proofs.Fence.Closing
import Deck.Proofs.Fence.Tokens
import Deck.Proofs.Fence.Spellings
import Deck.Proofs.Render.Code
import Deck.Proofs.Render.Numbering
import Deck.Proofs.Render.Styled
import Deck.Proofs.Style.Pieces
import Deck.Proofs.Style.Cuts
import Deck.Proofs.Style.Commas
import Deck.Proofs.Style.Written
import Deck.Proofs.Style.Accepted
import Deck.Proofs.Render.Style
import Deck.Proofs.Command.Store
import Deck.Proofs.Command.Session
import Deck.Proofs.Command.Files
import Deck.Proofs.Dump.Node
import Deck.Proofs.Dump.RoundTrip
import Deck.Proofs.Dump.Shape
import Deck.Proofs.Dump.Refusal
import Deck.Proofs.Dump.Kinds
import Deck.Proofs.Dump.Kept
import Deck.Proofs.Render.Kinds
import Deck.Proofs.Command.Exits
import Deck.Proofs.Render.Caption
import Deck.Proofs.Render.Offender
import Deck.Proofs.Render.Dropped
import Deck.Proofs.Media.Search
import Deck.Proofs.Locator.Suffix
import Deck.Proofs.Fence.FirstNumber
import Deck.Proofs.Dump.Annotated
