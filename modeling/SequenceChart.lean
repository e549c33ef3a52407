import SequenceChart.Text.Word
import SequenceChart.Text.Digit
import SequenceChart.Text.Printable
import SequenceChart.Text.Hex
import SequenceChart.Text.Lines
import SequenceChart.Text.Quoted
import SequenceChart.Text.Utf8
import SequenceChart.Diagram.Basic
import SequenceChart.Diagram.Reading
import SequenceChart.Layout.Box
import SequenceChart.Layout.Picture
import SequenceChart.Layout.Range
import SequenceChart.Number.Decimal
import SequenceChart.Number.Literal
import SequenceChart.Drawio.Document
import SequenceChart.Slide.Color
import SequenceChart.Slide.Deck
import SequenceChart.Command.Arguments
import SequenceChart.Command.Converter
import SequenceChart.Main
import SequenceChart.Proofs.Loops.Matching
import SequenceChart.Proofs.Loops.Rebuilding
import SequenceChart.Proofs.Diagram.Canonical
import SequenceChart.Proofs.Diagram.Appending
import SequenceChart.Proofs.Diagram.Spacing
import SequenceChart.Proofs.Diagram.Strings
import SequenceChart.Proofs.Diagram.KeywordLines
import SequenceChart.Proofs.Diagram.Surface
import SequenceChart.Proofs.Diagram.LineNumbers
import SequenceChart.Proofs.Diagram.Streams
import SequenceChart.Proofs.Layout.Drawn
import SequenceChart.Proofs.Layout.Renaming
import SequenceChart.Proofs.Layout.Growing
import SequenceChart.Proofs.Xml.Tags
import SequenceChart.Proofs.Xml.Texts
import SequenceChart.Proofs.Drawio.Writable
import SequenceChart.Proofs.Xml.Reading
import SequenceChart.Proofs.Xml.Values
import SequenceChart.Proofs.Drawio.Reading
import SequenceChart.Proofs.Layout.Exact
import SequenceChart.Proofs.Layout.Frames
import SequenceChart.Proofs.Layout.Reach
import SequenceChart.Proofs.Layout.Nested
import SequenceChart.Proofs.Layout.Positions
import SequenceChart.Proofs.Drawio.Ids
import SequenceChart.Proofs.Drawio.Accounting
import SequenceChart.Proofs.Layout.Bounds
import SequenceChart.Proofs.Layout.Corners
import SequenceChart.Proofs.Layout.Columns
import SequenceChart.Proofs.Layout.Extent
import SequenceChart.Proofs.Layout.Spans
import SequenceChart.Proofs.Layout.Stacking
import SequenceChart.Proofs.Layout.Arrows
import SequenceChart.Proofs.Layout.Shifting
import SequenceChart.Proofs.Drawio.Page
import SequenceChart.Proofs.Slide.Figures
import SequenceChart.Proofs.Slide.Storing
import SequenceChart.Proofs.Slide.Limits
import SequenceChart.Proofs.Slide.Area
import SequenceChart.Proofs.Slide.Origin
import SequenceChart.Proofs.Slide.LineEnds
import SequenceChart.Proofs.Command.Sources
import SequenceChart.Proofs.Drawio.Sizes
import SequenceChart.Proofs.Number.Decimal
