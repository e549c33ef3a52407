import SequenceChart.Number.Scalar

/-!
# Layout settings

The measures of a picture, in pixels.  Columns and rows are evenly spaced, so three of the measures
give the place of every column and every message: `columnX`, `columnCenter` and `messageY` below.
-/

set_option autoImplicit false
namespace SequenceChart

/-- The measures of a picture. -/
structure Settings (α : Type) where
  /-- The left edge of the first header. -/
  baseX : α
  /-- The top of the headers. -/
  headerY : α
  /-- The distance between columns. -/
  spacing : α
  /-- The width of a header. -/
  headerWidth : α
  /-- The height of a header. -/
  headerHeight : α
  /-- The gap between a header and its lifeline. -/
  lifelineGap : α
  /-- The width of a lifeline. -/
  lifelineWidth : α
  /-- The length of a lifeline. -/
  lifelineHeight : α
  /-- The height of the first message. -/
  messageTop : α
  /-- The distance between messages. -/
  messageStep : α
  /-- The room a loop frame leaves beside the ends of its messages. -/
  endpointMargin : α
  /-- The further room at the sides of a loop frame. -/
  loopPadX : α
  /-- The room above the first message of a loop. -/
  loopPadTop : α
  /-- The room below the last message of a loop. -/
  loopPadBottom : α
  /-- How far the frame of a loop is drawn in for each loop around it. -/
  nestInset : α
  /-- The gap above the first note. -/
  noteGap : α
  /-- The distance between notes. -/
  noteStep : α
  /-- The height of a note. -/
  noteHeight : α
  /-- How far a note beside a participant is moved. -/
  sideNoteOffset : α
  /-- The width of a note beside a participant. -/
  sideNoteWidth : α

namespace Settings

variable {α : Type} [Scalar α]

/-- The measures that are used where no others are asked for. -/
def standard : Settings α where
  baseX := 80.0
  headerY := 20.0
  spacing := 180.0
  headerWidth := 100.0
  headerHeight := 50.0
  lifelineGap := 10.0
  lifelineWidth := 2.0
  lifelineHeight := 300.0
  messageTop := 110.0
  messageStep := 60.0
  endpointMargin := 20.0
  loopPadX := 20.0
  loopPadTop := 30.0
  loopPadBottom := 70.0
  nestInset := 10.0
  noteGap := 20.0
  noteStep := 60.0
  noteHeight := 40.0
  sideNoteOffset := 110.0
  sideNoteWidth := 150.0

/-- The left edge of a column. -/
def columnX (s : Settings α) (i : Int) : α :=
  s.baseX + (i : α) * s.spacing

/-- The middle of a column. -/
def columnCenter (s : Settings α) (i : Int) : α :=
  s.columnX i + s.headerWidth / 2.0

/-- The height of a message. -/
def messageY (s : Settings α) (i : Int) : α :=
  s.messageTop + (i : α) * s.messageStep

end Settings
end SequenceChart
