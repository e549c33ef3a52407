import SequenceChart.Failure
import SequenceChart.Layout.Picture

/-!
# Positions in range

The positions of a loop and its depth are integers of any size, and scalars may end somewhere.  A
diagram that is read from text counts its own lines, so its integers are small; one that is built
directly may name a position that no scalar stands for.  Such an integer is a failure where a place
is computed from it, and only there: a loop that is left out of the picture may hold any integers.

`Layout.checked` is the picture under this condition.  In exact arithmetic the condition always
holds, so there it is the picture.
-/

set_option autoImplicit false
namespace SequenceChart

variable {α : Type} [Scalar α]

/-! ## Columns and rows -/

/-- The left edge and the middle of the column at a position, and the height of the message
there. -/
def Settings.places (s : Settings α) (i : Int) : Except Failure (α × α × α) :=
  if Scalar.holds α i then .ok (s.columnX i, s.columnCenter i, s.messageY i)
  else .error .integerTooLarge

/-! ## Pictures -/

/-- Whether the integers from which the frame of a loop is computed have scalars. -/
def Loop.inRange (α : Type) [Scalar α] (l : Loop) : Bool :=
  Scalar.holds α l.depth && Scalar.holds α l.first && Scalar.holds α l.last

/-- Whether every loop of a diagram that has a frame is in range. -/
def Diagram.inRange (d : Diagram) (s : Settings α) : Bool :=
  d.loops.all fun l ↦ (loopFrame? d s l).isNone || l.inRange α

/-- The picture of a diagram, if it is in range. -/
def Layout.checked (d : Diagram) (s : Settings α) : Except Failure (Layout α) :=
  if d.inRange s then .ok (ofDiagram d s) else .error .integerTooLarge

theorem Loop.inRange_rat (l : Loop) : l.inRange Rat = true :=
  rfl

theorem Layout.checked_rat (d : Diagram) (s : Settings Rat) :
    checked d s = .ok (ofDiagram d s) := by
  simp [checked, Diagram.inRange, Loop.inRange_rat]

end SequenceChart
