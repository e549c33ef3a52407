import SequenceChart.Number.Scalar

/-!
# Boxes and points

A box is given by its upper left corner and its size; heights grow downwards.  `Box.enclosing` is
the box around some boxes.
-/

set_option autoImplicit false
namespace SequenceChart

/-- A point of the picture. -/
structure Point (α : Type) where
  /-- The distance from the left. -/
  x : α
  /-- The distance from the top. -/
  y : α
  deriving DecidableEq, Repr

/-- A rectangle of the picture. -/
structure Box (α : Type) where
  /-- The left edge. -/
  x : α
  /-- The upper edge. -/
  y : α
  /-- The size across. -/
  width : α
  /-- The size downwards. -/
  height : α
  deriving DecidableEq, Repr

variable {α : Type} [Scalar α]

/-- A point moved to the right and down. -/
def Point.shift (p : Point α) (dx dy : α) : Point α where
  x := p.x + dx
  y := p.y + dy

namespace Box

/-- The right edge. -/
def right (b : Box α) : α :=
  b.x + b.width

/-- The lower edge. -/
def bottom (b : Box α) : α :=
  b.y + b.height

/-- A box moved to the right and down. -/
def shift (b : Box α) (dx dy : α) : Box α where
  x := b.x + dx
  y := b.y + dy
  width := b.width
  height := b.height

/-- The box with four given edges. -/
def ofEdges (left top right bottom : α) : Box α where
  x := left
  y := top
  width := right - left
  height := bottom - top

/-- The box around some boxes; around none it is the empty box at the origin. -/
def enclosing : List (Box α) → Box α
  | [] => ⟨0.0, 0.0, 0.0, 0.0⟩
  | b :: rest =>
    ofEdges (Scalar.least b.x (rest.map (·.x))) (Scalar.least b.y (rest.map (·.y)))
      (Scalar.greatest b.right (rest.map right)) (Scalar.greatest b.bottom (rest.map bottom))

end Box
end SequenceChart
