import SequenceChart.Layout.Placement

/-!
# Layouts

A layout is all that is drawn of a diagram, each shape in its place.  Loop frames are in order of
depth, so that a frame is painted over the frames around it; frames of one depth keep the order of
the loops.  `Layout.bounds` is the box around the whole picture.
-/

set_option autoImplicit false
namespace SequenceChart

/-- A picture of a diagram. -/
structure Layout (α : Type) where
  /-- The participants, from left to right. -/
  participants : List (ParticipantShape α)
  /-- The loop frames, the outer ones first. -/
  loops : List (LoopShape α)
  /-- The messages, from top to bottom. -/
  messages : List (MessageShape α)
  /-- The notes, from top to bottom. -/
  notes : List (NoteShape α)

namespace Layout

variable {α : Type} [Scalar α]

/-! ## The placements of each kind -/

/-- The loops of a diagram, placed or left out. -/
def placedLoops (d : Diagram) (s : Settings α) : List (Placed (LoopShape α)) :=
  d.loops.zipIdx.map fun (l, i) ↦ placeLoop d s l i

/-- The messages of a diagram, placed or left out. -/
def placedMessages (d : Diagram) (s : Settings α) : List (Placed (MessageShape α)) :=
  d.messages.zipIdx.map fun (m, i) ↦ placeMessage d s m i

/-- The notes of a diagram, placed or left out. -/
def placedNotes (d : Diagram) (s : Settings α) : List (Placed (NoteShape α)) :=
  placeNotes d s (s.messageY d.messages.length + s.noteGap) d.notes.zipIdx

/-! ## The picture and the remarks on it -/

/-- The picture of a diagram. -/
def ofDiagram (d : Diagram) (s : Settings α) : Layout α where
  participants := d.participants.zipIdx.map fun (p, i) ↦ placeParticipant s p i
  loops := ((placedLoops d s).filterMap Placed.drawn?).mergeSort fun a b ↦
    a.loop.depth ≤ b.loop.depth
  messages := (placedMessages d s).filterMap Placed.drawn?
  notes := (placedNotes d s).filterMap Placed.drawn?

/-- What the picture of a diagram leaves out: loops, then messages, then notes. -/
def remarks (d : Diagram) (s : Settings α) : List Remark :=
  (placedLoops d s).filterMap Placed.omitted? ++ (placedMessages d s).filterMap Placed.omitted? ++
    (placedNotes d s).filterMap Placed.omitted?

/-! ## Bounds -/

/-- The boxes of everything that is drawn. -/
def boxes (l : Layout α) : List (Box α) :=
  l.participants.flatMap (fun p ↦ [p.header, p.lifeline]) ++ l.loops.map (·.frame) ++
    l.notes.map (·.frame) ++ l.messages.map MessageShape.box

/-- The box around the picture. -/
def bounds (l : Layout α) : Box α :=
  Box.enclosing l.boxes

end Layout
end SequenceChart
