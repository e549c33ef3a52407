import SequenceChart.Layout.Box
import SequenceChart.Layout.Settings
import SequenceChart.Remark

/-!
# Placing the parts of a diagram

Every part of a diagram is given its place or is left out with a remark.  `Placed` says which, so
the shapes of a picture and the remarks on it are two readings of one list, and nothing can be
missing from both.

* A participant is always placed: a header, and below it a lifeline.
* A message is placed if both of its ends are declared, in the row of its position: a message that
  is left out leaves its row empty.
* A loop is placed if one of its messages is: the frame reaches from the first of its rows to the
  last, and across the columns its messages touch.  Frames are drawn in by one step for each loop
  around them, but never turned inside out.
* A note is placed if it has targets and all are declared.  Notes are stacked below the messages,
  and one that is left out takes no room.
-/

set_option autoImplicit false
namespace SequenceChart

/-! ## What is placed and what is left out -/

/-- A shape, or the remark that there is none. -/
abbrev Placed (σ : Type) := Except Remark σ

namespace Placed

variable {σ : Type}

/-- The shape. -/
def drawn? : Placed σ → Option σ
  | .ok shape => some shape
  | .error _ => none

/-- The remark. -/
def omitted? : Placed σ → Option Remark
  | .ok _ => none
  | .error remark => some remark

end Placed

/-! ## Shapes -/

/-- A participant in its place. -/
structure ParticipantShape (α : Type) where
  /-- Its position among the participants. -/
  index : Nat
  /-- The participant. -/
  participant : Participant
  /-- The box with its label. -/
  header : Box α
  /-- The line below, as a narrow box. -/
  lifeline : Box α

/-- A message in its place. -/
structure MessageShape (α : Type) where
  /-- Its position among the messages. -/
  index : Nat
  /-- The message. -/
  message : Message
  /-- Where the arrow begins. -/
  source : Point α
  /-- Where the arrow ends. -/
  target : Point α

/-- A loop in its place. -/
structure LoopShape (α : Type) where
  /-- Its position among the loops. -/
  index : Nat
  /-- The loop. -/
  loop : Loop
  /-- The box around its messages. -/
  frame : Box α

/-- A note in its place. -/
structure NoteShape (α : Type) where
  /-- Its position among the notes. -/
  index : Nat
  /-- The note. -/
  note : Note
  /-- The box with its text. -/
  frame : Box α

variable {α : Type} [Scalar α]

/-! ## Participants -/

/-- The place of the participant in column `i`. -/
def placeParticipant (s : Settings α) (p : Participant) (i : Nat) : ParticipantShape α :=
  let header : Box α := ⟨s.columnX i, s.headerY, s.headerWidth, s.headerHeight⟩
  { index := i
    participant := p
    header := header
    lifeline := ⟨s.columnCenter i - s.lifelineWidth / 2.0, header.bottom + s.lifelineGap,
      s.lifelineWidth, s.lifelineHeight⟩ }

/-! ## Messages -/

/-- The columns between which a message goes, if both of its ends are declared. -/
def Diagram.ends? (d : Diagram) (m : Message) : Option (Nat × Nat) := do
  return (← d.column? m.sender, ← d.column? m.receiver)

/-- The place of the message in row `i`. -/
def placeMessage (d : Diagram) (s : Settings α) (m : Message) (i : Nat) :
    Placed (MessageShape α) :=
  match d.ends? m with
  | none => .error (.messageOmitted i m)
  | some (sender, receiver) =>
    .ok ⟨i, m, ⟨s.columnCenter sender, s.messageY i⟩, ⟨s.columnCenter receiver, s.messageY i⟩⟩

/-- The box without height that a message takes up. -/
def MessageShape.box (m : MessageShape α) : Box α where
  x := Scalar.lesser m.source.x m.target.x
  y := m.source.y
  width := Scalar.distance m.source.x m.target.x
  height := 0.0

/-! ## Loops -/

/-- The middles of the columns that the messages of a loop touch. -/
def loopCenters (d : Diagram) (s : Settings α) (l : Loop) : List α :=
  (l.members.filterMap d.ends?).flatMap fun (sender, receiver) ↦
    [s.columnCenter sender, s.columnCenter receiver]

/-- The frame around the columns from `left` to `right` and around the rows of a loop.  Its right
and lower edges keep a distance from the left and upper ones, however deep the loop is. -/
def frameAround (s : Settings α) (l : Loop) (left right : α) : Box α :=
  let inset := (l.depth : α) * s.nestInset
  let x := left - s.endpointMargin - s.loopPadX + inset
  let y := s.messageY l.first - s.loopPadTop + inset
  Box.ofEdges x y
    (Scalar.greater (right + s.endpointMargin + s.loopPadX - inset) (x + s.nestInset))
    (Scalar.greater (s.messageY l.last + s.loopPadBottom - inset) (y + s.nestInset))

/-- The frame of a loop, if it has a message to be drawn. -/
def loopFrame? (d : Diagram) (s : Settings α) (l : Loop) : Option (Box α) :=
  if l.isEmpty then none
  else match loopCenters d s l with
    | [] => none
    | c :: rest => some (frameAround s l (Scalar.least c rest) (Scalar.greatest c rest))

/-- The place of the loop at position `i`. -/
def placeLoop (d : Diagram) (s : Settings α) (l : Loop) (i : Nat) : Placed (LoopShape α) :=
  match loopFrame? d s l with
  | none => .error (.loopOmitted i l.label)
  | some frame => .ok ⟨i, l, frame⟩

/-! ## Notes -/

/-- The left edge and the width of a note, if it has targets and all are declared.  A note over
participants reaches across all of their headers; one at a side belongs to its first target. -/
def noteExtent? (d : Diagram) (s : Settings α) (n : Note) : Option (α × α) :=
  match n.targets.mapM d.column? with
  | none | some [] => none
  | some (c :: rest) =>
    match n.place with
    | .across =>
      let low := rest.foldl min c
      let high := rest.foldl max c
      some (s.columnX low, (((high : Int) - low : Int) : α) * s.spacing + s.headerWidth)
    | .rightOf => some (s.columnX c + s.sideNoteOffset, s.sideNoteWidth)
    | .leftOf =>
      some (s.columnX c + s.headerWidth - s.sideNoteOffset - s.sideNoteWidth, s.sideNoteWidth)

/-- The places of notes, the first of them at height `y`. -/
def placeNotes (d : Diagram) (s : Settings α) (y : α) :
    List (Note × Nat) → List (Placed (NoteShape α))
  | [] => []
  | (n, i) :: rest =>
    match noteExtent? d s n with
    | none => .error (.noteOmitted i n) :: placeNotes d s y rest
    | some (x, width) =>
      .ok ⟨i, n, ⟨x, y, width, s.noteHeight⟩⟩ :: placeNotes d s (y + s.noteStep) rest

end SequenceChart
