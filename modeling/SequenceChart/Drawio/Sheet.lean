import SequenceChart.Failure
import SequenceChart.Layout.Picture

/-!
# Sheets

A draw.io document shows one page.  A sheet is that page before it is written: its size and its
cells in painting order, each with an id, a value, a style and a place.  Shapes that lie left of or
above the origin are moved onto the page together with all others, as far as the margin.

## Main definitions

* `CellId` — what a cell stands for; different things have different ids.
* `pageOffset`, `pageSize` — how far the picture is moved, and how large the page is.
* `Sheet.ofLayout` — the page of a picture.
-/

set_option autoImplicit false
namespace SequenceChart

/-! ## Ids -/

/-- What a cell stands for.  A part of the diagram is named by its position in its list. -/
inductive CellId
  /-- The root of all cells. -/
  | root
  /-- The layer that holds the picture. -/
  | layer
  /-- The header of a participant. -/
  | participant (i : Nat)
  /-- The lifeline of a participant. -/
  | lifeline (i : Nat)
  /-- The frame of a loop. -/
  | loop (i : Nat)
  /-- The arrow of a message. -/
  | message (i : Nat)
  /-- The box of a note. -/
  | note (i : Nat)
  deriving DecidableEq, Repr

/-- How the id of a cell is written. -/
def CellId.text : CellId → String
  | root => "0"
  | layer => "1"
  | participant i => "p" ++ toString i
  | lifeline i => "p" ++ toString i ++ "_lifeline"
  | loop i => "loop" ++ toString i
  | message i => "msg" ++ toString i
  | note i => "note" ++ toString i

/-! ## Cells -/

/-- The place of a cell. -/
inductive CellPlace (α : Type)
  /-- A box. -/
  | vertex (box : Box α)
  /-- A line from one point to another. -/
  | edge (source target : Point α)

/-- A cell of the picture. -/
structure Cell (α : Type) where
  /-- What it stands for. -/
  id : CellId
  /-- The text in it. -/
  value : String
  /-- How it looks. -/
  style : String
  /-- Where it is. -/
  place : CellPlace α

/-- A page of a document. -/
structure Sheet (α : Type) where
  /-- The width of the page. -/
  width : Int
  /-- The height of the page. -/
  height : Int
  /-- The cells of the picture in painting order. -/
  cells : List (Cell α)

/-! ## Styles -/

/-- The look of a header. -/
def participantStyle : String :=
  "rounded=0;whiteSpace=wrap;html=1;fillColor=#dae8fc;strokeColor=#6c8ebf;fontStyle=1;"

/-- The look of a lifeline. -/
def lifelineStyle : String :=
  "html=1;points=[];perimeter=orthogonalPerimeter;outlineConnect=0;targetShapes=umlLifeline;" ++
    "portConstraint=eastwest;newEdgeStyle=\x7b\"curved\":0,\"rounded\":0\x7d;" ++
    "dashed=1;dashPattern=8 8;strokeWidth=1;strokeColor=#666666;"

/-- The look of a loop frame. -/
def loopStyle : String :=
  "rounded=1;whiteSpace=wrap;html=1;fillColor=#e1d5e7;strokeColor=#9673a6;fontStyle=1;" ++
    "verticalAlign=top;align=left;spacingLeft=6;"

/-- The look of a note. -/
def noteStyle : String :=
  "rounded=1;whiteSpace=wrap;html=1;fillColor=#fff2cc;strokeColor=#d6b656;fontStyle=0;"

/-- The look of an arrow. -/
def arrowStyle (a : Arrow) : String :=
  "html=1;verticalAlign=bottom;endArrow=" ++
    match a with
    | .solid | .solidOpen => "block;curved=0;rounded=0;"
    | .dashed | .dashedOpen => "open;curved=0;rounded=0;dashed=1;"
    | .lost => "cross;curved=0;rounded=0;"
    | .async => "open;curved=0;rounded=0;"

/-! ## The page -/

variable {α : Type} [Scalar α]

/-- The room around a picture. -/
def pageMargin : α := 40.0

/-- How far one coordinate is moved: to the margin if the picture begins before the origin. -/
def offsetFrom (start : α) : α :=
  if start < 0.0 then pageMargin - start else 0.0

/-- How far a picture is moved to the right and down. -/
def pageOffset (l : Layout α) : α × α :=
  (offsetFrom l.bounds.x, offsetFrom l.bounds.y)

/-- One side of a page: room for the picture and the margin behind it, and no less than `least`. -/
def pageSide (least : Int) (stop offset : α) : Except Failure Int :=
  match Scalar.truncate (stop + offset + pageMargin) with
  | .ok n => .ok (max least n)
  | .error cause => .error (.notFinite cause)

/-- The width and height of the page for a picture. -/
def pageSize (l : Layout α) : Except Failure (Int × Int) := do
  let (dx, dy) := pageOffset l
  let width ← pageSide 800 l.bounds.right dx
  let height ← pageSide 400 l.bounds.bottom dy
  return (width, height)

/-! ## The cells -/

/-- The two cells of a participant. -/
def participantCells (dx dy : α) (p : ParticipantShape α) : List (Cell α) :=
  [⟨.participant p.index, p.participant.label, participantStyle, .vertex (p.header.shift dx dy)⟩,
    ⟨.lifeline p.index, "", lifelineStyle, .vertex (p.lifeline.shift dx dy)⟩]

/-- The cell of a loop. -/
def loopCell (dx dy : α) (l : LoopShape α) : Cell α :=
  ⟨.loop l.index, l.loop.label, loopStyle, .vertex (l.frame.shift dx dy)⟩

/-- The cell of a message. -/
def messageCell (dx dy : α) (m : MessageShape α) : Cell α :=
  ⟨.message m.index, m.message.text, arrowStyle m.message.arrow,
    .edge (m.source.shift dx dy) (m.target.shift dx dy)⟩

/-- The cell of a note. -/
def noteCell (dx dy : α) (n : NoteShape α) : Cell α :=
  ⟨.note n.index, n.note.text, noteStyle, .vertex (n.frame.shift dx dy)⟩

/-- The cells of a picture moved by an offset: frames lie behind the messages they are around. -/
def Layout.cells (l : Layout α) (dx dy : α) : List (Cell α) :=
  l.participants.flatMap (participantCells dx dy) ++ l.loops.map (loopCell dx dy) ++
    l.messages.map (messageCell dx dy) ++ l.notes.map (noteCell dx dy)

/-- The page of a picture. -/
def Sheet.ofLayout (l : Layout α) : Except Failure (Sheet α) := do
  let (width, height) ← pageSize l
  let (dx, dy) := pageOffset l
  return ⟨width, height, l.cells dx dy⟩

end SequenceChart
