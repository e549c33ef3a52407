import SequenceChart.Layout.Picture

/-!
# Slides

The picture on a slide, in inches.  A slide has the size of the picture and a margin around it, and
no less than a usual slide; the picture is moved so that it begins at the margins.  What is drawn
is a list of items in painting order: boxes with text, lines, and the labels of messages.

An item says what it is; how that looks is left to the deck.
-/

set_option autoImplicit false
namespace SequenceChart

/-! ## Items -/

/-- The kinds of boxes. -/
inductive BoxKind
  /-- The header of a participant. -/
  | header
  /-- The frame of a loop. -/
  | frame
  /-- A note. -/
  | note
  deriving DecidableEq, Repr

/-- The kinds of lines. -/
inductive LineKind
  /-- The lifeline of a participant. -/
  | lifeline
  /-- The arrow of a message. -/
  | arrow (a : Arrow)
  /-- A stroke of the cross at the end of a message that is lost. -/
  | cross
  deriving DecidableEq, Repr

/-- What is drawn on a slide. -/
inductive SlideItem (α : Type)
  /-- A box with text. -/
  | box (kind : BoxKind) (place : Box α) (text : String)
  /-- A line. -/
  | line (kind : LineKind) (start stop : Point α)
  /-- The label of a message. -/
  | label (place : Box α) (text : String)

/-- A slide, in inches. -/
structure Slide (α : Type) where
  /-- The width. -/
  width : α
  /-- The height. -/
  height : α
  /-- What is drawn, in painting order. -/
  items : List (SlideItem α)

variable {α : Type} [Scalar α]

/-! ## Inches -/

/-- A length in inches. -/
def inches (pixels : α) : α :=
  pixels / 96.0

/-- The room around a picture. -/
def slideMargin : α := 0.30

/-- The size of a slide and how far the picture is moved on it. -/
structure SlideGeometry (α : Type) where
  /-- The width. -/
  width : α
  /-- The height. -/
  height : α
  /-- How far the picture is moved to the right. -/
  dx : α
  /-- How far it is moved down. -/
  dy : α

/-- The size of the slide for a picture. -/
def slideGeometry (l : Layout α) : SlideGeometry α where
  width := Scalar.greater 10.0 (inches l.bounds.width + slideMargin * 2.0)
  height := Scalar.greater 5.625 (inches l.bounds.height + slideMargin * 2.0)
  dx := slideMargin - inches l.bounds.x
  dy := slideMargin - inches l.bounds.y

/-- The place of a point on the slide. -/
def Point.onSlide (p : Point α) (dx dy : α) : Point α where
  x := inches p.x + dx
  y := inches p.y + dy

/-- The place of a box on the slide; no box is thinner than a twentieth of an inch. -/
def Box.onSlide (b : Box α) (dx dy : α) : Box α where
  x := inches b.x + dx
  y := inches b.y + dy
  width := Scalar.greater 0.05 (inches b.width)
  height := Scalar.greater 0.05 (inches b.height)

/-! ## What is drawn -/

/-- A participant: its header and the middle of its lifeline. -/
def participantItems (dx dy : α) (p : ParticipantShape α) : List (SlideItem α) :=
  let x := p.lifeline.x + p.lifeline.width / 2.0
  [.box .header (p.header.onSlide dx dy) p.participant.label,
    .line .lifeline (Point.onSlide ⟨x, p.lifeline.y⟩ dx dy)
      (Point.onSlide ⟨x, p.lifeline.bottom⟩ dx dy)]

/-- The frame of a loop. -/
def loopItem (dx dy : α) (l : LoopShape α) : SlideItem α :=
  .box .frame (l.frame.onSlide dx dy) l.loop.label

/-- Half the size of the cross at the end of a message that is lost. -/
def crossSize : α := 0.06

/-- The cross around a point. -/
def crossItems (p : Point α) : List (SlideItem α) :=
  [.line .cross ⟨p.x - crossSize, p.y - crossSize⟩ ⟨p.x + crossSize, p.y + crossSize⟩,
    .line .cross ⟨p.x - crossSize, p.y + crossSize⟩ ⟨p.x + crossSize, p.y - crossSize⟩]

/-- The place of a label above an arrow: as wide as the arrow, and never narrow. -/
def labelPlace (start stop : Point α) : Box α where
  x := Scalar.lesser start.x stop.x
  y := start.y - 0.26
  width := Scalar.greater 0.8 (Scalar.distance start.x stop.x)
  height := 0.24

/-- A message: the arrow, the cross if the message is lost, and the label if there is a text. -/
def messageItems (dx dy : α) (m : MessageShape α) : List (SlideItem α) :=
  let start := m.source.onSlide dx dy
  let stop := m.target.onSlide dx dy
  .line (.arrow m.message.arrow) start stop ::
    (if m.message.arrow = .lost then crossItems stop else []) ++
    (if m.message.text.isEmpty then [] else [.label (labelPlace start stop) m.message.text])

/-- A note. -/
def noteItem (dx dy : α) (n : NoteShape α) : SlideItem α :=
  .box .note (n.frame.onSlide dx dy) n.note.text

/-- The items of a picture that is moved by an offset: frames lie behind the messages. -/
def Layout.slideItems (l : Layout α) (dx dy : α) : List (SlideItem α) :=
  l.participants.flatMap (participantItems dx dy) ++ l.loops.map (loopItem dx dy) ++
    l.messages.flatMap (messageItems dx dy) ++ l.notes.map (noteItem dx dy)

/-- The slide of a picture. -/
def Slide.ofLayout (l : Layout α) : Slide α :=
  let g := slideGeometry l
  ⟨g.width, g.height, l.slideItems g.dx g.dy⟩

end SequenceChart
