import SequenceChart.Diagram.Reading
import SequenceChart.Slide.Color
import SequenceChart.Slide.LineEnds
import SequenceChart.Slide.Basic

/-!
# Decks

A deck is a slide as a presentation file holds it.  Lengths are whole numbers of a very small unit,
of which an inch has 914400; what is left over is dropped.  A line is the box between its ends,
with a flip for each direction in which it runs backwards.  Shapes are numbered from two and named
by their kind and number, and their look is spelled out: fill, line and text.

The sides of a slide must be between one inch and fifty-six.  A text may hold any characters of XML;
control characters are replaced by their number first, so only the two noncharacters are refused.

## Main definitions

* `Deck`, `DeckShape` — what a presentation file holds.
* `Slide.toDeck` — a slide in a file, or the first thing that does not fit into one.
-/

set_option autoImplicit false
namespace SequenceChart

/-! ## The parts of a deck -/

/-- The outlines of shapes. -/
inductive Outline
  /-- A rectangle. -/
  | rectangle
  /-- A rectangle with round corners. -/
  | roundedRectangle
  /-- A sheet with one corner folded. -/
  | foldedCorner
  /-- A line. -/
  | line
  deriving DecidableEq, Repr

/-- How a surface or a line is filled. -/
inductive Fill
  /-- Nothing is said about it. -/
  | unsaid
  /-- It is not filled. -/
  | none
  /-- It has a colour. -/
  | solid (c : Color)
  deriving DecidableEq, Repr

/-- A line around a shape or between points. -/
structure Stroke where
  /-- The width, if it is said. -/
  width : Option Nat
  /-- The colour. -/
  fill : Fill
  /-- Whether it is dashed, if that is said. -/
  dashed : Option Bool
  /-- The marks at its ends. -/
  ends : List LinePart
  deriving DecidableEq, Repr

/-- Where a text is put in its box. -/
inductive Anchor
  /-- At the upper edge. -/
  | top
  /-- In the middle. -/
  | middle
  /-- At the lower edge. -/
  | bottom
  deriving DecidableEq, Repr

/-- A text in a box. -/
structure TextBody where
  /-- The characters. -/
  text : String
  /-- The size in hundredths of a point. -/
  size : Nat
  /-- Whether it is bold. -/
  bold : Bool
  /-- Whether its lines are in the middle rather than to the left. -/
  centered : Bool
  /-- Where it is put. -/
  anchor : Anchor
  /-- The name of its font. -/
  font : String
  /-- Its colour. -/
  color : Color
  /-- Whether a line that is too long for the box is broken. -/
  wraps : Bool
  /-- The room it keeps to the left and the right edge of the box. -/
  sideInset : Nat
  /-- The room it keeps to the upper and the lower edge of the box. -/
  endInset : Nat
  deriving DecidableEq, Repr

/-- A shape of a deck. -/
structure DeckShape where
  /-- Its number. -/
  id : Nat
  /-- Its name. -/
  name : String
  /-- Its outline. -/
  outline : Outline
  /-- The left edge. -/
  x : Int
  /-- The upper edge. -/
  y : Int
  /-- The width. -/
  width : Int
  /-- The height. -/
  height : Int
  /-- Whether it runs from right to left. -/
  flipX : Bool
  /-- Whether it runs upwards. -/
  flipY : Bool
  /-- The surface. -/
  fill : Fill
  /-- The line. -/
  stroke : Stroke
  /-- The text; lines have none. -/
  body : Option TextBody
  deriving DecidableEq, Repr

/-- A slide as a presentation file holds it. -/
structure Deck where
  /-- The width. -/
  width : Int
  /-- The height. -/
  height : Int
  /-- The shapes in painting order. -/
  shapes : List DeckShape
  deriving DecidableEq, Repr

namespace Deck

/-! ## Looks -/

/-- The width of a thin line, one point. -/
def thinLine : Nat := 12700

/-- The width of the line of a message, a little more than a point. -/
def messageLine : Nat := 15240

/-- The outline of a box. -/
def boxOutline : BoxKind → Outline
  | .header => .rectangle
  | .frame => .roundedRectangle
  | .note => .foldedCorner

/-- The surface of a box. -/
def boxFill : BoxKind → Color
  | .header => ⟨0xDA, 0xE8, 0xFC⟩
  | .frame => ⟨0xE1, 0xD5, 0xE7⟩
  | .note => ⟨0xFF, 0xF2, 0xCC⟩

/-- The line around a box. -/
def boxColor : BoxKind → Color
  | .header => ⟨0x6C, 0x8E, 0xBF⟩
  | .frame => ⟨0x96, 0x73, 0xA6⟩
  | .note => ⟨0xD6, 0xB6, 0x56⟩

/-- A text in the look that all texts of a deck share. -/
def textBody (text : String) (size : Nat) (bold centered : Bool) (anchor : Anchor) : TextBody where
  text := text
  size := size
  bold := bold
  centered := centered
  anchor := anchor
  font := "Yu Gothic UI"
  color := ⟨0x0F, 0x17, 0x2A⟩
  wraps := true
  sideInset := 45720
  endInset := 27432

/-- The text of a box. -/
def boxBody (kind : BoxKind) (text : String) : TextBody :=
  match kind with
  | .header => textBody text 1000 true true .middle
  | .frame => textBody text 850 true false .top
  | .note => textBody text 950 false true .middle

/-- The text of a label. -/
def labelBody (text : String) : TextBody :=
  textBody text 880 false true .bottom

/-- The mark at the end of an arrow. -/
def endMark : Arrow → String
  | .solid | .solidOpen => "triangle"
  | .lost => LinePart.noMark
  | .dashed | .dashedOpen | .async => "arrow"

/-- The colour of messages. -/
def messageColor : Color := ⟨0x33, 0x41, 0x55⟩

/-- The look of a line. -/
def lineStroke : LineKind → Stroke
  | .lifeline => ⟨some thinLine, .solid ⟨0x66, 0x66, 0x66⟩, some true, []⟩
  | .arrow a =>
    ⟨some messageLine, .solid messageColor, some a.isDashed,
      LinePart.setEnds LinePart.noMark (endMark a) []⟩
  | .cross => ⟨some messageLine, .solid messageColor, some false, []⟩

/-! ## Texts -/

/-- A character as it is stored: a control character other than tab and line feed is replaced by its
number. -/
def storedChar (c : Char) : List Char :=
  if c.toNat < 0x20 && c != '\t' && c != '\n' then
    '_' :: 'x' :: upperHexDigits 4 c.toNat ++ ['_']
  else [c]

/-- A text as it is stored. -/
def storedText (s : String) : Except Failure String :=
  let stored := String.ofList (s.toList.flatMap storedChar)
  if isXmlText stored then .ok stored else .error .xmlCharacter

end Deck

/-! ## From inches to a file -/

variable {α : Type} [Scalar α]

/-- A length in inches in the unit of a file. -/
def emu (length : α) : Except Failure Int :=
  match Scalar.truncate (length * 914400.0) with
  | .ok n => .ok n
  | .error cause => .error (.notFinite cause)

/-- A side of a slide. -/
def slideSide (length : α) : Except Failure Int := do
  let n ← emu length
  if n < leastSlideSide ∨ greatestSlideSide < n then throw (.slideSize n)
  return n

/-- The name of a shape with a given number. -/
def shapeName (kind : String) (id : Nat) : String :=
  kind ++ " " ++ toString (id - 1)

/-- What a box or a line is called. -/
def Outline.kindName : Outline → String
  | .rectangle => "Rectangle"
  | .roundedRectangle => "Rounded Rectangle"
  | .foldedCorner => "Folded Corner"
  | .line => "Connector"

/-- An item in a file, with the number it is given. -/
def SlideItem.toShape (id : Nat) : SlideItem α → Except Failure DeckShape
  | .box kind place text => do
    let x ← emu place.x
    let y ← emu place.y
    let width ← emu place.width
    let height ← emu place.height
    let stored ← Deck.storedText text
    let outline := Deck.boxOutline kind
    return ⟨id, shapeName outline.kindName id, outline, x, y, width, height, false, false,
      .solid (Deck.boxFill kind),
      ⟨some Deck.thinLine, .solid (Deck.boxColor kind), none, []⟩, Deck.boxBody kind stored⟩
  | .line kind start stop => do
    let x ← emu start.x
    let y ← emu start.y
    let x' ← emu stop.x
    let y' ← emu stop.y
    return ⟨id, shapeName Outline.line.kindName id, .line, min x x', min y y', (x' - x).natAbs,
      (y' - y).natAbs, x' < x, y' < y, .unsaid, Deck.lineStroke kind, none⟩
  | .label place text => do
    let x ← emu place.x
    let y ← emu place.y
    let width ← emu place.width
    let height ← emu place.height
    let stored ← Deck.storedText text
    return ⟨id, shapeName "TextBox" id, .rectangle, x, y, width, height, false, false, .none,
      ⟨none, .none, none, []⟩, Deck.labelBody stored⟩

/-- A slide in a file.  Shapes are numbered from two. -/
def Slide.toDeck (s : Slide α) : Except Failure Deck := do
  let width ← slideSide s.width
  let height ← slideSide s.height
  let shapes ← (s.items.zipIdx 2).mapM fun (item, id) ↦ item.toShape id
  return ⟨width, height, shapes⟩

/-- The deck of a picture. -/
def deckOfLayout (l : Layout α) : Except Failure Deck :=
  (Slide.ofLayout l).toDeck

/-- The deck of a source text. -/
def convertToDeck (s : Settings α) (text : String) : Except Failure Deck :=
  deckOfLayout (Layout.ofDiagram (Diagram.ofText text) s)

end SequenceChart
