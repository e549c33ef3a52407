import SequenceChart.Diagram.Reading
import SequenceChart.Drawio.Sheet
import SequenceChart.Number.Decimal
import SequenceChart.Timestamp
import SequenceChart.Xml.Element

/-!
# draw.io documents

A sheet written as XML.  The picture is a tree of fixed shape: a file with one diagram, its model,
a root, and under it two cells that every document has and then the cells of the sheet.  The file
carries the time it was made, and the id of the diagram repeats it.

`drawioDocument` fails if the page has no size, and otherwise only if a value holds a character
that XML cannot hold.
-/

set_option autoImplicit false
namespace SequenceChart

open Xml (Attribute Element)

variable {α : Type} [Scalar α]

/-! ## Cells as elements -/

/-- One end of an edge. -/
def pointElement (role : String) (p : Point α) : Element :=
  .node "mxPoint" [⟨"x", Scalar.text p.x⟩, ⟨"y", Scalar.text p.y⟩, ⟨"as", role⟩] []

/-- The place of a cell. -/
def placeElement : CellPlace α → Element
  | .vertex box =>
    .node "mxGeometry" [⟨"x", Scalar.text box.x⟩, ⟨"y", Scalar.text box.y⟩,
      ⟨"width", Scalar.text box.width⟩, ⟨"height", Scalar.text box.height⟩,
      ⟨"as", "geometry"⟩] []
  | .edge source target =>
    .node "mxGeometry" [⟨"relative", "1"⟩, ⟨"as", "geometry"⟩]
      [pointElement "sourcePoint" source, pointElement "targetPoint" target]

/-- The attribute that says whether a cell is a vertex or an edge. -/
def CellPlace.kind : CellPlace α → Attribute
  | .vertex _ => ⟨"vertex", "1"⟩
  | .edge _ _ => ⟨"edge", "1"⟩

/-- A cell of the picture. -/
def cellElement (c : Cell α) : Element :=
  .node "mxCell" [⟨"id", c.id.text⟩, ⟨"value", c.value⟩, ⟨"style", c.style⟩, c.place.kind,
    ⟨"parent", CellId.layer.text⟩] [placeElement c.place]

/-- The root and the layer, which every document has. -/
def baseElements : List Element :=
  [.node "mxCell" [⟨"id", CellId.root.text⟩] [],
    .node "mxCell" [⟨"id", CellId.layer.text⟩, ⟨"parent", CellId.root.text⟩] []]

/-! ## The file -/

/-- The file with one sheet, made at a given time. -/
def fileElement (now : Timestamp) (s : Sheet α) : Element :=
  .node "mxfile" [⟨"host", "app.diagrams.net"⟩, ⟨"modified", now.text⟩,
      ⟨"agent", "Mermaid-Converter"⟩, ⟨"version", "21.0.0"⟩]
    [.node "diagram" [⟨"name", "Sequence Diagram"⟩,
        ⟨"id", "diagram_" ++ toString now.milliseconds⟩]
      [.node "mxGraphModel" [⟨"dx", "1000"⟩, ⟨"dy", "600"⟩, ⟨"grid", "1"⟩, ⟨"gridSize", "10"⟩,
          ⟨"guides", "1"⟩, ⟨"tooltips", "1"⟩, ⟨"connect", "1"⟩, ⟨"arrows", "1"⟩, ⟨"fold", "1"⟩,
          ⟨"page", "1"⟩, ⟨"pageScale", "1"⟩, ⟨"pageWidth", toString s.width⟩,
          ⟨"pageHeight", toString s.height⟩, ⟨"math", "0"⟩, ⟨"shadow", "0"⟩]
        [.node "root" [] (baseElements ++ s.cells.map cellElement)]]]

/-- The document of a picture. -/
def drawioDocument (now : Timestamp) (l : Layout α) : Except Failure String := do
  let sheet ← Sheet.ofLayout l
  let file := fileElement now sheet
  if file.isWritable then return Xml.document file else throw .xmlCharacter

/-- The document of a source text. -/
def convertToDrawio (now : Timestamp) (s : Settings α) (text : String) : Except Failure String :=
  drawioDocument now (Layout.ofDiagram (Diagram.ofText text) s)

end SequenceChart
