import SequenceChart.Proofs.Drawio.Writable
import SequenceChart.Proofs.Layout.Rewording
import SequenceChart.Proofs.Xml.Values

/-!
# Reading a document back

A document is read back as the file that was built, each cell with the text it was given, as soon as
XML can hold the texts that are shown.  That is `read_document` for this file: its names are names,
and the values it may be refused for are the texts in the cells.

The texts are confined to their values.  Diagrams of one shape, that is with the same names and with
any labels and texts, have pictures with the same shapes in the same places (`ofDiagram_reword`), so
their files have the same tags up to the values of the cells, and their documents agree outside
these values.

## Main definitions

* `Diagram.textOf` — the text that a cell is for.
* `Diagram.shape` — a diagram without its labels and texts.

## Main statements

* `read_drawioDocument` — a document is read back as it was built, and its texts stay in their
  values.
-/

set_option autoImplicit false
namespace SequenceChart

open Xml (Attribute Element Tag SameButValues)

/-! ## The texts of a diagram -/

/-- The label or text of the part of a diagram that a cell stands for.  A lifeline has the empty
text; the root and the layer have none. -/
def Diagram.textOf (d : Diagram) : CellId → Option String
  | .root | .layer => none
  | .participant i => d.participants[i]?.map (·.label)
  | .lifeline i => d.participants[i]?.map fun _ ↦ ""
  | .loop i => d.loops[i]?.map (·.label)
  | .message i => d.messages[i]?.map (·.text)
  | .note i => d.notes[i]?.map (·.text)

/-- A diagram with the empty text in place of each label and text. -/
def Diagram.shape (d : Diagram) : Diagram :=
  d.reword id fun _ ↦ ""

section

variable {α : Type} [Scalar α] {d : Diagram} {s : Settings α}

/-- A cell has the text of what it stands for. -/
theorem textOf_of_mem_cells {dx dy : α} {c : Cell α}
    (hc : c ∈ (Layout.ofDiagram d s).cells dx dy) : d.textOf c.id = some c.value := by
  rw [Layout.cells, List.mem_append, List.mem_append, List.mem_append] at hc
  rcases hc with ((hc | hc) | hc) | hc
  · obtain ⟨p, hp, hc⟩ := List.mem_flatMap.1 hc
    have hpart := Layout.getElem?_of_mem_participants d s hp
    rcases List.mem_pair.1 hc with rfl | rfl
    · exact congrArg (Option.map _) hpart
    · exact congrArg (Option.map _) hpart
  · obtain ⟨l, hl, rfl⟩ := List.mem_map.1 hc
    exact congrArg (Option.map _) (Layout.getElem?_of_mem_loops d s hl)
  · obtain ⟨m, hm, rfl⟩ := List.mem_map.1 hc
    exact congrArg (Option.map _) (Layout.getElem?_of_mem_messages d s hm)
  · obtain ⟨n, hn, rfl⟩ := List.mem_map.1 hc
    exact congrArg (Option.map _) (Layout.getElem?_of_mem_notes d s hn)

/-! ## The names in a file -/

theorem isNamed_placeElement (place : CellPlace α) : (placeElement place).isNamed = true := by
  cases place <;> simp +decide [placeElement, pointElement, Element.isNamed_node]

theorem isNamed_cellElement (c : Cell α) : (cellElement c).isNamed = true := by
  obtain ⟨id, value, style, place⟩ := c
  cases place <;>
    simp +decide [cellElement, Element.isNamed_node, CellPlace.kind, isNamed_placeElement]

theorem isNamed_fileElement (now : Timestamp) (sheet : Sheet α) :
    (fileElement now sheet).isNamed = true := by
  simp +decide [fileElement, baseElements, Element.isNamed_node, isNamed_cellElement]

/-! ## Pages without texts -/

/-- A cell with the empty text. -/
def Cell.blank (c : Cell α) : Cell α :=
  { c with value := "" }

/-- A page with the empty text in each cell. -/
def Sheet.blank (sheet : Sheet α) : Sheet α :=
  { sheet with cells := sheet.cells.map Cell.blank }

theorem blankTags_cellElement (depth : Nat) (c : Cell α) :
    (cellElement c).blankTags depth = (cellElement c.blank).blankTags depth :=
  Element.blankTags_node (by simp [Attribute.blank, Cell.blank]) rfl

/-- The page without texts has the same tags up to values. -/
theorem blankTags_fileElement (now : Timestamp) (sheet : Sheet α) :
    (fileElement now sheet).blankTags 0 = (fileElement now sheet.blank).blankTags 0 := by
  refine Element.blankTags_node rfl (congrArg (fun t ↦ [t]) ?_)
  refine Element.blankTags_node rfl (congrArg (fun t ↦ [t]) ?_)
  refine Element.blankTags_node rfl (congrArg (fun t ↦ [t]) ?_)
  refine Element.blankTags_node rfl ?_
  rw [List.map_append, List.map_append, Sheet.blank, List.map_map, List.map_map, List.map_map]
  exact congrArg (baseElements.map (Element.blankTags 4) ++ ·)
    (List.map_congr_left fun c _ ↦ blankTags_cellElement 4 c)

/-- New words change nothing on the page but the texts in the cells. -/
theorem Layout.blank_cells_reword (name text : String → String) (l : Layout α) (dx dy : α) :
    ((l.reword name text).cells dx dy).map Cell.blank = (l.cells dx dy).map Cell.blank := by
  simp only [cells, reword, List.map_append, List.flatMap_map, List.map_flatMap, List.map_map]
  rfl

theorem Sheet.blank_ofLayout_reword (name text : String → String) (l : Layout α) :
    (ofLayout (l.reword name text)).map blank = (ofLayout l).map blank := by
  rw [ofLayout_eq, pageSize_reword, pageOffset_reword, ofLayout_eq]
  cases pageSize l with
  | error failure => rfl
  | ok size =>
    exact congrArg (fun cells ↦ (.ok ⟨size.1, size.2, cells⟩ : Except Failure (Sheet α)))
      (Layout.blank_cells_reword name text l _ _)

/-- Diagrams of one shape have pages that are the same but for the texts in the cells. -/
theorem Sheet.exists_of_shape_eq {d' : Diagram} (hshape : d'.shape = d.shape) {sheet : Sheet α}
    (hsheet : ofLayout (Layout.ofDiagram d s) = .ok sheet) :
    ∃ sheet', ofLayout (Layout.ofDiagram d' s) = .ok sheet' ∧ sheet'.blank = sheet.blank := by
  have hblank : ∀ e : Diagram, (ofLayout (Layout.ofDiagram e.shape s)).map blank =
      (ofLayout (Layout.ofDiagram e s)).map blank := by
    intro e
    rw [Diagram.shape, Layout.ofDiagram_reword Function.injective_id]
    exact blank_ofLayout_reword id _ _
  have hsame := hblank d'
  rw [hshape, hblank d, hsheet] at hsame
  cases hsheet' : ofLayout (Layout.ofDiagram d' s) with
  | error failure =>
    rw [hsheet'] at hsame
    cases hsame
  | ok sheet' =>
    rw [hsheet'] at hsame
    exact ⟨sheet', rfl, (Except.ok.inj hsame).symm⟩

/-! ## Reading back -/

end

/-- **A document is read back as it was built**, if the picture has a page and XML can hold what the
diagram shows.  The tags and attributes are those of the file, and each cell has the label or text
it is for, character for character.  No label or text reaches beyond its value: another diagram of
the same shape has a document that differs inside of values only.  What is read from a source can
always be held. -/
theorem read_drawioDocument {α : Type} [Scalar α] (now : Timestamp) (s : Settings α) :
    (∀ (d : Diagram) (sheet : Sheet α), d.IsWritable →
      Sheet.ofLayout (Layout.ofDiagram d s) = .ok sheet →
      ∃ document, drawioDocument now (Layout.ofDiagram d s) = .ok document ∧
        Xml.read document = some (fileElement now sheet) ∧
        (∀ c ∈ sheet.cells, d.textOf c.id = some c.value) ∧
        ∀ d' : Diagram, d'.shape = d.shape → d'.IsWritable →
          ∃ document', drawioDocument now (Layout.ofDiagram d' s) = .ok document' ∧
            SameButValues document.toList document'.toList) ∧
    ∀ text, (Diagram.ofText text).IsWritable := by
  refine ⟨fun d sheet hd hsheet ↦ ?_, Diagram.isWritable_ofText⟩
  have hwritable : (fileElement now sheet).isWritable = true := by
    rw [isWritable_fileElement_eq now hsheet, hd.all_cells hsheet]
  refine ⟨_, drawioDocument_eq_ok now hd hsheet,
    Xml.read_document (isNamed_fileElement now sheet) hwritable, fun c hc ↦ ?_,
    fun d' hshape hd' ↦ ?_⟩
  · rw [Sheet.cells_eq hsheet] at hc
    exact textOf_of_mem_cells hc
  · obtain ⟨sheet', hsheet', hblank⟩ := Sheet.exists_of_shape_eq hshape hsheet
    refine ⟨_, drawioDocument_eq_ok now hd' hsheet', ?_⟩
    refine Xml.sameButValues_document (isNamed_fileElement now sheet) ?_
    rw [blankTags_fileElement, ← hblank, ← blankTags_fileElement]

/-- A diagram whose labels and texts look like parts of a document. -/
def Diagram.markup : Diagram where
  participants := [⟨"a", "</mxCell>&amp;\t\r\n"⟩, ⟨"b", ""⟩]
  messages := [⟨"a", "b", "\" style=\"", .solid⟩]
  notes := [⟨.across, ["b", "a"], "<!-- ]]> -->"⟩]
  loops := [⟨"<mxCell id=\"0\"/>", [⟨"a", "b", "\" style=\"", .solid⟩], 0, 0, 0⟩]

theorem read_drawioDocument_markup :
    Diagram.markup.IsWritable ∧
      ∃ sheet document,
        Sheet.ofLayout (Layout.ofDiagram Diagram.markup (Settings.standard : Settings Rat)) =
          .ok sheet ∧
        drawioDocument (Timestamp.ofMicroseconds 0)
          (Layout.ofDiagram Diagram.markup (Settings.standard : Settings Rat)) = .ok document ∧
        Xml.read document = some (fileElement (Timestamp.ofMicroseconds 0) sheet) := by
  have hstrings : Diagram.markup.strings.all isXmlText = true := by decide +kernel
  have hwritable : Diagram.markup.IsWritable :=
    fun t h ↦ List.all_eq_true.1 hstrings t h.mem_strings
  obtain ⟨sheet, hsheet⟩ := Sheet.exists_ofLayout_eq_ok
    (Layout.ofDiagram Diagram.markup (Settings.standard : Settings Rat))
  obtain ⟨document, hdocument, hread, -⟩ :=
    (read_drawioDocument (Timestamp.ofMicroseconds 0) Settings.standard).1 Diagram.markup sheet
      hwritable hsheet
  exact ⟨hwritable, sheet, document, hsheet, hdocument, hread⟩

end SequenceChart
