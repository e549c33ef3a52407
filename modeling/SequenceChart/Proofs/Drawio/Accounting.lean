import SequenceChart.Proofs.Drawio.Ids

/-!
# Every part is in the picture or in the log

A part of a diagram has a cell in the file or an entry in the log, and never both.  The cells are in
the order of painting, participants first, and the log is in the order in which the parts are
placed.  Both lists can be read off the diagram, whether it comes from a source or is built in some
other way, with names declared twice or loops that do not fit its messages.

A message with an end that is not declared leaves its row empty.  So when a message loses an end,
its cell goes, and with it the frame of a loop that has no other message to be drawn around; all
other cells keep their ids.

## Main definitions

* `Element.edgeIds` — the ids of the edges in a file.
* `Diagram.IsShownBy` — that the cells of a file are those of a diagram.
* `Diagram.omissions` — the log of what is not drawn.
* `Diagram.LosesMessage` — that a message of a diagram has lost an end.
* `Diagram.lostCells` — the cells that go with it.

## Main statements

* `isShownBy_fileElement` — the cells of a file.
* `map_entry_remarks` — the log of a picture.
* `Diagram.LosesMessage.ids_eq` — the ids without the message.
* `shown_or_logged` — all of this for every diagram.
-/

set_option autoImplicit false
namespace SequenceChart

open Xml (Attribute Element valueOf?)

/-! ## Edges -/

/-- The ids of the cells that are edges. -/
def Xml.Element.edgeIds (file : Element) : List (Option String) :=
  ((file.attributesOf "mxCell").filter fun attributes ↦
    valueOf? "edge" attributes == some "1").map (valueOf? "id")

section

variable {α : Type}

/-- Whether a cell is a line from one point to another. -/
def Cell.isEdge (c : Cell α) : Bool :=
  match c.place with
  | .vertex _ => false
  | .edge _ _ => true

theorem isEdge_iff_valueOf? (c : Cell α) :
    (valueOf? "edge" c.attributes == some "1") = c.isEdge := by
  obtain ⟨id, value, style, place⟩ := c
  cases place <;> rfl

variable [Scalar α]

theorem edgeIds_fileElement (now : Timestamp) (sheet : Sheet α) :
    (fileElement now sheet).edgeIds =
      (sheet.cells.filter Cell.isEdge).map fun c ↦ some c.id.text := by
  have hedges : ((fun attributes ↦ valueOf? "edge" attributes == some "1") ∘ Cell.attributes) =
      (Cell.isEdge : Cell α → Bool) :=
    funext isEdge_iff_valueOf?
  rw [Element.edgeIds, attributesOf_fileElement, List.filter_cons_of_neg (by decide),
    List.filter_cons_of_neg (by decide), List.filter_map, hedges, List.map_map]
  rfl

/-- The edges of a picture are the arrows of its messages. -/
theorem Layout.filter_isEdge_cells (l : Layout α) (dx dy : α) :
    (l.cells dx dy).filter Cell.isEdge = l.messages.map (messageCell dx dy) := by
  have hparticipants : (l.participants.flatMap (participantCells dx dy)).filter Cell.isEdge =
      [] := by
    rw [List.filter_flatMap, List.flatMap_eq_nil_iff]
    exact fun p _ ↦ rfl
  simp [cells, hparticipants, List.filter_map, Function.comp_def, loopCell, messageCell, noteCell,
    Cell.isEdge]

end

/-! ## What the file shows -/

/-- The cells of a file are those of a diagram: the two that every file has, and then the cells of
the parts that are drawn, each kind by itself. -/
structure Diagram.IsShownBy (d : Diagram) (file : Element) : Prop where
  /-- The ids of all cells, in order.  Loops are in order of their depth, and for one depth in the
  order of the diagram. -/
  ids : ∃ order : List Nat, order.Perm (d.loops.findIdxs d.drawsLoop) ∧
    order.Pairwise (PaintsBefore (d.loops.map (·.depth))) ∧
    file.cellValues "id" =
      (["0", "1"] ++
        (List.range d.participants.length).flatMap (fun i ↦
          ["p" ++ toString i, "p" ++ toString i ++ "_lifeline"]) ++
        order.map (fun i ↦ "loop" ++ toString i) ++
        (d.messages.findIdxs d.drawsMessage).map (fun i ↦ "msg" ++ toString i) ++
        (d.notes.findIdxs d.drawsNote).map (fun i ↦ "note" ++ toString i)).map some
  /-- The edges are the cells of the messages. -/
  edges : file.edgeIds =
    (d.messages.findIdxs d.drawsMessage).map fun i ↦ some ("msg" ++ toString i)
  /-- Each message that is not drawn lowers the number of edges by one. -/
  length_edges : file.edgeIds.length + d.messages.countP (fun m ↦ !d.drawsMessage m) =
    d.messages.length

section

variable {α : Type} [Scalar α] {d d' : Diagram} {s : Settings α} {sheet sheet' : Sheet α}

/-- **The ids in the file of a diagram.** -/
theorem Sheet.ids_ofDiagram (hsheet : ofLayout (Layout.ofDiagram d s) = .ok sheet) :
    sheet.ids = cellIds (List.range d.participants.length)
      ((Layout.ofDiagram d s).loops.map (·.index)) (d.messages.findIdxs d.drawsMessage)
      (d.notes.findIdxs d.drawsNote) := by
  rw [ids_eq hsheet, Layout.index_participants, Layout.index_messages, Layout.index_notes]

theorem edgeIds_ofDiagram (now : Timestamp)
    (hsheet : Sheet.ofLayout (Layout.ofDiagram d s) = .ok sheet) :
    (fileElement now sheet).edgeIds =
      (d.messages.findIdxs d.drawsMessage).map fun i ↦ some ("msg" ++ toString i) := by
  rw [edgeIds_fileElement, Sheet.cells_eq hsheet, Layout.filter_isEdge_cells,
    ← Layout.index_messages d s, List.map_map, List.map_map]
  rfl

theorem isShownBy_fileElement (now : Timestamp)
    (hsheet : Sheet.ofLayout (Layout.ofDiagram d s) = .ok sheet) :
    d.IsShownBy (fileElement now sheet) where
  ids := by
    refine ⟨_, Layout.perm_index_loops d s, Layout.pairwise_index_loops d s, ?_⟩
    rw [cellValues_id_fileElement, Sheet.ids_ofDiagram hsheet]
    simp only [cellIds, List.map_append, List.map_flatMap, List.map_cons, List.map_map,
      List.cons_append, List.nil_append]
    rfl
  edges := edgeIds_ofDiagram now hsheet
  length_edges := by
    rw [edgeIds_ofDiagram now hsheet, List.length_map, List.length_findIdxs,
      List.length_eq_countP_add_countP d.drawsMessage]
    simp

/-! ## What the log says -/

/-- The log of what is not drawn: loops, then messages, then notes, with their positions. -/
def Diagram.omissions (d : Diagram) : List LogEntry :=
  ((d.loops.zipIdx.filter fun p ↦ !d.drawsLoop p.1).map fun p ↦
    ⟨.debug, "sequence_layout", "loop " ++ toString p.2 ++ " (" ++ quoted p.1.label ++
      ") has no drawable messages, skipped"⟩) ++
  ((d.messages.zipIdx.filter fun p ↦ !d.drawsMessage p.1).map fun p ↦
    ⟨.warning, "sequence_layout", "message " ++ toString p.2 ++ " (" ++ p.1.sender ++
      p.1.arrow.token ++ p.1.receiver ++ ") references an undeclared participant, skipped"⟩) ++
  (d.notes.zipIdx.filter fun p ↦ !d.drawsNote p.1).map fun p ↦
    ⟨.warning, "sequence_layout", "note " ++ toString p.2 ++ " (" ++ p.1.place.words ++ " " ++
      ",".intercalate p.1.targets ++ ") references an undeclared participant, skipped"⟩

theorem map_entry_remarks : (Layout.remarks d s).map Remark.entry = d.omissions := by
  rw [Layout.remarks_eq, List.map_append, List.map_append, List.map_map, List.map_map,
    List.map_map]
  rfl

/-! ## Without a message -/

/-- A diagram is another one but for a message that was drawn and has lost an end.  The loops may
have lost the message too; they are as deep as before, and none is drawn that was not. -/
structure Diagram.LosesMessage (d d' : Diagram) (i : Nat) : Prop where
  /-- The participants are the same. -/
  participants : d'.participants = d.participants
  /-- The message was drawn, and what has taken its place is not. -/
  messages : ∃ m m', d.messages[i]? = some m ∧ d.drawsMessage m = true ∧
    d.drawsMessage m' = false ∧ d'.messages = d.messages.set i m'
  /-- The notes are the same. -/
  notes : d'.notes = d.notes
  /-- The loops have the same depths. -/
  depths : d'.loops.map (·.depth) = d.loops.map (·.depth)
  /-- The loops that are drawn are among those that were. -/
  loops : d'.loops.findIdxs d'.drawsLoop ⊆ d.loops.findIdxs d.drawsLoop

/-- The cells that are lost with a message: its own, and those of the loops that are no longer
drawn. -/
def Diagram.lostCells (d d' : Diagram) (i : Nat) : List CellId :=
  .message i :: ((d.loops.findIdxs d.drawsLoop).filter
    (· ∉ d'.loops.findIdxs d'.drawsLoop)).map .loop

theorem filter_cellIds {participants loops messages notes lost : List Nat} {i : Nat}
    (hmessages : messages.Nodup) :
    (cellIds participants loops messages notes).filter (· ∉ .message i :: lost.map .loop) =
      cellIds participants (loops.filter (· ∉ lost)) (messages.erase i) notes := by
  rw [hmessages.erase_eq_filter]
  simp [cellIds, List.filter_map, List.filter_flatMap, Function.comp_def, List.forall_mem_ne',
    bne, beq_eq_decide]

namespace Diagram.LosesMessage

variable {i : Nat} (h : d.LosesMessage d' i)

include h

theorem declares_eq : d'.declares = d.declares := by
  funext id
  rw [declares, h.participants, declares]

theorem drawsMessage_eq : d'.drawsMessage = d.drawsMessage := by
  funext m
  rw [drawsMessage, h.declares_eq, drawsMessage]

theorem drawsNote_eq : d'.drawsNote = d.drawsNote := by
  funext n
  rw [drawsNote, h.declares_eq, drawsNote]

theorem mem_findIdxs : i ∈ d.messages.findIdxs d.drawsMessage := by
  obtain ⟨m, m', hm, hdraws, -, -⟩ := h.messages
  obtain ⟨hi, rfl⟩ := List.getElem?_eq_some_iff.1 hm
  exact List.mem_findIdxs_iff_exists_getElem_pos.2 ⟨hi, hdraws⟩

/-- The other messages that are drawn keep their positions. -/
theorem findIdxs_messages : d'.messages.findIdxs d'.drawsMessage =
    (d.messages.findIdxs d.drawsMessage).erase i := by
  obtain ⟨m, m', hm, hdraws, hdraws', hset⟩ := h.messages
  rw [h.drawsMessage_eq, hset]
  exact findIdxs_set hm hdraws hdraws'

/-- **The ids without the message.** -/
theorem ids_eq (hsheet : Sheet.ofLayout (Layout.ofDiagram d s) = .ok sheet)
    (hsheet' : Sheet.ofLayout (Layout.ofDiagram d' s) = .ok sheet') :
    sheet'.ids = sheet.ids.filter (· ∉ d.lostCells d' i) := by
  rw [Sheet.ids_ofDiagram hsheet, Sheet.ids_ofDiagram hsheet', lostCells,
    filter_cellIds List.nodup_findIdxs, h.participants, h.notes, h.drawsNote_eq,
    h.findIdxs_messages, Layout.index_loops_eq_filter d s h.depths h.loops]
  congr 1
  refine List.filter_congr fun j hj ↦ ?_
  have hdrawn : j ∈ d.loops.findIdxs d.drawsLoop := (Layout.perm_index_loops d s).mem_iff.1 hj
  simp [hdrawn]

end Diagram.LosesMessage

end

/-- **Every part is in the picture or in the log.**  The log of a picture names the parts that are
not drawn, each once, with messages and notes as warnings; and the file has the cells of the others
and no more.  Without a message that was drawn it has one edge less, and all other cells keep their
ids, apart from frames that had no other message around which to be drawn. -/
theorem shown_or_logged {α : Type} [Scalar α] (d : Diagram) (s : Settings α) :
    (Layout.remarks d s).map Remark.entry = d.omissions ∧
    ∀ (now : Timestamp) (sheet : Sheet α), Sheet.ofLayout (Layout.ofDiagram d s) = .ok sheet →
      d.IsShownBy (fileElement now sheet) ∧
      ∀ (d' : Diagram) (i : Nat) (sheet' : Sheet α), d.LosesMessage d' i →
        Sheet.ofLayout (Layout.ofDiagram d' s) = .ok sheet' →
        (fileElement now sheet').cellValues "id" =
            ((fileElement now sheet).cellValues "id").filter
              (· ∉ (d.lostCells d' i).map fun c ↦ some c.text) ∧
          (fileElement now sheet').edgeIds.length + 1 =
            (fileElement now sheet).edgeIds.length := by
  refine ⟨map_entry_remarks, fun now sheet hsheet ↦ ⟨isShownBy_fileElement now hsheet,
    fun d' i sheet' hloses hsheet' ↦ ⟨?_, ?_⟩⟩⟩
  · rw [cellValues_id_fileElement, cellValues_id_fileElement, hloses.ids_eq hsheet hsheet',
      List.filter_map]
    refine congrArg _ (List.filter_congr fun c _ ↦ ?_)
    simp only [Function.comp_apply, List.mem_map_of_injective CellId.some_text_injective]
  · rw [edgeIds_ofDiagram now hsheet, edgeIds_ofDiagram now hsheet', hloses.findIdxs_messages,
      List.length_map, List.length_map, List.length_erase_add_one hloses.mem_findIdxs]

/-- A diagram with parts of each kind that are not drawn, and with a name that is declared twice. -/
def Diagram.partlyDrawn : Diagram where
  participants := [⟨"a", "A"⟩, ⟨"b", "B"⟩, ⟨"a", "again"⟩]
  messages := [⟨"a", "c", "lost", .solid⟩, ⟨"b", "a", "found", .dashed⟩, ⟨"b", "b", "", .solid⟩]
  notes := [⟨.across, [], "nowhere"⟩, ⟨.across, ["a", "b"], "here"⟩]
  loops := [⟨"inner", [⟨"b", "a", "found", .dashed⟩], 1, 1, 1⟩,
    ⟨"empty", [⟨"b", "a", "found", .dashed⟩], 1, 0, 1⟩,
    ⟨"outer", [⟨"b", "a", "found", .dashed⟩, ⟨"b", "b", "", .solid⟩], 1, 2, 0⟩]

/-- The same with an undeclared name in the second message, and in the loops around it. -/
def Diagram.partlyDrawn' : Diagram where
  participants := Diagram.partlyDrawn.participants
  messages := [⟨"a", "c", "lost", .solid⟩, ⟨"b", "c", "found", .dashed⟩, ⟨"b", "b", "", .solid⟩]
  notes := Diagram.partlyDrawn.notes
  loops := [⟨"inner", [⟨"b", "c", "found", .dashed⟩], 1, 1, 1⟩,
    ⟨"empty", [⟨"b", "c", "found", .dashed⟩], 1, 0, 1⟩,
    ⟨"outer", [⟨"b", "c", "found", .dashed⟩, ⟨"b", "b", "", .solid⟩], 1, 2, 0⟩]

/-- The second message goes, and with it the inner loop; the outer one has another message. -/
theorem shown_or_logged_partlyDrawn :
    let d := Diagram.partlyDrawn
    let d' := Diagram.partlyDrawn'
    let now := Timestamp.ofMicroseconds 0
    d.LosesMessage d' 1 ∧ d.lostCells d' 1 = [.message 1, .loop 0] ∧
      ∃ sheet sheet',
        Sheet.ofLayout (Layout.ofDiagram d (Settings.standard : Settings Rat)) = .ok sheet ∧
        Sheet.ofLayout (Layout.ofDiagram d' (Settings.standard : Settings Rat)) = .ok sheet' ∧
        d.IsShownBy (fileElement now sheet) ∧
        (fileElement now sheet').edgeIds.length + 1 = (fileElement now sheet).edgeIds.length := by
  intro d d' now
  have hloses : d.LosesMessage d' 1 :=
    { participants := rfl
      messages := ⟨⟨"b", "a", "found", .dashed⟩, ⟨"b", "c", "found", .dashed⟩, rfl, by decide,
        by decide, rfl⟩
      notes := rfl
      depths := rfl
      loops := by decide }
  obtain ⟨sheet, hsheet⟩ := Sheet.exists_ofLayout_eq_ok
    (Layout.ofDiagram d (Settings.standard : Settings Rat))
  obtain ⟨sheet', hsheet'⟩ := Sheet.exists_ofLayout_eq_ok
    (Layout.ofDiagram d' (Settings.standard : Settings Rat))
  obtain ⟨hshown, hwithout⟩ := (shown_or_logged d Settings.standard).2 now sheet hsheet
  exact ⟨hloses, by decide, sheet, sheet', hsheet, hsheet', hshown,
    (hwithout d' 1 sheet' hloses hsheet').2⟩

end SequenceChart
