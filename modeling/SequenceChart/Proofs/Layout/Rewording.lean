import SequenceChart.Drawio.Sheet
import SequenceChart.Layout.Picture
import Mathlib.Data.List.Basic
import Mathlib.Logic.Function.Basic

/-!
# Pictures of reworded diagrams

A picture depends on names only through the columns they stand for, and on labels and texts not at
all: these are carried along.  So if the names of a diagram are replaced by others, different ones
by different ones, and the labels and texts by any others, then the picture has the same shapes in
the same places, with the new words in them.

## Main definitions

* `Diagram.reword`, `Layout.reword` — new names, labels and texts in a diagram, in a picture.

## Main statements

* `Layout.ofDiagram_reword` — the picture of a reworded diagram.
* `Layout.bounds_reword` — a reworded picture takes up the same room.
-/

set_option autoImplicit false
namespace SequenceChart

/-! ## New words -/

section Words

variable (name text : String → String)

/-- A participant with another name and another label. -/
def Participant.reword (p : Participant) : Participant :=
  { p with id := name p.id, label := text p.label }

/-- A message between other names with another text. -/
def Message.reword (m : Message) : Message :=
  { m with sender := name m.sender, receiver := name m.receiver, text := text m.text }

/-- A note on other names with another text. -/
def Note.reword (n : Note) : Note :=
  { n with targets := n.targets.map name, text := text n.text }

/-- A loop with another label around reworded messages. -/
def Loop.reword (l : Loop) : Loop :=
  { l with label := text l.label, members := l.members.map (Message.reword name text) }

/-- A diagram with other names, labels and texts. -/
def Diagram.reword (d : Diagram) : Diagram where
  participants := d.participants.map (Participant.reword name text)
  messages := d.messages.map (Message.reword name text)
  notes := d.notes.map (Note.reword name text)
  loops := d.loops.map (Loop.reword name text)

variable {α : Type}

/-- The shape of a reworded participant in the same place. -/
def ParticipantShape.reword (p : ParticipantShape α) : ParticipantShape α :=
  { p with participant := p.participant.reword name text }

/-- The shape of a reworded message in the same place. -/
def MessageShape.reword (m : MessageShape α) : MessageShape α :=
  { m with message := m.message.reword name text }

/-- The shape of a reworded loop in the same place. -/
def LoopShape.reword (l : LoopShape α) : LoopShape α :=
  { l with loop := l.loop.reword name text }

/-- The shape of a reworded note in the same place. -/
def NoteShape.reword (n : NoteShape α) : NoteShape α :=
  { n with note := n.note.reword name text }

/-- A picture with other names, labels and texts in the same places. -/
def Layout.reword (l : Layout α) : Layout α where
  participants := l.participants.map (ParticipantShape.reword name text)
  loops := l.loops.map (LoopShape.reword name text)
  messages := l.messages.map (MessageShape.reword name text)
  notes := l.notes.map (NoteShape.reword name text)

end Words

/-! ## The picture of a reworded diagram -/

section Picture

variable {name : String → String} (hname : Function.Injective name) (text : String → String)
  {α : Type} [Scalar α] (d : Diagram) (s : Settings α)

include hname

/-- A new name stands for the column of the old one. -/
theorem Diagram.column?_reword (id : String) :
    (d.reword name text).column? (name id) = d.column? id := by
  rw [column?, reword, List.findIdx?_map, column?]
  congr 1
  funext p
  rw [Function.comp_apply, Participant.reword, Bool.eq_iff_iff, beq_iff_eq, beq_iff_eq]
  exact hname.eq_iff

theorem Diagram.ends?_reword (m : Message) :
    (d.reword name text).ends? (m.reword name text) = d.ends? m := by
  rw [ends?, Message.reword, column?_reword hname, column?_reword hname]
  rfl

theorem placeMessage_reword (m : Message) (i : Nat) :
    (placeMessage (d.reword name text) s (m.reword name text) i).drawn? =
      (placeMessage d s m i).drawn?.map (MessageShape.reword name text) := by
  rw [placeMessage, Diagram.ends?_reword hname, placeMessage]
  cases d.ends? m <;> rfl

theorem loopCenters_reword (l : Loop) :
    loopCenters (d.reword name text) s (l.reword name text) = loopCenters d s l := by
  rw [loopCenters, Loop.reword, List.filterMap_map, loopCenters]
  congr 2
  funext m
  exact Diagram.ends?_reword hname text d m

theorem loopFrame?_reword (l : Loop) :
    loopFrame? (d.reword name text) s (l.reword name text) = loopFrame? d s l := by
  rw [loopFrame?, loopCenters_reword hname, loopFrame?]
  rfl

theorem placeLoop_reword (l : Loop) (i : Nat) :
    (placeLoop (d.reword name text) s (l.reword name text) i).drawn? =
      (placeLoop d s l i).drawn?.map (LoopShape.reword name text) := by
  rw [placeLoop, loopFrame?_reword hname, placeLoop]
  cases loopFrame? d s l <;> rfl

theorem noteExtent?_reword (n : Note) :
    noteExtent? (d.reword name text) s (n.reword name text) = noteExtent? d s n := by
  have hcolumns : (n.reword name text).targets.mapM (d.reword name text).column? =
      n.targets.mapM d.column? := by
    rw [Note.reword, List.mapM_map]
    congr 1
    funext id
    exact Diagram.column?_reword hname text d id
  rw [noteExtent?, hcolumns, noteExtent?]
  rfl

theorem placeNotes_reword (y : α) (notes : List (Note × Nat)) :
    (placeNotes (d.reword name text) s y
        (notes.map (Prod.map (Note.reword name text) id))).filterMap Placed.drawn? =
      ((placeNotes d s y notes).filterMap Placed.drawn?).map (NoteShape.reword name text) := by
  induction notes generalizing y with
  | nil => rfl
  | cons p notes ih =>
    obtain ⟨n, i⟩ := p
    rw [List.map_cons, Prod.map_apply, placeNotes, noteExtent?_reword hname, placeNotes]
    cases noteExtent? d s n with
    | none => exact ih y
    | some extent => exact congrArg (_ :: ·) (ih (y + s.noteStep))

omit hname [Scalar α] in
/-- If what is drawn of a reworded part is what is drawn of the part, reworded, then so it is for
the parts in a list. -/
theorem filterMap_drawn?_reword {β σ : Type} {reword : β → β} {place place' : β → Nat → Placed σ}
    {rewordShape : σ → σ}
    (h : ∀ b i, (place' (reword b) i).drawn? = (place b i).drawn?.map rewordShape) (bs : List β) :
    ((bs.map reword).zipIdx.map fun (b, i) ↦ place' b i).filterMap Placed.drawn? =
      ((bs.zipIdx.map fun (b, i) ↦ place b i).filterMap Placed.drawn?).map rewordShape := by
  rw [List.zipIdx_map, List.map_map, List.filterMap_map, List.filterMap_map, List.map_filterMap]
  exact List.filterMap_congr fun p _ ↦ h p.1 p.2

/-- **The picture of a reworded diagram** is the picture of the diagram, reworded. -/
theorem Layout.ofDiagram_reword :
    ofDiagram (d.reword name text) s = (ofDiagram d s).reword name text := by
  have hparticipants : (ofDiagram (d.reword name text) s).participants =
      (ofDiagram d s).participants.map (ParticipantShape.reword name text) := by
    rw [ofDiagram, Diagram.reword, List.zipIdx_map, List.map_map, ofDiagram, List.map_map]
    rfl
  have hloops : (ofDiagram (d.reword name text) s).loops =
      (ofDiagram d s).loops.map (LoopShape.reword name text) := by
    have hdrawn : (placedLoops (d.reword name text) s).filterMap Placed.drawn? =
        ((placedLoops d s).filterMap Placed.drawn?).map (LoopShape.reword name text) :=
      filterMap_drawn?_reword (placeLoop_reword hname text d s) d.loops
    show ((placedLoops (d.reword name text) s).filterMap Placed.drawn?).mergeSort _ =
      (((placedLoops d s).filterMap Placed.drawn?).mergeSort _).map _
    -- the order of the frames is by depth, which has no words in it
    rw [hdrawn, eq_comm]
    exact List.map_mergeSort (f := LoopShape.reword name text) fun _ _ _ _ ↦ rfl
  have hmessages : (ofDiagram (d.reword name text) s).messages =
      (ofDiagram d s).messages.map (MessageShape.reword name text) :=
    filterMap_drawn?_reword (placeMessage_reword hname text d s) _
  have hnotes : (ofDiagram (d.reword name text) s).notes =
      (ofDiagram d s).notes.map (NoteShape.reword name text) := by
    have hlength : (d.reword name text).messages.length = d.messages.length := List.length_map _
    show (placedNotes (d.reword name text) s).filterMap Placed.drawn? =
      ((placedNotes d s).filterMap Placed.drawn?).map (NoteShape.reword name text)
    rw [placedNotes, hlength, placedNotes, ← placeNotes_reword hname, Diagram.reword,
      List.zipIdx_map]
  calc ofDiagram (d.reword name text) s
      = ⟨(ofDiagram (d.reword name text) s).participants, (ofDiagram (d.reword name text) s).loops,
          (ofDiagram (d.reword name text) s).messages,
          (ofDiagram (d.reword name text) s).notes⟩ := rfl
    _ = (ofDiagram d s).reword name text := by rw [hparticipants, hloops, hmessages, hnotes]; rfl

end Picture

/-! ## The room of a reworded picture -/

section Room

variable (name text : String → String) {α : Type} [Scalar α] (l : Layout α)

theorem Layout.boxes_reword : (l.reword name text).boxes = l.boxes := by
  simp only [boxes, reword, List.flatMap_map, List.map_map]
  rfl

/-- **A reworded picture takes up the same room.** -/
theorem Layout.bounds_reword : (l.reword name text).bounds = l.bounds := by
  rw [bounds, boxes_reword, bounds]

theorem pageOffset_reword : pageOffset (l.reword name text) = pageOffset l := by
  rw [pageOffset, Layout.bounds_reword, pageOffset]

theorem pageSize_reword : pageSize (l.reword name text) = pageSize l := by
  rw [pageSize, Layout.bounds_reword, pageOffset_reword, pageSize]

end Room
end SequenceChart
