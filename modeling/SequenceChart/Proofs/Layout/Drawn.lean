import SequenceChart.Layout.Picture
import Mathlib.Data.List.Basic
import Mathlib.Data.List.Forall2

/-!
# What is drawn

A layout leaves out what it cannot place, and which parts these are can be said of the diagram
alone, without coordinates: a message needs both of its ends declared, a loop needs a row and a
message that is drawn, a note needs targets and all of them declared.  This file states these
conditions and shows that the shapes of a layout are exactly the parts that meet them, each with its
position in the diagram.  The settings have no say in it, nor has the kind of scalars.

What can be read in the picture is then also known from the diagram alone (`Diagram.Shows`).

## Main definitions

* `Diagram.declares`, `Diagram.drawsMessage`, `Diagram.drawsLoop`, `Diagram.drawsNote` — the
  conditions.
* `Diagram.Shows` — that a text is the label or the text of a part that is drawn.

## Main statements

* `ends?_eq_some_iff`, `mapM_eq_some_iff` — names are looked up one by one.
* `Layout.parts_messages`, `Layout.parts_loops`, `Layout.parts_notes` — the parts that are drawn.
* `Layout.mem_messages_iff`, `Layout.mem_loops_iff`, `Layout.mem_notes_iff` — the same without the
  positions.
-/

set_option autoImplicit false
namespace SequenceChart

/-! ## The conditions -/

namespace Diagram

/-- Whether a name is declared. -/
def declares (d : Diagram) (id : String) : Bool :=
  d.participants.any (·.id == id)

/-- Whether both ends of a message are declared. -/
def drawsMessage (d : Diagram) (m : Message) : Bool :=
  d.declares m.sender && d.declares m.receiver

/-- Whether a loop has a row and a message that is drawn. -/
def drawsLoop (d : Diagram) (l : Loop) : Bool :=
  l.first ≤ l.last && l.members.any d.drawsMessage

/-- Whether a note has targets and all of them are declared. -/
def drawsNote (d : Diagram) (n : Note) : Bool :=
  !n.targets.isEmpty && n.targets.all d.declares

/-- A text is shown if it is the label of a participant, or the label or text of another part that
is drawn. -/
inductive Shows (d : Diagram) : String → Prop
  /-- Participants are always drawn. -/
  | participant {p : Participant} (hp : p ∈ d.participants) : d.Shows p.label
  /-- The label of a loop. -/
  | loop {l : Loop} (hl : l ∈ d.loops) (hdrawn : d.drawsLoop l = true) : d.Shows l.label
  /-- The text of a message. -/
  | message {m : Message} (hm : m ∈ d.messages) (hdrawn : d.drawsMessage m = true) :
    d.Shows m.text
  /-- The text of a note. -/
  | note {n : Note} (hn : n ∈ d.notes) (hdrawn : d.drawsNote n = true) : d.Shows n.text

end Diagram

variable {α : Type} [Scalar α] (d : Diagram) (s : Settings α)

theorem isSome_column? (id : String) : (d.column? id).isSome = d.declares id :=
  List.findIdx?_isSome

theorem isSome_ends? (m : Message) : (d.ends? m).isSome = d.drawsMessage m := by
  rw [Diagram.drawsMessage, ← isSome_column?, ← isSome_column?, Diagram.ends?]
  cases d.column? m.sender <;> cases d.column? m.receiver <;> rfl

theorem ends?_eq_some_iff {d : Diagram} {m : Message} {a b : Nat} :
    d.ends? m = some (a, b) ↔ d.column? m.sender = some a ∧ d.column? m.receiver = some b := by
  rw [Diagram.ends?]
  cases d.column? m.sender <;> cases d.column? m.receiver <;> simp

theorem loopCenters_eq_nil_iff (l : Loop) :
    loopCenters d s l = [] ↔ l.members.any d.drawsMessage = false := by
  rw [loopCenters, List.flatMap_eq_nil_iff, List.any_eq_false]
  constructor
  · intro h m hm
    rw [← isSome_ends?]
    intro hsome
    obtain ⟨ends, hends⟩ := Option.isSome_iff_exists.1 hsome
    exact List.cons_ne_nil _ _ (h ends (List.mem_filterMap.2 ⟨m, hm, hends⟩))
  · intro h ends hends
    obtain ⟨m, hm, hsome⟩ := List.mem_filterMap.1 hends
    have hdraws := h m hm
    rw [← isSome_ends?, hsome] at hdraws
    exact absurd rfl hdraws

theorem isSome_loopFrame? (l : Loop) : (loopFrame? d s l).isSome = d.drawsLoop l := by
  have hcenters := loopCenters_eq_nil_iff d s l
  rw [loopFrame?, Diagram.drawsLoop, Loop.isEmpty]
  by_cases hle : l.first ≤ l.last
  · rw [if_neg (by simpa using hle), decide_eq_true hle, Bool.true_and]
    split
    · rename_i hnil
      exact (hcenters.1 hnil).symm
    · rename_i c rest hcons
      rw [Option.isSome_some, eq_comm, ← Bool.not_eq_false, ← hcenters, hcons]
      exact List.cons_ne_nil c rest
  · rw [if_pos (by simpa using hle), decide_eq_false hle]
    rfl

/-- A list is taken element by element, and each of them has to have a value. -/
theorem mapM_eq_some_iff {β γ : Type} {f : β → Option γ} {xs : List β} {ys : List γ} :
    xs.mapM f = some ys ↔ List.Forall₂ (fun x y ↦ f x = some y) xs ys := by
  induction xs generalizing ys with
  | nil =>
    rw [List.mapM_nil, List.forall₂_nil_left_iff, eq_comm]
    exact Option.some_inj
  | cons x xs ih =>
    rw [List.mapM_cons, List.forall₂_cons_left_iff]
    constructor
    · intro h
      obtain ⟨y, hy, h⟩ := Option.bind_eq_some_iff.1 h
      obtain ⟨ys, hys, h⟩ := Option.bind_eq_some_iff.1 h
      cases h
      exact ⟨y, ys, hy, ih.1 hys, rfl⟩
    · rintro ⟨y, ys, hy, hys, rfl⟩
      rw [hy, ih.2 hys]
      rfl

theorem isSome_mapM_column? (ids : List String) :
    (ids.mapM d.column?).isSome = ids.all d.declares := by
  induction ids with
  | nil => rfl
  | cons id ids ih =>
    rw [List.mapM_cons, List.all_cons, ← isSome_column?, ← ih]
    cases d.column? id <;> cases ids.mapM d.column? <;> rfl

theorem isSome_noteExtent? (n : Note) : (noteExtent? d s n).isSome = d.drawsNote n := by
  rw [Diagram.drawsNote, ← isSome_mapM_column?, noteExtent?]
  cases htargets : n.targets with
  | nil => rfl
  | cons t targets =>
    rw [List.mapM_cons]
    cases d.column? t with
    | none => rfl
    | some c =>
      cases targets.mapM d.column? with
      | none => rfl
      | some rest => cases n.place <;> rfl

/-! ## The shapes -/

/-- If every part that is drawn keeps what it is of, and the others have no shape, then the shapes
are of the parts that are drawn. -/
theorem map_filterMap_drawn? {β σ : Type} {place : β → Placed σ} {part : σ → β} {draws : β → Bool}
    (h : ∀ b, (place b).drawn?.map part = if draws b then some b else none) (bs : List β) :
    ((bs.map place).filterMap Placed.drawn?).map part = bs.filter draws := by
  rw [List.map_filterMap, List.filterMap_map, ← List.filterMap_eq_filter]
  refine List.filterMap_congr fun b _ ↦ ?_
  rw [Function.comp_apply, h, Option.guard]

theorem Placed.drawn?_eq_some_iff {σ : Type} {placed : Placed σ} {shape : σ} :
    placed.drawn? = some shape ↔ placed = .ok shape := by
  cases placed <;> simp [drawn?]

/-- A shape in the picture is the place of some part. -/
theorem mem_filterMap_drawn?_iff {β σ : Type} {place : β → Nat → Placed σ} {bs : List β}
    {shape : σ} :
    shape ∈ (bs.zipIdx.map fun (b, i) ↦ place b i).filterMap Placed.drawn? ↔
      ∃ b i, bs[i]? = some b ∧ place b i = .ok shape := by
  rw [List.filterMap_map, List.mem_filterMap]
  constructor
  · rintro ⟨⟨b, i⟩, hmem, hdrawn⟩
    exact ⟨b, i, List.mk_mem_zipIdx_iff_getElem?.1 hmem, Placed.drawn?_eq_some_iff.1 hdrawn⟩
  · rintro ⟨b, i, hb, hplace⟩
    exact ⟨(b, i), List.mk_mem_zipIdx_iff_getElem?.2 hb, Placed.drawn?_eq_some_iff.2 hplace⟩

namespace Layout

/-- Every participant is drawn. -/
theorem parts_participants :
    (ofDiagram d s).participants.map (fun p ↦ (p.participant, p.index)) =
      d.participants.zipIdx := by
  rw [ofDiagram, List.map_map]
  exact List.map_id' _

/-- **The messages that are drawn** are those with both ends declared. -/
theorem parts_messages :
    (ofDiagram d s).messages.map (fun m ↦ (m.message, m.index)) =
      d.messages.zipIdx.filter fun p ↦ d.drawsMessage p.1 := by
  refine map_filterMap_drawn? (fun (m, i) ↦ ?_) _
  show (placeMessage d s m i).drawn?.map _ = if d.drawsMessage m then _ else _
  rw [← isSome_ends?, placeMessage]
  cases d.ends? m <;> rfl

/-- **The loops that are drawn** are those with a row and a message that is drawn, those with fewer
loops around them first. -/
theorem parts_loops :
    (ofDiagram d s).loops.map (fun l ↦ (l.loop, l.index)) =
      (d.loops.zipIdx.filter fun p ↦ d.drawsLoop p.1).mergeSort
        fun a b ↦ a.1.depth ≤ b.1.depth := by
  rw [ofDiagram, List.map_mergeSort (s := fun a b : Loop × Nat ↦ a.1.depth ≤ b.1.depth)
    (fun _ _ _ _ ↦ rfl)]
  congr 1
  refine map_filterMap_drawn? (fun (l, i) ↦ ?_) _
  show (placeLoop d s l i).drawn?.map _ = if d.drawsLoop l then _ else _
  rw [← isSome_loopFrame? d s, placeLoop]
  cases loopFrame? d s l <;> rfl

/-- **The notes that are drawn** are those with targets that are all declared. -/
theorem parts_notes :
    (ofDiagram d s).notes.map (fun n ↦ (n.note, n.index)) =
      d.notes.zipIdx.filter fun p ↦ d.drawsNote p.1 := by
  suffices h : ∀ (y : α) (notes : List (Note × Nat)),
      ((placeNotes d s y notes).filterMap Placed.drawn?).map (fun n ↦ (n.note, n.index)) =
        notes.filter fun p ↦ d.drawsNote p.1 from h _ _
  intro y notes
  induction notes generalizing y with
  | nil => rfl
  | cons p notes ih =>
    obtain ⟨n, i⟩ := p
    rw [placeNotes, List.filter_cons, ← isSome_noteExtent? d s]
    cases noteExtent? d s n with
    | none => exact ih y
    | some extent => exact congrArg ((n, i) :: ·) (ih (y + s.noteStep))

/-! ## The parts of the shapes -/

section Parts

variable {β σ : Type} {shapes : List σ} {part : σ → β} {index : σ → Nat} {q : β → Bool}
  {bs : List β}
  (h : (shapes.map fun x ↦ (part x, index x)).Perm (bs.zipIdx.filter fun p ↦ q p.1))

include h

/-- A shape knows the position of what it shows. -/
theorem getElem?_of_mem_shapes {x : σ} (hx : x ∈ shapes) : bs[index x]? = some (part x) :=
  List.mk_mem_zipIdx_iff_getElem?.1 (List.mem_of_mem_filter (h.subset (List.mem_map_of_mem hx)))

/-- What is shown are the parts that meet the condition. -/
theorem exists_mem_shapes_iff {b : β} :
    (∃ x ∈ shapes, part x = b) ↔ b ∈ bs ∧ q b = true := by
  have hparts : (shapes.map part).Perm (bs.filter q) := by
    have hmap := h.map Prod.fst
    rw [List.map_map] at hmap
    conv_rhs => rw [← List.zipIdx_map_fst 0 bs, List.filter_map]
    exact hmap
  rw [← List.mem_filter, ← hparts.mem_iff, List.mem_map]

end Parts

theorem perm_participants :
    ((ofDiagram d s).participants.map fun p ↦ (p.participant, p.index)).Perm
      (d.participants.zipIdx.filter fun _ ↦ true) := by
  rw [parts_participants, List.filter_true]

theorem perm_loops :
    ((ofDiagram d s).loops.map fun l ↦ (l.loop, l.index)).Perm
      (d.loops.zipIdx.filter fun p ↦ d.drawsLoop p.1) := by
  rw [parts_loops]
  exact List.mergeSort_perm _ _

theorem getElem?_of_mem_participants {shape : ParticipantShape α}
    (h : shape ∈ (ofDiagram d s).participants) :
    d.participants[shape.index]? = some shape.participant :=
  getElem?_of_mem_shapes (q := fun _ ↦ true) (perm_participants d s) h

theorem getElem?_of_mem_loops {shape : LoopShape α} (h : shape ∈ (ofDiagram d s).loops) :
    d.loops[shape.index]? = some shape.loop :=
  getElem?_of_mem_shapes (perm_loops d s) h

theorem getElem?_of_mem_messages {shape : MessageShape α}
    (h : shape ∈ (ofDiagram d s).messages) : d.messages[shape.index]? = some shape.message :=
  getElem?_of_mem_shapes (.of_eq (parts_messages d s)) h

theorem getElem?_of_mem_notes {shape : NoteShape α} (h : shape ∈ (ofDiagram d s).notes) :
    d.notes[shape.index]? = some shape.note :=
  getElem?_of_mem_shapes (.of_eq (parts_notes d s)) h

theorem mem_participants_iff {p : Participant} :
    (∃ shape ∈ (ofDiagram d s).participants, shape.participant = p) ↔ p ∈ d.participants := by
  rw [exists_mem_shapes_iff (q := fun _ ↦ true) (perm_participants d s)]
  exact and_iff_left rfl

theorem mem_loops_iff {l : Loop} :
    (∃ shape ∈ (ofDiagram d s).loops, shape.loop = l) ↔ l ∈ d.loops ∧ d.drawsLoop l = true :=
  exists_mem_shapes_iff (perm_loops d s)

theorem mem_messages_iff {m : Message} :
    (∃ shape ∈ (ofDiagram d s).messages, shape.message = m) ↔
      m ∈ d.messages ∧ d.drawsMessage m = true :=
  exists_mem_shapes_iff (.of_eq (parts_messages d s))

theorem mem_notes_iff {n : Note} :
    (∃ shape ∈ (ofDiagram d s).notes, shape.note = n) ↔ n ∈ d.notes ∧ d.drawsNote n = true :=
  exists_mem_shapes_iff (.of_eq (parts_notes d s))

end Layout
end SequenceChart
