import SequenceChart.Layout.Picture
import SequenceChart.Proofs.Layout.Exact
import Mathlib.Algebra.Order.Group.MinMax
import Mathlib.Data.List.Basic

/-!
# Pictures with another origin

Three of the measures say where a picture is, and all the others say how large its parts are and how
far apart.  If the first column, the headers and the first message begin elsewhere, then the whole
picture is there: every shape is moved by the same distances, none changes its size, and none comes
or goes.

This has to be seen for each kind of shape on its own, since each has its own way to get at its
place: the edges of a frame are the least and the greatest of some columns and are kept apart by a
clamp, and a note follows the one before it.  The bounds of a picture move with it, unless it is
empty, for then they are at the origin wherever its shapes would have been.

## Main definitions

* `Settings.shift` — measures with another origin.
* `Layout.shift` — a picture that is moved.

## Main statements

* `frameAround_shift`, `noteExtent?_shift`, `placeNotes_shift` — the places of frames and notes.
* `Layout.ofDiagram_shift` — the picture with another origin.
* `Layout.bounds_shift` — its bounds.
-/

set_option autoImplicit false
namespace SequenceChart

/-! ## Moving pictures -/

section

variable {α : Type} [Scalar α]

/-- Measures with another origin: columns begin further to the right, headers and messages further
down. -/
def Settings.shift (s : Settings α) (dx dy : α) : Settings α :=
  { s with
    baseX := s.baseX + dx
    headerY := s.headerY + dy
    messageTop := s.messageTop + dy }

/-- A participant moved to the right and down. -/
def ParticipantShape.shift (p : ParticipantShape α) (dx dy : α) : ParticipantShape α :=
  { p with header := p.header.shift dx dy, lifeline := p.lifeline.shift dx dy }

/-- A message moved to the right and down. -/
def MessageShape.shift (m : MessageShape α) (dx dy : α) : MessageShape α :=
  { m with source := m.source.shift dx dy, target := m.target.shift dx dy }

/-- A frame moved to the right and down. -/
def LoopShape.shift (l : LoopShape α) (dx dy : α) : LoopShape α :=
  { l with frame := l.frame.shift dx dy }

/-- A note moved to the right and down. -/
def NoteShape.shift (n : NoteShape α) (dx dy : α) : NoteShape α :=
  { n with frame := n.frame.shift dx dy }

/-- A picture moved to the right and down: the same shapes in the same order, each moved. -/
def Layout.shift (l : Layout α) (dx dy : α) : Layout α where
  participants := l.participants.map (·.shift dx dy)
  loops := l.loops.map (·.shift dx dy)
  messages := l.messages.map (·.shift dx dy)
  notes := l.notes.map (·.shift dx dy)

end

/-! ## Distances do not change -/

namespace Scalar

theorem lesser_add (a b c : Rat) : lesser (a + c) (b + c) = lesser a b + c := by
  rw [lesser_eq_min, lesser_eq_min, min_add_add_right]

theorem greater_add (a b c : Rat) : greater (a + c) (b + c) = greater a b + c := by
  rw [greater_eq_max, greater_eq_max, max_add_add_right]

theorem least_map_add (a c : Rat) (rest : List Rat) :
    least (a + c) (rest.map (· + c)) = least a rest + c := by
  induction rest generalizing a with
  | nil => rfl
  | cons b rest ih =>
    show least (lesser (a + c) (b + c)) (rest.map (· + c)) = least (lesser a b) rest + c
    rw [lesser_add, ih]

theorem greatest_map_add (a c : Rat) (rest : List Rat) :
    greatest (a + c) (rest.map (· + c)) = greatest a rest + c := by
  induction rest generalizing a with
  | nil => rfl
  | cons b rest ih =>
    show greatest (greater (a + c) (b + c)) (rest.map (· + c)) = greatest (greater a b) rest + c
    rw [greater_add, ih]

theorem distance_add (a b c : Rat) : distance (a + c) (b + c) = distance a b := by
  rw [distance, add_sub_add_right_eq_sub, distance]

end Scalar

section

variable (dx dy : Rat)

namespace Box

theorem ofEdges_shift (left top right bottom : Rat) :
    ofEdges (left + dx) (top + dy) (right + dx) (bottom + dy) =
      (ofEdges left top right bottom).shift dx dy := by
  rw [ofEdges, add_sub_add_right_eq_sub, add_sub_add_right_eq_sub]
  rfl

/-- **The box around some boxes moves with them.** -/
theorem enclosing_shift {boxes : List (Box Rat)} (h : boxes ≠ []) :
    enclosing (boxes.map (·.shift dx dy)) = (enclosing boxes).shift dx dy := by
  cases boxes with
  | nil => exact absurd rfl h
  | cons b rest =>
    -- an edge of the moved boxes is a moved edge
    have hedge : ∀ (edge : Box Rat → Rat) (c : Rat),
        (∀ b : Box Rat, edge (b.shift dx dy) = edge b + c) →
        (rest.map (·.shift dx dy)).map edge = (rest.map edge).map (· + c) := by
      intro edge c hc
      rw [List.map_map, List.map_map]
      exact List.map_congr_left fun b _ ↦ hc b
    rw [List.map_cons, enclosing, hedge (·.x) dx fun _ ↦ rfl, hedge (·.y) dy fun _ ↦ rfl,
      hedge right dx fun b ↦ b.right_shift dx dy,
      hedge bottom dy fun b ↦ b.bottom_shift dx dy, right_shift, bottom_shift]
    show ofEdges (Scalar.least (b.x + dx) _) (Scalar.least (b.y + dy) _) _ _ = _
    rw [Scalar.least_map_add, Scalar.least_map_add, Scalar.greatest_map_add,
      Scalar.greatest_map_add, ofEdges_shift]
    rfl

end Box

theorem MessageShape.box_shift (m : MessageShape Rat) :
    (m.shift dx dy).box = m.box.shift dx dy := by
  show Box.mk (Scalar.lesser (m.source.x + dx) (m.target.x + dx)) (m.source.y + dy)
    (Scalar.distance (m.source.x + dx) (m.target.x + dx)) 0.0 = _
  rw [Scalar.lesser_add, Scalar.distance_add]
  rfl

/-! ## Columns and rows -/

variable (s : Settings Rat)

theorem Settings.columnX_shift (i : Int) : (s.shift dx dy).columnX i = s.columnX i + dx :=
  add_right_comm s.baseX dx (i * s.spacing)

theorem Settings.columnCenter_shift (i : Int) :
    (s.shift dx dy).columnCenter i = s.columnCenter i + dx := by
  rw [columnCenter, columnX_shift]
  exact add_right_comm (s.columnX i) dx (s.headerWidth / 2.0)

theorem Settings.messageY_shift (i : Int) : (s.shift dx dy).messageY i = s.messageY i + dy :=
  add_right_comm s.messageTop dy (i * s.messageStep)

/-! ## The place of each kind of shape -/

theorem placeParticipant_shift (p : Participant) (i : Nat) :
    placeParticipant (s.shift dx dy) p i = (placeParticipant s p i).shift dx dy := by
  have hx : (s.shift dx dy).columnCenter i - s.lifelineWidth / 2.0 =
      s.columnCenter i - s.lifelineWidth / 2.0 + dx := by
    rw [Settings.columnCenter_shift, add_sub_right_comm]
  have hy : s.headerY + dy + s.headerHeight + s.lifelineGap =
      s.headerY + s.headerHeight + s.lifelineGap + dy := by ring
  show ParticipantShape.mk i p ⟨(s.shift dx dy).columnX i, s.headerY + dy, _, _⟩
    ⟨(s.shift dx dy).columnCenter i - s.lifelineWidth / 2.0,
      s.headerY + dy + s.headerHeight + s.lifelineGap, _, _⟩ = _
  rw [Settings.columnX_shift, hx, hy]
  rfl

variable (d : Diagram)

theorem placeMessage_shift (m : Message) (i : Nat) :
    placeMessage d (s.shift dx dy) m i = (placeMessage d s m i).map (·.shift dx dy) := by
  rw [placeMessage, placeMessage]
  cases d.ends? m with
  | none => rfl
  | some ends =>
    obtain ⟨a, b⟩ := ends
    dsimp only
    rw [Settings.columnCenter_shift, Settings.columnCenter_shift, Settings.messageY_shift]
    rfl

theorem loopCenters_shift (l : Loop) :
    loopCenters d (s.shift dx dy) l = (loopCenters d s l).map (· + dx) := by
  rw [loopCenters, loopCenters, List.map_flatMap]
  refine List.flatMap_congr fun (a, b) _ ↦ ?_
  dsimp only
  rw [Settings.columnCenter_shift, Settings.columnCenter_shift]
  rfl

/-- The clamp of a frame compares edges on the same axis, so it comes into play in both pictures or
in none. -/
theorem frameAround_shift (l : Loop) (left right : Rat) :
    frameAround (s.shift dx dy) l (left + dx) (right + dx) =
      (frameAround s l left right).shift dx dy := by
  rw [frameAround, frameAround, ← Box.ofEdges_shift, ← Scalar.greater_add, ← Scalar.greater_add,
    Settings.messageY_shift, Settings.messageY_shift, Settings.shift]
  congr 1
  · ring
  · ring
  · congr 1 <;> ring
  · congr 1 <;> ring

theorem loopFrame?_shift (l : Loop) :
    loopFrame? d (s.shift dx dy) l = (loopFrame? d s l).map (·.shift dx dy) := by
  rw [loopFrame?, loopFrame?, loopCenters_shift]
  split
  · rfl
  · cases loopCenters d s l with
    | nil => rfl
    | cons c rest =>
      rw [List.map_cons]
      dsimp only
      rw [Scalar.least_map_add, Scalar.greatest_map_add, frameAround_shift]
      rfl

theorem placeLoop_shift (l : Loop) (i : Nat) :
    placeLoop d (s.shift dx dy) l i = (placeLoop d s l i).map (·.shift dx dy) := by
  rw [placeLoop, loopFrame?_shift, placeLoop]
  cases loopFrame? d s l <;> rfl

/-- A note begins at a column and is as wide as before. -/
theorem noteExtent?_shift (n : Note) :
    noteExtent? d (s.shift dx dy) n =
      (noteExtent? d s n).map fun extent ↦ (extent.1 + dx, extent.2) := by
  rw [noteExtent?, noteExtent?]
  split
  · rfl
  · rfl
  · cases n.place with
    | across =>
      dsimp only
      rw [Settings.columnX_shift]
      rfl
    | rightOf =>
      dsimp only
      rw [Settings.columnX_shift, Option.map_some, ← add_right_comm]
      rfl
    | leftOf =>
      dsimp only
      rw [Settings.columnX_shift, Option.map_some]
      congr 2
      show s.columnX _ + dx + s.headerWidth - s.sideNoteOffset - s.sideNoteWidth = _
      ring

/-- **A stack of notes moves with its top.** -/
theorem placeNotes_shift (y : Rat) (notes : List (Note × Nat)) :
    placeNotes d (s.shift dx dy) (y + dy) notes =
      (placeNotes d s y notes).map (Except.map (·.shift dx dy)) := by
  induction notes generalizing y with
  | nil => rfl
  | cons p notes ih =>
    obtain ⟨n, i⟩ := p
    rw [placeNotes, noteExtent?_shift, placeNotes]
    cases noteExtent? d s n with
    | none => exact congrArg (.error (.noteOmitted i n) :: ·) (ih y)
    | some extent =>
      have hnext := ih (y + s.noteStep)
      rw [add_right_comm] at hnext
      exact congrArg (.ok ⟨i, n, ⟨extent.1 + dx, y + dy, extent.2, s.noteHeight⟩⟩ :: ·) hnext

/-! ## The picture -/

/-- What is drawn of parts that are placed elsewhere is what was drawn of them, elsewhere. -/
theorem filterMap_drawn?_map {σ : Type} (f : σ → σ) (placed : List (Placed σ)) :
    (placed.map (Except.map f)).filterMap Placed.drawn? =
      (placed.filterMap Placed.drawn?).map f := by
  rw [List.filterMap_map, List.map_filterMap]
  refine List.filterMap_congr fun p _ ↦ ?_
  cases p <;> rfl

namespace Layout

theorem participants_shift :
    (ofDiagram d (s.shift dx dy)).participants =
      (ofDiagram d s).participants.map (·.shift dx dy) := by
  rw [ofDiagram, ofDiagram, List.map_map]
  exact List.map_congr_left fun p _ ↦ placeParticipant_shift dx dy s p.1 p.2

theorem loops_shift :
    (ofDiagram d (s.shift dx dy)).loops = (ofDiagram d s).loops.map (·.shift dx dy) := by
  have hplaced : placedLoops d (s.shift dx dy) =
      (placedLoops d s).map (Except.map (·.shift dx dy)) := by
    rw [placedLoops, placedLoops, List.map_map]
    exact List.map_congr_left fun p _ ↦ placeLoop_shift dx dy s d p.1 p.2
  -- the order of the frames is by depth, which does not depend on their place
  rw [ofDiagram, hplaced, filterMap_drawn?_map, eq_comm, ofDiagram]
  exact List.map_mergeSort fun _ _ _ _ ↦ rfl

theorem messages_shift :
    (ofDiagram d (s.shift dx dy)).messages = (ofDiagram d s).messages.map (·.shift dx dy) := by
  have hplaced : placedMessages d (s.shift dx dy) =
      (placedMessages d s).map (Except.map (·.shift dx dy)) := by
    rw [placedMessages, placedMessages, List.map_map]
    exact List.map_congr_left fun p _ ↦ placeMessage_shift dx dy s d p.1 p.2
  rw [ofDiagram, hplaced, filterMap_drawn?_map, ofDiagram]

theorem notes_shift :
    (ofDiagram d (s.shift dx dy)).notes = (ofDiagram d s).notes.map (·.shift dx dy) := by
  have htop : (s.shift dx dy).messageY d.messages.length + s.noteGap =
      s.messageY d.messages.length + s.noteGap + dy := by
    rw [Settings.messageY_shift, add_right_comm]
  have hplaced : placedNotes d (s.shift dx dy) =
      (placedNotes d s).map (Except.map (·.shift dx dy)) := by
    rw [placedNotes, placedNotes, ← placeNotes_shift, ← htop]
    rfl
  rw [ofDiagram, hplaced, filterMap_drawn?_map, ofDiagram]

/-- **The picture with another origin** is the picture, moved. -/
theorem ofDiagram_shift : ofDiagram d (s.shift dx dy) = (ofDiagram d s).shift dx dy := by
  calc ofDiagram d (s.shift dx dy)
      = ⟨(ofDiagram d (s.shift dx dy)).participants, (ofDiagram d (s.shift dx dy)).loops,
          (ofDiagram d (s.shift dx dy)).messages, (ofDiagram d (s.shift dx dy)).notes⟩ := rfl
    _ = (ofDiagram d s).shift dx dy := by
      rw [participants_shift, loops_shift, messages_shift, notes_shift]
      rfl

/-! ## The bounds -/

variable (l : Layout Rat)

theorem boxes_shift : (l.shift dx dy).boxes = l.boxes.map (·.shift dx dy) := by
  simp only [boxes, shift, List.map_append, List.flatMap_map, List.map_flatMap, List.map_map]
  congr 1
  exact List.map_congr_left fun m _ ↦ m.box_shift dx dy

variable {l}

/-- **The bounds of a picture move with it**, if it is not empty. -/
theorem bounds_shift (h : l.boxes ≠ []) :
    (l.shift dx dy).bounds = l.bounds.shift dx dy := by
  rw [bounds, boxes_shift, Box.enclosing_shift dx dy h, bounds]

/-- In a picture without boxes there is nothing to be moved. -/
theorem shift_of_boxes_eq_nil (h : l.boxes = []) : l.shift dx dy = l := by
  obtain ⟨participants, loops, messages, notes⟩ := l
  simp only [boxes, List.append_eq_nil_iff, List.flatMap_eq_nil_iff, List.map_eq_nil_iff] at h
  obtain ⟨⟨⟨hparticipants, rfl⟩, rfl⟩, rfl⟩ := h
  obtain rfl : participants = [] :=
    List.eq_nil_iff_forall_not_mem.2 fun p hp ↦ List.cons_ne_nil _ _ (hparticipants p hp)
  rfl

end Layout
end
end SequenceChart
