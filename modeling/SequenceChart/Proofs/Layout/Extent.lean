import SequenceChart.Proofs.Layout.Bounds
import SequenceChart.Proofs.Layout.Reach

/-!
# How large a picture is

At standard measures a picture grows by one hundred and eighty pixels for each participant and by
sixty for each message and each note.  What is drawn beside the columns and below the rows takes
some room of its own: a note beside the first or the last participant, a frame around the last
message.  Frames are drawn in as they get deeper, so the depth of loops does not matter at first.
But a frame is never turned inside out, and one that is deep enough is pushed to the right and down,
by ten pixels for each loop around it.

`Diagram.room` says how much room there is as long as no loop has more than fourteen around it, and
the lemmas after it say that a picture is no smaller than its columns, its rows and its deepest
frame.

## Main definitions

* `Diagram.picture` — the picture at standard measures.
* `Diagram.room` — the room that it takes at most.

## Main statements

* `isWithin_room` — every box of a picture of a source text is in the room.
* `Layout.bounds_le` — how large a picture is at most.
* `Layout.le_width_of_participants`, `Layout.le_height_of_message`, `Layout.le_height_of_notes`,
  `Layout.le_height_of_frame` — how large it is at least.
-/

set_option autoImplicit false
namespace SequenceChart

/-! ## Standard measures -/

/-- The picture of a diagram at standard measures. -/
abbrev Diagram.picture (d : Diagram) : Layout Rat :=
  .ofDiagram d .standard

namespace Settings

theorem columnX_standard (i : Int) : (standard : Settings Rat).columnX i = 80 + 180 * i := by
  rw [standard_eq, columnX]
  ring

theorem columnCenter_standard (i : Int) :
    (standard : Settings Rat).columnCenter i = 130 + 180 * i := by
  rw [columnCenter, columnX_standard, standard_eq]
  norm_num
  ring

end Settings

section

variable {d : Diagram}

theorem cast_add_one_le {i n : Nat} (h : i < n) : (i : Rat) + 1 ≤ n := by
  exact_mod_cast h

/-- The middle of a column is to the right of the first header's middle, and to the left of the last
header's. -/
theorem columnCenter_bounds {i : Nat} (h : i < d.participants.length) :
    130 ≤ (Settings.standard : Settings Rat).columnCenter i ∧
      (Settings.standard : Settings Rat).columnCenter i ≤ 180 * d.participants.length - 50 := by
  have hi : ((i : Int) : Rat) = i := Int.cast_natCast i
  have hle := cast_add_one_le h
  have hnonneg : (0 : Rat) ≤ i := Nat.cast_nonneg i
  rw [Settings.columnCenter_standard, hi]
  exact ⟨by linarith, by linarith⟩

theorem placeParticipant_standard (p : Participant) (i : Nat) :
    (placeParticipant Settings.standard p i).header =
        ⟨(Settings.standard : Settings Rat).columnCenter i - 50, 20, 100, 50⟩ ∧
      (placeParticipant Settings.standard p i).lifeline =
        ⟨(Settings.standard : Settings Rat).columnCenter i - 1, 80, 2, 300⟩ := by
  have hcolumn : (Settings.standard : Settings Rat).columnX i =
      (Settings.standard : Settings Rat).columnCenter i - 50 := by
    rw [Settings.columnX_standard, Settings.columnCenter_standard]
    ring
  simp only [placeParticipant, Box.bottom, hcolumn]
  rw [Settings.standard_eq]
  norm_num

/-! ## The room for a picture -/

/-- The room that a picture takes at standard measures at most, unless loops are nested more deeply
than is usual. -/
def Diagram.room (d : Diagram) : Box Rat :=
  .ofEdges (-80) 20 (180 * d.participants.length + 160)
    (max 380 (60 * (d.messages.length + d.notes.length : Nat) + 170))

theorem isWithin_room_of_edges {b : Box Rat} (hleft : -80 ≤ b.x)
    (hright : b.right ≤ 180 * d.participants.length + 160) (htop : 20 ≤ b.y)
    (hbottom : b.bottom ≤ 380 ∨
      b.bottom ≤ 60 * (d.messages.length + d.notes.length : Nat) + 170) :
    b.IsWithin d.room := by
  refine ⟨hleft, ?_, htop, ?_⟩
  · rwa [Diagram.room, Box.right_ofEdges]
  · rw [Diagram.room, Box.bottom_ofEdges]
    exact le_max_iff.2 hbottom

theorem participant_isWithin_room {shape : ParticipantShape Rat}
    (h : shape ∈ d.picture.participants) :
    shape.header.IsWithin d.room ∧ shape.lifeline.IsWithin d.room := by
  obtain ⟨p, i, hp, rfl⟩ := Layout.exists_of_mem_participants h
  obtain ⟨hleft, hright⟩ := columnCenter_bounds (List.getElem?_eq_some_iff.1 hp).1
  obtain ⟨hheader, hlifeline⟩ := placeParticipant_standard p i
  rw [hheader, hlifeline]
  refine ⟨isWithin_room_of_edges ?_ ?_ ?_ (.inl ?_), isWithin_room_of_edges ?_ ?_ ?_ (.inl ?_)⟩ <;>
    simp only [Box.right, Box.bottom] <;> linarith

theorem frame_isWithin_room (hslice : ∀ l ∈ d.loops, l.IsSlice d.messages)
    (hdepth : ∀ l ∈ d.loops, 0 ≤ l.depth ∧ l.depth ≤ 14) {shape : LoopShape Rat}
    (h : shape ∈ d.picture.loops) : shape.frame.IsWithin d.room := by
  have hmem := List.mem_of_getElem? (Layout.getElem?_of_mem_loops d _ h)
  obtain ⟨c, rest, hcenters, hrange, hframe⟩ := Layout.exists_frame_eq h
  -- the frame is around middles of columns and around rows
  have hcenter : ∀ x ∈ c :: rest, 130 ≤ x ∧ x ≤ 180 * d.participants.length - 50 := by
    intro x hx
    rw [← hcenters, mem_loopCenters_iff] at hx
    obtain ⟨m, -, a, b, hends, rfl | rfl⟩ := hx
    · exact columnCenter_bounds (Diagram.ends?_lt hends).1
    · exact columnCenter_bounds (Diagram.ends?_lt hends).2
  obtain ⟨hleft, hleft'⟩ := hcenter _ (Scalar.least_mem c rest)
  obtain ⟨hright, hright'⟩ := hcenter _ (Scalar.greatest_mem c rest)
  have hfirst : (0 : Rat) ≤ shape.loop.first := by exact_mod_cast (hslice _ hmem).first_nonneg
  have hrange' : (shape.loop.first : Rat) ≤ shape.loop.last := by exact_mod_cast hrange
  have hlast : (shape.loop.last : Rat) + 1 ≤ (d.messages.length + d.notes.length : Nat) := by
    have hlast := (hslice _ hmem).last_lt
    exact_mod_cast (by omega : shape.loop.last + 1 ≤ (d.messages.length + d.notes.length : Nat))
  have hshallow : (0 : Rat) ≤ shape.loop.depth ∧ (shape.loop.depth : Rat) ≤ 14 := by
    exact_mod_cast hdepth _ hmem
  obtain ⟨houtermost, hinnermost⟩ := hshallow
  rw [hframe, frameAround_standard]
  refine isWithin_room_of_edges ?_ ?_ ?_ (.inr ?_)
  · show -80 ≤ Scalar.least c rest - 40 + 10 * (shape.loop.depth : Rat)
    linarith
  · rw [Box.right_ofEdges]
    exact max_le (by linarith) (by linarith)
  · show 20 ≤ 80 + 60 * (shape.loop.first : Rat) + 10 * shape.loop.depth
    linarith
  · rw [Box.bottom_ofEdges]
    exact max_le (by linarith) (by linarith)

/-- The columns of a note are columns of the diagram. -/
theorem noteExtent?_bounds {n : Note} {x width : Rat}
    (h : noteExtent? d Settings.standard n = some (x, width)) :
    -80 ≤ x ∧ x + width ≤ 180 * d.participants.length + 160 := by
  obtain ⟨c, rest, hcolumns, hextent⟩ := exists_of_noteExtent?_eq_some h
  have hlt : ∀ i ∈ c :: rest, (i : Rat) + 1 ≤ d.participants.length := fun i hi ↦
    cast_add_one_le (Diagram.column?_lt_of_mapM hcolumns i hi)
  have hc : (0 : Rat) ≤ c := Nat.cast_nonneg c
  have hc' := hlt c (List.mem_cons_self ..)
  simp only [Settings.columnX_standard, Int.cast_natCast] at hextent
  rw [Settings.standard_eq] at hextent
  rcases hextent with ⟨-, rfl, rfl⟩ | ⟨-, rfl, rfl⟩ | ⟨-, rfl, rfl⟩
  · have hlow : (0 : Rat) ≤ (rest.foldl min c : Nat) := Nat.cast_nonneg _
    have hhigh := hlt _ (List.max?_eq_some_iff.1 List.max?_cons').1
    push_cast
    exact ⟨by linarith, by linarith⟩
  · exact ⟨by linarith, by linarith⟩
  · exact ⟨by linarith, by linarith⟩

theorem Layout.length_notes_le (d : Diagram) (s : Settings Rat) :
    (ofDiagram d s).notes.length ≤ d.notes.length := by
  have hparts := congrArg List.length (parts_notes d s)
  rw [List.length_map] at hparts
  rw [hparts]
  exact (List.length_filter_le _ _).trans List.length_zipIdx.le

/-- The place of a note at standard measures. -/
theorem Layout.getElem?_notes_standard {k : Nat} {shape : NoteShape Rat}
    (h : d.picture.notes[k]? = some shape) :
    ∃ x width, noteExtent? d Settings.standard shape.note = some (x, width) ∧
      shape.frame = ⟨x, 60 * d.messages.length + 60 * k + 130, width, 40⟩ := by
  obtain ⟨x, width, hextent, hframe⟩ := getElem?_notes h
  refine ⟨x, width, hextent, ?_⟩
  rw [hframe, Settings.messageY_standard, Settings.standard_eq, Int.cast_natCast]
  congr 1
  ring

theorem note_isWithin_room {shape : NoteShape Rat} (h : shape ∈ d.picture.notes) :
    shape.frame.IsWithin d.room := by
  obtain ⟨k, hk⟩ := List.mem_iff_getElem?.1 h
  obtain ⟨x, width, hextent, hframe⟩ := Layout.getElem?_notes_standard hk
  obtain ⟨hleft, hright⟩ := noteExtent?_bounds hextent
  have hrow : (k : Rat) + 1 ≤ d.notes.length :=
    cast_add_one_le ((List.getElem?_eq_some_iff.1 hk).1.trans_le (Layout.length_notes_le d _))
  have hk : (0 : Rat) ≤ k := Nat.cast_nonneg k
  have hm : (0 : Rat) ≤ d.messages.length := Nat.cast_nonneg _
  rw [hframe]
  refine isWithin_room_of_edges hleft hright ?_ (.inr ?_)
  · show 20 ≤ 60 * (d.messages.length : Rat) + 60 * k + 130
    linarith
  · show 60 * (d.messages.length : Rat) + 60 * k + 130 + 40 ≤ _
    push_cast
    linarith

theorem message_isWithin_room {shape : MessageShape Rat} (h : shape ∈ d.picture.messages) :
    shape.box.IsWithin d.room := by
  obtain ⟨a, b, hends, hsource, htarget⟩ := Layout.exists_ends?_of_mem_messages h
  obtain ⟨ha, hb⟩ := Diagram.ends?_lt hends
  obtain ⟨hsourceleft, hsourceright⟩ := columnCenter_bounds ha
  obtain ⟨htargetleft, htargetright⟩ := columnCenter_bounds hb
  have hrow : (shape.index : Rat) + 1 ≤ d.messages.length :=
    cast_add_one_le (List.getElem?_eq_some_iff.1 (Layout.getElem?_of_mem_messages d _ h)).1
  have hindex : (0 : Rat) ≤ shape.index := Nat.cast_nonneg _
  have hk : (0 : Rat) ≤ d.notes.length := Nat.cast_nonneg _
  have hy : shape.source.y = 110 + 60 * shape.index := by
    rw [hsource, Settings.messageY_standard, Int.cast_natCast]
  refine isWithin_room_of_edges ?_ ?_ ?_ (.inr ?_)
  · rcases shape.x_box_eq with hx | hx
    · rw [hx, hsource]
      linarith
    · rw [hx, htarget]
      linarith
  · rw [MessageShape.right_box_eq, hsource, htarget]
    exact max_le (by linarith) (by linarith)
  · show 20 ≤ shape.source.y
    linarith
  · rw [MessageShape.bottom_box_eq, hy]
    push_cast
    linarith

/-- **Every box of a picture is in the room**, unless a loop has more than fourteen around it. -/
theorem isWithin_room (hslice : ∀ l ∈ d.loops, l.IsSlice d.messages)
    (hdepth : ∀ l ∈ d.loops, 0 ≤ l.depth ∧ l.depth ≤ 14) :
    ∀ b ∈ d.picture.boxes, b.IsWithin d.room :=
  Layout.forall_mem_boxes_iff.2 ⟨fun _ ↦ participant_isWithin_room,
    fun _ ↦ frame_isWithin_room hslice hdepth, fun _ ↦ note_isWithin_room,
    fun _ ↦ message_isWithin_room⟩

/-- **How large a picture is at most**, unless a loop has more than fourteen around it. -/
theorem Layout.bounds_le (hslice : ∀ l ∈ d.loops, l.IsSlice d.messages)
    (hdepth : ∀ l ∈ d.loops, 0 ≤ l.depth ∧ l.depth ≤ 14) :
    d.picture.bounds.width ≤ 180 * d.participants.length + 240 ∧
      d.picture.bounds.height ≤
        max 360 (60 * ((d.messages.length + d.notes.length : Nat) : Rat) + 150) := by
  have hwidth : d.room.width = 180 * d.participants.length + 240 := by
    show 180 * (d.participants.length : Rat) + 160 - -80 = _
    ring
  have hheight : d.room.height =
      max 360 (60 * ((d.messages.length + d.notes.length : Nat) : Rat) + 150) := by
    show max 380 (60 * ((d.messages.length + d.notes.length : Nat) : Rat) + 170) - 20 = _
    rw [sub_eq_add_neg, max_add]
    norm_num [add_assoc]
  rw [← hwidth, ← hheight]
  by_cases hnil : d.picture.boxes = []
  · rw [bounds, hnil, Box.enclosing_nil, hwidth, hheight]
    refine ⟨?_, le_max_of_le_left ?_⟩
    · show (0 : Rat) ≤ 180 * d.participants.length + 240
      positivity
    · show (0 : Rat) ≤ 360
      norm_num
  · exact (Box.enclosing_isWithin hnil (isWithin_room hslice hdepth)).size_le

/-! ## The least size of a picture -/

theorem header_isWithin_bounds {i : Nat} (h : i < d.participants.length) :
    Box.IsWithin ⟨(Settings.standard : Settings Rat).columnCenter i - 50, 20, 100, 50⟩
      d.picture.bounds := by
  have hmem := Layout.placeParticipant_mem (s := (Settings.standard : Settings Rat))
    (List.getElem?_eq_getElem h)
  rw [← (placeParticipant_standard _ _).1]
  exact (d.picture.isWithin_bounds.1 _ hmem).1

/-- A picture reaches from the first header to the last. -/
theorem Layout.le_width_of_participants (h : 0 < d.participants.length) :
    180 * (d.participants.length : Rat) - 80 ≤ d.picture.bounds.width := by
  have hleft := (header_isWithin_bounds h).left
  have hright := (header_isWithin_bounds (Nat.sub_one_lt_of_lt h)).right
  rw [Settings.columnCenter_standard, Int.cast_natCast] at hleft hright
  rw [Nat.cast_pred h] at hright
  have hleft' : d.picture.bounds.x ≤ 130 + 180 * ((0 : Nat) : Rat) - 50 := hleft
  have hright' : 130 + 180 * ((d.participants.length : Rat) - 1) - 50 + 100 ≤
      d.picture.bounds.x + d.picture.bounds.width := hright
  rw [Nat.cast_zero] at hleft'
  linarith

/-- A picture reaches from the top of the headers to the lower edge of any box. -/
theorem le_height_of_isWithin {b : Box Rat} (hne : 0 < d.participants.length)
    (hb : b.IsWithin d.picture.bounds) : b.bottom - 20 ≤ d.picture.bounds.height := by
  have htop : d.picture.bounds.y ≤ 20 := (header_isWithin_bounds hne).top
  have hbottom : b.bottom ≤ d.picture.bounds.y + d.picture.bounds.height := hb.bottom
  linarith

/-- A picture reaches down to every message. -/
theorem Layout.le_height_of_message {m : MessageShape Rat} (hm : m ∈ d.picture.messages) :
    60 * (m.index : Rat) + 90 ≤ d.picture.bounds.height := by
  obtain ⟨a, b, hends, hsource, -⟩ := exists_ends?_of_mem_messages hm
  have hheight := le_height_of_isWithin (Nat.zero_lt_of_lt (Diagram.ends?_lt hends).1)
    (d.picture.isWithin_bounds.2.2.2 m hm)
  rw [MessageShape.bottom_box_eq, hsource, Settings.messageY_standard, Int.cast_natCast] at hheight
  linarith

/-- A picture reaches down to the last note, which is below all messages. -/
theorem Layout.le_height_of_notes (hne : d.picture.notes ≠ []) :
    60 * (d.messages.length : Rat) + 60 * (d.picture.notes.length : Rat) + 90 ≤
      d.picture.bounds.height := by
  have hpos := List.length_pos_iff.2 hne
  have hlast := List.getElem?_eq_getElem (Nat.sub_one_lt_of_lt hpos)
  obtain ⟨x, width, hextent, hframe⟩ := getElem?_notes_standard hlast
  obtain ⟨c, rest, hcolumns, -⟩ := exists_of_noteExtent?_eq_some hextent
  have hheight := le_height_of_isWithin
    (Nat.zero_lt_of_lt (Diagram.column?_lt_of_mapM hcolumns c (List.mem_cons_self ..)))
    (d.picture.isWithin_bounds.2.2.1 _ (List.mem_of_getElem? hlast))
  rw [hframe, Nat.cast_pred hpos] at hheight
  have hheight' : 60 * (d.messages.length : Rat) + 60 * (d.picture.notes.length - 1 : Rat) +
      130 + 40 - 20 ≤ d.picture.bounds.height := hheight
  linarith

/-- A picture reaches down to the frame of every loop, and a deep one is pushed down. -/
theorem Layout.le_height_of_frame {l : LoopShape Rat} (hl : l ∈ d.picture.loops)
    (hfirst : 0 ≤ l.loop.first) :
    10 * (l.loop.depth : Rat) + 70 ≤ d.picture.bounds.height := by
  obtain ⟨c, rest, hcenters, -, hframe⟩ := exists_frame_eq hl
  have hcenter : c ∈ loopCenters d Settings.standard l.loop := by
    rw [hcenters]
    exact List.mem_cons_self ..
  obtain ⟨m, -, a, b, hends, -⟩ := mem_loopCenters_iff.1 hcenter
  have hheight := le_height_of_isWithin (Nat.zero_lt_of_lt (Diagram.ends?_lt hends).1)
    (d.picture.isWithin_bounds.2.1 l hl)
  have hfirst' : (0 : Rat) ≤ l.loop.first := by exact_mod_cast hfirst
  rw [hframe, frameAround_standard, Box.bottom_ofEdges] at hheight
  have hbottom := le_max_right (180 + 60 * (l.loop.last : Rat) - 10 * l.loop.depth)
    (90 + 60 * (l.loop.first : Rat) + 10 * l.loop.depth)
  linarith

end
end SequenceChart
