import SequenceChart.Proofs.Layout.Frames

/-!
# The box around a picture

Every shape of a picture lies within its bounds, and the bounds are no larger than they have to be:
some shape begins at the left edge and some shape begins at the upper one.  For boxes that holds
whatever their sizes.  For both corners of a box to lie within the bounds no size may be negative,
and that is a matter of the measures only: the clamp of the frames and the order in which a note
names its participants take care of the rest.

## Main definitions

* `Box.Contains`, `Box.IsWithin` — that a point or a box lies within a box, its edges included.
* `Settings.SizesNonneg` — the measures that give shapes their sizes are not negative.

## Main statements

* `Box.isWithin_enclosing` — a box lies within the box around it and some others.
* `Box.exists_mem_edge_eq`, `Box.enclosing_isWithin` — the box around some boxes is the least one.
* `Layout.forall_mem_boxes_iff` — the boxes of a picture, kind by kind.
* `Layout.getElem?_notes` — the place of a note in the stack.
* `Layout.boxes_nonneg` — no shape of a picture has a negative size.
-/

set_option autoImplicit false
namespace SequenceChart

/-! ## Boxes in boxes -/

namespace Box

/-- A point lies within a box or on one of its edges. -/
structure Contains (b : Box Rat) (p : Point Rat) : Prop where
  /-- It is not to the left. -/
  left : b.x ≤ p.x
  /-- It is not to the right. -/
  right : p.x ≤ b.right
  /-- It is not above. -/
  top : b.y ≤ p.y
  /-- It is not below. -/
  bottom : p.y ≤ b.bottom

/-- No edge of a box lies beyond the same edge of another. -/
structure IsWithin (b c : Box Rat) : Prop where
  /-- The left edges. -/
  left : c.x ≤ b.x
  /-- The right edges. -/
  right : b.right ≤ c.right
  /-- The upper edges. -/
  top : c.y ≤ b.y
  /-- The lower edges. -/
  bottom : b.bottom ≤ c.bottom

theorem Contains.mono {b c : Box Rat} {p : Point Rat} (hp : b.Contains p) (h : b.IsWithin c) :
    c.Contains p :=
  ⟨h.left.trans hp.left, hp.right.trans h.right, h.top.trans hp.top, hp.bottom.trans h.bottom⟩

theorem IsWithin.trans {a b c : Box Rat} (hab : a.IsWithin b) (hbc : b.IsWithin c) :
    a.IsWithin c :=
  ⟨hbc.left.trans hab.left, hab.right.trans hbc.right, hbc.top.trans hab.top,
    hab.bottom.trans hbc.bottom⟩

theorem IsWithin.size_le {b c : Box Rat} (h : b.IsWithin c) :
    b.width ≤ c.width ∧ b.height ≤ c.height := by
  have hright : b.x + b.width ≤ c.x + c.width := h.right
  have hbottom : b.y + b.height ≤ c.y + c.height := h.bottom
  have hleft := h.left
  have htop := h.top
  exact ⟨by linarith, by linarith⟩

/-- The upper left and the lower right corner. -/
def corners (b : Box Rat) : List (Point Rat) :=
  [⟨b.x, b.y⟩, ⟨b.right, b.bottom⟩]

/-- A box whose sizes are not negative contains its corners. -/
theorem contains_of_mem_corners {b : Box Rat} (hwidth : 0 ≤ b.width) (hheight : 0 ≤ b.height) :
    ∀ p ∈ b.corners, b.Contains p := by
  have hright : b.x ≤ b.right := le_add_of_nonneg_right hwidth
  have hbottom : b.y ≤ b.bottom := le_add_of_nonneg_right hheight
  rw [corners, List.forall_mem_cons, List.forall_mem_singleton]
  exact ⟨⟨le_rfl, hright, le_rfl, hbottom⟩, ⟨hright, le_rfl, hbottom, le_rfl⟩⟩

section

variable {boxes : List (Box Rat)}

/-- **A box lies within the box around it and some others.** -/
theorem isWithin_enclosing {b : Box Rat} (h : b ∈ boxes) : b.IsWithin (enclosing boxes) := by
  cases boxes with
  | nil => cases h
  | cons c rest =>
    have hmem : ∀ f : Box Rat → Rat, f b ∈ f c :: rest.map f := fun f ↦
      List.mem_map_of_mem (f := f) h
    refine ⟨?_, ?_, ?_, ?_⟩
    · exact Scalar.least_le (hmem (·.x))
    · rw [enclosing, right_ofEdges]
      exact Scalar.le_greatest (hmem right)
    · exact Scalar.least_le (hmem (·.y))
    · rw [enclosing, bottom_ofEdges]
      exact Scalar.le_greatest (hmem bottom)

/-- **Each edge of the box around some boxes is an edge of one of them.** -/
theorem exists_mem_edge_eq (h : boxes ≠ []) :
    (∃ b ∈ boxes, b.x = (enclosing boxes).x) ∧
      (∃ b ∈ boxes, b.right = (enclosing boxes).right) ∧
        (∃ b ∈ boxes, b.y = (enclosing boxes).y) ∧
          ∃ b ∈ boxes, b.bottom = (enclosing boxes).bottom := by
  cases boxes with
  | nil => exact absurd rfl h
  | cons c rest =>
    have hleast : ∀ f : Box Rat → Rat,
        ∃ b ∈ c :: rest, f b = Scalar.least (f c) (rest.map f) := fun f ↦
      List.mem_map.1 (List.map_cons (f := f) ▸ Scalar.least_mem (f c) (rest.map f))
    have hgreatest : ∀ f : Box Rat → Rat,
        ∃ b ∈ c :: rest, f b = Scalar.greatest (f c) (rest.map f) := fun f ↦
      List.mem_map.1 (List.map_cons (f := f) ▸ Scalar.greatest_mem (f c) (rest.map f))
    rw [enclosing, right_ofEdges, bottom_ofEdges]
    exact ⟨hleast (·.x), hgreatest right, hleast (·.y), hgreatest bottom⟩

/-- **The box around some boxes is the least one**: it lies within every box that all of them lie
within. -/
theorem enclosing_isWithin {c : Box Rat} (hne : boxes ≠ []) (h : ∀ b ∈ boxes, b.IsWithin c) :
    (enclosing boxes).IsWithin c := by
  obtain ⟨⟨l, hl, hleft⟩, ⟨r, hr, hright⟩, ⟨t, ht, htop⟩, b, hb, hbottom⟩ := exists_mem_edge_eq hne
  refine ⟨?_, ?_, ?_, ?_⟩
  · rw [← hleft]
    exact (h l hl).left
  · rw [← hright]
    exact (h r hr).right
  · rw [← htop]
    exact (h t ht).top
  · rw [← hbottom]
    exact (h b hb).bottom

theorem enclosing_nil : enclosing ([] : List (Box Rat)) = ⟨0, 0, 0, 0⟩ := by
  norm_num [enclosing]

end

end Box

/-! ## The boxes of a picture -/

namespace MessageShape

variable {m : MessageShape Rat}

theorem x_box_eq : m.box.x = m.source.x ∨ m.box.x = m.target.x := by
  show Scalar.lesser m.source.x m.target.x = _ ∨ Scalar.lesser m.source.x m.target.x = _
  rw [Scalar.lesser_eq_min]
  exact min_choice _ _

theorem right_box_eq : m.box.right = max m.source.x m.target.x :=
  Scalar.lesser_add_distance m.source.x m.target.x

theorem bottom_box_eq : m.box.bottom = m.source.y := by
  show m.source.y + (0.0 : Rat) = m.source.y
  norm_num

/-- A level arrow lies within its box. -/
theorem contains_box (hlevel : m.target.y = m.source.y) :
    m.box.Contains m.source ∧ m.box.Contains m.target := by
  have hx : m.box.x = min m.source.x m.target.x := Scalar.lesser_eq_min _ _
  refine ⟨⟨?_, ?_, le_rfl, bottom_box_eq.ge⟩, ⟨?_, ?_, hlevel.ge, ?_⟩⟩
  · exact hx.le.trans (min_le_left _ _)
  · exact (le_max_left _ _).trans right_box_eq.ge
  · exact hx.le.trans (min_le_right _ _)
  · exact (le_max_right _ _).trans right_box_eq.ge
  · exact hlevel.le.trans bottom_box_eq.ge

end MessageShape

namespace Layout

/-- What is asked of all boxes of a picture is asked of each kind of shape. -/
theorem forall_mem_boxes_iff {α : Type} [Scalar α] {l : Layout α} {q : Box α → Prop} :
    (∀ b ∈ l.boxes, q b) ↔
      (∀ p ∈ l.participants, q p.header ∧ q p.lifeline) ∧ (∀ f ∈ l.loops, q f.frame) ∧
        (∀ n ∈ l.notes, q n.frame) ∧ ∀ m ∈ l.messages, q m.box := by
  simp only [boxes, List.forall_mem_append, List.forall_mem_flatMap, List.forall_mem_map,
    List.forall_mem_cons, List.not_mem_nil, false_imp_iff, implies_true, and_true, and_assoc]

/-- **All boxes of a picture lie within its bounds.** -/
theorem isWithin_bounds (l : Layout Rat) :
    (∀ p ∈ l.participants, p.header.IsWithin l.bounds ∧ p.lifeline.IsWithin l.bounds) ∧
      (∀ f ∈ l.loops, f.frame.IsWithin l.bounds) ∧ (∀ n ∈ l.notes, n.frame.IsWithin l.bounds) ∧
        ∀ m ∈ l.messages, m.box.IsWithin l.bounds :=
  forall_mem_boxes_iff.1 fun _ hb ↦ Box.isWithin_enclosing hb

end Layout

/-! ## The places of shapes -/

section

variable {d : Diagram}

theorem Diagram.column?_lt {id : String} {i : Nat} (h : d.column? id = some i) :
    i < d.participants.length :=
  (List.findIdx?_eq_some_iff_findIdx_eq.1 h).1

theorem Diagram.ends?_lt {m : Message} {a b : Nat} (h : d.ends? m = some (a, b)) :
    a < d.participants.length ∧ b < d.participants.length := by
  obtain ⟨ha, hb⟩ := ends?_eq_some_iff.1 h
  exact ⟨column?_lt ha, column?_lt hb⟩

theorem Diagram.column?_lt_of_mapM {ids : List String} {columns : List Nat}
    (h : ids.mapM d.column? = some columns) : ∀ i ∈ columns, i < d.participants.length := by
  replace h := mapM_eq_some_iff.1 h
  induction h with
  | nil => exact fun i hi ↦ absurd hi List.not_mem_nil
  | cons hi _ ih => exact List.forall_mem_cons.2 ⟨column?_lt hi, ih⟩

variable {α : Type} [Scalar α] {s : Settings α}

/-- The shape of a participant is its place in the column of its position. -/
theorem Layout.exists_of_mem_participants {shape : ParticipantShape α}
    (h : shape ∈ (ofDiagram d s).participants) :
    ∃ p i, d.participants[i]? = some p ∧ shape = placeParticipant s p i := by
  obtain ⟨⟨p, i⟩, hmem, rfl⟩ := List.mem_map.1 h
  exact ⟨p, i, List.mk_mem_zipIdx_iff_getElem?.1 hmem, rfl⟩

theorem Layout.placeParticipant_mem {p : Participant} {i : Nat}
    (h : d.participants[i]? = some p) :
    placeParticipant s p i ∈ (ofDiagram d s).participants :=
  List.mem_map.2 ⟨(p, i), List.mk_mem_zipIdx_iff_getElem?.2 h, rfl⟩

/-- A frame is at least as wide and as high as one step of the inset. -/
theorem nestInset_le_frameAround (s : Settings Rat) (l : Loop) (left right : Rat) :
    s.nestInset ≤ (frameAround s l left right).width ∧
      s.nestInset ≤ (frameAround s l left right).height := by
  simp only [frameAround, Scalar.greater_eq_max]
  exact ⟨le_sub_iff_add_le'.2 (le_max_right _ _), le_sub_iff_add_le'.2 (le_max_right _ _)⟩

end

/-! ## Notes -/

section

variable {d : Diagram} {n : Note}

/-- The first of the columns between which a note reaches is not behind the last. -/
theorem foldl_min_le_foldl_max (c : Nat) (rest : List Nat) :
    rest.foldl min c ≤ rest.foldl max c :=
  ((List.min?_eq_some_iff.1 List.min?_cons').2 c (List.mem_cons_self ..)).trans
    ((List.max?_eq_some_iff.1 List.max?_cons').2 c (List.mem_cons_self ..))

/-- Where a note begins and how wide it is, by its place. -/
theorem exists_of_noteExtent?_eq_some {α : Type} [Scalar α] {s : Settings α} {x width : α}
    (h : noteExtent? d s n = some (x, width)) :
    ∃ c rest, n.targets.mapM d.column? = some (c :: rest) ∧
      (n.place = .across ∧ x = s.columnX (rest.foldl min c : Nat) ∧
          width = (((rest.foldl max c : Nat) : Int) - (rest.foldl min c : Nat) : Int) * s.spacing +
            s.headerWidth ∨
        n.place = .rightOf ∧ x = s.columnX c + s.sideNoteOffset ∧ width = s.sideNoteWidth ∨
        n.place = .leftOf ∧ x = s.columnX c + s.headerWidth - s.sideNoteOffset - s.sideNoteWidth ∧
          width = s.sideNoteWidth) := by
  rw [noteExtent?] at h
  split at h
  · cases h
  · cases h
  · rename_i c rest hcolumns
    refine ⟨c, rest, hcolumns, ?_⟩
    split at h
    · rename_i hplace
      cases h
      exact .inl ⟨hplace, rfl, rfl⟩
    · rename_i hplace
      cases h
      exact .inr (.inl ⟨hplace, rfl, rfl⟩)
    · rename_i hplace
      cases h
      exact .inr (.inr ⟨hplace, rfl, rfl⟩)

variable {s : Settings Rat}

/-- **The place of a note in the stack**: it is as many steps down as notes are drawn before it. -/
theorem getElem?_placeNotes {y : Rat} {notes : List (Note × Nat)} {k : Nat}
    {shape : NoteShape Rat}
    (h : ((placeNotes d s y notes).filterMap Placed.drawn?)[k]? = some shape) :
    ∃ x width, noteExtent? d s shape.note = some (x, width) ∧
      shape.frame = ⟨x, y + k * s.noteStep, width, s.noteHeight⟩ := by
  induction notes generalizing y k with
  | nil => cases h
  | cons p notes ih =>
    obtain ⟨n, i⟩ := p
    rw [placeNotes] at h
    cases hextent : noteExtent? d s n with
    | none =>
      rw [hextent] at h
      exact ih h
    | some extent =>
      obtain ⟨x, width⟩ := extent
      rw [hextent] at h
      cases k with
      | zero =>
        cases h
        refine ⟨x, width, hextent, ?_⟩
        rw [Nat.cast_zero, zero_mul, add_zero]
      | succ k =>
        obtain ⟨x', width', hextent', hframe⟩ := ih h
        refine ⟨x', width', hextent', ?_⟩
        rw [hframe, Nat.cast_succ]
        congr 1
        ring

theorem Layout.getElem?_notes {k : Nat} {shape : NoteShape Rat}
    (h : (ofDiagram d s).notes[k]? = some shape) :
    ∃ x width, noteExtent? d s shape.note = some (x, width) ∧
      shape.frame = ⟨x, s.messageY d.messages.length + s.noteGap + k * s.noteStep, width,
        s.noteHeight⟩ :=
  getElem?_placeNotes h

end

/-! ## Sizes -/

/-- The measures that give shapes their sizes are not negative. -/
structure Settings.SizesNonneg (s : Settings Rat) : Prop where
  /-- The distance between columns. -/
  spacing : 0 ≤ s.spacing
  /-- The width of a header. -/
  headerWidth : 0 ≤ s.headerWidth
  /-- The height of a header. -/
  headerHeight : 0 ≤ s.headerHeight
  /-- The width of a lifeline. -/
  lifelineWidth : 0 ≤ s.lifelineWidth
  /-- The length of a lifeline. -/
  lifelineHeight : 0 ≤ s.lifelineHeight
  /-- The height of a note. -/
  noteHeight : 0 ≤ s.noteHeight
  /-- The width of a note beside a participant. -/
  sideNoteWidth : 0 ≤ s.sideNoteWidth
  /-- How far a frame is drawn in. -/
  nestInset : 0 ≤ s.nestInset

theorem Settings.sizesNonneg_standard : (standard : Settings Rat).SizesNonneg := by
  rw [standard_eq]
  constructor <;> norm_num

section

variable {d : Diagram} {s : Settings Rat} (hs : s.SizesNonneg)

include hs

theorem noteExtent?_width_nonneg {n : Note} {x width : Rat}
    (h : noteExtent? d s n = some (x, width)) : 0 ≤ width := by
  obtain ⟨c, rest, -, ⟨-, -, rfl⟩ | ⟨-, -, rfl⟩ | ⟨-, -, rfl⟩⟩ :=
    exists_of_noteExtent?_eq_some h
  · have hcolumns : (0 : Rat) ≤
        (((rest.foldl max c : Nat) : Int) - (rest.foldl min c : Nat) : Int) := by
      have hle := foldl_min_le_foldl_max c rest
      exact_mod_cast (by omega : (0 : Int) ≤ (rest.foldl max c : Nat) - (rest.foldl min c : Nat))
    exact add_nonneg (mul_nonneg hcolumns hs.spacing) hs.headerWidth
  · exact hs.sideNoteWidth
  · exact hs.sideNoteWidth

/-- **No shape of a picture has a negative size**, unless one of the measures is negative. -/
theorem Layout.boxes_nonneg : ∀ b ∈ (ofDiagram d s).boxes, 0 ≤ b.width ∧ 0 ≤ b.height := by
  refine forall_mem_boxes_iff.2 ⟨fun p hp ↦ ?_, fun f hf ↦ ?_, fun n hn ↦ ?_, fun m _ ↦ ?_⟩
  · obtain ⟨p, i, -, rfl⟩ := exists_of_mem_participants hp
    exact ⟨⟨hs.headerWidth, hs.headerHeight⟩, hs.lifelineWidth, hs.lifelineHeight⟩
  · obtain ⟨c, rest, -, -, hframe⟩ := exists_frame_eq hf
    rw [hframe]
    exact (nestInset_le_frameAround s f.loop _ _).imp hs.nestInset.trans hs.nestInset.trans
  · obtain ⟨k, hk⟩ := List.mem_iff_getElem?.1 hn
    obtain ⟨x, width, hextent, hframe⟩ := getElem?_notes hk
    rw [hframe]
    exact ⟨noteExtent?_width_nonneg hs hextent, hs.noteHeight⟩
  · have hwidth : m.box.width = |m.target.x - m.source.x| := Scalar.distance_eq_abs _ _
    have hheight : m.box.height = 0 := by
      show (0.0 : Rat) = 0
      norm_num
    exact ⟨hwidth.ge.trans' (abs_nonneg _), hheight.ge⟩

end
end SequenceChart
