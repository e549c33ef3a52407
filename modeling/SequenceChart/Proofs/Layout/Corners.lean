import SequenceChart.Proofs.Layout.Bounds

/-!
# The least box around a picture

The bounds of a picture are put together from boxes, an arrow counting as a box without height.
What a reader sees of them are points: the corners of headers, lifelines, frames and notes, and the
ends of arrows.  All of these points lie within the bounds if no size is negative, and each side of
the bounds goes through one of them.  So no smaller box has them all.

That a side is met needs no sizes: the box of an arrow begins at one of the two ends, whichever way
it points, and ends at the other.

## Main definitions

* `Layout.points` — the corners of the boxes and the ends of the arrows.
* `Box.IsMetBy` — that each side of a box goes through some of the given points.

## Main statements

* `Box.isMetBy_enclosing`, `Box.IsMetBy.isWithin` — a box around others is met where they are, and
  it is the least one then.
* `Layout.contains_of_mem_points` — the points of a picture lie within its bounds.
* `Layout.isMetBy_bounds` — each side of the bounds goes through one of them.
* `Layout.bounds_least` — both.
-/

set_option autoImplicit false
namespace SequenceChart

/-! ## Sides and points -/

namespace Box

/-- Each of the four sides of a box goes through one of some points. -/
structure IsMetBy (b : Box Rat) (ps : List (Point Rat)) : Prop where
  /-- The left side. -/
  left : ∃ p ∈ ps, p.x = b.x
  /-- The right side. -/
  right : ∃ p ∈ ps, p.x = b.right
  /-- The upper side. -/
  top : ∃ p ∈ ps, p.y = b.y
  /-- The lower side. -/
  bottom : ∃ p ∈ ps, p.y = b.bottom

theorem IsMetBy.mono {b : Box Rat} {ps qs : List (Point Rat)} (h : b.IsMetBy ps)
    (hps : ∀ p ∈ ps, p ∈ qs) : b.IsMetBy qs where
  left := h.left.imp fun _ ↦ .imp_left (hps _)
  right := h.right.imp fun _ ↦ .imp_left (hps _)
  top := h.top.imp fun _ ↦ .imp_left (hps _)
  bottom := h.bottom.imp fun _ ↦ .imp_left (hps _)

theorem isMetBy_corners (b : Box Rat) : b.IsMetBy b.corners where
  left := ⟨⟨b.x, b.y⟩, by simp [corners], rfl⟩
  right := ⟨⟨b.right, b.bottom⟩, by simp [corners], rfl⟩
  top := ⟨⟨b.x, b.y⟩, by simp [corners], rfl⟩
  bottom := ⟨⟨b.right, b.bottom⟩, by simp [corners], rfl⟩

/-- **The box around some boxes is met** where they are. -/
theorem isMetBy_enclosing {boxes : List (Box Rat)} {ps : List (Point Rat)} (hne : boxes ≠ [])
    (h : ∀ b ∈ boxes, b.IsMetBy ps) : (enclosing boxes).IsMetBy ps := by
  obtain ⟨⟨l, hl, hleft⟩, ⟨r, hr, hright⟩, ⟨t, ht, htop⟩, b, hb, hbottom⟩ := exists_mem_edge_eq hne
  exact ⟨hleft ▸ (h l hl).left, hright ▸ (h r hr).right, htop ▸ (h t ht).top,
    hbottom ▸ (h b hb).bottom⟩

/-- **A box that is met on all sides is the least one**: it lies within every box that contains the
points. -/
theorem IsMetBy.isWithin {b c : Box Rat} {ps : List (Point Rat)} (h : b.IsMetBy ps)
    (hc : ∀ p ∈ ps, c.Contains p) : b.IsWithin c := by
  obtain ⟨⟨l, hl, hleft⟩, ⟨r, hr, hright⟩, ⟨t, ht, htop⟩, p, hp, hbottom⟩ := h
  exact ⟨hleft ▸ (hc l hl).left, hright ▸ (hc r hr).right, htop ▸ (hc t ht).top,
    hbottom ▸ (hc p hp).bottom⟩

theorem Contains.size_nonneg {b : Box Rat} {p : Point Rat} (h : b.Contains p) :
    0 ≤ b.width ∧ 0 ≤ b.height :=
  ⟨nonneg_of_le_add_right (h.left.trans h.right), nonneg_of_le_add_right (h.top.trans h.bottom)⟩

end Box

theorem MessageShape.isMetBy_box (m : MessageShape Rat) : m.box.IsMetBy [m.source, m.target] where
  left := by simpa [eq_comm] using m.x_box_eq
  right := by
    rw [right_box_eq]
    simpa [eq_comm] using max_choice m.source.x m.target.x
  top := ⟨m.source, List.mem_cons_self .., rfl⟩
  bottom := ⟨m.source, List.mem_cons_self .., bottom_box_eq.symm⟩

/-! ## The points of a picture -/

namespace Layout

/-- The corners of the boxes of a picture and the ends of its arrows. -/
def points (l : Layout Rat) : List (Point Rat) :=
  l.participants.flatMap (fun p ↦ p.header.corners ++ p.lifeline.corners) ++
    l.loops.flatMap (·.frame.corners) ++ l.messages.flatMap (fun m ↦ [m.source, m.target]) ++
      l.notes.flatMap (·.frame.corners)

/-- What is asked of all points of a picture is asked of those of each kind of shape. -/
theorem forall_mem_points_iff {l : Layout Rat} {q : Point Rat → Prop} :
    (∀ p ∈ l.points, q p) ↔
      (∀ p ∈ l.participants, (∀ c ∈ p.header.corners, q c) ∧ ∀ c ∈ p.lifeline.corners, q c) ∧
        (∀ f ∈ l.loops, ∀ c ∈ f.frame.corners, q c) ∧
          (∀ m ∈ l.messages, ∀ p ∈ [m.source, m.target], q p) ∧
            ∀ n ∈ l.notes, ∀ c ∈ n.frame.corners, q c := by
  simp only [points, List.forall_mem_append, List.forall_mem_flatMap, and_assoc]

/-- Each box of a picture is met by its corners, or by the ends of its arrow. -/
theorem isMetBy_of_mem_boxes (l : Layout Rat) : ∀ b ∈ l.boxes, b.IsMetBy l.points := by
  obtain ⟨hheaders, hframes, hmessages, hnotes⟩ :=
    (forall_mem_points_iff (q := (· ∈ l.points))).1 fun _ hp ↦ hp
  refine forall_mem_boxes_iff.2 ⟨fun p hp ↦ ?_, fun f hf ↦ ?_, fun n hn ↦ ?_, fun m hm ↦ ?_⟩
  · exact ⟨p.header.isMetBy_corners.mono (hheaders p hp).1,
      p.lifeline.isMetBy_corners.mono (hheaders p hp).2⟩
  · exact f.frame.isMetBy_corners.mono (hframes f hf)
  · exact n.frame.isMetBy_corners.mono (hnotes n hn)
  · exact m.isMetBy_box.mono (hmessages m hm)

/-- **Each side of the bounds goes through a point of the picture**, unless nothing is drawn. -/
theorem isMetBy_bounds {l : Layout Rat} (h : l.boxes ≠ []) : l.bounds.IsMetBy l.points :=
  Box.isMetBy_enclosing h l.isMetBy_of_mem_boxes

section

variable {d : Diagram} {s : Settings Rat}

/-- Both ends of an arrow lie within the bounds. -/
theorem contains_ends {m : MessageShape Rat} (hm : m ∈ (ofDiagram d s).messages) :
    (ofDiagram d s).bounds.Contains m.source ∧ (ofDiagram d s).bounds.Contains m.target := by
  obtain ⟨a, b, -, hsource, htarget⟩ := exists_ends?_of_mem_messages hm
  have hlevel : m.target.y = m.source.y := by rw [hsource, htarget]
  have hwithin := (ofDiagram d s).isWithin_bounds.2.2.2 m hm
  exact (MessageShape.contains_box hlevel).imp (·.mono hwithin) (·.mono hwithin)

variable (hs : s.SizesNonneg)

include hs

/-- **The points of a picture lie within its bounds.** -/
theorem contains_of_mem_points :
    ∀ p ∈ (ofDiagram d s).points, (ofDiagram d s).bounds.Contains p := by
  -- the corners of a box of the picture
  have hbox : ∀ b ∈ (ofDiagram d s).boxes, ∀ p ∈ b.corners,
      (ofDiagram d s).bounds.Contains p := by
    intro b hb p hp
    obtain ⟨hwidth, hheight⟩ := boxes_nonneg hs b hb
    exact (Box.contains_of_mem_corners hwidth hheight p hp).mono (Box.isWithin_enclosing hb)
  obtain ⟨hheaders, hframes, hnotes, -⟩ := forall_mem_boxes_iff.1 hbox
  refine forall_mem_points_iff.2 ⟨hheaders, hframes, fun m hm ↦ ?_, hnotes⟩
  rw [List.forall_mem_cons, List.forall_mem_singleton]
  exact contains_ends hm

theorem bounds_nonneg : 0 ≤ (ofDiagram d s).bounds.width ∧ 0 ≤ (ofDiagram d s).bounds.height := by
  by_cases hne : (ofDiagram d s).boxes = []
  · rw [bounds, hne, Box.enclosing_nil]
    exact ⟨le_rfl, le_rfl⟩
  · obtain ⟨p, hp, -⟩ := (isMetBy_bounds hne).left
    exact (contains_of_mem_points hs p hp).size_nonneg

end

/-- **The bounds of a picture are the least box around it**: every corner of a header, a lifeline, a
frame or a note and both ends of every arrow lie within them, and if something is drawn, then each
of the four sides goes through one of these points, so that every box with all of the points has the
bounds within it. -/
theorem bounds_least (d : Diagram) (s : Settings Rat) (hs : s.SizesNonneg) :
    (∀ p ∈ (ofDiagram d s).points, (ofDiagram d s).bounds.Contains p) ∧
      ((ofDiagram d s).boxes ≠ [] → (ofDiagram d s).bounds.IsMetBy (ofDiagram d s).points ∧
        ∀ c : Box Rat, (∀ p ∈ (ofDiagram d s).points, c.Contains p) →
          (ofDiagram d s).bounds.IsWithin c) ∧
      0 ≤ (ofDiagram d s).bounds.width ∧ 0 ≤ (ofDiagram d s).bounds.height :=
  ⟨contains_of_mem_points hs,
    fun hne ↦ ⟨isMetBy_bounds hne, fun _ hc ↦ (isMetBy_bounds hne).isWithin hc⟩, bounds_nonneg hs⟩

/-- Shapes of every kind, above the origin and to the left of it. -/
theorem bounds_least_all_kinds :
    let d : Diagram := ⟨[⟨"a", "A"⟩, ⟨"b", "B"⟩], [⟨"b", "a", "x", .solid⟩],
      [⟨.across, ["b", "a"], "y"⟩], [⟨"z", [⟨"b", "a", "x", .solid⟩], 0, 0, 0⟩]⟩
    let s : Settings Rat := { Settings.standard with baseX := -500, headerY := -50 }
    s.SizesNonneg ∧ (ofDiagram d s).boxes ≠ [] ∧
      (∀ p ∈ (ofDiagram d s).points, (ofDiagram d s).bounds.Contains p) ∧
      (ofDiagram d s).bounds.IsMetBy (ofDiagram d s).points := by
  intro d s
  have hs : s.SizesNonneg := { Settings.sizesNonneg_standard with }
  have hheader : (placeParticipant s ⟨"a", "A"⟩ 0).header ∈ (ofDiagram d s).boxes :=
    ((forall_mem_boxes_iff.1 fun _ hb ↦ hb).1 _ (placeParticipant_mem rfl)).1
  have hne : (ofDiagram d s).boxes ≠ [] := List.ne_nil_of_mem hheader
  obtain ⟨hcontains, hleast, -⟩ := bounds_least d s hs
  exact ⟨hs, hne, hcontains, (hleast hne).1⟩

end Layout
end SequenceChart
