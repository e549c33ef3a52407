import SequenceChart.Proofs.Drawio.Ids
import SequenceChart.Proofs.Layout.Corners

/-!
# Everything is on the page

The page of a picture reaches from the origin to a little beyond the far edges of the picture, and a
picture that begins before the origin is moved until it begins at the margin.  So no corner of a box
and no end of an arrow is off the page.  The sides of a page are whole numbers, and dropping the
decimals makes a page smaller by less than one; the margin behind the picture is forty.

It does not matter where the picture lies or how far apart its parts are, which is left open here.
Only the sizes of the shapes must not be negative, so that a box reaches from its upper left corner
to its lower right one.

## Main definitions

* `CellPlace.corners`, `cellCorners` — the corners of a box and the ends of an arrow.
* `Sheet.area` — the page as a box.

## Main statements

* `contains_of_mem_corners` — a moved picture lies within its moved bounds.
* `exists_corner_eq` — it begins where its moved bounds begin.
* `isWithin_area` — the moved bounds lie on the page.
* `corners_on_page` — every cell is on the page, and a picture that is moved begins at the margin.
-/

set_option autoImplicit false
namespace SequenceChart

open Xml (Element valueOf?)

/-! ## Corners -/

/-- The corners of a box, or the ends of an arrow. -/
def CellPlace.corners : CellPlace Rat → List (Point Rat)
  | .vertex box => box.corners
  | .edge source target => [source, target]

/-- The corners of all cells. -/
def cellCorners (cells : List (Cell Rat)) : List (Point Rat) :=
  cells.flatMap fun c ↦ c.place.corners

theorem Box.Contains.shift {b : Box Rat} {p : Point Rat} (h : b.Contains p) (dx dy : Rat) :
    (b.shift dx dy).Contains (p.shift dx dy) := by
  have hright : p.x ≤ b.x + b.width := h.right
  have hbottom : p.y ≤ b.y + b.height := h.bottom
  refine ⟨add_le_add_left h.left dx, ?_, add_le_add_left h.top dy, ?_⟩
  · show p.x + dx ≤ b.x + dx + b.width
    linarith
  · show p.y + dy ≤ b.y + dy + b.height
    linarith

theorem Box.corners_shift (b : Box Rat) (dx dy : Rat) :
    (b.shift dx dy).corners = b.corners.map (·.shift dx dy) := by
  rw [corners, right_shift, bottom_shift]
  rfl

/-! ## The cells and the bounds -/

/-- What is asked of all cells is asked of those of each kind of shape. -/
theorem Layout.forall_mem_cells_iff {α : Type} [Scalar α] {l : Layout α} {dx dy : α}
    {q : Cell α → Prop} :
    (∀ c ∈ l.cells dx dy, q c) ↔
      (∀ p ∈ l.participants, ∀ c ∈ participantCells dx dy p, q c) ∧
        (∀ f ∈ l.loops, q (loopCell dx dy f)) ∧ (∀ m ∈ l.messages, q (messageCell dx dy m)) ∧
          ∀ n ∈ l.notes, q (noteCell dx dy n) := by
  simp only [cells, List.forall_mem_append, List.forall_mem_flatMap, List.forall_mem_map,
    and_assoc]

/-- **The corners of the cells** are the points of the picture, moved. -/
theorem cellCorners_cells (l : Layout Rat) (dx dy : Rat) :
    cellCorners (l.cells dx dy) = l.points.map (·.shift dx dy) := by
  have hparticipant : ∀ p : ParticipantShape Rat, cellCorners (participantCells dx dy p) =
      (p.header.corners ++ p.lifeline.corners).map (·.shift dx dy) := by
    intro p
    rw [List.map_append, ← Box.corners_shift, ← Box.corners_shift]
    rfl
  have hframe : ∀ f : LoopShape Rat, (loopCell dx dy f).place.corners =
      f.frame.corners.map (·.shift dx dy) := fun f ↦ f.frame.corners_shift dx dy
  have hmessage : ∀ m : MessageShape Rat, (messageCell dx dy m).place.corners =
      [m.source, m.target].map (·.shift dx dy) := fun _ ↦ rfl
  have hnote : ∀ n : NoteShape Rat, (noteCell dx dy n).place.corners =
      n.frame.corners.map (·.shift dx dy) := fun n ↦ n.frame.corners_shift dx dy
  simp only [cellCorners] at hparticipant
  simp only [cellCorners, Layout.cells, Layout.points, List.flatMap_append, List.map_append,
    List.flatMap_assoc, List.flatMap_map, List.map_flatMap, hparticipant, hframe, hmessage, hnote]

section

variable {d : Diagram} {s : Settings Rat}

/-- **A moved picture lies within its moved bounds**, all corners and ends of it. -/
theorem contains_of_mem_corners (hs : s.SizesNonneg) {dx dy : Rat} :
    ∀ p ∈ cellCorners ((Layout.ofDiagram d s).cells dx dy),
      ((Layout.ofDiagram d s).bounds.shift dx dy).Contains p := by
  rw [cellCorners_cells, List.forall_mem_map]
  exact fun p hp ↦ (Layout.contains_of_mem_points hs p hp).shift dx dy

/-- Where a box that is met by the points of a picture begins there is a corner or an end. -/
theorem exists_corner_of_isMetBy {l : Layout Rat} {b : Box Rat} (h : b.IsMetBy l.points)
    (dx dy : Rat) :
    (∃ p ∈ cellCorners (l.cells dx dy), p.x = b.x + dx) ∧
      ∃ p ∈ cellCorners (l.cells dx dy), p.y = b.y + dy := by
  obtain ⟨⟨p, hp, hx⟩, -, ⟨q, hq, hy⟩, -⟩ := h
  rw [cellCorners_cells]
  exact ⟨⟨_, List.mem_map_of_mem hp, congrArg (· + dx) hx⟩,
    ⟨_, List.mem_map_of_mem hq, congrArg (· + dy) hy⟩⟩

/-- Where a box of a picture begins there is a corner or an end. -/
theorem exists_corner_of_mem_boxes (l : Layout Rat) (dx dy : Rat) :
    ∀ b ∈ l.boxes, (∃ p ∈ cellCorners (l.cells dx dy), p.x = b.x + dx) ∧
      ∃ p ∈ cellCorners (l.cells dx dy), p.y = b.y + dy :=
  fun b hb ↦ exists_corner_of_isMetBy (l.isMetBy_of_mem_boxes b hb) dx dy

/-- **A moved picture begins where its moved bounds begin**, unless nothing is drawn. -/
theorem exists_corner_eq {l : Layout Rat} (h : l.boxes ≠ []) (dx dy : Rat) :
    (∃ p ∈ cellCorners (l.cells dx dy), p.x = l.bounds.x + dx) ∧
      ∃ p ∈ cellCorners (l.cells dx dy), p.y = l.bounds.y + dy :=
  exists_corner_of_isMetBy (Layout.isMetBy_bounds h) dx dy

end

/-! ## The page and the bounds -/

theorem pageMargin_eq : (pageMargin : Rat) = 40 := by
  norm_num [pageMargin]

/-- A picture that begins before the origin is moved to the margin. -/
theorem add_offsetFrom_of_neg {start : Rat} (h : start < 0) : start + offsetFrom start = 40 := by
  have hzero : (0.0 : Rat) = 0 := by norm_num
  rw [offsetFrom, hzero, if_pos h, pageMargin_eq]
  exact add_sub_cancel start 40

/-- No picture begins before the origin once it is moved. -/
theorem add_offsetFrom_nonneg (start : Rat) : 0 ≤ start + offsetFrom start := by
  rcases lt_or_ge start 0 with h | h
  · rw [add_offsetFrom_of_neg h]
    norm_num
  · have hzero : (0.0 : Rat) = 0 := by norm_num
    rw [offsetFrom, hzero, if_neg (not_lt.2 h)]
    exact (add_zero start).ge.trans' h

/-- A side of a page reaches beyond the picture. -/
theorem add_le_max_truncateRat (least : Int) (stop offset : Rat) :
    stop + offset ≤ (max least (Scalar.truncateRat (stop + offset + pageMargin)) : Int) := by
  have htruncate := Scalar.sub_one_lt_truncateRat (stop + offset + pageMargin)
  have hmax : (Scalar.truncateRat (stop + offset + pageMargin) : Rat) ≤
      (max least (Scalar.truncateRat (stop + offset + pageMargin)) : Int) :=
    Int.cast_le.2 (le_max_right _ _)
  have hmargin := pageMargin_eq
  linarith

/-- The page as a box. -/
def Sheet.area (sheet : Sheet Rat) : Box Rat :=
  ⟨0, 0, sheet.width, sheet.height⟩

theorem Sheet.right_area (sheet : Sheet Rat) : sheet.area.right = sheet.width :=
  zero_add _

theorem Sheet.bottom_area (sheet : Sheet Rat) : sheet.area.bottom = sheet.height :=
  zero_add _

/-- The page of a picture, in exact arithmetic. -/
theorem Sheet.ofLayout_rat (l : Layout Rat) : ofLayout l = .ok
    { width := max 800 (Scalar.truncateRat (l.bounds.right + (pageOffset l).1 + pageMargin))
      height := max 400 (Scalar.truncateRat (l.bounds.bottom + (pageOffset l).2 + pageMargin))
      cells := l.cells (pageOffset l).1 (pageOffset l).2 } :=
  rfl

/-- **The moved bounds lie on the page.** -/
theorem isWithin_area {l : Layout Rat} {sheet : Sheet Rat} (h : Sheet.ofLayout l = .ok sheet) :
    (l.bounds.shift (pageOffset l).1 (pageOffset l).2).IsWithin sheet.area := by
  rw [Sheet.ofLayout_rat] at h
  cases h
  refine ⟨add_offsetFrom_nonneg _, ?_, add_offsetFrom_nonneg _, ?_⟩
  · rw [Sheet.right_area]
    refine le_trans (le_of_eq ?_) (add_le_max_truncateRat 800 l.bounds.right (pageOffset l).1)
    exact l.bounds.right_shift _ _
  · rw [Sheet.bottom_area]
    refine le_trans (le_of_eq ?_) (add_le_max_truncateRat 400 l.bounds.bottom (pageOffset l).2)
    exact l.bounds.bottom_shift _ _

/-! ## The page in the file -/

section

variable {α : Type} [Scalar α]

theorem attributesOf_model_cellElement (c : Cell α) :
    (cellElement c).attributesOf "mxGraphModel" = [] := by
  obtain ⟨id, value, style, place⟩ := c
  cases place <;> simp [cellElement, placeElement, pointElement, Element.attributesOf_node]

/-- The sides of the page as they are written into the file. -/
theorem pageSides_fileElement (now : Timestamp) (sheet : Sheet α) :
    ((fileElement now sheet).attributesOf "mxGraphModel").map
        (fun a ↦ (valueOf? "pageWidth" a, valueOf? "pageHeight" a)) =
      [(some (toString sheet.width), some (toString sheet.height))] := by
  have hcells :
      (sheet.cells.map cellElement).flatMap (Element.attributesOf "mxGraphModel") = [] := by
    rw [List.flatMap_map, List.flatMap_eq_nil_iff]
    exact fun c _ ↦ attributesOf_model_cellElement c
  simp [fileElement, baseElements, Element.attributesOf_node, hcells, valueOf?]

end

/-! ## Every cell -/

/-- Where a picture begins before the origin something is drawn. -/
theorem Layout.boxes_ne_nil {l : Layout Rat} (h : l.bounds.x < 0 ∨ l.bounds.y < 0) :
    l.boxes ≠ [] := by
  intro hnil
  rw [bounds, hnil, Box.enclosing_nil] at h
  exact h.elim (lt_irrefl 0) (lt_irrefl 0)

/-- Along one coordinate, corners that were moved from before the origin begin at the margin. -/
theorem min?_map_eq_margin {corners : List (Point Rat)} {coordinate : Point Rat → Rat} {start : Rat}
    (hstart : start < 0) (hle : ∀ p ∈ corners, start + offsetFrom start ≤ coordinate p)
    (hex : ∃ p ∈ corners, coordinate p = start + offsetFrom start) :
    (corners.map coordinate).min? = some 40 := by
  rw [add_offsetFrom_of_neg hstart] at hle hex
  exact List.min?_eq_some_iff.2 ⟨List.mem_map.2 hex, List.forall_mem_map.2 hle⟩

/-- **Every cell is on the page**, whatever the diagram and wherever the picture lies, as long as no
size is negative.  A picture that reaches to the left of the origin or above it is moved, and then
begins at the margin. -/
theorem corners_on_page (now : Timestamp) (d : Diagram) (s : Settings Rat) (hs : s.SizesNonneg) :
    ∃ sheet, Sheet.ofLayout (Layout.ofDiagram d s) = .ok sheet ∧
      ((fileElement now sheet).attributesOf "mxGraphModel").map
          (fun a ↦ (valueOf? "pageWidth" a, valueOf? "pageHeight" a)) =
        [(some (toString sheet.width), some (toString sheet.height))] ∧
      (∀ p ∈ cellCorners sheet.cells, sheet.area.Contains p) ∧
      (∀ p ∈ cellCorners ((Layout.ofDiagram d s).cells 0 0), p.x < 0 →
        ((cellCorners sheet.cells).map (·.x)).min? = some 40) ∧
      ∀ p ∈ cellCorners ((Layout.ofDiagram d s).cells 0 0), p.y < 0 →
        ((cellCorners sheet.cells).map (·.y)).min? = some 40 := by
  obtain ⟨sheet, hsheet⟩ := Sheet.exists_ofLayout_eq_ok (Layout.ofDiagram d s)
  have hmoved : ∀ p ∈ cellCorners sheet.cells, ((Layout.ofDiagram d s).bounds.shift
      (pageOffset (Layout.ofDiagram d s)).1 (pageOffset (Layout.ofDiagram d s)).2).Contains p := by
    rw [Sheet.cells_eq hsheet]
    exact contains_of_mem_corners hs
  refine ⟨sheet, hsheet, pageSides_fileElement now sheet,
    fun p hp ↦ (hmoved p hp).mono (isWithin_area hsheet), fun p hp hneg ↦ ?_, fun p hp hneg ↦ ?_⟩
  · have hstart : (Layout.ofDiagram d s).bounds.x < 0 := by
      have hleft : (Layout.ofDiagram d s).bounds.x + 0 ≤ p.x :=
        (contains_of_mem_corners hs p hp).left
      linarith
    refine min?_map_eq_margin hstart (fun q hq ↦ (hmoved q hq).left) ?_
    rw [Sheet.cells_eq hsheet]
    exact (exists_corner_eq (Layout.boxes_ne_nil (.inl hstart)) _ _).1
  · have hstart : (Layout.ofDiagram d s).bounds.y < 0 := by
      have htop : (Layout.ofDiagram d s).bounds.y + 0 ≤ p.y := (contains_of_mem_corners hs p hp).top
      linarith
    refine min?_map_eq_margin hstart (fun q hq ↦ (hmoved q hq).top) ?_
    rw [Sheet.cells_eq hsheet]
    exact (exists_corner_eq (Layout.boxes_ne_nil (.inr hstart)) _ _).2

/-- A note to the left of the first participant, whose header is above the origin: the picture is
moved to the right and down. -/
theorem corners_on_page_moved :
    let d : Diagram := ⟨[⟨"a", "A"⟩], [], [⟨.leftOf, ["a"], "x"⟩], []⟩
    let s : Settings Rat := { Settings.standard with headerY := -50 }
    s.SizesNonneg ∧ ∃ sheet, Sheet.ofLayout (Layout.ofDiagram d s) = .ok sheet ∧
      (∀ p ∈ cellCorners sheet.cells, sheet.area.Contains p) ∧
      ((cellCorners sheet.cells).map (·.x)).min? = some 40 ∧
      ((cellCorners sheet.cells).map (·.y)).min? = some 40 := by
  intro d s
  have hs : s.SizesNonneg := { Settings.sizesNonneg_standard with }
  obtain ⟨n, hn, hnote⟩ := (Layout.mem_notes_iff d s (n := ⟨.leftOf, ["a"], "x"⟩)).2
    (by decide)
  obtain ⟨k, hk⟩ := List.mem_iff_getElem?.1 hn
  obtain ⟨x, width, hextent, hframe⟩ := Layout.getElem?_notes hk
  have hnegx : n.frame.x < 0 := by
    rw [hnote] at hextent
    cases hextent
    rw [hframe]
    show (Settings.standard : Settings Rat).baseX + ((0 : Int) : Rat) * Settings.standard.spacing +
      Settings.standard.headerWidth - Settings.standard.sideNoteOffset -
        Settings.standard.sideNoteWidth < 0
    rw [Settings.standard_eq]
    norm_num
  obtain ⟨hheaders, -, hnotes, -⟩ := Layout.forall_mem_boxes_iff.1
    (exists_corner_of_mem_boxes (Layout.ofDiagram d s) 0 0)
  obtain ⟨⟨p, hp, hpx⟩, -⟩ := hnotes n hn
  obtain ⟨-, q, hq, hqy⟩ := (hheaders (placeParticipant s ⟨"a", "A"⟩ 0)
    (Layout.placeParticipant_mem rfl)).1
  have hnegy : q.y < 0 := by
    rw [hqy]
    show (-50 : Rat) + 0 < 0
    norm_num
  obtain ⟨sheet, hsheet, -, harea, hmovedx, hmovedy⟩ :=
    corners_on_page (Timestamp.ofMicroseconds 0) d s hs
  exact ⟨hs, sheet, hsheet, harea, hmovedx p hp (by rwa [hpx, add_zero]), hmovedy q hq hnegy⟩

end SequenceChart
