import SequenceChart.Proofs.Layout.Corners
import SequenceChart.Proofs.Slide.Limits

/-!
# Everything is on the slide

The picture on a slide has a margin of three tenths of an inch around it, and what is drawn beyond
the picture has to fit there.  A box that is made thicker is made so by a twentieth of an inch at
most, a stroke of a cross reaches six hundredths beyond the end of its arrow, and the label of an
arrow lies a little above it.  The label is at least eight tenths of an inch wide, which is more
than the margin; but it begins in the middle of a column, and to the right of that there is half a
header, which is more than half an inch at standard measures.

A file holds whole units, and what is left over is dropped from the place and from the size of a
shape.  So its far edge is dropped at least as far as the edge of the slide.

## Main definitions

* `Slide.area`, `Layout.withMargins` — the slide as a box, and the picture with its margins.
* `SlideItem.LiesOn`, `DeckShape.LiesOn` — that an item or a shape lies on a slide.

## Main statements

* `withMargins_isWithin_area` — a slide has room for the picture and its margins.
* `liesOn_withMargins` — every item lies within the margins.
* `SlideItem.LiesOn.toShape` — a shape in a file lies on the slide if the item that it stores does.
* `items_on_slide` — all items and all shapes, for all diagrams at standard measures.
-/

set_option autoImplicit false
namespace SequenceChart

/-! ## On a slide -/

/-- The slide as a box. -/
def Slide.area (slide : Slide Rat) : Box Rat :=
  ⟨0, 0, slide.width, slide.height⟩

/-- An item lies on a slide if no edge or end of it is beyond the edges, and it is a box or a label
whose sizes are not negative, or a line. -/
def SlideItem.LiesOn (area : Box Rat) : SlideItem Rat → Prop
  | .box _ place _ | .label place _ => 0 ≤ place.width ∧ 0 ≤ place.height ∧ place.IsWithin area
  | .line _ start stop => area.Contains start ∧ area.Contains stop

theorem SlideItem.LiesOn.mono {a b : Box Rat} {item : SlideItem Rat} (h : item.LiesOn a)
    (hab : a.IsWithin b) : item.LiesOn b := by
  cases item with
  | box | label => exact ⟨h.1, h.2.1, h.2.2.trans hab⟩
  | line => exact ⟨h.1.mono hab, h.2.mono hab⟩

/-- A shape lies on a slide with the given sides. -/
structure DeckShape.LiesOn (width height : Int) (shape : DeckShape) : Prop where
  /-- Its width is not negative. -/
  width_nonneg : 0 ≤ shape.width
  /-- Its height is not negative. -/
  height_nonneg : 0 ≤ shape.height
  /-- It does not begin to the left of the slide. -/
  left : 0 ≤ shape.x
  /-- It does not end to the right of it. -/
  right : shape.x + shape.width ≤ width
  /-- It does not begin above it. -/
  top : 0 ≤ shape.y
  /-- It does not end below it. -/
  bottom : shape.y + shape.height ≤ height

/-! ## The picture and its margins -/

/-- The picture on a slide and the margins around it. -/
def Layout.withMargins (l : Layout Rat) : Box Rat :=
  ⟨0, 0, l.bounds.width / 96 + 3 / 5, l.bounds.height / 96 + 3 / 5⟩

section

variable (l : Layout Rat)

theorem Layout.right_withMargins : l.withMargins.right = l.bounds.width / 96 + 3 / 5 :=
  zero_add _

theorem Layout.bottom_withMargins : l.withMargins.bottom = l.bounds.height / 96 + 3 / 5 :=
  zero_add _

theorem le_greater_margins (least extent : Rat) :
    extent / 96 + 3 / 5 ≤ Scalar.greater least (inches extent + slideMargin * 2.0) := by
  rw [inches_add_margins, Scalar.greater_eq_max]
  exact le_max_right _ _

/-- **A slide has room for the picture and its margins.** -/
theorem withMargins_isWithin_area : l.withMargins.IsWithin (Slide.ofLayout l).area :=
  ⟨le_rfl, add_le_add_right (le_greater_margins 10.0 l.bounds.width) 0, le_rfl,
    add_le_add_right (le_greater_margins 5.625 l.bounds.height) 0⟩

/-- The picture begins at the margins. -/
theorem onSlide_slideGeometry (p : Point Rat) :
    p.onSlide (slideGeometry l).dx (slideGeometry l).dy =
      ⟨(p.x - l.bounds.x) / 96 + 3 / 10, (p.y - l.bounds.y) / 96 + 3 / 10⟩ := by
  have hcoordinate : ∀ v start : Rat,
      inches v + (slideMargin - inches start) = (v - start) / 96 + 3 / 10 := by
    intro v start
    rw [slideMargin_eq, inches, inches]
    norm_num
    ring
  exact congrArg₂ Point.mk (hcoordinate p.x l.bounds.x) (hcoordinate p.y l.bounds.y)

theorem box_onSlide_slideGeometry (b : Box Rat) :
    b.onSlide (slideGeometry l).dx (slideGeometry l).dy =
      ⟨(b.x - l.bounds.x) / 96 + 3 / 10, (b.y - l.bounds.y) / 96 + 3 / 10,
        max (1 / 20) (b.width / 96), max (1 / 20) (b.height / 96)⟩ := by
  have hcorner := onSlide_slideGeometry l ⟨b.x, b.y⟩
  have hsize : ∀ v : Rat, Scalar.greater 0.05 (inches v) = max (1 / 20) (v / 96) := by
    intro v
    rw [Scalar.greater_eq_max, inches]
    norm_num
  rw [Point.onSlide, Point.mk.injEq] at hcorner
  rw [Box.onSlide, hcorner.1, hcorner.2, hsize, hsize]

variable {l}

/-- Along one side, what lies within the picture lies within the margins, made thicker or not. -/
theorem add_max_le {v size start extent : Rat} (hstart : start ≤ v) (hsize : 0 ≤ size)
    (hstop : v + size ≤ start + extent) :
    0 ≤ (v - start) / 96 + 3 / 10 ∧
      (v - start) / 96 + 3 / 10 + max (1 / 20) (size / 96) ≤ extent / 96 + 3 / 5 := by
  have hthick : max (1 / 20) (size / 96) ≤ extent / 96 + 3 / 5 - ((v - start) / 96 + 3 / 10) :=
    max_le (by linarith) (by linarith)
  exact ⟨by linarith, by linarith⟩

/-- **A box of the picture lies within the margins.** -/
theorem liesOn_box {b : Box Rat} (hb : b.IsWithin l.bounds) (hwidth : 0 ≤ b.width)
    (hheight : 0 ≤ b.height) (kind : BoxKind) (text : String) :
    SlideItem.LiesOn l.withMargins
      (.box kind (b.onSlide (slideGeometry l).dx (slideGeometry l).dy) text) := by
  rw [box_onSlide_slideGeometry]
  obtain ⟨hleft, hright⟩ := add_max_le hb.left hwidth hb.right
  obtain ⟨htop, hbottom⟩ := add_max_le hb.top hheight hb.bottom
  refine ⟨le_max_of_le_left (by norm_num), le_max_of_le_left (by norm_num), hleft, ?_, htop, ?_⟩
  · rwa [Layout.right_withMargins]
  · rwa [Layout.bottom_withMargins]

/-- A point lies within the margins if it is no further from a point of the picture than the margins
are wide. -/
theorem contains_of_near {p : Point Rat} (hp : l.bounds.Contains p) {dx dy : Rat}
    (hdx : |dx| ≤ 3 / 10) (hdy : |dy| ≤ 3 / 10) :
    l.withMargins.Contains
      ⟨(p.x - l.bounds.x) / 96 + 3 / 10 + dx, (p.y - l.bounds.y) / 96 + 3 / 10 + dy⟩ := by
  have hright : p.x ≤ l.bounds.x + l.bounds.width := hp.right
  have hbottom : p.y ≤ l.bounds.y + l.bounds.height := hp.bottom
  have hleft := hp.left
  have htop := hp.top
  obtain ⟨hx, hx'⟩ := abs_le.1 hdx
  obtain ⟨hy, hy'⟩ := abs_le.1 hdy
  refine ⟨?_, ?_, ?_, ?_⟩
  · show 0 ≤ (p.x - l.bounds.x) / 96 + 3 / 10 + dx
    linarith
  · rw [Layout.right_withMargins]
    show (p.x - l.bounds.x) / 96 + 3 / 10 + dx ≤ _
    linarith
  · show 0 ≤ (p.y - l.bounds.y) / 96 + 3 / 10 + dy
    linarith
  · rw [Layout.bottom_withMargins]
    show (p.y - l.bounds.y) / 96 + 3 / 10 + dy ≤ _
    linarith

theorem contains_onSlide {p : Point Rat} (hp : l.bounds.Contains p) :
    l.withMargins.Contains (p.onSlide (slideGeometry l).dx (slideGeometry l).dy) := by
  have hzero : |(0 : Rat)| ≤ 3 / 10 := by norm_num
  have hnear := contains_of_near hp hzero hzero
  rwa [onSlide_slideGeometry, ← add_zero ((p.x - l.bounds.x) / 96 + 3 / 10),
    ← add_zero ((p.y - l.bounds.y) / 96 + 3 / 10)]

/-- The middle of a box, from its top to its bottom, lies within the margins. -/
theorem liesOn_middle {b : Box Rat} (hb : b.IsWithin l.bounds) (hwidth : 0 ≤ b.width)
    (hheight : 0 ≤ b.height) (kind : LineKind) :
    SlideItem.LiesOn l.withMargins
      (.line kind
        (Point.onSlide ⟨b.x + b.width / 2.0, b.y⟩ (slideGeometry l).dx (slideGeometry l).dy)
        (Point.onSlide ⟨b.x + b.width / 2.0, b.bottom⟩ (slideGeometry l).dx
          (slideGeometry l).dy)) := by
  have htwo : (2.0 : Rat) = 2 := by norm_num
  have hleft : b.x ≤ b.x + b.width / 2.0 := by
    rw [htwo]
    linarith
  have hright : b.x + b.width / 2.0 ≤ b.right := by
    rw [htwo]
    show b.x + b.width / 2 ≤ b.x + b.width
    linarith
  have hdown : b.y ≤ b.bottom := le_add_of_nonneg_right hheight
  have htop : b.Contains ⟨b.x + b.width / 2.0, b.y⟩ := ⟨hleft, hright, le_rfl, hdown⟩
  have hbottom : b.Contains ⟨b.x + b.width / 2.0, b.bottom⟩ := ⟨hleft, hright, hdown, le_rfl⟩
  exact ⟨contains_onSlide (htop.mono hb), contains_onSlide (hbottom.mono hb)⟩

/-- **The strokes of a cross lie within the margins.** -/
theorem liesOn_crossItems {p : Point Rat} (hp : l.bounds.Contains p) :
    ∀ item ∈ crossItems (p.onSlide (slideGeometry l).dx (slideGeometry l).dy),
      item.LiesOn l.withMargins := by
  have hsize : (crossSize : Rat) = 3 / 50 := by norm_num [crossSize]
  have hcorner : ∀ dx dy : Rat, |dx| = 3 / 50 → |dy| = 3 / 50 → l.withMargins.Contains
      ⟨(p.x - l.bounds.x) / 96 + 3 / 10 + dx, (p.y - l.bounds.y) / 96 + 3 / 10 + dy⟩ := by
    intro dx dy hdx hdy
    exact contains_of_near hp (by rw [hdx]; norm_num) (by rw [hdy]; norm_num)
  have hplus : |(3 / 50 : Rat)| = 3 / 50 := by norm_num
  have hminus : |(-(3 / 50) : Rat)| = 3 / 50 := by norm_num
  rw [crossItems, onSlide_slideGeometry, hsize, List.forall_mem_cons, List.forall_mem_singleton]
  simp only [sub_eq_add_neg _ (3 / 50 : Rat)]
  exact ⟨⟨hcorner _ _ hminus hminus, hcorner _ _ hplus hplus⟩,
    hcorner _ _ hminus hplus, hcorner _ _ hplus hminus⟩

end

/-! ## Labels -/

/-- A label lies within a box if there is room above the arrow, and to the right of its start. -/
theorem liesOn_label {area : Box Rat} {start stop : Point Rat} (hstart : area.Contains start)
    (hstop : area.Contains stop) (htop : area.y + 13 / 50 ≤ start.y)
    (hright : start.x + 4 / 5 ≤ area.right) (text : String) :
    SlideItem.LiesOn area (.label (labelPlace start stop) text) := by
  have hplace : labelPlace start stop =
      ⟨min start.x stop.x, start.y - 13 / 50, max (4 / 5) |stop.x - start.x|, 6 / 25⟩ := by
    rw [labelPlace, Scalar.lesser_eq_min, Scalar.greater_eq_max, Scalar.distance_eq_abs]
    norm_num
  have hend : min start.x stop.x + |stop.x - start.x| = max start.x stop.x := by
    rw [← Scalar.lesser_eq_min, ← Scalar.distance_eq_abs, Scalar.lesser_add_distance]
  have hbottom := hstart.bottom
  rw [hplace]
  refine ⟨le_max_of_le_left (by norm_num), ?_, ?_, ?_, ?_, ?_⟩
  · show (0 : Rat) ≤ 6 / 25
    norm_num
  · exact le_min hstart.left hstop.left
  · show min start.x stop.x + max (4 / 5) |stop.x - start.x| ≤ area.right
    rw [add_max, hend]
    refine max_le ?_ (max_le hstart.right hstop.right)
    exact (add_le_add_left (min_le_left start.x stop.x) _).trans hright
  · show area.y ≤ start.y - 13 / 50
    linarith
  · show start.y - 13 / 50 + 6 / 25 ≤ area.bottom
    linarith

/-! ## The items of a picture -/

/-- What is asked of all items of a slide is asked of those of each kind of shape. -/
theorem Layout.forall_mem_slideItems_iff {α : Type} [Scalar α] {l : Layout α} {dx dy : α}
    {q : SlideItem α → Prop} :
    (∀ item ∈ l.slideItems dx dy, q item) ↔
      (∀ p ∈ l.participants, ∀ item ∈ participantItems dx dy p, q item) ∧
        (∀ f ∈ l.loops, q (loopItem dx dy f)) ∧
          (∀ m ∈ l.messages, ∀ item ∈ messageItems dx dy m, q item) ∧
            ∀ n ∈ l.notes, q (noteItem dx dy n) := by
  simp only [slideItems, List.forall_mem_append, List.forall_mem_flatMap, List.forall_mem_map,
    and_assoc]

section

variable {d : Diagram}

/-- **The arrow of a message, its cross and its label lie within the margins.** -/
theorem liesOn_messageItems {m : MessageShape Rat} (hm : m ∈ d.picture.messages) :
    ∀ item ∈ messageItems (slideGeometry d.picture).dx (slideGeometry d.picture).dy m,
      item.LiesOn d.picture.withMargins := by
  obtain ⟨a, b, hends, hsource, -⟩ := Layout.exists_ends?_of_mem_messages hm
  obtain ⟨hstart, hstop⟩ := Layout.contains_ends hm
  rw [messageItems, List.cons_append, List.forall_mem_cons, List.forall_mem_append]
  refine ⟨⟨contains_onSlide hstart, contains_onSlide hstop⟩, ?_, ?_⟩
  · split
    · exact liesOn_crossItems hstop
    · exact fun item hitem ↦ absurd hitem List.not_mem_nil
  · split
    · exact fun item hitem ↦ absurd hitem List.not_mem_nil
    · rw [List.forall_mem_singleton]
      refine liesOn_label (contains_onSlide hstart) (contains_onSlide hstop) ?_ ?_ _
      · have htop := hstart.top
        rw [onSlide_slideGeometry]
        show (0 : Rat) + 13 / 50 ≤ _ / 96 + 3 / 10
        linarith
      · -- to the right of the middle of a column there is half a header
        have hheader : m.source.x - 50 + 100 ≤ d.picture.bounds.x + d.picture.bounds.width := by
          rw [hsource]
          exact (header_isWithin_bounds (Diagram.ends?_lt hends).1).right
        rw [Layout.right_withMargins, onSlide_slideGeometry]
        show (m.source.x - d.picture.bounds.x) / 96 + 3 / 10 + 4 / 5 ≤ _
        linarith

/-- **Every item lies on the slide**, with the margins around the picture for what is beyond it. -/
theorem liesOn_withMargins :
    ∀ item ∈ (Slide.ofLayout d.picture).items, item.LiesOn d.picture.withMargins := by
  obtain ⟨hheaders, hframes, hnotes, -⟩ := d.picture.isWithin_bounds
  obtain ⟨hheaders', hframes', hnotes', -⟩ := Layout.forall_mem_boxes_iff.1
    (Layout.boxes_nonneg (d := d) Settings.sizesNonneg_standard)
  refine Layout.forall_mem_slideItems_iff.2
    ⟨fun p hp ↦ ?_, fun f hf ↦ ?_, fun m hm ↦ liesOn_messageItems hm, fun n hn ↦ ?_⟩
  · obtain ⟨hheader, hlifeline⟩ := hheaders p hp
    obtain ⟨hheader', hlifeline'⟩ := hheaders' p hp
    rw [participantItems, List.forall_mem_cons, List.forall_mem_singleton]
    exact ⟨liesOn_box hheader hheader'.1 hheader'.2 _ _,
      liesOn_middle hlifeline hlifeline'.1 hlifeline'.2 _⟩
  · exact liesOn_box (hframes f hf) (hframes' f hf).1 (hframes' f hf).2 _ _
  · exact liesOn_box (hnotes n hn) (hnotes' n hn).1 (hnotes' n hn).2 _ _

end

/-! ## In a file -/

/-- Along one side, a length that is stored in units stays within a side that is. -/
theorem units_within {start size side : Rat} (hstart : 0 ≤ start) (hsize : 0 ≤ size)
    (hside : start + size ≤ side) :
    0 ≤ units start ∧ 0 ≤ units size ∧ units start + units size ≤ units side :=
  ⟨units_nonneg hstart, units_nonneg hsize, (units_add_units_le hstart hsize).trans
    (units_le_units (add_nonneg hstart hsize) hside)⟩

/-- Along one side, the shape of a line reaches from one end to the other. -/
theorem ends_within {start stop side : Rat} (hstart : 0 ≤ start ∧ start ≤ side)
    (hstop : 0 ≤ stop ∧ stop ≤ side) :
    0 ≤ min (units start) (units stop) ∧ (0 : Int) ≤ (units stop - units start).natAbs ∧
      min (units start) (units stop) + (units stop - units start).natAbs ≤ units side := by
  have hle := units_le_units hstart.1 hstart.2
  have hle' := units_le_units hstop.1 hstop.2
  have hnonneg := units_nonneg hstart.1
  have hnonneg' := units_nonneg hstop.1
  omega

/-- **A shape in a file lies on the slide** if the item that it stores does. -/
theorem SlideItem.LiesOn.toShape {slide : Slide Rat} {item : SlideItem Rat}
    (h : item.LiesOn slide.area) {id : Nat} {shape : DeckShape}
    (hshape : item.toShape id = .ok shape) :
    shape.LiesOn (units slide.width) (units slide.height) := by
  have hright : slide.area.right = slide.width := zero_add _
  have hbottom : slide.area.bottom = slide.height := zero_add _
  cases item with
  | box kind place text | label place text =>
    obtain ⟨hwidth, hheight, hplace⟩ := h
    obtain ⟨hx, hw, hxw⟩ := units_within hplace.left hwidth (hplace.right.trans hright.le)
    obtain ⟨hy, hh, hyh⟩ := units_within hplace.top hheight (hplace.bottom.trans hbottom.le)
    simp only [SlideItem.toShape, emu_eq, ok_bind] at hshape
    obtain ⟨stored, -, hshape⟩ := exists_of_bind_eq_ok hshape
    cases hshape
    exact ⟨hw, hh, hx, hxw, hy, hyh⟩
  | line kind start stop =>
    obtain ⟨hstart, hstop⟩ := h
    obtain ⟨hx, hw, hxw⟩ := ends_within ⟨hstart.left, hstart.right.trans hright.le⟩
      ⟨hstop.left, hstop.right.trans hright.le⟩
    obtain ⟨hy, hh, hyh⟩ := ends_within ⟨hstart.top, hstart.bottom.trans hbottom.le⟩
      ⟨hstop.top, hstop.bottom.trans hbottom.le⟩
    simp only [SlideItem.toShape, emu_eq] at hshape
    cases hshape
    exact ⟨hw, hh, hx, hxw, hy, hyh⟩

/-! ## All diagrams -/

/-- **Everything is on the slide**, whatever the diagram, at standard measures: boxes, lines,
crosses and labels in inches, and the shapes that a file holds in whole units. -/
theorem items_on_slide (d : Diagram) :
    let slide : Slide Rat := Slide.ofLayout (Layout.ofDiagram d Settings.standard)
    (∀ item ∈ slide.items, item.LiesOn slide.area) ∧
      ∃ width height, emu slide.width = .ok width ∧ emu slide.height = .ok height ∧
        (∀ item ∈ slide.items, ∀ id shape, item.toShape id = .ok shape →
          shape.LiesOn width height) ∧
        ∀ deck, slide.toDeck = .ok deck → deck.width = width ∧ deck.height = height ∧
          ∀ shape ∈ deck.shapes, shape.LiesOn width height := by
  intro slide
  have hitems : ∀ item ∈ slide.items, item.LiesOn slide.area := fun item hitem ↦
    (liesOn_withMargins item hitem).mono (withMargins_isWithin_area _)
  refine ⟨hitems, units slide.width, units slide.height, emu_eq _, emu_eq _,
    fun item hitem id shape ↦ (hitems item hitem).toShape, fun deck hdeck ↦ ?_⟩
  obtain ⟨hwidth, hheight, hshapes⟩ := Slide.parts_of_toDeck_eq_ok hdeck
  refine ⟨hwidth, hheight, fun shape hshape ↦ ?_⟩
  obtain ⟨item, hitem, id, hitem'⟩ := hshapes shape hshape
  exact (hitems item hitem).toShape hitem'

/-- A lost message from the only participant to itself: its label is on the slide, and so is the
rest of the deck. -/
theorem items_on_slide_lost_message :
    let slide : Slide Rat := Slide.ofLayout
      (Layout.ofDiagram (Diagram.ofText "participant A\nA-xA: lost") Settings.standard)
    ∃ width height, emu slide.width = .ok width ∧ emu slide.height = .ok height ∧
      (∃ place id shape, .label place "lost" ∈ slide.items ∧
        (SlideItem.label place "lost").toShape id = .ok shape ∧ shape.LiesOn width height) ∧
      ∃ deck, slide.toDeck = .ok deck ∧ ∀ shape ∈ deck.shapes, shape.LiesOn width height := by
  intro slide
  obtain ⟨-, width, height, hwidth, hheight, hshapes, hdeck⟩ :=
    items_on_slide (Diagram.ofText "participant A\nA-xA: lost")
  refine ⟨width, height, hwidth, hheight, ?_, ?_⟩
  · have hmessage := Layout.mem_messages_of_ends? (s := (Settings.standard : Settings Rat))
      (d := Diagram.ofText "participant A\nA-xA: lost") (m := ⟨"A", "A", "lost", .lost⟩) (i := 0)
      (a := 0) (b := 0) (by decide +kernel) (by decide +kernel)
    obtain ⟨place, hlabel⟩ : ∃ place, .label place "lost" ∈ slide.items :=
      ⟨_, (Layout.forall_mem_slideItems_iff (q := (· ∈ slide.items))).1 (fun _ h ↦ h) |>.2.2.1 _
        hmessage _ (List.mem_append_right _ (List.mem_singleton_self _))⟩
    have htext : ∀ t, (SlideItem.label place "lost").text? = some t → isXmlText t = true := by
      rintro t ⟨⟩
      decide +kernel
    obtain ⟨shape, hshape⟩ :=
      (SlideItem.failsOnly_toShape failsOnly_emu_rat 6 htext).exists_eq_ok
    exact ⟨place, 6, shape, hlabel, hshape, hshapes _ hlabel 6 shape hshape⟩
  · have hloops : (Diagram.ofText "participant A\nA-xA: lost").loops = [] := by decide +kernel
    have hfits := not_outgrows_of_counts (d := Diagram.ofText "participant A\nA-xA: lost")
      (by simp [hloops]) (by simp [hloops]) (by decide +kernel) (by decide +kernel)
    obtain ⟨deck, hok⟩ :=
      exists_deckOfLayout_eq_ok (Diagram.isWritable_ofText _) hfits.1 hfits.2
    exact ⟨deck, hok, (hdeck deck hok).2.2⟩

end SequenceChart
