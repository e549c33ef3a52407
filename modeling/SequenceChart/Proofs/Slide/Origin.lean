import SequenceChart.Proofs.Layout.Shifting
import SequenceChart.Slide.Deck

/-!
# The origin is not seen on a slide

A slide is as large as its picture, and the picture is moved to the margins from wherever it is.  So
nothing on a slide tells where the picture was: if the measures give it another origin, the move
makes up for that, and every box, line, cross and label is in the same place as before.

The move is measured from the bounds.  They follow the picture if it has shapes, and without shapes
there is nothing to be seen.

## Main statements

* `Layout.slideItems_shift` — the items of a moved picture that is moved back.
* `Slide.ofLayout_shift` — a moved picture has the same slide.
* `slide_of_shifted_settings` — measures with another origin move the picture, and the slide stays
  as it is.
-/

set_option autoImplicit false
namespace SequenceChart

section

variable (dx dy ex ey : Rat)

/-! ## Places on a slide -/

theorem inches_add (v c e : Rat) : inches (v + c) + (e - inches c) = inches v + e := by
  rw [inches, add_div]
  exact add_add_sub_cancel (v / 96.0) e (c / 96.0)

theorem Point.onSlide_shift (p : Point Rat) :
    (p.shift dx dy).onSlide (ex - inches dx) (ey - inches dy) = p.onSlide ex ey :=
  congrArg₂ Point.mk (inches_add p.x dx ex) (inches_add p.y dy ey)

theorem Box.onSlide_shift (b : Box Rat) :
    (b.shift dx dy).onSlide (ex - inches dx) (ey - inches dy) = b.onSlide ex ey :=
  congrArg₂ (Box.mk · · _ _) (inches_add b.x dx ex) (inches_add b.y dy ey)

/-! ## The items of each kind of shape -/

theorem participantItems_shift (p : ParticipantShape Rat) :
    participantItems (ex - inches dx) (ey - inches dy) (p.shift dx dy) =
      participantItems ex ey p := by
  have hmiddle : ∀ y : Rat,
      (⟨p.lifeline.x + dx + p.lifeline.width / 2.0, y + dy⟩ : Point Rat) =
        Point.shift ⟨p.lifeline.x + p.lifeline.width / 2.0, y⟩ dx dy := fun y ↦
    congrArg (Point.mk · (y + dy)) (add_right_comm p.lifeline.x dx (p.lifeline.width / 2.0))
  show [SlideItem.box .header ((p.header.shift dx dy).onSlide _ _) p.participant.label,
    .line .lifeline (Point.onSlide ⟨p.lifeline.x + dx + p.lifeline.width / 2.0,
        p.lifeline.y + dy⟩ _ _)
      (Point.onSlide ⟨p.lifeline.x + dx + p.lifeline.width / 2.0,
        (p.lifeline.shift dx dy).bottom⟩ _ _)] = _
  rw [Box.bottom_shift, hmiddle, hmiddle, Box.onSlide_shift, Point.onSlide_shift,
    Point.onSlide_shift]
  rfl

theorem loopItem_shift (l : LoopShape Rat) :
    loopItem (ex - inches dx) (ey - inches dy) (l.shift dx dy) = loopItem ex ey l :=
  congrArg (SlideItem.box .frame · l.loop.label) (l.frame.onSlide_shift dx dy ex ey)

/-- The cross and the label of an arrow are put where its ends are on the slide. -/
theorem messageItems_shift (m : MessageShape Rat) :
    messageItems (ex - inches dx) (ey - inches dy) (m.shift dx dy) = messageItems ex ey m := by
  have hsource := m.source.onSlide_shift dx dy ex ey
  have htarget := m.target.onSlide_shift dx dy ex ey
  rw [messageItems, MessageShape.shift]
  dsimp only
  rw [hsource, htarget, messageItems]

theorem noteItem_shift (n : NoteShape Rat) :
    noteItem (ex - inches dx) (ey - inches dy) (n.shift dx dy) = noteItem ex ey n :=
  congrArg (SlideItem.box .note · n.note.text) (n.frame.onSlide_shift dx dy ex ey)

/-- **The items of a moved picture that is moved back** are those of the picture. -/
theorem Layout.slideItems_shift (l : Layout Rat) :
    (l.shift dx dy).slideItems (ex - inches dx) (ey - inches dy) = l.slideItems ex ey := by
  simp only [slideItems, shift, List.flatMap_map, List.map_map, Function.comp_def,
    participantItems_shift, loopItem_shift, messageItems_shift, noteItem_shift]

/-! ## The slide -/

/-- The size of a slide is that of its picture, and the move of the picture ends at the margins. -/
theorem slideGeometry_shift {l : Layout Rat} (h : l.boxes ≠ []) :
    slideGeometry (l.shift dx dy) =
      { slideGeometry l with
        dx := (slideGeometry l).dx - inches dx
        dy := (slideGeometry l).dy - inches dy } := by
  have hmove : ∀ v c : Rat, slideMargin - inches (v + c) = slideMargin - inches v - inches c := by
    intro v c
    rw [inches, add_div]
    exact sub_add_eq_sub_sub _ _ _
  rw [slideGeometry, Layout.bounds_shift dx dy h, slideGeometry]
  exact congrArg₂ (SlideGeometry.mk _ _) (hmove l.bounds.x dx) (hmove l.bounds.y dy)

/-- **A moved picture has the same slide.** -/
theorem Slide.ofLayout_shift (l : Layout Rat) : ofLayout (l.shift dx dy) = ofLayout l := by
  by_cases h : l.boxes = []
  · rw [Layout.shift_of_boxes_eq_nil dx dy h]
  · rw [ofLayout, slideGeometry_shift dx dy h]
    dsimp only
    rw [Layout.slideItems_shift, ofLayout]

end

/-- **Measures with another origin move the picture, and the slide stays as it is**, whatever the
diagram and the measures.  If the first column begins `dx` further to the right, and the headers and
the first message `dy` further down, then the picture has the same shapes in the same order, each of
them moved by `dx` and `dy` and none of another size.  The slide has the same size and the same
items in the same places, and it is stored in the same units, or refused for the same reason. -/
theorem slide_of_shifted_settings (d : Diagram) (s : Settings Rat) (dx dy : Rat) :
    Layout.ofDiagram d (s.shift dx dy) = (Layout.ofDiagram d s).shift dx dy ∧
      Slide.ofLayout (Layout.ofDiagram d (s.shift dx dy)) =
        Slide.ofLayout (Layout.ofDiagram d s) ∧
      deckOfLayout (Layout.ofDiagram d (s.shift dx dy)) = deckOfLayout (Layout.ofDiagram d s) := by
  have hslide : Slide.ofLayout (Layout.ofDiagram d (s.shift dx dy)) =
      Slide.ofLayout (Layout.ofDiagram d s) := by
    rw [Layout.ofDiagram_shift, Slide.ofLayout_shift]
  refine ⟨Layout.ofDiagram_shift dx dy s d, hslide, ?_⟩
  rw [deckOfLayout, hslide, deckOfLayout]

end SequenceChart
