import SequenceChart.Proofs.Drawio.Page
import SequenceChart.Slide.Basic

/-!
# One picture in two documents

A sheet and a slide are drawn by themselves, each with its own offset: a sheet is moved only if the
picture begins before the origin, a slide always, and a slide measures in inches.  A slide also has
more on it, crosses and labels, and shows a lifeline as a line where the sheet has a narrow box.
What the two have in common are the figures of the picture, and this file says that these are the
same, one after the other, up to a scale of ninety-six pixels an inch and one move for all of them.
The texts are the same too, in the same order, since the label of a message follows its arrow.

Nothing is assumed of the picture, so this holds for every layout.

## Main definitions

* `Figure` — a part of a picture, apart from how it is drawn.
* `Cell.figure?`, `SlideItem.figure?` — the figures on a sheet and on a slide.
* `Figure.toInches` — the scale, the move and the least size of a box.

## Main statements

* `Layout.filterMap_figure?_slideItems` — the figures on a slide are those on a sheet.
* `Layout.texts_slideItems` — the texts on a slide are those on a sheet.
* `figures_on_slide` — both for the sheet and the slide of a diagram.
-/

set_option autoImplicit false
namespace SequenceChart

/-! ## Figures -/

/-- A part of a picture, apart from how it is drawn. -/
inductive Figure
  /-- A header, a frame or a note, with its text. -/
  | box (kind : BoxKind) (place : Box Rat) (text : String)
  /-- The middle of a lifeline, from its top to its bottom. -/
  | lifeline (top bottom : Point Rat)
  /-- An arrow, from its start to its end. -/
  | arrow (start stop : Point Rat)

/-- The figure that a cell shows. -/
def Cell.figure? : Cell Rat → Option Figure
  | ⟨.participant _, text, _, .vertex b⟩ => some (.box .header b text)
  | ⟨.lifeline _, _, _, .vertex b⟩ =>
    some (.lifeline ⟨b.x + b.width / 2, b.y⟩ ⟨b.x + b.width / 2, b.y + b.height⟩)
  | ⟨.loop _, text, _, .vertex b⟩ => some (.box .frame b text)
  | ⟨.message _, _, _, .edge start stop⟩ => some (.arrow start stop)
  | ⟨.note _, text, _, .vertex b⟩ => some (.box .note b text)
  | _ => none

/-- The figure that an item of a slide shows.  A cross and a label belong to an arrow. -/
def SlideItem.figure? : SlideItem Rat → Option Figure
  | .box kind place text => some (.box kind place text)
  | .line .lifeline start stop => some (.lifeline start stop)
  | .line (.arrow _) start stop => some (.arrow start stop)
  | .line .cross _ _ | .label _ _ => none

/-- The text that an item of a slide holds. -/
def SlideItem.text? {α : Type} : SlideItem α → Option String
  | .box _ _ text | .label _ text => some text
  | .line _ _ _ => none

/-- A point in inches, moved. -/
def Point.toInches (tx ty : Rat) (p : Point Rat) : Point Rat :=
  ⟨p.x / 96 + tx, p.y / 96 + ty⟩

/-- A figure in inches, moved; no side of a box is less than a twentieth of an inch. -/
def Figure.toInches (tx ty : Rat) : Figure → Figure
  | box kind place text =>
    .box kind ⟨place.x / 96 + tx, place.y / 96 + ty, max (1 / 20) (place.width / 96),
      max (1 / 20) (place.height / 96)⟩ text
  | lifeline top bottom => .lifeline (top.toInches tx ty) (bottom.toInches tx ty)
  | arrow start stop => .arrow (start.toInches tx ty) (stop.toInches tx ty)

/-! ## Places on a slide -/

section

variable (dx dy ex ey : Rat)

/-- The move that turns a picture moved by `dx` pixels into one moved by `ex` inches. -/
theorem toInches_shift (p : Point Rat) :
    (p.shift dx dy).toInches (ex - dx / 96) (ey - dy / 96) = p.onSlide ex ey := by
  have hcoordinate : ∀ v d e : Rat, (v + d) / 96 + (e - d / 96) = v / 96.0 + e := by
    intro v d e
    norm_num
    ring
  exact congrArg₂ Point.mk (hcoordinate p.x dx ex) (hcoordinate p.y dy ey)

theorem box_toInches_shift (kind : BoxKind) (b : Box Rat) (text : String) :
    (Figure.box kind (b.shift dx dy) text).toInches (ex - dx / 96) (ey - dy / 96) =
      .box kind (b.onSlide ex ey) text := by
  obtain ⟨x, y, width, height⟩ := b
  have hsize : ∀ v : Rat, max (1 / 20) (v / 96) = Scalar.greater 0.05 (v / 96.0) := by
    intro v
    rw [Scalar.greater_eq_max]
    norm_num
  have hplace := toInches_shift dx dy ex ey ⟨x, y⟩
  simp only [Point.toInches, Point.shift, Point.onSlide, Point.mk.injEq] at hplace
  simp only [Figure.toInches, Box.shift, Box.onSlide, hplace.1, hplace.2, hsize, inches]

/-! ## The figures of each kind of shape -/

theorem figures_participantItems (p : ParticipantShape Rat) :
    (participantItems ex ey p).filterMap SlideItem.figure? =
      ((participantCells dx dy p).filterMap Cell.figure?).map
        (Figure.toInches (ex - dx / 96) (ey - dy / 96)) := by
  have hmiddle : ∀ y : Rat, (⟨p.lifeline.x + dx + p.lifeline.width / 2, y + dy⟩ : Point Rat) =
      Point.shift ⟨p.lifeline.x + p.lifeline.width / 2.0, y⟩ dx dy := by
    intro y
    refine congrArg (Point.mk · (y + dy)) ?_
    show _ = p.lifeline.x + p.lifeline.width / 2.0 + dx
    norm_num
    ring
  have hlifeline : (Figure.lifeline ⟨p.lifeline.x + dx + p.lifeline.width / 2, p.lifeline.y + dy⟩
        ⟨p.lifeline.x + dx + p.lifeline.width / 2, p.lifeline.y + dy + p.lifeline.height⟩).toInches
          (ex - dx / 96) (ey - dy / 96) =
      .lifeline (Point.onSlide ⟨p.lifeline.x + p.lifeline.width / 2.0, p.lifeline.y⟩ ex ey)
        (Point.onSlide ⟨p.lifeline.x + p.lifeline.width / 2.0, p.lifeline.bottom⟩ ex ey) := by
    rw [add_right_comm p.lifeline.y, hmiddle, hmiddle, Figure.toInches, toInches_shift,
      toInches_shift]
    rfl
  show [Figure.box .header (p.header.onSlide ex ey) p.participant.label, _] =
    [Figure.toInches _ _ (.box .header (p.header.shift dx dy) p.participant.label),
      Figure.toInches _ _ (.lifeline _ _)]
  rw [box_toInches_shift]
  exact congrArg (fun f ↦ [_, f]) hlifeline.symm

theorem figures_messageItems (m : MessageShape Rat) :
    (messageItems ex ey m).filterMap SlideItem.figure? =
      ((Cell.figure? (messageCell dx dy m)).map
        (Figure.toInches (ex - dx / 96) (ey - dy / 96))).toList := by
  show _ = [Figure.arrow ((m.source.shift dx dy).toInches _ _)
    ((m.target.shift dx dy).toInches _ _)]
  rw [toInches_shift, toInches_shift, messageItems]
  split <;> split <;> rfl

/-- **The figures on a slide are those on a sheet**, wherever each of them is moved. -/
theorem Layout.filterMap_figure?_slideItems (l : Layout Rat) :
    (l.slideItems ex ey).filterMap SlideItem.figure? =
      ((l.cells dx dy).filterMap Cell.figure?).map
        (Figure.toInches (ex - dx / 96) (ey - dy / 96)) := by
  rw [slideItems, cells]
  simp only [List.filterMap_append, List.map_append, List.filterMap_flatMap, List.map_flatMap,
    List.filterMap_map, List.map_filterMap]
  congr 1
  · congr 1
    · congr 1
      · exact List.flatMap_congr fun p _ ↦ figures_participantItems dx dy ex ey p
      · exact List.filterMap_congr fun f _ ↦
          congrArg some (box_toInches_shift dx dy ex ey .frame f.frame f.loop.label).symm
    · rw [List.filterMap_eq_flatMap_toList]
      exact List.flatMap_congr fun m _ ↦ figures_messageItems dx dy ex ey m
  · exact List.filterMap_congr fun n _ ↦
      congrArg some (box_toInches_shift dx dy ex ey .note n.frame n.note.text).symm

end

/-- Every cell shows a figure. -/
theorem Layout.length_filterMap_figure?_cells (l : Layout Rat) (dx dy : Rat) :
    ((l.cells dx dy).filterMap Cell.figure?).length = (l.cells dx dy).length := by
  rw [List.filterMap_length_eq_length]
  refine forall_mem_cells_iff.2 ⟨fun p _ ↦ ?_, fun f _ ↦ rfl, fun m _ ↦ rfl, fun n _ ↦ rfl⟩
  rw [participantCells, List.forall_mem_cons, List.forall_mem_singleton]
  exact ⟨rfl, rfl⟩

/-! ## Texts -/

section

variable {α : Type} [Scalar α]

theorem texts_messageItems (ex ey : α) (m : MessageShape α) :
    (messageItems ex ey m).filterMap SlideItem.text? = [m.message.text].filter (!·.isEmpty) := by
  rw [messageItems, List.filter_cons]
  cases m.message.text.isEmpty <;> split <;> rfl

theorem texts_participantItems (dx dy ex ey : α) (p : ParticipantShape α) :
    ((participantItems ex ey p).filterMap SlideItem.text?).filter (!·.isEmpty) =
      ((participantCells dx dy p).map (·.value)).filter (!·.isEmpty) := by
  show [p.participant.label].filter _ = [p.participant.label, ""].filter _
  rw [List.filter_cons, List.filter_cons]
  rfl

/-- **The texts on a slide are those on a sheet**, apart from the empty ones: a lifeline has none,
and an empty label is not drawn. -/
theorem Layout.texts_slideItems (l : Layout α) (dx dy ex ey : α) :
    ((l.slideItems ex ey).filterMap SlideItem.text?).filter (!·.isEmpty) =
      ((l.cells dx dy).map (·.value)).filter (!·.isEmpty) := by
  rw [slideItems, cells]
  simp only [List.filterMap_append, List.map_append, List.filter_append, List.filterMap_flatMap,
    List.map_flatMap, List.filter_flatMap, List.filterMap_map, List.map_map, texts_messageItems,
    texts_participantItems dx dy]
  congr 1
  · congr 1
    · exact congrArg (_ ++ List.filter _ ·) (congrFun List.filterMap_eq_map l.loops)
    · rw [List.map_eq_flatMap, List.filter_flatMap]
      refine List.flatMap_congr fun m _ ↦ ?_
      rw [List.filter_filter]
      exact List.filter_congr fun t _ ↦ Bool.and_self _
  · exact congrArg (List.filter _) (congrFun List.filterMap_eq_map l.notes)

end

/-! ## The two documents of a diagram -/

/-- **One picture in two documents**: whatever the diagram and the measures, each cell of the sheet
shows a figure, the slide shows the same figures one after the other, in inches and moved by the
same distances, and it has the same texts in the same order. -/
theorem figures_on_slide (d : Diagram) (s : Settings Rat) :
    ∃ sheet, Sheet.ofLayout (Layout.ofDiagram d s) = .ok sheet ∧
      (sheet.cells.filterMap Cell.figure?).length = sheet.cells.length ∧
      (∃ tx ty, (Slide.ofLayout (Layout.ofDiagram d s)).items.filterMap SlideItem.figure? =
        (sheet.cells.filterMap Cell.figure?).map (Figure.toInches tx ty)) ∧
      ((Slide.ofLayout (Layout.ofDiagram d s)).items.filterMap SlideItem.text?).filter
          (!·.isEmpty) =
        (sheet.cells.map (·.value)).filter (!·.isEmpty) := by
  obtain ⟨sheet, hsheet⟩ := Sheet.exists_ofLayout_eq_ok (Layout.ofDiagram d s)
  refine ⟨sheet, hsheet, ?_⟩
  rw [Sheet.cells_eq hsheet]
  exact ⟨Layout.length_filterMap_figure?_cells _ _ _,
    ⟨_, _, Layout.filterMap_figure?_slideItems _ _ _ _ _⟩, Layout.texts_slideItems _ _ _ _ _⟩

end SequenceChart
