import SequenceChart.Layout.Range
import SequenceChart.Proofs.Diagram.Strings
import SequenceChart.Proofs.Layout.Drawn
import SequenceChart.Proofs.Xml.Tags
import SequenceChart.Proofs.Xml.Texts

/-!
# When there is no document

The writer refuses a document if one of its values has a character that XML cannot hold, whichever
element the value is in.  Here the refusal is traced back to the diagram.  Everything in a file
apart from the values of the cells is put together from words and numbers (`Proofs/Xml/Texts.lean`),
and the values of the cells are the texts of the parts that are drawn (`Proofs/Layout/Drawn.lean`),
so a document is refused for one of these texts or not at all.

In exact arithmetic the page of a picture always has a size, so that there is nothing else that a
document can fail for; and as XML can hold all strings that are read from a source, every source has
a document.

## Main statements

* `Layout.exists_mem_cells_iff` — the texts in the cells are those that the diagram shows.
* `drawioDocument_eq` — a document is refused for the value of a cell only.
* `convertToDrawio_eq_error` — a source fails only by having no page, whatever the arithmetic.
* `drawio_eq_error_iff` — a document fails for a text that is shown and for nothing else.
-/

set_option autoImplicit false
namespace SequenceChart

open Xml (Element)

/-! ## The texts in the cells -/

section

variable {α : Type} [Scalar α] {d : Diagram} {s : Settings α} {dx dy : α}

/-- **The texts in the cells** are those that the diagram shows.  Nothing is written into a
lifeline, so the empty text says nothing about the diagram. -/
theorem Layout.exists_mem_cells_iff {t : String} (ht : t ≠ "") :
    (∃ c ∈ (ofDiagram d s).cells dx dy, c.value = t) ↔ d.Shows t := by
  constructor
  · rintro ⟨c, hc, rfl⟩
    rw [cells, List.mem_append, List.mem_append, List.mem_append] at hc
    rcases hc with ((hc | hc) | hc) | hc
    · obtain ⟨p, hp, hc⟩ := List.mem_flatMap.1 hc
      rcases List.mem_pair.1 hc with rfl | rfl
      · exact .participant ((mem_participants_iff d s).1 ⟨p, hp, rfl⟩)
      · exact absurd rfl ht
    · obtain ⟨l, hl, rfl⟩ := List.mem_map.1 hc
      obtain ⟨hmem, hdrawn⟩ := (mem_loops_iff d s).1 ⟨l, hl, rfl⟩
      exact .loop hmem hdrawn
    · obtain ⟨m, hm, rfl⟩ := List.mem_map.1 hc
      obtain ⟨hmem, hdrawn⟩ := (mem_messages_iff d s).1 ⟨m, hm, rfl⟩
      exact .message hmem hdrawn
    · obtain ⟨n, hn, rfl⟩ := List.mem_map.1 hc
      obtain ⟨hmem, hdrawn⟩ := (mem_notes_iff d s).1 ⟨n, hn, rfl⟩
      exact .note hmem hdrawn
  · intro h
    simp only [cells, List.mem_append]
    cases h with
    | participant hp =>
      obtain ⟨shape, hshape, rfl⟩ := (mem_participants_iff d s).2 hp
      exact ⟨_, .inl (.inl (.inl (List.mem_flatMap.2 ⟨shape, hshape, List.mem_cons_self ..⟩))), rfl⟩
    | loop hl hdrawn =>
      obtain ⟨shape, hshape, rfl⟩ := (mem_loops_iff d s).2 ⟨hl, hdrawn⟩
      exact ⟨_, .inl (.inl (.inr (List.mem_map_of_mem hshape))), rfl⟩
    | message hm hdrawn =>
      obtain ⟨shape, hshape, rfl⟩ := (mem_messages_iff d s).2 ⟨hm, hdrawn⟩
      exact ⟨_, .inl (.inr (List.mem_map_of_mem hshape)), rfl⟩
    | note hn hdrawn =>
      obtain ⟨shape, hshape, rfl⟩ := (mem_notes_iff d s).2 ⟨hn, hdrawn⟩
      exact ⟨_, .inr (List.mem_map_of_mem hshape), rfl⟩

theorem ne_empty_of_isXmlText_eq_false {t : String} (h : isXmlText t = false) : t ≠ "" := by
  rintro rfl
  exact absurd h (by decide)

/-- XML can hold all the texts in the cells if it can hold those that are shown. -/
theorem Layout.all_isXmlText_cells_eq_false_iff :
    ((ofDiagram d s).cells dx dy).all (fun c ↦ isXmlText c.value) = false ↔
      ∃ t, d.Shows t ∧ isXmlText t = false := by
  simp only [List.all_eq_false, Bool.not_eq_true]
  constructor
  · rintro ⟨c, hc, hvalue⟩
    have hshows := (exists_mem_cells_iff (ne_empty_of_isXmlText_eq_false hvalue)).1 ⟨c, hc, rfl⟩
    exact ⟨c.value, hshows, hvalue⟩
  · rintro ⟨t, hshows, ht⟩
    have hcell : ∃ c ∈ (ofDiagram d s).cells dx dy, c.value = t :=
      (exists_mem_cells_iff (ne_empty_of_isXmlText_eq_false ht)).2 hshows
    obtain ⟨c, hc, rfl⟩ := hcell
    exact ⟨c, hc, ht⟩

/-! ## The values in a file -/

theorem Layout.isXmlText_style_of_mem_cells {l : Layout α} {c : Cell α}
    (hc : c ∈ l.cells dx dy) : isXmlText c.style = true := by
  rw [cells, List.mem_append, List.mem_append, List.mem_append] at hc
  rcases hc with ((hc | hc) | hc) | hc
  · obtain ⟨p, -, hc⟩ := List.mem_flatMap.1 hc
    rcases List.mem_pair.1 hc with rfl | rfl
    · exact isXmlText_participantStyle
    · exact isXmlText_lifelineStyle
  · obtain ⟨l, -, rfl⟩ := List.mem_map.1 hc
    exact isXmlText_loopStyle
  · obtain ⟨m, -, rfl⟩ := List.mem_map.1 hc
    exact isXmlText_arrowStyle m.message.arrow
  · obtain ⟨n, -, rfl⟩ := List.mem_map.1 hc
    exact isXmlText_noteStyle

@[simp] theorem isWritable_pointElement (role : String) (p : Point α) :
    (pointElement role p).isWritable = isXmlText role := by
  simp [pointElement, Element.isWritable_node]

@[simp] theorem isWritable_placeElement (place : CellPlace α) :
    (placeElement place).isWritable = true := by
  cases place <;> simp +decide [placeElement, Element.isWritable_node]

/-- A cell can be written if its text can and if it looks as it does in a picture. -/
theorem isWritable_cellElement (c : Cell α) :
    (cellElement c).isWritable = (isXmlText c.value && isXmlText c.style) := by
  obtain ⟨id, value, style, place⟩ := c
  rw [Bool.eq_iff_iff]
  cases place <;> simp +decide [cellElement, Element.isWritable_node, CellPlace.kind]

theorem isWritable_fileElement (now : Timestamp) (sheet : Sheet α) :
    (fileElement now sheet).isWritable =
      sheet.cells.all fun c ↦ isXmlText c.value && isXmlText c.style := by
  rw [Bool.eq_iff_iff]
  simp +decide [fileElement, baseElements, Element.isWritable_node, List.all_map,
    Function.comp_def, isWritable_cellElement]

/-- Only a picture without a size has no page. -/
theorem pageSize_eq_error {l : Layout α} {failure : Failure} (h : pageSize l = .error failure) :
    ∃ cause, failure = .notFinite cause := by
  have hside : ∀ {least : Int} {stop offset : α} {failure : Failure},
      pageSide least stop offset = .error failure → ∃ cause, failure = .notFinite cause := by
    intro least stop offset failure hside
    rw [pageSide] at hside
    split at hside
    · cases hside
    · rename_i cause _
      exact ⟨cause, (Except.error.inj hside).symm⟩
  simp only [pageSize] at h
  cases hwidth : pageSide 800 l.bounds.right (pageOffset l).1 with
  | error cause =>
    rw [hwidth] at h
    cases h
    exact hside hwidth
  | ok width =>
    cases hheight : pageSide 400 l.bounds.bottom (pageOffset l).2 with
    | error cause =>
      rw [hwidth, hheight] at h
      cases h
      exact hside hheight
    | ok height =>
      rw [hwidth, hheight] at h
      cases h

/-- A picture with a size has a page with its cells. -/
theorem Sheet.ofLayout_eq (l : Layout α) : ofLayout l = (pageSize l).map fun size ↦
    ⟨size.1, size.2, l.cells (pageOffset l).1 (pageOffset l).2⟩ := by
  rw [ofLayout]
  cases pageSize l <;> rfl

theorem Sheet.cells_eq {l : Layout α} {sheet : Sheet α} (h : ofLayout l = .ok sheet) :
    sheet.cells = l.cells (pageOffset l).1 (pageOffset l).2 := by
  rw [ofLayout_eq] at h
  cases hsize : pageSize l with
  | error failure =>
    rw [hsize] at h
    cases h
  | ok size =>
    rw [hsize] at h
    cases h
    rfl

theorem Sheet.ofLayout_eq_error {l : Layout α} {failure : Failure}
    (h : ofLayout l = .error failure) : ∃ cause, failure = .notFinite cause := by
  rw [ofLayout_eq] at h
  cases hsize : pageSize l with
  | error cause =>
    rw [hsize] at h
    cases h
    exact pageSize_eq_error hsize
  | ok size =>
    rw [hsize] at h
    cases h

/-- The file of a picture can be written if the texts in its cells can. -/
theorem isWritable_fileElement_eq {l : Layout α} {sheet : Sheet α} (now : Timestamp)
    (h : Sheet.ofLayout l = .ok sheet) :
    (fileElement now sheet).isWritable = sheet.cells.all fun c ↦ isXmlText c.value := by
  rw [isWritable_fileElement, Sheet.cells_eq h, Bool.eq_iff_iff, List.all_eq_true,
    List.all_eq_true]
  refine forall₂_congr fun c hc ↦ ?_
  rw [Layout.isXmlText_style_of_mem_cells hc, Bool.and_true]

/-- **A document is refused for the value of a cell** and for nothing else in the file. -/
theorem drawioDocument_eq {l : Layout α} {sheet : Sheet α} (now : Timestamp)
    (h : Sheet.ofLayout l = .ok sheet) :
    drawioDocument now l =
      if sheet.cells.all fun c ↦ isXmlText c.value then
        .ok (Xml.document (fileElement now sheet))
      else .error .xmlCharacter := by
  rw [drawioDocument, h, ← isWritable_fileElement_eq now h]
  exact pure_bind (m := Except Failure) sheet fun sheet ↦
    if (fileElement now sheet).isWritable then .ok (Xml.document (fileElement now sheet))
    else .error .xmlCharacter

/-! ## The failures of a document -/

/-- Whether XML can hold what a diagram shows. -/
def Diagram.IsWritable (d : Diagram) : Prop :=
  ∀ t, d.Shows t → isXmlText t = true

/-- What a diagram shows is among its strings. -/
theorem Diagram.Shows.mem_strings {t : String} (h : d.Shows t) : t ∈ d.strings := by
  simp only [strings, List.mem_append, List.mem_flatMap]
  cases h with
  | participant hp => exact .inl (.inl (.inl ⟨_, hp, by simp [Participant.strings]⟩))
  | message hm _ => exact .inl (.inl (.inr ⟨_, hm, by simp [Message.strings]⟩))
  | note hn _ => exact .inl (.inr ⟨_, hn, by simp [Note.strings]⟩)
  | loop hl _ => exact .inr ⟨_, hl, by simp [Loop.strings]⟩

theorem Diagram.isWritable_ofText (text : String) : (ofText text).IsWritable :=
  fun _ h ↦ isXmlText_of_mem_strings h.mem_strings

theorem Diagram.IsWritable.all_cells {sheet : Sheet α} (hd : d.IsWritable)
    (hsheet : Sheet.ofLayout (Layout.ofDiagram d s) = .ok sheet) :
    (sheet.cells.all fun c ↦ isXmlText c.value) = true := by
  rw [Sheet.cells_eq hsheet, ← Bool.not_eq_false, Layout.all_isXmlText_cells_eq_false_iff]
  rintro ⟨t, hshows, ht⟩
  rw [hd t hshows] at ht
  cases ht

theorem drawioDocument_eq_ok {sheet : Sheet α} (now : Timestamp) (hd : d.IsWritable)
    (hsheet : Sheet.ofLayout (Layout.ofDiagram d s) = .ok sheet) :
    drawioDocument now (Layout.ofDiagram d s) = .ok (Xml.document (fileElement now sheet)) := by
  rw [drawioDocument_eq now hsheet, if_pos (hd.all_cells hsheet)]

/-- In any arithmetic, rounding or not, a source fails to have a document only where its page has no
size. -/
theorem convertToDrawio_eq_error {now : Timestamp} {text : String} {failure : Failure}
    (h : convertToDrawio now s text = .error failure) : ∃ cause, failure = .notFinite cause := by
  rw [convertToDrawio] at h
  cases hsheet : Sheet.ofLayout (Layout.ofDiagram (Diagram.ofText text) s) with
  | error cause =>
    rw [drawioDocument, hsheet] at h
    cases h
    exact Sheet.ofLayout_eq_error hsheet
  | ok sheet =>
    rw [drawioDocument_eq_ok now (Diagram.isWritable_ofText text) hsheet] at h
    cases h

end

/-- In exact arithmetic every picture has a page. -/
theorem Sheet.exists_ofLayout_eq_ok (l : Layout Rat) : ∃ sheet, ofLayout l = .ok sheet :=
  ⟨_, rfl⟩

theorem drawioDocument_ofDiagram_eq_error_iff (now : Timestamp) (d : Diagram) (s : Settings Rat)
    (failure : Failure) :
    drawioDocument now (Layout.ofDiagram d s) = .error failure ↔
      failure = .xmlCharacter ∧ ∃ t, d.Shows t ∧ isXmlText t = false := by
  obtain ⟨sheet, hsheet⟩ := Sheet.exists_ofLayout_eq_ok (Layout.ofDiagram d s)
  have hcells : (sheet.cells.all fun c ↦ isXmlText c.value) = false ↔
      ∃ t, d.Shows t ∧ isXmlText t = false := by
    rw [Sheet.cells_eq hsheet]
    exact Layout.all_isXmlText_cells_eq_false_iff
  rw [drawioDocument_eq now hsheet, ← hcells]
  cases sheet.cells.all fun c ↦ isXmlText c.value <;> simp [eq_comm]

/-- **A document fails for a text that is shown and for nothing else.**  No source text has such a
text, so each has a document; and where coordinates are rounded, a source can fail only by having no
page. -/
theorem drawio_eq_error_iff (now : Timestamp) (s : Settings Rat) :
    (∀ text, ∃ document, convertToDrawio now s text = .ok document) ∧
    (∀ (d : Diagram) (failure : Failure),
      (Layout.checked d s >>= drawioDocument now) = .error failure ↔
        failure = .xmlCharacter ∧ ∃ t, d.Shows t ∧ isXmlText t = false) ∧
    (∀ text, ∀ t ∈ (Diagram.ofText text).strings, isXmlText t = true) ∧
    ∀ (α : Type) [Scalar α] (s : Settings α) (text : String) (failure : Failure),
      convertToDrawio now s text = .error failure → ∃ cause, failure = .notFinite cause := by
  refine ⟨fun text ↦ ?_, fun d failure ↦ ?_, fun text t ↦ isXmlText_of_mem_strings,
    fun _ _ _ _ _ ↦ convertToDrawio_eq_error⟩
  · obtain ⟨sheet, hsheet⟩ := Sheet.exists_ofLayout_eq_ok (Layout.ofDiagram (Diagram.ofText text) s)
    exact ⟨_, drawioDocument_eq_ok now (Diagram.isWritable_ofText text) hsheet⟩
  · have hchecked : (Layout.checked d s >>= drawioDocument now) =
        drawioDocument now (Layout.ofDiagram d s) := by
      rw [Layout.checked_rat]
      exact pure_bind (m := Except Failure) (Layout.ofDiagram d s) (drawioDocument now)
    rw [hchecked]
    exact drawioDocument_ofDiagram_eq_error_iff now d s failure

end SequenceChart
