import SequenceChart.Proofs.Command.Stages
import SequenceChart.Proofs.Drawio.Page
import SequenceChart.Proofs.Layout.Spans

/-!
# Sizes in a document

A command takes any number for the distance between columns, also one that is not positive, and
columns may then follow one another to the left.  The sizes of headers and lifelines do not depend
on the distance, and a frame is around the places of its columns, so it has a width whichever way
the columns go.  The width of a note over participants is computed from the numbers of its first and
its last column instead.  Where columns go to the left, it begins with the rightmost of its headers
and is too narrow to reach any other, and once they are far enough apart it has a negative width.

What a document says of the boxes of its cells is taken from the elements named `mxGeometry`.

## Main definitions

* `Settings.spaced` — standard measures but for the distance between columns, which is what a
  command draws with.
* `Element.geometrySizes`, `CellPlace.size?` — the sizes in a file, and those of a sheet.
* `Diagram.TurnsInsideOut` — the notes that have a negative width.

## Main statements

* `geometrySizes_fileElement` — the sizes in a file are those of the boxes on its sheet.
* `noteExtent?_width_neg_iff` — which notes have a negative width.
* `cell_sizes_of_spacing` — the sizes in the document of a source, for any distance of columns.
* `exists_note_inside_out` — a document with a negative width.
-/

set_option autoImplicit false
namespace SequenceChart

open Xml (Element valueOf?)

/-! ## The distance between columns -/

/-- Standard measures but for the distance between columns. -/
def Settings.spaced {α : Type} [Scalar α] (spacing : α) : Settings α :=
  { standard with spacing := spacing }

/-- A command that is told a distance draws with it. -/
theorem Arguments.settings_eq_spaced {a : Arguments} {x : Float} (h : a.spacing = .value x) :
    a.settings = .spaced x := by
  rw [settings, h, Settings.spaced]

/-! ## The sizes in a file -/

/-- The width and the height of each place in a file; an arrow has none. -/
def Xml.Element.geometrySizes (file : Element) : List (Option String × Option String) :=
  (file.attributesOf "mxGeometry").map fun a ↦ (valueOf? "width" a, valueOf? "height" a)

section

variable {α : Type}

/-- The size of a box. -/
def CellPlace.size? : CellPlace α → Option (α × α)
  | .vertex box => some (box.width, box.height)
  | .edge _ _ => none

variable [Scalar α]

/-- How a size is written. -/
def sizeTexts (size : Option (α × α)) : Option String × Option String :=
  (size.map fun p ↦ Scalar.text p.1, size.map fun p ↦ Scalar.text p.2)

theorem geometrySizes_cellElement (c : Cell α) :
    (cellElement c).geometrySizes = [sizeTexts c.place.size?] := by
  obtain ⟨id, value, style, place⟩ := c
  cases place <;>
    simp [cellElement, placeElement, pointElement, Element.geometrySizes,
      Element.attributesOf_node, valueOf?, CellPlace.size?, sizeTexts]

/-- **The sizes in a file** are those of the boxes on its sheet. -/
theorem geometrySizes_fileElement (now : Timestamp) (sheet : Sheet α) :
    (fileElement now sheet).geometrySizes = sheet.cells.map fun c ↦ sizeTexts c.place.size? := by
  have hfile : (fileElement now sheet).attributesOf "mxGeometry" =
      sheet.cells.flatMap fun c ↦ (cellElement c).attributesOf "mxGeometry" := by
    simp [fileElement, baseElements, Element.attributesOf_node, List.flatMap_map]
  rw [Element.geometrySizes, hfile, List.map_flatMap, ← List.flatMap_singleton' (sheet.cells.map _),
    List.flatMap_map]
  exact List.flatMap_congr fun c _ ↦ geometrySizes_cellElement c

end

/-! ## Notes with a negative width -/

/-- The columns of a note over participants are so far apart, and go to the left, that at standard
measures the header in the last one ends before the header in the first one begins. -/
def Diagram.TurnsInsideOut (d : Diagram) (spacing : Rat) (n : Note) : Prop :=
  n.place = .across ∧ ∃ low high : Nat, IsLeast (d.targetColumns n) low ∧
    IsGreatest (d.targetColumns n) high ∧ ((high : Rat) - low) * spacing < -100

section

variable {d : Diagram} {spacing : Rat}

/-- **A note has a negative width** if its columns turn it inside out, and otherwise not. -/
theorem noteExtent?_width_neg_iff {n : Note} {x width : Rat}
    (h : noteExtent? d (.spaced spacing) n = some (x, width)) :
    width < 0 ↔ d.TurnsInsideOut spacing n := by
  by_cases hplace : n.place = .across
  · obtain ⟨low, high, hlow, hhigh, hx, hend⟩ := exists_span hplace h
    have hwidth : width = ((high : Rat) - low) * spacing + 100 := by
      have hheader : (Settings.spaced spacing).headerWidth = 100 := by
        rw [Settings.spaced, Settings.standard_eq]
      have hspacing : (Settings.spaced spacing).spacing = spacing := rfl
      rw [hx, Settings.columnX, Settings.columnX, hheader, hspacing] at hend
      push_cast at hend
      linarith
    rw [hwidth]
    constructor
    · intro hneg
      exact ⟨hplace, low, high, hlow, hhigh, by linarith⟩
    · rintro ⟨-, low', high', hlow', hhigh', hfar⟩
      obtain rfl := hlow'.unique hlow
      obtain rfl := hhigh'.unique hhigh
      linarith
  · obtain ⟨c, rest, -, ⟨hacross, -⟩ | ⟨-, -, rfl⟩ | ⟨-, -, rfl⟩⟩ := exists_of_noteExtent?_eq_some h
    · exact absurd hacross hplace
    all_goals
      exact iff_of_false Settings.sizesNonneg_standard.sideNoteWidth.not_gt fun hout ↦ hplace hout.1

/-- Heights do not depend on the distance between columns, and of widths only those of notes do.
Frames have a width because they are around places, and are kept from being turned inside out. -/
theorem Layout.size_nonneg_or_note {dx dy : Rat} :
    ∀ c ∈ (ofDiagram d (.spaced spacing)).cells dx dy, ∀ b, c.place = .vertex b →
      0 ≤ b.height ∧ (0 ≤ b.width ∧ (∀ i, c.id ≠ .note i) ∨
        ∃ n ∈ (ofDiagram d (.spaced spacing)).notes, c.id = .note n.index ∧
          noteExtent? d (.spaced spacing) n.note = some (n.frame.x, b.width)) := by
  have hs := Settings.sizesNonneg_standard
  refine forall_mem_cells_iff.2 ⟨fun p hp ↦ ?_, fun f hf ↦ ?_, fun m _ ↦ ?_, fun n hn ↦ ?_⟩
  · obtain ⟨participant, i, -, rfl⟩ := exists_of_mem_participants hp
    rw [participantCells, List.forall_mem_cons, List.forall_mem_singleton]
    constructor <;> rintro _ ⟨⟩
    · exact ⟨hs.headerHeight, .inl ⟨hs.headerWidth, fun _ hid ↦ nomatch hid⟩⟩
    · exact ⟨hs.lifelineHeight, .inl ⟨hs.lifelineWidth, fun _ hid ↦ nomatch hid⟩⟩
  · obtain ⟨c, rest, -, -, hframe⟩ := exists_frame_eq hf
    obtain ⟨hwidth, hheight⟩ := nestInset_le_frameAround (.spaced spacing) f.loop
      (Scalar.least c rest) (Scalar.greatest c rest)
    rw [← hframe] at hwidth hheight
    rintro _ ⟨⟩
    exact ⟨hs.nestInset.trans hheight, .inl ⟨hs.nestInset.trans hwidth, fun _ hid ↦ nomatch hid⟩⟩
  · exact fun _ hplace ↦ nomatch hplace
  · obtain ⟨k, hk⟩ := List.mem_iff_getElem?.1 hn
    obtain ⟨x, width, hextent, hframe⟩ := getElem?_notes hk
    rintro _ ⟨⟩
    have hheight : n.frame.height = (Settings.standard : Settings Rat).noteHeight := by
      rw [hframe]
      rfl
    refine ⟨hs.noteHeight.trans_eq hheight.symm, .inr ⟨n, hn, rfl, ?_⟩⟩
    rw [hframe]
    exact hextent

end

/-- Targets in different columns. -/
theorem Diagram.not_subsingleton_targetColumns {d : Diagram} {n : Note} (a b : String) {i j : Nat}
    (ha : a ∈ n.targets) (hi : d.column? a = some i) (hb : b ∈ n.targets)
    (hj : d.column? b = some j) (hne : i ≠ j) : ¬(d.targetColumns n).Subsingleton :=
  fun hone ↦ hne (hone ⟨a, ha, hi⟩ ⟨b, hb, hj⟩)

/-! ## Documents -/

/-- **The sizes in the document** of a source, for any distance between columns.  Every source has a
document, and the sizes in it are those of the boxes on its page.  No height is negative, and a
width only for a note that is turned inside out by its columns.  A note over participants reaches
over the headers of all its targets if columns do not go to the left or all its targets are in one
column, and otherwise not. -/
theorem cell_sizes_of_spacing (now : Timestamp) (text : String) (spacing : Rat) :
    let d := Diagram.ofText text
    let picture := Layout.ofDiagram d (.spaced spacing)
    ∃ sheet, Sheet.ofLayout picture = .ok sheet ∧
      convertToDrawio now (.spaced spacing) text = .ok (Xml.document (fileElement now sheet)) ∧
      (fileElement now sheet).geometrySizes = sheet.cells.map (fun c ↦ sizeTexts c.place.size?) ∧
      (∀ c ∈ sheet.cells, ∀ b, c.place = .vertex b → 0 ≤ b.height ∧
        (b.width < 0 ↔
          ∃ n ∈ picture.notes, c.id = .note n.index ∧ d.TurnsInsideOut spacing n.note)) ∧
      ∀ n ∈ picture.notes, n.note.place = .across →
        (picture.IsOverTargets n.note n.frame.x n.frame.width ↔
          0 ≤ spacing ∨ (d.targetColumns n.note).Subsingleton) := by
  intro d picture
  obtain ⟨sheet, hsheet⟩ := Sheet.exists_ofLayout_eq_ok picture
  refine ⟨sheet, hsheet, drawioDocument_eq_ok now (Diagram.isWritable_ofText text) hsheet,
    geometrySizes_fileElement now sheet, fun c hc b hb ↦ ?_, fun n hn hplace ↦ ?_⟩
  · rw [Sheet.cells_eq hsheet] at hc
    obtain ⟨hheight, ⟨hwidth, hid⟩ | ⟨n, hn, hid, hextent⟩⟩ := Layout.size_nonneg_or_note c hc b hb
    · exact ⟨hheight, iff_of_false hwidth.not_gt fun ⟨n, _, hnote, _⟩ ↦ hid _ hnote⟩
    · refine ⟨hheight, (noteExtent?_width_neg_iff hextent).trans
        ⟨fun hout ↦ ⟨n, hn, hid, hout⟩, ?_⟩⟩
      rintro ⟨n', hn', hid', hout⟩
      -- the id of a cell tells which note it is
      have hindex : n.index = n'.index := CellId.note.inj (hid.symm.trans hid')
      have hnote := Layout.getElem?_of_mem_notes d (.spaced spacing) hn
      rw [hindex, Layout.getElem?_of_mem_notes d (.spaced spacing) hn'] at hnote
      rwa [Option.some.inj hnote] at hout
  · exact isOverTargets_iff hplace (Layout.noteExtent?_of_mem_placeNotes hn)

/-- Columns that go to the left in steps of fifty: the note is turned round, but no width is
negative. -/
theorem cell_sizes_of_spacing_fifty_to_left :
    let text := "participant A\nparticipant B\nNote over A,B: x"
    let picture := Layout.ofDiagram (Diagram.ofText text) (.spaced (-50 : Rat))
    ∃ sheet, Sheet.ofLayout picture = .ok sheet ∧
      (∀ c ∈ sheet.cells, ∀ b, c.place = .vertex b → 0 ≤ b.width ∧ 0 ≤ b.height) ∧
      ∃ n ∈ picture.notes, n.note.place = .across ∧
        ¬picture.IsOverTargets n.note n.frame.x n.frame.width := by
  intro text picture
  obtain ⟨sheet, hsheet, -, -, hsizes, hover⟩ :=
    cell_sizes_of_spacing (Timestamp.ofMicroseconds 0) text (-50)
  refine ⟨sheet, hsheet, fun c hc b hb ↦ ?_, ?_⟩
  · obtain ⟨hheight, hwidth⟩ := hsizes c hc b hb
    refine ⟨le_of_not_gt fun hneg ↦ ?_, hheight⟩
    obtain ⟨n, -, -, -, low, high, hlow, ⟨⟨id, -, hhigh⟩, -⟩, hfar⟩ := hwidth.1 hneg
    have hlength : (Diagram.ofText text).participants.length = 2 := by
      decide +kernel
    have hlt : (high : Rat) ≤ 1 := by
      exact_mod_cast Nat.le_of_lt_succ ((Diagram.column?_lt hhigh).trans_eq hlength)
    have hnonneg : (0 : Rat) ≤ low := Nat.cast_nonneg low
    linarith
  · obtain ⟨n, hn, hnote⟩ := (Layout.mem_notes_iff (Diagram.ofText text) (.spaced (-50 : Rat))).2
      (by decide +kernel : ⟨.across, ["A", "B"], "x"⟩ ∈ (Diagram.ofText text).notes ∧
        (Diagram.ofText text).drawsNote ⟨.across, ["A", "B"], "x"⟩ = true)
    have hplace : n.note.place = .across := by rw [hnote]
    refine ⟨n, hn, hplace, ?_⟩
    rw [hover n hn hplace, hnote]
    rintro (hnonneg | hone)
    · norm_num at hnonneg
    · exact Diagram.not_subsingleton_targetColumns "A" "B" (by simp) (by decide +kernel)
        (by simp) (by decide +kernel) zero_ne_one hone

/-- **A document with a negative width**: columns that go to the left at the standard distance, and
a note over two of them. -/
theorem exists_note_inside_out :
    let text := "participant A\nparticipant B\nNote over A,B: x"
    let picture := Layout.ofDiagram (Diagram.ofText text) (.spaced (-180 : Rat))
    ∃ sheet, Sheet.ofLayout picture = .ok sheet ∧
      (∀ now, convertToDrawio now (.spaced (-180 : Rat)) text =
        .ok (Xml.document (fileElement now sheet))) ∧
      (∃ c ∈ sheet.cells, ∃ b, c.place = .vertex b ∧ b.width = -80) ∧
      ∃ n ∈ picture.notes, n.note.place = .across ∧
        ¬picture.IsOverTargets n.note n.frame.x n.frame.width := by
  intro text picture
  obtain ⟨sheet, hsheet⟩ := Sheet.exists_ofLayout_eq_ok picture
  obtain ⟨n, hn, hnote⟩ := (Layout.mem_notes_iff (Diagram.ofText text) (.spaced (-180 : Rat))).2
    (by decide +kernel : ⟨.across, ["A", "B"], "x"⟩ ∈ (Diagram.ofText text).notes ∧
      (Diagram.ofText text).drawsNote ⟨.across, ["A", "B"], "x"⟩ = true)
  have hextent := Layout.noteExtent?_of_mem_placeNotes hn
  rw [hnote] at hextent
  have hcomputed : noteExtent? (Diagram.ofText text) (.spaced (-180 : Rat))
      ⟨.across, ["A", "B"], "x"⟩ = some (80, -80) := by
    decide +kernel
  rw [hcomputed, Option.some_inj, Prod.mk.injEq] at hextent
  obtain ⟨hx, hwidth⟩ := hextent
  refine ⟨sheet, hsheet, fun now ↦
    drawioDocument_eq_ok now (Diagram.isWritable_ofText text) hsheet,
    ⟨noteCell (pageOffset picture).1 (pageOffset picture).2 n, ?_, _, rfl, hwidth.symm⟩,
    n, hn, by rw [hnote], ?_⟩
  · rw [Sheet.cells_eq hsheet]
    exact List.mem_append_right _ (List.mem_map_of_mem hn)
  · rw [← hx, ← hwidth, hnote, isOverTargets_iff rfl hcomputed]
    rintro (hnonneg | hone)
    · exact absurd hnonneg (by decide +kernel)
    · exact Diagram.not_subsingleton_targetColumns "A" "B" (by simp) (by decide +kernel)
        (by simp) (by decide +kernel) zero_ne_one hone

end SequenceChart
