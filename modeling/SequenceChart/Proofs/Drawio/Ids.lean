import SequenceChart.Proofs.Drawio.Writable
import SequenceChart.Proofs.Layout.Positions
import SequenceChart.Proofs.Text.Numerals
import SequenceChart.Proofs.Text.Trimming
import Mathlib.Data.List.Nodup

/-!
# The ids in a file

A cell is named by what it stands for: a word for the kind, the position in the diagram, and for a
lifeline an ending.  The word has no digit and the ending does not begin with one, so an id can be
cut back into these parts, and they say what the cell is (`CellId.text_injective`).  Names that the
source declares do not enter into it.

A picture shows each position at most once, and so all the ids in a file are different.

## Main definitions

* `IdParts`, `CellId.parts` — the word, the number and the ending of an id.
* `Element.cellValues` — the values of an attribute in the cells of a file.
* `Sheet.ids` — what the cells of a file stand for.

## Main statements

* `CellId.text_injective` — an id says what it stands for.
* `cellValues_id_fileElement` — the ids in a file.
* `Sheet.ids_eq` — the ids of a picture, by the positions of its shapes.
* `cell_ids_nodup` — the ids in a file are different, and each parent is one cell.
-/

set_option autoImplicit false
namespace SequenceChart

open Xml (Attribute Element valueOf?)

/-! ## Ids -/

/-- What an id is put together from. -/
@[ext]
structure IdParts where
  /-- The word for the kind of cell. -/
  word : List Char
  /-- The position. -/
  number : Nat
  /-- What follows the position. -/
  ending : List Char

namespace CellId

/-- The parts of an id.  The root and the layer are numbers without a word. -/
def parts : CellId → IdParts
  | root => ⟨[], 0, []⟩
  | layer => ⟨[], 1, []⟩
  | participant i => ⟨['p'], i, []⟩
  | lifeline i => ⟨['p'], i, "_lifeline".toList⟩
  | loop i => ⟨"loop".toList, i, []⟩
  | message i => ⟨"msg".toList, i, []⟩
  | note i => ⟨"note".toList, i, []⟩

theorem parts_injective : Function.Injective parts := by
  intro a b h
  cases a <;> cases b <;> simp_all [parts]

theorem toList_text (a : CellId) :
    a.text.toList = a.parts.word ++ (a.parts.number.repr.toList ++ a.parts.ending) := by
  cases a with
  | root | layer => rfl
  | participant | lifeline | loop | message | note => simp [text, parts]

/-- The word of an id has no digit. -/
theorem word_not_digit (a : CellId) : ∀ c ∈ a.parts.word, (!c.isDigit) = true := by
  have hall : a.parts.word.all (fun c ↦ !c.isDigit) = true := by cases a <;> rfl
  exact List.all_eq_true.1 hall

/-- The ending of an id does not begin with a digit. -/
theorem ending_not_digit (a : CellId) : ∀ c, a.parts.ending.head? = some c → c.isDigit = false := by
  have hhead : a.parts.ending.head?.all (fun c ↦ !c.isDigit) = true := by cases a <;> rfl
  intro c hc
  rw [hc] at hhead
  simpa using hhead

/-- The word of an id is what comes in front of the first digit. -/
theorem span_text (a : CellId) : a.text.toList.span (fun c ↦ !c.isDigit) =
    (a.parts.word, a.parts.number.repr.toList ++ a.parts.ending) := by
  refine span_eq_iff.2 ⟨toList_text a, word_not_digit a, fun c hc ↦ ?_⟩
  have hdigits : a.parts.number.repr.toList ≠ [] := by
    rw [Nat.toList_repr]
    exact Nat.toDigits_ne_nil
  rw [List.head?_append_of_ne_nil _ hdigits] at hc
  rw [isDigit_of_mem_repr (List.mem_of_mem_head? hc), Bool.not_true]

/-- The ending of an id is what comes behind the number. -/
theorem span_number (a : CellId) :
    (a.parts.number.repr.toList ++ a.parts.ending).span Char.isDigit =
      (a.parts.number.repr.toList, a.parts.ending) :=
  span_eq_iff.2 ⟨rfl, fun _ ↦ isDigit_of_mem_repr, ending_not_digit a⟩

/-- **An id says what it stands for.** -/
theorem text_injective : Function.Injective text := by
  intro a b h
  have hword := span_text a
  rw [h, span_text b, Prod.mk.injEq] at hword
  have hnumber := span_number a
  rw [← hword.2, span_number b, Prod.mk.injEq] at hnumber
  have hposition : b.parts.number = a.parts.number := toList_repr_injective hnumber.1
  exact (parts_injective (IdParts.ext hword.1 hposition hnumber.2)).symm

theorem some_text_injective : Function.Injective fun a : CellId ↦ some a.text :=
  fun _ _ h ↦ text_injective (Option.some.inj h)

end CellId

/-! ## The cells of a file -/

/-- The values of an attribute in the cells of a file; a cell without the attribute has none. -/
def Xml.Element.cellValues (key : String) (file : Element) : List (Option String) :=
  (file.attributesOf "mxCell").map (valueOf? key)

section

variable {α : Type}

/-- What the cells of a file stand for: the root and the layer, then the cells of the picture. -/
def Sheet.ids (sheet : Sheet α) : List CellId :=
  .root :: .layer :: sheet.cells.map (·.id)

/-- The attributes of a cell. -/
def Cell.attributes (c : Cell α) : List Attribute :=
  [⟨"id", c.id.text⟩, ⟨"value", c.value⟩, ⟨"style", c.style⟩, c.place.kind,
    ⟨"parent", CellId.layer.text⟩]

theorem valueOf?_parent_attributes (c : Cell α) :
    valueOf? "parent" c.attributes = some CellId.layer.text := by
  obtain ⟨id, value, style, place⟩ := c
  cases place <;> rfl

variable [Scalar α]

theorem attributesOf_placeElement (place : CellPlace α) :
    (placeElement place).attributesOf "mxCell" = [] := by
  cases place <;> simp [placeElement, pointElement, Element.attributesOf_node]

theorem attributesOf_cellElement (c : Cell α) :
    (cellElement c).attributesOf "mxCell" = [c.attributes] := by
  simp [cellElement, Element.attributesOf_node, attributesOf_placeElement, Cell.attributes]

/-- The cells of a file are the two that every document has and those of the sheet. -/
theorem attributesOf_fileElement (now : Timestamp) (sheet : Sheet α) :
    (fileElement now sheet).attributesOf "mxCell" =
      [⟨"id", CellId.root.text⟩] ::
        [⟨"id", CellId.layer.text⟩, ⟨"parent", CellId.root.text⟩] ::
          sheet.cells.map Cell.attributes := by
  have hcells : (sheet.cells.map cellElement).flatMap (Element.attributesOf "mxCell") =
      sheet.cells.map Cell.attributes := by
    rw [List.flatMap_map, ← List.flatMap_singleton' (sheet.cells.map _), List.flatMap_map]
    exact List.flatMap_congr fun c _ ↦ attributesOf_cellElement c
  simp [fileElement, baseElements, Element.attributesOf_node, hcells]

/-- **The ids in a file.** -/
theorem cellValues_id_fileElement (now : Timestamp) (sheet : Sheet α) :
    (fileElement now sheet).cellValues "id" = sheet.ids.map fun i ↦ some i.text := by
  rw [Element.cellValues, attributesOf_fileElement, Sheet.ids, List.map_cons, List.map_cons,
    List.map_map, List.map_cons, List.map_cons, List.map_map]
  rfl

/-- **The parents in a file**: the root has none, the layer is in the root and all other cells are
in the layer. -/
theorem cellValues_parent_fileElement (now : Timestamp) (sheet : Sheet α) :
    (fileElement now sheet).cellValues "parent" =
      none :: some CellId.root.text :: sheet.cells.map fun _ ↦ some CellId.layer.text := by
  rw [Element.cellValues, attributesOf_fileElement, List.map_cons, List.map_cons, List.map_map]
  refine congrArg (none :: some _ :: ·) (List.map_congr_left fun c _ ↦ valueOf?_parent_attributes c)

theorem root_or_layer_of_mem_cellValues {now : Timestamp} {sheet : Sheet α} {parent : String}
    (h : some parent ∈ (fileElement now sheet).cellValues "parent") :
    parent = CellId.root.text ∨ parent = CellId.layer.text := by
  rw [cellValues_parent_fileElement] at h
  rcases List.mem_cons.1 h with hnone | h
  · cases hnone
  · rcases List.mem_cons.1 h with hroot | h
    · exact .inl (Option.some.inj hroot)
    · obtain ⟨c, -, hlayer⟩ := List.mem_map.1 h
      exact .inr (Option.some.inj hlayer).symm

end

/-! ## The ids of a picture -/

/-- The ids in the file of a picture whose shapes have the given positions. -/
def cellIds (participants loops messages notes : List Nat) : List CellId :=
  .root :: .layer :: participants.flatMap (fun i ↦ [.participant i, .lifeline i]) ++
    loops.map .loop ++ messages.map .message ++ notes.map .note

theorem nodup_cellIds {participants loops messages notes : List Nat}
    (hparticipants : participants.Nodup) (hloops : loops.Nodup) (hmessages : messages.Nodup)
    (hnotes : notes.Nodup) : (cellIds participants loops messages notes).Nodup := by
  have hpairs : (participants.flatMap fun i ↦ [CellId.participant i, .lifeline i]).Nodup :=
    List.nodup_flatMap.2 ⟨by simp, hparticipants.imp fun hij ↦ by simp [Function.onFun, hij.symm]⟩
  have hframes : (loops.map CellId.loop).Nodup := hloops.map fun _ _ ↦ CellId.loop.inj
  have harrows : (messages.map CellId.message).Nodup := hmessages.map fun _ _ ↦ CellId.message.inj
  have hboxes : (notes.map CellId.note).Nodup := hnotes.map fun _ _ ↦ CellId.note.inj
  refine List.nodup_cons.2 ⟨by simp, List.nodup_cons.2 ⟨by simp, ?_⟩⟩
  refine List.nodup_append.2 ⟨List.nodup_append.2 ⟨List.nodup_append.2 ⟨hpairs, hframes, ?_⟩,
    harrows, ?_⟩, hboxes, ?_⟩
  -- what is left is that cells of different kinds are different
  all_goals
    rintro a ha b hb rfl
    cases a <;> simp at ha hb

section

variable {α : Type} [Scalar α]

/-- **The ids of a picture** are those of the positions of its shapes. -/
theorem Sheet.ids_eq {l : Layout α} {sheet : Sheet α} (h : ofLayout l = .ok sheet) :
    sheet.ids = cellIds (l.participants.map (·.index)) (l.loops.map (·.index))
      (l.messages.map (·.index)) (l.notes.map (·.index)) := by
  simp only [ids, cells_eq h, Layout.cells, List.map_append, List.map_flatMap, List.map_map,
    cellIds, List.flatMap_map]
  rfl

/-- In the picture of a diagram each position is shown at most once. -/
theorem Sheet.nodup_ids {d : Diagram} {s : Settings α} {sheet : Sheet α}
    (h : ofLayout (Layout.ofDiagram d s) = .ok sheet) : sheet.ids.Nodup := by
  rw [ids_eq h]
  refine nodup_cellIds ?_ ?_ ?_ ?_
  · rw [Layout.index_participants]
    exact List.nodup_range
  · exact (Layout.perm_index_loops d s).nodup_iff.2 List.nodup_findIdxs
  · rw [Layout.index_messages]
    exact List.nodup_findIdxs
  · rw [Layout.index_notes]
    exact List.nodup_findIdxs

/-- **The ids in a file are different**, whatever names the diagram declares, how often, and in
whatever settings it is drawn.  Every cell has one, and the parent that a cell names is the id of
one cell: of the root or of the layer. -/
theorem cell_ids_nodup (now : Timestamp) (d : Diagram) (s : Settings α) (sheet : Sheet α)
    (hsheet : Sheet.ofLayout (Layout.ofDiagram d s) = .ok sheet) :
    ((fileElement now sheet).cellValues "id").Nodup ∧
      none ∉ (fileElement now sheet).cellValues "id" ∧
      ∀ parent, some parent ∈ (fileElement now sheet).cellValues "parent" →
        (parent = "0" ∨ parent = "1") ∧
          ((fileElement now sheet).cellValues "id").count (some parent) = 1 := by
  have hnodup : ((fileElement now sheet).cellValues "id").Nodup := by
    rw [cellValues_id_fileElement]
    exact (Sheet.nodup_ids hsheet).map CellId.some_text_injective
  refine ⟨hnodup, by simp [cellValues_id_fileElement], fun parent hparent ↦ ?_⟩
  have hparents : parent = CellId.root.text ∨ parent = CellId.layer.text :=
    root_or_layer_of_mem_cellValues hparent
  refine ⟨hparents, List.count_eq_one_of_mem hnodup ?_⟩
  rw [cellValues_id_fileElement, Sheet.ids]
  rcases hparents with rfl | rfl <;> simp

end

/-- A diagram that declares ids as names, one of them twice. -/
def Diagram.lookalike : Diagram where
  participants := [⟨"p0", "1"⟩, ⟨"p0_lifeline", "0"⟩, ⟨"p0", "p1"⟩, ⟨"msg0", "note0"⟩]
  messages := [⟨"p0", "msg0", "p0_lifeline", .solid⟩, ⟨"loop0", "p0", "loop0", .dashed⟩]
  notes := [⟨.across, ["msg0", "p0"], "msg0"⟩]
  loops := [⟨"loop1", [⟨"p0", "p0", "", .solid⟩], 5, 7, -2⟩]

theorem cell_ids_nodup_lookalike :
    ∃ sheet,
      Sheet.ofLayout (Layout.ofDiagram Diagram.lookalike (Settings.standard : Settings Rat)) =
        .ok sheet ∧
      ((fileElement (Timestamp.ofMicroseconds 0) sheet).cellValues "id").Nodup := by
  obtain ⟨sheet, hsheet⟩ := Sheet.exists_ofLayout_eq_ok
    (Layout.ofDiagram Diagram.lookalike (Settings.standard : Settings Rat))
  exact ⟨sheet, hsheet,
    (cell_ids_nodup (Timestamp.ofMicroseconds 0) Diagram.lookalike Settings.standard sheet
      hsheet).1⟩

end SequenceChart
