import SequenceChart.Proofs.Layout.Painting
import Mathlib.Data.List.Perm.Basic

/-!
# Nothing is lost

A shape carries the position of its part in the diagram.  The positions in a picture are those of
the parts that are drawn, each once, and the remarks on the picture name the others, each once: the
two are the two halves of one list.  This file says which positions and which remarks these are, by
the conditions of `Proofs/Layout/Drawn.lean` alone.

As positions count all parts, drawn or not, a message that is no longer drawn takes its own position
out of the picture and leaves the others as they are (`findIdxs_set`).

## Main definitions

* `PaintsBefore` — the order of painting, for positions.

## Main statements

* `Layout.index_participants`, `Layout.index_messages`, `Layout.index_notes` — the positions in a
  picture, in order.
* `Layout.perm_index_loops`, `Layout.pairwise_index_loops` — those of the frames, and their order.
* `Layout.index_loops_eq_filter` — frames that are no longer drawn leave the others in order.
* `Layout.remarks_eq` — the remarks on a picture.
-/

set_option autoImplicit false
namespace SequenceChart

/-! ## Positions -/

section

variable {β : Type} {q : β → Bool}

theorem map_snd_filter_zipIdx (bs : List β) :
    (bs.zipIdx.filter fun p ↦ q p.1).map Prod.snd = bs.findIdxs q := by
  rw [List.findIdxs_eq_filterMap_zipIdx, ← List.filterMap_eq_filter, List.map_filterMap]
  refine List.filterMap_congr fun p _ ↦ ?_
  cases hq : q p.1 <;> simp [Option.guard, hq]

/-- **A part that no longer meets a condition** takes its own position away and no other. -/
theorem findIdxs_set {bs : List β} {i : Nat} {b b' : β} (hb : bs[i]? = some b) (hq : q b = true)
    (hq' : q b' = false) : (bs.set i b').findIdxs q = (bs.findIdxs q).erase i := by
  suffices h : ∀ start, (bs.set i b').findIdxs q start =
      (bs.findIdxs q start).erase (start + i) by simpa using h 0
  induction bs generalizing i with
  | nil => simp at hb
  | cons c bs ih =>
    intro start
    cases i with
    | zero =>
      obtain rfl : c = b := by simpa using hb
      simp [hq, hq']
    | succ i =>
      have hrest := ih (i := i) (by simpa using hb) (start + 1)
      rw [Nat.add_right_comm start 1 i] at hrest
      rw [List.set_cons_succ, List.findIdxs_cons, List.findIdxs_cons, hrest]
      cases q c with
      | false => rfl
      | true =>
        rw [if_pos rfl, if_pos rfl, List.erase_cons_tail (by simp)]
        rfl

end

/-- Of loops with the given depths the one at position `i` is painted before the one at position
`j`: it is less deep, or as deep and in front of the other in the diagram. -/
def PaintsBefore (depths : List Int) (i j : Nat) : Prop :=
  ∀ a b, depths[i]? = some a → depths[j]? = some b → a < b ∨ a = b ∧ i < j

namespace Layout

variable {α : Type} [Scalar α] (d : Diagram) (s : Settings α)

theorem index_participants :
    (ofDiagram d s).participants.map (·.index) = List.range d.participants.length := by
  have hparts := congrArg (List.map Prod.snd) (parts_participants d s)
  rw [List.map_map, List.zipIdx_map_snd, ← List.range_eq_range'] at hparts
  exact hparts

theorem index_messages :
    (ofDiagram d s).messages.map (·.index) = d.messages.findIdxs d.drawsMessage := by
  have hparts := congrArg (List.map Prod.snd) (parts_messages d s)
  rw [List.map_map, map_snd_filter_zipIdx] at hparts
  exact hparts

theorem index_notes :
    (ofDiagram d s).notes.map (·.index) = d.notes.findIdxs d.drawsNote := by
  have hparts := congrArg (List.map Prod.snd) (parts_notes d s)
  rw [List.map_map, map_snd_filter_zipIdx] at hparts
  exact hparts

theorem perm_index_loops :
    ((ofDiagram d s).loops.map (·.index)).Perm (d.loops.findIdxs d.drawsLoop) := by
  have hperm := (perm_loops d s).map Prod.snd
  rw [List.map_map, map_snd_filter_zipIdx] at hperm
  exact hperm

/-- The positions of the frames are in order of depth, and for one depth in their own order. -/
theorem pairwise_index_loops :
    ((ofDiagram d s).loops.map (·.index)).Pairwise (PaintsBefore (d.loops.map (·.depth))) := by
  refine List.pairwise_map.2 ((pairwise_loops d s).imp_of_mem fun {x y} hx hy hxy a b ha hb ↦ ?_)
  rw [List.getElem?_map, getElem?_of_mem_loops d s hx, Option.map_some, Option.some_inj] at ha
  rw [List.getElem?_map, getElem?_of_mem_loops d s hy, Option.map_some, Option.some_inj] at hb
  rw [← ha, ← hb]
  exact hxy

/-- **Frames that are no longer drawn** leave the others in their order. -/
theorem index_loops_eq_filter {d' : Diagram}
    (hdepths : d'.loops.map (·.depth) = d.loops.map (·.depth))
    (hdrawn : d'.loops.findIdxs d'.drawsLoop ⊆ d.loops.findIdxs d.drawsLoop) :
    (ofDiagram d' s).loops.map (·.index) =
      ((ofDiagram d s).loops.map (·.index)).filter (· ∈ d'.loops.findIdxs d'.drawsLoop) := by
  have hsorted := pairwise_index_loops d' s
  rw [hdepths] at hsorted
  have hdepth : ∀ {j : Nat}, j ∈ d.loops.findIdxs d.drawsLoop →
      ∃ depth, (d.loops.map (·.depth))[j]? = some depth := by
    intro j hj
    obtain ⟨hlt, -⟩ := List.mem_findIdxs_iff_exists_getElem_pos.1 hj
    exact ⟨_, List.getElem?_eq_getElem (by rwa [List.length_map])⟩
  -- lists with the same positions, both in the order of painting, are the same
  refine List.Perm.eq_of_pairwise ?_ hsorted ((pairwise_index_loops d s).filter _) ?_
  · intro i j hi hj hij hji
    obtain ⟨a, ha⟩ := hdepth (hdrawn ((perm_index_loops d' s).mem_iff.1 hi))
    obtain ⟨b, hb⟩ := hdepth ((perm_index_loops d s).mem_iff.1 (List.mem_of_mem_filter hj))
    have hforth := hij a b ha hb
    have hback := hji b a hb ha
    omega
  · refine (perm_index_loops d' s).trans (.symm ?_)
    refine ((perm_index_loops d s).filter _).trans ?_
    refine (List.perm_ext_iff_of_nodup (List.nodup_findIdxs.filter _) List.nodup_findIdxs).2 ?_
    intro j
    simpa using fun hj ↦ hdrawn hj

/-! ## Remarks -/

/-- If every part that is not drawn has its remark, and the others have none, then the remarks are
those on the parts that are not drawn. -/
theorem filterMap_omitted? {β σ : Type} {place : β → Placed σ} {remark : β → Remark}
    {draws : β → Bool}
    (h : ∀ b, (place b).omitted? = if draws b then none else some (remark b)) (bs : List β) :
    (bs.map place).filterMap Placed.omitted? = (bs.filter fun b ↦ !draws b).map remark := by
  rw [List.filterMap_map, ← List.filterMap_eq_filter, List.map_filterMap]
  refine List.filterMap_congr fun b _ ↦ ?_
  rw [Function.comp_apply, h]
  cases hb : draws b <;> simp [Option.guard, hb]

theorem omitted_loops :
    (placedLoops d s).filterMap Placed.omitted? =
      (d.loops.zipIdx.filter fun p ↦ !d.drawsLoop p.1).map fun p ↦ .loopOmitted p.2 p.1.label := by
  refine filterMap_omitted? (fun (l, i) ↦ ?_) _
  show (placeLoop d s l i).omitted? = if d.drawsLoop l then _ else _
  rw [← isSome_loopFrame? d s, placeLoop]
  cases loopFrame? d s l <;> rfl

theorem omitted_messages :
    (placedMessages d s).filterMap Placed.omitted? =
      (d.messages.zipIdx.filter fun p ↦ !d.drawsMessage p.1).map fun p ↦
        .messageOmitted p.2 p.1 := by
  refine filterMap_omitted? (fun (m, i) ↦ ?_) _
  show (placeMessage d s m i).omitted? = if d.drawsMessage m then _ else _
  rw [← isSome_ends?, placeMessage]
  cases d.ends? m <;> rfl

theorem omitted_notes :
    (placedNotes d s).filterMap Placed.omitted? =
      (d.notes.zipIdx.filter fun p ↦ !d.drawsNote p.1).map fun p ↦ .noteOmitted p.2 p.1 := by
  suffices h : ∀ (y : α) (notes : List (Note × Nat)),
      (placeNotes d s y notes).filterMap Placed.omitted? =
        (notes.filter fun p ↦ !d.drawsNote p.1).map fun p ↦ .noteOmitted p.2 p.1 from h _ _
  intro y notes
  induction notes generalizing y with
  | nil => rfl
  | cons p notes ih =>
    obtain ⟨n, i⟩ := p
    rw [placeNotes, List.filter_cons, ← isSome_noteExtent? d s]
    cases noteExtent? d s n with
    | none => exact congrArg (.noteOmitted i n :: ·) (ih y)
    | some extent => exact ih (y + s.noteStep)

/-- **The remarks on a picture** name the parts that are not drawn, each once. -/
theorem remarks_eq :
    remarks d s =
      ((d.loops.zipIdx.filter fun p ↦ !d.drawsLoop p.1).map fun p ↦
        .loopOmitted p.2 p.1.label) ++
      ((d.messages.zipIdx.filter fun p ↦ !d.drawsMessage p.1).map fun p ↦
        .messageOmitted p.2 p.1) ++
      (d.notes.zipIdx.filter fun p ↦ !d.drawsNote p.1).map fun p ↦ .noteOmitted p.2 p.1 := by
  rw [remarks, omitted_loops, omitted_messages, omitted_notes]

end Layout
end SequenceChart
