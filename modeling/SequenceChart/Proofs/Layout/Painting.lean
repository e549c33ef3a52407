import SequenceChart.Proofs.Layout.Drawn

/-!
# The order of painting

Frames are painted in order of depth, so that a frame comes to lie over the frames around it, and
those of one depth in the order of their loops.  The order is that of a stable sort: what the sort
does not distinguish stays in the order it had before.

## Main definitions

* `LoopShape.PaintedBefore` — that a frame is behind another.

## Main statements

* `pairwise_mergeSort_of_pairwise` — a stable sort keeps the order of what is equal.
* `Layout.pairwise_loops` — the order of the frames in a picture.
-/

set_option autoImplicit false
namespace SequenceChart

/-- **A stable sort keeps the order of what is equal.** -/
theorem pairwise_mergeSort_of_pairwise {β : Type} {le : β → β → Bool} {r : β → β → Prop}
    (trans : ∀ a b c, le a b = true → le b c = true → le a c = true)
    (total : ∀ a b, (le a b || le b a) = true) {l : List β} (h : l.Pairwise r) :
    (l.mergeSort le).Pairwise fun a b ↦ le a b = true ∧ (le b a = true → r a b) := by
  have hsorted := List.pairwise_mergeSort trans total l
  induction l with
  | nil => simp
  | cons a l ih =>
    obtain ⟨hhead, htail⟩ := List.pairwise_cons.1 h
    -- the first element is put behind the smaller ones and in front of all that are equal to it
    obtain ⟨before, after, hcons, hrest, hsmaller⟩ := List.mergeSort_cons trans total a l
    have hl := ih htail (List.pairwise_mergeSort trans total l)
    rw [hrest] at hl
    rw [hcons] at hsorted ⊢
    obtain ⟨hbefore, hafter, hacross⟩ := List.pairwise_append.1 hl
    obtain ⟨-, hsorted, hsorted'⟩ := List.pairwise_append.1 hsorted
    refine List.pairwise_append.2 ⟨hbefore, List.pairwise_cons.2 ⟨fun b hb ↦ ?_, hafter⟩, ?_⟩
    · have hmem : b ∈ l.mergeSort le := by
        rw [hrest]
        exact List.mem_append_right _ hb
      exact ⟨(List.pairwise_cons.1 hsorted).1 b hb, fun _ ↦ hhead b (List.mem_mergeSort.1 hmem)⟩
    · intro b hb c hc
      rcases List.mem_cons.1 hc with rfl | hc
      · refine ⟨hsorted' b hb c (List.mem_cons_self ..), fun hle ↦ ?_⟩
        have hnot := hsmaller b hb
        rw [hle] at hnot
        cases hnot
      · exact hacross b hb c hc

/-- A frame is painted before another if it is less deep, or of the same depth and for an earlier
loop. -/
def LoopShape.PaintedBefore {α : Type} (a b : LoopShape α) : Prop :=
  a.loop.depth < b.loop.depth ∨ a.loop.depth = b.loop.depth ∧ a.index < b.index

theorem pairwise_zipIdx {β : Type} (bs : List β) : bs.zipIdx.Pairwise fun a b ↦ a.2 < b.2 := by
  refine List.pairwise_map.1 ?_
  rw [List.zipIdx_map_snd]
  exact List.pairwise_lt_range'

/-- **The frames of a picture are in the order of painting.** -/
theorem Layout.pairwise_loops {α : Type} [Scalar α] (d : Diagram) (s : Settings α) :
    (ofDiagram d s).loops.Pairwise LoopShape.PaintedBefore := by
  have hparts : ((ofDiagram d s).loops.map fun l ↦ (l.loop, l.index)).Pairwise
      fun a b : Loop × Nat ↦
        a.1.depth < b.1.depth ∨ a.1.depth = b.1.depth ∧ a.2 < b.2 := by
    rw [parts_loops]
    refine (pairwise_mergeSort_of_pairwise ?_ ?_ ((pairwise_zipIdx d.loops).filter _)).imp ?_
    · intro a b c hab hbc
      exact decide_eq_true (Int.le_trans (of_decide_eq_true hab) (of_decide_eq_true hbc))
    · intro a b
      simpa using Int.le_total a.1.depth b.1.depth
    · rintro a b ⟨hle, hindex⟩
      rcases Int.lt_or_eq_of_le (of_decide_eq_true hle) with hlt | heq
      · exact .inl hlt
      · exact .inr ⟨heq, hindex (decide_eq_true (Int.le_of_eq heq.symm))⟩
  exact (List.pairwise_map.1 hparts).imp id

end SequenceChart
