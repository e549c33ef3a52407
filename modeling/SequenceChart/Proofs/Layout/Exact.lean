import SequenceChart.Layout.Placement
import Mathlib.Algebra.Order.Field.Rat
import Mathlib.Data.Rat.Floor
import Mathlib.Tactic.Linarith
import Mathlib.Tactic.NormNum
import Mathlib.Tactic.Ring

/-!
# Geometry in exact arithmetic

In exact arithmetic the smaller and the greater of two scalars are their minimum and maximum, the
edges of a box are where they were put, and the standard measures are the numbers they look like.
The lemmas here say so, and with them a statement about a picture becomes one about rational
numbers.

## Main statements

* `Scalar.least_mem`, `Scalar.least_le` and their duals — the least and the greatest of some
  numbers.
* `Scalar.truncateRat_of_nonneg`, `Scalar.sub_one_lt_truncateRat` — dropping the decimals.
* `Box.right_ofEdges`, `Box.bottom_ofEdges` — the far edges of a box.
* `Settings.standard_eq` — the standard measures.
* `frameAround_standard` — the edges of a loop frame at standard measures.
-/

set_option autoImplicit false
namespace SequenceChart

/-! ## Minimum and maximum -/

namespace Scalar

theorem lesser_eq_min (a b : Rat) : lesser a b = min a b := by
  rw [lesser, min_comm, min_def_lt]

theorem greater_eq_max (a b : Rat) : greater a b = max a b := by
  rw [greater, max_def_lt]

theorem min?_eq_least (a : Rat) (rest : List Rat) : (a :: rest).min? = some (least a rest) := by
  have hmin : (lesser : Rat → Rat → Rat) = min := funext fun a ↦ funext fun b ↦ lesser_eq_min a b
  rw [List.min?_cons', least, hmin]

theorem max?_eq_greatest (a : Rat) (rest : List Rat) :
    (a :: rest).max? = some (greatest a rest) := by
  have hmax : (greater : Rat → Rat → Rat) = max :=
    funext fun a ↦ funext fun b ↦ greater_eq_max a b
  rw [List.max?_cons', greatest, hmax]

theorem least_mem (a : Rat) (rest : List Rat) : least a rest ∈ a :: rest :=
  (List.min?_eq_some_iff.1 (min?_eq_least a rest)).1

theorem least_le {a b : Rat} {rest : List Rat} (h : b ∈ a :: rest) : least a rest ≤ b :=
  (List.min?_eq_some_iff.1 (min?_eq_least a rest)).2 b h

theorem greatest_mem (a : Rat) (rest : List Rat) : greatest a rest ∈ a :: rest :=
  (List.max?_eq_some_iff.1 (max?_eq_greatest a rest)).1

theorem le_greatest {a b : Rat} {rest : List Rat} (h : b ∈ a :: rest) : b ≤ greatest a rest :=
  (List.max?_eq_some_iff.1 (max?_eq_greatest a rest)).2 b h

theorem distance_eq_abs (a b : Rat) : distance a b = |b - a| := by
  have hzero : (0.0 : Rat) = 0 := by norm_num
  rw [distance, hzero]
  split
  · rename_i hpos
    exact (abs_of_pos hpos).symm
  · rename_i hneg
    rw [abs_of_nonpos (not_lt.1 hneg)]
    exact zero_sub (b - a)

/-- From the smaller of two numbers it is their distance to the greater. -/
theorem lesser_add_distance (a b : Rat) : lesser a b + distance a b = max a b := by
  rw [lesser_eq_min, distance_eq_abs, ← max_sub_min_eq_abs]
  exact add_sub_cancel (min a b) (max a b)

/-! ## Whole numbers -/

theorem truncateRat_of_nonneg {q : Rat} (hq : 0 ≤ q) : truncateRat q = ⌊q⌋ := by
  rw [truncateRat, Int.tdiv_eq_ediv_of_nonneg (Rat.num_nonneg.2 hq), ← Rat.floor_def]
  rfl

theorem truncateRat_neg (q : Rat) : truncateRat (-q) = -truncateRat q := by
  rw [truncateRat, Rat.neg_num, Rat.neg_den, Int.neg_tdiv, truncateRat]

theorem truncateRat_of_nonpos {q : Rat} (hq : q ≤ 0) : truncateRat q = ⌈q⌉ := by
  rw [← neg_neg q, truncateRat_neg, truncateRat_of_nonneg (neg_nonneg.2 hq), Int.ceil_neg]

/-- Less than one is dropped, on either side of zero. -/
theorem sub_one_lt_truncateRat (q : Rat) : q - 1 < truncateRat q := by
  rcases le_total 0 q with hq | hq
  · rw [truncateRat_of_nonneg hq]
    exact Int.sub_one_lt_floor q
  · rw [truncateRat_of_nonpos hq]
    have hceil := Int.le_ceil q
    linarith

end Scalar

/-! ## Boxes -/

namespace Box

@[simp] theorem right_ofEdges (left top right bottom : Rat) :
    (ofEdges left top right bottom).right = right :=
  add_sub_cancel left right

@[simp] theorem bottom_ofEdges (left top right bottom : Rat) :
    (ofEdges left top right bottom).bottom = bottom :=
  add_sub_cancel top bottom

theorem right_shift (b : Box Rat) (dx dy : Rat) : (b.shift dx dy).right = b.right + dx :=
  add_right_comm b.x dx b.width

theorem bottom_shift (b : Box Rat) (dx dy : Rat) : (b.shift dx dy).bottom = b.bottom + dy :=
  add_right_comm b.y dy b.height

end Box

/-! ## The standard measures -/

namespace Settings

/-- The decimal constants of the standard measures are integers. -/
theorem standard_eq : (standard : Settings Rat) =
    { baseX := 80, headerY := 20, spacing := 180, headerWidth := 100, headerHeight := 50
      lifelineGap := 10, lifelineWidth := 2, lifelineHeight := 300, messageTop := 110
      messageStep := 60, endpointMargin := 20, loopPadX := 20, loopPadTop := 30
      loopPadBottom := 70, nestInset := 10, noteGap := 20, noteStep := 60, noteHeight := 40
      sideNoteOffset := 110, sideNoteWidth := 150 } := by
  norm_num [standard]

theorem messageY_standard (i : Int) : (standard : Settings Rat).messageY i = 110 + 60 * i := by
  rw [standard_eq, messageY]
  ring

end Settings

/-- The frame of a loop at standard measures. -/
theorem frameAround_standard (l : Loop) (left right : Rat) :
    frameAround Settings.standard l left right =
      Box.ofEdges (left - 40 + 10 * l.depth) (80 + 60 * l.first + 10 * l.depth)
        (max (right + 40 - 10 * l.depth) (left - 30 + 10 * l.depth))
        (max (180 + 60 * l.last - 10 * l.depth) (90 + 60 * l.first + 10 * l.depth)) := by
  simp only [frameAround, Settings.messageY, Settings.standard_eq, Scalar.greater_eq_max]
  congr 1
  · ring
  · ring
  · congr 1 <;> ring
  · congr 1 <;> ring

end SequenceChart
