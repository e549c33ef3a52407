import SequenceChart.Slide.LineEnds
import Mathlib.Logic.Basic

/-!
# Setting the ends of a line again and again

The ends of a line may be set any number of times, on a line that may have marks already, several of
a kind and anywhere among its parts.  Each time all marks that are there are taken out, so nothing
is left of what was set before, and nothing else is touched.

A call that is refused has taken the old marks out all the same, and whoever goes on after it goes
on from what it left.  This makes no difference to the calls that follow, for they take out whatever
marks there are.

## Main definitions

* `LinePart.storeCalls` — a sequence of calls, up to the first that is refused.

## Main statements

* `LinePart.filter_foldl_attemptEnds` — calls do not touch the other parts.
* `LinePart.storeCalls_eq` — a sequence of calls is refused if one of them is.
* `ends_of_last_call` — only the last call counts.
-/

set_option autoImplicit false
namespace SequenceChart
namespace LinePart

/-! ## One call -/

/-- The marks that a call puts in are marks. -/
theorem filter_headEnds (kind : String) : (headEnds kind).filter (!·.isEnd) = [] := by
  rw [headEnds]
  split <;> rfl

theorem filter_tailEnds (kind : String) : (tailEnds kind).filter (!·.isEnd) = [] := by
  rw [tailEnds]
  split <;> rfl

/-- **A call does not touch the other parts** of a line, nor their order. -/
theorem filter_attemptEnds (start stop : String) (parts : List LinePart) :
    (attemptEnds start stop parts).filter (!·.isEnd) = parts.filter (!·.isEnd) := by
  have hhead : (if isXmlText start then headEnds start else []).filter (!·.isEnd) = [] := by
    split
    · exact filter_headEnds start
    · rfl
  have htail : (if isXmlText start && isXmlText stop then tailEnds stop else []).filter
      (!·.isEnd) = [] := by
    split
    · exact filter_tailEnds stop
    · rfl
  rw [attemptEnds, List.filter_append, List.filter_append, hhead, htail, List.append_nil,
    List.append_nil, List.filter_filter]
  simp only [Bool.and_self]

/-- What a call leaves depends on the line only by its other parts. -/
theorem attemptEnds_congr (start stop : String) {parts parts' : List LinePart}
    (h : parts.filter (!·.isEnd) = parts'.filter (!·.isEnd)) :
    attemptEnds start stop parts = attemptEnds start stop parts' := by
  rw [attemptEnds, h, attemptEnds]

/-! ## Any number of calls -/

/-- The parts of a line after some calls, each with the kinds of the two ends, unless one of them is
refused. -/
def storeCalls (calls : List (String × String)) (parts : List LinePart) :
    Except Failure (List LinePart) :=
  calls.foldlM (fun parts c ↦ storeEnds c.1 c.2 parts) parts

/-- **No number of calls touches the other parts** of a line. -/
theorem filter_foldl_attemptEnds (calls : List (String × String)) (parts : List LinePart) :
    (calls.foldl (fun parts c ↦ attemptEnds c.1 c.2 parts) parts).filter (!·.isEnd) =
      parts.filter (!·.isEnd) := by
  induction calls generalizing parts with
  | nil => rfl
  | cons c calls ih => rw [List.foldl_cons, ih, filter_attemptEnds]

/-- **A sequence of calls is refused** if one of them is; otherwise every call leaves the parts that
the next one begins with. -/
theorem storeCalls_eq (calls : List (String × String)) (parts : List LinePart) :
    storeCalls calls parts =
      if calls.all (fun c ↦ isXmlText c.1 && isXmlText c.2) then
        .ok (calls.foldl (fun parts c ↦ attemptEnds c.1 c.2 parts) parts)
      else .error .xmlCharacter := by
  induction calls generalizing parts with
  | nil => rfl
  | cons c calls ih =>
    rw [storeCalls, List.foldlM_cons, storeEnds_eq, List.all_cons, List.foldl_cons]
    cases hc : isXmlText c.1 && isXmlText c.2 with
    | false => rfl
    | true => exact ih (attemptEnds c.1 c.2 parts)

end LinePart

open LinePart

/-! ## The last call -/

/-- **Only the last call counts.**  Whatever parts a line has, with marks of either kind anywhere
among them, and whatever calls are made on it: in the end it has its other parts in their order, and
behind them the head and the tail that the last call gives, neither of them for the kind that stands
for no mark.  The calls before leave nothing.

This is said in two ways.  The first follows the calls whether or not they are refused; a call that
is refused puts in the marks up to the one that cannot be stored.  The second stops at the first
call that is refused, and is refused then. -/
theorem ends_of_last_call (parts : List LinePart) (calls : List (String × String))
    (start stop : String) :
    (calls ++ [(start, stop)]).foldl (fun parts c ↦ attemptEnds c.1 c.2 parts) parts =
        parts.filter (!·.isEnd) ++
          (if isXmlText start ∧ start ≠ "none" then [headEnd start] else []) ++
          (if (isXmlText start ∧ isXmlText stop) ∧ stop ≠ "none" then [tailEnd stop] else []) ∧
      storeCalls (calls ++ [(start, stop)]) parts =
        if ∀ c ∈ calls ++ [(start, stop)], isXmlText c.1 ∧ isXmlText c.2 then
          .ok (parts.filter (!·.isEnd) ++ (if start ≠ "none" then [headEnd start] else []) ++
            if stop ≠ "none" then [tailEnd stop] else [])
        else .error .xmlCharacter := by
  have hlast : (calls ++ [(start, stop)]).foldl (fun parts c ↦ attemptEnds c.1 c.2 parts) parts =
      attemptEnds start stop parts := by
    rw [List.foldl_append, List.foldl_cons, List.foldl_nil]
    exact attemptEnds_congr start stop (filter_foldl_attemptEnds calls parts)
  have hends : attemptEnds start stop parts = parts.filter (!·.isEnd) ++
      (if isXmlText start ∧ start ≠ "none" then [headEnd start] else []) ++
      (if (isXmlText start ∧ isXmlText stop) ∧ stop ≠ "none" then [tailEnd stop] else []) := by
    by_cases hstart : start = "none" <;> by_cases hstop : stop = "none" <;>
      simp [attemptEnds, headEnds, tailEnds, noMark, hstart, hstop]
  refine ⟨hlast.trans hends, ?_⟩
  have hstored : (calls ++ [(start, stop)]).all (fun c ↦ isXmlText c.1 && isXmlText c.2) ↔
      ∀ c ∈ calls ++ [(start, stop)], isXmlText c.1 ∧ isXmlText c.2 := by
    simp only [List.all_eq_true, Bool.and_eq_true]
  rw [storeCalls_eq, hlast, hends]
  by_cases hall : ∀ c ∈ calls ++ [(start, stop)], isXmlText c.1 ∧ isXmlText c.2
  · obtain ⟨hstart, hstop⟩ : isXmlText start ∧ isXmlText stop := hall (start, stop) (by simp)
    rw [if_pos hall, if_pos (hstored.2 hall)]
    simp only [hstart, hstop, true_and]
  · rw [if_neg hall, if_neg (mt hstored.1 hall)]

end SequenceChart
