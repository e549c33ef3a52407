import SequenceChart.Proofs.Diagram.Selections
import SequenceChart.Proofs.Text.Trimming

/-!
# The effective lines of a text

A comment is a line like any other as far as line numbers go, but it says nothing.  The effective
lines of a text are the others, and a diagram is read off them alone (`ofText_eq_ofStatements`), so
positions in a source can be taken among its effective lines.
-/

set_option autoImplicit false
namespace SequenceChart

/-- The lines of a text that are not comments. -/
def effectiveLines (text : String) : List (List Char) :=
  (sourceLines text).filter (!Statement.isComment ·)

/-- What the effective lines of a text say. -/
def effectiveStatements (text : String) : List Statement :=
  (effectiveLines text).map Statement.ofLine

namespace Statement

theorem ofLine_eq_comment_iff {line : List Char} :
    ofLine line = comment ↔ isComment line = true := by
  unfold ofLine
  split
  · simp_all
  · repeat' split
    all_goals simp_all

/-- A line begins a loop only if it fits the form of a loop line. -/
theorem openLoop?_of_ofLine {line : List Char} {label : String}
    (h : ofLine line = openLoop label) : openLoop? line = some label := by
  unfold ofLine at h
  repeat' split at h
  all_goals cases h
  assumption

/-- The label of a loop is what follows the keyword, trimmed. -/
theorem label_eq_of_openLoop? {line : List Char} {label : String}
    (h : openLoop? line = some label) : label = String.ofList (trim (line.drop 4)) := by
  obtain ⟨rest, hrest, h⟩ := Option.bind_eq_some_iff.1 h
  obtain rfl := eq_append_of_isPrefixOf? hrest
  have hdrop : ("loop".toList ++ rest).drop 4 = rest := rfl
  rw [hdrop]
  cases rest with
  | nil => exact (Option.some.inj h).symm
  | cons c rest =>
    obtain ⟨after, hafter, h⟩ := Option.bind_eq_some_iff.1 h
    rw [← Option.some.inj h, eq_trimStart_of_afterBlanks? hafter, trim_trimStart]
    rfl

end Statement

/-! ## Statements that say nothing -/

/-- A view of statements may pass over those that it does not see. -/
theorem filterMap_filter_of_none {α : Type} {view : Statement → Option α} {keep : Statement → Bool}
    (h : ∀ s, keep s = false → view s = none) (ss : List Statement) :
    (ss.filter keep).filterMap view = ss.filterMap view := by
  rw [List.filterMap_filter]
  refine List.filterMap_congr fun s _ ↦ ?_
  cases hs : keep s with
  | true => rfl
  | false => exact (h s hs).symm

/-- The loops see messages, loop lines and `end` lines only. -/
theorem loopsFrom_filter {keep : Statement → Bool} (hmessage : ∀ m, keep (.message m) = true)
    (hopen : ∀ label, keep (.openLoop label) = true) (hclose : keep .closeLoop = true)
    (opened : List OpenLoop) (sent : Nat) (ss : List Statement) :
    loopsFrom opened sent (ss.filter keep) = loopsFrom opened sent ss := by
  induction ss generalizing opened sent with
  | nil => rfl
  | cons s ss ih =>
    cases s with
    | openLoop label => rw [List.filter_cons_of_pos (hopen label), loopsFrom, ih, loopsFrom]
    | closeLoop =>
      rw [List.filter_cons_of_pos hclose]
      cases opened with
      | nil => exact ih [] sent
      | cons inner outer => exact congrArg (inner.close sent :: ·) (ih outer sent)
    | message m => rw [List.filter_cons_of_pos (hmessage m), loopsFrom, ih, loopsFrom]
    | participant | note | comment | unrecognized =>
      rw [List.filter_cons]
      split <;> exact ih opened sent

namespace Diagram

/-- Comments say nothing. -/
theorem ofStatements_filter_comment (ss : List Statement) :
    ofStatements (ss.filter (· != .comment)) = ofStatements ss := by
  have hview : ∀ {α : Type} {view : Statement → Option α}, view .comment = none →
      (ss.filter (· != .comment)).filterMap view = ss.filterMap view := by
    intro α view hview
    refine filterMap_filter_of_none (fun s hs ↦ ?_) ss
    rwa [bne_eq_false_iff_eq.1 hs]
  have hloops : loopsFrom [] 0 (ss.filter (· != .comment)) = loopsFrom [] 0 ss :=
    loopsFrom_filter (fun _ ↦ rfl) (fun _ ↦ rfl) rfl [] 0 ss
  rw [ofStatements, ofStatements, hloops, hview rfl, hview rfl, hview rfl]

/-- **A diagram is read off the effective lines of its source.** -/
theorem ofText_eq_ofStatements (text : String) :
    ofText text = ofStatements (effectiveStatements text) := by
  have heffective : effectiveStatements text = (statements text).filter (· != .comment) := by
    rw [effectiveStatements, effectiveLines, statements, List.filter_map]
    congr 1
    refine List.filter_congr fun line _ ↦ ?_
    rw [Bool.eq_iff_iff]
    simp [Statement.ofLine_eq_comment_iff]
  rw [heffective, ofStatements_filter_comment, ofText_eq]

end Diagram
end SequenceChart
