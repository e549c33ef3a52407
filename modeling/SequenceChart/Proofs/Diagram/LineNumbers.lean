import SequenceChart.Diagram.Reading
import SequenceChart.Proofs.Text.Numerals
import Mathlib.Data.List.Basic

/-!
# The numbers of ignored lines

A line that fits none of the forms of a statement is ignored with a remark, and the remark has a
number.  Whoever looks for the line in a text counts the lines as they are written.  The remark
counts the lines as they are read, and the blank ones are dropped before anything is read, so its
number is too small by the number of blank lines above.  Comments are counted on both sides.  So
every ignored line has its remark, in order, but the number is that of its line only if no line
above is blank (`ignored_lines_numbered`).

## Main definitions

* `writtenLines` — the lines of a text at their places, blank ones included.
* `unrecognizedLines` — those that should be remarked upon, with their numbers.
* `ignoredEntries` — the remarks that are made, as they are logged.
* `printedLines` — how many of the first lines are not blank, which is the number in a remark.

## Main statements

* `sourceLines_eq_filter` — the lines that are read are those that are not blank.
* `ReadingState.onIgnoredLines_foldl_take` — the remarks on ignored lines, in whatever state they
  are read.
* `ignored_lines_numbered` — what the numbers are, and when they are right.
* `exists_line_misnumbered` — a blank line above a line that is ignored.
-/

set_option autoImplicit false
namespace SequenceChart

/-! ## Lines as they are written -/

/-- The lines of a text, from one line feed to the next, each as it is read: without what XML cannot
hold and without white space around it, and so without a carriage return before the line feed.
Nothing is left of a blank line, but it has its place. -/
def writtenLines (text : String) : List (List Char) :=
  (text.toList.splitOn '\n').map fun line ↦ trim (line.filter isXmlChar)

/-- A text may be cut before characters are taken out of it, as long as the separator stays. -/
theorem splitOn_filter {keep : Char → Bool} {sep : Char} (hsep : keep sep = true) (s : List Char) :
    (s.filter keep).splitOn sep = (s.splitOn sep).map (List.filter keep) := by
  induction s with
  | nil => rfl
  | cons c s ih =>
    obtain ⟨first, others, hsplit⟩ := List.exists_cons_of_ne_nil (List.splitOn_ne_nil sep s)
    rw [List.splitOn_cons_eq_if_modifyHead]
    by_cases hc : c = sep
    · subst hc
      simp [hsep, List.splitOn_cons_eq_if_modifyHead, ih]
    · cases hkeep : keep c <;>
        simp [hkeep, hc, hsplit, List.splitOn_cons_eq_if_modifyHead, ih]

/-- **The lines that are read** are those that are not blank. -/
theorem sourceLines_eq_filter (text : String) :
    sourceLines text = (writtenLines text).filter (!·.isEmpty) := by
  rw [sourceLines, splitOn_filter (by decide), List.map_map, writtenLines]
  rfl

/-! ## Lines that are ignored -/

namespace Statement

/-- A line has none of the forms of a statement. -/
def FitsNoForm (line : List Char) : Prop :=
  participant? line = none ∧ note? line = none ∧ openLoop? line = none ∧
    isCloseLoop line = false ∧ message? line = none

instance (line : List Char) : Decidable (FitsNoForm line) :=
  inferInstanceAs (Decidable (_ ∧ _))

/-- What is not recognized is no comment and has none of the forms. -/
theorem ofLine_eq_unrecognized_iff {line : List Char} :
    ofLine line = unrecognized ↔ isComment line = false ∧ FitsNoForm line := by
  unfold ofLine FitsNoForm
  repeat' split
  all_goals simp_all

end Statement

/-- The lines of a text that are neither blank nor comments and have none of the forms, each with
its number among the lines as they are written. -/
def unrecognizedLines (text : String) : List (List Char × Nat) :=
  ((writtenLines text).zipIdx 1).filter fun p ↦
    p.1 ≠ [] ∧ Statement.isComment p.1 = false ∧ Statement.FitsNoForm p.1

/-- Whether a remark is on a line that is ignored. -/
def Remark.isOnIgnoredLine : Remark → Bool
  | lineIgnored _ _ => true
  | _ => false

/-- The entries in the log of a source that are about ignored lines. -/
def ignoredEntries (text : String) : List LogEntry :=
  ((readingRemarks text).filter Remark.isOnIgnoredLine).map Remark.entry

/-- The entry that says that a line with a number is ignored. -/
def ignoredEntry (line : List Char) (number : Nat) : LogEntry where
  level := .debug
  topic := "sequence_parser"
  text := "line " ++ toString number ++ " ignored: " ++ quoted (String.ofList line)

/-- An entry tells the number. -/
theorem ignoredEntry_inj {line : List Char} {i j : Nat} :
    ignoredEntry line i = ignoredEntry line j ↔ i = j := by
  simp only [ignoredEntry, LogEntry.mk.injEq, true_and, String.append_left_inj,
    String.append_right_inj]
  exact ⟨fun h ↦ toList_repr_injective (congrArg String.toList h), congrArg toString⟩

/-! ## The remarks of a pass -/

namespace ReadingState
variable (st : ReadingState)

/-- The remarks on ignored lines that were made so far. -/
def onIgnoredLines : List Remark :=
  st.remarks.toList.filter Remark.isOnIgnoredLine

theorem onIgnoredLines_remark (r : Remark) :
    (st.remark r).onIgnoredLines = st.onIgnoredLines ++ [r].filter Remark.isOnIgnoredLine := by
  rw [onIgnoredLines, remark, Array.toList_push, List.filter_append, onIgnoredLines]

theorem onIgnoredLines_declare (p : Participant) :
    (st.declare p).onIgnoredLines = st.onIgnoredLines := by
  rw [declare]
  split
  · exact (st.onIgnoredLines_remark _).trans (List.append_nil _)
  · rfl

theorem onIgnoredLines_closeLoop : st.closeLoop.onIgnoredLines = st.onIgnoredLines := by
  rw [closeLoop]
  split
  · exact (st.onIgnoredLines_remark _).trans (List.append_nil _)
  · rfl

/-- One line has a remark if it is ignored, with the number it has. -/
theorem onIgnoredLines_take (line : List Char × Nat) :
    (st.take line).onIgnoredLines = st.onIgnoredLines ++
      ([line].filter fun p ↦ Statement.isComment p.1 = false ∧ Statement.FitsNoForm p.1).map
        fun p ↦ .lineIgnored p.2 (String.ofList p.1) := by
  simp only [← Statement.ofLine_eq_unrecognized_iff, List.filter_singleton]
  rw [take]
  cases hline : Statement.ofLine line.1 with
  | participant p => simpa using st.onIgnoredLines_declare p
  | closeLoop => simpa using st.onIgnoredLines_closeLoop
  | unrecognized => simp [onIgnoredLines_remark, Remark.isOnIgnoredLine, List.filter_singleton]
  | note | openLoop | message | comment => simp [note, openLoop, send, onIgnoredLines]

/-- **The remarks on ignored lines** are one for each, in order, with the numbers as they are
counted; what is declared and which loops are open makes no difference. -/
theorem onIgnoredLines_foldl_take (lines : List (List Char × Nat)) :
    (lines.foldl take st).onIgnoredLines = st.onIgnoredLines ++
      (lines.filter fun p ↦ Statement.isComment p.1 = false ∧ Statement.FitsNoForm p.1).map
        fun p ↦ .lineIgnored p.2 (String.ofList p.1) := by
  induction lines generalizing st with
  | nil => exact (List.append_nil _).symm
  | cons line lines ih =>
    rw [List.foldl_cons, ih, onIgnoredLines_take, List.append_assoc, ← List.map_append,
      ← List.filter_append, List.singleton_append]

/-- Loops that are open at the end are no lines. -/
theorem onIgnoredLines_finish : st.finish.onIgnoredLines = st.onIgnoredLines := by
  rw [finish]
  induction st.opened generalizing st with
  | nil => rfl
  | cons o os ih =>
    rw [List.foldl_cons, ih, onIgnoredLines_closeLoop, onIgnoredLines_remark]
    exact List.append_nil _

end ReadingState

/-- The remarks on the ignored lines of a source. -/
theorem filter_readingRemarks (text : String) :
    (readingRemarks text).filter Remark.isOnIgnoredLine =
      (((sourceLines text).zipIdx 1).filter fun p ↦
        Statement.isComment p.1 = false ∧ Statement.FitsNoForm p.1).map
          fun p ↦ .lineIgnored p.2 (String.ofList p.1) :=
  (ReadingState.onIgnoredLines_finish _).trans (ReadingState.onIgnoredLines_foldl_take _ _)

/-! ## Two ways of counting -/

/-- **A member of a list has two numbers** if some members are left out: its number in the whole
list, and the number of members up to it that are kept. -/
theorem zipIdx_filter {β : Type} (keep : β → Bool) (front rest : List β) :
    (rest.filter keep).zipIdx (front.countP keep + 1) =
      ((rest.zipIdx (front.length + 1)).filter fun p ↦ keep p.1).map fun p ↦
        (p.1, ((front ++ rest).take p.2).countP keep) := by
  induction rest generalizing front with
  | nil => rfl
  | cons b rest ih =>
    have hrest := ih (front ++ [b])
    rw [List.countP_append, List.length_append, List.length_singleton, List.append_assoc,
      List.singleton_append] at hrest
    rw [List.zipIdx_cons, List.filter_cons, List.filter_cons]
    cases hb : keep b with
    | false => simpa [hb] using hrest
    | true =>
      have htake : (front ++ b :: rest).take (front.length + 1) = front ++ [b] := by
        rw [List.take_length_add_append, List.take_succ_cons, List.take_zero]
      simpa [hb, htake] using hrest

/-- How many of the first lines of a text are not blank. -/
def printedLines (text : String) (number : Nat) : Nat :=
  ((writtenLines text).take number).countP (!·.isEmpty)

theorem number_le_of_mem_unrecognizedLines {text : String} {p : List Char × Nat}
    (hp : p ∈ unrecognizedLines text) : p.2 ≤ (writtenLines text).length := by
  have hbounds := (List.mem_zipIdx (List.mem_of_mem_filter hp)).2.1
  omega

/-- All of the first lines count if none of them is blank. -/
theorem printedLines_eq_iff {text : String} {number : Nat}
    (h : number ≤ (writtenLines text).length) :
    printedLines text number = number ↔ ∀ line ∈ (writtenLines text).take number, line ≠ [] := by
  have hlength : ((writtenLines text).take number).length = number := List.length_take_of_le h
  have hcount := List.countP_eq_length (p := fun line : List Char ↦ !line.isEmpty)
    (l := (writtenLines text).take number)
  rw [hlength] at hcount
  rw [printedLines, hcount]
  simp

/-- **Every ignored line has its remark**, in order: there is one for each line that is neither
blank nor a comment and has none of the forms of a statement, and no other.  It shows the line as it
is read.  The number in it is that of the line among the lines that are not blank.

So the numbers are those of the lines in the text **exactly if** no line that is ignored has a blank
line above it. -/
theorem ignored_lines_numbered (text : String) :
    ignoredEntries text =
        (unrecognizedLines text).map (fun p ↦ ignoredEntry p.1 (printedLines text p.2)) ∧
      (ignoredEntries text = (unrecognizedLines text).map (fun p ↦ ignoredEntry p.1 p.2) ↔
        ∀ p ∈ unrecognizedLines text, ∀ line ∈ (writtenLines text).take p.2, line ≠ []) := by
  have hread : (sourceLines text).zipIdx 1 =
      (((writtenLines text).zipIdx 1).filter fun p ↦ !p.1.isEmpty).map fun p ↦
        (p.1, printedLines text p.2) := by
    rw [sourceLines_eq_filter]
    exact zipIdx_filter (!·.isEmpty) [] (writtenLines text)
  have hentries : ignoredEntries text =
      (unrecognizedLines text).map fun p ↦ ignoredEntry p.1 (printedLines text p.2) := by
    rw [ignoredEntries, filter_readingRemarks, hread, List.filter_map, List.filter_filter,
      List.map_map, List.map_map, unrecognizedLines]
    refine congrArg _ (List.filter_congr fun p _ ↦ ?_)
    rw [Bool.eq_iff_iff]
    simp [and_comm]
  refine ⟨hentries, ?_⟩
  rw [hentries, List.map_inj_left]
  refine forall₂_congr fun p hp ↦ ?_
  rw [ignoredEntry_inj, printedLines_eq_iff (number_le_of_mem_unrecognizedLines hp)]

/-- In a text that begins with a blank line, the second line is ignored, and the remark says that it
is the first. -/
theorem exists_line_misnumbered :
    ∃ text, unrecognizedLines text = [(['x'], 2)] ∧
      ignoredEntries text = [⟨.debug, "sequence_parser", "line 1 ignored: 'x'"⟩] ∧
      ignoredEntries text ≠ (unrecognizedLines text).map fun p ↦ ignoredEntry p.1 p.2 := by
  refine ⟨"\nx", ?_, ?_, ?_⟩ <;> decide +kernel

end SequenceChart
