import SequenceChart.Proofs.Diagram.Appending
import SequenceChart.Proofs.Diagram.Streams
import Mathlib.Logic.Relation

/-!
# What the surface of a source does not say

The same source can be written in many ways: with other line ends, indented, with comments and blank
lines, with characters in it that XML cannot hold.  None of this makes a difference to the diagram.
The ways are described by single edits, and two texts are ways to write the same source if edits,
made or undone, lead from one to the other in any number.

There is an order in which a text is read, and it decides what an edit has to respect.  Characters
that XML cannot hold go first, so they may stand anywhere, in the middle of a word or between a
carriage return and a line feed; all that is asked of a line is asked of what is left of it.  Then
the text is cut at the line feeds and the pieces are trimmed, so white space may be put next to a
line feed, where one line ends and another begins; and a carriage return there is white space like
any other.  What remains are the lines, and a line may be put in wherever one begins or ends, as
long as it says nothing.  The lines themselves have nothing of a surface left: reading them again
gives them back.

The texts are lists of scalar values, before an edit and behind it.  A surrogate that stands alone
is one more thing that XML cannot hold, but no text of this kind holds it either, so no edit puts
one in or takes one out.

## Main definitions

* `AtLineStart`, `AtLineEnd` — that a line begins behind a text, or ends in front of one.
* `IsSilentLine` — a line that says nothing.
* `SurfaceEdit` — one edit.

## Main statements

* `sourceLines_append_blanks` — white space where a line begins or ends.
* `ofText_eq_of_surfaceEdit` — what one edit does not change.
* `ofText_eq_of_eqvGen_surfaceEdit` — nor do any number of them; and the lines of a source have
  nothing of a surface left.
-/

set_option autoImplicit false
namespace SequenceChart

/-! ## Edits -/

/-- A line begins behind a text if it is empty or ends with a line feed. -/
def AtLineStart (front : String) : Prop :=
  front = "" ∨ ∃ text, front = text ++ "\n"

/-- A line ends in front of a text if it is empty or begins with a line feed. -/
def AtLineEnd (rest : String) : Prop :=
  rest = "" ∨ ∃ text, rest = "\n" ++ text

/-- A line that says nothing. -/
inductive IsSilentLine (line : String) : Prop
  /-- It is empty, or white space. -/
  | blank (h : IsBlankText line.toList)
  /-- It is a comment. -/
  | comment (h : Statement.isComment line.toList = true)
  /-- What is left of it when it is read has none of the forms of a statement. -/
  | unrecognized (h : Statement.ofLine (trim (line.toList.filter isXmlChar)) = .unrecognized)

/-- One edit of a text that changes no more than its surface. -/
inductive SurfaceEdit : String → String → Prop
  /-- A character that XML cannot hold is put in, anywhere. -/
  | putIn (front rest : String) {c : Char} (hc : isXmlChar c = false) :
    SurfaceEdit (front ++ rest) (front ++ String.singleton c ++ rest)
  /-- Such a character is taken out. -/
  | takeOut (front rest : String) {c : Char} (hc : isXmlChar c = false) :
    SurfaceEdit (front ++ String.singleton c ++ rest) (front ++ rest)
  /-- A carriage return is put in front of a line feed. -/
  | lineEnd (front rest : String) : SurfaceEdit (front ++ "\n" ++ rest) (front ++ "\r\n" ++ rest)
  /-- White space is put where a line begins or ends. -/
  | blanks (front rest blanks : String) (hplace : AtLineStart front ∨ AtLineEnd rest)
    (hblanks : IsBlankText blanks.toList) (hline : '\n' ∉ blanks.toList) :
    SurfaceEdit (front ++ rest) (front ++ blanks ++ rest)
  /-- A line that says nothing is put in where a line begins. -/
  | lineAbove (front rest line : String) (hplace : AtLineStart front) (hline : '\n' ∉ line.toList)
    (hsilent : IsSilentLine line) : SurfaceEdit (front ++ rest) (front ++ (line ++ "\n") ++ rest)
  /-- A line that says nothing is put in where a line ends. -/
  | lineBelow (front rest line : String) (hplace : AtLineEnd rest) (hline : '\n' ∉ line.toList)
    (hsilent : IsSilentLine line) : SurfaceEdit (front ++ rest) (front ++ ("\n" ++ line) ++ rest)

/-! ## What becomes of the lines -/

/-- Texts that differ in characters that XML cannot hold have the same lines. -/
theorem sourceLines_eq_of_filter_eq {a b : String}
    (h : a.toList.filter isXmlChar = b.toList.filter isXmlChar) :
    sourceLines a = sourceLines b := by
  rw [sourceLines, h, sourceLines]

theorem sourceLines_append_singleton (front rest : String) {c : Char} (hc : isXmlChar c = false) :
    sourceLines (front ++ String.singleton c ++ rest) = sourceLines (front ++ rest) := by
  refine sourceLines_eq_of_filter_eq ?_
  rw [String.toList_append, String.toList_append, String.toList_singleton, String.toList_append,
    List.filter_append, List.filter_append, List.filter_cons_of_neg (by simp [hc]), List.filter_nil,
    List.append_nil, List.filter_append]

section

variable {blanks : String} (hblanks : IsBlankText blanks.toList) (hline : '\n' ∉ blanks.toList)

include hblanks hline

theorem sourceLines_blanks_append (rest : String) :
    sourceLines (blanks ++ rest) = sourceLines rest := by
  have hfilter : '\n' ∉ blanks.toList.filter isXmlChar := fun h ↦ hline (List.mem_of_mem_filter h)
  rw [sourceLines, String.toList_append, List.filter_append,
    (hblanks.filter isXmlChar).map_trim_splitOn_append hfilter, sourceLines]

theorem sourceLines_append_blanks_self (front : String) :
    sourceLines (front ++ blanks) = sourceLines front := by
  have hfilter : '\n' ∉ blanks.toList.filter isXmlChar := fun h ↦ hline (List.mem_of_mem_filter h)
  rw [sourceLines, String.toList_append, List.filter_append,
    (hblanks.filter isXmlChar).map_trim_splitOn_append_self hfilter, sourceLines]

/-- **White space where a line begins or ends makes no other lines.** -/
theorem sourceLines_append_blanks {front rest : String}
    (hplace : AtLineStart front ∨ AtLineEnd rest) :
    sourceLines (front ++ blanks ++ rest) = sourceLines (front ++ rest) := by
  obtain (rfl | ⟨text, rfl⟩) | (rfl | ⟨text, rfl⟩) := hplace
  · rw [String.empty_append, sourceLines_blanks_append hblanks hline, String.empty_append]
  · rw [String.append_assoc, sourceLines_append_newline, sourceLines_blanks_append hblanks hline,
      sourceLines_append_newline]
  · rw [String.append_empty, sourceLines_append_blanks_self hblanks hline, String.append_empty]
  · rw [← String.append_assoc, sourceLines_append_newline,
      sourceLines_append_blanks_self hblanks hline, ← String.append_assoc,
      sourceLines_append_newline]

end

/-! ## What becomes of the statements -/

/-- A text without line feeds has one line at most. -/
theorem eq_trim_of_mem_sourceLines {text : String} (h : '\n' ∉ text.toList) :
    ∀ line ∈ sourceLines text, line = trim (text.toList.filter isXmlChar) := by
  intro line hline
  obtain ⟨-, piece, hpiece, rfl⟩ := mem_sourceLines_iff.1 hline
  rw [List.splitOn_eq_singleton fun hmem ↦ h (List.mem_of_mem_filter hmem)] at hpiece
  rw [List.mem_singleton.1 hpiece]

/-- A comment is a comment when it is read. -/
theorem isComment_trim_filter {line : List Char} (h : Statement.isComment line = true) :
    Statement.isComment (trim (line.filter isXmlChar)) = true := by
  rw [Statement.isComment, List.isPrefixOf_iff_prefix] at h
  obtain ⟨rest, rfl⟩ := h
  have hkeep : ("%%".toList ++ rest).filter isXmlChar = "%%".toList ++ rest.filter isXmlChar := by
    rw [List.filter_append]
    rfl
  have hmark : IsTrimmed "%%".toList := isTrimmed_of_trim_eq (by decide)
  rw [hkeep, trim_append_of_isTrimmed hmark (by decide), Statement.isComment,
    List.isPrefixOf_iff_prefix]
  exact List.prefix_append _ _

/-- **A line that says nothing is in no stream.** -/
theorem IsSilentLine.filter_isIn {line : String} (h : IsSilentLine line)
    (hline : '\n' ∉ line.toList) (stream : Stream) :
    (statements line).filter (·.isIn stream) = [] := by
  have hsilent : ∀ l ∈ sourceLines line, (Statement.ofLine l).stream? = none := by
    intro l hl
    obtain rfl := eq_trim_of_mem_sourceLines hline l hl
    cases h with
    | blank h =>
      have hnil : sourceLines line = [] := by
        have hlines := sourceLines_blanks_append h hline ""
        rw [String.append_empty] at hlines
        rw [hlines]
        decide
      rw [hnil] at hl
      cases hl
    | comment h => rw [Statement.ofLine_eq_comment_iff.2 (isComment_trim_filter h)]; rfl
    | unrecognized h => rw [h]; rfl
  rw [List.filter_eq_nil_iff]
  intro s hs
  obtain ⟨l, hl, rfl⟩ := List.mem_map.1 hs
  rw [Statement.isIn, hsilent l hl]
  simp

/-- Statements that are in no stream may stand among others. -/
theorem ofStatements_append_silent {xs ys zs : List Statement}
    (h : ∀ stream, ys.filter (·.isIn stream) = []) :
    Diagram.ofStatements (xs ++ ys ++ zs) = Diagram.ofStatements (xs ++ zs) :=
  ofStatements_eq_of_filter_isIn_eq fun stream ↦ by
    rw [List.filter_append, List.filter_append, h, List.append_nil, List.filter_append]

theorem ofText_append_line_above {front rest line : String} (hplace : AtLineStart front)
    (hline : '\n' ∉ line.toList) (hsilent : IsSilentLine line) :
    Diagram.ofText (front ++ (line ++ "\n") ++ rest) = Diagram.ofText (front ++ rest) := by
  have hnone := hsilent.filter_isIn hline
  rw [Diagram.ofText_eq, Diagram.ofText_eq]
  obtain rfl | ⟨text, rfl⟩ := hplace
  · rw [String.empty_append, String.empty_append, statements_append_newline]
    exact @ofStatements_append_silent [] _ _ hnone
  · rw [String.append_assoc, statements_append_newline, statements_append_newline,
      statements_append_newline, ← List.append_assoc]
    exact ofStatements_append_silent hnone

theorem ofText_append_line_below {front rest line : String} (hplace : AtLineEnd rest)
    (hline : '\n' ∉ line.toList) (hsilent : IsSilentLine line) :
    Diagram.ofText (front ++ ("\n" ++ line) ++ rest) = Diagram.ofText (front ++ rest) := by
  have hnone := hsilent.filter_isIn hline
  rw [Diagram.ofText_eq, Diagram.ofText_eq, ← String.append_assoc]
  obtain rfl | ⟨text, rfl⟩ := hplace
  · rw [String.append_empty, String.append_empty, statements_append_newline,
      ← List.append_nil (statements front ++ statements line), ofStatements_append_silent hnone,
      List.append_nil]
  · rw [← String.append_assoc, ← String.append_assoc, statements_append_newline,
      statements_append_newline, statements_append_newline]
    exact ofStatements_append_silent hnone

/-! ## What becomes of the diagram -/

theorem ofText_eq_of_sourceLines_eq {a b : String} (h : sourceLines a = sourceLines b) :
    Diagram.ofText a = Diagram.ofText b := by
  rw [Diagram.ofText_eq, statements, h, Diagram.ofText_eq, statements]

/-- **One edit of the surface does not change the diagram.** -/
theorem ofText_eq_of_surfaceEdit {a b : String} (h : SurfaceEdit a b) :
    Diagram.ofText a = Diagram.ofText b := by
  cases h with
  | putIn front rest hc =>
    exact ofText_eq_of_sourceLines_eq (sourceLines_append_singleton front rest hc).symm
  | takeOut front rest hc =>
    exact ofText_eq_of_sourceLines_eq (sourceLines_append_singleton front rest hc)
  | lineEnd front rest =>
    have hreturn : "\r\n" = "\r" ++ "\n" := by decide
    have hblank : IsBlankText "\r".toList := by decide
    have hplace : AtLineStart front ∨ AtLineEnd ("\n" ++ rest) := .inr (.inr ⟨rest, rfl⟩)
    have hlines := sourceLines_append_blanks hblank (by decide) hplace
    refine ofText_eq_of_sourceLines_eq ?_
    simp only [hreturn, String.append_assoc] at hlines ⊢
    exact hlines.symm
  | blanks front rest blanks hplace hblanks hline =>
    exact ofText_eq_of_sourceLines_eq (sourceLines_append_blanks hblanks hline hplace).symm
  | lineAbove front rest line hplace hline hsilent =>
    exact (ofText_append_line_above hplace hline hsilent).symm
  | lineBelow front rest line hplace hline hsilent =>
    exact (ofText_append_line_below hplace hline hsilent).symm

/-- **The surface of a source does not matter.**  Texts that any number of edits of the surface,
made or undone, lead from one to the other have the same diagram.  And the lines of a source have
nothing of a surface left: none is empty, all are trimmed and free of line feeds and of characters
that XML cannot hold, and when they are joined and read again, they are the lines that are read. -/
theorem ofText_eq_of_eqvGen_surfaceEdit :
    (∀ a b : String, Relation.EqvGen SurfaceEdit a b → Diagram.ofText a = Diagram.ofText b) ∧
    ∀ text : String, (∀ line ∈ sourceLines text, line ≠ [] ∧ IsTrimmed line ∧ IsPlain line) ∧
      sourceLines (String.ofList (['\n'].intercalate (sourceLines text))) = sourceLines text := by
  refine ⟨fun a b h ↦ ?_, fun text ↦ ?_⟩
  · induction h with
    | rel a b hedit => exact ofText_eq_of_surfaceEdit hedit
    | refl a => rfl
    | symm a b _ ih => exact ih.symm
    | trans a b c _ _ hab hbc => exact hab.trans hbc
  · have hlines : ∀ line ∈ sourceLines text, line ≠ [] ∧ IsTrimmed line ∧ IsPlain line :=
      fun line hline ↦ ⟨(mem_sourceLines_iff.1 hline).1, isTrimmed_of_mem_sourceLines hline,
        isPlain_of_mem_sourceLines hline⟩
    refine ⟨hlines, ?_⟩
    have htrim : (sourceLines text).map trim = sourceLines text := by
      conv_rhs => rw [← List.map_id (sourceLines text)]
      exact List.map_congr_left fun line hline ↦ (hlines line hline).2.1.trim_eq
    rw [sourceLines_intercalate fun line hline ↦ (hlines line hline).2.2, htrim,
      List.filter_eq_self]
    exact fun line hline ↦ by simpa using (hlines line hline).1

/-- A source with a control character in the middle of a keyword, and the same source with another
line end, a comment, a line that is no statement and white space. -/
theorem ofText_eq_of_eqvGen_surfaceEdit_mixed :
    let a := "participant A\nlo\x01op r\nA->>B: x\nend"
    let b := "participant A\nloop r\r\n\x0b %\n%% r\nA->>B: x\nend\u00a0"
    Relation.EqvGen SurfaceEdit a b ∧ Diagram.ofText a = Diagram.ofText b ∧
      (Diagram.ofText b).loops = [⟨"r", [⟨"A", "B", "x", .solid⟩], 0, 0, 0⟩] := by
  intro a b
  have hstart : AtLineStart "participant A\nloop r\r\n" :=
    .inr ⟨"participant A\nloop r\r", by decide⟩
  have hcontrol : SurfaceEdit a "participant A\nloop r\nA->>B: x\nend" :=
    .takeOut "participant A\nlo" "op r\nA->>B: x\nend" (c := '\x01') (by decide)
  have hreturn : SurfaceEdit "participant A\nloop r\nA->>B: x\nend"
      "participant A\nloop r\r\nA->>B: x\nend" :=
    .lineEnd "participant A\nloop r" "A->>B: x\nend"
  have hcomment : SurfaceEdit "participant A\nloop r\r\nA->>B: x\nend"
      "participant A\nloop r\r\n%% r\nA->>B: x\nend" :=
    .lineAbove "participant A\nloop r\r\n" "A->>B: x\nend" "%% r" hstart (by decide)
      (.comment (by decide))
  have hline : SurfaceEdit "participant A\nloop r\r\n%% r\nA->>B: x\nend"
      "participant A\nloop r\r\n\x0b %\n%% r\nA->>B: x\nend" :=
    .lineAbove "participant A\nloop r\r\n" "%% r\nA->>B: x\nend" "\x0b %" hstart (by decide)
      (.unrecognized (by decide +kernel))
  have hblanks : SurfaceEdit "participant A\nloop r\r\n\x0b %\n%% r\nA->>B: x\nend" b :=
    .blanks "participant A\nloop r\r\n\x0b %\n%% r\nA->>B: x\nend" "" "\u00a0"
      (.inr (.inl rfl)) (by decide) (by decide)
  have hedits : Relation.EqvGen SurfaceEdit a b :=
    .trans _ _ _ (.rel _ _ hcontrol) (.trans _ _ _ (.rel _ _ hreturn)
      (.trans _ _ _ (.rel _ _ hcomment) (.trans _ _ _ (.rel _ _ hline) (.rel _ _ hblanks))))
  exact ⟨hedits, ofText_eq_of_eqvGen_surfaceEdit.1 a b hedits, by decide +kernel⟩

end SequenceChart
