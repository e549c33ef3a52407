import SequenceChart.Proofs.Diagram.Selections
import SequenceChart.Proofs.Diagram.Writing

/-!
# White space in a line that sends a message

A source of one line is read in two steps before a statement is looked for: characters that XML
cannot hold are taken out, and the line is trimmed.  Neither step changes the form of a line that
sends a message, only its parts: the characters that are taken out stand in its white space and its
text, since words and arrows have none, and trimming takes the end of the text (`trim_filter_line`).
So the white space around the arrow does not matter, and neither does that behind the colon.

There is one exception, and it comes from the order in which the forms are tried.  If the sender is
called `loop` and white space is left behind that name, then the line begins a loop, and all that
follows is its label.  No other name of a sender turns the line into another statement.

## Main definitions

* `MessageForm.asRead` — what is left of the parts of a line.
* `MessageForm.tight` — the form without white space between its parts.
* `MessageForm.withGap` — the form with white space behind the colon.

## Main statements

* `ofText_spaced` — the diagram of a line with white space is that of the line without.
* `ofText_spaced_ne_message` — but not if the sender is called `loop`.
-/

set_option autoImplicit false
namespace SequenceChart

/-! ## A source of one line -/

/-- Words hold no characters that XML cannot hold. -/
theorem isXmlChar_of_isWord {c : Char} (h : isWord c = true) : isXmlChar c = true := by
  have hranges : ∀ r ∈ wordClass.ranges, 0x20 ≤ r.1 ∧ (r.2 < 0xFFFE ∨ 0xFFFF < r.1) := by
    decide +kernel
  obtain ⟨r, hr, hlow, hhigh⟩ := CharClass.contains_iff.1 h
  have hrange := hranges r hr
  have hspace : 0x20 ≤ c.toNat := by omega
  have hfffe : c.toNat ≠ 0xFFFE := by omega
  have hffff : c.toNat ≠ 0xFFFF := by omega
  simp [isXmlChar, hspace, hfffe, hffff]

theorem IsWordText.filter_isXmlChar {w : List Char} (h : IsWordText w) :
    w.filter isXmlChar = w :=
  List.filter_eq_self.2 fun c hc ↦ isXmlChar_of_isWord (h.all_word c hc)

theorem sourceLines_ofList {line : List Char} (h : '\n' ∉ line)
    (hne : trim (line.filter isXmlChar) ≠ []) :
    sourceLines (String.ofList line) = [trim (line.filter isXmlChar)] := by
  have hplain : '\n' ∉ line.filter isXmlChar := fun hmem ↦ h (List.mem_of_mem_filter hmem)
  have hsplit : (line.filter isXmlChar).splitOn '\n' = [line.filter isXmlChar] := by
    have hplains : ∀ l ∈ [line.filter isXmlChar], '\n' ∉ l := by simpa using hplain
    have hone := List.splitOn_intercalate '\n' hplains (List.cons_ne_nil _ _)
    rwa [List.intercalate_singleton] at hone
  rw [sourceLines, String.toList_ofList, hsplit, List.map_singleton,
    List.filter_cons_of_pos (by simpa using hne), List.filter_nil]

namespace MessageForm

/-! ## The parts of a line that is read -/

/-- What is left of the parts of a line when it is read. -/
def asRead (f : MessageForm) : MessageForm :=
  { f with
    beforeArrow := f.beforeArrow.filter isXmlChar
    afterArrow := f.afterArrow.filter isXmlChar
    beforeColon := f.beforeColon.filter isXmlChar
    text := trimEnd (f.text.filter isXmlChar)
    isBlankText_beforeArrow := f.isBlankText_beforeArrow.filter _
    isBlankText_afterArrow := f.isBlankText_afterArrow.filter _
    isBlankText_beforeColon := f.isBlankText_beforeColon.filter _ }

variable (f : MessageForm)

/-- **A line that sends a message keeps its form when it is read.** -/
theorem trim_filter_line : trim (f.line.filter isXmlChar) = f.asRead.line := by
  have harrow : f.arrow.token.toList.filter isXmlChar = f.arrow.token.toList := by
    cases f.arrow <;> decide
  have hcolon : isXmlChar ':' = true := by decide
  have hhead : StopsBlank (f.sender ++ (f.beforeArrow.filter isXmlChar ++ (f.arrow.token.toList ++
      (f.afterArrow.filter isXmlChar ++ (f.receiver ++ f.beforeColon.filter isXmlChar))))) :=
    f.isWordText_sender.stopsBlank_append
  have htrim := trim_append_cons hhead (c := ':') (by decide) (f.text.filter isXmlChar)
  simpa only [line, pointer, target, ending, asRead, List.filter_append,
    List.filter_cons_of_pos hcolon, f.isWordText_sender.filter_isXmlChar,
    f.isWordText_receiver.filter_isXmlChar, harrow, List.append_assoc] using htrim

theorem line_ne_nil : f.line ≠ [] := by
  intro hnil
  have hmem := f.dash_mem_line
  rw [hnil] at hmem
  exact List.not_mem_nil hmem

theorem statements_line (h : '\n' ∉ f.line) :
    statements (String.ofList f.line) = [Statement.ofLine f.asRead.line] := by
  rw [statements, sourceLines_ofList h (f.trim_filter_line ▸ f.asRead.line_ne_nil),
    f.trim_filter_line, List.map_singleton]

/-- **A line whose sender opens no loop has its message for a diagram.** -/
theorem ofText_line (h : '\n' ∉ f.line) (hloop : ¬ f.asRead.OpensLoop) :
    Diagram.ofText (String.ofList f.line) = ⟨[], [f.asRead.message], [], []⟩ := by
  rw [Diagram.ofText_eq, f.statements_line h, f.asRead.ofLine_line hloop]
  rfl

/-- A line whose sender opens a loop has this loop for a diagram. -/
theorem ofText_line_of_opensLoop (h : '\n' ∉ f.line) (hloop : f.asRead.OpensLoop) :
    Diagram.ofText (String.ofList f.line) =
      ⟨[], [], [], [⟨String.ofList (trim f.asRead.pointer), [], 0, -1, 0⟩]⟩ := by
  obtain ⟨hsender, hbefore⟩ := hloop
  have hblank : ∀ c, (f.asRead.beforeArrow ++ f.asRead.pointer).head? = some c →
      isBlank c = true := by
    intro c hc
    obtain ⟨d, w, hw⟩ := List.exists_cons_of_ne_nil hbefore
    refine f.asRead.isBlankText_beforeArrow c (List.mem_of_head? ?_)
    rw [hw] at hc ⊢
    exact hc
  have hopen := Statement.ofLine_loop hblank
  rw [f.asRead.isBlankText_beforeArrow.trim_append, ← hsender] at hopen
  rw [Diagram.ofText_eq, f.statements_line h, line, hopen]
  rfl

/-! ## Other white space -/

/-- The form without white space between its parts. -/
def tight (f : MessageForm) : MessageForm :=
  { f with
    beforeArrow := []
    afterArrow := []
    beforeColon := []
    isBlankText_beforeArrow := isBlankText_nil
    isBlankText_afterArrow := isBlankText_nil
    isBlankText_beforeColon := isBlankText_nil }

/-- The form with something behind the colon, in front of the text. -/
def withGap (f : MessageForm) (gap : List Char) : MessageForm :=
  { f with text := gap ++ f.text }

theorem message_tight : f.tight.message = f.message := rfl

theorem withGap_nil : f.withGap [] = f := rfl

theorem opensLoop_asRead_iff : f.asRead.OpensLoop ↔
    f.sender = "loop".toList ∧ ∃ c ∈ f.beforeArrow, isXmlChar c = true := by
  rw [OpensLoop, asRead, Ne, List.filter_eq_nil_iff]
  push Not
  rfl

/-- White space behind the colon is no part of the message. -/
theorem message_asRead_withGap {gap : List Char} (hgap : IsBlankText gap)
    (htext : ∀ c ∈ f.text, isXmlChar c = true) : (f.withGap gap).asRead.message = f.message := by
  have htrim : trim (trimEnd ((gap ++ f.text).filter isXmlChar)) = trim f.text := by
    rw [trim_trimEnd, List.filter_append, (hgap.filter _).trim_append, List.filter_eq_self.2 htext]
  rw [message, asRead, withGap, htrim, message]

theorem newline_notMem_tight {gap : List Char} (h : '\n' ∉ (f.withGap gap).line) :
    '\n' ∉ f.tight.line := by
  have hmem : '\n' ∈ f.tight.line → '\n' ∈ (f.withGap gap).line := by
    simp only [line, pointer, target, ending, tight, withGap, List.mem_append, List.mem_cons]
    tauto
  exact mt hmem h

end MessageForm

/-- **White space around the arrow and behind the colon does not matter**, with one exception.  A
line with any white space there, and with text that XML can hold, has the diagram of the line
without: it holds the one message and nothing else.  The exception is a sender called `loop` if some
of the white space in front of the arrow is left when the line is read: then the line begins a loop,
as it would with any other text behind that keyword, and its label is the rest of the line. -/
theorem ofText_spaced (f : MessageForm) {gap : List Char} (hgap : IsBlankText gap)
    (hline : '\n' ∉ (f.withGap gap).line) (htext : ∀ c ∈ f.text, isXmlChar c = true) :
    Diagram.ofText (String.ofList f.tight.line) = ⟨[], [f.message], [], []⟩ ∧
    (¬ (f.sender = "loop".toList ∧ ∃ c ∈ f.beforeArrow, isXmlChar c = true) →
      Diagram.ofText (String.ofList (f.withGap gap).line) = ⟨[], [f.message], [], []⟩) ∧
    (f.sender = "loop".toList ∧ (∃ c ∈ f.beforeArrow, isXmlChar c = true) →
      Diagram.ofText (String.ofList (f.withGap gap).line) =
        ⟨[], [], [], [⟨String.ofList (trim (f.withGap gap).asRead.pointer), [], 0, -1, 0⟩]⟩) := by
  refine ⟨?_, fun hloop ↦ ?_, fun hloop ↦ ?_⟩
  · have hmessage : f.tight.asRead.message = f.tight.message := by
      rw [← f.tight.message_asRead_withGap isBlankText_nil htext, MessageForm.withGap_nil]
    rw [← f.message_tight, ← hmessage]
    exact f.tight.ofText_line (f.newline_notMem_tight hline) fun h ↦ h.2 rfl
  · rw [← f.message_asRead_withGap hgap htext]
    exact (f.withGap gap).ofText_line hline (mt (f.withGap gap).opensLoop_asRead_iff.1 hloop)
  · exact (f.withGap gap).ofText_line_of_opensLoop hline
      ((f.withGap gap).opensLoop_asRead_iff.2 hloop)

/-- A sender called `loop`, and in front of the arrow a vertical tab, which is white space that XML
cannot hold. -/
theorem ofText_spaced_vertical_tab :
    let f : MessageForm := ⟨"loop".toList, ['\x0b'], .lost, ['\u00a0'], "xend".toList, ['\t'],
      "loop ".toList, by decide +kernel, by decide +kernel, by decide, by decide, by decide⟩
    let gap : List Char := ['\r', ' ']
    (IsBlankText gap ∧ '\n' ∉ (f.withGap gap).line ∧ (∀ c ∈ f.text, isXmlChar c = true) ∧
      ¬ (f.sender = "loop".toList ∧ ∃ c ∈ f.beforeArrow, isXmlChar c = true)) ∧
    (f.withGap gap).line = "loop\x0b-x\u00a0xend\t:\r loop ".toList ∧
    Diagram.ofText (String.ofList (f.withGap gap).line) =
      ⟨[], [⟨"loop", "xend", "loop", .lost⟩], [], []⟩ := by
  intro f gap
  have hgap : IsBlankText gap := by decide
  have hline : '\n' ∉ (f.withGap gap).line := by decide
  have htext : ∀ c ∈ f.text, isXmlChar c = true := List.all_eq_true.1 (by decide)
  have hloop : ¬ (f.sender = "loop".toList ∧ ∃ c ∈ f.beforeArrow, isXmlChar c = true) :=
    fun h ↦ absurd (List.any_eq_true.2 h.2) (by decide)
  have hmessage : f.message = ⟨"loop", "xend", "loop", .lost⟩ := by decide
  refine ⟨⟨hgap, hline, htext, hloop⟩, by decide, ?_⟩
  rw [← hmessage]
  exact (ofText_spaced f hgap hline htext).2.1 hloop

/-- **White space in front of the arrow does matter to a sender called `loop`**: without it the line
sends a message, with it the line begins a loop. -/
theorem ofText_spaced_ne_message :
    let f : MessageForm := ⟨"loop".toList, [' '], .solid, [' '], ['B'], [], ['x'],
      by decide +kernel, by decide +kernel, by decide, by decide, by decide⟩
    let gap : List Char := [' ']
    (IsBlankText gap ∧ '\n' ∉ (f.withGap gap).line ∧ ∀ c ∈ f.text, isXmlChar c = true) ∧
    (f.withGap gap).line = "loop ->> B: x".toList ∧
    Diagram.ofText (String.ofList f.tight.line) = ⟨[], [f.message], [], []⟩ ∧
    Diagram.ofText (String.ofList (f.withGap gap).line) ≠ ⟨[], [f.message], [], []⟩ ∧
    Diagram.ofText (String.ofList (f.withGap gap).line) =
      ⟨[], [], [], [⟨"->> B: x", [], 0, -1, 0⟩]⟩ := by
  intro f gap
  have htext : ∀ c ∈ f.text, isXmlChar c = true := List.all_eq_true.1 (by decide)
  exact ⟨⟨by decide, by decide, htext⟩, by decide, by decide +kernel, by decide +kernel,
    by decide +kernel⟩

end SequenceChart
