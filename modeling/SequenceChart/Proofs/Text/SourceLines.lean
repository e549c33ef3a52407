import SequenceChart.Text.Lines
import SequenceChart.Proofs.Text.Trimming

/-!
# Cutting a text into lines, and joining lines

What is known of every line of a source, whatever the source is: it is not empty, it is trimmed, and
it holds neither line feeds nor characters XML cannot hold.  Lines of such characters can be joined
and cut again; what comes back is trimmed, and what trimming leaves nothing of is gone.

## Main definitions

* `IsPlain` — a text that can stand in a line.

## Main statements

* `isTrimmed_of_mem_sourceLines`, `isPlain_of_mem_sourceLines` — the lines of a source.
* `sourceLines_intercalate` — the lines of joined lines.
* `sourceLines_append_newline` — the lines of one text below another.
* `IsBlankText.map_trim_splitOn_append`, `IsBlankText.map_trim_splitOn_append_self` — white space at
  an end of a text that is cut makes no difference to the trimmed pieces.
-/

set_option autoImplicit false
namespace SequenceChart

/-- A text without line feeds and without characters that XML cannot hold. -/
def IsPlain (s : List Char) : Prop :=
  ∀ c ∈ s, isXmlChar c = true ∧ c ≠ '\n'

theorem IsPlain.mono {s t : List Char} (h : IsPlain s) (hst : ∀ c ∈ t, c ∈ s) : IsPlain t :=
  fun c hc ↦ h c (hst c hc)

theorem IsPlain.trim {s : List Char} (h : IsPlain s) : IsPlain (trim s) :=
  h.mono fun _ hc ↦ mem_of_mem_trim hc

theorem isPlain_append {s t : List Char} : IsPlain (s ++ t) ↔ IsPlain s ∧ IsPlain t :=
  List.forall_mem_append

/-! ## The lines of a source -/

theorem isTrimmed_of_mem_sourceLines {text : String} {line : List Char}
    (h : line ∈ sourceLines text) : IsTrimmed line := by
  obtain ⟨-, piece, -, rfl⟩ := mem_sourceLines_iff.1 h
  exact isTrimmed_trim piece

/-- A piece between separators has its characters from the text, and no separator. -/
theorem mem_of_mem_splitOn {c : Char} {s piece : List Char} (h : piece ∈ s.splitOn c) :
    ∀ d ∈ piece, d ∈ s ∧ d ≠ c := by
  induction s generalizing piece with
  | nil =>
    obtain rfl : piece = [] := by simpa using h
    simp
  | cons x s ih =>
    have htail : ∀ piece ∈ s.splitOn c, ∀ d ∈ piece, d ∈ x :: s ∧ d ≠ c := fun piece h d hd ↦
      ⟨List.mem_cons_of_mem _ (ih h d hd).1, (ih h d hd).2⟩
    rw [List.splitOn_cons_eq_if_modifyHead] at h
    split at h
    · rcases List.mem_cons.1 h with rfl | h
      · simp
      · exact htail piece h
    · rename_i hx
      obtain ⟨first, others, hsplit⟩ := List.exists_cons_of_ne_nil (List.splitOn_ne_nil c s)
      rw [hsplit] at h htail
      rcases List.mem_cons.1 h with rfl | h
      · intro d hd
        rcases List.mem_cons.1 hd with rfl | hd
        · exact ⟨List.mem_cons_self .., by simpa using hx⟩
        · exact htail first (List.mem_cons_self ..) d hd
      · exact htail piece (List.mem_cons_of_mem _ h)

/-- White space in front of a text is trimmed with its first piece. -/
theorem IsBlankText.map_trim_splitOn_append {sep : Char} {w : List Char} (hw : IsBlankText w)
    (hsep : sep ∉ w) (s : List Char) :
    ((w ++ s).splitOn sep).map trim = (s.splitOn sep).map trim := by
  induction w with
  | nil => rfl
  | cons c w ih =>
    obtain ⟨hc, hblank⟩ := List.forall_mem_cons.1 hw
    obtain ⟨hne, hmem⟩ := not_or.1 (mt List.mem_cons.2 hsep)
    obtain ⟨first, others, hsplit⟩ := List.exists_cons_of_ne_nil (List.splitOn_ne_nil sep (w ++ s))
    have hrest := ih hblank hmem
    rw [hsplit, List.map_cons] at hrest
    rw [List.cons_append, List.splitOn_cons_eq_if_modifyHead, if_neg (by simpa using Ne.symm hne),
      hsplit, List.modifyHead_cons, List.map_cons, trim_cons_of_isBlank hc, hrest]

theorem trimEnd_cons_congr {c : Char} {s t : List Char} (h : trimEnd s = trimEnd t) :
    trimEnd (c :: s) = trimEnd (c :: t) := by
  rw [← List.singleton_append, trimEnd_append, h, ← trimEnd_append, List.singleton_append]

/-- White space behind a text is trimmed with its last piece.  Only the ends of the pieces are
looked at: how a piece goes on does not tell whether white space in front of it is trimmed. -/
theorem IsBlankText.map_trimEnd_splitOn_append_self {sep : Char} {w : List Char}
    (hw : IsBlankText w) (hsep : sep ∉ w) (s : List Char) :
    ((s ++ w).splitOn sep).map trimEnd = (s.splitOn sep).map trimEnd := by
  induction s with
  | nil =>
    rw [List.nil_append, List.splitOn_eq_singleton hsep, List.splitOn_nil, List.map_singleton,
      hw.trimEnd_eq_nil]
    rfl
  | cons c s ih =>
    rw [List.cons_append, List.splitOn_cons_eq_if_modifyHead, List.splitOn_cons_eq_if_modifyHead]
    split
    · rw [List.map_cons, ih, List.map_cons]
    · obtain ⟨p, ps, hp⟩ := List.exists_cons_of_ne_nil (List.splitOn_ne_nil sep (s ++ w))
      obtain ⟨q, qs, hq⟩ := List.exists_cons_of_ne_nil (List.splitOn_ne_nil sep s)
      rw [hp, hq, List.map_cons, List.map_cons, List.cons.injEq] at ih
      rw [hp, hq, List.modifyHead_cons, List.modifyHead_cons, List.map_cons, List.map_cons, ih.2,
        trimEnd_cons_congr ih.1]

theorem IsBlankText.map_trim_splitOn_append_self {sep : Char} {w : List Char} (hw : IsBlankText w)
    (hsep : sep ∉ w) (s : List Char) :
    ((s ++ w).splitOn sep).map trim = (s.splitOn sep).map trim := by
  have htrim : trim = trim ∘ trimEnd := funext fun t ↦ (trim_trimEnd t).symm
  rw [htrim, ← List.map_map, hw.map_trimEnd_splitOn_append_self hsep, List.map_map]

theorem isPlain_of_mem_sourceLines {text : String} {line : List Char}
    (h : line ∈ sourceLines text) : IsPlain line := by
  obtain ⟨-, piece, hpiece, rfl⟩ := mem_sourceLines_iff.1 h
  refine IsPlain.trim fun c hc ↦ ?_
  obtain ⟨hmem, hne⟩ := mem_of_mem_splitOn hpiece c hc
  exact ⟨(List.mem_filter.1 hmem).2, hne⟩

/-! ## Joining lines -/

theorem mem_intercalate {sep : Char} {c : Char} {lines : List (List Char)}
    (h : c ∈ [sep].intercalate lines) : c = sep ∨ ∃ l ∈ lines, c ∈ l := by
  induction lines with
  | nil => simp at h
  | cons l lines ih =>
    by_cases hlines : lines = []
    · subst hlines
      rw [List.intercalate_singleton] at h
      exact .inr ⟨l, List.mem_cons_self .., h⟩
    · rw [List.intercalate_cons_of_ne_nil hlines, List.append_assoc, List.mem_append,
        List.mem_append, List.mem_singleton] at h
      rcases h with h | h | h
      · exact .inr ⟨l, List.mem_cons_self .., h⟩
      · exact .inl h
      · exact (ih h).imp_right fun ⟨l', hl', hc⟩ ↦ ⟨l', List.mem_cons_of_mem _ hl', hc⟩

/-- **The lines of joined lines** are these lines trimmed, without those of which nothing is
left. -/
theorem sourceLines_intercalate {lines : List (List Char)} (h : ∀ l ∈ lines, IsPlain l) :
    sourceLines (String.ofList (['\n'].intercalate lines)) =
      (lines.map trim).filter (!·.isEmpty) := by
  have hxml : ∀ c ∈ ['\n'].intercalate lines, isXmlChar c = true := by
    intro c hc
    rcases mem_intercalate hc with rfl | ⟨l, hl, hc⟩
    · decide
    · exact (h l hl c hc).1
  rw [sourceLines, String.toList_ofList, List.filter_eq_self.2 hxml]
  by_cases hlines : lines = []
  · subst hlines
    decide
  · rw [List.splitOn_intercalate '\n' (fun l hl hmem ↦ (h l hl _ hmem).2 rfl) hlines]

/-- **The lines of one text below another** are the lines of the first and then those of the second.
Where the first text ends makes no difference: a carriage return or a character that XML cannot hold
in front of the line feed is part of its last line, and goes with trimming or is not there at all.
-/
theorem sourceLines_append_newline (a b : String) :
    sourceLines (a ++ "\n" ++ b) = sourceLines a ++ sourceLines b := by
  have hfilter : (a ++ "\n" ++ b).toList.filter isXmlChar =
      a.toList.filter isXmlChar ++ '\n' :: b.toList.filter isXmlChar := by
    have hnewline : ['\n'].filter isXmlChar = ['\n'] := by decide
    rw [String.toList_append, String.toList_append, List.filter_append, List.filter_append,
      show "\n".toList = ['\n'] from rfl, hnewline, List.append_assoc, List.singleton_append]
  rw [sourceLines, hfilter, List.splitOn_append_cons_self, List.map_append, List.filter_append,
    sourceLines, sourceLines]

end SequenceChart
