import SequenceChart.Proofs.Diagram.Readable
import SequenceChart.Proofs.Loops.Matching
import SequenceChart.Proofs.Loops.Rebuilding

/-!
# The canonical text of a diagram

A diagram forgets how its source was laid out: where blanks stood, which lines said nothing, how
participants and notes were mixed with messages, whether a loop was closed or just ended.  It keeps
enough for a source to be made from it.  The canonical text has the participants first, then the
notes, then the messages with the lines of the loops among them.  Reading it gives the diagram back,
whatever was read in the first place (`ofText_canonicalText`), so nothing that can be read is beyond
what can be written.

Three facts meet here: statements that were read can be written and read again
(`statements_written`), participants that were read have different names, and the lines of the loops
are determined by the loops (`eq_loopStatements_iff`, `Matching.listed_iff`).

## Main definitions

* `Diagram.canonicalStatements`, `Diagram.canonicalText` — the statements and the text of a diagram.

## Main statements

* `ofText_canonicalText` — a diagram that was read is read from its canonical text.
-/

set_option autoImplicit false
namespace SequenceChart

/-- The statements of the canonical text of a diagram. -/
def Diagram.canonicalStatements (d : Diagram) : List Statement :=
  d.participants.map .participant ++ d.notes.map .note ++ loopStatements d.messages d.loops

/-- The canonical text of a diagram. -/
def Diagram.canonicalText (d : Diagram) : String :=
  written d.canonicalStatements

/-! ## What balanced lists hold -/

theorem Balanced.filterMap_eq_nil {n : Nat} {ss : List Statement} (hb : Balanced n ss) :
    ss.filterMap Statement.declared? = [] ∧ ss.filterMap Statement.noted? = [] := by
  induction hb with
  | nil => exact ⟨rfl, rfl⟩
  | openLoop _ _ ih | closeLoop _ ih | message _ _ ih => exact ih

theorem Balanced.ne_unrecognized {n : Nat} {ss : List Statement} (hb : Balanced n ss) :
    ∀ s ∈ ss, s ≠ .unrecognized := by
  induction hb with
  | nil => simp
  | openLoop _ _ ih | closeLoop _ ih | message _ _ ih => simpa using ih

/-- Balancing adds nothing but `end` lines. -/
theorem mem_of_mem_balance {n : Nat} {ss : List Statement} {s : Statement} (h : s ∈ balance n ss) :
    s = .closeLoop ∨ s ∈ ss := by
  fun_induction balance n ss with
  | case1 n => exact .inl (List.eq_of_mem_replicate h)
  | case3 ss ih => exact (ih h).imp_right (List.mem_cons_of_mem _)
  | case2 | case4 | case5 =>
    rename_i ih
    rcases List.mem_cons.1 h with rfl | h
    · exact .inr (List.mem_cons_self ..)
    · exact (ih h).imp_right (List.mem_cons_of_mem _)
  | case6 | case7 | case8 | case9 =>
    rename_i ih
    exact (ih h).imp_right (List.mem_cons_of_mem _)

/-! ## Reading the canonical statements -/

theorem loopsFrom_map_append {α : Type} (statement : α → Statement)
    (h : ∀ a opened sent ss, loopsFrom opened sent (statement a :: ss) = loopsFrom opened sent ss)
    (xs : List α) (opened : List OpenLoop) (sent : Nat) (ss : List Statement) :
    loopsFrom opened sent (xs.map statement ++ ss) = loopsFrom opened sent ss := by
  induction xs with
  | nil => rfl
  | cons x xs ih => rw [List.map_cons, List.cons_append, h, ih]

/-- Declarations and notes do not hide what is written after them. -/
theorem Diagram.ofStatements_canonicalStatements {d : Diagram}
    (hps : d.participants.Pairwise fun p q ↦ p.id ≠ q.id)
    (hb : Balanced 0 (loopStatements d.messages d.loops))
    (hmessages : (loopStatements d.messages d.loops).filterMap Statement.sent? = d.messages)
    (hloops : loopsFrom [] 0 (loopStatements d.messages d.loops) = d.loops) :
    Diagram.ofStatements d.canonicalStatements = d := by
  obtain ⟨hdeclared, hnoted⟩ := hb.filterMap_eq_nil
  have hparticipants : d.canonicalStatements.filterMap Statement.declared? = d.participants := by
    simp [canonicalStatements, hdeclared, List.filterMap_map, Function.comp_def,
      Statement.declared?]
  have hsent : d.canonicalStatements.filterMap Statement.sent? = d.messages := by
    have hunsent : (d.participants.map Statement.participant ++
        d.notes.map Statement.note).filterMap Statement.sent? = [] := by
      simp [List.filterMap_map, Function.comp_def, Statement.sent?]
    rw [canonicalStatements, List.filterMap_append, hunsent, List.nil_append, hmessages]
  have hnotes : d.canonicalStatements.filterMap Statement.noted? = d.notes := by
    simp [canonicalStatements, hnoted, List.filterMap_map, Function.comp_def, Statement.noted?]
  have hframes : loopsFrom [] 0 d.canonicalStatements = d.loops := by
    rw [canonicalStatements, List.append_assoc,
      loopsFrom_map_append Statement.participant (fun _ _ _ _ ↦ rfl),
      loopsFrom_map_append Statement.note (fun _ _ _ _ ↦ rfl), hloops]
  rw [ofStatements, hparticipants, hsent, hnotes, hframes, firstDeclared_eq_self hps]

/-! ## Reading the canonical text -/

/-- The lines of the loops that are read from a text are lines of the text, and `end` lines. -/
theorem isReadable_of_mem_loopStatements {text : String} {s : Statement}
    (h : s ∈ loopStatements (Diagram.ofText text).messages (Diagram.ofText text).loops) :
    s.IsReadable ∧ s ≠ .unrecognized := by
  have hbalance : loopStatements (Diagram.ofText text).messages (Diagram.ofText text).loops =
      balance 0 (statements text) := by
    refine ((eq_loopStatements_iff text _).2 ⟨balanced_balance 0 _, ?_, ?_⟩).symm
    · rw [filterMap_sent?_balance, Diagram.messages_ofText]
    · rw [show loopsFrom [] 0 (balance 0 (statements text)) = _ from loopsFrom_balance [] 0 _,
        Diagram.loops_ofText]
  rw [hbalance] at h
  refine ⟨?_, (balanced_balance 0 _).ne_unrecognized s h⟩
  rcases mem_of_mem_balance h with rfl | h
  · trivial
  · exact isReadable_of_mem_statements h

theorem isReadable_of_mem_canonicalStatements {text : String} {s : Statement}
    (h : s ∈ (Diagram.ofText text).canonicalStatements) : s.IsReadable ∧ s ≠ .unrecognized := by
  rcases List.mem_append.1 h with h | h
  · rcases List.mem_append.1 h with h | h
    · obtain ⟨p, hp, rfl⟩ := List.mem_map.1 h
      exact ⟨isReadable_of_mem_participants hp, Statement.noConfusion⟩
    · obtain ⟨n, hn, rfl⟩ := List.mem_map.1 h
      exact ⟨isReadable_of_mem_notes hn, Statement.noConfusion⟩
  · exact isReadable_of_mem_loopStatements h

/-- **A diagram that was read is read from its canonical text.**  There the loop lines and `end`
lines stand among the messages of the diagram in the only way in which every `end` line closes a
loop, every loop is closed, and the loops of the matching, counted and listed, are those of the
diagram. -/
theorem ofText_canonicalText (text : String) :
    Diagram.ofText (Diagram.ofText text).canonicalText = Diagram.ofText text ∧
      ∀ ss, ss = loopStatements (Diagram.ofText text).messages (Diagram.ofText text).loops ↔
        Balanced 0 ss ∧ ss.filterMap Statement.sent? = (Diagram.ofText text).messages ∧
          Matching.Listed ss (Diagram.ofText text).loops := by
  refine ⟨?_, fun ss ↦ ?_⟩
  · obtain ⟨hb, hmessages, hloops⟩ := (eq_loopStatements_iff text _).1 rfl
    have hread : statements (Diagram.ofText text).canonicalText =
        (Diagram.ofText text).canonicalStatements :=
      statements_written fun _ hs ↦ isReadable_of_mem_canonicalStatements hs
    rw [Diagram.ofText_eq (Diagram.canonicalText _), hread]
    exact Diagram.ofStatements_canonicalStatements (pairwise_participants_ofText text) hb hmessages
      hloops
  · rw [Matching.listed_iff]
    exact eq_loopStatements_iff text ss

/-- A loop that is not closed is closed in the canonical text, and a participant that is declared
late is declared first. -/
example : (Diagram.ofText "loop ->>\nend->>B:x\nloop\nparticipant A").canonicalText =
    "participant A as A\nloop ->>\nend->>B: x\nloop\nend\nend" := by
  decide +kernel

end SequenceChart
