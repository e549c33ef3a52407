import SequenceChart.Diagram.Reading

/-!
# The parts of a diagram as selections

A source is read in one pass, and the handlers of a pass can reach into everything that was read
before.  They do not: participants, notes and messages are three selections from the statements of
the source, and the loops need the order of messages, loop lines and `end` lines and nothing else.
So the diagram of a source can be said without a state (`Diagram.ofStatements`), part by part, and
this is how all that follows speaks of it.

The bridge is `ReadingState.resume`, the diagram that comes out when reading goes on from a state
with a list of statements.  A handler takes the first statement off that list and leaves the diagram
as it is; by induction over the lines nothing is left of the list, and nothing of the difference.

## Main definitions

* `firstDeclared` — the participants, each as it is declared first.
* `loopsFrom` — the loops in the order in which they end.
* `Diagram.ofStatements` — the diagram of a list of statements.
* `ReadingState.resume` — what becomes of a state.

## Main statements

* `ReadingState.resume_take` — one line.
* `ReadingState.resume_foldl_take` — any number of lines.
* `Diagram.ofText_eq` — the diagram of a text is that of its statements.
-/

set_option autoImplicit false
namespace SequenceChart

/-! ## The selections -/

/-- The participants of a list of declarations: a name that is declared again keeps its first
label and its first place. -/
def firstDeclared : List Participant → List Participant
  | [] => []
  | p :: rest => p :: (firstDeclared rest).filter (·.id != p.id)

/-- The loops that end in or after the given statements, in the order in which they end, when the
loops `opened`, innermost first, are open and `sent` messages have been sent. -/
def loopsFrom (opened : List OpenLoop) (sent : Nat) : List Statement → List Loop
  | [] => opened.map (·.close sent)
  | .openLoop label :: rest => loopsFrom (⟨label, sent, opened.length, #[]⟩ :: opened) sent rest
  | .closeLoop :: rest =>
    match opened with
    | [] => loopsFrom [] sent rest
    | inner :: outer => inner.close sent :: loopsFrom outer sent rest
  | .message m :: rest => loopsFrom (opened.map (·.receive m)) (sent + 1) rest
  | .participant _ :: rest | .note _ :: rest | .comment :: rest | .unrecognized :: rest =>
    loopsFrom opened sent rest

/-- The statements of a source text, one a line. -/
def statements (text : String) : List Statement :=
  (sourceLines text).map Statement.ofLine

/-- The diagram that a list of statements describes. -/
def Diagram.ofStatements (ss : List Statement) : Diagram where
  participants := firstDeclared (ss.filterMap Statement.declared?)
  messages := ss.filterMap Statement.sent?
  notes := ss.filterMap Statement.noted?
  loops := loopsFrom [] 0 ss

/-! ## New names -/

section
variable {known : List Participant} {p : Participant}

/-- A name that is known leaves out nothing that the known names do not leave out. -/
theorem filter_cons_of_known (h : known.any (·.id == p.id) = true) (qs : List Participant) :
    (p :: qs.filter (·.id != p.id)).filter (fun q ↦ known.all (·.id != q.id)) =
      qs.filter fun q ↦ known.all (·.id != q.id) := by
  obtain ⟨r, hr, hid⟩ := List.any_eq_true.1 h
  rw [beq_iff_eq] at hid
  have hnew : ∀ q : Participant, known.all (·.id != q.id) = true → q.id ≠ p.id :=
    fun q hq heq ↦ bne_iff_ne.1 (List.all_eq_true.1 hq r hr) (hid.trans heq.symm)
  rw [List.filter_cons, if_neg fun hp ↦ hnew p hp rfl, List.filter_filter]
  refine List.filter_congr fun q _ ↦ ?_
  rw [Bool.eq_iff_iff, Bool.and_eq_true, bne_iff_ne]
  exact and_iff_left_of_imp (hnew q)

/-- A new name is known from then on. -/
theorem filter_cons_of_new (h : known.any (·.id == p.id) = false) (qs : List Participant) :
    (p :: qs.filter (·.id != p.id)).filter (fun q ↦ known.all (·.id != q.id)) =
      p :: qs.filter fun q ↦ (known ++ [p]).all (·.id != q.id) := by
  have hp : known.all (·.id != p.id) = true :=
    List.all_eq_true.2 fun q hq ↦ by simpa using List.any_eq_false.1 h q hq
  rw [List.filter_cons, if_pos hp, List.filter_filter]
  refine congrArg _ (List.filter_congr fun q _ ↦ ?_)
  rw [List.all_append, List.all_cons, List.all_nil, Bool.and_true, bne_comm]

end

/-! ## One step -/

namespace ReadingState

/-- The diagram that comes out when statements follow on what has been read.  Of the participants
that they declare, those remain whose names are new. -/
def resume (st : ReadingState) (ss : List Statement) : Diagram where
  participants := st.participants.toList ++
    (firstDeclared (ss.filterMap Statement.declared?)).filter fun q ↦
      st.participants.toList.all (·.id != q.id)
  messages := st.messages.toList ++ ss.filterMap Statement.sent?
  notes := st.notes.toList ++ ss.filterMap Statement.noted?
  loops := st.loops.toList ++ loopsFrom st.opened st.messages.size ss

variable (st : ReadingState) (ss : List Statement)

theorem resume_initial : initial.resume ss = Diagram.ofStatements ss := by
  simp [resume, initial, Diagram.ofStatements]

/-- A remark is no part of the diagram. -/
theorem resume_remark (r : Remark) : (st.remark r).resume ss = st.resume ss := rfl

theorem resume_note (n : Note) : (st.note n).resume ss = st.resume (.note n :: ss) := by
  simp only [resume, note, Array.toList_push, List.append_assoc]
  rfl

theorem resume_openLoop (label : String) :
    (st.openLoop label).resume ss = st.resume (.openLoop label :: ss) := rfl

theorem resume_closeLoop : st.closeLoop.resume ss = st.resume (.closeLoop :: ss) := by
  rw [closeLoop]
  cases hopened : st.opened with
  | nil =>
    simp only [resume, remark, hopened]
    rfl
  | cons inner outer =>
    simp only [resume, hopened, Array.toList_push, List.append_assoc]
    rfl

theorem resume_send (m : Message) : (st.send m).resume ss = st.resume (.message m :: ss) := by
  simp only [resume, send, Array.toList_push, Array.size_push, List.append_assoc]
  rfl

/-- A participant is declared if its name is new. -/
theorem resume_declare (p : Participant) :
    (st.declare p).resume ss = st.resume (.participant p :: ss) := by
  rw [declare, ← Array.any_toList]
  cases hagain : st.participants.toList.any (·.id == p.id) with
  | true =>
    rw [if_pos rfl, resume_remark, resume, ← filter_cons_of_known hagain]
    rfl
  | false =>
    simp only [Bool.false_eq_true, if_false, resume, Array.toList_push, List.append_assoc,
      List.singleton_append, ← filter_cons_of_new hagain]
    rfl

/-- **One line** takes the statement on it off those that follow. -/
theorem resume_take (line : List Char × Nat) :
    (st.take line).resume ss = st.resume (Statement.ofLine line.1 :: ss) := by
  rw [take]
  cases Statement.ofLine line.1 with
  | participant p => exact resume_declare st ss p
  | note n => exact resume_note st ss n
  | openLoop label => exact resume_openLoop st ss label
  | closeLoop => exact resume_closeLoop st ss
  | message m => exact resume_send st ss m
  | comment | unrecognized => rfl

/-! ## The whole pass -/

/-- **Any number of lines**, by induction with `resume_take` for each. -/
theorem resume_foldl_take (lines : List (List Char × Nat)) :
    (lines.foldl take st).resume ss =
      st.resume ((lines.map fun line ↦ Statement.ofLine line.1) ++ ss) := by
  induction lines generalizing st with
  | nil => rfl
  | cons line lines ih => rw [List.foldl_cons, ih, resume_take, List.map_cons, List.cons_append]

/-- An `end` line in the last place ends a loop that would end there anyhow. -/
theorem resume_singleton_closeLoop : st.resume [.closeLoop] = st.resume [] := by
  cases hopened : st.opened <;> simp only [resume, hopened] <;> rfl

/-- The end of the input is no statement. -/
theorem resume_finish : st.finish.resume [] = st.resume [] := by
  rw [finish]
  induction st.opened generalizing st with
  | nil => rfl
  | cons o os ih => rw [List.foldl_cons, ih, resume_closeLoop, resume_singleton_closeLoop,
      resume_remark]

/-- No loop is open in the end. -/
theorem opened_finish : st.finish.opened = [] := by
  rw [finish]
  induction hopened : st.opened generalizing st with
  | nil => exact hopened
  | cons o os ih =>
    refine ih _ ?_
    simp only [closeLoop, remark, hopened]

end ReadingState

/-- **The diagram of a text** is that of its statements. -/
theorem Diagram.ofText_eq (text : String) : ofText text = ofStatements (statements text) := by
  have hread : ofText text = (ReadingState.ofText text).resume [] := by
    have hopened := ReadingState.opened_finish (((sourceLines text).zipIdx 1).foldl .take .initial)
    simp only [ReadingState.resume, ReadingState.ofText, hopened]
    simp [ofText, ReadingState.ofText, firstDeclared, loopsFrom]
  have hlines : ((sourceLines text).zipIdx 1).map (fun line ↦ Statement.ofLine line.1) =
      statements text := by
    rw [show (fun line : List Char × Nat ↦ Statement.ofLine line.1) = Statement.ofLine ∘ Prod.fst
      from rfl, ← List.map_map, List.zipIdx_map_fst, statements]
  rw [hread, ReadingState.ofText, ReadingState.resume_finish, ReadingState.resume_foldl_take,
    ReadingState.resume_initial, hlines, List.append_nil]

/-! ## Part by part -/

namespace Diagram
variable (text : String)

theorem participants_ofText :
    (ofText text).participants = firstDeclared ((statements text).filterMap Statement.declared?) :=
  congrArg participants (ofText_eq text)

theorem messages_ofText :
    (ofText text).messages = (statements text).filterMap Statement.sent? :=
  congrArg messages (ofText_eq text)

theorem notes_ofText :
    (ofText text).notes = (statements text).filterMap Statement.noted? :=
  congrArg notes (ofText_eq text)

theorem loops_ofText : (ofText text).loops = loopsFrom [] 0 (statements text) :=
  congrArg loops (ofText_eq text)

end Diagram
end SequenceChart
