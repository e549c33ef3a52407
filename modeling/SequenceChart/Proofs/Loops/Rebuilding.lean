import SequenceChart.Proofs.Loops.Nesting

/-!
# Loop lines rebuilt from loops

The loops of a diagram are listed as they end, each with the counts of messages before its first
line and before its `end`.  That is enough to put the lines back.  The list is read from its end:
the last loop is an outermost one, its `end` line is the last, and its loop line comes in front of
everything inside it.  So the `end` line of a loop is written at once, and the loop stays *pending*
until a loop comes that is not inside it, which is told by the depths; then its loop line is
written.

Only balanced lists of loop lines, `end` lines and messages come out, and each comes out once
(`eq_loopStatements_iff`): a list of loops and messages has one such list or none.

## Main definitions

* `Mark` — a loop line or an `end` line with the number of messages before it.
* `marks` — the marks of a list of loops.
* `loopStatements` — the marks of a list of loops among the messages.

## Main statements

* `loopStatements_loopsFrom` — reading a balanced list and rebuilding gives it back.
* `eq_loopStatements_iff` — of the balanced lists, exactly one has the loops of a text.
-/

set_option autoImplicit false
namespace SequenceChart

/-- A loop line or an `end` line, and how many messages are sent before it. -/
structure Mark where
  /-- The messages sent before. -/
  sent : Nat
  /-- The line. -/
  line : Statement

/-! ## From loops to lines -/

/-- Write the loop lines of the pending loops, innermost first, that are at a given depth or
deeper. -/
def openPending (depth : Int) : List Loop → List Mark → List Loop × List Mark
  | [], marks => ([], marks)
  | p :: pending, marks =>
    if depth ≤ p.depth then
      openPending depth pending (⟨p.first.toNat, .openLoop p.label⟩ :: marks)
    else (p :: pending, marks)

/-- Read a list of loops from its end: the loops that are pending in front of it, and the marks that
are written by then. -/
def pendingMarks : List Loop → List Loop × List Mark
  | [] => ([], [])
  | l :: later =>
    let (around, marks) := openPending l.depth (pendingMarks later).1 (pendingMarks later).2
    (l :: around, ⟨(l.last + 1).toNat, .closeLoop⟩ :: marks)

/-- The marks of a list of loops, from the first line to the last. -/
def marks (loops : List Loop) : List Mark :=
  (openPending 0 (pendingMarks loops).1 (pendingMarks loops).2).2

/-- Put marks among messages, when `k` messages have been sent before. -/
def putMarks : Nat → List Message → List Mark → List Statement
  | _, messages, [] => messages.map .message
  | k, messages, m :: marks =>
    (messages.take (m.sent - k)).map .message ++
      m.line :: putMarks m.sent (messages.drop (m.sent - k)) marks

/-- The loop lines and `end` lines of a list of loops among the messages: each loop begins after its
first messages and ends after its last one, and inside the loops that are around it. -/
def loopStatements (messages : List Message) (loops : List Loop) : List Statement :=
  putMarks 0 messages (marks loops)

/-! ## From lines to marks and back -/

/-- The marks of a list of loop lines, `end` lines and messages, when `k` messages have been sent
before. -/
def marksFrom : Nat → List Statement → List Mark
  | _, [] => []
  | k, .message _ :: ss => marksFrom (k + 1) ss
  | k, s :: ss => ⟨k, s⟩ :: marksFrom k ss

theorem Balanced.le_sent {n : Nat} {ss : List Statement} (hb : Balanced n ss) {k : Nat} :
    ∀ m ∈ marksFrom k ss, k ≤ m.sent := by
  induction hb generalizing k with
  | nil => simp [marksFrom]
  | openLoop _ _ ih | closeLoop _ ih =>
    intro m hm
    rcases List.mem_cons.1 hm with rfl | hm
    · exact Nat.le_refl k
    · exact ih m hm
  | message _ _ ih => exact fun m hm ↦ Nat.le_of_succ_le (ih m hm)

/-- A message that comes before all marks is put before them. -/
theorem putMarks_message {k : Nat} {marks : List Mark} (h : ∀ m ∈ marks, k + 1 ≤ m.sent)
    (m : Message) (messages : List Message) :
    putMarks k (m :: messages) marks = .message m :: putMarks (k + 1) messages marks := by
  cases marks with
  | nil => rfl
  | cons x marks =>
    have hx : x.sent - k = (x.sent - (k + 1)) + 1 := by
      have := h x (List.mem_cons_self ..)
      omega
    rw [putMarks, hx, List.take_succ_cons, List.drop_succ_cons, putMarks]
    rfl

/-- The marks of a balanced list and its messages are all there is in it. -/
theorem Balanced.putMarks_marksFrom {n : Nat} {ss : List Statement} (hb : Balanced n ss) (k : Nat) :
    putMarks k (ss.filterMap Statement.sent?) (marksFrom k ss) = ss := by
  induction hb generalizing k with
  | nil => rfl
  | openLoop _ _ ih | closeLoop _ ih =>
    simpa [marksFrom, putMarks, List.filterMap_cons, Statement.sent?] using ih k
  | message m hb ih =>
    rw [marksFrom, List.filterMap_cons, Statement.sent?,
      putMarks_message (fun m hm ↦ hb.le_sent m hm), ih (k + 1)]

/-! ## Pending loops -/

/-- What the loop line of a loop says, and where it stands. -/
def Loop.opening (l : Loop) : String × Int × Int :=
  (l.label, l.first, l.depth)

/-- What the loop line of an open loop says, and where it stands. -/
def OpenLoop.opening (o : OpenLoop) : String × Int × Int :=
  (o.label, o.first, o.depth)

/-- Opening the deeper pending loops first makes no difference. -/
theorem openPending_openPending {d d' : Int} (h : d ≤ d') (pending : List Loop)
    (marks : List Mark) :
    openPending d (openPending d' pending marks).1 (openPending d' pending marks).2 =
      openPending d pending marks := by
  induction pending generalizing marks with
  | nil => rfl
  | cons p pending ih =>
    by_cases hp : d' ≤ p.depth
    · have hd : d ≤ p.depth := Int.le_trans h hp
      rw [openPending, if_pos hp, ih, openPending, if_pos hd]
    · rw [openPending, if_neg hp]

/-- Pending loops that are not as deep stay pending. -/
theorem openPending_of_depth_lt {d : Int} {pending : List Loop} (h : ∀ p ∈ pending, p.depth < d)
    (marks : List Mark) : openPending d pending marks = (pending, marks) := by
  cases pending with
  | nil => rfl
  | cons p pending =>
    have hp := h p (List.mem_cons_self ..)
    rw [openPending, if_neg (by omega)]

/-- The open loops of a stack are less deep than a loop that would begin now. -/
theorem Stacked.depth_lt_length {sent : List Message} {opened : List OpenLoop}
    (h : Stacked sent opened) : ∀ o ∈ opened, o.depth < opened.length := by
  cases h with
  | nil => simp
  | cons depth_eq first_le members_eq outer_first_le htail =>
    have hcons := Stacked.cons depth_eq first_le members_eq outer_first_le htail
    intro o ho
    rw [List.length_cons, ← depth_eq]
    rcases List.mem_cons.1 ho with rfl | ho
    · exact Nat.lt_succ_self _
    · exact Nat.lt_succ_of_lt (hcons.depth_lt o ho)

/-- So are the pending loops with the same openings. -/
theorem Stacked.pending_depth_lt {sent : List Message} {opened : List OpenLoop}
    (h : Stacked sent opened) {pending : List Loop}
    (heq : pending.map Loop.opening = opened.map OpenLoop.opening) :
    ∀ p ∈ pending, p.depth < (opened.length : Int) := by
  intro p hp
  have hmem : p.opening ∈ opened.map OpenLoop.opening := heq ▸ List.mem_map_of_mem hp
  obtain ⟨o, ho, hop⟩ := List.mem_map.1 hmem
  have hdepth : (o.depth : Int) = p.depth := congrArg (·.2.2) hop
  have := h.depth_lt_length o ho
  omega

/-- **Reading the loops of a balanced list from the end** gives the marks of the list, and the loops
that are open in front of it are pending. -/
theorem Balanced.openPending_pendingMarks {n : Nat} {ss : List Statement} (hb : Balanced n ss)
    {sent : List Message} {opened : List OpenLoop} (h : Stacked sent opened)
    (hn : opened.length = n) :
    ∃ pending, openPending n (pendingMarks (loopsFrom opened sent.length ss)).1
        (pendingMarks (loopsFrom opened sent.length ss)).2 =
          (pending, marksFrom sent.length ss) ∧
      pending.map Loop.opening = opened.map OpenLoop.opening := by
  induction hb generalizing sent opened with
  | nil =>
    obtain rfl := List.length_eq_zero_iff.1 hn
    exact ⟨[], rfl, rfl⟩
  | @openLoop n ss label _ ih =>
    obtain ⟨pending, hpending, hopening⟩ := ih (h.openLoop label) (by simp [hn])
    obtain ⟨p, pending, rfl⟩ : ∃ p rest, pending = p :: rest := by
      cases pending with
      | nil => simp at hopening
      | cons p rest => exact ⟨p, rest, rfl⟩
    obtain ⟨hp, hopening⟩ := List.cons.inj hopening
    obtain ⟨hlabel, hp⟩ := Prod.mk.inj hp
    obtain ⟨hfirst, hdepth⟩ := Prod.mk.inj hp
    refine ⟨pending, ?_, hopening⟩
    have hstay := openPending_of_depth_lt (h.pending_depth_lt hopening)
      (⟨sent.length, .openLoop label⟩ :: marksFrom sent.length ss)
    rw [loopsFrom, ← openPending_openPending (show (n : Int) ≤ (n + 1 : Nat) by omega), hpending,
      openPending, if_pos (by simp [hdepth, hn]), hlabel, hfirst, ← hn]
    exact hstay
  | @closeLoop n ss _ ih =>
    obtain ⟨inner, outer, rfl⟩ := List.exists_cons_of_length_eq_add_one hn
    obtain ⟨pending, hpending, hopening⟩ := ih h.tail (by simpa using hn)
    refine ⟨inner.close sent.length :: pending, ?_, ?_⟩
    · have hdepth : (inner.close sent.length).depth = (n : Int) := by
        have := h.depth_eq
        simp only [OpenLoop.close, List.length_cons] at hn ⊢
        omega
      have hlast : ((inner.close sent.length).last + 1).toNat = sent.length := by
        simp [OpenLoop.close]
      rw [loopsFrom, pendingMarks, hdepth, hpending, hlast]
      simp only
      rw [openPending, if_neg (by omega)]
      rfl
    · rw [List.map_cons, List.map_cons, hopening]
      rfl
  | message m _ ih =>
    obtain ⟨pending, hpending, hopening⟩ := ih (h.receive m) (by simpa using hn)
    refine ⟨pending, by simpa [loopsFrom, marksFrom] using hpending, ?_⟩
    rw [hopening, List.map_map]
    rfl

/-! ## The one list -/

/-- **Rebuilding undoes reading.** -/
theorem loopStatements_loopsFrom {ss : List Statement} (hb : Balanced 0 ss) :
    loopStatements (ss.filterMap Statement.sent?) (loopsFrom [] 0 ss) = ss := by
  obtain ⟨pending, hpending, -⟩ := hb.openPending_pendingMarks stacked_nil rfl
  have hmarks : marks (loopsFrom [] 0 ss) = marksFrom 0 ss := congrArg Prod.snd hpending
  rw [loopStatements, hmarks, hb.putMarks_marksFrom 0]

/-- **Of the balanced lists, exactly one has the loops and messages of a text**, and it is the
rebuilt one. -/
theorem eq_loopStatements_iff (text : String) (ss : List Statement) :
    ss = loopStatements (Diagram.ofText text).messages (Diagram.ofText text).loops ↔
      Balanced 0 ss ∧ ss.filterMap Statement.sent? = (Diagram.ofText text).messages ∧
        loopsFrom [] 0 ss = (Diagram.ofText text).loops := by
  constructor
  · rintro rfl
    obtain ⟨ss, hb, hloops, hmessages⟩ := exists_balanced_loops_eq text
    rw [hloops, hmessages, loopStatements_loopsFrom hb]
    exact ⟨hb, rfl, rfl⟩
  · rintro ⟨hb, hmessages, hloops⟩
    rw [← hmessages, ← hloops, loopStatements_loopsFrom hb]

end SequenceChart
