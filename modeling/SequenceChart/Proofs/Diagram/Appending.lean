import SequenceChart.Proofs.Diagram.Participants
import SequenceChart.Proofs.Loops.Balance
import SequenceChart.Proofs.Loops.Matching
import SequenceChart.Proofs.Text.SourceLines

/-!
# One source below another

Two sources can be joined by a line feed, and reading the whole is nearly reading the parts: the
statements are those of the first source and then those of the second.  Messages and notes are
selected from the statements, so they follow suit.  Participants are too, but the first declaration
of a name wins.  Loops are the part that looks back, in two ways: a loop counts the messages in
front of it, and a loop that the first source leaves open goes on into the second.

So the loops are taken apart where the first source ends.  `openAfter` is the stack of open loops
there and `endedIn` lists the loops that have ended by then; reading goes on from that stack
(`loopsFrom_append`).  If the stack is empty, the second run differs from a run of its own only in
the count of messages, and the loops it finds are shifted by it (`loopsFrom_shift`).

## Main definitions

* `openAfter` — the loops that are open after some statements.
* `Loop.shift` — a loop further down in a longer list of messages.

## Main statements

* `ofText_append_newline` — the diagram of one source below another.
* `ofText_append_ends` — `end` lines below a source change nothing.
-/

set_option autoImplicit false
namespace SequenceChart

/-! ## Where the first source ends -/

/-- The loops, innermost first, that are open after the given statements, when the loops `opened`
are open in front of them and `sent` messages have been sent. -/
def openAfter (opened : List OpenLoop) (sent : Nat) : List Statement → List OpenLoop
  | [] => opened
  | .openLoop label :: rest => openAfter (⟨label, sent, opened.length, #[]⟩ :: opened) sent rest
  | .closeLoop :: rest => openAfter opened.tail sent rest
  | .message m :: rest => openAfter (opened.map (·.receive m)) (sent + 1) rest
  | .participant _ :: rest | .note _ :: rest | .comment :: rest | .unrecognized :: rest =>
    openAfter opened sent rest

/-- The loops that one of the given statements ends, in the order in which they end. -/
def endedIn (opened : List OpenLoop) (sent : Nat) : List Statement → List Loop
  | [] => []
  | .openLoop label :: rest => endedIn (⟨label, sent, opened.length, #[]⟩ :: opened) sent rest
  | .closeLoop :: rest =>
    match opened with
    | [] => endedIn [] sent rest
    | inner :: outer => inner.close sent :: endedIn outer sent rest
  | .message m :: rest => endedIn (opened.map (·.receive m)) (sent + 1) rest
  | .participant _ :: rest | .note _ :: rest | .comment :: rest | .unrecognized :: rest =>
    endedIn opened sent rest

/-- **Reading goes on from the loops that are open.** -/
theorem loopsFrom_append (opened : List OpenLoop) (sent : Nat) (ss ts : List Statement) :
    loopsFrom opened sent (ss ++ ts) = endedIn opened sent ss ++
      loopsFrom (openAfter opened sent ss) (sent + (ss.filterMap Statement.sent?).length) ts := by
  induction ss generalizing opened sent with
  | nil => rfl
  | cons s ss ih =>
    cases s with
    | openLoop label => exact ih _ sent
    | closeLoop =>
      cases opened with
      | nil => exact ih [] sent
      | cons inner outer => exact congrArg (inner.close sent :: ·) (ih outer sent)
    | message m =>
      have hcount : sent + ((Statement.message m :: ss).filterMap Statement.sent?).length =
          sent + 1 + (ss.filterMap Statement.sent?).length := by
        rw [List.filterMap_cons, Statement.sent?, List.length_cons]
        omega
      rw [hcount]
      exact ih (opened.map (·.receive m)) (sent + 1)
    | participant | note | comment | unrecognized => exact ih opened sent

/-- The loops that are open at the end of the input end there. -/
theorem loopsFrom_eq_endedIn_append (opened : List OpenLoop) (sent : Nat) (ss : List Statement) :
    loopsFrom opened sent ss = endedIn opened sent ss ++
      (openAfter opened sent ss).map (·.close (sent + (ss.filterMap Statement.sent?).length)) := by
  have happend := loopsFrom_append opened sent ss []
  rwa [List.append_nil, loopsFrom] at happend

/-- There are as many loops as loop lines, wherever they end. -/
theorem length_loopsFrom (opened : List OpenLoop) (sent : Nat) (ss : List Statement) :
    (loopsFrom opened sent ss).length = opened.length + ss.countP Statement.opens := by
  induction ss generalizing opened sent with
  | nil => simp [loopsFrom]
  | cons s ss ih =>
    cases s with
    | openLoop label =>
      rw [loopsFrom, ih, List.length_cons, List.countP_cons_of_pos (by rfl)]
      omega
    | closeLoop =>
      cases opened with
      | nil => simpa [loopsFrom, Statement.opens] using ih [] sent
      | cons inner outer =>
        rw [loopsFrom, List.length_cons, ih, List.length_cons, List.countP_cons_of_neg (by decide)]
        omega
    | message m => simpa [loopsFrom, Statement.opens] using ih (opened.map (·.receive m)) (sent + 1)
    | participant | note | comment | unrecognized =>
      simpa [loopsFrom, Statement.opens] using ih opened sent

/-! ## Where the second source begins -/

/-- The loop with `n` more messages in front of it. -/
def Loop.shift (n : Nat) (l : Loop) : Loop :=
  { l with first := n + l.first, last := n + l.last }

/-- The open loop with `n` more messages in front of it. -/
def OpenLoop.shift (n : Nat) (o : OpenLoop) : OpenLoop :=
  { o with first := n + o.first }

theorem OpenLoop.close_shift (n sent : Nat) (o : OpenLoop) :
    (o.shift n).close (n + sent) = (o.close sent).shift n := by
  simp [close, shift, Loop.shift, Int.add_sub_assoc]

/-- **Messages that were sent before** shift the loops and change nothing else about them. -/
theorem loopsFrom_shift (n : Nat) (opened : List OpenLoop) (sent : Nat) (ss : List Statement) :
    loopsFrom (opened.map (·.shift n)) (n + sent) ss =
      (loopsFrom opened sent ss).map (·.shift n) := by
  induction ss generalizing opened sent with
  | nil => simp [loopsFrom, OpenLoop.close_shift]
  | cons s ss ih =>
    cases s with
    | openLoop label =>
      rw [loopsFrom, List.length_map]
      exact ih (⟨label, sent, opened.length, #[]⟩ :: opened) sent
    | closeLoop =>
      cases opened with
      | nil => exact ih [] sent
      | cons inner outer =>
        rw [List.map_cons, loopsFrom, OpenLoop.close_shift, ih, loopsFrom, List.map_cons]
    | message m =>
      have hcomm : (opened.map (·.shift n)).map (·.receive m) =
          (opened.map (·.receive m)).map (·.shift n) := by
        rw [List.map_map, List.map_map]
        rfl
      rw [loopsFrom, hcomm, Nat.add_assoc, ih, loopsFrom]
    | participant | note | comment | unrecognized => exact ih opened sent

/-! ## The whole source -/

theorem statements_append_newline (a b : String) :
    statements (a ++ "\n" ++ b) = statements a ++ statements b := by
  rw [statements, sourceLines_append_newline, List.map_append, statements, statements]

/-- A name has no column in the diagram of a source exactly if no line of the source declares it. -/
theorem column?_ofText_isNone (text id : String) :
    ((Diagram.ofText text).column? id).isNone =
      ((statements text).filterMap Statement.declared?).all (·.id != id) := by
  rw [column?_isNone, Diagram.participants_ofText, Bool.eq_iff_iff, List.all_eq_true,
    List.all_eq_true]
  have hdeclared :=
    @exists_mem_firstDeclared_iff ((statements text).filterMap Statement.declared?) id
  simpa using not_congr hdeclared

/-- **The diagram of one source below another.**  Messages and notes of the second source follow
those of the first, participants do where their names are new, and there are as many loops as in
both.  If the first source leaves no loop open, then the loops of the second follow as well, with
their positions counted from the beginning of the whole. -/
theorem ofText_append_newline (a b : String) :
    (Diagram.ofText (a ++ "\n" ++ b)).messages =
        (Diagram.ofText a).messages ++ (Diagram.ofText b).messages ∧
      (Diagram.ofText (a ++ "\n" ++ b)).notes =
        (Diagram.ofText a).notes ++ (Diagram.ofText b).notes ∧
      (Diagram.ofText (a ++ "\n" ++ b)).participants = (Diagram.ofText a).participants ++
        (Diagram.ofText b).participants.filter
          (fun p ↦ ((Diagram.ofText a).column? p.id).isNone) ∧
      (Diagram.ofText (a ++ "\n" ++ b)).loops.length =
        (Diagram.ofText a).loops.length + (Diagram.ofText b).loops.length ∧
      (openAfter [] 0 (statements a) = [] →
        (Diagram.ofText (a ++ "\n" ++ b)).loops = (Diagram.ofText a).loops ++
          (Diagram.ofText b).loops.map (·.shift (Diagram.ofText a).messages.length)) := by
  simp only [column?_ofText_isNone]
  simp only [Diagram.ofText_eq, statements_append_newline]
  refine ⟨List.filterMap_append, List.filterMap_append, ?_, ?_, fun hopen ↦ ?_⟩
  · rw [Diagram.ofStatements, List.filterMap_append, firstDeclared_append]
    rfl
  · have hcount : ∀ ss, (loopsFrom [] 0 ss).length = ss.countP Statement.opens := fun ss ↦ by
      rw [length_loopsFrom, List.length_nil, Nat.zero_add]
    show (loopsFrom [] 0 _).length = (loopsFrom [] 0 _).length + (loopsFrom [] 0 _).length
    rw [hcount, hcount, hcount, List.countP_append]
  · have hfirst : (Diagram.ofStatements (statements a)).loops = endedIn [] 0 (statements a) := by
      have hended := loopsFrom_eq_endedIn_append [] 0 (statements a)
      rwa [hopen, List.map_nil, List.append_nil] at hended
    have hsecond := loopsFrom_shift (Diagram.ofStatements (statements a)).messages.length [] 0
      (statements b)
    rw [List.map_nil, Nat.add_zero] at hsecond
    show loopsFrom [] 0 (statements a ++ statements b) = _
    rw [loopsFrom_append, hopen, hfirst, Nat.zero_add]
    exact congrArg (_ ++ ·) hsecond

/-- The first source ends in a character that XML cannot hold and a carriage return, and the second
begins with an `end` that closes nothing and leaves a loop open. -/
theorem ofText_append_newline_stray_end :
    let a := "participant A as Ann\nloop r\nA->>B: x\nend \x01\r"
    let b := "end\nparticipant A\nparticipant B\nloop\nB-->A: y"
    openAfter [] 0 (statements a) = [] ∧
      (Diagram.ofText (a ++ "\n" ++ b)).loops = (Diagram.ofText a).loops ++
        (Diagram.ofText b).loops.map (·.shift (Diagram.ofText a).messages.length) ∧
      (Diagram.ofText b).loops.map (·.shift (Diagram.ofText a).messages.length) =
        [⟨"", [⟨"B", "A", "y", .dashedOpen⟩], 1, 1, 0⟩] := by
  intro a b
  have hopen : openAfter [] 0 (statements a) = [] := by
    refine List.isEmpty_iff.1 ?_
    decide +kernel
  exact ⟨hopen, (ofText_append_newline a b).2.2.2.2 hopen, by decide +kernel⟩

/-! ## `end` lines below a source -/

theorem loopsFrom_append_replicate_closeLoop (opened : List OpenLoop) (sent : Nat)
    (ss : List Statement) (k : Nat) :
    loopsFrom opened sent (ss ++ List.replicate k .closeLoop) = loopsFrom opened sent ss := by
  rw [loopsFrom_append, loopsFrom_replicate_closeLoop, ← loopsFrom_eq_endedIn_append]

theorem statements_append_ends (text : String) (k : Nat) :
    statements (text ++ String.join (List.replicate k "\nend")) =
      statements text ++ List.replicate k .closeLoop := by
  have hend : statements "end" = [.closeLoop] := by decide +kernel
  induction k with
  | zero => rw [List.replicate_zero, String.join_nil, String.append_empty, List.replicate_zero,
      List.append_nil]
  | succ k ih =>
    have hline : "\nend" = "\n" ++ "end" := by decide
    have hjoin : String.join (List.replicate (k + 1) "\nend") =
        String.join (List.replicate k "\nend") ++ "\n" ++ "end" := by
      rw [List.replicate_succ', String.join_append, String.join_cons, String.join_nil,
        String.append_empty, hline, String.append_assoc]
    rw [hjoin, ← String.append_assoc, ← String.append_assoc, statements_append_newline, ih, hend,
      List.append_assoc, ← List.replicate_succ']

/-- **`end` lines below a source change nothing**, however many loops it leaves open: as many of
them as there are open loops close these just as the end of the source does, and any more close
nothing. -/
theorem ofText_append_ends (text : String) (k : Nat) :
    Diagram.ofText (text ++ String.join (List.replicate k "\nend")) = Diagram.ofText text := by
  have hview : ∀ {α : Type} {view : Statement → Option α}, view .closeLoop = none →
      (statements text ++ List.replicate k Statement.closeLoop).filterMap view =
        (statements text).filterMap view := by
    intro α view hview
    rw [List.filterMap_append, List.filterMap_replicate_of_none hview, List.append_nil]
  rw [Diagram.ofText_eq, Diagram.ofText_eq, statements_append_ends, Diagram.ofStatements,
    loopsFrom_append_replicate_closeLoop, hview rfl, hview rfl, hview rfl, Diagram.ofStatements]

end SequenceChart
