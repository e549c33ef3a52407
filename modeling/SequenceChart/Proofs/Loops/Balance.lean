import SequenceChart.Proofs.Diagram.Selections

/-!
# Balanced loop lines

`loopsFrom` has two ways to end a loop, an `end` line and the end of the input, and an `end` line
has two effects, since it is ignored when no loop is open.  Most of what there is to say about loops
does not depend on either choice.  This file removes both: `balance` leaves out the `end` lines that
close nothing, puts the missing ones at the end, and drops the statements that loops do not see.
What is left is `Balanced`, and a statement about loops is then proved by induction with one case
for each of the three things that can happen to the loops that are open.

## Main definitions

* `Balanced` — lists of loop lines, `end` lines and messages in which every loop is closed once.
* `balance` — the balanced list of a list of statements.

## Main statements

* `balanced_balance`, `loopsFrom_balance`, `filterMap_sent?_balance` — balancing gives a balanced
  list with the same loops and the same messages.
-/

set_option autoImplicit false
namespace SequenceChart

/-- Nothing but loop lines, `end` lines and messages, where `n` loops are open in front of the first
statement, every `end` closes a loop, and none is open after the last statement. -/
inductive Balanced : Nat → List Statement → Prop
  /-- At the end no loop is open. -/
  | nil : Balanced 0 []
  /-- A loop line opens one more loop. -/
  | openLoop {n : Nat} {ss : List Statement} (label : String) (h : Balanced (n + 1) ss) :
      Balanced n (.openLoop label :: ss)
  /-- An `end` closes one. -/
  | closeLoop {n : Nat} {ss : List Statement} (h : Balanced n ss) :
      Balanced (n + 1) (.closeLoop :: ss)
  /-- A message changes nothing. -/
  | message {n : Nat} {ss : List Statement} (m : Message) (h : Balanced n ss) :
      Balanced n (.message m :: ss)

/-- The loop lines, `end` lines and messages of a list of statements that begins when `n` loops are
open, without the `end` lines that close nothing, and with the missing ones put at the end. -/
def balance : Nat → List Statement → List Statement
  | n, [] => List.replicate n .closeLoop
  | n, .openLoop label :: ss => .openLoop label :: balance (n + 1) ss
  | 0, .closeLoop :: ss => balance 0 ss
  | n + 1, .closeLoop :: ss => .closeLoop :: balance n ss
  | n, .message m :: ss => .message m :: balance n ss
  | n, .participant _ :: ss | n, .note _ :: ss | n, .comment :: ss | n, .unrecognized :: ss =>
    balance n ss

theorem balanced_replicate_closeLoop (n : Nat) : Balanced n (List.replicate n .closeLoop) := by
  induction n with
  | zero => exact .nil
  | succ n ih => exact .closeLoop ih

/-- **Balancing gives a balanced list.** -/
theorem balanced_balance (n : Nat) (ss : List Statement) : Balanced n (balance n ss) := by
  induction ss generalizing n with
  | nil => exact balanced_replicate_closeLoop n
  | cons s ss ih =>
    cases s with
    | openLoop label => exact .openLoop label (ih (n + 1))
    | closeLoop =>
      cases n with
      | zero => exact ih 0
      | succ n => exact .closeLoop (ih n)
    | message m => exact .message m (ih n)
    | participant | note | comment | unrecognized => exact ih n

/-- The end of the input closes the open loops as `end` lines do, and where there are more lines
than open loops, the others close nothing. -/
theorem loopsFrom_replicate_closeLoop (opened : List OpenLoop) (sent k : Nat) :
    loopsFrom opened sent (List.replicate k .closeLoop) = opened.map (·.close sent) := by
  induction k generalizing opened with
  | zero => rfl
  | succ k ih =>
    rw [List.replicate_succ]
    cases opened with
    | nil => exact ih []
    | cons inner outer => exact congrArg (inner.close sent :: ·) (ih outer)

/-- **Balancing keeps the loops.** -/
theorem loopsFrom_balance (opened : List OpenLoop) (sent : Nat) (ss : List Statement) :
    loopsFrom opened sent (balance opened.length ss) = loopsFrom opened sent ss := by
  induction ss generalizing opened sent with
  | nil => exact loopsFrom_replicate_closeLoop opened sent opened.length
  | cons s ss ih =>
    cases s with
    | openLoop label => exact ih (⟨label, sent, opened.length, #[]⟩ :: opened) sent
    | closeLoop =>
      cases opened with
      | nil => exact ih [] sent
      | cons inner outer => exact congrArg (inner.close sent :: ·) (ih outer sent)
    | message m => simpa [balance, loopsFrom] using ih (opened.map (·.receive m)) (sent + 1)
    | participant | note | comment | unrecognized => exact ih opened sent

/-- **Balancing keeps the messages.** -/
theorem filterMap_sent?_balance (n : Nat) (ss : List Statement) :
    (balance n ss).filterMap Statement.sent? = ss.filterMap Statement.sent? := by
  induction ss generalizing n with
  | nil => simp [balance, List.filterMap_replicate, Statement.sent?]
  | cons s ss ih =>
    cases s with
    | closeLoop => cases n <;> simp [balance, List.filterMap_cons, Statement.sent?, ih]
    | openLoop | message | participant | note | comment | unrecognized =>
      simp [balance, List.filterMap_cons, Statement.sent?, ih]

end SequenceChart
