import SequenceChart.Diagram.Statement
import SequenceChart.Remark
import SequenceChart.Text.Lines

/-!
# Reading a diagram

A source is read line by line, in one pass.  `ReadingState` is what has been read so far; each form
of a statement has a handler that puts what it says in its place, and whatever is left out is
remarked upon.

An open loop collects the messages that are sent while it is open, however deep.  An `end` closes
the innermost open loop and is without effect if there is none.  The loops that are still open
after the last line are closed there, the innermost first, just as so many further `end` lines would
do.

A text is a `String` here, a list of scalar values.  A surrogate that stands alone is not one; XML
cannot hold it either, so a source that could hold one would lose it with the first thing that
happens to it, in `sourceLines`.

## Main definitions

* `ReadingState` and its handlers — the pass.
* `ReadingState.take`, `ReadingState.finish` — one line, and what comes after the last one.
* `Diagram.ofText`, `readingRemarks` — what a source gives.
-/

set_option autoImplicit false
namespace SequenceChart

/-! ## Open loops -/

/-- A loop that has begun and not ended. -/
structure OpenLoop where
  /-- The text of its frame. -/
  label : String
  /-- How many messages were sent before it. -/
  first : Nat
  /-- How many loops were open when it began. -/
  depth : Nat
  /-- The messages sent since. -/
  members : Array Message

/-- The open loop after one more message. -/
def OpenLoop.receive (o : OpenLoop) (m : Message) : OpenLoop :=
  { o with members := o.members.push m }

/-- The loop that ends when `sent` messages have been sent in all. -/
def OpenLoop.close (o : OpenLoop) (sent : Nat) : Loop where
  label := o.label
  members := o.members.toList
  first := o.first
  last := (sent : Int) - 1
  depth := o.depth

/-! ## The pass -/

/-- What has been read. -/
structure ReadingState where
  /-- The participants that are declared. -/
  participants : Array Participant
  /-- The messages that were sent. -/
  messages : Array Message
  /-- The notes that were made. -/
  notes : Array Note
  /-- The loops that have ended, in this order. -/
  loops : Array Loop
  /-- The loops that are open, innermost first. -/
  opened : List OpenLoop
  /-- What was remarked upon. -/
  remarks : Array Remark

namespace ReadingState

/-- Nothing has been read. -/
def initial : ReadingState where
  participants := #[]
  messages := #[]
  notes := #[]
  loops := #[]
  opened := []
  remarks := #[]

/-- One more remark. -/
def remark (st : ReadingState) (r : Remark) : ReadingState :=
  { st with remarks := st.remarks.push r }

/-- A participant is declared.  A name that is declared again keeps its first label and its first
place. -/
def declare (st : ReadingState) (p : Participant) : ReadingState :=
  if st.participants.any (·.id == p.id) then st.remark (.declaredAgain p.id)
  else { st with participants := st.participants.push p }

/-- A note is made. -/
def note (st : ReadingState) (n : Note) : ReadingState :=
  { st with notes := st.notes.push n }

/-- A loop begins. -/
def openLoop (st : ReadingState) (label : String) : ReadingState :=
  { st with opened := ⟨label, st.messages.size, st.opened.length, #[]⟩ :: st.opened }

/-- The innermost loop ends, if one is open. -/
def closeLoop (st : ReadingState) : ReadingState :=
  match st.opened with
  | [] => st.remark .strayEnd
  | inner :: outer =>
    { st with loops := st.loops.push (inner.close st.messages.size), opened := outer }

/-- A message is sent, and every open loop receives it. -/
def send (st : ReadingState) (m : Message) : ReadingState :=
  { st with messages := st.messages.push m, opened := st.opened.map (·.receive m) }

/-- One more line, with its number among the lines that are read. -/
def take (st : ReadingState) (line : List Char × Nat) : ReadingState :=
  match Statement.ofLine line.1 with
  | .participant p => st.declare p
  | .note n => st.note n
  | .openLoop label => st.openLoop label
  | .closeLoop => st.closeLoop
  | .message m => st.send m
  | .comment => st
  | .unrecognized => st.remark (.lineIgnored line.2 (String.ofList line.1))

/-- After the last line every open loop ends, with a remark. -/
def finish (st : ReadingState) : ReadingState :=
  st.opened.foldl (fun st o ↦ (st.remark (.loopUnterminated o.label)).closeLoop) st

/-- The whole of a source text. -/
def ofText (text : String) : ReadingState :=
  (((sourceLines text).zipIdx 1).foldl take initial).finish

end ReadingState

/-! ## What a source gives -/

/-- The diagram of a source text. -/
def Diagram.ofText (text : String) : Diagram :=
  let st := ReadingState.ofText text
  { participants := st.participants.toList
    messages := st.messages.toList
    notes := st.notes.toList
    loops := st.loops.toList }

/-- The remarks on a source text. -/
def readingRemarks (text : String) : List Remark :=
  (ReadingState.ofText text).remarks.toList

end SequenceChart
