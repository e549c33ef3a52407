import SequenceChart.Diagram.Basic
import SequenceChart.Text.Quoted

/-!
# Remarks

Reading and placing a diagram never fail; what they leave out, they remark upon.  A remark is a
value that says what happened; its wording, its weight and the part of the program it comes from
are derived from it here, once.
-/

set_option autoImplicit false
namespace SequenceChart

/-- The weight of a remark. -/
inductive Level
  /-- Of interest when a source is looked into. -/
  | debug
  /-- Something that was asked for is missing from the picture. -/
  | warning
  /-- The run has failed. -/
  | error
  deriving DecidableEq, Repr

/-- How a level is shown. -/
def Level.text : Level → String
  | .debug => "DEBUG"
  | .warning => "WARNING"
  | .error => "ERROR"

/-- What may be remarked while a diagram is read and placed. -/
inductive Remark
  /-- The name of a participant is declared again. -/
  | declaredAgain (id : String)
  /-- An `end` where no loop is open. -/
  | strayEnd
  /-- A line that is no statement, with its number among the lines of the source. -/
  | lineIgnored (number : Nat) (line : String)
  /-- A loop without an `end`. -/
  | loopUnterminated (label : String)
  /-- A loop that is not drawn, with its position. -/
  | loopOmitted (index : Nat) (label : String)
  /-- A message that is not drawn, with its position. -/
  | messageOmitted (index : Nat) (message : Message)
  /-- A note that is not drawn, with its position. -/
  | noteOmitted (index : Nat) (note : Note)
  deriving DecidableEq, Repr

namespace Remark

/-- The weight of a remark: a missing message or note is a warning. -/
def level : Remark → Level
  | declaredAgain _ | strayEnd | lineIgnored _ _ | loopUnterminated _ | loopOmitted _ _ => .debug
  | messageOmitted _ _ | noteOmitted _ _ => .warning

/-- The part of the program that makes the remark. -/
def topic : Remark → String
  | declaredAgain _ | strayEnd | lineIgnored _ _ | loopUnterminated _ => "sequence_parser"
  | loopOmitted _ _ | messageOmitted _ _ | noteOmitted _ _ => "sequence_layout"

/-- The wording of a remark. -/
def text : Remark → String
  | declaredAgain id =>
    "participant " ++ quoted id ++ " already declared, keeping first declaration"
  | strayEnd => "ignoring 'end' without an open loop"
  | lineIgnored number line => "line " ++ toString number ++ " ignored: " ++ quoted line
  | loopUnterminated label => "closing unterminated loop " ++ quoted label
  | loopOmitted index label =>
    "loop " ++ toString index ++ " (" ++ quoted label ++ ") has no drawable messages, skipped"
  | messageOmitted index m =>
    "message " ++ toString index ++ " (" ++ m.sender ++ m.arrow.token ++ m.receiver ++
      ") references an undeclared participant, skipped"
  | noteOmitted index n =>
    "note " ++ toString index ++ " (" ++ n.place.words ++ " " ++ ",".intercalate n.targets ++
      ") references an undeclared participant, skipped"

end Remark

/-- A line of a log. -/
structure LogEntry where
  /-- The weight of the entry. -/
  level : Level
  /-- Where it comes from. -/
  topic : String
  /-- What it says. -/
  text : String
  deriving DecidableEq, Repr

/-- How an entry is written. -/
def LogEntry.line (e : LogEntry) : String :=
  e.level.text ++ " " ++ e.topic ++ ": " ++ e.text

/-- The entry that a remark makes. -/
def Remark.entry (r : Remark) : LogEntry where
  level := r.level
  topic := r.topic
  text := r.text

end SequenceChart
