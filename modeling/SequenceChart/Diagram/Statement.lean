import SequenceChart.Diagram.Basic
import SequenceChart.Text.Word

/-!
# Statements

Every trimmed line of a source is one statement.  There are five forms:

* `participant`, blanks, a word, and then either nothing or blanks, `as`, blanks and a label;
* `Note`, blanks, a place, at least one blank, the targets, a colon and the text;
* `loop`, alone or followed by blanks and a label;
* `end`;
* a word, an arrow, a word, a colon and the text, with blanks anywhere between these.

A line that begins with `%%` is a comment.  The forms are tried in this order and the first that
fits is taken, so a message may come from a participant called `loop` or `end`; a line that fits
none is kept as `unrecognized`.

Each form is recognised in one pass without going back: a word never contains a blank or a mark, a
token is tried before those it begins with, and the targets of a note end at the first colon.
-/

set_option autoImplicit false
namespace SequenceChart

/-- What a line of a source says. -/
inductive Statement
  /-- A participant is declared. -/
  | participant (p : Participant)
  /-- A note is made. -/
  | note (n : Note)
  /-- A loop begins. -/
  | openLoop (label : String)
  /-- The innermost loop ends. -/
  | closeLoop
  /-- A message is sent. -/
  | message (m : Message)
  /-- The line is a remark to the reader. -/
  | comment
  /-- The line has none of the forms. -/
  | unrecognized
  deriving DecidableEq, Repr

namespace Statement

/-! ## The five forms -/

/-- A participant; without a label it is shown by its name. -/
def participant? (line : List Char) : Option Participant := do
  let (id, rest) ← takeWord? (← afterBlanks? (← "participant".toList.isPrefixOf? line))
  if rest.isEmpty then
    return ⟨String.ofList id, String.ofList id⟩
  let label ← afterBlanks? (← "as".toList.isPrefixOf? (← afterBlanks? rest))
  if label.isEmpty then none else
    return ⟨String.ofList id, String.ofList (trim label)⟩

/-- The targets that the part of a note before its colon names.  A note over participants separates
them by commas and may leave some out; a note beside one takes the whole part as one name. -/
def targets : NotePlace → List Char → List String
  | .across, part => ((part.splitOn ',').map trim).filterMap fun name ↦
      if name.isEmpty then none else some (String.ofList name)
  | .rightOf, part | .leftOf, part => [String.ofList (trim part)]

/-- A note.  The part before the colon begins with a blank and holds one more character. -/
def note? (line : List Char) : Option Note := do
  let (place, rest) ← NotePlace.take? (← afterBlanks? (← "Note".toList.isPrefixOf? line))
  let (part, rest) := rest.span (· != ':')
  match part, rest with
  | first :: _ :: _, _ :: text =>
    if isBlank first then
      some ⟨place, targets place part, String.ofList (trim text)⟩
    else none
  | _, _ => none

/-- The label of a loop that begins. -/
def openLoop? (line : List Char) : Option String := do
  let rest ← "loop".toList.isPrefixOf? line
  if rest.isEmpty then
    return ""
  return String.ofList (trim (← afterBlanks? rest))

/-- Whether a loop ends. -/
def isCloseLoop (line : List Char) : Bool :=
  line == "end".toList

/-- A message. -/
def message? (line : List Char) : Option Message := do
  let (sender, rest) ← takeWord? line
  let (arrow, rest) ← Arrow.take? (trimStart rest)
  let (receiver, rest) ← takeWord? (trimStart rest)
  match trimStart rest with
  | ':' :: text =>
    some ⟨String.ofList sender, String.ofList receiver, String.ofList (trim text), arrow⟩
  | _ => none

/-- Whether a line is a comment. -/
def isComment (line : List Char) : Bool :=
  "%%".toList.isPrefixOf line

/-! ## Reading a line -/

/-- The statement on a trimmed line. -/
def ofLine (line : List Char) : Statement :=
  if isComment line then comment
  else match participant? line with
    | some p => participant p
    | none => match note? line with
      | some n => note n
      | none => match openLoop? line with
        | some label => openLoop label
        | none =>
          if isCloseLoop line then closeLoop
          else match message? line with
            | some m => message m
            | none => unrecognized

/-! ## Views -/

/-- The participant a statement declares. -/
def declared? : Statement → Option Participant
  | participant p => some p
  | _ => none

/-- The note a statement makes. -/
def noted? : Statement → Option Note
  | note n => some n
  | _ => none

/-- The message a statement sends. -/
def sent? : Statement → Option Message
  | message m => some m
  | _ => none

end Statement
end SequenceChart
