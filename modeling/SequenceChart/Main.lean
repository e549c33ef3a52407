import SequenceChart.Command.Converter
import Std.Time.DateTime.Timestamp

/-!
# The program

Plays the scripts of the two commands on the files there are.  The first word of the command line
says which command is meant: `drawio` or `pptx`.  Everything that is decided is decided in the
scripts; here files are read and written, text is shown, and the clock is read.

The words of the command line reach the program as strings, so no name has a stray byte in it.  A
presentation is a package of many files, which is not made here; what is written in its place is a
listing of its shapes.
-/

set_option autoImplicit false
namespace SequenceChart

/-- What an error of the operating system says. -/
def faultOf : IO.Error → SystemFault
  | .noFileOrDirectory _ _ _ => .noEntry
  | .alreadyExists _ _ _ => .alreadyThere
  | .inappropriateType _ code details => ⟨code.toNat, details⟩
  | .permissionDenied _ code details => ⟨code.toNat, details⟩
  | e => ⟨0, toString e⟩

/-- The bytes that are written for a content. -/
def Content.toBytes : Content → ByteArray
  | .bytes b => b
  | .deck d => (toString (repr d)).toUTF8

/-- Plays a script on the files there are. -/
def Script.perform : Script → IO UInt32
  | done status => return status.toUInt32
  | fail cause => do
    IO.eprintln cause.message
    return 1
  | say text next => do
    match ← (IO.print text.shown).toBaseIO with
    | .ok _ => (next none).perform
    | .error e => (next (some (.outputFault (faultOf e)))).perform
  | complain text next => do
    let _ ← (IO.eprint text).toBaseIO
    next.perform
  | read path next => do
    match ← (IO.FS.readBinFile path.text.shown).toBaseIO with
    | .ok b => (next (.ok b)).perform
    | .error e => (next (.error ⟨faultOf e, path⟩)).perform
  | makeDirectories path next => do
    match ← (IO.FS.createDirAll path.text.shown).toBaseIO with
    | .ok _ => (next none).perform
    | .error e => (next (some ⟨faultOf e, path⟩)).perform
  | write path content next => do
    match ← (IO.FS.writeBinFile path.text.shown content.toBytes).toBaseIO with
    | .ok _ => (next none).perform
    | .error e => (next (some ⟨faultOf e, path⟩)).perform

/-- The time it is. -/
def currentTime : IO Timestamp := do
  let elapsed := (← Std.Time.Timestamp.now).toNanosecondsSinceUnixEpoch
  return Timestamp.ofMicroseconds (elapsed.val / 1000).toNat

end SequenceChart

/-- Runs the command that the first word names on the rest of the command line. -/
def main : List String → IO UInt32
  | "drawio" :: args => do
    let now ← SequenceChart.currentTime
    (SequenceChart.drawioCommand now (args.map SequenceChart.RawText.ofString)).perform
  | "pptx" :: args =>
    (SequenceChart.deckCommand (args.map SequenceChart.RawText.ofString)).perform
  | _ => do
    IO.eprintln "usage: (drawio | pptx) [arguments]"
    return 2
