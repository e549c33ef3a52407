import SequenceChart.Command.FileTree

/-!
# Scripts

What a command does, as a value: a tree of steps, where a step that asks for something goes on in a
way that depends on the answer.  `Script.run` plays a script on a file tree and tells what comes of
it; the program plays the same script on the files there are.

A script does not run in a file tree alone.  What it says may not be heard: a terminal refuses what
is not in its encoding, and whoever listens may be gone.  A write may break off.  And of a
presentation a reader sees the bytes it is packed into.  All this is the host's, and a script has to
be ready for any of it.  Only complaints get through as they are: they go to a log, which escapes
what it cannot hold, and a command does not hear of it if the log is lost.

## Main definitions

* `Script`, `Outcome` — what a command does, and what comes of it.
* `Host` — what a script runs on besides the files.
* `Script.run` — plays a script.
-/

set_option autoImplicit false
namespace SequenceChart

/-- What a command does. -/
inductive Script
  /-- It ends with a status. -/
  | done (status : Nat)
  /-- It breaks off. -/
  | fail (cause : Failure)
  /-- It says something, and learns why it was not heard if it was not. -/
  | say (text : RawText) (next : Option Failure → Script)
  /-- It complains and goes on. -/
  | complain (text : String) (next : Script)
  /-- It reads the bytes of a file. -/
  | read (path : PathName) (next : Except SystemError ByteArray → Script)
  /-- It makes a directory and those around it, unless they are there. -/
  | makeDirectories (path : PathName) (next : Option SystemError → Script)
  /-- It writes a file into a directory that is there. -/
  | write (path : PathName) (content : Content) (next : Option SystemError → Script)

/-! ## Hosts -/

/-- How something that is said is not heard to its end. -/
structure Interruption where
  /-- What is heard of it. -/
  heard : RawText
  /-- Why that is all. -/
  cause : Failure

/-- What a script runs on besides the files. -/
structure Host where
  /-- Whether and how a text is interrupted when it is said. -/
  interrupts : RawText → Option Interruption
  /-- Whether and how a write of a content at a place breaks off. -/
  tears : FilePlace → Content → Option Tear
  /-- The bytes of a presentation. -/
  pack : Deck → ByteArray

namespace Host

/-- What is heard of a text that is said, and why no more. -/
def hear (host : Host) (text : RawText) : RawText × Option Failure :=
  match host.interrupts text with
  | none => (text, none)
  | some i => (i.heard, some i.cause)

/-- The bytes in a file. -/
def bytes (host : Host) : Content → ByteArray
  | .bytes b => b
  | .deck d => host.pack d

/-- The bytes at a path. -/
def read (host : Host) (t : FileTree) (p : PathName) : Except SystemError ByteArray :=
  (t.read p).map host.bytes

/-- A host with enough room for every file, and a terminal that takes UTF-8 and nothing else. -/
def utf8 (pack : Deck → ByteArray) : Host where
  interrupts text := text.unencodable?.map fun cause ↦ ⟨[], .unencodable cause⟩
  tears _ _ := none
  pack := pack

end Host

/-! ## Running -/

/-- What comes of a script. -/
structure Outcome where
  /-- The status it ends with, or the reason for which it breaks off. -/
  ending : Except Failure Nat
  /-- What was heard of what it said. -/
  said : RawText
  /-- What it complained of. -/
  complained : String
  /-- The files it leaves. -/
  tree : FileTree

/-- What comes of a script on a host with a file tree. -/
def Script.run (host : Host) (t : FileTree) : Script → Outcome
  | done status => ⟨.ok status, [], "", t⟩
  | fail cause => ⟨.error cause, [], "", t⟩
  | say text next =>
    let (heard, cause) := host.hear text
    let rest := (next cause).run host t
    { rest with said := heard ++ rest.said }
  | complain text next =>
    let rest := next.run host t
    { rest with complained := text ++ rest.complained }
  | read path next => (next (host.read t path)).run host t
  | makeDirectories path next =>
    let (after, error) := t.makeDirectories path
    (next error).run host after
  | write path content next =>
    let (after, error) := t.write host.tears path content
    (next error).run host after

end SequenceChart
