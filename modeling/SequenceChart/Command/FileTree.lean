import SequenceChart.Command.PathName
import SequenceChart.Failure
import SequenceChart.Slide.Deck

/-!
# File trees

A command reads one file and writes one.  What it may find, and what it leaves behind, is a tree of
directories and files, kept as a list of places: a place is the list of names that lead to it from
the root, the innermost name first.  A path begins at the root or at the working directory.

A path is followed name by name, and every place on the way has to be a directory.  Making a
directory and everything around it tries the directory itself first and turns to those around it
only if that is why it failed, so a fault names the path at which it arose.  What was made on the
way stays, even if the rest fails.

A file is emptied before it is written, and then the system may break off: what was in the file is
lost, and what is in it is a part of what should be, or nothing.  A sink looks like a file, but
whatever is written to it is gone.

## Main definitions

* `FileTree.read` — the content of a file.
* `FileTree.makeDirectories` — makes a directory and those around it.
* `FileTree.write` — writes a file into a directory that is there.
-/

set_option autoImplicit false
namespace SequenceChart

/-! ## Faults -/

namespace SystemFault

/-- A name on the path leads nowhere. -/
def noEntry : SystemFault := ⟨2, "No such file or directory"⟩

/-- There is something already. -/
def alreadyThere : SystemFault := ⟨17, "File exists"⟩

/-- The path leads through a file. -/
def notDirectory : SystemFault := ⟨20, "Not a directory"⟩

/-- There is a directory where a file is needed. -/
def isDirectory : SystemFault := ⟨21, "Is a directory"⟩

/-- A name, or a whole path, is longer than it may be. -/
def nameTooLong : SystemFault := ⟨36, "File name too long"⟩

end SystemFault

/-- A fault and the path at which it arose. -/
structure SystemError where
  /-- The fault. -/
  fault : SystemFault
  /-- The path, unless the fault arose in a file that was open already. -/
  path : Option PathName
  deriving DecidableEq, Repr

/-- The wording of an error. -/
def SystemError.message (e : SystemError) : String :=
  match e.path with
  | none => e.fault.message
  | some p => e.fault.message ++ ": " ++ quoted p.text

/-! ## Trees -/

/-- What is in a file. -/
inductive Content
  /-- Bytes. -/
  | bytes (b : ByteArray)
  /-- A presentation. -/
  | deck (d : Deck)

instance : DecidableEq Content
  | .bytes ⟨a⟩, .bytes ⟨b⟩ => decidable_of_iff (a = b) (by simp)
  | .deck d, .deck e => decidable_of_iff (d = e) (by simp)
  | .bytes _, .deck _ | .deck _, .bytes _ => .isFalse nofun

/-- How a write breaks off. -/
structure Tear where
  /-- What is in the file then. -/
  left : Content
  /-- Why. -/
  fault : SystemFault

/-- What is at a place. -/
inductive FileNode
  /-- A directory. -/
  | directory
  /-- A file. -/
  | file (c : Content)
  /-- A sink: it takes what is written to it and holds nothing. -/
  | sink
  deriving DecidableEq

/-- A place in a tree: the names that lead to it from the root, the innermost first. -/
abbrev FilePlace := List RawText

/-- The files and directories there are. -/
structure FileTree where
  /-- The place of the working directory. -/
  home : FilePlace
  /-- What there is, and where. -/
  nodes : List (FilePlace × FileNode)

namespace FileTree

/-- What is at a place.  The working directory and those around it are always there. -/
def node? (t : FileTree) (place : FilePlace) : Option FileNode :=
  if place.isSuffixOf t.home then some .directory else t.nodes.lookup place

/-- A tree with something at a place, instead of what was there. -/
def put (t : FileTree) (place : FilePlace) (n : FileNode) : FileTree :=
  { t with nodes := (place, n) :: t.nodes.filter (·.1 != place) }

/-! ## Following paths -/

/-- How many bytes a name may have. -/
def longestName : Nat := 255

/-- How many bytes a path may have. -/
def longestPath : Nat := 4095

/-- Where a name leads from a directory.  Nothing is around the root, so there two dots lead
nowhere else. -/
def step (place : FilePlace) (name : RawText) : FilePlace :=
  if name = [.char '.', .char '.'] then place.tail else name :: place

/-- Where a name leads from a place, which has to be a directory. -/
def enter (t : FileTree) (place : FilePlace) (name : RawText) : Except SystemFault FilePlace :=
  match t.node? place with
  | none => .error .noEntry
  | some (.file _) | some .sink => .error .notDirectory
  | some .directory =>
    if longestName < name.byteSize then .error .nameTooLong else .ok (step place name)

/-- Where a path begins. -/
def start (t : FileTree) (p : PathName) : FilePlace :=
  if p.root.isEmpty then t.home else []

/-- Where a path leads. -/
def locate (t : FileTree) (p : PathName) : Except SystemFault FilePlace :=
  if longestPath < p.text.byteSize then .error .nameTooLong
  else p.names.foldlM t.enter (t.start p)

/-! ## Reading -/

/-- The content of a file.  A sink is read as an empty one. -/
def read (t : FileTree) (p : PathName) : Except SystemError Content :=
  match t.locate p with
  | .error fault => .error ⟨fault, p⟩
  | .ok place =>
    match t.node? place with
    | none => .error ⟨.noEntry, p⟩
    | some .directory => .error ⟨.isDirectory, p⟩
    | some (.file c) => .ok c
    | some .sink => .ok (.bytes .empty)

/-! ## Making directories -/

/-- Makes a directory at a place, if there is nothing yet, and tells the place again. -/
def makeAt (t : FileTree) (place : FilePlace) : Except SystemFault (FileTree × FilePlace) :=
  match t.node? place with
  | none => .ok (t.put place .directory, place)
  | some _ => .error .alreadyThere

/-- The place of the directory that a path leads to, if it leads to one. -/
def directory? (t : FileTree) (p : PathName) : Option FilePlace :=
  match t.locate p with
  | .error _ => none
  | .ok place =>
    match t.node? place with
    | some .directory => some place
    | some (.file _) | some .sink | none => none

/-- What a fault amounts to when a directory is wanted: nothing, if the directory is there. -/
def settle (t : FileTree) (fault : SystemFault) (p : PathName) : Except SystemError FilePlace :=
  match t.directory? p with
  | some place => if fault = .noEntry then .error ⟨fault, p⟩ else .ok place
  | none => .error ⟨fault, p⟩

/-- Makes a directory and those around it, unless they are there, and tells its place.  The names of
the path are given from the innermost on. -/
def makeNames (t : FileTree) (root : String) :
    List RawText → FileTree × Except SystemError FilePlace
  | [] => (t, .ok (t.start ⟨root, []⟩))
  | name :: outer =>
    let p : PathName := ⟨root, (name :: outer).reverse⟩
    match t.locate p >>= t.makeAt with
    | .ok (t, place) => (t, .ok place)
    | .error fault =>
      if fault ≠ .noEntry then (t, t.settle fault p)
      else match t.makeNames root outer with
        | (t, .error e) => (t, .error e)
        | (t, .ok place) =>
          match t.enter place name >>= t.makeAt with
          | .ok (t, place) => (t, .ok place)
          | .error fault => (t, t.settle fault p)

/-- Makes a directory and those around it, unless they are there. -/
def makeDirectories (t : FileTree) (p : PathName) : FileTree × Option SystemError :=
  match t.makeNames p.root p.names.reverse with
  | (t, .ok _) => (t, none)
  | (t, .error e) => (t, some e)

/-! ## Writing -/

/-- A tree with something in the file at a place, which is made if it is not there. -/
def fill (t : FileTree) (place : FilePlace) (c : Content) : FileTree :=
  match t.node? place with
  | some .sink => t
  | some .directory | some (.file _) | none => t.put place (.file c)

/-- Writes a file into a directory that is there, on a system that breaks writes off as told. -/
def write (t : FileTree) (tears : FilePlace → Content → Option Tear) (p : PathName) (c : Content) :
    FileTree × Option SystemError :=
  match t.locate p with
  | .error fault => (t, some ⟨fault, p⟩)
  | .ok place =>
    match t.node? place with
    | some .directory => (t, some ⟨.isDirectory, p⟩)
    | some (.file _) | some .sink | none =>
      match tears place c with
      | none => (t.fill place c, none)
      | some tear => (t.fill place tear.left, some ⟨tear.fault, none⟩)

end FileTree
end SequenceChart
