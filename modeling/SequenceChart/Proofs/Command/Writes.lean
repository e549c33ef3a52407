import SequenceChart.Command.Converter
import SequenceChart.Proofs.Command.Trees

/-!
# Scripts that write last

Both commands write one file, and once it is written nothing is left to do but to say so.  Any
script of this kind, played on any host and any file tree, leaves every file as it is but the one it
writes.  If it ends with status 0, then that one is written; and it can end in another way once it
has begun to write, but only in two: the system breaks off, or the last line is not heard.  Whether
a script is of this kind is seen from its steps alone, for all answers it may get.

## Main definitions

* `Script.WritesLast` — a script that writes one file and then has nothing left to do.
* `Host.Leaves` — the three ways in which a file is changed.
* `Outcome.ChangesOnly` — no file was changed, but the one at a path in one of these ways.

## Main statements

* `Script.WritesLast.changesOnly_run` — a script that writes last changes no other file, and that
  one in these ways only.
* `writesLast_deliver` — writing a picture is the last thing that is done with it.
-/

set_option autoImplicit false
namespace SequenceChart

/-! ## What is announced -/

section

variable {host : Host} {text : RawText}

theorem run_announce_of_heard (h : host.interrupts text = none) (next : Script) (t : FileTree) :
    (announce text next).run host t =
      { next.run host t with said := text ++ (next.run host t).said } := by
  rw [announce, Script.run, Host.hear, h]

theorem run_announce_of_interrupted {i : Interruption} (h : host.interrupts text = some i)
    (next : Script) (t : FileTree) :
    (announce text next).run host t = ⟨.error i.cause, i.heard, "", t⟩ := by
  rw [announce, Script.run, Host.hear, h]
  simp [Script.run]

/-- A run that ends well was heard. -/
theorem interrupts_eq_none_of_ending {next : Script} {t : FileTree}
    (h : ((announce text next).run host t).ending = .ok 0) : host.interrupts text = none := by
  cases hi : host.interrupts text with
  | none => rfl
  | some i =>
    rw [run_announce_of_interrupted hi] at h
    cases h

end

/-! ## Scripts -/

/-- A script that writes a picture to `output`, and once it has says `line` and ends with status 0,
or complains and ends with status 1. -/
inductive Script.WritesLast (line : PathName → RawText) (output : Option PathName)
    (picture : Content → Prop) : Script → Prop
  | done (status : Nat) : WritesLast line output picture (.done status)
  | fail (cause : Failure) : WritesLast line output picture (.fail cause)
  | say (text : RawText) {next : Option Failure → Script}
      (h : ∀ answer, WritesLast line output picture (next answer)) :
      WritesLast line output picture (.say text next)
  | complain (text : String) {next : Script} (h : WritesLast line output picture next) :
      WritesLast line output picture (.complain text next)
  | read (path : PathName) {next : Except SystemError ByteArray → Script}
      (h : ∀ answer, WritesLast line output picture (next answer)) :
      WritesLast line output picture (.read path next)
  | makeDirectories (path : PathName) {next : Option SystemError → Script}
      (h : ∀ answer, WritesLast line output picture (next answer)) :
      WritesLast line output picture (.makeDirectories path next)
  | write {path : PathName} {content : Content} {next : Option SystemError → Script}
      (hpath : output = some path) (hcontent : picture content)
      (hdone : next none = announce (line path) (.done 0))
      (herror : ∀ e, ∃ text, next (some e) = .complain text (.done 1)) :
      WritesLast line output picture (.write path content next)

/-- What is in a file when a content was to be written into it and `line` was the last thing to say,
and how the run has ended. -/
inductive Host.Leaves (host : Host) (line : RawText) (place : FilePlace) (content : Content) :
    Option Content → Except Failure Nat → Prop
  /-- The content is there, and the run has ended with status 0. -/
  | written : Leaves host line place content (some content) (.ok 0)
  /-- The content is there, but the run has broken off since its last line was not heard. -/
  | unheard (i : Interruption) (hline : host.interrupts line = some i) :
      Leaves host line place content (some content) (.error i.cause)
  /-- The system has broken off, what is left of the content is there, and the run has ended with
  status 1. -/
  | torn (tear : Tear) (htear : host.tears place content = some tear) :
      Leaves host line place content (some tear.left) (.ok 1)

/-- Every file is as it was in a tree, unless it is at the place that `output` leads to and was
changed there by writing a picture. -/
def Outcome.ChangesOnly (o : Outcome) (host : Host) (t : FileTree) (line : PathName → RawText)
    (output : Option PathName) (picture : Content → Prop) : Prop :=
  ∀ place, o.tree.file? place = t.file? place ∨ ∃ path content, output = some path ∧
    picture content ∧ o.tree.locate path = .ok place ∧
      host.Leaves (line path) place content (o.tree.file? place) o.ending

section

variable {host : Host} {line : PathName → RawText} {output : Option PathName}
  {picture : Content → Prop}

theorem Outcome.ChangesOnly.of_sameFiles {o : Outcome} {t t' : FileTree} (ht : t.SameFiles t')
    (h : o.ChangesOnly host t' line output picture) : o.ChangesOnly host t line output picture :=
  fun place ↦ (h place).imp_left fun hplace ↦ hplace.trans (ht place)

theorem Outcome.ChangesOnly.of_tree_eq {o : Outcome} {t : FileTree} (h : o.tree = t) :
    o.ChangesOnly host t line output picture :=
  fun _ ↦ .inl (by rw [h])

theorem Outcome.ChangesOnly.imp {o : Outcome} {t : FileTree} {picture' : Content → Prop}
    (h : o.ChangesOnly host t line output picture) (himp : ∀ c, picture c → picture' c) :
    o.ChangesOnly host t line output picture' := by
  refine fun place ↦ (h place).imp_right ?_
  rintro ⟨path, content, hpath, hcontent, hplace⟩
  exact ⟨path, content, hpath, himp content hcontent, hplace⟩

/-- A run that ends with a file filled has changed that file only, and in the way in which it has
ended. -/
theorem Outcome.ChangesOnly.of_fill {o : Outcome} {t : FileTree} {path : PathName}
    {place : FilePlace} {content left : Content} (hpath : output = some path)
    (hcontent : picture content) (hplace : t.locate path = .ok place)
    (hfree : t.node? place ≠ some .directory) (htree : o.tree = t.fill place left)
    (hleft : host.Leaves (line path) place content (some left) o.ending) :
    o.ChangesOnly host t line output picture := by
  intro q
  rw [htree]
  refine (FileTree.file?_fill hfree left q).imp_right ?_
  rintro ⟨rfl, hfile⟩
  exact ⟨path, content, hpath, hcontent, FileTree.locate_fill hfree left hplace, hfile ▸ hleft⟩

/-- A script that ends by saying the last line leaves what was written, heard or not. -/
theorem Host.leaves_announce (host : Host) (text : RawText) (place : FilePlace) (content : Content)
    (t : FileTree) :
    ((announce text (.done 0)).run host t).tree = t ∧
      host.Leaves text place content (some content)
        ((announce text (.done 0)).run host t).ending := by
  cases hi : host.interrupts text with
  | none =>
    rw [run_announce_of_heard hi]
    exact ⟨rfl, .written⟩
  | some i =>
    rw [run_announce_of_interrupted hi]
    exact ⟨rfl, .unheard i hi⟩

/-- **A script that writes last changes no file but the one it writes, and that one in three ways
only.** -/
theorem Script.WritesLast.changesOnly_run {s : Script} (h : s.WritesLast line output picture)
    (t : FileTree) : (s.run host t).ChangesOnly host t line output picture := by
  induction h generalizing t with
  | done status => exact .of_tree_eq rfl
  | fail cause => exact .of_tree_eq rfl
  | say text _ ih => exact ih (host.hear text).2 t
  | complain text _ ih => exact ih t
  | read path _ ih => exact ih (host.read t path) t
  | makeDirectories path _ ih =>
    exact (ih (t.makeDirectories path).2 _).of_sameFiles (t.sameFiles_makeDirectories path)
  | @write path content next hpath hcontent hdone herror =>
    have gives_up (e : SystemError) (after : FileTree) :
        ((next (some e)).run host after).tree = after ∧
          ((next (some e)).run host after).ending = .ok 1 := by
      obtain ⟨text, htext⟩ := herror e
      rw [htext]
      exact ⟨rfl, rfl⟩
    rw [Script.run]
    obtain ⟨e, hwrite⟩ | ⟨place, hplace, hfree, ⟨-, hwrite⟩ | ⟨tear, htear, hwrite⟩⟩ :=
      t.write_cases host.tears path content
    · rw [hwrite]
      exact .of_tree_eq (gives_up e t).1
    · obtain ⟨htree, hleft⟩ :=
        host.leaves_announce (line path) place content (t.fill place content)
      rw [← hdone] at htree hleft
      rw [hwrite]
      exact .of_fill hpath hcontent hplace hfree htree hleft
    · obtain ⟨htree, hending⟩ := gives_up ⟨tear.fault, none⟩ (t.fill place tear.left)
      rw [hwrite]
      exact .of_fill hpath hcontent hplace hfree htree (hending ▸ .torn tear htear)

end

/-! ## The output -/

/-- The path of the picture, if what was said about it is a path. -/
def Arguments.outputPath? (a : Arguments) (standard : String) : Option PathName :=
  match a.output with
  | .unsaid => some (PathName.ofText standard)
  | .value name => some (PathName.ofText name)
  | .blank => none

/-- The path of the picture that a command line asks for. -/
def Interface.outputPath? (i : Interface) (standard : String) (args : List RawText) :
    Option PathName :=
  match i.read args with
  | .ok a => a.outputPath? standard
  | .error _ => none

section

open Script

variable {line : PathName → RawText} {output : Option PathName} {picture : Content → Prop}

theorem writesLast_ifPath (p : PathName) {next : Script} (h : next.WritesLast line output picture) :
    (ifPath p next).WritesLast line output picture := by
  rw [ifPath]
  split
  · exact .fail _
  · exact h

theorem writesLast_announce (text : RawText) {next : Script}
    (h : next.WritesLast line output picture) :
    (announce text next).WritesLast line output picture := by
  refine .say _ fun answer ↦ ?_
  cases answer with
  | none => exact h
  | some cause => exact .fail cause

/-- **Writing a picture is the last thing that is done with it.** -/
theorem writesLast_deliver (topic kind : String) (path : PathName) {content : Content}
    (hcontent : picture content) :
    (deliver topic kind path content).WritesLast (announcement kind) (some path) picture := by
  refine writesLast_ifPath _ (.makeDirectories _ fun answer ↦ ?_)
  cases answer with
  | some e => exact .complain _ (.done 1)
  | none => exact writesLast_ifPath _ (.write rfl hcontent rfl fun e ↦ ⟨_, rfl⟩)

theorem writesLast_withOutput (a : Arguments) (standard : String) {next : PathName → Script}
    (h : ∀ path, (next path).WritesLast line (some path) picture) :
    (withOutput standard a.output next).WritesLast line (a.outputPath? standard) picture := by
  rw [Arguments.outputPath?]
  cases a.output with
  | unsaid => exact h _
  | value name => exact h _
  | blank => exact .fail _

end

end SequenceChart
