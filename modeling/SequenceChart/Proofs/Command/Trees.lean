import SequenceChart.Command.FileTree
import SequenceChart.Proofs.Fallible

/-!
# What an operation on a file tree changes

Making directories puts directories where nothing was, and writing fills a file where no directory
was.  So the first leaves every file as it is, and the second leaves every file but one, whether it
succeeds or not.  A write that fails before it begins leaves that one too; one that breaks off does
not.

## Main definitions

* `FileTree.file?` — what is in the file at a place.
* `FileTree.SameFiles` — two trees have the same files, whatever directories they have.
* `FileTree.LeadsToSink` — what is written at a path is gone.

## Main statements

* `FileTree.sameFiles_makeDirectories` — making directories leaves the files as they are.
* `FileTree.file?_fill` — filling a file changes no other.
* `FileTree.write_cases` — what a write can do.
-/

set_option autoImplicit false
namespace SequenceChart

namespace FileTree

/-- What is in the file at a place, if there is a file. -/
def file? (t : FileTree) (place : FilePlace) : Option Content :=
  match t.node? place with
  | some (.file c) => some c
  | some .directory | some .sink | none => none

/-- Two trees have the same files. -/
def SameFiles (t t' : FileTree) : Prop :=
  ∀ place, t'.file? place = t.file? place

theorem SameFiles.refl (t : FileTree) : t.SameFiles t :=
  fun _ ↦ rfl

theorem SameFiles.trans {t t' t'' : FileTree} (h : t.SameFiles t') (h' : t'.SameFiles t'') :
    t.SameFiles t'' :=
  fun place ↦ (h' place).trans (h place)

theorem node?_of_file? {t : FileTree} {place : FilePlace} {c : Content}
    (h : t.file? place = some c) : t.node? place = some (.file c) := by
  rw [file?] at h
  split at h
  · next hnode =>
    cases h
    exact hnode
  · cases h
  · cases h
  · cases h

theorem read_of_file? {t : FileTree} {p : PathName} {place : FilePlace} {c : Content}
    (hp : t.locate p = .ok place) (h : t.file? place = some c) : t.read p = .ok c := by
  rw [read, hp]
  dsimp only
  rw [node?_of_file? h]

/-! ## Putting something at a place -/

theorem lookup_filter_ne {β : Type} {place q : FilePlace} (h : q ≠ place)
    (nodes : List (FilePlace × β)) :
    (nodes.filter (·.1 != place)).lookup q = nodes.lookup q := by
  induction nodes with
  | nil => rfl
  | cons node nodes ih =>
    obtain ⟨p, n⟩ := node
    by_cases hp : p = place
    · rw [List.filter_cons_of_neg (by simp [hp]), ih, List.lookup_cons,
        beq_false_of_ne (hp ▸ h)]
    · rw [List.filter_cons_of_pos (by simpa using hp), List.lookup_cons, List.lookup_cons, ih]

/-- Something that is put at a place is there and changes nothing elsewhere.  The working directory
and those around it are no places for anything else. -/
theorem node?_put {t : FileTree} {place : FilePlace} (h : t.node? place ≠ some .directory)
    (n : FileNode) (q : FilePlace) :
    (t.put place n).node? q = if q = place then some n else t.node? q := by
  rw [node?, node?, put]
  dsimp only
  by_cases hhome : q.isSuffixOf t.home
  · have hq : q ≠ place := fun hq ↦ h (by rw [← hq, node?, if_pos hhome])
    rw [if_pos hhome, if_neg hq, if_pos hhome]
  · rw [if_neg hhome, if_neg hhome, List.lookup_cons]
    by_cases hq : q = place
    · rw [if_pos hq, hq, beq_self_eq_true]
    · rw [if_neg hq, beq_false_of_ne hq]
      exact lookup_filter_ne hq t.nodes

theorem file?_put_of_ne {t : FileTree} {place q : FilePlace} (h : t.node? place ≠ some .directory)
    (n : FileNode) (hq : q ≠ place) : (t.put place n).file? q = t.file? q := by
  rw [file?, node?_put h, if_neg hq, file?]

/-! ## Making directories -/

theorem sameFiles_makeAt {t t' : FileTree} {place place' : FilePlace}
    (h : t.makeAt place = .ok (t', place')) : t.SameFiles t' := by
  rw [makeAt] at h
  cases hnode : t.node? place with
  | some n =>
    rw [hnode] at h
    cases h
  | none =>
    rw [hnode] at h
    cases h
    have hfree : t.node? place ≠ some .directory := by simp [hnode]
    intro q
    by_cases hq : q = place
    · rw [file?, node?_put hfree, if_pos hq, file?, hq, hnode]
    · exact file?_put_of_ne hfree _ hq

theorem sameFiles_makeNames (t : FileTree) (root : String) (names : List RawText) :
    t.SameFiles (t.makeNames root names).1 := by
  induction names with
  | nil => exact SameFiles.refl t
  | cons name outer ih =>
    rw [makeNames]
    split
    · next made place hmade =>
      obtain ⟨q, -, hmade⟩ := exists_of_bind_eq_ok hmade
      exact sameFiles_makeAt hmade
    · next fault hfault =>
      split
      · exact SameFiles.refl t
      · split
        · next around e haround =>
          rw [haround] at ih
          exact ih
        · next around place haround =>
          rw [haround] at ih
          split
          · next made q hmade =>
            obtain ⟨p, -, hmade⟩ := exists_of_bind_eq_ok hmade
            exact ih.trans (sameFiles_makeAt hmade)
          · exact ih

/-- **Making directories leaves the files as they are**, also if it fails on the way. -/
theorem sameFiles_makeDirectories (t : FileTree) (p : PathName) :
    t.SameFiles (t.makeDirectories p).1 := by
  have h := sameFiles_makeNames t p.root p.names.reverse
  rw [makeDirectories]
  split
  · next made place hmade =>
    rw [hmade] at h
    exact h
  · next made e hmade =>
    rw [hmade] at h
    exact h

/-! ## Writing -/

theorem enter_put {t : FileTree} {place q q' : FilePlace} (h : t.node? place ≠ some .directory)
    (n : FileNode) {name : RawText} (hq : t.enter q name = .ok q') :
    (t.put place n).enter q name = .ok q' := by
  by_cases hne : q = place
  · -- From a place that holds no directory a name leads nowhere.
    rw [enter, hne] at hq
    cases hnode : t.node? place with
    | none =>
      rw [hnode] at hq
      cases hq
    | some m =>
      cases m with
      | file | sink =>
        rw [hnode] at hq
        cases hq
      | directory => exact absurd hnode h
  · rw [enter, node?_put h, if_neg hne, ← enter]
    exact hq

/-- A path leads through directories, so it still leads to the same place after something was put
where none of them is. -/
theorem locate_put {t : FileTree} {place q : FilePlace} (h : t.node? place ≠ some .directory)
    (n : FileNode) {p : PathName} (hp : t.locate p = .ok q) : (t.put place n).locate p = .ok q := by
  have follow {names : List RawText} {r : FilePlace} (hr : names.foldlM t.enter r = .ok q) :
      names.foldlM (t.put place n).enter r = .ok q := by
    induction names generalizing r with
    | nil => exact hr
    | cons name names ih =>
      rw [List.foldlM_cons] at hr ⊢
      obtain ⟨s, hs, hr⟩ := exists_of_bind_eq_ok hr
      rw [enter_put h n hs]
      exact ih hr
  rw [locate] at hp ⊢
  by_cases hlong : longestPath < p.text.byteSize
  · rw [if_pos hlong] at hp
    cases hp
  · rw [if_neg hlong] at hp ⊢
    exact follow hp

theorem fill_eq_or (t : FileTree) (place : FilePlace) (c : Content) :
    t.node? place = some .sink ∧ t.fill place c = t ∨ t.fill place c = t.put place (.file c) := by
  rw [fill]
  split
  · next hsink => exact .inl ⟨hsink, rfl⟩
  all_goals exact .inr rfl

section

variable {t : FileTree} {place : FilePlace} (h : t.node? place ≠ some .directory) (c : Content)

include h

/-- **Filling a file changes no other**, and it changes that one unless it is a sink. -/
theorem file?_fill (q : FilePlace) :
    (t.fill place c).file? q = t.file? q ∨ q = place ∧ (t.fill place c).file? q = some c := by
  obtain ⟨-, hfill⟩ | hfill := t.fill_eq_or place c
  · exact .inl (by rw [hfill])
  · rw [hfill]
    by_cases hq : q = place
    · exact .inr ⟨hq, by rw [file?, node?_put h, if_pos hq]⟩
    · exact .inl (file?_put_of_ne h _ hq)

theorem locate_fill {p : PathName} {q : FilePlace} (hp : t.locate p = .ok q) :
    (t.fill place c).locate p = .ok q := by
  obtain ⟨-, hfill⟩ | hfill := t.fill_eq_or place c
  · rw [hfill, hp]
  · rw [hfill, locate_put h _ hp]

end

/-- What is written at a path is gone. -/
def LeadsToSink (t : FileTree) (p : PathName) : Prop :=
  ∃ place, t.locate p = .ok place ∧ t.node? place = some .sink

/-- What a file is filled with is read in it, unless the path leads to a sink. -/
theorem read_fill {t : FileTree} {p : PathName} {place : FilePlace} (hp : t.locate p = .ok place)
    (h : t.node? place ≠ some .directory) (c : Content)
    (hsink : ¬ (t.fill place c).LeadsToSink p) : (t.fill place c).read p = .ok c := by
  have hplace := locate_fill h c hp
  obtain ⟨hnode, hfill⟩ | hfill := t.fill_eq_or place c
  · exact absurd ⟨place, hplace, by rw [hfill, hnode]⟩ hsink
  · rw [hfill] at hplace ⊢
    exact read_of_file? hplace (by rw [file?, node?_put h, if_pos rfl])

/-- **What a write can do**: it fails before it begins, and nothing is changed; or it fills the file
that its path leads to, with all of the content or with what is left of it when the system breaks
off. -/
theorem write_cases (t : FileTree) (tears : FilePlace → Content → Option Tear) (p : PathName)
    (c : Content) :
    (∃ e, t.write tears p c = (t, some e)) ∨
    ∃ place, t.locate p = .ok place ∧ t.node? place ≠ some .directory ∧
      (tears place c = none ∧ t.write tears p c = (t.fill place c, none) ∨
        ∃ tear, tears place c = some tear ∧
          t.write tears p c = (t.fill place tear.left, some ⟨tear.fault, none⟩)) := by
  rw [write]
  cases hp : t.locate p with
  | error fault => exact .inl ⟨_, rfl⟩
  | ok place =>
    dsimp only
    split
    · exact .inl ⟨_, rfl⟩
    all_goals
      refine .inr ⟨place, rfl, by simp_all, ?_⟩
      cases htears : tears place c with
      | none => exact .inl ⟨rfl, rfl⟩
      | some tear => exact .inr ⟨tear, rfl, rfl⟩

end FileTree
end SequenceChart
