import SequenceChart.Proofs.Layout.Columns
import Mathlib.Order.Bounds.Basic

/-!
# What notes span

A note finds its columns by name.  A note over participants takes the first and the last of them, so
it does not matter in which order the targets are named, nor how often: it begins with the header in
its first column and ends with the header in its last one.  These are columns and not places.  As
long as columns follow one another to the right, nothing between the two is missed; where the
distance between columns may be negative, see `Proofs/Drawio/Sizes.lean`.

A note at a side stands beside the column of its first target.  The two sides are computed each in
its own way, and they are mirror images of each other in the middle of the column.

## Main definitions

* `Diagram.targetColumns` — the columns of the targets of a note.
* `mirrored` — an extent on the other side of a line.

## Main statements

* `noteExtent?_eq_none_iff` — the notes that are not drawn.
* `exists_span` — between which columns a note over participants reaches.
* `noteExtent?_eq_of_targetColumns_eq` — the order and the number of the targets do not matter.
* `noteExtent?_rightOf_eq_mirrored` — the two sides of a column.
* `note_spans_targets` — all of this for one note.
-/

set_option autoImplicit false
namespace SequenceChart

/-- The columns of the targets of a note. -/
def Diagram.targetColumns (d : Diagram) (n : Note) : Set Nat :=
  {c | ∃ id ∈ n.targets, d.column? id = some c}

/-- The shape of the participant that a name stands for: the first one, if several have it. -/
def Layout.shapeOf? {α : Type} (l : Layout α) (id : String) : Option (ParticipantShape α) :=
  l.participants.find? (·.participant.id == id)

/-- An extent reaches over the headers of all targets of a note. -/
def Layout.IsOverTargets (l : Layout Rat) (n : Note) (x width : Rat) : Prop :=
  ∀ id ∈ n.targets, ∃ p ∈ l.shapeOf? id, x ≤ p.header.x ∧ p.header.right ≤ x + width

/-- An extent on the other side of a line, as far from it and as wide. -/
def mirrored (middle : Rat) (extent : Rat × Rat) : Rat × Rat :=
  (2 * middle - (extent.1 + extent.2), extent.2)

section

variable {d : Diagram} {n n' : Note}

/-! ## Targets and columns -/

/-- **The notes that are not drawn** have no target, or one that is not declared. -/
theorem noteExtent?_eq_none_iff {α : Type} [Scalar α] {s : Settings α} :
    noteExtent? d s n = none ↔ n.targets = [] ∨ ∃ id ∈ n.targets, d.column? id = none := by
  rw [← Option.not_isSome_iff_eq_none, isSome_noteExtent?, Diagram.drawsNote, Bool.and_eq_true,
    not_and_or, Bool.not_eq_true', List.isEmpty_eq_false_iff, not_not, List.all_eq_true,
    not_forall₂]
  refine or_congr_right (exists_congr fun id ↦ exists_prop.trans (and_congr_right fun _ ↦ ?_))
  rw [← isSome_column?, Option.not_isSome_iff_eq_none]

/-- The targets of a note that is drawn have columns. -/
theorem exists_column?_of_noteExtent? {α : Type} [Scalar α] {s : Settings α} {extent : α × α}
    (h : noteExtent? d s n = some extent) : ∀ id ∈ n.targets, ∃ c, d.column? id = some c := by
  intro id hid
  rw [← Option.ne_none_iff_exists']
  intro hnone
  rw [noteExtent?_eq_none_iff.2 (.inr ⟨id, hid, hnone⟩)] at h
  cases h

/-- Notes with the same targets, in whatever order and number, are both drawn or both not. -/
theorem Diagram.drawsNote_congr (h : ∀ id, id ∈ n'.targets ↔ id ∈ n.targets) :
    d.drawsNote n' = d.drawsNote n := by
  rw [Bool.eq_iff_iff, drawsNote, drawsNote, Bool.and_eq_true, Bool.and_eq_true,
    List.all_eq_true, List.all_eq_true]
  refine and_congr ?_ (forall_congr' fun id ↦ imp_congr_left (h id))
  simp only [Bool.not_eq_true', List.isEmpty_eq_false_iff_exists_mem, h]

/-- Notes with the same targets have the same columns. -/
theorem Diagram.targetColumns_congr (h : ∀ id, id ∈ n'.targets ↔ id ∈ n.targets) :
    d.targetColumns n' = d.targetColumns n :=
  Set.ext fun _ ↦ exists_congr fun id ↦ and_congr_left' (h id)

theorem mem_columns_iff {ids : List String} {columns : List Nat}
    (h : ids.mapM d.column? = some columns) {c : Nat} :
    c ∈ columns ↔ ∃ id ∈ ids, d.column? id = some c := by
  replace h := mapM_eq_some_iff.1 h
  induction h with
  | nil => simp
  | cons hid _ ih =>
    rw [List.mem_cons, List.exists_mem_cons_iff, hid, Option.some_inj, eq_comm]
    exact or_congr_right ih

/-- The first column is that of the first name. -/
theorem column?_of_mem_head? {ids : List String} {c : Nat} {rest : List Nat}
    (h : ids.mapM d.column? = some (c :: rest)) {id : String} (hid : id ∈ ids.head?) :
    d.column? id = some c := by
  obtain ⟨first, others, hfirst, -, rfl⟩ := List.forall₂_cons_right_iff.1 (mapM_eq_some_iff.1 h)
  obtain rfl : first = id := Option.some.inj hid
  exact hfirst

/-! ## Headers -/

/-- The column of a name is the position of its shape. -/
theorem Layout.index_shapeOf? {α : Type} [Scalar α] (d : Diagram) (s : Settings α) (id : String) :
    ((ofDiagram d s).shapeOf? id).map (·.index) = d.column? id := by
  rw [shapeOf?, ofDiagram, List.find?_map, Option.map_map, Diagram.column?,
    List.findIdx?_eq_fst_find?_zipIdx]
  rfl

variable {s : Settings Rat}

/-- The header of a name is in its column. -/
theorem Layout.exists_shapeOf?_eq_some {id : String} {c : Nat} (hc : d.column? id = some c) :
    ∃ p ∈ (ofDiagram d s).shapeOf? id, p.header.x = s.columnX c ∧
      p.header.right = s.columnX c + s.headerWidth := by
  rw [← index_shapeOf? d s, Option.map_eq_some_iff] at hc
  obtain ⟨p, hp, rfl⟩ := hc
  obtain ⟨q, i, -, rfl⟩ := exists_of_mem_participants (List.mem_of_find?_eq_some hp)
  exact ⟨_, hp, rfl, rfl⟩

/-- Of two columns the later one is not further to the left, unless the distance between columns is
negative. -/
theorem Settings.columnX_le_columnX_iff {i j : Nat} (hij : i ≤ j) :
    s.columnX i ≤ s.columnX j ↔ 0 ≤ s.spacing ∨ i = j := by
  rcases hij.eq_or_lt with rfl | hlt
  · simp
  · have hpos : (0 : Rat) < (j : Int) - (i : Int) := by
      have hlt' : (i : Rat) < j := Nat.cast_lt.2 hlt
      push_cast
      linarith
    rw [columnX, columnX, add_le_add_iff_left, ← sub_nonneg, ← sub_mul,
      mul_nonneg_iff_of_pos_left hpos]
    exact (or_iff_left hlt.ne).symm

/-! ## Over participants -/

/-- **A note over participants reaches** from the header in the first of its columns to the header
in the last one. -/
theorem exists_span (hplace : n.place = .across) {x width : Rat}
    (h : noteExtent? d s n = some (x, width)) :
    ∃ low high : Nat, IsLeast (d.targetColumns n) low ∧ IsGreatest (d.targetColumns n) high ∧
      x = s.columnX low ∧ x + width = s.columnX high + s.headerWidth := by
  obtain ⟨c, rest, hcolumns, ⟨-, hx, hwidth⟩ | ⟨hright, -⟩ | ⟨hleft, -⟩⟩ :=
    exists_of_noteExtent?_eq_some h
  · have hmem : ∀ {i : Nat}, i ∈ c :: rest ↔ i ∈ d.targetColumns n := mem_columns_iff hcolumns
    have hmin : (c :: rest).min? = some (rest.foldl min c) := List.min?_cons'
    have hmax : (c :: rest).max? = some (rest.foldl max c) := List.max?_cons'
    obtain ⟨hlow, hle⟩ := List.min?_eq_some_iff.1 hmin
    obtain ⟨hhigh, hge⟩ := List.max?_eq_some_iff.1 hmax
    refine ⟨rest.foldl min c, rest.foldl max c, ⟨hmem.1 hlow, fun i hi ↦ hle i (hmem.2 hi)⟩,
      ⟨hmem.1 hhigh, fun i hi ↦ hge i (hmem.2 hi)⟩, hx, ?_⟩
    rw [hx, hwidth, Settings.columnX, Settings.columnX]
    push_cast
    ring
  · rw [hplace] at hright
    cases hright
  · rw [hplace] at hleft
    cases hleft

/-- **The order and the number of the targets do not matter**, only their columns do. -/
theorem noteExtent?_eq_of_targetColumns_eq (hplace : n.place = .across)
    (hplace' : n'.place = .across) (hcolumns : d.targetColumns n' = d.targetColumns n)
    {extent extent' : Rat × Rat} (h : noteExtent? d s n = some extent)
    (h' : noteExtent? d s n' = some extent') : extent' = extent := by
  obtain ⟨x, width⟩ := extent
  obtain ⟨x', width'⟩ := extent'
  obtain ⟨low, high, hlow, hhigh, hx, hwidth⟩ := exists_span hplace h
  obtain ⟨low', high', hlow', hhigh', hx', hwidth'⟩ := exists_span hplace' h'
  rw [hcolumns] at hlow' hhigh'
  obtain rfl := hlow'.unique hlow
  obtain rfl := hhigh'.unique hhigh
  obtain rfl : x' = x := hx'.trans hx.symm
  exact congrArg (Prod.mk x') (add_left_cancel (hwidth'.trans hwidth.symm))

/-- **A note over participants reaches over the headers of its targets** if columns follow one
another to the right, and otherwise only if all targets are in one column. -/
theorem isOverTargets_iff (hplace : n.place = .across) {x width : Rat}
    (h : noteExtent? d s n = some (x, width)) :
    (Layout.ofDiagram d s).IsOverTargets n x width ↔
      0 ≤ s.spacing ∨ (d.targetColumns n).Subsingleton := by
  obtain ⟨low, high, hlow, hhigh, hx, hend⟩ := exists_span hplace h
  constructor
  · intro hover
    obtain ⟨id, hid, hc⟩ := hhigh.1
    obtain ⟨p, hp, hleft, -⟩ := hover id hid
    obtain ⟨q, hq, hheader, -⟩ := Layout.exists_shapeOf?_eq_some (s := s) hc
    obtain rfl : p = q := Option.some.inj (hp.symm.trans hq)
    rw [hx, hheader, Settings.columnX_le_columnX_iff (hlow.2 hhigh.1)] at hleft
    refine hleft.imp_right fun heq a ha b hb ↦ le_antisymm ?_ ?_
    · exact (hhigh.2 ha).trans (heq.ge.trans (hlow.2 hb))
    · exact (hhigh.2 hb).trans (heq.ge.trans (hlow.2 ha))
  · intro hspacing id hid
    obtain ⟨c, hc⟩ := exists_column?_of_noteExtent? h id hid
    obtain ⟨p, hp, hheader, hheader'⟩ := Layout.exists_shapeOf?_eq_some (s := s) hc
    have hmem : c ∈ d.targetColumns n := ⟨id, hid, hc⟩
    refine ⟨p, hp, ?_, ?_⟩
    · rw [hx, hheader, Settings.columnX_le_columnX_iff (hlow.2 hmem)]
      exact hspacing.imp_right fun hone ↦ hone hlow.1 hmem
    · rw [hend, hheader', add_le_add_iff_right, Settings.columnX_le_columnX_iff (hhigh.2 hmem)]
      exact hspacing.imp_right fun hone ↦ hone hmem hhigh.1

/-! ## At a side -/

/-- The extent of a note at a side, by the column of its first target. -/
theorem noteExtent?_of_mem_head? (hplace : n.place ≠ .across) {id : String}
    (hid : id ∈ n.targets.head?) {c : Nat} (hc : d.column? id = some c) {x width : Rat}
    (h : noteExtent? d s n = some (x, width)) :
    width = s.sideNoteWidth ∧ (n.place = .rightOf ∧ x = s.columnX c + s.sideNoteOffset ∨
      n.place = .leftOf ∧
        x = s.columnX c + s.headerWidth - s.sideNoteOffset - s.sideNoteWidth) := by
  obtain ⟨c', rest, hcolumns, hextent⟩ := exists_of_noteExtent?_eq_some h
  obtain rfl : c' = c :=
    Option.some.inj ((column?_of_mem_head? hcolumns hid).symm.trans hc)
  rcases hextent with ⟨hacross, -⟩ | ⟨hright, hx, hwidth⟩ | ⟨hleft, hx, hwidth⟩
  · exact absurd hacross hplace
  · exact ⟨hwidth, .inl ⟨hright, hx⟩⟩
  · exact ⟨hwidth, .inr ⟨hleft, hx⟩⟩

/-- **The two sides of a column**: a note to the right of a participant is the mirror image of a
note to the left, in the middle of the column. -/
theorem noteExtent?_rightOf_eq_mirrored (hplace : n.place = .leftOf) (hplace' : n'.place = .rightOf)
    {id : String} (hid : id ∈ n.targets.head?) (hid' : id ∈ n'.targets.head?) {c : Nat}
    (hc : d.column? id = some c) {extent extent' : Rat × Rat}
    (h : noteExtent? d s n = some extent) (h' : noteExtent? d s n' = some extent') :
    extent' = mirrored (s.columnCenter c) extent := by
  obtain ⟨x, width⟩ := extent
  obtain ⟨x', width'⟩ := extent'
  obtain ⟨rfl, ⟨hright, -⟩ | ⟨-, rfl⟩⟩ := noteExtent?_of_mem_head? (by simp [hplace]) hid hc h
  · rw [hplace] at hright
    cases hright
  obtain ⟨rfl, ⟨-, rfl⟩ | ⟨hleft, -⟩⟩ := noteExtent?_of_mem_head? (by simp [hplace']) hid' hc h'
  · have hhalf : 2 * (s.headerWidth / 2.0) = s.headerWidth := by
      norm_num
      ring
    refine congrArg (·, s.sideNoteWidth) ?_
    show s.columnX c + s.sideNoteOffset =
      2 * (s.columnX c + s.headerWidth / 2.0) - (s.columnX c + s.headerWidth - s.sideNoteOffset -
        s.sideNoteWidth + s.sideNoteWidth)
    linarith
  · rw [hplace'] at hleft
    cases hleft

/-! ## Each note -/

/-- **What notes span.**  A note has no extent exactly if it has no target or one that is not
declared.  If it has one, and columns follow one another to the right, then:

* a note over participants depends on the set of their columns only, so not on the order in which
  they are named nor on how often; it reaches over all their headers, begins with one of them and
  ends with one of them;
* a note to the right of a participant is as wide as one to the left of it, and is its mirror image
  in the middle of the column. -/
theorem note_spans_targets (d : Diagram) (s : Settings Rat) (hspacing : 0 ≤ s.spacing) (n : Note) :
    (noteExtent? d s n = none ↔ n.targets = [] ∨ ∃ id ∈ n.targets, d.column? id = none) ∧
      ∀ x width, noteExtent? d s n = some (x, width) →
        (n.place = .across →
          (∀ n' : Note, n'.place = .across → d.drawsNote n' = true →
            d.targetColumns n' = d.targetColumns n → noteExtent? d s n' = some (x, width)) ∧
          (∀ n' : Note, n'.place = .across → (∀ id, id ∈ n'.targets ↔ id ∈ n.targets) →
            noteExtent? d s n' = some (x, width)) ∧
          (Layout.ofDiagram d s).IsOverTargets n x width ∧
          (∃ id ∈ n.targets, ∃ p ∈ (Layout.ofDiagram d s).shapeOf? id, p.header.x = x) ∧
          ∃ id ∈ n.targets, ∃ p ∈ (Layout.ofDiagram d s).shapeOf? id,
            p.header.right = x + width) ∧
        (n.place = .leftOf → ∃ id c, id ∈ n.targets.head? ∧ d.column? id = some c ∧
          ∀ n' : Note, n'.place = .rightOf → d.drawsNote n' = true → id ∈ n'.targets.head? →
            noteExtent? d s n' = some (mirrored (s.columnCenter c) (x, width))) := by
  have hdrawn : ∀ n' : Note, d.drawsNote n' = true → ∃ extent, noteExtent? d s n' = some extent :=
    fun n' hn' ↦ Option.isSome_iff_exists.1 ((isSome_noteExtent? d s n').trans hn')
  refine ⟨noteExtent?_eq_none_iff, fun x width h ↦ ⟨fun hplace ↦ ?_, fun hplace ↦ ?_⟩⟩
  · have hset : ∀ n' : Note, n'.place = .across → d.drawsNote n' = true →
        d.targetColumns n' = d.targetColumns n → noteExtent? d s n' = some (x, width) := by
      intro n' hplace' hn' hcolumns
      obtain ⟨extent, hextent⟩ := hdrawn n' hn'
      rw [hextent, noteExtent?_eq_of_targetColumns_eq hplace hplace' hcolumns h hextent]
    have hn : d.drawsNote n = true := by
      rw [← isSome_noteExtent? d s, h, Option.isSome_some]
    obtain ⟨low, high, ⟨⟨first, hfirst, hlow⟩, -⟩, ⟨⟨last, hlast, hhigh⟩, -⟩, hx, hend⟩ :=
      exists_span hplace h
    refine ⟨hset, fun n' hplace' hsame ↦ hset n' hplace' ((Diagram.drawsNote_congr hsame).trans hn)
      (Diagram.targetColumns_congr hsame), (isOverTargets_iff hplace h).2 (.inl hspacing),
      ⟨first, hfirst, ?_⟩, ⟨last, hlast, ?_⟩⟩
    · obtain ⟨p, hp, hheader, -⟩ := Layout.exists_shapeOf?_eq_some (s := s) hlow
      exact ⟨p, hp, hheader.trans hx.symm⟩
    · obtain ⟨p, hp, -, hheader⟩ := Layout.exists_shapeOf?_eq_some (s := s) hhigh
      exact ⟨p, hp, hheader.trans hend.symm⟩
  · have hne : n.targets ≠ [] := fun hnil ↦ by
      rw [noteExtent?_eq_none_iff.2 (.inl hnil)] at h
      cases h
    obtain ⟨c, hc⟩ := exists_column?_of_noteExtent? h _ (List.head_mem hne)
    have hid : n.targets.head hne ∈ n.targets.head? := List.head?_eq_some_head hne
    refine ⟨n.targets.head hne, c, hid, hc, fun n' hplace' hn' hid' ↦ ?_⟩
    obtain ⟨extent, hextent⟩ := hdrawn n' hn'
    rw [hextent, noteExtent?_rightOf_eq_mirrored hplace hplace' hid hid' hc h hextent]

end

/-- Two notes over the same participants, named in another order and number, in a diagram in which
a name stands twice; and notes on both sides of a column. -/
theorem note_spans_targets_in_any_order :
    let d : Diagram := ⟨[⟨"a", "A"⟩, ⟨"b", "B"⟩, ⟨"a", "C"⟩, ⟨"c", "D"⟩], [], [], []⟩
    let s : Settings Rat := Settings.standard
    0 ≤ s.spacing ∧
      noteExtent? d s ⟨.across, ["c", "a", "c"], "x"⟩ = some (80, 640) ∧
      noteExtent? d s ⟨.across, ["a", "c"], "y"⟩ = some (80, 640) ∧
      (Layout.ofDiagram d s).IsOverTargets ⟨.across, ["c", "a", "c"], "x"⟩ 80 640 ∧
      noteExtent? d s ⟨.leftOf, ["b"], "x"⟩ = some (100, 150) ∧
      noteExtent? d s ⟨.rightOf, ["b"], "y"⟩ = some (mirrored (s.columnCenter 1) (100, 150)) := by
  intro d s
  have hspacing : 0 ≤ s.spacing := Settings.sizesNonneg_standard.spacing
  have hover : noteExtent? d s ⟨.across, ["c", "a", "c"], "x"⟩ = some (80, 640) := by
    decide +kernel
  have hleft : noteExtent? d s ⟨.leftOf, ["b"], "x"⟩ = some (100, 150) := by
    decide +kernel
  have hsame : ∀ id, id ∈ ["a", "c"] ↔ id ∈ ["c", "a", "c"] := by
    simp only [List.mem_cons, List.not_mem_nil, or_false]
    tauto
  obtain ⟨-, hset, hheaders, -⟩ := ((note_spans_targets d s hspacing _).2 80 640 hover).1 rfl
  obtain ⟨id, c, hid, hc, hmirrored⟩ := ((note_spans_targets d s hspacing _).2 100 150 hleft).2 rfl
  cases hid
  cases hc
  exact ⟨hspacing, hover, hset ⟨.across, ["a", "c"], "y"⟩ rfl hsame, hheaders, hleft,
    hmirrored ⟨.rightOf, ["b"], "y"⟩ rfl (by decide) rfl⟩

end SequenceChart
