import SequenceChart.Proofs.Diagram.Appending
import SequenceChart.Proofs.Layout.Bounds
import Mathlib.Data.List.Nodup

/-!
# Names and columns

Participants are drawn in columns, and messages, loops and notes find theirs by name.  In a diagram
that is read from text a name belongs to one participant, the one that declares it first, so the
column of a name and the name of a column determine each other.  In a diagram that is built directly
a name may stand at several positions.  All of them are drawn, but whatever refers to the name is
drawn at the first: the messages, the loops around them and the notes agree on it, since they all
resolve their names by `Diagram.column?`.

## Main definitions

* `declarations` — the participants that the lines of a source declare, in order.
* `Diagram.Resolves` — that names stand for columns, each for its first position.
* `Diagram.touchedBy` — the names at the ends of the messages of a loop that are drawn.

## Main statements

* `resolves_iff_mapM_column?` — what names stand for is computed name by name.
* `Layout.mem_messages_iff_resolves`, `Layout.mem_loops_iff_resolves`,
  `Layout.exists_mem_notes_iff_resolves` — what is drawn, and in which columns.
* `names_resolve_to_columns` — the participants of a source, and what is drawn in their columns.
-/

set_option autoImplicit false
namespace SequenceChart

/-! ## The participants of a source -/

/-- The participants that the lines of a source declare, in order. -/
def declarations (text : String) : List Participant :=
  (statements text).filterMap Statement.declared?

section

variable (text : String)

theorem nodup_ids_ofText : ((Diagram.ofText text).participants.map (·.id)).Nodup :=
  List.pairwise_map.2 (pairwise_participants_ofText text)

/-- A participant is what the first line that declares its name says. -/
theorem find?_declarations {p : Participant} (hp : p ∈ (Diagram.ofText text).participants) :
    (declarations text).find? (·.id == p.id) = some p := by
  rw [declarations, ← find?_firstDeclared, ← Diagram.participants_ofText]
  cases hq : (Diagram.ofText text).participants.find? (·.id == p.id) with
  | none => exact absurd BEq.rfl (List.find?_eq_none.1 hq p hp)
  | some q =>
    have hid : q.id = p.id := by simpa using List.find?_some hq
    exact congrArg some
      (List.inj_on_of_nodup_map (nodup_ids_ofText text) (List.mem_of_find?_eq_some hq) hp hid)

/-- **Names and columns of a source determine each other.** -/
theorem column?_ofText_eq_some_iff {id : String} {i : Nat} :
    (Diagram.ofText text).column? id = some i ↔
      ∃ p, (Diagram.ofText text).participants[i]? = some p ∧ p.id = id := by
  constructor
  · exact fun h ↦ (column?_eq_some_iff.1 h).1
  · rintro ⟨p, hp, rfl⟩
    exact column?_of_pairwise (pairwise_participants_ofText text) hp

theorem column?_ofText_eq_none_iff {id : String} :
    (Diagram.ofText text).column? id = none ↔ ∀ p ∈ declarations text, p.id ≠ id := by
  rw [← Option.isNone_iff_eq_none, column?_ofText_isNone, List.all_eq_true]
  exact forall₂_congr fun _ _ ↦ bne_iff_ne

end

/-! ## What names stand for -/

namespace Diagram

/-- Names stand for columns if each of the columns is the first position of its name. -/
def Resolves (d : Diagram) (ids : List String) (columns : List Nat) : Prop :=
  List.Forall₂ (fun id c ↦ IsLeast (d.positions id) c) ids columns

/-- The names at the ends of the messages of a loop that are drawn. -/
def touchedBy (d : Diagram) (l : Loop) : List String :=
  (l.members.filter d.drawsMessage).flatMap fun m ↦ [m.sender, m.receiver]

end Diagram

section

variable {d : Diagram}

/-- **What names stand for** is computed name by name. -/
theorem resolves_iff_mapM_column? {ids : List String} {columns : List Nat} :
    d.Resolves ids columns ↔ ids.mapM d.column? = some columns := by
  simp only [Diagram.Resolves, mapM_eq_some_iff, column?_eq_some_iff]

theorem resolves_unique {ids : List String} {columns columns' : List Nat}
    (h : d.Resolves ids columns) (h' : d.Resolves ids columns') : columns = columns' :=
  Option.some.inj ((resolves_iff_mapM_column?.1 h).symm.trans (resolves_iff_mapM_column?.1 h'))

/-- The columns between which a message goes. -/
theorem resolves_iff_ends? {m : Message} {a b : Nat} :
    d.Resolves [m.sender, m.receiver] [a, b] ↔ d.ends? m = some (a, b) := by
  rw [Diagram.Resolves, List.forall₂_cons, List.forall₂_cons, ends?_eq_some_iff,
    column?_eq_some_iff, column?_eq_some_iff]
  exact and_congr_right fun _ ↦ and_iff_left .nil

/-- **A loop reaches across the columns** of the names that it touches. -/
theorem resolves_touchedBy (l : Loop) :
    d.Resolves (d.touchedBy l) ((l.members.filterMap d.ends?).flatMap fun (a, b) ↦ [a, b]) := by
  rw [Diagram.touchedBy]
  induction l.members with
  | nil => exact .nil
  | cons m members ih =>
    rw [List.filter_cons, ← isSome_ends?, List.filterMap_cons]
    cases hends : d.ends? m with
    | none => exact ih
    | some ends =>
      obtain ⟨a, b⟩ := ends
      exact List.rel_append (resolves_iff_ends?.2 hends) ih

variable {α : Type} [Scalar α] {s : Settings α}

theorem loopCenters_eq_map {l : Loop} {columns : List Nat}
    (h : d.Resolves (d.touchedBy l) columns) :
    loopCenters d s l = columns.map fun c : Nat ↦ s.columnCenter c := by
  rw [resolves_unique h (resolves_touchedBy l), loopCenters, List.map_flatMap]
  rfl

/-! ## What is drawn in a column -/

namespace Layout

/-- The column of a name is drawn, and it is drawn for that name. -/
theorem exists_header_of_isLeast {id : String} {c : Nat} (h : IsLeast (d.positions id) c) :
    ∃ p ∈ (ofDiagram d s).participants, p.index = c ∧ p.participant.id = id ∧
      p.header.x = s.columnX c := by
  obtain ⟨p, hp, hid⟩ := h.1
  exact ⟨placeParticipant s p c, placeParticipant_mem hp, rfl, hid, rfl⟩

/-- **A message is drawn** between the columns of its ends, if they have columns. -/
theorem mem_messages_iff_resolves {m : MessageShape α} :
    m ∈ (ofDiagram d s).messages ↔ d.messages[m.index]? = some m.message ∧
      ∃ a b, d.Resolves [m.message.sender, m.message.receiver] [a, b] ∧
        m.source = ⟨s.columnCenter a, s.messageY m.index⟩ ∧
          m.target = ⟨s.columnCenter b, s.messageY m.index⟩ := by
  constructor
  · intro hm
    obtain ⟨a, b, hends, hsource, htarget⟩ := exists_ends?_of_mem_messages hm
    exact ⟨getElem?_of_mem_messages d s hm, a, b, resolves_iff_ends?.2 hends, hsource, htarget⟩
  · rintro ⟨hm, a, b, hresolves, hsource, htarget⟩
    have hmem := mem_messages_of_ends? (s := s) hm (resolves_iff_ends?.1 hresolves)
    rwa [← hsource, ← htarget] at hmem

/-- **A loop is drawn** across the columns of the names that it touches, if there are any. -/
theorem mem_loops_iff_resolves {f : LoopShape α} :
    f ∈ (ofDiagram d s).loops ↔ d.loops[f.index]? = some f.loop ∧ f.loop.first ≤ f.loop.last ∧
      ∃ (c : Nat) (rest : List Nat), d.Resolves (d.touchedBy f.loop) (c :: rest) ∧
        f.frame = frameAround s f.loop
          (Scalar.least (s.columnCenter c) (rest.map fun c : Nat ↦ s.columnCenter c))
          (Scalar.greatest (s.columnCenter c) (rest.map fun c : Nat ↦ s.columnCenter c)) := by
  have hcolumns := resolves_touchedBy (d := d) f.loop
  constructor
  · intro hf
    obtain ⟨x, xs, hcenters, hle, hframe⟩ := exists_frame_eq hf
    rw [loopCenters_eq_map hcolumns, List.map_eq_cons_iff] at hcenters
    obtain ⟨c, rest, heq, rfl, rfl⟩ := hcenters
    exact ⟨getElem?_of_mem_loops d s hf, hle, c, rest, heq ▸ hcolumns, hframe⟩
  · rintro ⟨hf, hle, c, rest, hresolves, hframe⟩
    have hnonempty : f.loop.isEmpty = false := by simpa [Loop.isEmpty] using hle
    have hdrawn : loopFrame? d s f.loop = some f.frame := by
      rw [loopFrame?, hnonempty, loopCenters_eq_map hresolves, List.map_cons, hframe]
      rfl
    rw [ofDiagram, List.mem_mergeSort]
    refine mem_filterMap_drawn?_iff.2 ⟨f.loop, f.index, hf, ?_⟩
    rw [placeLoop, hdrawn]

/-- A note that is drawn has the extent that its targets give it. -/
theorem noteExtent?_of_mem_placeNotes {y : α} {notes : List (Note × Nat)} {n : NoteShape α}
    (hn : n ∈ (placeNotes d s y notes).filterMap Placed.drawn?) :
    noteExtent? d s n.note = some (n.frame.x, n.frame.width) := by
  induction notes generalizing y with
  | nil => cases hn
  | cons p notes ih =>
    obtain ⟨note, i⟩ := p
    rw [placeNotes] at hn
    cases hextent : noteExtent? d s note with
    | none =>
      rw [hextent] at hn
      exact ih hn
    | some extent =>
      rw [hextent] at hn
      rcases List.mem_cons.1 hn with rfl | hn
      · exact hextent
      · exact ih hn

/-- A note over participants reaches across the columns of its targets, and a note at a side is
beside the column of the first. -/
theorem exists_resolves_of_mem_notes {n : NoteShape α} (hn : n ∈ (ofDiagram d s).notes) :
    ∃ (c : Nat) (rest : List Nat), d.Resolves n.note.targets (c :: rest) ∧
      match n.note.place with
      | .across => n.frame.x = s.columnX (rest.foldl min c : Nat) ∧ n.frame.width =
          (((rest.foldl max c : Nat) : Int) - (rest.foldl min c : Nat) : Int) * s.spacing +
            s.headerWidth
      | .rightOf => n.frame.x = s.columnX c + s.sideNoteOffset ∧ n.frame.width = s.sideNoteWidth
      | .leftOf => n.frame.x = s.columnX c + s.headerWidth - s.sideNoteOffset - s.sideNoteWidth ∧
          n.frame.width = s.sideNoteWidth := by
  obtain ⟨c, rest, hcolumns, hplace⟩ :=
    exists_of_noteExtent?_eq_some (noteExtent?_of_mem_placeNotes hn)
  refine ⟨c, rest, resolves_iff_mapM_column?.2 hcolumns, ?_⟩
  rcases hplace with ⟨hplace, hextent⟩ | ⟨hplace, hextent⟩ | ⟨hplace, hextent⟩ <;>
    rw [hplace] <;> exact hextent

/-- **A note is drawn** if it has targets and all of them have columns. -/
theorem exists_mem_notes_iff_resolves {i : Nat} :
    (∃ n ∈ (ofDiagram d s).notes, n.index = i) ↔ ∃ n, d.notes[i]? = some n ∧
      ∃ (c : Nat) (rest : List Nat), d.Resolves n.targets (c :: rest) := by
  constructor
  · rintro ⟨n, hn, rfl⟩
    obtain ⟨c, rest, hresolves, -⟩ := exists_resolves_of_mem_notes hn
    exact ⟨n.note, getElem?_of_mem_notes d s hn, c, rest, hresolves⟩
  · rintro ⟨n, hn, c, rest, hresolves⟩
    have hdraws : d.drawsNote n = true := by
      have htargets : n.targets ≠ [] := by
        rintro hnil
        rw [hnil] at hresolves
        cases hresolves
      rw [Diagram.drawsNote, ← isSome_mapM_column?, resolves_iff_mapM_column?.1 hresolves]
      simpa using htargets
    have hmem : (n, i) ∈ (ofDiagram d s).notes.map fun n ↦ (n.note, n.index) := by
      rw [parts_notes]
      exact List.mem_filter.2 ⟨List.mk_mem_zipIdx_iff_getElem?.2 hn, hdraws⟩
    obtain ⟨shape, hshape, heq⟩ := List.mem_map.1 hmem
    exact ⟨shape, hshape, congrArg Prod.snd heq⟩

end Layout
end

/-! ## Names, participants and columns -/

/-- **The participants of a source** are its declarations in order, without those in front of which
their name is declared already: names are different, and each has the label of its first
declaration.  The column of a name is its position among them, and the names without a column are
those that no line declares.

**In any diagram**, also where a name stands at several positions, the column of a name is the first
of them.  This is a column that is drawn for the name, and it is the one in which messages, loops
and notes find it. -/
theorem names_resolve_to_columns (text : String) (d : Diagram) {α : Type} [Scalar α]
    (s : Settings α) :
    ((Diagram.ofText text).participants = ((declarations text).zipIdx.filter fun p ↦
        ((declarations text).take p.2).all (·.id != p.1.id)).map Prod.fst ∧
      ((Diagram.ofText text).participants.map (·.id)).Nodup ∧
      (∀ p ∈ (Diagram.ofText text).participants,
        (declarations text).find? (·.id == p.id) = some p) ∧
      (∀ id i, (Diagram.ofText text).column? id = some i ↔
        ∃ p, (Diagram.ofText text).participants[i]? = some p ∧ p.id = id) ∧
      ∀ id, (Diagram.ofText text).column? id = none ↔ ∀ p ∈ declarations text, p.id ≠ id) ∧
    (∀ id c, d.column? id = some c ↔ IsLeast (d.positions id) c) ∧
    (∀ id c, IsLeast (d.positions id) c → ∃ p ∈ (Layout.ofDiagram d s).participants,
      p.index = c ∧ p.participant.id = id ∧ p.header.x = s.columnX c) ∧
    (∀ m, m ∈ (Layout.ofDiagram d s).messages ↔ d.messages[m.index]? = some m.message ∧
      ∃ a b, d.Resolves [m.message.sender, m.message.receiver] [a, b] ∧
        m.source = ⟨s.columnCenter a, s.messageY m.index⟩ ∧
          m.target = ⟨s.columnCenter b, s.messageY m.index⟩) ∧
    (∀ f, f ∈ (Layout.ofDiagram d s).loops ↔ d.loops[f.index]? = some f.loop ∧
      f.loop.first ≤ f.loop.last ∧ ∃ (c : Nat) (rest : List Nat),
        d.Resolves (d.touchedBy f.loop) (c :: rest) ∧ f.frame = frameAround s f.loop
          (Scalar.least (s.columnCenter c) (rest.map fun c : Nat ↦ s.columnCenter c))
          (Scalar.greatest (s.columnCenter c) (rest.map fun c : Nat ↦ s.columnCenter c))) ∧
    (∀ i, (∃ n ∈ (Layout.ofDiagram d s).notes, n.index = i) ↔ ∃ n, d.notes[i]? = some n ∧
      ∃ (c : Nat) (rest : List Nat), d.Resolves n.targets (c :: rest)) ∧
    ∀ n ∈ (Layout.ofDiagram d s).notes, ∃ (c : Nat) (rest : List Nat),
      d.Resolves n.note.targets (c :: rest) ∧
        match n.note.place with
        | .across => n.frame.x = s.columnX (rest.foldl min c : Nat) ∧ n.frame.width =
            (((rest.foldl max c : Nat) : Int) - (rest.foldl min c : Nat) : Int) * s.spacing +
              s.headerWidth
        | .rightOf => n.frame.x = s.columnX c + s.sideNoteOffset ∧ n.frame.width = s.sideNoteWidth
        | .leftOf => n.frame.x = s.columnX c + s.headerWidth - s.sideNoteOffset - s.sideNoteWidth ∧
            n.frame.width = s.sideNoteWidth := by
  refine ⟨⟨?_, nodup_ids_ofText text, fun p ↦ find?_declarations text, fun id i ↦ ?_, fun id ↦ ?_⟩,
    fun id c ↦ column?_eq_some_iff, fun id c ↦ Layout.exists_header_of_isLeast,
    fun m ↦ Layout.mem_messages_iff_resolves, fun f ↦ Layout.mem_loops_iff_resolves,
    fun i ↦ Layout.exists_mem_notes_iff_resolves, fun n ↦ Layout.exists_resolves_of_mem_notes⟩
  · exact (Diagram.participants_ofText text).trans (firstDeclared_eq_filter _)
  · exact column?_ofText_eq_some_iff text
  · exact column?_ofText_eq_none_iff text

/-- A name that is declared again in a source, and one that stands twice in a diagram. -/
theorem names_resolve_to_columns_declared_again :
    (Diagram.ofText "participant A as a\nparticipant A\nparticipant B").column? "B" = some 1 ∧
      ∃ d : Diagram, ¬ (d.participants.map (·.id)).Nodup ∧
        ∃ m ∈ (Layout.ofDiagram d (Settings.standard : Settings Rat)).messages,
          m.message.receiver = "A" ∧
          m.target.x = (Settings.standard : Settings Rat).columnCenter 0 ∧
          ∃ n ∈ (Layout.ofDiagram d (Settings.standard : Settings Rat)).notes, n.index = 0 := by
  let d : Diagram :=
    { participants := [⟨"A", "a"⟩, ⟨"B", "b"⟩, ⟨"A", "c"⟩]
      messages := [⟨"B", "A", "x", .solid⟩]
      notes := [⟨.across, ["A"], "y"⟩]
      loops := [] }
  obtain ⟨⟨hparticipants, -, -, hcolumn, -⟩, hleast, -, hmessages, -, hnotes, -⟩ :=
    names_resolve_to_columns "participant A as a\nparticipant A\nparticipant B" d
      (Settings.standard : Settings Rat)
  have hA : IsLeast (d.positions "A") 0 := (hleast "A" 0).1 (by decide)
  have hB : IsLeast (d.positions "B") 1 := (hleast "B" 1).1 (by decide)
  refine ⟨(hcolumn "B" 1).2 ⟨⟨"B", "B"⟩, ?_, rfl⟩, d, by decide, ?_⟩
  · rw [hparticipants]
    decide +kernel
  · have hmessage := (hmessages ⟨0, ⟨"B", "A", "x", .solid⟩,
      ⟨Settings.standard.columnCenter 1, Settings.standard.messageY 0⟩,
      ⟨Settings.standard.columnCenter 0, Settings.standard.messageY 0⟩⟩).2
        ⟨rfl, 1, 0, .cons hB (.cons hA .nil), rfl, rfl⟩
    exact ⟨_, hmessage, rfl, rfl, (hnotes 0).2 ⟨_, rfl, 0, [], .cons hA .nil⟩⟩

end SequenceChart
