import SequenceChart.Layout.Picture
import SequenceChart.Proofs.Diagram.Appending
import SequenceChart.Proofs.Layout.Drawn
import SequenceChart.Proofs.Layout.Extent
import Mathlib.Data.List.Forall2

/-!
# Pictures of sources that grow

A source that is written further makes its diagram longer: participants, messages and notes come
behind those that are there, and only loops may change, since an open one goes on.  What is drawn
stays.  A name that has a column keeps it, for the first declaration counts; a message has the row
of its position, drawn or not, so one that is drawn late finds its row free; and a note can only
move down, because messages come in front of the first note and because a note above it may be drawn
late, which takes up a slot.

The parts are compared by one relation on diagrams, `Diagram.IsBeginningOf`, so that nothing here
depends on how a source is read but the lemma that a source is the beginning of a longer one.

## Main definitions

* `Diagram.IsBeginningOf` — that a diagram goes on as another one.
* `NoteShape.IsMovedDownTo` — that a note is where it was, or below.

## Main statements

* `isBeginningOf_append_newline` — a source and the source written further.
* `Layout.messages_sublist`, `Layout.notes_movedDown` — what is drawn of a diagram that goes on.
* `drawn_append_newline` — text below a source never moves what is drawn.
-/

set_option autoImplicit false
namespace SequenceChart

/-- A diagram goes on as another one: it lacks further participants, messages and notes.  Nothing is
said of loops. -/
structure Diagram.IsBeginningOf (d d' : Diagram) : Prop where
  /-- The participants come first. -/
  participants : d.participants <+: d'.participants
  /-- The messages come first. -/
  messages : d.messages <+: d'.messages
  /-- The notes come first. -/
  notes : d.notes <+: d'.notes

/-- A source is the beginning of the source with text below it. -/
theorem isBeginningOf_append_newline (a b : String) :
    (Diagram.ofText a).IsBeginningOf (Diagram.ofText (a ++ "\n" ++ b)) := by
  rw [Diagram.ofText_eq, Diagram.ofText_eq, statements_append_newline]
  have hstatements := List.prefix_append (statements a) (statements b)
  refine ⟨?_, hstatements.filterMap _, hstatements.filterMap _⟩
  show firstDeclared _ <+: firstDeclared _
  rw [List.filterMap_append, firstDeclared_append]
  exact List.prefix_append _ _

/-! ## Columns -/

section

variable {d d' : Diagram} (h : d.IsBeginningOf d')

include h

/-- A name that has a column keeps it. -/
theorem Diagram.IsBeginningOf.column?_eq_some {id : String} {c : Nat}
    (hc : d.column? id = some c) : d'.column? id = some c := by
  obtain ⟨rest, hrest⟩ := h.participants
  rw [column?] at hc
  rw [column?, ← hrest, List.findIdx?_append, hc]
  rfl

theorem Diagram.IsBeginningOf.ends?_eq_some {m : Message} {ends : Nat × Nat}
    (hm : d.ends? m = some ends) : d'.ends? m = some ends := by
  obtain ⟨hsender, hreceiver⟩ := ends?_eq_some_iff.1 hm
  exact ends?_eq_some_iff.2 ⟨h.column?_eq_some hsender, h.column?_eq_some hreceiver⟩

theorem Diagram.IsBeginningOf.mapM_column?_eq_some {ids : List String} {columns : List Nat}
    (hids : ids.mapM d.column? = some columns) : ids.mapM d'.column? = some columns :=
  mapM_eq_some_iff.2 ((mapM_eq_some_iff.1 hids).imp fun _ _ hc ↦ h.column?_eq_some hc)

end

/-! ## Shapes -/

section

variable {α : Type} [Scalar α] {d d' : Diagram} (h : d.IsBeginningOf d') (s : Settings α)

/-- Of a longer list more may be picked, and more of the same list. -/
theorem filterMap_sublist_of_prefix {β γ : Type} {pick pick' : β → Option γ} {bs bs' : List β}
    (hpick : ∀ b c, pick b = some c → pick' b = some c) (hbs : bs <+: bs') :
    (bs.filterMap pick).Sublist (bs'.filterMap pick') := by
  obtain ⟨rest, rfl⟩ := hbs
  rw [List.filterMap_append]
  refine List.Sublist.trans ?_ (List.sublist_append_left _ _)
  induction bs with
  | nil => exact .slnil
  | cons b bs ih =>
    cases hb : pick b with
    | some c =>
      rw [List.filterMap_cons_some hb, List.filterMap_cons_some (hpick b c hb)]
      exact ih.cons_cons c
    | none =>
      rw [List.filterMap_cons_none hb, ← List.singleton_append, List.filterMap_append]
      exact ih.trans (List.sublist_append_right _ _)

theorem isPrefix_zipIdx {β : Type} {bs bs' : List β} (hbs : bs <+: bs') :
    bs.zipIdx <+: bs'.zipIdx := by
  obtain ⟨rest, rfl⟩ := hbs
  rw [List.zipIdx_append]
  exact List.prefix_append _ _

include h

theorem Layout.isPrefix_participants :
    (ofDiagram d s).participants <+: (ofDiagram d' s).participants :=
  (isPrefix_zipIdx h.participants).map _

/-- **Messages stay where they are drawn**: in between, and behind them, others may be drawn. -/
theorem Layout.messages_sublist :
    (ofDiagram d s).messages.Sublist (ofDiagram d' s).messages := by
  show (List.filterMap _ (List.map _ _)).Sublist (List.filterMap _ (List.map _ _))
  rw [List.filterMap_map, List.filterMap_map]
  refine filterMap_sublist_of_prefix (fun (m, i) shape hshape ↦ ?_) (isPrefix_zipIdx h.messages)
  show (placeMessage d' s m i).drawn? = some shape
  replace hshape : (placeMessage d s m i).drawn? = some shape := hshape
  rw [placeMessage] at hshape
  cases hends : d.ends? m with
  | none =>
    rw [hends] at hshape
    cases hshape
  | some ends =>
    rw [hends] at hshape
    rw [placeMessage, h.ends?_eq_some hends]
    exact hshape

theorem Diagram.IsBeginningOf.noteExtent?_eq_some {n : Note} {extent : α × α}
    (hn : noteExtent? d s n = some extent) : noteExtent? d' s n = some extent := by
  rw [noteExtent?] at hn
  cases hcolumns : n.targets.mapM d.column? with
  | none =>
    rw [hcolumns] at hn
    cases hn
  | some columns =>
    rw [hcolumns] at hn
    rw [noteExtent?, h.mapM_column?_eq_some hcolumns]
    exact hn

end

/-! ## Notes -/

/-- A note is where it was, or below. -/
structure NoteShape.IsMovedDownTo (n n' : NoteShape Rat) : Prop where
  /-- It is the note at the same position, so its cell has the same id. -/
  index : n'.index = n.index
  /-- It is the same note. -/
  note : n'.note = n.note
  /-- It begins at the same column. -/
  x : n'.frame.x = n.frame.x
  /-- It is as wide. -/
  width : n'.frame.width = n.frame.width
  /-- It is as high. -/
  height : n'.frame.height = n.frame.height
  /-- It is no higher up. -/
  y : n.frame.y ≤ n'.frame.y

section

variable {d d' : Diagram} (h : d.IsBeginningOf d') {s : Settings Rat}

include h

/-- **Notes move down only**, if slots follow one another downwards. -/
theorem placeNotes_movedDown (hstep : 0 ≤ s.noteStep) {y y' : Rat} (hy : y ≤ y')
    (notes more : List (Note × Nat)) :
    List.SublistForall₂ NoteShape.IsMovedDownTo
      ((placeNotes d s y notes).filterMap Placed.drawn?)
      ((placeNotes d' s y' (notes ++ more)).filterMap Placed.drawn?) := by
  induction notes generalizing y y' with
  | nil => exact .nil
  | cons p notes ih =>
    obtain ⟨n, i⟩ := p
    rw [List.cons_append, placeNotes, placeNotes]
    cases hextent : noteExtent? d s n with
    | some extent =>
      rw [h.noteExtent?_eq_some s hextent]
      exact .cons ⟨rfl, rfl, rfl, rfl, rfl, hy⟩ (ih (add_le_add_left hy s.noteStep))
    | none =>
      -- the note takes no slot above, and may take one below
      cases noteExtent? d' s n with
      | none => exact ih hy
      | some extent' => exact .cons_right (ih (hy.trans (le_add_of_nonneg_right hstep)))

theorem Layout.notes_movedDown (hmessage : 0 ≤ s.messageStep) (hnote : 0 ≤ s.noteStep) :
    List.SublistForall₂ NoteShape.IsMovedDownTo (ofDiagram d s).notes (ofDiagram d' s).notes := by
  have htop : s.messageY d.messages.length + s.noteGap ≤
      s.messageY d'.messages.length + s.noteGap := by
    have hlength : ((d.messages.length : Int) : Rat) ≤ (d'.messages.length : Int) :=
      Int.cast_le.2 (Int.ofNat_le.2 h.messages.length_le)
    have hrows := mul_le_mul_of_nonneg_right hlength hmessage
    rw [Settings.messageY, Settings.messageY]
    linarith
  obtain ⟨more, hmore⟩ := isPrefix_zipIdx h.notes
  show List.SublistForall₂ _ (List.filterMap _ (placeNotes d s _ _))
    (List.filterMap _ (placeNotes d' s _ _))
  rw [← hmore]
  exact placeNotes_movedDown h hnote htop d.notes.zipIdx more

end

/-- **Text below a source never moves what is drawn.**  At standard measures the participants of the
shorter source come first among those of the longer one; its messages are all there, in order, with
the same ends; and so are its notes, none of them higher up. -/
theorem drawn_append_newline (a b : String) :
    (Diagram.ofText a).picture.participants <+:
        (Diagram.ofText (a ++ "\n" ++ b)).picture.participants ∧
      (Diagram.ofText a).picture.messages.Sublist
        (Diagram.ofText (a ++ "\n" ++ b)).picture.messages ∧
      List.SublistForall₂ NoteShape.IsMovedDownTo (Diagram.ofText a).picture.notes
        (Diagram.ofText (a ++ "\n" ++ b)).picture.notes := by
  have hbegin := isBeginningOf_append_newline a b
  refine ⟨Layout.isPrefix_participants hbegin _, Layout.messages_sublist hbegin _,
    Layout.notes_movedDown hbegin ?_ ?_⟩
  · rw [Settings.standard_eq]
    norm_num
  · rw [Settings.standard_eq]
    norm_num

end SequenceChart
