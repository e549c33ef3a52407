import SequenceChart.Proofs.Layout.Spans

/-!
# Arrows between lifelines

A lifeline is a narrow box.  It is placed by its left edge, half its width to the left of the middle
of the column, while the arrows of messages begin and end in the middle itself.  So an arrow meets
the lifelines of its ends halfway across, whatever the measures are, and there it is below the
middles of their headers.  Which lifelines these are is decided by name: the first participant with
the name of the sender and the first with that of the receiver.

The row of an arrow is the position of its message among all messages.  One that is not drawn leaves
its row empty, so two arrows are as far apart as their messages are in the diagram, and if rows
follow one another downwards the picture shows the messages in their order.

## Main definitions

* `ParticipantShape.IsMetAt` — that something stands halfway across a lifeline and its header.

## Main statements

* `Layout.exists_isMetAt` — the middle of a column is halfway across the lifeline of its name.
* `Layout.source_sub_source` — how far two arrows are apart.
* `arrows_join_lifelines` — where the arrows of a picture are.
-/

set_option autoImplicit false
namespace SequenceChart

/-- A place is halfway across the lifeline of a participant, and halfway across its header. -/
structure ParticipantShape.IsMetAt (p : ParticipantShape Rat) (x : Rat) : Prop where
  /-- It is in the middle of the lifeline. -/
  lifeline : x = p.lifeline.x + p.lifeline.width / 2
  /-- It is in the middle of the header. -/
  header : x = p.header.x + p.header.width / 2

section

variable {d : Diagram} {s : Settings Rat}

/-! ## Across -/

/-- The middle of a column is halfway across what is drawn in the column. -/
theorem isMetAt_placeParticipant (s : Settings Rat) (p : Participant) (i : Nat) :
    (placeParticipant s p i).IsMetAt (s.columnCenter i) := by
  have htwo : (2.0 : Rat) = 2 := by norm_num
  constructor
  · show s.columnCenter i = s.columnCenter i - s.lifelineWidth / 2.0 + s.lifelineWidth / 2
    rw [htwo, sub_add_cancel]
  · show s.columnX i + s.headerWidth / 2.0 = s.columnX i + s.headerWidth / 2
    rw [htwo]

namespace Layout

/-- **The middle of a column** is halfway across the lifeline of the first participant with the name
that the column stands for. -/
theorem exists_isMetAt {id : String} {c : Nat} (hc : d.column? id = some c) :
    ∃ p ∈ (ofDiagram d s).shapeOf? id,
      IsLeast (d.positions id) p.index ∧ p.IsMetAt (s.columnCenter c) := by
  have hindex := index_shapeOf? d s id
  rw [hc, Option.map_eq_some_iff] at hindex
  obtain ⟨p, hp, rfl⟩ := hindex
  obtain ⟨q, i, -, rfl⟩ := exists_of_mem_participants (List.mem_of_find?_eq_some hp)
  exact ⟨_, hp, column?_eq_some_iff.1 hc, isMetAt_placeParticipant s q i⟩

/-! ## Down -/

variable {m n : MessageShape Rat} (hm : m ∈ (ofDiagram d s).messages)

include hm

/-- An arrow is in the row of its message from one end to the other. -/
theorem ends_in_row :
    m.source.y = s.messageY m.index ∧ m.target.y = s.messageY m.index := by
  obtain ⟨a, b, -, hsource, htarget⟩ := exists_ends?_of_mem_messages hm
  rw [hsource, htarget]
  exact ⟨rfl, rfl⟩

/-- **Two arrows are as many rows apart** as their messages are in the diagram. -/
theorem source_sub_source (hn : n ∈ (ofDiagram d s).messages) :
    n.source.y - m.source.y = ((n.index : Rat) - m.index) * s.messageStep := by
  rw [(ends_in_row hm).1, (ends_in_row hn).1, Settings.messageY, Settings.messageY]
  push_cast
  ring

/-- An arrow is above the arrows of later messages, and of no others. -/
theorem source_lt_source_iff (hstep : 0 < s.messageStep) (hn : n ∈ (ofDiagram d s).messages) :
    m.source.y < n.source.y ↔ m.index < n.index := by
  rw [← sub_pos, source_sub_source hm hn, mul_pos_iff_of_pos_right hstep, sub_pos, Nat.cast_lt]

end Layout
end

/-! ## The arrows of a picture -/

/-- **Arrows join lifelines, in the order of the messages.**  The arrows of a picture are those of
the messages with both ends declared, in order.  Each is level; it begins in the middle of the
lifeline of its sender, and so below the middle of the header, and it ends in the middle of the
lifeline of its receiver.  A name that stands for several participants is the first of them.

Two arrows are as many rows apart as their messages are in the diagram, whether or not the messages
between them are drawn.  If rows follow one another downwards, an arrow is above another one exactly
if its message comes first. -/
theorem arrows_join_lifelines (d : Diagram) (s : Settings Rat) :
    let picture := Layout.ofDiagram d s
    picture.messages.map (fun m ↦ (m.message, m.index)) =
        d.messages.zipIdx.filter (fun p ↦ d.drawsMessage p.1) ∧
      (∀ m ∈ picture.messages,
        (∃ p ∈ picture.shapeOf? m.message.sender,
          IsLeast (d.positions m.message.sender) p.index ∧ p.IsMetAt m.source.x) ∧
        (∃ p ∈ picture.shapeOf? m.message.receiver,
          IsLeast (d.positions m.message.receiver) p.index ∧ p.IsMetAt m.target.x) ∧
        m.source.y = m.target.y) ∧
      ∀ m ∈ picture.messages, ∀ n ∈ picture.messages,
        n.source.y - m.source.y = ((n.index : Rat) - m.index) * s.messageStep ∧
          (0 < s.messageStep → (m.source.y < n.source.y ↔ m.index < n.index)) := by
  refine ⟨Layout.parts_messages d s, fun m hm ↦ ?_, fun m hm n hn ↦
    ⟨Layout.source_sub_source hm hn, fun hstep ↦ Layout.source_lt_source_iff hm hstep hn⟩⟩
  obtain ⟨a, b, hends, hsource, htarget⟩ := Layout.exists_ends?_of_mem_messages hm
  obtain ⟨hsender, hreceiver⟩ := ends?_eq_some_iff.1 hends
  rw [hsource, htarget]
  exact ⟨Layout.exists_isMetAt hsender, Layout.exists_isMetAt hreceiver, rfl⟩

/-- The first and the last of four messages, with two between them that go to nobody, at measures of
which none is standard; the name of one end stands twice in the diagram. -/
theorem arrows_join_lifelines_across_gap :
    let d : Diagram :=
      { participants := [⟨"a", "A"⟩, ⟨"b", "B"⟩, ⟨"a", "C"⟩]
        messages := [⟨"a", "b", "x", .solid⟩, ⟨"a", "z", "y", .solid⟩, ⟨"z", "b", "y", .solid⟩,
          ⟨"b", "a", "x", .lost⟩]
        notes := []
        loops := [] }
    let s : Settings Rat := { Settings.standard with
      spacing := -7, headerWidth := 5, lifelineWidth := 3, messageStep := 1 / 3 }
    let picture := Layout.ofDiagram d s
    ∃ m ∈ picture.messages, ∃ n ∈ picture.messages, m.index = 0 ∧ n.index = 3 ∧
      n.source.y - m.source.y = 1 ∧ 0 < s.messageStep ∧ m.source.y < n.source.y ∧
        ∃ p ∈ picture.shapeOf? "a", p.index = 0 ∧ p.IsMetAt m.source.x ∧ p.IsMetAt n.target.x := by
  intro d s picture
  obtain ⟨-, hends, hrows⟩ := arrows_join_lifelines d s
  have hm := Layout.mem_messages_of_ends? (d := d) (s := s) (i := 0)
    (m := ⟨"a", "b", "x", .solid⟩) (a := 0) (b := 1) rfl rfl
  have hn := Layout.mem_messages_of_ends? (d := d) (s := s) (i := 3)
    (m := ⟨"b", "a", "x", .lost⟩) (a := 1) (b := 0) rfl rfl
  obtain ⟨⟨p, hp, hfirst, hmiddle⟩, -⟩ := hends _ hm
  obtain ⟨-, ⟨q, hq, -, hmiddle'⟩, -⟩ := hends _ hn
  obtain rfl : p = q := Option.some.inj (hp.symm.trans hq)
  have hstep : 0 < s.messageStep := by norm_num [s]
  obtain ⟨hdistance, horder⟩ := hrows _ hm _ hn
  refine ⟨_, hm, _, hn, rfl, rfl, hdistance.trans (by norm_num [s]), hstep,
    (horder hstep).2 (by decide), p, hp, ?_, hmiddle, hmiddle'⟩
  exact hfirst.unique (column?_eq_some_iff.1 rfl)

end SequenceChart
