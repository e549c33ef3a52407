import SequenceChart.Proofs.Diagram.Readable
import SequenceChart.Proofs.Loops.Nesting

/-!
# What the strings of a diagram hold

The characters that no XML document can hold are taken out of a source before it is cut into lines,
and everything in a diagram is cut out of a line.  So no name, label or text that is read has such a
character, however deep it was buried in the line.  The way from the line to the diagram is that of
`isReadable_of_mem_statements`; here it is followed to the end, loops and their members included.

## Main definitions

* `Diagram.strings` — all names, labels and texts of a diagram.

## Main statements

* `isXmlText_of_mem_strings` — XML can hold every string that is read.
-/

set_option autoImplicit false
namespace SequenceChart

/-! ## Strings -/

/-- The strings of a participant. -/
def Participant.strings (p : Participant) : List String :=
  [p.id, p.label]

/-- The strings of a message. -/
def Message.strings (m : Message) : List String :=
  [m.sender, m.receiver, m.text]

/-- The strings of a note. -/
def Note.strings (n : Note) : List String :=
  n.text :: n.targets

/-- The strings of a loop, its members included. -/
def Loop.strings (l : Loop) : List String :=
  l.label :: l.members.flatMap Message.strings

/-- The strings of a diagram. -/
def Diagram.strings (d : Diagram) : List String :=
  d.participants.flatMap Participant.strings ++ d.messages.flatMap Message.strings ++
    d.notes.flatMap Note.strings ++ d.loops.flatMap Loop.strings

/-! ## Readable parts -/

theorem IsPlain.isXmlText {s : String} (h : IsPlain s.toList) : isXmlText s = true :=
  List.all_eq_true.2 fun c hc ↦ (h c hc).1

theorem Participant.IsReadable.isXmlText {p : Participant} (h : p.IsReadable) :
    ∀ t ∈ p.strings, isXmlText t = true := by
  rw [strings, List.forall_mem_cons, List.forall_mem_singleton]
  exact ⟨h.id.plain.isXmlText, h.label.plain.isXmlText⟩

theorem Message.IsReadable.isXmlText {m : Message} (h : m.IsReadable) :
    ∀ t ∈ m.strings, isXmlText t = true := by
  rw [strings, List.forall_mem_cons, List.forall_mem_cons, List.forall_mem_singleton]
  exact ⟨h.sender.plain.isXmlText, h.receiver.plain.isXmlText, h.text.plain.isXmlText⟩

theorem Note.IsReadable.isXmlText {n : Note} (h : n.IsReadable) :
    ∀ t ∈ n.strings, isXmlText t = true := by
  rw [strings, List.forall_mem_cons]
  exact ⟨h.text.plain.isXmlText, fun t ht ↦ (h.target t ht).1.plain.isXmlText⟩

/-! ## The loops of a source -/

variable {text : String}

/-- The label of a loop is that of an open loop or of a loop line. -/
theorem label_of_mem_loopsFrom {opened : List OpenLoop} {sent : Nat} {ss : List Statement} :
    ∀ l ∈ loopsFrom opened sent ss,
      (∃ o ∈ opened, o.label = l.label) ∨ .openLoop l.label ∈ ss := by
  induction ss generalizing opened sent with
  | nil =>
    intro l hl
    obtain ⟨o, ho, rfl⟩ := List.mem_map.1 hl
    exact .inl ⟨o, ho, rfl⟩
  | cons s ss ih =>
    cases s with
    | openLoop label =>
      intro l hl
      rcases ih l hl with ⟨o, ho, hlabel⟩ | hmem
      · rcases List.mem_cons.1 ho with rfl | ho
        · exact .inr (by simp [← hlabel])
        · exact .inl ⟨o, ho, hlabel⟩
      · exact .inr (List.mem_cons_of_mem _ hmem)
    | closeLoop =>
      intro l hl
      cases opened with
      | nil => exact (ih l hl).imp_right (List.mem_cons_of_mem _)
      | cons inner outer =>
        rcases List.mem_cons.1 hl with rfl | hl
        · exact .inl ⟨inner, List.mem_cons_self .., rfl⟩
        · rcases ih l hl with ⟨o, ho, hlabel⟩ | hmem
          · exact .inl ⟨o, List.mem_cons_of_mem _ ho, hlabel⟩
          · exact .inr (List.mem_cons_of_mem _ hmem)
    | message m =>
      intro l hl
      rcases ih l hl with ⟨o, ho, hlabel⟩ | hmem
      · obtain ⟨o', ho', rfl⟩ := List.mem_map.1 ho
        exact .inl ⟨o', ho', hlabel⟩
      · exact .inr (List.mem_cons_of_mem _ hmem)
    | participant | note | comment | unrecognized =>
      exact fun l hl ↦ (ih l hl).imp_right (List.mem_cons_of_mem _)

theorem isField_label_of_mem_loops {l : Loop} (h : l ∈ (Diagram.ofText text).loops) :
    IsField l.label := by
  rw [Diagram.loops_ofText] at h
  rcases label_of_mem_loopsFrom l h with ⟨o, ho, -⟩ | hmem
  · exact absurd ho List.not_mem_nil
  · exact isReadable_of_mem_statements hmem

/-- A loop that is read agrees with the messages. -/
theorem isSlice_of_mem_loops {l : Loop} (h : l ∈ (Diagram.ofText text).loops) :
    l.IsSlice (Diagram.ofText text).messages := by
  obtain ⟨ss, hb, hloops, hmessages⟩ := exists_balanced_loops_eq text
  rw [hloops] at h
  simpa [hmessages] using hb.isSlice stacked_nil rfl l h

theorem Loop.IsSlice.subset {messages : List Message} {l : Loop} (h : l.IsSlice messages) :
    ∀ m ∈ l.members, m ∈ messages := by
  intro m hm
  rw [h.members_eq] at hm
  exact List.mem_of_mem_take (List.mem_of_mem_drop hm)

/-- **XML can hold every string that is read.** -/
theorem isXmlText_of_mem_strings {t : String} (h : t ∈ (Diagram.ofText text).strings) :
    isXmlText t = true := by
  have hmessage : ∀ m ∈ (Diagram.ofText text).messages, ∀ t ∈ m.strings, isXmlText t = true :=
    fun m hm ↦ (isReadable_of_mem_messages hm).isXmlText
  rw [Diagram.strings, List.mem_append, List.mem_append, List.mem_append] at h
  rcases h with ((h | h) | h) | h
  · obtain ⟨p, hp, ht⟩ := List.mem_flatMap.1 h
    exact (isReadable_of_mem_participants hp).isXmlText t ht
  · obtain ⟨m, hm, ht⟩ := List.mem_flatMap.1 h
    exact hmessage m hm t ht
  · obtain ⟨n, hn, ht⟩ := List.mem_flatMap.1 h
    exact (isReadable_of_mem_notes hn).isXmlText t ht
  · obtain ⟨l, hl, ht⟩ := List.mem_flatMap.1 h
    rcases List.mem_cons.1 ht with rfl | ht
    · exact (isField_label_of_mem_loops hl).plain.isXmlText
    · obtain ⟨m, hm, ht⟩ := List.mem_flatMap.1 ht
      exact hmessage m ((isSlice_of_mem_loops hl).subset m hm) t ht

end SequenceChart
