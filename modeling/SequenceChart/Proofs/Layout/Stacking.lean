import SequenceChart.Proofs.Layout.Extent
import SequenceChart.Proofs.Layout.Nested

/-!
# Notes below the picture

Notes are stacked in the order of the source.  The first slot is below the row that would follow the
last message, and every note that is drawn takes the next one, so its slot is known from the number
of notes drawn before it (`Layout.getElem?_notes`).

Messages are in rows above that.  A frame ends some way below its last row, which is the row of the
last message at the furthest; deeper frames end earlier.  So there is room between the frames and
the notes if what a frame has below its last row is less than a row and the gap above the first
note.  At standard measures that leaves ten pixels.  It is not so for a frame that is widened to
keep it from being turned inside out: it is pushed down with its upper edge.

## Main definitions

* `Settings.KeepsNotesApart` — the measures leave room between notes, and above them.

## Main statements

* `Layout.pairwise_notes` — notes do not overlap.
* `Layout.messageY_lt_of_mem_notes`, `Layout.freeBottom_lt_of_mem_notes` — what is above the notes.
* `notes_stack_below` — the stack of notes at standard measures.
-/

set_option autoImplicit false
namespace SequenceChart

/-- The measures leave room between one note and the next, and between the notes and what is above
them. -/
structure Settings.KeepsNotesApart (s : Settings Rat) : Prop where
  /-- Rows follow one another downwards. -/
  messageStep : 0 ≤ s.messageStep
  /-- Slots follow one another downwards. -/
  noteStep : 0 ≤ s.noteStep
  /-- A note is not as high as its slot. -/
  noteHeight : s.noteHeight < s.noteStep
  /-- The first note is below the row that would follow the last. -/
  noteGap : 0 < s.noteGap
  /-- Frames do not get larger as they get deeper. -/
  nestInset : 0 ≤ s.nestInset
  /-- The outermost frame around the last row ends above the first note. -/
  loopPadBottom : s.loopPadBottom < s.messageStep + s.noteGap

theorem Settings.keepsNotesApart_standard : (standard : Settings Rat).KeepsNotesApart := by
  rw [standard_eq]
  constructor <;> norm_num

section

variable {d : Diagram} {s : Settings Rat} (hs : s.KeepsNotesApart)

include hs

/-- **A note ends above the next one**, and so above all that follow. -/
theorem Layout.pairwise_notes :
    (ofDiagram d s).notes.Pairwise fun a b ↦ a.frame.bottom < b.frame.y := by
  refine List.pairwise_iff_getElem.2 fun i j hi hj hij ↦ ?_
  obtain ⟨x, width, -, hframe⟩ := getElem?_notes (List.getElem?_eq_getElem hi)
  obtain ⟨x', width', -, hframe'⟩ := getElem?_notes (List.getElem?_eq_getElem hj)
  have hslots : ((i : Rat) + 1) * s.noteStep ≤ j * s.noteStep :=
    mul_le_mul_of_nonneg_right (cast_add_one_le hij) hs.noteStep
  have hheight := hs.noteHeight
  rw [hframe, hframe']
  show s.messageY d.messages.length + s.noteGap + i * s.noteStep + s.noteHeight <
    s.messageY d.messages.length + s.noteGap + j * s.noteStep
  linarith

/-- The row that would follow the last message is above all notes. -/
theorem Layout.messageY_add_noteGap_le {n : NoteShape Rat} (hn : n ∈ (ofDiagram d s).notes) :
    s.messageY d.messages.length + s.noteGap ≤ n.frame.y := by
  obtain ⟨k, hk⟩ := List.mem_iff_getElem?.1 hn
  obtain ⟨x, width, -, hframe⟩ := getElem?_notes hk
  rw [hframe]
  exact le_add_of_nonneg_right (mul_nonneg (Nat.cast_nonneg k) hs.noteStep)

/-- **The row of every message is above all notes.** -/
theorem Layout.messageY_lt_of_mem_notes {n : NoteShape Rat} (hn : n ∈ (ofDiagram d s).notes)
    {i : Int} (hi : i ≤ d.messages.length) : s.messageY i < n.frame.y := by
  have hrow := Settings.messageY_le hs.messageStep hi
  have hgap := hs.noteGap
  have hnote := messageY_add_noteGap_le hs hn
  linarith

/-- **Every frame that is not widened ends above all notes.** -/
theorem Layout.freeBottom_lt_of_mem_notes {n : NoteShape Rat} (hn : n ∈ (ofDiagram d s).notes)
    {l : Loop} (hlast : l.last < d.messages.length) (hdepth : 0 ≤ l.depth) :
    s.freeBottom l < n.frame.y := by
  have hrow : s.messageY l.last + s.messageStep ≤ s.messageY d.messages.length := by
    have hnext : s.messageY l.last + s.messageStep = s.messageY (l.last + 1) := by
      rw [Settings.messageY, Settings.messageY]
      push_cast
      ring
    rw [hnext]
    exact Settings.messageY_le hs.messageStep hlast
  have hinset : 0 ≤ l.depth * s.nestInset := mul_nonneg (by exact_mod_cast hdepth) hs.nestInset
  have hpad := hs.loopPadBottom
  have hnote := messageY_add_noteGap_le hs hn
  rw [Settings.freeBottom]
  linarith

end

/-- **Notes stack below the picture** of a source at standard measures.  The notes that are drawn
are in the order of the source, each in the slot after the one before, so that a note that is left
out takes no slot; they do not overlap.  Every note is below every message that is drawn, and below
every frame whose lower edge is where its last row and its depth put it. -/
theorem notes_stack_below (text : String) :
    let d := Diagram.ofText text
    d.picture.notes.map (fun n ↦ (n.note, n.index)) =
        d.notes.zipIdx.filter (fun p ↦ d.drawsNote p.1) ∧
      (∀ (k : Nat) (n : NoteShape Rat), d.picture.notes[k]? = some n →
        n.frame.y = 110 + 60 * (d.messages.length : Rat) + 20 + 60 * k ∧ n.frame.height = 40) ∧
      d.picture.notes.Pairwise (fun a b ↦ a.frame.bottom < b.frame.y) ∧
      ∀ n ∈ d.picture.notes,
        (∀ m ∈ d.picture.messages, m.source.y < n.frame.y ∧ m.target.y < n.frame.y) ∧
        ∀ l ∈ d.picture.loops, Settings.standard.freeBottom l.loop = l.frame.bottom →
          l.frame.bottom < n.frame.y := by
  intro d
  have hs := Settings.keepsNotesApart_standard
  refine ⟨Layout.parts_notes d _, fun k n hk ↦ ?_, Layout.pairwise_notes hs, fun n hn ↦
    ⟨fun m hm ↦ ?_, fun l hl hfree ↦ ?_⟩⟩
  · obtain ⟨x, width, -, hframe⟩ := Layout.getElem?_notes_standard hk
    refine ⟨?_, by rw [hframe]⟩
    rw [hframe]
    show 60 * (d.messages.length : Rat) + 60 * k + 130 = 110 + 60 * d.messages.length + 20 + 60 * k
    ring
  · obtain ⟨a, b, -, hsource, htarget⟩ := Layout.exists_ends?_of_mem_messages hm
    have hindex : (m.index : Int) ≤ d.messages.length := by
      have hlt := (List.getElem?_eq_some_iff.1 (Layout.getElem?_of_mem_messages d _ hm)).1
      exact_mod_cast hlt.le
    rw [hsource, htarget]
    exact ⟨Layout.messageY_lt_of_mem_notes hs hn hindex,
      Layout.messageY_lt_of_mem_notes hs hn hindex⟩
  · have hmem : l.loop ∈ d.loops := List.mem_of_getElem? (Layout.getElem?_of_mem_loops d _ hl)
    rw [← hfree]
    exact Layout.freeBottom_lt_of_mem_notes hs hn (isSlice_of_mem_loops hmem).last_lt
      (depth_nonneg_of_mem_loops hmem)

/-- The second of the notes that are drawn is the third of the source, below a message in a loop. -/
theorem notes_stack_below_skipped_note :
    let text := "participant A\nNote over B: x\nNote over A: y\nNote over A: z\n" ++
      "loop a\nA->>A: t\nend"
    let picture := (Diagram.ofText text).picture
    ∃ n, picture.notes[1]? = some n ∧ n.index = 2 ∧ n.frame.y = 250 ∧
      ∃ l ∈ picture.loops, ∃ m ∈ picture.messages,
        l.frame.bottom < n.frame.y ∧ m.source.y < n.frame.y := by
  intro text picture
  obtain ⟨hparts, hslots, -, hbelow⟩ := notes_stack_below text
  have hdrawn : ((Diagram.ofText text).notes.zipIdx.filter fun p ↦
      (Diagram.ofText text).drawsNote p.1)[1]? = some (⟨.across, ["A"], "z"⟩, 2) := by
    decide +kernel
  have hloop : ⟨"a", [⟨"A", "A", "t", .solid⟩], 0, 0, 0⟩ ∈ (Diagram.ofText text).loops ∧
      (Diagram.ofText text).drawsLoop ⟨"a", [⟨"A", "A", "t", .solid⟩], 0, 0, 0⟩ = true := by
    decide +kernel
  have hmessage : (Diagram.ofText text).messages[0]? = some ⟨"A", "A", "t", .solid⟩ := by
    decide +kernel
  have hends : (Diagram.ofText text).ends? ⟨"A", "A", "t", .solid⟩ = some (0, 0) := by
    decide +kernel
  have hlength : (Diagram.ofText text).messages.length = 1 := by
    decide +kernel
  rw [← hparts, List.getElem?_map, Option.map_eq_some_iff] at hdrawn
  obtain ⟨n, hn, heq⟩ := hdrawn
  obtain ⟨hmessages, hloops⟩ := hbelow n (List.mem_of_getElem? hn)
  obtain ⟨l, hl, hl'⟩ := (Layout.mem_loops_iff _ (Settings.standard : Settings Rat)).2 hloop
  obtain ⟨c, rest, -, -, hframe⟩ := Layout.exists_frame_eq hl
  have hm := Layout.mem_messages_of_ends? (s := (Settings.standard : Settings Rat)) hmessage hends
  refine ⟨n, hn, congrArg Prod.snd heq, ?_, l, hl, _, hm, hloops l hl ?_, (hmessages _ hm).1⟩
  · rw [(hslots 1 n hn).1, hlength]
    norm_num
  · rw [hframe, hl', frameAround_standard, Box.bottom_ofEdges, Settings.freeBottom,
      Settings.messageY_standard, Settings.standard_eq]
    norm_num

end SequenceChart
