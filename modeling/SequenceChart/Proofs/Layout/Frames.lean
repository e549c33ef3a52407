import SequenceChart.Proofs.Diagram.Strings
import SequenceChart.Proofs.Layout.Drawn
import SequenceChart.Proofs.Layout.Exact
import Mathlib.Tactic.Linarith

/-!
# Frames around messages

The frame of a loop leaves room around the ends of its messages: forty pixels at either side, thirty
above the first row and seventy below the last.  For each loop around it the frame is drawn in by
ten pixels on all four sides, so the room is used up when there are enough of them.  Above the first
row this happens at depth three, where the frame begins in the row itself, and at the sides at depth
four.  The clamp that keeps deep frames from being turned inside out comes into play later and does
not help.

So at standard measures a frame is around its messages up to depth two, and at depth three only if
the first row is left empty (`frame_encloses_iff`).

## Main definitions

* `Box.StrictlyContains` — that a point lies within a box and on none of its edges.

## Main statements

* `strictlyContains_frameAround` — when an end of a message lies within the frame.
* `frame_encloses_iff` — the frames that are around all their messages.
* `exists_frame_not_around_message` — four loops around a message.
-/

set_option autoImplicit false
namespace SequenceChart

/-- A point lies within a box if it is on the inner side of each edge. -/
def Box.StrictlyContains {α : Type} [Scalar α] (b : Box α) (p : Point α) : Prop :=
  b.x < p.x ∧ p.x < b.right ∧ b.y < p.y ∧ p.y < b.bottom

/-! ## The places of shapes -/

section

variable {α : Type} [Scalar α] {d : Diagram} {s : Settings α}

theorem Layout.loopFrame?_of_mem_loops {shape : LoopShape α} (h : shape ∈ (ofDiagram d s).loops) :
    loopFrame? d s shape.loop = some shape.frame := by
  rw [ofDiagram, List.mem_mergeSort] at h
  obtain ⟨l, i, -, hplace⟩ := mem_filterMap_drawn?_iff.1 h
  rw [placeLoop] at hplace
  cases hframe : loopFrame? d s l with
  | none =>
    rw [hframe] at hplace
    cases hplace
  | some frame =>
    rw [hframe] at hplace
    cases hplace
    exact hframe

/-- A frame that is drawn is around the columns of some messages and around some rows. -/
theorem Layout.exists_frame_eq {shape : LoopShape α} (h : shape ∈ (ofDiagram d s).loops) :
    ∃ c rest, loopCenters d s shape.loop = c :: rest ∧ shape.loop.first ≤ shape.loop.last ∧
      shape.frame = frameAround s shape.loop (Scalar.least c rest) (Scalar.greatest c rest) := by
  have hframe := loopFrame?_of_mem_loops h
  rw [loopFrame?] at hframe
  split at hframe
  · cases hframe
  · rename_i hrange
    have hle : shape.loop.first ≤ shape.loop.last := by
      simpa [Loop.isEmpty] using hrange
    split at hframe
    · cases hframe
    · rename_i c rest hcenters
      exact ⟨c, rest, hcenters, hle, (Option.some.inj hframe).symm⟩

theorem mem_loopCenters_iff {l : Loop} {x : α} :
    x ∈ loopCenters d s l ↔ ∃ m ∈ l.members, ∃ a b, d.ends? m = some (a, b) ∧
      (x = s.columnCenter a ∨ x = s.columnCenter b) := by
  constructor
  · intro h
    obtain ⟨ends, hends, hx⟩ := List.mem_flatMap.1 h
    obtain ⟨m, hm, hm'⟩ := List.mem_filterMap.1 hends
    exact ⟨m, hm, ends.1, ends.2, hm', List.mem_pair.1 hx⟩
  · rintro ⟨m, hm, a, b, hends, hx⟩
    exact List.mem_flatMap.2 ⟨(a, b), List.mem_filterMap.2 ⟨m, hm, hends⟩, List.mem_pair.2 hx⟩

/-- A message that is drawn goes between the columns of its ends, in the row of its position. -/
theorem Layout.exists_ends?_of_mem_messages {shape : MessageShape α}
    (h : shape ∈ (ofDiagram d s).messages) :
    ∃ a b, d.ends? shape.message = some (a, b) ∧
      shape.source = ⟨s.columnCenter a, s.messageY shape.index⟩ ∧
      shape.target = ⟨s.columnCenter b, s.messageY shape.index⟩ := by
  obtain ⟨m, i, -, hplace⟩ := mem_filterMap_drawn?_iff.1 h
  rw [placeMessage] at hplace
  cases hends : d.ends? m with
  | none =>
    rw [hends] at hplace
    cases hplace
  | some ends =>
    rw [hends] at hplace
    cases hplace
    exact ⟨ends.1, ends.2, hends, rfl, rfl⟩

theorem Layout.mem_messages_of_ends? {i : Nat} {m : Message} {a b : Nat}
    (hm : d.messages[i]? = some m) (hends : d.ends? m = some (a, b)) :
    ⟨i, m, ⟨s.columnCenter a, s.messageY i⟩, ⟨s.columnCenter b, s.messageY i⟩⟩ ∈
      (ofDiagram d s).messages := by
  refine mem_filterMap_drawn?_iff.2 ⟨m, i, hm, ?_⟩
  rw [placeMessage, hends]

end

/-- The members of a loop that agrees with the messages are those in its range. -/
theorem Loop.IsSlice.mem_members_iff {messages : List Message} {l : Loop} (h : l.IsSlice messages)
    {m : Message} :
    m ∈ l.members ↔ ∃ i : Nat, messages[i]? = some m ∧ l.first ≤ i ∧ (i : Int) ≤ l.last := by
  have h₀ := h.first_nonneg
  rw [h.members_eq, List.mem_iff_getElem?]
  constructor
  · rintro ⟨j, hj⟩
    rw [List.getElem?_drop, List.getElem?_take] at hj
    split at hj
    · exact ⟨l.first.toNat + j, hj, by omega, by omega⟩
    · cases hj
  · rintro ⟨i, hi, hfirst, hlast⟩
    refine ⟨i - l.first.toNat, ?_⟩
    rw [List.getElem?_drop, List.getElem?_take, if_pos (by omega)]
    rwa [show l.first.toNat + (i - l.first.toNat) = i by omega]

/-! ## Points in a frame -/

/-- **When an end of a message lies within the frame**: at depth two or less always, and at depth
three in all rows but the first. -/
theorem strictlyContains_frameAround {l : Loop} {left right x : Rat} {i : Int}
    (hdepth : l.depth ≤ 2 ∨ l.depth = 3 ∧ l.first ≠ i) (hleft : left ≤ x) (hright : x ≤ right)
    (hfirst : l.first ≤ i) (hlast : i ≤ l.last) :
    (frameAround Settings.standard l left right).StrictlyContains
      ⟨x, (Settings.standard : Settings Rat).messageY i⟩ := by
  have hlast' : (i : Rat) ≤ l.last := by exact_mod_cast hlast
  have hthree : (l.depth : Rat) ≤ 3 := by
    have : l.depth ≤ 3 := by omega
    exact_mod_cast this
  -- a row below the first one makes up for the third inset
  have hrow : (10 * l.depth + 60 * l.first : Rat) < 30 + 60 * i := by
    have : 10 * l.depth + 60 * l.first < 30 + 60 * i := by omega
    exact_mod_cast this
  rw [frameAround_standard, Settings.messageY_standard]
  refine ⟨?_, ?_, ?_, ?_⟩
  · show left - 40 + 10 * (l.depth : Rat) < x
    linarith
  · rw [Box.right_ofEdges]
    exact lt_max_of_lt_left (by linarith)
  · show 80 + 60 * (l.first : Rat) + 10 * l.depth < 110 + 60 * i
    linarith
  · rw [Box.bottom_ofEdges]
    exact lt_max_of_lt_left (by linarith)

/-- At depth three the frame begins in its first row. -/
theorem not_strictlyContains_first_row {l : Loop} {left right x : Rat} (hdepth : 3 ≤ l.depth) :
    ¬ (frameAround Settings.standard l left right).StrictlyContains
      ⟨x, (Settings.standard : Settings Rat).messageY l.first⟩ := by
  rintro ⟨-, -, htop, -⟩
  have hdepth' : (3 : Rat) ≤ l.depth := by exact_mod_cast hdepth
  rw [frameAround_standard, Settings.messageY_standard] at htop
  have htop' : 80 + 60 * (l.first : Rat) + 10 * l.depth < 110 + 60 * l.first := htop
  linarith

/-- At depth four the frame begins in its leftmost column. -/
theorem not_strictlyContains_left {l : Loop} {left right y : Rat} (hdepth : 4 ≤ l.depth) :
    ¬ (frameAround Settings.standard l left right).StrictlyContains ⟨left, y⟩ := by
  rintro ⟨hstart, -⟩
  have hdepth' : (4 : Rat) ≤ l.depth := by exact_mod_cast hdepth
  rw [frameAround_standard] at hstart
  have hstart' : left - 40 + 10 * (l.depth : Rat) < left := hstart
  linarith

/-! ## Frames and their messages -/

/-- The frame of a loop is around its messages if the ends of those that are drawn lie within it. -/
def Layout.Encloses {α : Type} [Scalar α] (picture : Layout α) (l : LoopShape α) : Prop :=
  ∀ m ∈ picture.messages, l.loop.first ≤ m.index → (m.index : Int) ≤ l.loop.last →
    l.frame.StrictlyContains m.source ∧ l.frame.StrictlyContains m.target

section

variable {d : Diagram} {l : LoopShape Rat}
  (hl : l ∈ (Layout.ofDiagram d Settings.standard).loops) (hslice : l.loop.IsSlice d.messages)

include hl hslice

theorem encloses_of_depth
    (h : l.loop.depth ≤ 2 ∨ l.loop.depth = 3 ∧
      ∀ m ∈ (Layout.ofDiagram d (Settings.standard : Settings Rat)).messages,
        (m.index : Int) ≠ l.loop.first) :
    (Layout.ofDiagram d Settings.standard).Encloses l := by
  intro m hm hfirst hlast
  obtain ⟨c, rest, hcenters, -, hframe⟩ := Layout.exists_frame_eq hl
  obtain ⟨a, b, hends, hsource, htarget⟩ := Layout.exists_ends?_of_mem_messages hm
  have hmember : m.message ∈ l.loop.members := hslice.mem_members_iff.2
    ⟨m.index, Layout.getElem?_of_mem_messages d _ hm, hfirst, hlast⟩
  have hdepth : l.loop.depth ≤ 2 ∨ l.loop.depth = 3 ∧ l.loop.first ≠ m.index :=
    h.imp_right fun h ↦ ⟨h.1, (h.2 m hm).symm⟩
  have hwithin : ∀ x ∈ loopCenters d Settings.standard l.loop, l.frame.StrictlyContains
      ⟨x, (Settings.standard : Settings Rat).messageY m.index⟩ := by
    intro x hx
    rw [hcenters] at hx
    rw [hframe]
    exact strictlyContains_frameAround hdepth (Scalar.least_le hx) (Scalar.le_greatest hx) hfirst
      hlast
  rw [hsource, htarget]
  exact ⟨hwithin _ (mem_loopCenters_iff.2 ⟨m.message, hmember, a, b, hends, .inl rfl⟩),
    hwithin _ (mem_loopCenters_iff.2 ⟨m.message, hmember, a, b, hends, .inr rfl⟩)⟩

omit hl in
/-- Some message ends in the leftmost column of its loop. -/
theorem exists_leftmost {c : Rat} {rest : List Rat}
    (hcenters : loopCenters d Settings.standard l.loop = c :: rest) :
    ∃ m ∈ (Layout.ofDiagram d (Settings.standard : Settings Rat)).messages,
      l.loop.first ≤ m.index ∧ (m.index : Int) ≤ l.loop.last ∧
      (m.source.x = Scalar.least c rest ∨ m.target.x = Scalar.least c rest) := by
  have hmem : Scalar.least c rest ∈ loopCenters d Settings.standard l.loop := by
    rw [hcenters]
    exact Scalar.least_mem c rest
  obtain ⟨m, hmember, a, b, hends, hleft⟩ := mem_loopCenters_iff.1 hmem
  obtain ⟨i, hi, hfirst, hlast⟩ := hslice.mem_members_iff.1 hmember
  exact ⟨_, Layout.mem_messages_of_ends? hi hends, hfirst, hlast, hleft.imp Eq.symm Eq.symm⟩

theorem depth_of_encloses (h : (Layout.ofDiagram d Settings.standard).Encloses l) :
    l.loop.depth ≤ 2 ∨ l.loop.depth = 3 ∧
      ∀ m ∈ (Layout.ofDiagram d (Settings.standard : Settings Rat)).messages,
        (m.index : Int) ≠ l.loop.first := by
  obtain ⟨c, rest, hcenters, hle, hframe⟩ := Layout.exists_frame_eq hl
  have hlt : l.loop.depth < 4 := by
    by_contra hdeep
    obtain ⟨m, hm, hfirst, hlast, hleft⟩ := exists_leftmost hslice hcenters
    obtain ⟨hsource, htarget⟩ := h m hm hfirst hlast
    rw [hframe] at hsource htarget
    rcases hleft with hleft | hleft
    · exact not_strictlyContains_left (by omega) (hleft ▸ hsource)
    · exact not_strictlyContains_left (by omega) (hleft ▸ htarget)
  by_cases hthree : l.loop.depth = 3
  · refine .inr ⟨hthree, fun m hm hrow ↦ ?_⟩
    obtain ⟨hsource, -⟩ := h m hm hrow.ge (hrow.le.trans hle)
    obtain ⟨a, -, -, hplace, -⟩ := Layout.exists_ends?_of_mem_messages hm
    rw [hframe, hplace, hrow] at hsource
    exact not_strictlyContains_first_row (by omega) hsource
  · exact .inl (by omega)

end

/-- **The frames that are around all their messages**, in pictures of source texts at standard
measures: those of depth two or less, and those of depth three whose first row is empty because the
message there is not drawn. -/
theorem frame_encloses_iff (text : String) :
    ∀ l ∈ (Layout.ofDiagram (Diagram.ofText text) (Settings.standard : Settings Rat)).loops,
      (Layout.ofDiagram (Diagram.ofText text) Settings.standard).Encloses l ↔
        l.loop.depth ≤ 2 ∨ l.loop.depth = 3 ∧ ∀ m ∈ (Layout.ofDiagram (Diagram.ofText text)
          (Settings.standard : Settings Rat)).messages, (m.index : Int) ≠ l.loop.first := by
  intro l hl
  have hslice : l.loop.IsSlice (Diagram.ofText text).messages :=
    isSlice_of_mem_loops (List.mem_of_getElem? (Layout.getElem?_of_mem_loops _ _ hl))
  exact ⟨depth_of_encloses hl hslice, encloses_of_depth hl hslice⟩

theorem frame_encloses_iff_one_loop :
    ∃ l ∈ (Layout.ofDiagram (Diagram.ofText "participant A\nloop a\nA->>A: x\nend")
        (Settings.standard : Settings Rat)).loops,
      (Layout.ofDiagram (Diagram.ofText "participant A\nloop a\nA->>A: x\nend")
        Settings.standard).Encloses l := by
  obtain ⟨l, hl, hloop⟩ := (Layout.mem_loops_iff
    (Diagram.ofText "participant A\nloop a\nA->>A: x\nend") (Settings.standard : Settings Rat)
    (l := ⟨"a", [⟨"A", "A", "x", .solid⟩], 0, 0, 0⟩)).2 (by decide +kernel)
  have hdepth : l.loop.depth ≤ 2 := by
    rw [hloop]
    decide
  exact ⟨l, hl, (frame_encloses_iff _ l hl).2 (.inl hdepth)⟩

/-- The innermost of four loops around a message: its frame begins in the row of the message. -/
theorem exists_frame_not_around_message :
    ∃ l ∈ (Layout.ofDiagram (Diagram.ofText
        "participant A\nloop a\nloop b\nloop c\nloop d\nA->>A: x\nend\nend\nend\nend")
        (Settings.standard : Settings Rat)).loops,
      ¬ (Layout.ofDiagram (Diagram.ofText
        "participant A\nloop a\nloop b\nloop c\nloop d\nA->>A: x\nend\nend\nend\nend")
        Settings.standard).Encloses l := by
  generalize hd : Diagram.ofText
    "participant A\nloop a\nloop b\nloop c\nloop d\nA->>A: x\nend\nend\nend\nend" = d
  have hmessage : d.messages[0]? = some ⟨"A", "A", "x", .solid⟩ := by
    rw [← hd]
    decide +kernel
  have hends : d.ends? ⟨"A", "A", "x", .solid⟩ = some (0, 0) := by
    rw [← hd]
    decide +kernel
  have hinnermost : ⟨"d", [⟨"A", "A", "x", .solid⟩], 0, 0, 3⟩ ∈ d.loops ∧
      d.drawsLoop ⟨"d", [⟨"A", "A", "x", .solid⟩], 0, 0, 3⟩ = true := by
    rw [← hd]
    decide +kernel
  obtain ⟨l, hl, hloop⟩ :=
    (Layout.mem_loops_iff d (Settings.standard : Settings Rat)).2 hinnermost
  have hslice : l.loop.IsSlice d.messages := by
    rw [hloop, ← hd]
    exact isSlice_of_mem_loops (hd ▸ hinnermost.1)
  refine ⟨l, hl, fun hencloses ↦ ?_⟩
  rcases depth_of_encloses hl hslice hencloses with hdepth | ⟨-, hrow⟩
  · rw [hloop] at hdepth
    exact absurd hdepth (by decide)
  · refine hrow _ (Layout.mem_messages_of_ends? hmessage hends) ?_
    rw [hloop]
    rfl

end SequenceChart
