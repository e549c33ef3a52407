import SequenceChart.Proofs.Layout.Frames

/-!
# Rows in the reach of a frame

A frame shows which messages are repeated; whether other rows lie between its upper and its lower
edge depends on the measures.  At standard measures the rows are sixty pixels apart.  A frame begins
thirty pixels above its first row, or less, and reaches no row in front of its loop.  Below it has
more room: it ends seventy pixels below its last row, which is ten below the next one.  Each loop
around it draws it in by ten, so the next row lies on its lower edge at depth one, and below it from
depth two on.

Frames of great depth are kept from being turned inside out: they are ten pixels high, begin ten
pixels lower for each loop around them, and so come down through the rows behind their loop.  Every
sixth depth such a frame begins on a row, and at the depth before it ends there.

## Main definitions

* `LoopShape.Reaches` — that the row of a message lies between the edges of a frame.
* `Loop.Overruns` — the rows behind a loop for which this is so.

## Main statements

* `reaches_row_iff` — the rows outside a loop that its frame reaches.
* `frame_reaches_iff` — the same for the messages in the picture of a source.
* `exists_frame_around_next_message` — a frame around the message behind its loop.
-/

set_option autoImplicit false
namespace SequenceChart

/-- A frame reaches a message if the row of the message lies between its upper and lower edge, or on
one of them. -/
def LoopShape.Reaches (l : LoopShape Rat) (m : MessageShape Rat) : Prop :=
  l.frame.y ≤ m.source.y ∧ m.source.y ≤ l.frame.bottom

/-- A loop overruns the next row up to depth one; and at great depth, a row behind it on which the
frame comes to lie with its upper or its lower edge. -/
def Loop.Overruns (l : Loop) (i : Int) : Prop :=
  i = l.last + 1 ∧ l.depth ≤ 1 ∨
    l.last < i ∧ (l.depth = 6 * (i - l.first) + 2 ∨ l.depth = 6 * (i - l.first) + 3)

/-! ## Rows -/

/-- **The rows outside a loop that its frame reaches** are those that the loop overruns. -/
theorem reaches_row_iff {l : Loop} {left right : Rat} {i : Int} (hdepth : 0 ≤ l.depth)
    (hle : l.first ≤ l.last) (hi : i < l.first ∨ l.last < i) :
    (frameAround Settings.standard l left right).y ≤ (Settings.standard : Settings Rat).messageY i ∧
      (Settings.standard : Settings Rat).messageY i ≤
        (frameAround Settings.standard l left right).bottom ↔ l.Overruns i := by
  rw [frameAround_standard, Settings.messageY_standard, Box.bottom_ofEdges, le_max_iff]
  -- all the heights are integers, so the question is one of whole pixels
  have htop : 80 + 60 * (l.first : Rat) + 10 * l.depth ≤ 110 + 60 * i ↔
      80 + 60 * l.first + 10 * l.depth ≤ 110 + 60 * i := by norm_cast
  have hfree : (110 + 60 * i : Rat) ≤ 180 + 60 * l.last - 10 * l.depth ↔
      110 + 60 * i ≤ 180 + 60 * l.last - 10 * l.depth := by norm_cast
  have hkept : (110 + 60 * i : Rat) ≤ 90 + 60 * l.first + 10 * l.depth ↔
      110 + 60 * i ≤ 90 + 60 * l.first + 10 * l.depth := by norm_cast
  refine (and_congr htop (or_congr hfree hkept)).trans ?_
  rw [Loop.Overruns]
  omega

/-! ## Messages -/

section

variable {d : Diagram} {l : LoopShape Rat} {m : MessageShape Rat}
  (hl : l ∈ (Layout.ofDiagram d Settings.standard).loops)
  (hm : m ∈ (Layout.ofDiagram d Settings.standard).messages)

include hl hm

theorem reaches_iff_of_outside (hdepth : 0 ≤ l.loop.depth)
    (hout : (m.index : Int) < l.loop.first ∨ l.loop.last < m.index) :
    l.Reaches m ↔ l.loop.Overruns m.index := by
  obtain ⟨c, rest, -, hle, hframe⟩ := Layout.exists_frame_eq hl
  obtain ⟨a, b, -, hsource, -⟩ := Layout.exists_ends?_of_mem_messages hm
  rw [LoopShape.Reaches, hframe, hsource]
  exact reaches_row_iff hdepth hle hout

end

/-- No loop of a source has a negative depth. -/
theorem depth_nonneg_of_mem_loops {text : String} {l : Loop}
    (h : l ∈ (Diagram.ofText text).loops) : 0 ≤ l.depth :=
  depth_nonneg_of_mem_loopsFrom l (Diagram.loops_ofText text ▸ h)

/-- **The messages outside a loop that its frame reaches**, in pictures of source texts at standard
measures, are those in rows that the loop overruns, so none in front of it.  Arrows are level, so
that the row of one end is that of the other. -/
theorem frame_reaches_iff (text : String) :
    ∀ l ∈ (Layout.ofDiagram (Diagram.ofText text) (Settings.standard : Settings Rat)).loops,
      ∀ m ∈ (Layout.ofDiagram (Diagram.ofText text) (Settings.standard : Settings Rat)).messages,
        (m.index : Int) < l.loop.first ∨ l.loop.last < m.index →
          m.target.y = m.source.y ∧ (l.Reaches m ↔ l.loop.Overruns m.index) := by
  intro l hl m hm hout
  obtain ⟨a, b, -, hsource, htarget⟩ := Layout.exists_ends?_of_mem_messages hm
  have hdepth : 0 ≤ l.loop.depth :=
    depth_nonneg_of_mem_loops (List.mem_of_getElem? (Layout.getElem?_of_mem_loops _ _ hl))
  exact ⟨by rw [hsource, htarget], reaches_iff_of_outside hl hm hdepth hout⟩

/-- The frame of the innermost of nine loops begins on the row of the message behind them. -/
theorem frame_reaches_iff_nine_loops :
    let text := "participant A\nloop\nloop\nloop\nloop\nloop\nloop\nloop\nloop\nloop\nA->>A: x\n" ++
      "end\nend\nend\nend\nend\nend\nend\nend\nend\nA->>A: y"
    let picture : Layout Rat := Layout.ofDiagram (Diagram.ofText text) Settings.standard
    ∃ l ∈ picture.loops, ∃ m ∈ picture.messages,
      l.loop.depth = 8 ∧ l.loop.last < m.index ∧ l.Reaches m := by
  intro text picture
  have hinnermost : ⟨"", [⟨"A", "A", "x", .solid⟩], 0, 0, 8⟩ ∈ (Diagram.ofText text).loops ∧
      (Diagram.ofText text).drawsLoop ⟨"", [⟨"A", "A", "x", .solid⟩], 0, 0, 8⟩ = true := by
    decide +kernel
  have hmessage : (Diagram.ofText text).messages[1]? = some ⟨"A", "A", "y", .solid⟩ := by
    decide +kernel
  have hends : (Diagram.ofText text).ends? ⟨"A", "A", "y", .solid⟩ = some (0, 0) := by
    decide +kernel
  obtain ⟨l, hl, hloop⟩ := (Layout.mem_loops_iff _ (Settings.standard : Settings Rat)).2 hinnermost
  have hm := Layout.mem_messages_of_ends? (s := (Settings.standard : Settings Rat)) hmessage hends
  have hlast : l.loop.last < 1 := by
    rw [hloop]
    decide
  have hdepth : l.loop.depth = 6 * (1 - l.loop.first) + 2 := by
    rw [hloop]
    rfl
  refine ⟨l, hl, _, hm, by rw [hloop], hlast, ?_⟩
  exact (frame_reaches_iff text l hl _ hm (.inr hlast)).2.2 (.inr ⟨hlast, .inl hdepth⟩)

/-- The message behind a loop with one message lies above the lower edge of the frame. -/
theorem exists_frame_around_next_message :
    let text := "participant A\nloop a\nA->>A: x\nend\nA->>A: y"
    let picture : Layout Rat := Layout.ofDiagram (Diagram.ofText text) Settings.standard
    ∃ l ∈ picture.loops, ∃ m ∈ picture.messages,
      l.loop.last < m.index ∧ l.frame.y < m.source.y ∧ m.source.y < l.frame.bottom := by
  intro text picture
  have hloop : ⟨"a", [⟨"A", "A", "x", .solid⟩], 0, 0, 0⟩ ∈ (Diagram.ofText text).loops ∧
      (Diagram.ofText text).drawsLoop ⟨"a", [⟨"A", "A", "x", .solid⟩], 0, 0, 0⟩ = true := by
    decide +kernel
  have hmessage : (Diagram.ofText text).messages[1]? = some ⟨"A", "A", "y", .solid⟩ := by
    decide +kernel
  have hends : (Diagram.ofText text).ends? ⟨"A", "A", "y", .solid⟩ = some (0, 0) := by
    decide +kernel
  obtain ⟨l, hl, hl'⟩ := (Layout.mem_loops_iff _ (Settings.standard : Settings Rat)).2 hloop
  obtain ⟨c, rest, -, -, hframe⟩ := Layout.exists_frame_eq hl
  refine ⟨l, hl, _, Layout.mem_messages_of_ends? hmessage hends, ?_, ?_, ?_⟩
  · rw [hl']
    decide
  · rw [hframe, hl', frameAround_standard, Settings.messageY_standard]
    show (80 + 60 * ((0 : Int) : Rat) + 10 * ((0 : Int) : Rat) < 110 + 60 * ((1 : Int) : Rat))
    norm_num
  · rw [hframe, hl', frameAround_standard, Settings.messageY_standard, Box.bottom_ofEdges]
    exact lt_max_of_lt_left (by norm_num)

end SequenceChart
