import SequenceChart.Proofs.Layout.Frames
import SequenceChart.Proofs.Layout.Painting

/-!
# Frames inside frames

A loop that overlaps a later one of the list lies inside it and is deeper, so its messages are among
those of the other, and the other is drawn if it is.  It is drawn behind: the order of painting is
by depth.  And it is drawn around: the columns of the messages are among those of the other loop,
the rows too, and the inset grows with the depth.  On the right and below that holds as long as the
inner frame is not widened to keep it from being turned inside out; whether the outer one is does
not matter, since that can only move its edges outwards.

Nothing is assumed of the measures but that messages do not go upwards and that the inset is
positive.

## Main definitions

* `Loop.Overlaps` — that two loops have a position in common.
* `Diagram.freeRight?`, `Settings.freeBottom` — the far edges of a frame that is not widened.
* `LoopShape.IsInside` — how the frame of an inner loop lies to an outer one.

## Main statements

* `isInside_of_range` — the frame of a loop lies inside the frame of a loop around it.
* `exists_frame_around` — a loop that overlaps a later one is drawn inside of it and over it.
-/

set_option autoImplicit false
namespace SequenceChart

/-! ## Loops around loops -/

/-- Two loops overlap if a position is in both ranges. -/
def Loop.Overlaps (a b : Loop) : Prop :=
  ∃ n, (a.first ≤ n ∧ n ≤ a.last) ∧ b.first ≤ n ∧ n ≤ b.last

/-- Loops that overlap are not apart, so the first is inside the later one. -/
theorem Loop.ApartOrInside.inside_of_overlaps {a b : Loop} (h : a.ApartOrInside b)
    (hoverlap : a.Overlaps b) : b.first ≤ a.first ∧ a.last ≤ b.last ∧ b.depth < a.depth := by
  obtain ⟨n, ⟨-, hna⟩, hnb, -⟩ := hoverlap
  rcases h with hapart | hinside
  · omega
  · exact hinside

/-- The messages of a loop are among those of a loop around it. -/
theorem Loop.IsSlice.members_subset {messages : List Message} {a b : Loop}
    (ha : a.IsSlice messages) (hb : b.IsSlice messages) (hfirst : b.first ≤ a.first)
    (hlast : a.last ≤ b.last) : a.members ⊆ b.members := by
  intro m hm
  obtain ⟨i, hi, hai, hia⟩ := ha.mem_members_iff.1 hm
  exact hb.mem_members_iff.2 ⟨i, hi, hfirst.trans hai, hia.trans hlast⟩

section

variable {α : Type} [Scalar α] {d : Diagram} {s : Settings α} {a b : Loop}

/-- A loop around one that is drawn is drawn. -/
theorem Diagram.drawsLoop_of_members_subset (hmembers : a.members ⊆ b.members)
    (hrange : b.first ≤ a.first ∧ a.last ≤ b.last) (ha : d.drawsLoop a = true) :
    d.drawsLoop b = true := by
  rw [drawsLoop, Bool.and_eq_true, decide_eq_true_iff, List.any_eq_true] at ha ⊢
  obtain ⟨hle, m, hm, hdraws⟩ := ha
  exact ⟨by omega, m, hmembers hm, hdraws⟩

theorem loopCenters_subset (hmembers : a.members ⊆ b.members) :
    loopCenters d s a ⊆ loopCenters d s b := by
  intro x hx
  obtain ⟨m, hm, hends⟩ := mem_loopCenters_iff.1 hx
  exact mem_loopCenters_iff.2 ⟨m, hmembers hm, hends⟩

end

/-! ## Edges -/

/-- The right edge that a frame has if it is not kept from being turned inside out. -/
def Diagram.freeRight? (d : Diagram) (s : Settings Rat) (l : Loop) : Option Rat :=
  (loopCenters d s l).max?.map fun right ↦
    right + s.endpointMargin + s.loopPadX - l.depth * s.nestInset

/-- The lower edge that a frame has if it is not kept from being turned inside out. -/
def Settings.freeBottom (s : Settings Rat) (l : Loop) : Rat :=
  s.messageY l.last + s.loopPadBottom - l.depth * s.nestInset

/-- How the frame of an inner loop lies to that of an outer one: it begins further to the right and
further down, and on the other two sides it ends before the outer one where it is not widened. -/
structure LoopShape.IsInside (d : Diagram) (s : Settings Rat) (inner outer : LoopShape Rat) :
    Prop where
  /-- The left edge of the outer frame is further to the left. -/
  left : outer.frame.x < inner.frame.x
  /-- Its upper edge is further up. -/
  top : outer.frame.y < inner.frame.y
  /-- Its right edge is further to the right. -/
  right : d.freeRight? s inner.loop = some inner.frame.right →
    inner.frame.right < outer.frame.right
  /-- Its lower edge is further down. -/
  bottom : s.freeBottom inner.loop = inner.frame.bottom →
    inner.frame.bottom < outer.frame.bottom

theorem Settings.messageY_le {s : Settings Rat} (hstep : 0 ≤ s.messageStep) {i j : Int}
    (h : i ≤ j) : s.messageY i ≤ s.messageY j := by
  have hrows : (i : Rat) * s.messageStep ≤ j * s.messageStep :=
    mul_le_mul_of_nonneg_right (by exact_mod_cast h) hstep
  simpa [messageY] using hrows

section

variable {d : Diagram} {s : Settings Rat} {inner outer : LoopShape Rat}

/-- **The frame of a loop lies inside the frame of a loop around it.** -/
theorem isInside_of_range (hstep : 0 ≤ s.messageStep) (hinset : 0 < s.nestInset)
    (hinner : inner ∈ (Layout.ofDiagram d s).loops) (houter : outer ∈ (Layout.ofDiagram d s).loops)
    (hmembers : inner.loop.members ⊆ outer.loop.members)
    (hfirst : outer.loop.first ≤ inner.loop.first) (hlast : inner.loop.last ≤ outer.loop.last)
    (hdepth : outer.loop.depth < inner.loop.depth) : inner.IsInside d s outer := by
  obtain ⟨c, rest, hcenters, -, hframe⟩ := Layout.exists_frame_eq hinner
  obtain ⟨c', rest', hcenters', -, hframe'⟩ := Layout.exists_frame_eq houter
  have hsubset : c :: rest ⊆ c' :: rest' := by
    rw [← hcenters, ← hcenters']
    exact loopCenters_subset hmembers
  have hleft : Scalar.least c' rest' ≤ Scalar.least c rest :=
    Scalar.least_le (hsubset (Scalar.least_mem c rest))
  have hright : Scalar.greatest c rest ≤ Scalar.greatest c' rest' :=
    Scalar.le_greatest (hsubset (Scalar.greatest_mem c rest))
  have htop : s.messageY outer.loop.first ≤ s.messageY inner.loop.first :=
    Settings.messageY_le hstep hfirst
  have hbottom : s.messageY inner.loop.last ≤ s.messageY outer.loop.last :=
    Settings.messageY_le hstep hlast
  have hnest : outer.loop.depth * s.nestInset < inner.loop.depth * s.nestInset :=
    mul_lt_mul_of_pos_right (by exact_mod_cast hdepth) hinset
  refine ⟨?_, ?_, fun hfree ↦ ?_, fun hfree ↦ ?_⟩
  · rw [hframe, hframe']
    show Scalar.least c' rest' - s.endpointMargin - s.loopPadX + outer.loop.depth * s.nestInset <
      Scalar.least c rest - s.endpointMargin - s.loopPadX + inner.loop.depth * s.nestInset
    linarith
  · rw [hframe, hframe']
    show s.messageY outer.loop.first - s.loopPadTop + outer.loop.depth * s.nestInset <
      s.messageY inner.loop.first - s.loopPadTop + inner.loop.depth * s.nestInset
    linarith
  · rw [Diagram.freeRight?, hcenters, Scalar.max?_eq_greatest, Option.map_some,
      Option.some_inj] at hfree
    rw [← hfree, hframe', frameAround, Box.right_ofEdges, Scalar.greater_eq_max]
    exact lt_max_of_lt_left (by linarith)
  · rw [← hfree, hframe', frameAround, Box.bottom_ofEdges, Scalar.greater_eq_max,
      Settings.freeBottom]
    exact lt_max_of_lt_left (by linarith)

end

/-! ## The frames of a picture -/

section

variable {α : Type} [Scalar α] {d : Diagram} {s : Settings α}

/-- The frame of a loop that is drawn. -/
theorem Layout.exists_mem_loops_of_getElem? {j : Nat} {l : Loop} (hl : d.loops[j]? = some l)
    (hdrawn : d.drawsLoop l = true) :
    ∃ shape ∈ (ofDiagram d s).loops, shape.loop = l ∧ shape.index = j := by
  have hmem : (l, j) ∈ d.loops.zipIdx.filter fun p ↦ d.drawsLoop p.1 :=
    List.mem_filter.2 ⟨List.mk_mem_zipIdx_iff_getElem?.2 hl, hdrawn⟩
  obtain ⟨shape, hshape, heq⟩ := List.mem_map.1 ((perm_loops d s).mem_iff.2 hmem)
  obtain ⟨hloop, hindex⟩ := Prod.mk.inj heq
  exact ⟨shape, hshape, hloop, hindex⟩

/-- Of two frames the less deep one is painted first. -/
theorem Layout.exists_getElem?_of_depth_lt {q : Nat} {inner outer : LoopShape α}
    (hinner : (ofDiagram d s).loops[q]? = some inner) (houter : outer ∈ (ofDiagram d s).loops)
    (hdepth : outer.loop.depth < inner.loop.depth) :
    ∃ p, p < q ∧ (ofDiagram d s).loops[p]? = some outer := by
  obtain ⟨p, hp⟩ := List.mem_iff_getElem?.1 houter
  refine ⟨p, Nat.lt_of_not_le fun hle ↦ ?_, hp⟩
  obtain ⟨hplt, rfl⟩ := List.getElem?_eq_some_iff.1 hp
  obtain ⟨hqlt, rfl⟩ := List.getElem?_eq_some_iff.1 hinner
  rcases Nat.lt_or_eq_of_le hle with hlt | rfl
  · rcases List.pairwise_iff_getElem.1 (pairwise_loops d s) q p hqlt hplt hlt with h | ⟨h, -⟩
    · omega
    · omega
  · omega

end

/-- **A loop that overlaps a later one is drawn inside of it and over it**, whatever is in the
source, with messages that do not go upwards and a positive inset. -/
theorem exists_frame_around (text : String) (s : Settings Rat) (hstep : 0 ≤ s.messageStep)
    (hinset : 0 < s.nestInset) {i j : Nat} (hij : i < j) {a b : Loop}
    (ha : (Diagram.ofText text).loops[i]? = some a) (hb : (Diagram.ofText text).loops[j]? = some b)
    (hoverlap : a.Overlaps b) :
    ∀ (q : Nat) (inner : LoopShape Rat),
      (Layout.ofDiagram (Diagram.ofText text) s).loops[q]? = some inner → inner.index = i →
        ∃ (p : Nat) (outer : LoopShape Rat), p < q ∧
          (Layout.ofDiagram (Diagram.ofText text) s).loops[p]? = some outer ∧ outer.index = j ∧
          inner.IsInside (Diagram.ofText text) s outer := by
  rintro q inner hinner rfl
  have hmem : inner ∈ (Layout.ofDiagram (Diagram.ofText text) s).loops :=
    List.mem_of_getElem? hinner
  obtain rfl : inner.loop = a := by
    rw [Layout.getElem?_of_mem_loops _ _ hmem] at ha
    exact Option.some.inj ha
  have hforest := (loops_isForest text).apart_or_inside
  have hinside : b.first ≤ inner.loop.first ∧ inner.loop.last ≤ b.last ∧
      b.depth < inner.loop.depth := by
    obtain ⟨hilt, hi⟩ := List.getElem?_eq_some_iff.1 ha
    obtain ⟨hjlt, rfl⟩ := List.getElem?_eq_some_iff.1 hb
    refine Loop.ApartOrInside.inside_of_overlaps ?_ hoverlap
    rw [← hi]
    exact List.pairwise_iff_getElem.1 hforest _ _ hilt hjlt hij
  obtain ⟨hfirst, hlast, hdepth⟩ := hinside
  have hmembers : inner.loop.members ⊆ b.members :=
    (isSlice_of_mem_loops (List.mem_of_getElem? ha)).members_subset
      (isSlice_of_mem_loops (List.mem_of_getElem? hb)) hfirst hlast
  have hdrawn : (Diagram.ofText text).drawsLoop inner.loop = true :=
    ((Layout.mem_loops_iff _ s).1 ⟨inner, hmem, rfl⟩).2
  obtain ⟨outer, houter, rfl, hindex⟩ := Layout.exists_mem_loops_of_getElem? (s := s) hb
    (Diagram.drawsLoop_of_members_subset hmembers ⟨hfirst, hlast⟩ hdrawn)
  obtain ⟨p, hpq, hp⟩ := Layout.exists_getElem?_of_depth_lt hinner houter hdepth
  exact ⟨p, outer, hpq, hp, hindex,
    isInside_of_range hstep hinset hmem houter hmembers hfirst hlast hdepth⟩

/-- A loop inside one whose first message is not drawn. -/
theorem exists_frame_around_two_loops :
    let text := "participant A\nparticipant B\nloop a\nA->>C: x\nloop b\nA->>B: y\nend\nend"
    let picture : Layout Rat := Layout.ofDiagram (Diagram.ofText text) Settings.standard
    ∃ (p q : Nat) (inner outer : LoopShape Rat), p < q ∧ picture.loops[q]? = some inner ∧
      picture.loops[p]? = some outer ∧ inner.index = 0 ∧ outer.index = 1 ∧
      inner.IsInside (Diagram.ofText text) Settings.standard outer := by
  intro text picture
  have ha : (Diagram.ofText text).loops[0]? = some ⟨"b", [⟨"A", "B", "y", .solid⟩], 1, 1, 1⟩ := by
    decide +kernel
  have hb : (Diagram.ofText text).loops[1]? =
      some ⟨"a", [⟨"A", "C", "x", .solid⟩, ⟨"A", "B", "y", .solid⟩], 0, 1, 0⟩ := by
    decide +kernel
  obtain ⟨inner, hinner, -, hindex⟩ := Layout.exists_mem_loops_of_getElem?
    (s := (Settings.standard : Settings Rat)) ha (by decide +kernel)
  obtain ⟨q, hq⟩ := List.mem_iff_getElem?.1 hinner
  have hstep : 0 ≤ (Settings.standard : Settings Rat).messageStep := by
    rw [Settings.standard_eq]
    norm_num
  have hinset : 0 < (Settings.standard : Settings Rat).nestInset := by
    rw [Settings.standard_eq]
    norm_num
  obtain ⟨p, outer, hpq, hp, hindex', hinside⟩ := exists_frame_around text Settings.standard hstep
    hinset (by decide) ha hb ⟨1, by decide, by decide⟩ q inner hq hindex
  exact ⟨p, q, inner, outer, hpq, hq, hp, hindex, hindex', hinside⟩

end SequenceChart
