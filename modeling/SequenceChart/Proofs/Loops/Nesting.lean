import SequenceChart.Proofs.Loops.Balance

/-!
# Loops, their messages and their nesting

A loop records its messages one by one and its range by two counts, taken when it begins and when it
ends, and it is listed when it ends.  That the two records agree, and that the list is a forest with
children in front of their parents, is one invariant of the stack of open loops: `Stacked`.

## Main definitions

* `Stacked` — the invariant: what the open loops know about the messages sent and about each other.
* `Loop.IsSlice` — a loop that agrees with a list of messages.
* `Loop.ApartOrInside` — how a loop lies to one that is listed later.

## Main statements

* `loops_isSlice` — every loop that is read holds the messages of its range.
* `loops_isForest` — the loops that are read are a forest, children before parents.
-/

set_option autoImplicit false
namespace SequenceChart

/-! ## The stack of open loops -/

/-- What the open loops, innermost first, know when the messages `sent` have been sent.  Each counts
the loops around it, holds the messages sent since it began, and began after those around it. -/
inductive Stacked (sent : List Message) : List OpenLoop → Prop
  /-- No loop is open. -/
  | nil : Stacked sent []
  /-- One more loop is open inside the others. -/
  | cons {inner : OpenLoop} {outer : List OpenLoop} (depth_eq : inner.depth = outer.length)
      (first_le : inner.first ≤ sent.length)
      (members_eq : inner.members.toList = sent.drop inner.first)
      (outer_first_le : ∀ o ∈ outer, o.first ≤ inner.first) (h : Stacked sent outer) :
      Stacked sent (inner :: outer)

/-- Before the first statement nothing is sent and no loop is open. -/
theorem stacked_nil : Stacked [] [] :=
  .nil

namespace Stacked

variable {sent : List Message} {inner : OpenLoop} {opened outer : List OpenLoop}

theorem depth_eq (h : Stacked sent (inner :: outer)) : inner.depth = outer.length := by
  cases h; assumption

theorem first_le (h : Stacked sent (inner :: outer)) : inner.first ≤ sent.length := by
  cases h; assumption

theorem members_eq (h : Stacked sent (inner :: outer)) :
    inner.members.toList = sent.drop inner.first := by
  cases h; assumption

theorem outer_first_le (h : Stacked sent (inner :: outer)) :
    ∀ o ∈ outer, o.first ≤ inner.first := by
  cases h; assumption

theorem tail (h : Stacked sent (inner :: outer)) : Stacked sent outer := by
  cases h; assumption

theorem first_le_of_mem (h : Stacked sent opened) : ∀ o ∈ opened, o.first ≤ sent.length := by
  induction h with
  | nil => simp
  | cons _ first_le _ _ _ ih => simpa using ⟨first_le, ih⟩

/-- The invariant of a stack of open loops survives a loop line. -/
theorem openLoop (h : Stacked sent opened) (label : String) :
    Stacked sent (⟨label, sent.length, opened.length, #[]⟩ :: opened) :=
  .cons rfl (Nat.le_refl _) (by simp) h.first_le_of_mem h

/-- It survives a message. -/
theorem receive (h : Stacked sent opened) (m : Message) :
    Stacked (sent ++ [m]) (opened.map (·.receive m)) := by
  induction h with
  | nil => exact .nil
  | @cons inner outer depth_eq first_le members_eq outer_first_le _ ih =>
    refine .cons ?_ ?_ ?_ ?_ ih
    · simpa [OpenLoop.receive] using depth_eq
    · simp only [OpenLoop.receive, List.length_append, List.length_singleton]
      omega
    · simp [OpenLoop.receive, members_eq, List.drop_append_of_le_length first_le]
    · simpa [OpenLoop.receive] using outer_first_le

/-- A loop is deeper than those around it. -/
theorem depth_lt (h : Stacked sent (inner :: outer)) : ∀ o ∈ outer, o.depth < inner.depth := by
  induction outer generalizing inner with
  | nil => simp
  | cons next outer ih =>
    have hstep : next.depth < inner.depth := by
      rw [h.depth_eq, h.tail.depth_eq, List.length_cons]
      omega
    intro o ho
    rcases List.mem_cons.1 ho with rfl | ho
    · exact hstep
    · exact Nat.lt_trans (ih h.tail o ho) hstep

end Stacked

/-! ## The messages of a loop -/

/-- A loop that agrees with a list of messages: its range lies in the list, and its members are what
the list holds there. -/
structure Loop.IsSlice (messages : List Message) (l : Loop) : Prop where
  /-- The range does not begin before the list. -/
  first_nonneg : 0 ≤ l.first
  /-- The range is not of negative length. -/
  first_le : l.first ≤ l.last + 1
  /-- The range does not end after the list. -/
  last_lt : l.last + 1 ≤ messages.length
  /-- The members are the messages in the range. -/
  members_eq : l.members = (messages.take (l.last + 1).toNat).drop l.first.toNat

/-- A loop that agrees with the messages has no members exactly if its range is empty. -/
theorem Loop.IsSlice.members_eq_nil_iff {messages : List Message} {l : Loop}
    (h : l.IsSlice messages) : l.members = [] ↔ l.isEmpty = true := by
  have h₀ := h.first_nonneg
  have h₁ := h.first_le
  have h₂ := h.last_lt
  rw [h.members_eq, List.drop_eq_nil_iff, List.length_take, Loop.isEmpty, decide_eq_true_iff]
  omega

/-- Closing the innermost loop gives a slice of the messages sent so far, and so of any list that
begins with them. -/
theorem Stacked.close_isSlice {sent : List Message} {inner : OpenLoop} {outer : List OpenLoop}
    (h : Stacked sent (inner :: outer)) (later : List Message) :
    (inner.close sent.length).IsSlice (sent ++ later) where
  first_nonneg := by simp [OpenLoop.close]
  first_le := by simpa [OpenLoop.close] using h.first_le
  last_lt := by
    simp only [OpenLoop.close, List.length_append]
    omega
  members_eq := by simp [OpenLoop.close, h.members_eq]

theorem Balanced.isSlice {n : Nat} {ss : List Statement} (hb : Balanced n ss)
    {sent : List Message} {opened : List OpenLoop} (h : Stacked sent opened)
    (hn : opened.length = n) :
    ∀ l ∈ loopsFrom opened sent.length ss, l.IsSlice (sent ++ ss.filterMap Statement.sent?) := by
  induction hb generalizing sent opened with
  | nil =>
    obtain rfl := List.length_eq_zero_iff.1 hn
    simp [loopsFrom]
  | openLoop label _ ih => exact ih (h.openLoop label) (by simp [hn])
  | closeLoop _ ih =>
    obtain ⟨inner, outer, rfl⟩ := List.exists_cons_of_length_eq_add_one hn
    intro l hl
    rcases List.mem_cons.1 hl with rfl | hl
    · exact h.close_isSlice _
    · exact ih h.tail (by simpa using hn) l hl
  | message m _ ih =>
    have hm := ih (h.receive m) (by simpa using hn)
    simpa [loopsFrom, Statement.sent?] using hm

/-! ## The nesting of loops -/

/-- How a loop lies to one that is listed later: wholly before it, or inside it and deeper. -/
def Loop.ApartOrInside (a b : Loop) : Prop :=
  a.last < b.first ∨ b.first ≤ a.first ∧ a.last ≤ b.last ∧ b.depth < a.depth

/-- A loop that ends from now on ends no earlier than now, and it begins no earlier or is one of
those that are open. -/
theorem Balanced.began_or_opened {n : Nat} {ss : List Statement} (hb : Balanced n ss) {sent : Nat}
    {opened : List OpenLoop} (hn : opened.length = n) :
    ∀ l ∈ loopsFrom opened sent ss, (sent : Int) ≤ l.last + 1 ∧
      ((sent : Int) ≤ l.first ∨ ∃ o ∈ opened, l.first = o.first ∧ l.depth = o.depth) := by
  induction hb generalizing sent opened with
  | nil =>
    obtain rfl := List.length_eq_zero_iff.1 hn
    simp [loopsFrom]
  | openLoop label _ ih =>
    intro l hl
    obtain ⟨hlast, hfirst | ⟨o, ho, hof, hod⟩⟩ := ih (by simp [hn]) l hl
    · exact ⟨hlast, .inl hfirst⟩
    · rcases List.mem_cons.1 ho with rfl | ho
      · exact ⟨hlast, .inl (Int.le_of_eq hof.symm)⟩
      · exact ⟨hlast, .inr ⟨o, ho, hof, hod⟩⟩
  | closeLoop _ ih =>
    obtain ⟨inner, outer, rfl⟩ := List.exists_cons_of_length_eq_add_one hn
    intro l hl
    rcases List.mem_cons.1 hl with rfl | hl
    · exact ⟨by simp [OpenLoop.close], .inr ⟨inner, by simp, rfl, rfl⟩⟩
    · obtain ⟨hlast, hfirst | ⟨o, ho, heq⟩⟩ := ih (by simpa using hn) l hl
      · exact ⟨hlast, .inl hfirst⟩
      · exact ⟨hlast, .inr ⟨o, List.mem_cons_of_mem _ ho, heq⟩⟩
  | message m _ ih =>
    intro l hl
    obtain ⟨hlast, hfirst | ⟨o, ho, hof, hod⟩⟩ := ih (by simpa using hn) l hl
    · exact ⟨by omega, .inl (by omega)⟩
    · obtain ⟨p, hp, rfl⟩ := List.mem_map.1 ho
      exact ⟨by omega, .inr ⟨p, hp, hof, hod⟩⟩

theorem Balanced.pairwise_apartOrInside {n : Nat} {ss : List Statement} (hb : Balanced n ss)
    {sent : List Message} {opened : List OpenLoop} (h : Stacked sent opened)
    (hn : opened.length = n) :
    (loopsFrom opened sent.length ss).Pairwise Loop.ApartOrInside := by
  induction hb generalizing sent opened with
  | nil =>
    obtain rfl := List.length_eq_zero_iff.1 hn
    exact List.Pairwise.nil
  | openLoop label _ ih => exact ih (h.openLoop label) (by simp [hn])
  | closeLoop hb' ih =>
    obtain ⟨inner, outer, rfl⟩ := List.exists_cons_of_length_eq_add_one hn
    have hn' := Nat.succ.inj hn
    refine List.pairwise_cons.2 ⟨fun l hl ↦ ?_, ih h.tail hn'⟩
    obtain ⟨hlast, hfirst | ⟨o, ho, hof, hod⟩⟩ := hb'.began_or_opened hn' l hl
    · exact .inl (by simp only [OpenLoop.close]; omega)
    · have hfirst := h.outer_first_le o ho
      have hdepth := h.depth_lt o ho
      exact .inr (by simp only [OpenLoop.close]; omega)
  | message m _ ih =>
    have hm := ih (h.receive m) (by simpa using hn)
    simpa [loopsFrom] using hm

/-- The first loop to end that is not deeper than the open loop `o` is `o` itself. -/
theorem Balanced.find?_depth_lt {n : Nat} {ss : List Statement} (hb : Balanced n ss)
    {sent : List Message} {inner outer : List OpenLoop} {o : OpenLoop}
    (h : Stacked sent (inner ++ o :: outer)) (hn : (inner ++ o :: outer).length = n) :
    ∃ p, (loopsFrom (inner ++ o :: outer) sent.length ss).find?
        (·.depth < (outer.length : Int) + 1) = some p ∧
      p.first = o.first ∧ p.depth = o.depth ∧ (sent.length : Int) ≤ p.last + 1 := by
  induction hb generalizing sent inner outer o with
  | nil => simp at hn
  | openLoop label _ ih =>
    have hopen : Stacked sent
        ((⟨label, sent.length, (inner ++ o :: outer).length, #[]⟩ :: inner) ++ o :: outer) :=
      h.openLoop label
    exact ih hopen (by simpa using hn)
  | closeLoop _ ih =>
    cases inner with
    | nil =>
      refine ⟨o.close sent.length, ?_, rfl, rfl, by simp [OpenLoop.close]⟩
      have hdepth : o.depth = outer.length := h.depth_eq
      have hshallow : (o.close sent.length).depth < (outer.length : Int) + 1 := by
        simp only [OpenLoop.close]
        omega
      exact List.find?_cons_of_pos (by simpa using hshallow)
    | cons i inner =>
      obtain ⟨p, hp, heq⟩ := ih h.tail (by simpa using hn)
      refine ⟨p, ?_, heq⟩
      have hdepth : i.depth = (inner ++ o :: outer).length := h.depth_eq
      rw [List.length_append, List.length_cons] at hdepth
      have hdeep : ¬ (i.close sent.length).depth < (outer.length : Int) + 1 := by
        simp only [OpenLoop.close]
        omega
      rw [List.cons_append, loopsFrom, List.find?_cons_of_neg (by simpa using hdeep), hp]
  | message m _ ih =>
    have hm := h.receive m
    rw [List.map_append, List.map_cons] at hm
    obtain ⟨p, hp, hfirst, hdepth, hlast⟩ := ih hm (by simpa using hn)
    refine ⟨p, ?_, hfirst, hdepth, ?_⟩
    · simpa [loopsFrom] using hp
    · simp only [List.length_append, List.length_singleton] at hlast
      omega

/-- **Every loop inside another has a parent**, the first of the later ones that is not as deep. -/
theorem Balanced.exists_parent {n : Nat} {ss : List Statement} (hb : Balanced n ss)
    {sent : List Message} {opened : List OpenLoop} (h : Stacked sent opened)
    (hn : opened.length = n) {l : Loop} {later : List Loop}
    (hl : l :: later <:+ loopsFrom opened sent.length ss) (hdepth : 0 < l.depth) :
    ∃ p, later.find? (·.depth < l.depth) = some p ∧
      p.depth = l.depth - 1 ∧ p.first ≤ l.first ∧ l.last ≤ p.last := by
  induction hb generalizing sent opened with
  | nil =>
    obtain rfl := List.length_eq_zero_iff.1 hn
    simp [loopsFrom] at hl
  | openLoop label _ ih => exact ih (h.openLoop label) (by simp [hn]) hl
  | closeLoop hb' ih =>
    obtain ⟨inner, outer, rfl⟩ := List.exists_cons_of_length_eq_add_one hn
    rw [loopsFrom, List.suffix_cons_iff] at hl
    rcases hl with heq | hl
    · obtain ⟨rfl, rfl⟩ := List.cons.inj heq
      have hinner := h.depth_eq
      cases outer with
      | nil => simp [OpenLoop.close, hinner] at hdepth
      | cons o outer =>
        have htail : Stacked sent ([] ++ o :: outer) := h.tail
        obtain ⟨p, hp, hpf, hpd, hpl⟩ := hb'.find?_depth_lt htail (Nat.succ.inj hn)
        have ho := h.tail.depth_eq
        have hfirst := h.outer_first_le o (by simp)
        rw [List.length_cons] at hinner
        refine ⟨p, ?_, ?_, ?_, ?_⟩
        · simpa [OpenLoop.close, hinner] using hp
        all_goals
          simp only [OpenLoop.close]
          omega
    · exact ih h.tail (by simpa using hn) hl
  | message m _ ih =>
    exact ih (h.receive m) (by simpa using hn) (by simpa [loopsFrom] using hl)

theorem depth_nonneg_of_mem_loopsFrom {ss : List Statement} {opened : List OpenLoop} {sent : Nat} :
    ∀ l ∈ loopsFrom opened sent ss, 0 ≤ l.depth := by
  fun_induction loopsFrom opened sent ss with
  | case1 opened sent => simp [OpenLoop.close]
  | case4 sent rest inner outer ih => simpa [OpenLoop.close] using ih
  | _ => assumption

/-! ## The loops of a source -/

/-- A text is read as its balanced form is, so what holds of the loops of balanced lists that begin
with no loop open holds of the loops of every text. -/
theorem exists_balanced_loops_eq (text : String) :
    ∃ ss, Balanced 0 ss ∧ (Diagram.ofText text).loops = loopsFrom [] 0 ss ∧
      (Diagram.ofText text).messages = ss.filterMap Statement.sent? :=
  ⟨balance 0 (statements text), balanced_balance 0 _,
    (Diagram.loops_ofText text).trans (loopsFrom_balance [] 0 _).symm,
    (Diagram.messages_ofText text).trans (filterMap_sent?_balance 0 _).symm⟩

/-- **Every loop that is read holds the messages of its range**, whatever the loop lines and `end`
lines of the source are: the range lies in the message list, and the members are what the list holds
there, none exactly if the range is empty. -/
theorem loops_isSlice (text : String) : ∀ l ∈ (Diagram.ofText text).loops,
    l.IsSlice (Diagram.ofText text).messages ∧ (l.members = [] ↔ l.isEmpty = true) := by
  obtain ⟨ss, hb, hloops, hmessages⟩ := exists_balanced_loops_eq text
  intro l hl
  rw [hloops] at hl
  have h : l.IsSlice (Diagram.ofText text).messages := by
    simpa [hmessages] using hb.isSlice stacked_nil rfl l hl
  exact ⟨h, h.members_eq_nil_iff⟩

/-- The source has a loop with one message around a loop with none, then an `end` that closes
nothing and a loop that is not closed. -/
theorem loops_isSlice_stray_end :
    let text := "loop a\nA->>B: x\nloop b\nend\nend\nend\nloop\nB-->A: y"
    let l : Loop := ⟨"a", [⟨"A", "B", "x", .solid⟩], 0, 0, 0⟩
    l ∈ (Diagram.ofText text).loops ∧
      l.IsSlice (Diagram.ofText text).messages ∧ (l.members = [] ↔ l.isEmpty = true) := by
  intro text l
  have hl : l ∈ (Diagram.ofText text).loops := by decide +kernel
  exact ⟨hl, loops_isSlice text l hl⟩

/-- Two loops that do not overlap in part: one is wholly before the other, or inside it. -/
def Loop.ApartOrNested (a b : Loop) : Prop :=
  a.last < b.first ∨ b.last < a.first ∨
    b.first ≤ a.first ∧ a.last ≤ b.last ∨ a.first ≤ b.first ∧ b.last ≤ a.last

theorem Loop.ApartOrInside.apartOrNested {a b : Loop} (h : a.ApartOrInside b) :
    a.ApartOrNested b := by
  rcases h with h | ⟨hfirst, hlast, -⟩
  · exact .inl h
  · exact .inr (.inr (.inl ⟨hfirst, hlast⟩))

theorem Loop.ApartOrNested.symm {a b : Loop} (h : a.ApartOrNested b) : b.ApartOrNested a := by
  rcases h with h | h | h | h
  · exact .inr (.inl h)
  · exact .inl h
  · exact .inr (.inr (.inr h))
  · exact .inr (.inr (.inl h))

/-- A list of loops is a forest in which children come before their parents. -/
structure Loop.IsForest (loops : List Loop) : Prop where
  /-- A loop lies wholly before a later one, or inside it and deeper. -/
  apart_or_inside : loops.Pairwise Loop.ApartOrInside
  /-- The parent of a loop inside another is the first later one that is not as deep. -/
  exists_parent : ∀ i l, loops[i]? = some l → 0 < l.depth →
    ∃ p, (loops.drop (i + 1)).find? (·.depth < l.depth) = some p ∧
      p.depth = l.depth - 1 ∧ p.first ≤ l.first ∧ l.last ≤ p.last
  /-- The last loop is inside no other. -/
  getLast_depth : ∀ l, loops.getLast? = some l → l.depth = 0
  /-- No two loops overlap in part. -/
  apart_or_nested : ∀ a ∈ loops, ∀ b ∈ loops, a.ApartOrNested b

/-- Loops that are pairwise apart or inside one another do not overlap in part. -/
theorem Loop.apartOrNested_of_pairwise {loops : List Loop}
    (h : loops.Pairwise Loop.ApartOrInside) : ∀ a ∈ loops, ∀ b ∈ loops, a.ApartOrNested b := by
  intro a ha b hb
  refine List.Pairwise.forall_of_forall_of_flip (fun l _ ↦ ?_)
    (h.imp Loop.ApartOrInside.apartOrNested)
    (h.imp fun hab ↦ hab.apartOrNested.symm) ha hb
  exact .inr (.inr (.inl ⟨Int.le_refl _, Int.le_refl _⟩))

/-- **The loops that are read are a forest**, listed children before parents. -/
theorem loops_isForest (text : String) : Loop.IsForest (Diagram.ofText text).loops := by
  obtain ⟨ss, hb, hloops, -⟩ := exists_balanced_loops_eq text
  rw [hloops]
  have hpairwise := hb.pairwise_apartOrInside stacked_nil rfl
  refine ⟨hpairwise, fun i l hi hdepth ↦ ?_, fun l hl ↦ ?_,
    Loop.apartOrNested_of_pairwise hpairwise⟩
  · obtain ⟨hlt, rfl⟩ := List.getElem?_eq_some_iff.1 hi
    refine hb.exists_parent stacked_nil rfl ?_ hdepth
    rw [List.getElem_cons_drop]
    exact List.drop_suffix i _
  · obtain ⟨before, heq⟩ := List.getLast?_eq_some_iff.1 hl
    have hnonneg := depth_nonneg_of_mem_loopsFrom l (by rw [heq]; simp)
    rcases Int.lt_or_eq_of_le hnonneg with hpos | hzero
    · obtain ⟨p, hp, -⟩ := hb.exists_parent stacked_nil rfl ⟨before, heq.symm⟩ hpos
      simp at hp
    · exact hzero.symm

end SequenceChart
