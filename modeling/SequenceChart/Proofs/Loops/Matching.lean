import SequenceChart.Proofs.Diagram.Effective

/-!
# Matching loop lines with `end` lines

`loopsFrom` keeps the open loops on a stack.  Said without a stack, loop lines and `end` lines are
matched as brackets are: a loop line belongs to the first `end` line behind it at which the `end`
lines outnumber the loop lines in between, or to the end of the input.  This file defines that
matching on positions, by counting, and shows that the loops that are read are the matched pairs.

The bridge is `untilEnd`, the same matching as a recursion over the statements that are left: with
`d` further loops open inside, how many statements come before the `end` line.  It moves in step
with the stack, where the loop at height `i` has `i` loops inside (`Tracks`).

## Main definitions

* `Matching.endOf` — the position of the `end` line that belongs to a loop line.
* `Matching.loopAt` — the loop of a loop line, with everything counted off the matching.
* `Matching.EndsBefore` — the order in which loops are listed.
* `Matching.Listed` — the loops of the loop lines, listed in that order.

## Main statements

* `listed_iff` — the loops of a list of statements are those of its matching, and only these.
* `loops_eq_map_loopAt` — the loops of a text are those of its loop lines, in that order.
-/

set_option autoImplicit false
namespace SequenceChart

namespace Statement

/-- Whether a statement begins a loop. -/
def opens : Statement → Bool
  | openLoop _ => true
  | _ => false

/-- Whether a statement is an `end`. -/
def closes : Statement → Bool
  | closeLoop => true
  | _ => false

end Statement

namespace Matching

/-! ## The matching -/

section Definitions

variable (ss : List Statement)

/-- Whether the statement at position `p` begins a loop. -/
def opensAt (p : Nat) : Bool :=
  ss[p]?.any Statement.opens

/-- The statements behind position `p`, up to and including the one at position `q`. -/
def upTo (p q : Nat) : List Statement :=
  (ss.take (q + 1)).drop (p + 1)

/-- Whether there is an `end` at position `q`, behind position `p`, and the `end` lines behind `p`
up to there outnumber the loop lines. -/
def outnumbers (p q : Nat) : Bool :=
  p < q && ss[q]?.any Statement.closes &&
    (upTo ss p q).countP Statement.opens < (upTo ss p q).countP Statement.closes

/-- Where the loop that begins at position `p` ends: at the first `end` behind it at which the `end`
lines outnumber the loop lines, or at the end of the input if there is none. -/
def endOf (p : Nat) : Nat :=
  ((List.range ss.length).find? (outnumbers ss p)).getD ss.length

/-- How many messages are sent before position `k`. -/
def sentBefore (k : Nat) : Nat :=
  ((ss.take k).filterMap Statement.sent?).length

/-- How many loops begin before position `p` and end behind it. -/
def depthAt (p : Nat) : Nat :=
  (List.range p).countP fun q ↦ opensAt ss q && p < endOf ss q

/-- The loop with a given label that begins at position `p`. -/
def loopAt (label : String) (p : Nat) : Loop where
  label := label
  members := ((ss.take (endOf ss p)).drop p).filterMap Statement.sent?
  first := sentBefore ss p
  last := (sentBefore ss (endOf ss p) : Int) - 1
  depth := depthAt ss p

/-- The positions at which loops begin. -/
def loopLines : List Nat :=
  (List.range ss.length).filter (opensAt ss)

/-- The loop that begins at `p` is listed before the one that begins at `q`: it ends first, or
neither has an `end` and it begins last. -/
def EndsBefore (p q : Nat) : Prop :=
  endOf ss p < endOf ss q ∨ endOf ss p = ss.length ∧ endOf ss q = ss.length ∧ q < p

end Definitions

theorem EndsBefore.asymm {ss : List Statement} {p q : Nat} (h : EndsBefore ss p q) :
    ¬ EndsBefore ss q p := by
  unfold EndsBefore at h ⊢
  omega

/-! ## The matching as a recursion -/

/-- How many statements come before the `end` of a loop that has `d` open loops inside it, or how
many there are if it has no `end`. -/
def untilEnd : Nat → List Statement → Nat
  | _, [] => 0
  | d, .openLoop _ :: ss => untilEnd (d + 1) ss + 1
  | 0, .closeLoop :: _ => 0
  | d + 1, .closeLoop :: ss => untilEnd d ss + 1
  | d, .message _ :: ss | d, .participant _ :: ss | d, .note _ :: ss | d, .comment :: ss
  | d, .unrecognized :: ss => untilEnd d ss + 1

theorem untilEnd_le_length (d : Nat) (ss : List Statement) : untilEnd d ss ≤ ss.length := by
  fun_induction untilEnd d ss with
  | case1 | case3 => exact Nat.zero_le _
  | _ =>
    rename_i ih
    exact Nat.succ_le_succ ih

/-- A statement that is neither a loop line nor an `end` line is stepped over. -/
theorem untilEnd_cons {s : Statement} (hopen : s.opens = false) (hclose : s.closes = false)
    (d : Nat) (ss : List Statement) : untilEnd d (s :: ss) = untilEnd d ss + 1 := by
  cases s with
  | openLoop => cases hopen
  | closeLoop => cases hclose
  | message | participant | note | comment | unrecognized => simp [untilEnd]

/-- Before the `end` of a loop the `end` lines never outnumber the loop lines and the open loops. -/
theorem countP_closes_le {d j : Nat} {ss : List Statement} (hj : j < untilEnd d ss) :
    (ss.take (j + 1)).countP Statement.closes ≤ (ss.take (j + 1)).countP Statement.opens + d := by
  fun_induction untilEnd d ss generalizing j with
  | case1 | case3 => exact absurd hj (Nat.not_lt_zero j)
  | _ =>
    rename_i ih
    cases j with
    | zero => simp [Statement.opens, Statement.closes]
    | succ j =>
      have h := ih (Nat.lt_of_succ_lt_succ hj)
      simp only [List.take_succ_cons, List.countP_cons, Statement.opens, Statement.closes] at h ⊢
      simp
      omega

/-- At the `end` of a loop the `end` lines outnumber the loop lines and the open loops. -/
theorem closes_at_untilEnd {d : Nat} {ss : List Statement} (h : untilEnd d ss < ss.length) :
    ss[untilEnd d ss]? = some .closeLoop ∧
      (ss.take (untilEnd d ss + 1)).countP Statement.opens + d <
        (ss.take (untilEnd d ss + 1)).countP Statement.closes := by
  fun_induction untilEnd d ss with
  | case1 => exact absurd h (Nat.lt_irrefl 0)
  | case3 => simp [Statement.opens, Statement.closes]
  | _ =>
    rename_i ih
    obtain ⟨hget, hcount⟩ := ih (Nat.lt_of_succ_lt_succ h)
    refine ⟨by simpa using hget, ?_⟩
    simp only [List.take_succ_cons, List.countP_cons, Statement.opens, Statement.closes] at hcount ⊢
    simp
    omega

theorem outnumbers_iff {ss : List Statement} {p j : Nat} :
    outnumbers ss p (p + 1 + j) = true ↔
      (ss.drop (p + 1))[j]? = some .closeLoop ∧
        ((ss.drop (p + 1)).take (j + 1)).countP Statement.opens <
          ((ss.drop (p + 1)).take (j + 1)).countP Statement.closes := by
  have hupTo : upTo ss p (p + 1 + j) = (ss.drop (p + 1)).take (j + 1) := by
    rw [upTo, List.drop_take]
    congr 1
    omega
  have hclose : (ss[p + 1 + j]?.any Statement.closes) = true ↔
      (ss.drop (p + 1))[j]? = some .closeLoop := by
    rw [List.getElem?_drop, Option.any_eq_true]
    constructor
    · rintro ⟨s, hs, hcloses⟩
      cases s <;> first | exact hs | cases hcloses
    · intro hs
      exact ⟨.closeLoop, hs, rfl⟩
  have hlt : p < p + 1 + j := by omega
  simp [outnumbers, hupTo, hclose, hlt]

/-- **The matching by counting is the matching by recursion.** -/
theorem endOf_eq {ss : List Statement} {p : Nat} (hp : p < ss.length) :
    endOf ss p = p + 1 + untilEnd 0 (ss.drop (p + 1)) := by
  have hnot : ∀ q, q < p + 1 + untilEnd 0 (ss.drop (p + 1)) → outnumbers ss p q = false := by
    intro q hq
    rcases Nat.lt_or_ge p q with hlt | hge
    · obtain ⟨j, rfl⟩ := Nat.exists_eq_add_of_le (show p + 1 ≤ q from hlt)
      have hcount := countP_closes_le (show j < untilEnd 0 (ss.drop (p + 1)) by omega)
      rw [Bool.eq_false_iff]
      intro hout
      have := (outnumbers_iff.1 hout).2
      omega
    · simp [outnumbers, Nat.not_lt.2 hge]
  have hle := untilEnd_le_length 0 (ss.drop (p + 1))
  rw [List.length_drop] at hle
  rw [endOf]
  rcases Nat.lt_or_eq_of_le hle with hlt | heq
  · have hout : outnumbers ss p (p + 1 + untilEnd 0 (ss.drop (p + 1))) = true :=
      outnumbers_iff.2 (closes_at_untilEnd (by simpa using hlt))
    rw [List.find?_range_eq_some.2 ⟨hout, List.mem_range.2 (by omega), by simpa using hnot⟩]
    rfl
  · rw [List.find?_range_eq_none.2 fun q hq ↦ by simp [hnot q (by omega)], Option.getD_none]
    omega

theorem endOf_le {ss : List Statement} {p : Nat} (hp : p < ss.length) :
    endOf ss p ≤ ss.length := by
  have hle := untilEnd_le_length 0 (ss.drop (p + 1))
  rw [List.length_drop] at hle
  rw [endOf_eq hp]
  omega

theorem lt_endOf {ss : List Statement} {p : Nat} (hp : p < ss.length) : p < endOf ss p := by
  rw [endOf_eq hp]
  omega

theorem lt_length_of_opensAt {ss : List Statement} {p : Nat} (h : opensAt ss p = true) :
    p < ss.length := by
  obtain ⟨s, hs, -⟩ := (Option.any_eq_true _ _).1 h
  exact (List.getElem?_eq_some_iff.1 hs).1

/-! ## The stack of positions -/

section Position

variable {ss rest : List Statement} {s : Statement} {k : Nat}

theorem getElem?_of_drop (h : ss.drop k = s :: rest) : ss[k]? = some s := by
  rw [← Nat.add_zero k, ← List.getElem?_drop, h, List.getElem?_cons_zero]

theorem drop_succ_of_drop (h : ss.drop k = s :: rest) : ss.drop (k + 1) = rest := by
  rw [← List.drop_drop, h, List.drop_succ_cons, List.drop_zero]

theorem take_succ_of_drop (h : ss.drop k = s :: rest) : ss.take (k + 1) = ss.take k ++ [s] := by
  rw [List.take_add_one, getElem?_of_drop h, Option.toList_some]

theorem drop_take_succ {p : Nat} (h : ss.drop k = s :: rest) (hp : p ≤ k) :
    (ss.take (k + 1)).drop p = (ss.take k).drop p ++ [s] := by
  have hk := (List.getElem?_eq_some_iff.1 (getElem?_of_drop h)).1
  rw [take_succ_of_drop h, List.drop_append_of_le_length (by rw [List.length_take]; omega)]

theorem opensAt_of_drop (h : ss.drop k = s :: rest) : opensAt ss k = s.opens := by
  rw [opensAt, getElem?_of_drop h, Option.any_some]

end Position

/-- The stack of open loops in front of position `k`, as positions: the loops that begin before `k`
and do not end before it, the last to begin on top.  Each ends when the loops above it have. -/
structure Tracks (ss : List Statement) (k : Nat) (stack : List Nat) : Prop where
  /-- The loops that began later are nearer to the top. -/
  sorted : stack.Pairwise (· > ·)
  /-- Those on the stack are those that begin before `k` and do not end before it. -/
  mem_iff : ∀ p, p ∈ stack ↔ opensAt ss p = true ∧ p < k ∧ k ≤ endOf ss p
  /-- The loop at height `i` ends as one with `i` loops open inside it. -/
  endOf_eq : ∀ i p, stack[i]? = some p → endOf ss p = k + untilEnd i (ss.drop k)

namespace Tracks

variable {ss rest : List Statement} {s : Statement} {k p : Nat} {stack : List Nat}

theorem zero (ss : List Statement) : Tracks ss 0 [] where
  sorted := .nil
  mem_iff := by simp
  endOf_eq := by simp

theorem lt (h : Tracks ss k stack) (hp : p ∈ stack) : p < k :=
  ((h.mem_iff p).1 hp).2.1

/-- Only a loop line adds to the stack. -/
theorem mem_of_not_opens (h : Tracks ss k stack) (hrest : ss.drop k = s :: rest)
    (hs : s.opens = false) (hopen : opensAt ss p = true) (hp : p < k + 1) (hend : k ≤ endOf ss p) :
    p ∈ stack := by
  refine (h.mem_iff p).2 ⟨hopen, Nat.lt_of_le_of_ne (Nat.le_of_lt_succ hp) ?_, hend⟩
  rintro rfl
  rw [opensAt_of_drop hrest, hs] at hopen
  cases hopen

/-- Nothing ends at a statement that is no `end`. -/
theorem lt_endOf_of_not_closes (h : Tracks ss k stack) (hrest : ss.drop k = s :: rest)
    (hs : s.closes = false) (hp : p ∈ stack) : k < endOf ss p := by
  obtain ⟨i, hi⟩ := List.mem_iff_getElem?.1 hp
  rw [h.endOf_eq i p hi, hrest]
  cases s with
  | closeLoop => cases hs
  | openLoop | message | participant | note | comment | unrecognized =>
    simp only [untilEnd]
    omega

/-- A loop line puts its position on the stack. -/
theorem openLoop {label : String} (h : Tracks ss k stack)
    (hrest : ss.drop k = .openLoop label :: rest) : Tracks ss (k + 1) (k :: stack) where
  sorted := List.pairwise_cons.2 ⟨fun _ hp ↦ h.lt hp, h.sorted⟩
  mem_iff p := by
    have hopen : opensAt ss k = true := opensAt_of_drop hrest
    have hend : k < endOf ss k := lt_endOf (lt_length_of_opensAt hopen)
    rw [List.mem_cons]
    constructor
    · rintro (rfl | hp)
      · exact ⟨hopen, Nat.lt_succ_self _, hend⟩
      · obtain ⟨hpopen, hpk, -⟩ := (h.mem_iff p).1 hp
        exact ⟨hpopen, Nat.lt_succ_of_lt hpk, h.lt_endOf_of_not_closes hrest rfl hp⟩
    · rintro ⟨hpopen, hpk, hpend⟩
      rcases Nat.lt_succ_iff_lt_or_eq.1 hpk with hlt | rfl
      · exact .inr ((h.mem_iff p).2 ⟨hpopen, hlt, Nat.le_of_succ_le hpend⟩)
      · exact .inl rfl
  endOf_eq i p hi := by
    rw [drop_succ_of_drop hrest]
    cases i with
    | zero =>
      obtain rfl : k = p := by simpa using hi
      rw [Matching.endOf_eq (lt_length_of_opensAt (opensAt_of_drop hrest)),
        drop_succ_of_drop hrest]
    | succ i =>
      rw [h.endOf_eq i p (by simpa using hi), hrest, untilEnd]
      omega

/-- An `end` takes the top of the stack, and that is the loop that ends there. -/
theorem closeLoop (h : Tracks ss k (p :: stack)) (hrest : ss.drop k = .closeLoop :: rest) :
    endOf ss p = k ∧ Tracks ss (k + 1) stack := by
  have htop : endOf ss p = k := by
    rw [h.endOf_eq 0 p rfl, hrest, untilEnd, Nat.add_zero]
  have hbelow : ∀ i q, stack[i]? = some q → endOf ss q = k + 1 + untilEnd i rest := by
    intro i q hi
    rw [h.endOf_eq (i + 1) q (by simpa using hi), hrest, untilEnd]
    omega
  refine ⟨htop, (List.pairwise_cons.1 h.sorted).2, fun q ↦ ⟨fun hq ↦ ?_, ?_⟩, fun i q hi ↦ ?_⟩
  · obtain ⟨hqopen, hqk, -⟩ := (h.mem_iff q).1 (List.mem_cons_of_mem _ hq)
    obtain ⟨i, hi⟩ := List.mem_iff_getElem?.1 hq
    have hqend := hbelow i q hi
    exact ⟨hqopen, Nat.lt_succ_of_lt hqk, by omega⟩
  · rintro ⟨hqopen, hqk, hqend⟩
    have hq := h.mem_of_not_opens hrest rfl hqopen hqk (Nat.le_of_succ_le hqend)
    rcases List.mem_cons.1 hq with rfl | hq
    · omega
    · exact hq
  · rw [drop_succ_of_drop hrest]
    exact hbelow i q hi

/-- An `end` that finds the stack empty leaves it so. -/
theorem closeLoop_nil (h : Tracks ss k []) (hrest : ss.drop k = .closeLoop :: rest) :
    Tracks ss (k + 1) [] where
  sorted := .nil
  mem_iff q := by
    refine ⟨by simp, ?_⟩
    rintro ⟨hqopen, hqk, hqend⟩
    exact h.mem_of_not_opens hrest rfl hqopen hqk (Nat.le_of_succ_le hqend)
  endOf_eq := by simp

/-- Any other statement leaves the stack as it is. -/
theorem skip (h : Tracks ss k stack) (hrest : ss.drop k = s :: rest) (hopen : s.opens = false)
    (hclose : s.closes = false) : Tracks ss (k + 1) stack where
  sorted := h.sorted
  mem_iff q := by
    refine ⟨fun hq ↦ ?_, ?_⟩
    · obtain ⟨hqopen, hqk, -⟩ := (h.mem_iff q).1 hq
      exact ⟨hqopen, Nat.lt_succ_of_lt hqk, h.lt_endOf_of_not_closes hrest hclose hq⟩
    · rintro ⟨hqopen, hqk, hqend⟩
      exact h.mem_of_not_opens hrest hopen hqopen hqk (Nat.le_of_succ_le hqend)
  endOf_eq i q hi := by
    rw [h.endOf_eq i q hi, hrest, untilEnd_cons hopen hclose, drop_succ_of_drop hrest]
    omega

/-- The height of the stack in front of a loop line is the depth of its loop. -/
theorem depthAt_eq {label : String} (h : Tracks ss k stack)
    (hrest : ss.drop k = .openLoop label :: rest) : depthAt ss k = stack.length := by
  rw [depthAt, List.countP_eq_length_filter]
  refine List.Perm.length_eq ((List.perm_ext_iff_of_nodup ?_ ?_).2 fun q ↦ ?_)
  · exact List.nodup_range.filter _
  · exact h.sorted.imp fun hlt ↦ (Nat.ne_of_lt hlt).symm
  · simp only [List.mem_filter, List.mem_range, Bool.and_eq_true, decide_eq_true_iff]
    constructor
    · rintro ⟨hqk, hqopen, hqend⟩
      exact (h.mem_iff q).2 ⟨hqopen, hqk, Nat.le_of_lt hqend⟩
    · intro hq
      obtain ⟨hqopen, hqk, -⟩ := (h.mem_iff q).1 hq
      exact ⟨hqk, hqopen, h.lt_endOf_of_not_closes hrest rfl hq⟩

/-- What ends at position `k` is on the stack in front of it. -/
theorem mem_of_endOf_eq (h : Tracks ss k stack) (hopen : opensAt ss p = true)
    (hend : endOf ss p = k) : p ∈ stack :=
  (h.mem_iff p).2 ⟨hopen, hend ▸ lt_endOf (lt_length_of_opensAt hopen), Nat.le_of_eq hend.symm⟩

end Tracks

/-! ## The run -/

section Run

variable {ss rest : List Statement} {s : Statement} {k p : Nat} {label : Nat → String}

/-- The loop that begins at position `p`, as it is open in front of position `k`. -/
def openedAt (ss : List Statement) (label : Nat → String) (k p : Nat) : OpenLoop where
  label := label p
  first := sentBefore ss p
  depth := depthAt ss p
  members := (((ss.take k).drop p).filterMap Statement.sent?).toArray

/-- A loop that is closed where it ends is the loop of its loop line. -/
theorem close_openedAt (h : endOf ss p = k) :
    (openedAt ss label k p).close (sentBefore ss k) = loopAt ss (label p) p := by
  subst h
  rfl

theorem openedAt_succ (hrest : ss.drop k = s :: rest) (hs : s.sent? = none) (hp : p ≤ k) :
    openedAt ss label (k + 1) p = openedAt ss label k p := by
  simp [openedAt, drop_take_succ hrest hp, hs]

theorem openedAt_succ_of_message {m : Message} (hrest : ss.drop k = .message m :: rest)
    (hp : p ≤ k) : openedAt ss label (k + 1) p = (openedAt ss label k p).receive m := by
  simp [openedAt, OpenLoop.receive, drop_take_succ hrest hp, Statement.sent?]

theorem sentBefore_succ (hrest : ss.drop k = s :: rest) (hs : s.sent? = none) :
    sentBefore ss (k + 1) = sentBefore ss k := by
  simp [sentBefore, take_succ_of_drop hrest, hs]

theorem sentBefore_succ_of_message {m : Message} (hrest : ss.drop k = .message m :: rest) :
    sentBefore ss (k + 1) = sentBefore ss k + 1 := by
  simp [sentBefore, take_succ_of_drop hrest, Statement.sent?]

/-- What is claimed of the statements from position `k` on: the loops that end there are those of
the loop lines that are matched there, and they end in order. -/
def EndsFrom (ss : List Statement) (label : Nat → String) (k : Nat) (loops : List Loop) : Prop :=
  ∃ ps : List Nat, loops = ps.map (fun p ↦ loopAt ss (label p) p) ∧ ps.Pairwise (EndsBefore ss) ∧
    ∀ p, p ∈ ps ↔ opensAt ss p = true ∧ k ≤ endOf ss p

/-- At a position where nothing ends there is nothing to add. -/
theorem EndsFrom.of_succ {loops : List Loop} (h : EndsFrom ss label (k + 1) loops)
    (hne : ∀ p, opensAt ss p = true → endOf ss p ≠ k) : EndsFrom ss label k loops := by
  obtain ⟨ps, hps, hpairwise, hmem⟩ := h
  refine ⟨ps, hps, hpairwise, fun p ↦ (hmem p).trans (and_congr_right fun hopen ↦ ?_)⟩
  have := hne p hopen
  omega

/-- At the end of the input the loops on the stack end, the innermost first. -/
theorem endsFrom_length {stack : List Nat} (h : Tracks ss k stack) (hk : k = ss.length) :
    EndsFrom ss label k
      ((stack.map (openedAt ss label k)).map (·.close (sentBefore ss k))) := by
  have hend : ∀ p ∈ stack, endOf ss p = k := by
    intro p hp
    obtain ⟨hopen, -, hpend⟩ := (h.mem_iff p).1 hp
    have := endOf_le (lt_length_of_opensAt hopen)
    omega
  refine ⟨stack, ?_, ?_, fun p ↦ ?_⟩
  · rw [List.map_map]
    exact List.map_congr_left fun p hp ↦ close_openedAt (hend p hp)
  · refine h.sorted.imp_of_mem fun {p q} hp hq hlt ↦ .inr ⟨?_, ?_, hlt⟩
    · exact (hend p hp).trans hk
    · exact (hend q hq).trans hk
  · rw [h.mem_iff]
    constructor
    · rintro ⟨hopen, -, hpend⟩
      exact ⟨hopen, hpend⟩
    · rintro ⟨hopen, hpend⟩
      exact ⟨hopen, hk ▸ lt_length_of_opensAt hopen, hpend⟩

/-- **The loops that end in or after the statements from position `k` on are the matched ones.** -/
theorem endsFrom_loopsFrom (hlabel : ∀ p l, ss[p]? = some (.openLoop l) → label p = l)
    {stack : List Nat} (h : Tracks ss k stack) (hrest : ss.drop k = rest) (hk : k ≤ ss.length) :
    EndsFrom ss label k
      (loopsFrom (stack.map (openedAt ss label k)) (sentBefore ss k) rest) := by
  induction rest generalizing k stack with
  | nil =>
    have hlength : ss.length ≤ k := List.drop_eq_nil_iff.1 hrest
    exact endsFrom_length h (Nat.le_antisymm hk hlength)
  | cons s rest ih =>
    have hk' : k + 1 ≤ ss.length := (List.getElem?_eq_some_iff.1 (getElem?_of_drop hrest)).1
    have hdrop := drop_succ_of_drop hrest
    have hopened : s.sent? = none →
        stack.map (openedAt ss label (k + 1)) = stack.map (openedAt ss label k) := fun hs ↦
      List.map_congr_left fun p hp ↦ openedAt_succ hrest hs (Nat.le_of_lt (h.lt hp))
    have hne : s.closes = false → ∀ p, opensAt ss p = true → endOf ss p ≠ k := by
      intro hs p hopen hend
      have := h.lt_endOf_of_not_closes hrest hs (h.mem_of_endOf_eq hopen hend)
      omega
    cases s with
    | openLoop l =>
      have hnew : openedAt ss label (k + 1) k = ⟨l, sentBefore ss k, stack.length, #[]⟩ := by
        simp [openedAt, drop_take_succ hrest (Nat.le_refl k), hlabel k l (getElem?_of_drop hrest),
          h.depthAt_eq hrest, Statement.sent?]
      have := ih (h.openLoop hrest) hdrop hk'
      rw [List.map_cons, hnew, hopened rfl, sentBefore_succ hrest rfl] at this
      rw [loopsFrom, List.length_map]
      exact this.of_succ (hne rfl)
    | closeLoop =>
      cases stack with
      | nil =>
        have := ih (h.closeLoop_nil hrest) hdrop hk'
        rw [sentBefore_succ hrest rfl] at this
        refine this.of_succ fun p hopen hend ↦ ?_
        exact List.not_mem_nil (h.mem_of_endOf_eq hopen hend)
      | cons p stack =>
        obtain ⟨hend, htail⟩ := h.closeLoop hrest
        obtain ⟨ps, hps, hpairwise, hmem⟩ := ih htail hdrop hk'
        have htop := hopened rfl
        rw [List.map_cons, List.map_cons, List.cons.injEq] at htop
        rw [htop.2, sentBefore_succ hrest rfl] at hps
        refine ⟨p :: ps, ?_, ?_, fun q ↦ ?_⟩
        · rw [List.map_cons, loopsFrom, hps, List.map_cons, close_openedAt hend]
        · refine List.pairwise_cons.2 ⟨fun q hq ↦ .inl ?_, hpairwise⟩
          have := ((hmem q).1 hq).2
          omega
        · rw [List.mem_cons, hmem]
          constructor
          · rintro (rfl | ⟨hopen, hqend⟩)
            · exact ⟨((h.mem_iff q).1 (List.mem_cons_self ..)).1, Nat.le_of_eq hend.symm⟩
            · exact ⟨hopen, Nat.le_of_succ_le hqend⟩
          · rintro ⟨hopen, hqend⟩
            rcases Nat.lt_or_eq_of_le hqend with hlt | heq
            · exact .inr ⟨hopen, hlt⟩
            · rcases List.mem_cons.1 (h.mem_of_endOf_eq hopen heq.symm) with hq | hq
              · exact .inl hq
              · exact .inr ⟨hopen, ((htail.mem_iff q).1 hq).2.2⟩
    | message m =>
      have hreceive : stack.map (openedAt ss label (k + 1)) =
          (stack.map (openedAt ss label k)).map (·.receive m) := by
        rw [List.map_map]
        exact List.map_congr_left fun p hp ↦
          openedAt_succ_of_message hrest (Nat.le_of_lt (h.lt hp))
      have := ih (h.skip hrest rfl rfl) hdrop hk'
      rw [hreceive, sentBefore_succ_of_message hrest] at this
      exact this.of_succ (hne rfl)
    | participant | note | comment | unrecognized =>
      have := ih (h.skip hrest rfl rfl) hdrop hk'
      rw [hopened rfl, sentBefore_succ hrest rfl] at this
      exact this.of_succ (hne rfl)

/-- From the first statement on, these are all loop lines. -/
theorem EndsFrom.exists_perm {loops : List Loop} (h : EndsFrom ss label 0 loops) :
    ∃ ps : List Nat, ps.Perm (loopLines ss) ∧ ps.Pairwise (EndsBefore ss) ∧
      loops = ps.map fun p ↦ loopAt ss (label p) p := by
  obtain ⟨ps, hps, hpairwise, hmem⟩ := h
  refine ⟨ps, (List.perm_ext_iff_of_nodup ?_ ?_).2 fun p ↦ ?_, hpairwise, hps⟩
  · refine hpairwise.imp fun {p q} hpq heq ↦ ?_
    subst heq
    exact hpq.asymm hpq
  · exact List.nodup_range.filter _
  · rw [hmem, loopLines, List.mem_filter, List.mem_range]
    constructor
    · rintro ⟨hopen, -⟩
      exact ⟨lt_length_of_opensAt hopen, hopen⟩
    · rintro ⟨-, hopen⟩
      exact ⟨hopen, Nat.zero_le _⟩

end Run

/-! ## The loops of a list of statements -/

/-- The label of the loop line at a position. -/
def labelAt (ss : List Statement) (p : Nat) : String :=
  match ss[p]? with
  | some (.openLoop label) => label
  | _ => ""

/-- A list holds one loop for every loop line, with everything counted off the matching, in the
order in which they end. -/
def Listed (ss : List Statement) (loops : List Loop) : Prop :=
  ∃ ps : List Nat, ps.Perm (loopLines ss) ∧ ps.Pairwise (EndsBefore ss) ∧
    loops = ps.map fun p ↦ loopAt ss (labelAt ss p) p

/-- **Exactly one list of loops is that of the matching**, and it is the one that is read. -/
theorem listed_iff {ss : List Statement} {loops : List Loop} :
    Listed ss loops ↔ loopsFrom [] 0 ss = loops := by
  have hlabel : ∀ p l, ss[p]? = some (.openLoop l) → labelAt ss p = l := by
    intro p l hp
    rw [labelAt, hp]
  obtain ⟨ps, hperm, hpairwise, hps⟩ :=
    (endsFrom_loopsFrom hlabel (.zero ss) List.drop_zero (Nat.zero_le _)).exists_perm
  constructor
  · rintro ⟨qs, hperm', hpairwise', rfl⟩
    have heq : ps = qs :=
      (hperm.trans hperm'.symm).eq_of_pairwise (fun _ _ _ _ hpq hqp ↦ absurd hqp hpq.asymm)
        hpairwise hpairwise'
    rw [← heq]
    exact hps
  · rintro rfl
    exact ⟨ps, hperm, hpairwise, hps⟩

end Matching

/-! ## The loops of a text -/

open Matching

/-- **The loops of a text are those of its loop lines**, each matched with its `end` line by
counting, in the order in which they end; those without an `end` line come last, the innermost
first. -/
theorem loops_eq_map_loopAt (text : String) :
    ∃ ps : List Nat, ps.Perm (loopLines (effectiveStatements text)) ∧
      ps.Pairwise (EndsBefore (effectiveStatements text)) ∧
      (Diagram.ofText text).loops = ps.map fun p ↦
        loopAt (effectiveStatements text)
          (String.ofList (trim (((effectiveLines text).getD p []).drop 4))) p := by
  have hlabel : ∀ p l, (effectiveStatements text)[p]? = some (.openLoop l) →
      String.ofList (trim (((effectiveLines text).getD p []).drop 4)) = l := by
    intro p l hp
    rw [effectiveStatements, List.getElem?_map, Option.map_eq_some_iff] at hp
    obtain ⟨line, hline, hofLine⟩ := hp
    rw [List.getD_eq_getElem?_getD, hline, Option.getD_some]
    exact (Statement.label_eq_of_openLoop? (Statement.openLoop?_of_ofLine hofLine)).symm
  rw [Diagram.ofText_eq_ofStatements]
  exact (endsFrom_loopsFrom hlabel (.zero _) List.drop_zero (Nat.zero_le _)).exists_perm

end SequenceChart
