import SequenceChart.Proofs.Diagram.Selections
import Mathlib.Data.List.Induction
import Mathlib.Order.Bounds.Basic

/-!
# The participants of a diagram

The participants that are read are those that are declared, each name once.  A list of participants
with different names is what is read when they are declared one by one.

One more declaration adds a participant if its name is new, and nothing if it is not
(`firstDeclared_concat`).  So what is read are the declarations in front of which there is none of
the same name.  A diagram that is built directly may have a name more than once; its column is the
least position then.

## Main definitions

* `Diagram.positions` — where a name stands among the participants.

## Main statements

* `firstDeclared_eq_filter` — which declarations are kept.
* `find?_firstDeclared` — the declaration that a name has its label from.
* `column?_eq_some_iff` — the column of a name is its first position.
-/

set_option autoImplicit false
namespace SequenceChart

variable {ps : List Participant}

theorem mem_of_mem_firstDeclared {p : Participant} (h : p ∈ firstDeclared ps) : p ∈ ps := by
  induction ps with
  | nil => exact h
  | cons q ps ih =>
    rcases List.mem_cons.1 h with rfl | h
    · exact List.mem_cons_self ..
    · exact List.mem_cons_of_mem _ (ih (List.mem_filter.1 h).1)

/-- **No two participants that are read have the same name.** -/
theorem pairwise_firstDeclared (ps : List Participant) :
    (firstDeclared ps).Pairwise fun p q ↦ p.id ≠ q.id := by
  induction ps with
  | nil => exact .nil
  | cons p ps ih =>
    refine List.pairwise_cons.2 ⟨fun q hq ↦ ?_, ih.filter _⟩
    have hne := (List.mem_filter.1 hq).2
    exact Ne.symm (bne_iff_ne.1 hne)

theorem pairwise_participants_ofText (text : String) :
    (Diagram.ofText text).participants.Pairwise fun p q ↦ p.id ≠ q.id :=
  Diagram.participants_ofText text ▸ pairwise_firstDeclared _

theorem firstDeclared_eq_self (h : ps.Pairwise fun p q ↦ p.id ≠ q.id) : firstDeclared ps = ps := by
  induction ps with
  | nil => rfl
  | cons p ps ih =>
    obtain ⟨hp, hps⟩ := List.pairwise_cons.1 h
    rw [firstDeclared, ih hps, List.filter_eq_self.2]
    exact fun q hq ↦ bne_iff_ne.2 (Ne.symm (hp q hq))

/-- Every name that is declared is kept. -/
theorem exists_mem_firstDeclared_iff {id : String} :
    (∃ p ∈ firstDeclared ps, p.id = id) ↔ ∃ p ∈ ps, p.id = id := by
  constructor
  · rintro ⟨p, hp, rfl⟩
    exact ⟨p, mem_of_mem_firstDeclared hp, rfl⟩
  · induction ps with
    | nil => simp
    | cons q ps ih =>
      rintro ⟨p, hp, rfl⟩
      by_cases hq : p.id = q.id
      · exact ⟨q, List.mem_cons_self .., hq.symm⟩
      · have hps : p ∈ ps := (List.mem_cons.1 hp).resolve_left fun h ↦ hq (congrArg _ h)
        obtain ⟨r, hr, hid⟩ := ih ⟨p, hps, rfl⟩
        exact ⟨r, List.mem_cons_of_mem _ (List.mem_filter.2 ⟨hr, by simp [hid, hq]⟩), hid⟩

/-- **Of two lists of declarations** the second one adds the names that are new. -/
theorem firstDeclared_append (ps qs : List Participant) :
    firstDeclared (ps ++ qs) =
      firstDeclared ps ++ (firstDeclared qs).filter fun q ↦ ps.all (·.id != q.id) := by
  induction ps with
  | nil => exact (List.filter_eq_self.2 fun _ _ ↦ rfl).symm
  | cons p ps ih =>
    rw [List.cons_append, firstDeclared, ih, List.filter_append, List.filter_filter, firstDeclared,
      List.cons_append]
    congr 2
    refine List.filter_congr fun q _ ↦ ?_
    rw [List.all_cons, bne_comm]

/-- **One more declaration** adds a participant if its name is new. -/
theorem firstDeclared_concat (ps : List Participant) (q : Participant) :
    firstDeclared (ps ++ [q]) =
      firstDeclared ps ++ if ps.all (·.id != q.id) then [q] else [] := by
  have hone : firstDeclared [q] = [q] := rfl
  rw [firstDeclared_append, hone, List.filter_cons, List.filter_nil]

/-- **The declarations that are kept** are those in front of which there is none of the same
name. -/
theorem firstDeclared_eq_filter (ps : List Participant) :
    firstDeclared ps =
      (ps.zipIdx.filter fun p ↦ (ps.take p.2).all (·.id != p.1.id)).map Prod.fst := by
  induction ps using List.reverseRecOn with
  | nil => rfl
  | append_singleton ps q ih =>
    have hkept : ps.zipIdx.filter (fun p ↦ ((ps ++ [q]).take p.2).all (·.id != p.1.id)) =
        ps.zipIdx.filter fun p ↦ (ps.take p.2).all (·.id != p.1.id) := by
      refine List.filter_congr fun p hp ↦ ?_
      have hlt : p.2 < ps.length := by simpa using List.snd_lt_add_of_mem_zipIdx hp
      rw [List.take_append_of_le_length hlt.le]
    rw [firstDeclared_concat, ih, List.zipIdx_append, List.filter_append, hkept, List.map_append,
      List.zipIdx_singleton, Nat.zero_add, List.filter_cons, List.filter_nil, List.take_left]
    split <;> rfl

/-- **A name has the label of its first declaration.** -/
theorem find?_firstDeclared (ps : List Participant) (id : String) :
    (firstDeclared ps).find? (·.id == id) = ps.find? (·.id == id) := by
  induction ps with
  | nil => rfl
  | cons p ps ih =>
    rw [firstDeclared, List.find?_cons, List.find?_cons]
    cases hp : p.id == id with
    | true => rfl
    | false =>
      have hother : ∀ q : Participant, (q.id != p.id ∧ q.id == id) ↔ (q.id == id) = true := by
        refine fun q ↦ ⟨And.right, fun hq ↦ ⟨bne_iff_ne.2 fun heq ↦ ?_, hq⟩⟩
        rw [← heq, hq] at hp
        cases hp
      rw [← ih, List.find?_filter]
      simp only [hother, Bool.decide_eq_true]

/-! ## Columns -/

/-- The positions of a name among the participants. -/
def Diagram.positions (d : Diagram) (id : String) : Set Nat :=
  {i | ∃ p, d.participants[i]? = some p ∧ p.id = id}

/-- **The column of a name is its first position.** -/
theorem column?_eq_some_iff {d : Diagram} {id : String} {c : Nat} :
    d.column? id = some c ↔ IsLeast (d.positions id) c := by
  rw [Diagram.column?, List.findIdx?_eq_some_iff_getElem]
  constructor
  · rintro ⟨hc, hid, hfirst⟩
    refine ⟨⟨_, List.getElem?_eq_getElem hc, by simpa using hid⟩, ?_⟩
    rintro i ⟨p, hp, hpid⟩
    obtain ⟨hi, hget⟩ := List.getElem?_eq_some_iff.1 hp
    exact not_lt.1 fun hlt ↦ hfirst i hlt (by simpa [hget] using hpid)
  · rintro ⟨⟨p, hp, hpid⟩, hleast⟩
    obtain ⟨hc, rfl⟩ := List.getElem?_eq_some_iff.1 hp
    refine ⟨hc, by simpa using hpid, fun i hlt hid ↦ ?_⟩
    exact absurd (hleast ⟨_, List.getElem?_eq_getElem (hlt.trans hc), by simpa using hid⟩)
      (not_le.2 hlt)

/-- Where no two participants have the same name, each name has one position. -/
theorem column?_of_pairwise {d : Diagram} (h : d.participants.Pairwise fun p q ↦ p.id ≠ q.id)
    {i : Nat} {p : Participant} (hp : d.participants[i]? = some p) : d.column? p.id = some i := by
  refine column?_eq_some_iff.2 ⟨⟨p, hp, rfl⟩, ?_⟩
  rintro j ⟨q, hq, hid⟩
  refine not_lt.1 fun hlt ↦ ?_
  obtain ⟨hi, rfl⟩ := List.getElem?_eq_some_iff.1 hp
  obtain ⟨hj, rfl⟩ := List.getElem?_eq_some_iff.1 hq
  exact List.pairwise_iff_getElem.1 h j i hj hi hlt hid

/-- A column is missing exactly for the names that are not declared. -/
theorem column?_isNone (d : Diagram) (id : String) :
    (d.column? id).isNone = d.participants.all (·.id != id) := by
  rw [Diagram.column?, Bool.eq_iff_iff, Option.isNone_iff_eq_none, List.findIdx?_eq_none_iff]
  simp

end SequenceChart
