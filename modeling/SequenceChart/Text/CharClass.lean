/-!
# Classes of characters

White space, the letters of a word, decimal digits and printable characters are properties of
Unicode, and a property is data: an ascending list of ranges of code points.  That the ranges ascend
is part of a class, so that the search in them may end early.  The tables are in the files beside
this one.

## Main statements

* `CharClass.contains_iff` — the characters of a class are those in its ranges.
* `CharClass.not_contains_of_disjoint` — two tables whose ranges do not meet have no character in
  common.  For two concrete tables the hypothesis is decided by evaluation, once for all characters.
-/

set_option autoImplicit false
namespace SequenceChart

namespace CharClass

/-- Whether ranges of numbers ascend: each is a range, and ends before the next one begins. -/
def ascend : List (Nat × Nat) → Bool
  | [] => true
  | [r] => r.1 ≤ r.2
  | r :: s :: rest => r.1 ≤ r.2 && r.2 < s.1 && ascend (s :: rest)

end CharClass

/-- A set of characters, as ascending ranges of code points with both ends included. -/
structure CharClass where
  /-- The ranges, from the smallest code points to the largest. -/
  ranges : List (Nat × Nat)
  ascending : CharClass.ascend ranges = true := by decide +kernel

namespace CharClass

/-- Whether the code point `n` lies in one of the ranges.  Since they ascend, the search ends at the
first range that begins above `n`. -/
def covers (n : Nat) : List (Nat × Nat) → Bool
  | [] => false
  | (lo, hi) :: rest => if n < lo then false else n ≤ hi || covers n rest

/-- Whether the character `c` belongs to the class. -/
def contains (k : CharClass) (c : Char) : Bool :=
  covers c.toNat k.ranges

/-- What is below a range is below all ranges behind it. -/
theorem lt_of_ascend {n : Nat} {r : Nat × Nat} {rest : List (Nat × Nat)} (hn : n < r.1)
    (h : ascend (r :: rest) = true) : ∀ s ∈ r :: rest, n < s.1 := by
  induction rest generalizing r with
  | nil => simpa using hn
  | cons s rest ih =>
    simp only [ascend, Bool.and_eq_true, decide_eq_true_eq] at h
    exact List.forall_mem_cons.2 ⟨hn, ih (by omega) h.2⟩

/-- The search finds a range if there is one: it ends early only below all that are left. -/
theorem covers_eq_true_iff {n : Nat} {ranges : List (Nat × Nat)} (h : ascend ranges = true) :
    covers n ranges = true ↔ ∃ r ∈ ranges, r.1 ≤ n ∧ n ≤ r.2 := by
  induction ranges with
  | nil => simp [covers]
  | cons r rest ih =>
    have hrest : ascend rest = true := by
      cases rest with
      | nil => rfl
      | cons s rest =>
        simp only [ascend, Bool.and_eq_true] at h
        exact h.2
    rw [covers]
    by_cases hn : n < r.1
    · have hbelow := lt_of_ascend hn h
      rw [if_pos hn]
      refine ⟨nofun, fun ⟨s, hs, hlow, _⟩ ↦ ?_⟩
      have habove := hbelow s hs
      omega
    · have hlow : r.1 ≤ n := Nat.le_of_not_lt hn
      simp [hn, hlow, ih hrest]

/-- **A character belongs to a class** exactly if it lies in one of its ranges. -/
theorem contains_iff {k : CharClass} {c : Char} :
    k.contains c = true ↔ ∃ r ∈ k.ranges, r.1 ≤ c.toNat ∧ c.toNat ≤ r.2 :=
  covers_eq_true_iff k.ascending

/-- No range of one class meets a range of the other. -/
def Disjoint (k l : CharClass) : Prop :=
  ∀ r ∈ k.ranges, ∀ s ∈ l.ranges, r.2 < s.1 ∨ s.2 < r.1

instance (k l : CharClass) : Decidable (k.Disjoint l) :=
  inferInstanceAs (Decidable (∀ r ∈ k.ranges, ∀ s ∈ l.ranges, r.2 < s.1 ∨ s.2 < r.1))

/-- Disjoint classes have no character in common. -/
theorem not_contains_of_disjoint {k l : CharClass} (hkl : k.Disjoint l) {c : Char}
    (hc : k.contains c = true) : l.contains c = false := by
  refine Bool.eq_false_iff.2 fun hl ↦ ?_
  obtain ⟨r, hr, hr₁, hr₂⟩ := contains_iff.1 hc
  obtain ⟨s, hs, hs₁, hs₂⟩ := contains_iff.1 hl
  rcases hkl r hr s hs with h | h <;> omega

end CharClass
end SequenceChart
