import Mathlib.Data.List.Basic

/-!
# Whole numbers in decimal

A natural number is written with the ten digits.  Its digits can be read again, so a number is known
by its text, and a number that is not zero begins with another digit than zero.  A negative integer
is written as a natural number with a sign in front.

## Main statements

* `isDigit_of_mem_repr` — a number is written in digits.
* `toList_repr_injective` — a number is known by its text.
* `head?_toDigits_ne` — no zeros come in front.
* `toList_toString_int` — the sign of an integer, and its size.
-/

set_option autoImplicit false
namespace SequenceChart

theorem isDigit_of_mem_repr {n : Nat} {c : Char} (hc : c ∈ n.repr.toList) : c.isDigit = true := by
  rw [Nat.toList_repr] at hc
  exact Nat.isDigit_of_mem_toDigits (by decide) (by decide) hc

theorem toList_repr_injective {n k : Nat} (h : n.repr.toList = k.repr.toList) : n = k := by
  rw [Nat.toList_repr, Nat.toList_repr] at h
  simpa using congrArg (fun digits ↦ Nat.ofDigitChars 10 digits 0) h

/-- The digits of a number and some more say what these say after the number. -/
theorem ofDigitChars_toDigits_append (n : Nat) (digits : List Char) :
    Nat.ofDigitChars 10 (Nat.toDigits 10 n ++ digits) 0 = Nat.ofDigitChars 10 digits n := by
  rw [Nat.ofDigitChars_append, Nat.ofDigitChars_toDigits (by decide) (by decide)]

/-- A number that is not zero does not begin with a zero. -/
theorem head?_toDigits_ne {n : Nat} (hn : 0 < n) : (Nat.toDigits 10 n).head? ≠ some '0' := by
  have hdigit : ∀ d < 10, 0 < d → some (Nat.digitChar d) ≠ some '0' := by decide
  induction n using Nat.strongRecOn with
  | ind n ih =>
    by_cases hlt : n < 10
    · rw [Nat.toDigits_of_lt_base hlt]
      exact hdigit n hlt hn
    · rw [Nat.toDigits_of_base_le (by decide) (by omega),
        List.head?_append_of_ne_nil _ Nat.toDigits_ne_nil]
      exact ih (n / 10) (by omega) (by omega)

theorem toList_toString_int (n : Int) :
    (toString n).toList = (if n < 0 then ['-'] else []) ++ n.natAbs.repr.toList := by
  rw [show toString n = n.repr from rfl, Int.repr_eq_if]
  split_ifs with hle hneg hneg
  · omega
  · rw [show n.toNat = n.natAbs by omega]
    rfl
  · rw [show (-n).toNat = n.natAbs by omega, String.toList_append]
    rfl
  · omega

end SequenceChart
