import SequenceChart.Number.Decimal
import SequenceChart.Number.Literal
import SequenceChart.Proofs.Text.Numerals
import SequenceChart.Proofs.Text.Trimming
import Mathlib.Algebra.Order.Field.Rat
import Mathlib.Algebra.Order.Ring.Abs
import Mathlib.Data.List.DropRight
import Mathlib.Data.Rat.Floor
import Mathlib.Tactic.FieldSimp
import Mathlib.Tactic.Linarith
import Mathlib.Tactic.NormNum
import Mathlib.Tactic.Ring

/-!
# Coordinates in decimal, read again

A coordinate is rounded to hundredths and written without zeros at the end.  The text is a decimal
number in its shortest form, and the reader of numbers gets the rounded coordinate back from it.  So
what a document says of a place is off by at most half a hundredth, not at all if the place is a
whole number of hundredths, and two places are never in another order than before.

Whole numbers are written without rounding, and all others with decimals.  Both come to the same
(`toList_hundredthsText`): the text is that of a number of hundredths, and there is a point in it
exactly when there are decimals left.  It can also be had from two decimals by taking first zeros
and then a point off the end (`hundredthsText_eq_stripEnd`), and a whole number loses no zeros by
that, since the point is in between.

Rounding is used only through `IsNearestEven`, which leaves one integer for each number.

## Main definitions

* `IsNearestEven` — the nearest integer to a number, and the even one of two.
* `DecimalForm` — a decimal number to hundredths, without a zero too many on either side.
* `hundredthsForm` — the form of a number of hundredths.
* `numberIn?` — the number a text stands for, by the reader of numbers.

## Main statements

* `IsNearestEven.mono` — rounding keeps the order.
* `DecimalForm.numberIn?_spelling` — a decimal form is read as what its digits say.
* `toList_hundredthsText`, `hundredthsText_eq_stripEnd` — what is written, as a form and stripped.
* `text_rounds_to_hundredths` — a coordinate is written in a decimal form of its rounded value.
-/

set_option autoImplicit false
namespace SequenceChart

/-! ## Rounding -/

/-- `n` is the integer nearest to `q`, and the even one if two are. -/
structure IsNearestEven (q : Rat) (n : Int) : Prop where
  abs_sub_le : |q - n| ≤ 1 / 2
  even_of_eq : |q - n| = 1 / 2 → n % 2 = 0

theorem isNearestEven_roundHalfEven (q : Rat) : IsNearestEven q (roundHalfEven q) := by
  have hlow : (q.floor : Rat) ≤ q := Rat.floor_le q
  have hhigh : q < (q.floor : Rat) + 1 := by exact_mod_cast Rat.lt_floor_add_one q
  have hdown : |q - (q.floor : Rat)| = q - q.floor := abs_of_nonneg (by linarith)
  have hup : |q - ((q.floor + 1 : Int) : Rat)| = 1 - (q - q.floor) := by
    push_cast
    rw [abs_of_nonpos (by linarith)]
    ring
  simp only [roundHalfEven]
  split_ifs with hless hmore heven
  · exact ⟨by linarith, fun h ↦ by linarith⟩
  · exact ⟨by linarith, fun h ↦ by linarith⟩
  · exact ⟨by linarith, fun _ ↦ heven⟩
  · exact ⟨by linarith, fun _ ↦ by omega⟩

namespace IsNearestEven

/-- **Rounding keeps the order.**  Two numbers that were rounded into the other order would be the
same one, halfway between two integers, and it goes to one of these only. -/
theorem mono {p q : Rat} {m n : Int} (hp : IsNearestEven p m) (hq : IsNearestEven q n)
    (h : p ≤ q) : m ≤ n := by
  by_contra hlt
  -- There is room for this only if `p` and `q` are both halfway between `n` and `m = n + 1`.
  obtain ⟨hpm, hpm'⟩ := abs_le.1 hp.abs_sub_le
  obtain ⟨hqn, hqn'⟩ := abs_le.1 hq.abs_sub_le
  have hstep : (n : Rat) + 1 ≤ m := by exact_mod_cast (by omega : n + 1 ≤ m)
  have hm : m = n + 1 := by
    have hle : (m : Rat) ≤ n + 1 := by linarith
    exact le_antisymm (by exact_mod_cast hle) (by exact_mod_cast hstep)
  have hmeven := hp.even_of_eq (by rw [abs_of_nonpos] <;> linarith)
  have hneven := hq.even_of_eq (by rw [abs_of_nonneg] <;> linarith)
  omega

theorem unique {q : Rat} {m n : Int} (hm : IsNearestEven q m) (hn : IsNearestEven q n) : m = n :=
  le_antisymm (hm.mono hn le_rfl) (hn.mono hm le_rfl)

theorem intCast (n : Int) : IsNearestEven n n := by
  constructor <;> norm_num

end IsNearestEven

theorem roundHalfEven_intCast (n : Int) : roundHalfEven n = n :=
  (isNearestEven_roundHalfEven n).unique (.intCast n)

/-- Rounding does not change a sign. -/
theorem sign_mul_natAbs_roundHalfEven (q : Rat) :
    (if q < 0 then (-1 : Rat) else 1) * (roundHalfEven q).natAbs = roundHalfEven q := by
  have hzero := IsNearestEven.intCast 0
  have hround := isNearestEven_roundHalfEven q
  rw [Nat.cast_natAbs]
  split_ifs with hneg
  · have hle : roundHalfEven q ≤ 0 := hround.mono hzero (by exact_mod_cast hneg.le)
    rw [abs_of_nonpos hle, Int.cast_neg, neg_one_mul, neg_neg]
  · have hle : 0 ≤ roundHalfEven q := hzero.mono hround (by exact_mod_cast not_lt.1 hneg)
    rw [abs_of_nonneg hle, one_mul]

/-! ## Decimal forms -/

/-- A decimal number to hundredths in its shortest form. -/
structure DecimalForm where
  /-- Whether there is a minus sign. -/
  negative : Bool
  /-- The digits before the point. -/
  whole : List Char
  /-- The digits behind the point; without any there is no point either. -/
  decimals : List Char
  whole_ne_nil : whole ≠ []
  isDigit_of_mem_whole : ∀ c ∈ whole, c.isDigit = true
  /-- The only number with a zero in front is zero. -/
  whole_eq_of_head? : whole.head? = some '0' → whole = ['0']
  isDigit_of_mem_decimals : ∀ c ∈ decimals, c.isDigit = true
  length_decimals_le : decimals.length ≤ 2
  getLast?_decimals_ne : decimals.getLast? ≠ some '0'

namespace DecimalForm

/-- The digits behind the point, with the point. -/
def fraction (form : DecimalForm) : List Char :=
  if form.decimals = [] then [] else '.' :: form.decimals

/-- How the number is written. -/
def spelling (form : DecimalForm) : List Char :=
  (if form.negative then ['-'] else []) ++ (form.whole ++ form.fraction)

/-- What the digits say. -/
def value (form : DecimalForm) : Rat :=
  (if form.negative then -1 else 1) *
    (Nat.ofDigitChars 10 (form.whole ++ form.decimals) 0 : Rat) / 10 ^ form.decimals.length

end DecimalForm

/-! ## Reading a decimal form -/

/-- The number a literal stands for, unless it stands for none. -/
def NumberLiteral.value? : NumberLiteral → Option Rat
  | .decimal negative mantissa exponent =>
    some ((if negative then -1 else 1) * (mantissa : Rat) *
      10 ^ exponent.toNat / 10 ^ (-exponent).toNat)
  | _ => none

/-- The number a text stands for. -/
def numberIn? (s : String) : Option Rat :=
  (NumberLiteral.parse? s.toList).bind NumberLiteral.value?

theorem numeral_eq_self {s : List Char} (hascii : ∀ c ∈ s, c.toNat < 127)
    (hspace : ∀ c ∈ s, isNumberSpace c = false) : numeral s = s := by
  have hdrop : ∀ t : List Char, (∀ c ∈ t, isNumberSpace c = false) →
      t.dropWhile isNumberSpace = t := by
    intro t ht
    cases t with
    | nil => rfl
    | cons c t => exact List.dropWhile_cons_of_neg (by simp [ht c])
  have hmap : s.map asciiNumeral = s := by
    refine (List.map_congr_left fun c hc ↦ ?_).trans (List.map_id s)
    rw [asciiNumeral, if_pos (hascii c hc), id]
  rw [numeral]
  simp only [hmap, hdrop s hspace]
  rw [hdrop _ fun c hc ↦ hspace c (List.mem_reverse.1 hc), List.reverse_reverse]

theorem isDigit_iff_toNat {c : Char} : c.isDigit = true ↔ 48 ≤ c.toNat ∧ c.toNat ≤ 57 := by
  rw [Char.isDigit, Bool.and_eq_true, decide_eq_true_eq, decide_eq_true_eq]
  rfl

theorem toLower_eq_self_of_isDigit {c : Char} (hc : c.isDigit = true) : c.toLower = c := by
  refine dif_neg ?_
  rintro ⟨hA, -⟩
  have hletter : 65 ≤ c.toNat := hA
  have hdigit := isDigit_iff_toNat.1 hc
  omega

namespace NumberLiteral

theorem withoutUnderscores?_eq_self {s : List Char} (hs : '_' ∉ s) {previous : Char}
    (hprevious : previous ≠ '_') : withoutUnderscores? previous s = some s := by
  induction s generalizing previous with
  | nil => simp [withoutUnderscores?, hprevious]
  | cons c s ih =>
    have hc : c ≠ '_' := fun h ↦ hs (h ▸ List.mem_cons_self)
    simp [withoutUnderscores?, hc, hprevious, ih (fun h ↦ hs (List.mem_cons_of_mem c h)) hc]

/-- A number that begins with a digit is a decimal one. -/
theorem parse?_eq_decimal? {s body : List Char} {negative : Bool} {c : Char}
    (hs : withoutUnderscores? ' ' (numeral s) = some s) (hsign : takeSign s = (negative, c :: body))
    (hc : c.isDigit = true) : parse? s = decimal? negative (c :: body) := by
  have hlower := toLower_eq_self_of_isDigit hc
  have hne : ∀ t : String, t.toList.head?.all (!·.isDigit) = true →
      String.ofList ((c :: body).map Char.toLower) ≠ t := by
    rintro t ht rfl
    simp [hlower, hc] at ht
  rw [parse?, hs]
  simp only [Option.bind_eq_bind, Option.bind_some, hsign]
  split
  · next h => exact absurd h (hne _ (by decide))
  · next h => exact absurd h (hne _ (by decide))
  · next h => exact absurd h (hne _ (by decide))
  · rfl

end NumberLiteral

namespace DecimalForm

variable (form : DecimalForm)

/-- There is a digit in front. -/
theorem exists_whole_eq_cons : ∃ c digits, form.whole = c :: digits ∧ c.isDigit = true := by
  obtain ⟨c, digits, hwhole⟩ := List.exists_cons_of_ne_nil form.whole_ne_nil
  exact ⟨c, digits, hwhole, form.isDigit_of_mem_whole c (by simp [hwhole])⟩

theorem takeSign_spelling :
    NumberLiteral.takeSign form.spelling = (form.negative, form.whole ++ form.fraction) := by
  obtain ⟨c, digits, hwhole, hc⟩ := form.exists_whole_eq_cons
  have hminus : c ≠ '-' := by rintro rfl; exact absurd hc (by decide)
  have hplus : c ≠ '+' := by rintro rfl; exact absurd hc (by decide)
  rw [spelling, hwhole]
  by_cases h : form.negative = true
  · simp [h, NumberLiteral.takeSign]
  · simp [h, NumberLiteral.takeSign, hminus, hplus]

theorem decimal?_spelling :
    NumberLiteral.decimal? form.negative (form.whole ++ form.fraction) =
      some (.decimal form.negative (Nat.ofDigitChars 10 (form.whole ++ form.decimals) 0)
        (-form.decimals.length)) := by
  have hwhole : (form.whole ++ form.fraction).span NumberLiteral.isPlainDigit =
      (form.whole, form.fraction) := by
    refine span_eq_iff.2 ⟨rfl, fun c hc ↦ ?_, fun c hc ↦ ?_⟩
    · exact form.isDigit_of_mem_whole c hc
    · rw [fraction] at hc
      split at hc
      · simp at hc
      · obtain rfl : '.' = c := by simpa using hc
        decide
  have hdigits : Nat.ofDigitChars 10 (form.whole ++ form.decimals) 0 =
      NumberLiteral.digitsValue (NumberLiteral.digitsValue 0 form.whole) form.decimals :=
    Nat.ofDigitChars_append 0
  rw [NumberLiteral.decimal?, hwhole, hdigits]
  by_cases h : form.decimals = []
  · have hfraction : form.fraction = [] := if_pos h
    simp only [hfraction, h]
    simp [form.whole_ne_nil, NumberLiteral.exponent?]
  · have hfraction : form.fraction = '.' :: form.decimals := if_neg h
    have hdecimals : form.decimals.span NumberLiteral.isPlainDigit = (form.decimals, []) := by
      refine span_eq_iff.2 ⟨(List.append_nil _).symm, fun c hc ↦ ?_, by simp⟩
      exact form.isDigit_of_mem_decimals c hc
    simp only [hfraction, hdecimals]
    simp [form.whole_ne_nil, NumberLiteral.exponent?]

/-- A decimal form is made of characters between the minus sign and the nine. -/
theorem toNat_of_mem_spelling {c : Char} (hc : c ∈ form.spelling) :
    45 ≤ c.toNat ∧ c.toNat ≤ 57 := by
  have hdigit : c.isDigit = true → 45 ≤ c.toNat ∧ c.toNat ≤ 57 := by
    intro h
    have hdigit := isDigit_iff_toNat.1 h
    omega
  rw [spelling, List.mem_append, List.mem_append] at hc
  obtain hsign | hwhole | hfraction := hc
  · split at hsign
    · obtain rfl : c = '-' := by simpa using hsign
      decide
    · simp at hsign
  · exact hdigit (form.isDigit_of_mem_whole c hwhole)
  · rw [fraction] at hfraction
    split at hfraction
    · simp at hfraction
    · obtain rfl | hdecimals := List.mem_cons.1 hfraction
      · decide
      · exact hdigit (form.isDigit_of_mem_decimals c hdecimals)

theorem numeral_spelling : numeral form.spelling = form.spelling := by
  refine numeral_eq_self (fun c hc ↦ ?_) fun c hc ↦ ?_
  · have hrange := form.toNat_of_mem_spelling hc
    omega
  · have hrange := form.toNat_of_mem_spelling hc
    have hspace : c ≠ ' ' := by rintro rfl; exact absurd hrange.1 (by decide)
    simp [isNumberSpace, hspace]
    omega

theorem parse?_spelling :
    NumberLiteral.parse? form.spelling =
      some (.decimal form.negative (Nat.ofDigitChars 10 (form.whole ++ form.decimals) 0)
        (-form.decimals.length)) := by
  have hplain : NumberLiteral.withoutUnderscores? ' ' (numeral form.spelling) =
      some form.spelling := by
    rw [numeral_spelling]
    refine NumberLiteral.withoutUnderscores?_eq_self (fun h ↦ ?_) (by decide)
    exact absurd (form.toNat_of_mem_spelling h).2 (by decide)
  obtain ⟨c, digits, hwhole, hc⟩ := form.exists_whole_eq_cons
  have hsign := form.takeSign_spelling
  rw [← decimal?_spelling, hwhole]
  rw [hwhole] at hsign
  exact NumberLiteral.parse?_eq_decimal? hplain hsign hc

/-- **A decimal form is read as what its digits say.** -/
theorem numberIn?_spelling : numberIn? (String.ofList form.spelling) = some form.value := by
  rw [numberIn?, String.toList_ofList, parse?_spelling]
  simp [NumberLiteral.value?, value]

end DecimalForm

/-! ## Hundredths -/

/-- A text without the characters `c` at its end. -/
def stripEnd (c : Char) (s : List Char) : List Char :=
  s.rdropWhile (· == c)

/-- The last two digits of `n`. -/
def hundredthDigits (n : Nat) : List Char :=
  [Nat.digitChar (n / 10 % 10), Nat.digitChar (n % 10)]

theorem stripEnd_isPrefix (c : Char) (s : List Char) : stripEnd c s <+: s :=
  List.rdropWhile_prefix _ s

theorem getLast?_stripEnd_ne (c : Char) (s : List Char) : (stripEnd c s).getLast? ≠ some c := by
  intro h
  obtain ⟨hne, hlast⟩ := List.mem_getLast?_eq_getLast h
  exact List.rdropWhile_last_not (· == c) s hne (beq_iff_eq.2 hlast.symm)

theorem stripEnd_eq_self {c : Char} {s : List Char} (h : s.getLast? ≠ some c) :
    stripEnd c s = s := by
  refine List.rdropWhile_eq_self_iff.2 fun hne hlast ↦ h ?_
  rw [List.getLast?_eq_some_getLast hne]
  simpa using hlast

/-- Zeros at the end of the decimals do not count. -/
theorem ofDigitChars_stripEnd (s : List Char) (n : Nat) :
    (Nat.ofDigitChars 10 (stripEnd '0' s) n : Rat) / 10 ^ (stripEnd '0' s).length =
      Nat.ofDigitChars 10 s n / 10 ^ s.length := by
  induction s using List.reverseRecOn with
  | nil => rfl
  | append_singleton s c ih =>
    by_cases hc : c = '0'
    · have hstrip : stripEnd '0' (s ++ [c]) = stripEnd '0' s :=
        List.rdropWhile_concat_pos _ s c (by simp [hc])
      have hzero : Nat.ofDigitChars 10 (s ++ [c]) n = 10 * Nat.ofDigitChars 10 s n := by
        rw [Nat.ofDigitChars_append, hc]
        rfl
      rw [hstrip, ih, hzero, List.length_append, List.length_singleton, pow_succ]
      push_cast
      field_simp
    · have hstrip : stripEnd '0' (s ++ [c]) = s ++ [c] :=
        List.rdropWhile_concat_neg _ s c (by simp [hc])
      rw [hstrip]

theorem isDigit_of_mem_hundredthDigits {n : Nat} {c : Char} (hc : c ∈ hundredthDigits n) :
    c.isDigit = true := by
  have hdigit : ∀ d < 10, (Nat.digitChar d).isDigit = true := by decide
  obtain rfl | rfl : c = Nat.digitChar (n / 10 % 10) ∨ c = Nat.digitChar (n % 10) := by
    simpa [hundredthDigits] using hc
  · exact hdigit _ (by omega)
  · exact hdigit _ (by omega)

/-- The last two digits of a number, put after the others, make up the number. -/
theorem ofDigitChars_hundredthDigits (n : Nat) :
    Nat.ofDigitChars 10 (Nat.toDigits 10 (n / 100) ++ hundredthDigits n) 0 = n := by
  have hdigit : ∀ d < 10, (Nat.digitChar d).toNat - '0'.toNat = d := by decide
  rw [ofDigitChars_toDigits_append]
  simp only [hundredthDigits, Nat.ofDigitChars, List.foldl_cons, List.foldl_nil]
  rw [hdigit _ (by omega), hdigit _ (by omega)]
  omega

/-- `n` hundredths as a decimal form, with a sign. -/
def hundredthsForm (negative : Bool) (n : Nat) : DecimalForm where
  negative := negative
  whole := Nat.toDigits 10 (n / 100)
  decimals := stripEnd '0' (hundredthDigits n)
  whole_ne_nil := Nat.toDigits_ne_nil
  isDigit_of_mem_whole c hc := Nat.isDigit_of_mem_toDigits (by decide) (by decide) hc
  whole_eq_of_head? h := by
    have hzero : n / 100 = 0 := by
      by_contra hne
      exact head?_toDigits_ne (Nat.pos_of_ne_zero hne) h
    rw [hzero]
    rfl
  isDigit_of_mem_decimals c hc :=
    isDigit_of_mem_hundredthDigits ((stripEnd_isPrefix _ _).subset hc)
  length_decimals_le := (stripEnd_isPrefix _ _).length_le
  getLast?_decimals_ne := getLast?_stripEnd_ne '0' _

theorem value_hundredthsForm (negative : Bool) (n : Nat) :
    (hundredthsForm negative n).value = (if negative then -1 else 1) * (n : Rat) / 100 := by
  have hstrip := ofDigitChars_stripEnd (hundredthDigits n) (n / 100)
  have hall : Nat.ofDigitChars 10 (hundredthDigits n) (n / 100) = n := by
    rw [← ofDigitChars_toDigits_append, ofDigitChars_hundredthDigits]
  have hhundred : (10 : Rat) ^ (hundredthDigits n).length = 100 := by norm_num [hundredthDigits]
  rw [hall, hhundred] at hstrip
  simp only [DecimalForm.value, hundredthsForm, mul_div_assoc, ofDigitChars_toDigits_append, hstrip]
  rfl

/-! ## Writing -/

theorem toList_decimals (negative : Bool) (n : Nat) :
    (decimals (n % 100)).toList = (hundredthsForm negative n).fraction := by
  have hsmall : ∀ k < 100, (decimals k).toList = (hundredthsForm false k).fraction := by
    decide +kernel
  have hdigits : hundredthDigits (n % 100) = hundredthDigits n := by
    have htens : n % 100 / 10 % 10 = n / 10 % 10 := by omega
    have hunits : n % 100 % 10 = n % 10 := by omega
    rw [hundredthDigits, htens, hunits, hundredthDigits]
  rw [hsmall _ (Nat.mod_lt n (by decide))]
  simp only [DecimalForm.fraction, hundredthsForm, hdigits]
  rfl

/-- A whole number has no decimals. -/
theorem spelling_hundredthsForm_mul (negative : Bool) (n : Nat) :
    (hundredthsForm negative (n * 100)).spelling =
      (if negative then ['-'] else []) ++ n.repr.toList := by
  have hzero : hundredthDigits (n * 100) = ['0', '0'] := by
    have htens : n * 100 / 10 % 10 = 0 := by omega
    have hunits : n * 100 % 10 = 0 := by omega
    rw [hundredthDigits, htens, hunits]
    rfl
  have hfraction : (hundredthsForm negative (n * 100)).fraction = [] := by
    simp only [DecimalForm.fraction, hundredthsForm, hzero]
    rfl
  have hwhole : (hundredthsForm negative (n * 100)).whole = n.repr.toList := by
    simp only [hundredthsForm, Nat.mul_div_cancel n (by decide : 0 < 100), Nat.toList_repr]
  rw [DecimalForm.spelling, hfraction, hwhole, List.append_nil]
  rfl

/-- **A text holds a number of hundredths**, whether or not the coordinate was rounded. -/
theorem toList_hundredthsText (q : Rat) :
    (hundredthsText q).toList =
      (hundredthsForm (decide (q < 0)) (roundHalfEven (q * 100)).natAbs).spelling := by
  by_cases hden : q.den = 1
  · have hq : (q.num : Rat) = q := (Rat.den_eq_one_iff q).1 hden
    have hround : (roundHalfEven (q * 100)).natAbs = q.num.natAbs * 100 := by
      have hint : roundHalfEven (q * 100) = q.num * 100 := by
        rw [← hq]
        exact_mod_cast roundHalfEven_intCast (q.num * 100)
      rw [hint, Int.natAbs_mul]
      rfl
    rw [hundredthsText, if_pos hden, hround, spelling_hundredthsForm_mul, toList_toString_int]
    simp [Rat.num_neg]
  · have hwhole : (toString ((roundHalfEven (q * 100)).natAbs / 100)).toList =
        (hundredthsForm (decide (q < 0)) (roundHalfEven (q * 100)).natAbs).whole :=
      Nat.toList_repr
    have hsign : (if q < 0 then "-" else "").toList =
        if (hundredthsForm (decide (q < 0)) (roundHalfEven (q * 100)).natAbs).negative then ['-']
        else [] := by
      simp only [hundredthsForm, decide_eq_true_eq]
      split <;> rfl
    rw [hundredthsText, if_neg hden]
    simp only [String.toList_append, hwhole, toList_decimals (decide (q < 0)),
      DecimalForm.spelling, hsign, List.append_assoc]

theorem value_hundredthsForm_roundHalfEven (q : Rat) :
    (hundredthsForm (decide (q < 0)) (roundHalfEven (q * 100)).natAbs).value =
      (roundHalfEven (q * 100) : Rat) / 100 := by
  have hneg : q * 100 < 0 ↔ q < 0 := by constructor <;> intro h <;> linarith
  have hsign := sign_mul_natAbs_roundHalfEven (q * 100)
  rw [value_hundredthsForm, ← hsign]
  simp only [decide_eq_true_eq, hneg]

/-- What is written is read as the rounded number. -/
theorem numberIn?_hundredthsText (q : Rat) :
    numberIn? (hundredthsText q) = some ((roundHalfEven (q * 100) : Rat) / 100) := by
  rw [← String.ofList_toList (s := hundredthsText q), toList_hundredthsText,
    DecimalForm.numberIn?_spelling, value_hundredthsForm_roundHalfEven]

/-! ## Stripping -/

theorem stripEnd_append (c : Char) (s t : List Char) :
    stripEnd c (s ++ t) = if stripEnd c t = [] then stripEnd c s else s ++ stripEnd c t := by
  simp only [stripEnd, List.rdropWhile, List.reverse_append, List.dropWhile_append,
    List.reverse_eq_nil_iff, List.isEmpty_iff]
  split <;> simp

theorem getLast?_append_digits_ne {s : List Char} (front : List Char) (hne : s ≠ [])
    (hs : ∀ c ∈ s, c.isDigit = true) : (front ++ s).getLast? ≠ some '.' := by
  intro h
  rw [List.getLast?_append_of_ne_nil _ hne] at h
  exact absurd (hs '.' (List.mem_of_getLast? h)) (by decide)

/-- A decimal form is had from two decimals by stripping zeros and then the point.  Zeros at the end
of the whole part are before the point, so they stay. -/
theorem spelling_hundredthsForm_eq_stripEnd (negative : Bool) (n : Nat) :
    (hundredthsForm negative n).spelling =
      stripEnd '.' (stripEnd '0' ((if negative then ['-'] else []) ++ Nat.toDigits 10 (n / 100) ++
        '.' :: hundredthDigits n)) := by
  let form := hundredthsForm negative n
  have hspelling : form.spelling =
      (if negative then ['-'] else []) ++ Nat.toDigits 10 (n / 100) ++ form.fraction :=
    (List.append_assoc _ _ _).symm
  rw [List.append_cons, stripEnd_append]
  by_cases h : stripEnd '0' (hundredthDigits n) = []
  · have hfraction : form.fraction = [] := if_pos h
    have hpoint : ∀ front : List Char, (front ++ ['.']).getLast? ≠ some '0' := by simp
    have hwhole : ((if negative then ['-'] else []) ++ Nat.toDigits 10 (n / 100)).getLast? ≠
        some '.' :=
      getLast?_append_digits_ne _ form.whole_ne_nil form.isDigit_of_mem_whole
    have hstrip : stripEnd '.' ['.'] = [] := rfl
    rw [if_pos h, stripEnd_eq_self (hpoint _), stripEnd_append, if_pos hstrip,
      stripEnd_eq_self hwhole]
    rw [hfraction, List.append_nil] at hspelling
    exact hspelling
  · have hfraction : form.fraction = '.' :: form.decimals := if_neg h
    have hdecimals := getLast?_append_digits_ne
      ((if negative then ['-'] else []) ++ Nat.toDigits 10 (n / 100) ++ ['.']) h
      form.isDigit_of_mem_decimals
    rw [if_neg h, stripEnd_eq_self hdecimals]
    rw [hfraction, List.append_cons] at hspelling
    exact hspelling

/-- **The text is that of two decimals, without zeros and then without a point at the end**, also
for a whole number. -/
theorem hundredthsText_eq_stripEnd (q : Rat) :
    (hundredthsText q).toList =
      stripEnd '.' (stripEnd '0' ((if q < 0 then ['-'] else []) ++
        Nat.toDigits 10 ((roundHalfEven (q * 100)).natAbs / 100) ++
          '.' :: hundredthDigits (roundHalfEven (q * 100)).natAbs)) := by
  rw [toList_hundredthsText, spelling_hundredthsForm_eq_stripEnd]
  simp only [decide_eq_true_eq]

/-! ## Coordinates -/

/-- **A coordinate is written in decimal, rounded to hundredths.**  The text is a decimal form, with
all digits of the whole part, and it is read as the nearest hundredth.  So it is off by half a
hundredth at most, it is exact for a whole number of hundredths, and it keeps the order. -/
theorem text_rounds_to_hundredths {α : Type} [Scalar α] {a : α} {q : Rat}
    (ha : Scalar.exact a = .ok q) :
    ∃ (form : DecimalForm) (n : Int),
      (Scalar.text a).toList = form.spelling ∧
      form.negative = decide (q < 0) ∧
      form.whole = Nat.toDigits 10 (n.natAbs / 100) ∧
      form.value = (n : Rat) / 100 ∧
      numberIn? (Scalar.text a) = some ((n : Rat) / 100) ∧
      IsNearestEven (q * 100) n ∧
      |(n : Rat) / 100 - q| ≤ 1 / 200 ∧
      (∀ k : Int, q = k / 100 → (n : Rat) / 100 = q) ∧
      ∀ (b : α) (r : Rat), Scalar.exact b = .ok r → q ≤ r →
        ∃ x, numberIn? (Scalar.text b) = some x ∧ (n : Rat) / 100 ≤ x := by
  have htext : ∀ {b : α} {r : Rat}, Scalar.exact b = .ok r → Scalar.text b = hundredthsText r := by
    intro b r hb
    rw [Scalar.text, hb]
  have hround := isNearestEven_roundHalfEven (q * 100)
  refine ⟨hundredthsForm (decide (q < 0)) (roundHalfEven (q * 100)).natAbs,
    roundHalfEven (q * 100), ?_, rfl, rfl, value_hundredthsForm_roundHalfEven q, ?_, hround, ?_, ?_,
    ?_⟩
  · rw [htext ha, toList_hundredthsText]
  · rw [htext ha, numberIn?_hundredthsText]
  · obtain ⟨hlow, hhigh⟩ := abs_le.1 hround.abs_sub_le
    exact abs_le.2 ⟨by linarith, by linarith⟩
  · intro k hk
    have hwhole : q * 100 = k := by rw [hk]; ring
    rw [hwhole, roundHalfEven_intCast, hk]
  · intro b r hb hle
    refine ⟨(roundHalfEven (r * 100) : Rat) / 100, by rw [htext hb, numberIn?_hundredthsText], ?_⟩
    have hmono : (roundHalfEven (q * 100) : Rat) ≤ roundHalfEven (r * 100) := by
      exact_mod_cast hround.mono (isNearestEven_roundHalfEven (r * 100)) (by linarith)
    linarith

/-- An eighth is halfway between two hundredths. -/
theorem eighth_rounds_to_hundredths :
    Scalar.exact (0.125 : Float) = .ok (1 / 8) ∧
      ∃ (form : DecimalForm) (n : Int),
        (Scalar.text (0.125 : Float)).toList = form.spelling ∧
        IsNearestEven (1 / 8 * 100) n ∧
        numberIn? (Scalar.text (0.125 : Float)) = some ((n : Rat) / 100) := by
  have hexact : Scalar.exact (0.125 : Float) = .ok (1 / 8) := by decide +kernel
  obtain ⟨form, n, hspelling, -, -, -, hread, hnear, -⟩ := text_rounds_to_hundredths hexact
  exact ⟨hexact, form, n, hspelling, hnear, hread⟩

example : [100, 20004 / 1000, -1 / 8, -1 / 1000].map hundredthsText =
    ["100", "20", "-0.12", "-0"] := by
  decide +kernel

end SequenceChart
