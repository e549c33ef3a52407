import SequenceChart.Number.Scalar

/-!
# Coordinates in decimal

A document holds its coordinates as decimal numbers: a whole number as its digits, any other rounded
to hundredths, without zeros at the end of the decimals.  A half of a hundredth goes to the even
neighbour.  A negative number that rounds to nothing keeps its sign.
-/

set_option autoImplicit false
namespace SequenceChart

/-- The nearest integer; a half goes to the even neighbour. -/
def roundHalfEven (q : Rat) : Int :=
  let low := q.floor
  let part := q - low
  if part < 1 / 2 then low
  else if 1 / 2 < part then low + 1
  else if low % 2 = 0 then low else low + 1

/-- The decimals of `n` hundredths, with the point, or nothing if there are none. -/
def decimals (n : Nat) : String :=
  if n = 0 then ""
  else if n % 10 = 0 then "." ++ toString (n / 10)
  else if n < 10 then ".0" ++ toString n
  else "." ++ toString n

/-- A rational number in decimal, to hundredths. -/
def hundredthsText (q : Rat) : String :=
  if q.den = 1 then toString q.num
  else
    let rounded := (roundHalfEven (q * 100)).natAbs
    (if q < 0 then "-" else "") ++ toString (rounded / 100) ++ decimals (rounded % 100)

/-- A scalar in decimal, to hundredths. -/
def Scalar.text {α : Type} [Scalar α] (a : α) : String :=
  match Scalar.exact a with
  | .ok q => hundredthsText q
  | .error e => e.text

end SequenceChart
