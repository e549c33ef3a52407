/-!
# Scalars

Coordinates are computed in floating point, and the laws of the geometry hold in exact arithmetic.
So the geometry is written once, over any type of scalars: a type with the four operations, an
order that can be decided, decimal constants, integers, and for each value either the rational
number it stands for or the reason why it stands for none.  A program runs it over `Float`; a law
is stated over `Rat`, where the decimal constants are what they look like and no operation rounds.

The smaller and the greater of two scalars keep the first unless the second is strictly smaller or
greater.  For numbers that is the usual minimum and maximum; it also says what becomes of a value
that is not a number, which is kept if it comes first and passed over otherwise.
-/

set_option autoImplicit false
namespace SequenceChart

/-! ## Values that are not numbers -/

/-- Why a scalar stands for no rational number. -/
inductive NonFinite
  /-- It is the result of an operation without one. -/
  | nan
  /-- It is past all numbers, on one side or the other. -/
  | infinite (negative : Bool)
  deriving DecidableEq, Repr

/-- How such a scalar is written. -/
def NonFinite.text : NonFinite → String
  | nan => "nan"
  | infinite false => "inf"
  | infinite true => "-inf"

/-! ## The class -/

/-- A type of scalars. -/
class Scalar (α : Type) extends Add α, Sub α, Mul α, Div α, LT α, OfScientific α, IntCast α where
  /-- The order can be decided. -/
  decLt : (a b : α) → Decidable (a < b)
  /-- The rational number that a scalar stands for. -/
  exact : α → Except NonFinite Rat

instance (priority := low) Scalar.decidableLt {α : Type} [Scalar α] (a b : α) :
    Decidable (a < b) :=
  Scalar.decLt a b

namespace Scalar

instance : Scalar Rat where
  decLt _ _ := inferInstance
  exact q := .ok q

/-- The rational number a binary floating-point value stands for, read off its bits: a sign, eleven
bits of exponent and fifty-two of fraction. -/
def exactFloat (x : Float) : Except NonFinite Rat :=
  let bits := x.toBits.toNat
  let negative := bits >>> 63 == 1
  let exponent := (bits >>> 52) % 2048
  let fraction := bits % (1 <<< 52)
  if exponent = 2047 then
    .error (if fraction = 0 then .infinite negative else .nan)
  else
    let digits := if exponent = 0 then fraction else (1 <<< 52) + fraction
    let shift := if exponent = 0 then 1 else exponent
    let size := digits <<< (shift - 1075)
    .ok (mkRat (if negative then -(size : Int) else size) (1 <<< (1075 - shift)))

instance : Scalar Float where
  decLt _ _ := inferInstance
  exact := exactFloat
  intCast := Float.ofInt

/-! ## Minimum, maximum, distance -/

variable {α : Type} [Scalar α]

/-- The first of two scalars unless the second is smaller. -/
def lesser (a b : α) : α :=
  if b < a then b else a

/-- The first of two scalars unless the second is greater. -/
def greater (a b : α) : α :=
  if a < b then b else a

/-- The least of a scalar and some more. -/
def least (a : α) (rest : List α) : α :=
  rest.foldl lesser a

/-- The greatest of a scalar and some more. -/
def greatest (a : α) (rest : List α) : α :=
  rest.foldl greater a

/-- How far it is from `a` to `b`. -/
def distance (a b : α) : α :=
  if 0.0 < b - a then b - a else 0.0 - (b - a)

/-! ## Whole numbers -/

/-- The integer part of a rational number: its decimals are dropped. -/
def truncateRat (q : Rat) : Int :=
  q.num.tdiv q.den

/-- The integer part of a scalar. -/
def truncate (a : α) : Except NonFinite Int :=
  (exact a).map truncateRat

/-- Whether an integer has a scalar that is a number, though it may be rounded. -/
def holds (α : Type) [Scalar α] (n : Int) : Bool :=
  (exact (n : α)).isOk

end Scalar
end SequenceChart
