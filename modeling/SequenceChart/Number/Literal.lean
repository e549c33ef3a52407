import SequenceChart.Text.Digit

/-!
# Number literals

A number on a command line is a sign, then `inf`, `infinity` or `nan` in any case, or digits with
at most one point among them and an exponent after an `e`.  Single underscores may stand between
digits.  Digits of any script count, and white space around the number does not.

A literal is read into its parts, which are exact; the value is the nearest floating-point number.
-/

set_option autoImplicit false
namespace SequenceChart

/-- The parts of a number literal. -/
inductive NumberLiteral
  /-- Not a number. -/
  | nan
  /-- Past all numbers. -/
  | infinity (negative : Bool)
  /-- The number `mantissa * 10 ^ exponent` with its sign. -/
  | decimal (negative : Bool) (mantissa : Nat) (exponent : Int)
  deriving DecidableEq, Repr

namespace NumberLiteral

/-- Whether a character is one of the ten ASCII digits. -/
def isPlainDigit (c : Char) : Bool :=
  '0' ≤ c && c ≤ '9'

/-- The digits of a text without the underscores between them, unless one of them is misplaced.  The
character before the text is `previous`. -/
def withoutUnderscores? (previous : Char) : List Char → Option (List Char)
  | [] => if previous == '_' then none else some []
  | c :: s =>
    if c == '_' then
      if isPlainDigit previous then withoutUnderscores? c s else none
    else if previous == '_' && !isPlainDigit c then none
    else (withoutUnderscores? c s).map (c :: ·)

/-- The number that digits write, after `n`. -/
def digitsValue (n : Nat) (digits : List Char) : Nat :=
  digits.foldl (fun n c ↦ 10 * n + (c.toNat - '0'.toNat)) n

/-- A sign, and what follows it. -/
def takeSign : List Char → Bool × List Char
  | '-' :: s => (true, s)
  | '+' :: s => (false, s)
  | s => (false, s)

/-- An exponent: nothing, or a mark, a sign and digits. -/
def exponent? : List Char → Option Int
  | [] => some 0
  | mark :: s =>
    let (negative, digits) := takeSign s
    if (mark == 'e' || mark == 'E') && !digits.isEmpty && digits.all isPlainDigit then
      let n : Int := digitsValue 0 digits
      some (if negative then -n else n)
    else none

/-- Digits with at most one point among them, and an exponent. -/
def decimal? (negative : Bool) (s : List Char) : Option NumberLiteral := do
  let (whole, rest) := s.span isPlainDigit
  let (part, rest) := match rest with
    | '.' :: rest => rest.span isPlainDigit
    | rest => ([], rest)
  if whole.isEmpty && part.isEmpty then none else
    return .decimal negative (digitsValue (digitsValue 0 whole) part)
      ((← exponent? rest) - part.length)

/-- The parts of the literal in a text. -/
def parse? (s : List Char) : Option NumberLiteral := do
  let plain ← withoutUnderscores? ' ' (numeral s)
  let (negative, body) := takeSign plain
  match String.ofList (body.map Char.toLower) with
  | "inf" | "infinity" => return .infinity negative
  | "nan" => return .nan
  | _ => decimal? negative body

/-- The number of decimal digits of a positive number. -/
def digitCount (n : Nat) : Nat :=
  (Nat.toDigits 10 n).length

/-- The nearest floating-point number.  Numbers past the largest one and far below the smallest one
are told by the place of their first digit, so that no power of ten grows without need. -/
def toFloat : NumberLiteral → Float
  | nan => 0.0 / 0.0
  | infinity negative => if negative then -1.0 / 0.0 else 1.0 / 0.0
  | decimal negative mantissa exponent =>
    let top := exponent + digitCount mantissa
    let size :=
      if mantissa = 0 ∨ top < -400 then 0.0
      else if 400 < top then 1.0 / 0.0
      else if 0 ≤ exponent then Float.ofScientific mantissa false exponent.toNat
      else Float.ofScientific mantissa true exponent.natAbs
    if negative then -size else size

end NumberLiteral

/-- The number in a text. -/
def readNumber? (s : String) : Option Float :=
  (NumberLiteral.parse? s.toList).map NumberLiteral.toFloat

end SequenceChart
