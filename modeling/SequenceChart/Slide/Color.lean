import SequenceChart.Failure
import SequenceChart.Text.Digit

/-!
# Colours

A colour of a slide is written as six digits in base sixteen, two for each of red, green and blue.
Reading one is generous: white space and number signs in front are skipped, and a text of another
length, or none, is black.  Each part is then read as a number, with the digits of any script, white
space around it and a sign, so a part may fail to be a number, or be one below zero.
-/

set_option autoImplicit false
namespace SequenceChart

/-- A colour. -/
structure Color where
  /-- The red part. -/
  red : Nat
  /-- The green part. -/
  green : Nat
  /-- The blue part. -/
  blue : Nat
  deriving DecidableEq, Repr

namespace Color

/-- A colour as six digits. -/
def text (c : Color) : String :=
  String.ofList (upperHexDigits 2 c.red ++ upperHexDigits 2 c.green ++ upperHexDigits 2 c.blue)

/-- The number that digits in base sixteen write, if there are some and all of them are digits. -/
def hexNumber? (s : List Char) : Option Nat :=
  if s.isEmpty then none
  else s.foldlM (fun n c ↦ (hexValue? c).map (16 * n + ·)) 0

/-- The number written by one part of a colour. -/
def part? (s : List Char) : Option Int :=
  match numeral s with
  | '-' :: digits => (hexNumber? digits).map fun n ↦ -(n : Int)
  | '+' :: digits => (hexNumber? digits).map fun n ↦ n
  | digits => (hexNumber? digits).map fun n ↦ n

/-- One part of a colour. -/
def readPart (s : List Char) : Except Failure Int :=
  match part? s with
  | some n => .ok n
  | none => .error (.colorDigits (String.ofList s))

/-- The six characters that a text stands for. -/
def sixDigits (s : List Char) : List Char :=
  let digits := (trim s).dropWhile (· == '#')
  if digits.length = 6 then digits else "000000".toList

/-- The colour that a text stands for. -/
def read (s : String) : Except Failure Color := do
  let digits := sixDigits s.toList
  let red ← readPart (digits.take 2)
  let green ← readPart ((digits.drop 2).take 2)
  let blue ← readPart (digits.drop 4)
  if red < 0 ∨ green < 0 ∨ blue < 0 then throw .colorRange
  return ⟨red.toNat, green.toNat, blue.toNat⟩

end Color
end SequenceChart
