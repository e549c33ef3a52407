import SequenceChart.Number.Scalar
import SequenceChart.Text.Quoted
import SequenceChart.Text.Utf8

/-!
# Failures

What can go wrong for good: a value that a writer, a slide, a decoder or a path cannot take, a value
that is needed and was left blank, or words that cannot be said.  A failure is its cause; the
wording is derived from it in `Failure.message`.
-/

set_option autoImplicit false
namespace SequenceChart

/-- What the operating system says against an operation. -/
structure SystemFault where
  /-- The number of the fault. -/
  code : Nat
  /-- What it means. -/
  text : String
  deriving DecidableEq, Repr

/-- The wording of a fault. -/
def SystemFault.message (f : SystemFault) : String :=
  "[Errno " ++ toString f.code ++ "] " ++ f.text

/-- The causes for which something cannot be made or read. -/
inductive Failure
  /-- A size or place is no number, so it has no integer part. -/
  | notFinite (cause : NonFinite)
  /-- An integer has no scalar: it is past all of them. -/
  | integerTooLarge
  /-- A text holds a character that XML cannot hold. -/
  | xmlCharacter
  /-- A slide would be this wide or high. -/
  | slideSize (emu : Int)
  /-- There is no arrow with this token. -/
  | unknownArrow (token : String)
  /-- There is no place for notes with these words. -/
  | unknownPlace (words : String)
  /-- A part of a colour is no number in base sixteen. -/
  | colorDigits (part : String)
  /-- A part of a colour is a number below zero. -/
  | colorRange
  /-- The bytes of a file are not UTF-8. -/
  | undecodable (cause : Utf8.Malformed)
  /-- A column is to be placed, and the distance between columns was left blank. -/
  | blankSpacing
  /-- A picture is to be written, and the place for it was left blank. -/
  | blankOutput
  /-- A path holds the character that ends a path. -/
  | nullInPath
  /-- What is to be said is not UTF-8. -/
  | unencodable (cause : RawText.Unencodable)
  /-- What is to be said is not taken by the system. -/
  | outputFault (fault : SystemFault)
  deriving DecidableEq, Repr

/-- The least side of a slide, one inch. -/
def leastSlideSide : Int := 914400

/-- The greatest side of a slide, fifty-six inches. -/
def greatestSlideSide : Int := 51206400

/-- The wording of a failure. -/
def Failure.message : Failure → String
  | notFinite .nan => "cannot convert float NaN to integer"
  | notFinite (.infinite _) => "cannot convert float infinity to integer"
  | integerTooLarge => "int too large to convert to float"
  | xmlCharacter =>
    "All strings must be XML compatible: Unicode or ASCII, no NULL bytes or control characters"
  | slideSize emu =>
    "value must be in range(" ++ toString leastSlideSide ++ ", " ++ toString greatestSlideSide ++
      ") (1-56 inches), got " ++ toString emu
  | unknownArrow token => quoted token ++ " is not a valid ArrowKind"
  | unknownPlace words => quoted words ++ " is not a valid NotePosition"
  | colorDigits part => "invalid literal for int() with base 16: " ++ quoted part
  | colorRange => "RGBColor() takes three integer values 0-255"
  | undecodable cause => cause.message
  | blankSpacing => "unsupported operand type(s) for +: 'float' and 'list'"
  | blankOutput => "'list' object has no attribute 'parent'"
  | nullInPath => "embedded null byte"
  | unencodable cause => cause.message
  | outputFault fault => fault.message

end SequenceChart
