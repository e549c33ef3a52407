import SequenceChart.Text.Hex

/-!
# Raw texts

The words of a command line and the names of files are bytes.  They are read as UTF-8, and a byte
that belongs to no character is kept as it is, so that a name means the same file when it is used
again.  Such a byte is above 127, since every other one is a character by itself.

A raw text can be looked at and shown, but not everything can hold it: what takes UTF-8 and nothing
else refuses it, and says where the first stray bytes are.  For this purpose a stray byte has the
number of an unpaired surrogate, `0xDC00` more than its own, and where it is shown it is shown by
that number.

## Main definitions

* `RawText` — characters and stray bytes.
* `RawText.shown` — a raw text with its stray bytes escaped.
* `RawText.unencodable?` — why a raw text is not UTF-8, if it is not.
-/

set_option autoImplicit false
namespace SequenceChart

/-- A part of a raw text. -/
inductive RawChar
  /-- A character. -/
  | char (c : Char)
  /-- A byte that belongs to no character, 128 more than the number given. -/
  | stray (b : Fin 128)
  deriving DecidableEq, Repr

namespace RawChar

/-- The character, if it is one. -/
def toChar? : RawChar → Option Char
  | char c => some c
  | stray _ => none

/-- How many bytes there are. -/
def byteSize : RawChar → Nat
  | char c => c.utf8Size
  | stray _ => 1

/-- The escape that stands for a stray byte. -/
def escape (b : Fin 128) : List Char :=
  '\\' :: 'u' :: hexDigits 4 (0xDC80 + b)

/-- How a part is shown. -/
def shown : RawChar → List Char
  | char c => [c]
  | stray b => escape b

end RawChar

/-- A text in which some bytes may belong to no character. -/
abbrev RawText := List RawChar

namespace RawText

/-- A text without stray bytes. -/
def ofString (s : String) : RawText :=
  s.toList.map .char

instance : Coe String RawText :=
  ⟨ofString⟩

/-- The text, if no byte is stray. -/
def toString? (s : RawText) : Option String :=
  (s.mapM RawChar.toChar?).map String.ofList

/-- How many bytes a text has. -/
def byteSize (s : RawText) : Nat :=
  s.foldl (fun n c ↦ n + c.byteSize) 0

/-- A text with its stray bytes escaped. -/
def shown (s : RawText) : String :=
  String.ofList (s.flatMap RawChar.shown)

/-! ## What is not UTF-8 -/

/-- The first stray bytes of a text. -/
structure Unencodable where
  /-- The first of them. -/
  lead : Fin 128
  /-- Its position. -/
  start : Nat
  /-- The position after the last of them. -/
  stop : Nat
  deriving DecidableEq, Repr

/-- The message for stray bytes: one is shown, several are only counted. -/
def Unencodable.message (u : Unencodable) : String :=
  let place :=
    if u.stop = u.start + 1 then
      "character '" ++ String.ofList (RawChar.escape u.lead) ++ "' in position " ++ toString u.start
    else "characters in position " ++ toString u.start ++ "-" ++ toString (u.stop - 1)
  "'utf-8' codec can't encode " ++ place ++ ": surrogates not allowed"

/-- The first stray bytes of a text, if there are any, when `position` characters come before it. -/
def strayFrom? (position : Nat) : RawText → Option Unencodable
  | [] => none
  | .char _ :: s => strayFrom? (position + 1) s
  | .stray b :: s =>
    let more := s.takeWhile (·.toChar?.isNone)
    some ⟨b, position, position + 1 + more.length⟩

/-- Why a text is not UTF-8, if it is not. -/
def unencodable? (s : RawText) : Option Unencodable :=
  strayFrom? 0 s

end RawText
end SequenceChart
