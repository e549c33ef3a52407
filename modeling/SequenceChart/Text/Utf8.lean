import SequenceChart.Text.Hex

/-!
# Reading UTF-8

A file is a sequence of bytes; its text is read by a machine that takes one byte at a time.  Between
characters it accepts any byte that can begin one.  Inside a character it knows how many bytes are
still owed and the bounds of the next one: the bounds are narrower after some first bytes, which
keeps out the long spellings of small numbers, the surrogates and the numbers past the last
character.  A byte the machine cannot take ends the reading with a `Malformed`, which names the
bytes at fault: those of the unfinished character, or the one byte that can begin none.

Text files end their lines in three ways, so `withLineFeeds` turns each of them into a line feed.
-/

set_option autoImplicit false
namespace SequenceChart

/-! ## Faults -/

namespace Utf8

/-- The three ways in which bytes fail to be UTF-8. -/
inductive Fault
  /-- The byte can begin no character. -/
  | invalidStart
  /-- The byte cannot continue the character that was begun. -/
  | invalidContinuation
  /-- The bytes end inside a character. -/
  | unexpectedEnd
  deriving DecidableEq, Repr

/-- The wording of a fault. -/
def Fault.text : Fault → String
  | .invalidStart => "invalid start byte"
  | .invalidContinuation => "invalid continuation byte"
  | .unexpectedEnd => "unexpected end of data"

/-- Where and why bytes fail to be UTF-8. -/
structure Malformed where
  /-- What is wrong. -/
  fault : Fault
  /-- The first byte of the unfinished or impossible character. -/
  lead : UInt8
  /-- The position of that byte. -/
  start : Nat
  /-- The position after the last byte at fault. -/
  stop : Nat
  deriving DecidableEq, Repr

/-- The message for malformed bytes: one byte at fault is shown, several are only counted. -/
def Malformed.message (m : Malformed) : String :=
  let place :=
    if m.stop = m.start + 1 then
      "byte 0x" ++ String.ofList (hexDigits 2 m.lead.toNat) ++ " in position " ++ toString m.start
    else "bytes in position " ++ toString m.start ++ "-" ++ toString (m.stop - 1)
  "'utf-8' codec can't decode " ++ place ++ ": " ++ m.fault.text

/-! ## The machine -/

/-- A character that has been begun. -/
structure Pending where
  /-- The first byte of the character. -/
  lead : UInt8
  /-- The position of that byte. -/
  start : Nat
  /-- How many bytes are still owed. -/
  owed : Nat
  /-- The smallest byte that may come next. -/
  low : Nat
  /-- The largest byte that may come next. -/
  high : Nat
  /-- The number read so far. -/
  value : Nat

/-- The machine between two bytes. -/
structure Decoder where
  /-- How many bytes have been taken. -/
  offset : Nat
  /-- The character that has been begun, if any. -/
  pending : Option Pending
  /-- The characters read so far. -/
  text : String

/-- The machine before the first byte. -/
def Decoder.initial : Decoder where
  offset := 0
  pending := none
  text := ""

/-- What a byte begins: how many bytes it calls for, the bounds of the next one, and its own share
of the number.  A byte below 128 calls for none. -/
def begin? (b : Nat) : Option (Nat × Nat × Nat × Nat) :=
  if b ≤ 0x7F then some (0, 0x80, 0xBF, b)
  else if b < 0xC2 then none
  else if b ≤ 0xDF then some (1, 0x80, 0xBF, b - 0xC0)
  else if b = 0xE0 then some (2, 0xA0, 0xBF, b - 0xE0)
  else if b = 0xED then some (2, 0x80, 0x9F, b - 0xE0)
  else if b ≤ 0xEF then some (2, 0x80, 0xBF, b - 0xE0)
  else if b = 0xF0 then some (3, 0x90, 0xBF, b - 0xF0)
  else if b ≤ 0xF3 then some (3, 0x80, 0xBF, b - 0xF0)
  else if b = 0xF4 then some (3, 0x80, 0x8F, b - 0xF0)
  else none

/-- Takes one byte. -/
def Decoder.push (d : Decoder) (b : UInt8) : Except Malformed Decoder :=
  match d.pending with
  | none =>
    match begin? b.toNat with
    | none => .error ⟨.invalidStart, b, d.offset, d.offset + 1⟩
    | some (owed, low, high, value) =>
      if owed = 0 then .ok ⟨d.offset + 1, none, d.text.push (Char.ofNat value)⟩
      else .ok ⟨d.offset + 1, some ⟨b, d.offset, owed, low, high, value⟩, d.text⟩
  | some p =>
    if p.low ≤ b.toNat ∧ b.toNat ≤ p.high then
      let value := p.value * 64 + (b.toNat - 0x80)
      if p.owed = 1 then .ok ⟨d.offset + 1, none, d.text.push (Char.ofNat value)⟩
      else .ok ⟨d.offset + 1, some ⟨p.lead, p.start, p.owed - 1, 0x80, 0xBF, value⟩, d.text⟩
    else .error ⟨.invalidContinuation, p.lead, p.start, d.offset⟩

/-- The text, once all bytes are taken: no character may be left unfinished. -/
def Decoder.finish (d : Decoder) : Except Malformed String :=
  match d.pending with
  | none => .ok d.text
  | some p => .error ⟨.unexpectedEnd, p.lead, p.start, d.offset⟩

/-- The text that bytes spell. -/
def decode (bytes : ByteArray) : Except Malformed String := do
  (← bytes.data.toList.foldlM Decoder.push Decoder.initial).finish

end Utf8

/-! ## Line ends -/

/-- A text with a line feed for every carriage return, alone or in front of a line feed. -/
def withLineFeeds : List Char → List Char
  | '\r' :: '\n' :: s => '\n' :: withLineFeeds s
  | '\r' :: s => '\n' :: withLineFeeds s
  | c :: s => c :: withLineFeeds s
  | [] => []

end SequenceChart
