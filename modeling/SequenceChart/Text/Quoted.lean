import SequenceChart.Text.Printable
import SequenceChart.Text.Raw

/-!
# Quoted text in messages

Messages quote the text they talk about so that it stays on one line and nothing in it is
invisible.  The quotes are single unless the text has single quotes and no double ones.  Inside, the
quote in use and the backslash are escaped by a backslash, and a character that cannot be printed is
shown by its number in the shortest of three widths, or by a letter if it is a line feed, a carriage
return or a tab.  A stray byte is escaped as it always is.
-/

set_option autoImplicit false
namespace SequenceChart

/-- The quote that is put around a text. -/
def quoteMark (s : RawText) : Char :=
  if s.contains (.char '\'') && !s.contains (.char '"') then '"' else '\''

/-- One character between quotes `mark`. -/
def quoteChar (mark c : Char) : List Char :=
  if c == mark || c == '\\' then ['\\', c]
  else if c == '\n' then ['\\', 'n']
  else if c == '\r' then ['\\', 'r']
  else if c == '\t' then ['\\', 't']
  else if isPrintable c then [c]
  else if c.toNat < 0x100 then '\\' :: 'x' :: hexDigits 2 c.toNat
  else if c.toNat < 0x10000 then '\\' :: 'u' :: hexDigits 4 c.toNat
  else '\\' :: 'U' :: hexDigits 8 c.toNat

/-- A part of a text between quotes `mark`. -/
def RawChar.quoted (mark : Char) : RawChar → List Char
  | char c => quoteChar mark c
  | stray b => escape b

/-- A text between quotes. -/
def quoted (s : RawText) : String :=
  let mark := quoteMark s
  String.ofList (mark :: s.flatMap (·.quoted mark) ++ [mark])

end SequenceChart
