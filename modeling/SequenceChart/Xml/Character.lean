/-!
# The characters of XML

XML 1.0 leaves out the control characters below the space, apart from tab, line feed and carriage
return, and the two noncharacters at the end of the basic plane; not even a character reference can
stand for one of them.  It leaves out the surrogates as well, but there are none to be asked about:
a text is a list of scalar values throughout, and what is proved of every text is proved of these.
-/

set_option autoImplicit false
namespace SequenceChart

/-- Whether an XML 1.0 document can hold the character. -/
def isXmlChar (c : Char) : Bool :=
  c == '\t' || c == '\n' || c == '\r' ||
    (0x20 ≤ c.toNat && c.toNat != 0xFFFE && c.toNat != 0xFFFF)

/-- Whether every character of a text can stand in an XML 1.0 document. -/
def isXmlText (s : String) : Bool :=
  s.toList.all isXmlChar

end SequenceChart
