import SequenceChart.Text.CharClass

/-!
# White space

The characters that separate words and that are dropped at both ends of a line: the control
characters TAB to CR and FS to US, the space, NEL, and the Unicode spaces.  Trimming is here too.
-/

set_option autoImplicit false
namespace SequenceChart

/-- The white-space characters. -/
def blankClass : CharClass where
  ranges :=
    [(0x0009, 0x000D), (0x001C, 0x0020), (0x0085, 0x0085), (0x00A0, 0x00A0), (0x1680, 0x1680),
      (0x2000, 0x200A), (0x2028, 0x2029), (0x202F, 0x202F), (0x205F, 0x205F), (0x3000, 0x3000)]

/-- Whether a character is white space. -/
def isBlank (c : Char) : Bool :=
  blankClass.contains c

/-- A text without the white space it begins with. -/
def trimStart (s : List Char) : List Char :=
  s.dropWhile isBlank

/-- A text without the white space it ends with. -/
def trimEnd (s : List Char) : List Char :=
  (trimStart s.reverse).reverse

/-- A text without the white space at either end. -/
def trim (s : List Char) : List Char :=
  trimEnd (trimStart s)

/-- The text that follows white space: at least one blank has to come first, and all the blanks that
come first are dropped. -/
def afterBlanks? : List Char → Option (List Char)
  | c :: s => if isBlank c then some (trimStart s) else none
  | [] => none

end SequenceChart
