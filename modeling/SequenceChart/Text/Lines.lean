import SequenceChart.Text.Blank
import SequenceChart.Xml.Character

/-!
# The lines of a source text

A source is read line by line.  Characters that no XML document can hold are taken out first, so
nothing read from a source is ever refused by a writer; then the text is cut at the line feeds,
each piece is trimmed, and the empty ones are dropped.  A carriage return in front of a line feed
needs no rule of its own: it is white space, so trimming takes it.

## Main statements

* `mem_sourceLines_iff` — what the lines of a text are.
-/

set_option autoImplicit false
namespace SequenceChart

/-- The trimmed, non-empty lines of a text, without the characters XML cannot hold. -/
def sourceLines (text : String) : List (List Char) :=
  (((text.toList.filter isXmlChar).splitOn '\n').map trim).filter (!·.isEmpty)

/-- A line of a text is a piece between line feeds, trimmed, with something left of it. -/
theorem mem_sourceLines_iff {text : String} {line : List Char} :
    line ∈ sourceLines text ↔
      line ≠ [] ∧ ∃ piece ∈ (text.toList.filter isXmlChar).splitOn '\n', trim piece = line := by
  simp [sourceLines, and_comm]

end SequenceChart
