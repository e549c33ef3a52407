import SequenceChart.Failure
import SequenceChart.Xml.Character

/-!
# Line ends

What is known of a line on a slide is a list of parts, among them marks for its two ends.  Setting
the ends takes out all marks that are there, however many and wherever, and puts the new ones
behind what is left, the head first.  An end of kind `none` has no mark.

A kind is stored as it is, so it is refused if it holds a character that XML cannot hold:
`LinePart.setEnds` says what becomes of the parts, and `LinePart.storeEnds` whether that can be
stored.  A kind is looked at when its mark is put in.  By then the old marks are gone, and the mark
of the head may be there already, so a call that is refused leaves the line in a state of its own:
`LinePart.attemptEnds`.
-/

set_option autoImplicit false
namespace SequenceChart

/-- A part of the description of a line. -/
inductive LinePart
  /-- The mark where the line begins. -/
  | headEnd (kind : String)
  /-- The mark where the line ends. -/
  | tailEnd (kind : String)
  /-- Something else, such as the colour of the line or its dashes. -/
  | other (name : String)
  deriving DecidableEq, Repr

namespace LinePart

/-- Whether a part is a mark of an end. -/
def isEnd : LinePart → Bool
  | headEnd _ | tailEnd _ => true
  | other _ => false

/-- The kind of mark that stands for no mark. -/
def noMark : String := "none"

/-- The mark where a line begins, if there is to be one. -/
def headEnds (kind : String) : List LinePart :=
  if kind = noMark then [] else [headEnd kind]

/-- The mark where a line ends, if there is to be one. -/
def tailEnds (kind : String) : List LinePart :=
  if kind = noMark then [] else [tailEnd kind]

/-- The parts of a line after its ends are set. -/
def setEnds (start stop : String) (parts : List LinePart) : List LinePart :=
  parts.filter (!·.isEnd) ++ headEnds start ++ tailEnds stop

/-- The parts of a line after its ends are set, if the kinds of the marks can be stored. -/
def storeEnds (start stop : String) (parts : List LinePart) : Except Failure (List LinePart) :=
  if isXmlText start && isXmlText stop then .ok (setEnds start stop parts)
  else .error .xmlCharacter

/-- The parts of a line after its ends were to be set.  The marks that were there are gone; the head
is put in if its kind can be stored, and then the tail if that can be stored as well. -/
def attemptEnds (start stop : String) (parts : List LinePart) : List LinePart :=
  parts.filter (!·.isEnd) ++ (if isXmlText start then headEnds start else []) ++
    if isXmlText start && isXmlText stop then tailEnds stop else []

/-- If nothing is refused, a call leaves the parts that it answers with. -/
theorem storeEnds_eq (start stop : String) (parts : List LinePart) :
    storeEnds start stop parts =
      if isXmlText start && isXmlText stop then .ok (attemptEnds start stop parts)
      else .error .xmlCharacter := by
  rw [storeEnds, setEnds, attemptEnds]
  cases isXmlText start <;> cases isXmlText stop <;> rfl

end LinePart
end SequenceChart
