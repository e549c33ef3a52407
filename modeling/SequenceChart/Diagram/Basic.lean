/-!
# Sequence diagrams

A sequence diagram has participants, messages between them, notes next to them, and loops around
stretches of the message list.  A loop keeps its own messages together with the range of their
positions, so that a picture of it needs nothing else; that the two agree is a fact about the
diagrams that are read from text, not about the type, since a diagram may also be built directly.

References are by name: a message or a note may name a participant that is not declared, and a
directly built diagram may declare a name twice.  `Diagram.column?` is the one place where names are
resolved.
-/

set_option autoImplicit false
namespace SequenceChart

/-! ## Arrows and places -/

/-- The six kinds of message arrow. -/
inductive Arrow
  /-- A solid line with a filled head. -/
  | solid
  /-- A solid line, the plain arrow. -/
  | solidOpen
  /-- A dashed line with a filled head, as for a reply. -/
  | dashed
  /-- A dashed line, the plain arrow. -/
  | dashedOpen
  /-- A message that is lost: the line ends in a cross. -/
  | lost
  /-- A message that is not waited for. -/
  | async
  deriving DecidableEq, Repr

namespace Arrow

/-- How an arrow is written. -/
def token : Arrow → String
  | solid => "->>"
  | solidOpen => "->"
  | dashed => "-->>"
  | dashedOpen => "-->"
  | lost => "-x"
  | async => "-)"

/-- The arrows, those with the longer tokens first: a token is never taken for a shorter one that it
begins with. -/
def longestFirst : List Arrow :=
  [dashed, solid, dashedOpen, solidOpen, lost, async]

/-- Whether the line of an arrow is dashed. -/
def isDashed : Arrow → Bool
  | dashed | dashedOpen => true
  | solid | solidOpen | lost | async => false

/-- The arrow with a given token. -/
def ofToken? (s : String) : Option Arrow :=
  longestFirst.find? (·.token == s)

/-- The arrow a text begins with, and what follows it. -/
def take? (s : List Char) : Option (Arrow × List Char) :=
  longestFirst.findSome? fun a ↦ (a.token.toList.isPrefixOf? s).map (a, ·)

theorem mem_longestFirst (a : Arrow) : a ∈ longestFirst := by
  cases a <;> decide

theorem ofToken?_token (a : Arrow) : ofToken? a.token = some a := by
  cases a <;> decide

end Arrow

/-- Where a note stands. -/
inductive NotePlace
  /-- Across its participants. -/
  | across
  /-- To the right of one participant. -/
  | rightOf
  /-- To the left of one participant. -/
  | leftOf
  deriving DecidableEq, Repr

namespace NotePlace

/-- How a place is written. -/
def words : NotePlace → String
  | across => "over"
  | rightOf => "right of"
  | leftOf => "left of"

/-- All places. -/
def all : List NotePlace :=
  [across, rightOf, leftOf]

/-- The place with given words. -/
def ofWords? (s : String) : Option NotePlace :=
  all.find? (·.words == s)

/-- The place a text begins with, and what follows it. -/
def take? (s : List Char) : Option (NotePlace × List Char) :=
  all.findSome? fun p ↦ (p.words.toList.isPrefixOf? s).map (p, ·)

theorem ofWords?_words (p : NotePlace) : ofWords? p.words = some p := by
  cases p <;> decide

end NotePlace

/-! ## The parts of a diagram -/

/-- A participant: the name that messages and notes use, and the label that is shown. -/
structure Participant where
  /-- The name. -/
  id : String
  /-- The text in the header. -/
  label : String
  deriving DecidableEq, Repr

/-- A message from one participant to another, or to itself. -/
structure Message where
  /-- The name of the participant it comes from. -/
  sender : String
  /-- The name of the participant it goes to. -/
  receiver : String
  /-- The text on the arrow. -/
  text : String
  /-- The kind of arrow. -/
  arrow : Arrow
  deriving DecidableEq, Repr

/-- A note. -/
structure Note where
  /-- Where it stands. -/
  place : NotePlace
  /-- The names of the participants it belongs to. -/
  targets : List String
  /-- The text in it. -/
  text : String
  deriving DecidableEq, Repr

/-- A loop around messages. -/
structure Loop where
  /-- The text in its frame. -/
  label : String
  /-- The messages inside. -/
  members : List Message
  /-- The position of the first message inside. -/
  first : Int
  /-- The position of the last message inside; one less than `first` if there is none. -/
  last : Int
  /-- How many loops are around it. -/
  depth : Int
  deriving DecidableEq, Repr

/-- Whether the range of a loop holds no position. -/
def Loop.isEmpty (l : Loop) : Bool :=
  l.last < l.first

/-- A sequence diagram.  Every list is in the order of the picture, but for the loops, which are in
the order in which they end. -/
structure Diagram where
  /-- The participants, from left to right. -/
  participants : List Participant
  /-- The messages, from top to bottom. -/
  messages : List Message
  /-- The notes, from top to bottom. -/
  notes : List Note
  /-- The loops. -/
  loops : List Loop
  deriving DecidableEq, Repr

/-- The column of the participant with a name: the first one, if several have it. -/
def Diagram.column? (d : Diagram) (id : String) : Option Nat :=
  d.participants.findIdx? (·.id == id)

end SequenceChart
