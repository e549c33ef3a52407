import SequenceChart.Xml.Character

/-!
# XML documents

The documents written here hold elements and attributes and no text between tags.  An element is
written as tags, one a line, indented by two spaces for each element around it; an element with
nothing inside is written as a single tag.

The value of an attribute may be any text of XML characters.  It is written between double quotes
with references for the characters that would end the value or begin a reference, and for the three
white spaces that a reader would turn into spaces; everything else stands for itself.

## Main definitions

* `Xml.Element` — an element with its attributes and the elements inside.
* `Xml.Element.tags` — the tags of an element, each with its depth.
* `Xml.document` — the text of a document.
-/

set_option autoImplicit false
namespace SequenceChart.Xml

/-- An attribute: a name and a value. -/
structure Attribute where
  /-- The name. -/
  name : String
  /-- The value. -/
  value : String
  deriving DecidableEq, Repr

/-- An element. -/
inductive Element
  /-- An element with a name, attributes and the elements inside it. -/
  | node (name : String) (attributes : List Attribute) (children : List Element)
  deriving Repr

/-- A tag. -/
inductive Tag
  /-- The tag before the elements inside. -/
  | opening (name : String) (attributes : List Attribute)
  /-- The tag after the elements inside. -/
  | closing (name : String)
  /-- The only tag of an element with nothing inside. -/
  | single (name : String) (attributes : List Attribute)
  deriving DecidableEq, Repr

/-! ## From elements to tags -/

mutual

/-- The tags of an element, each with the number of elements around it. -/
def Element.tags (depth : Nat) : Element → List (Nat × Tag)
  | .node name attributes [] => [(depth, .single name attributes)]
  | .node name attributes (child :: rest) =>
    (depth, .opening name attributes) :: Element.tags (depth + 1) child ++
      Element.tagsOfList (depth + 1) rest ++ [(depth, .closing name)]

/-- The tags of elements in a row. -/
def Element.tagsOfList (depth : Nat) : List Element → List (Nat × Tag)
  | [] => []
  | e :: rest => Element.tags depth e ++ Element.tagsOfList depth rest

end

/-- The attributes of a tag. -/
def Tag.attributes : Tag → List Attribute
  | .opening _ attributes => attributes
  | .closing _ => []
  | .single _ attributes => attributes

/-! ## From tags to text -/

/-- A character of the value of an attribute. -/
def escapeChar (c : Char) : List Char :=
  if c == '&' then "&amp;".toList
  else if c == '<' then "&lt;".toList
  else if c == '>' then "&gt;".toList
  else if c == '"' then "&quot;".toList
  else if c == '\t' then "&#9;".toList
  else if c == '\n' then "&#10;".toList
  else if c == '\r' then "&#13;".toList
  else [c]

/-- The value of an attribute as it is written between quotes. -/
def escape (s : List Char) : List Char :=
  s.flatMap escapeChar

/-- An attribute, with the space in front of it. -/
def Attribute.text (a : Attribute) : List Char :=
  ' ' :: a.name.toList ++ '=' :: '"' :: escape a.value.toList ++ ['"']

/-- A tag. -/
def Tag.text : Tag → List Char
  | .opening name attributes => '<' :: name.toList ++ attributes.flatMap Attribute.text ++ ['>']
  | .closing name => '<' :: '/' :: name.toList ++ ['>']
  | .single name attributes =>
    '<' :: name.toList ++ attributes.flatMap Attribute.text ++ ['/', '>']

/-- A tag on a line of its own. -/
def tagLine (depth : Nat) (t : Tag) : List Char :=
  List.replicate (2 * depth) ' ' ++ t.text ++ ['\n']

/-- The line that a document begins with. -/
def declaration : List Char :=
  "<?xml version='1.0' encoding='UTF-8'?>\n".toList

/-- The text of the document with the given outermost element. -/
def document (e : Element) : String :=
  String.ofList (declaration ++ (e.tags 0).flatMap fun (depth, t) ↦ tagLine depth t)

/-! ## What can be written -/

/-- Whether every attribute in an element has a value that XML can hold. -/
def Element.isWritable (e : Element) : Bool :=
  (e.tags 0).all fun (_, t) ↦ t.attributes.all fun a ↦ isXmlText a.value

end SequenceChart.Xml
