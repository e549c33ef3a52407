import SequenceChart.Xml.Element
import Mathlib.Data.List.Basic

/-!
# The tags of an element

An element is written as tags with depths, and the depths matter for nothing but the indentation.
`Element.flatTags` forgets them, and what is asked of all the tags of an element can then be asked
of the element itself and of the elements inside (`Element.isWritable_node`).  The elements with a
given name, however deep they are, are those whose tags have it.

## Main definitions

* `Element.flatTags` — the tags of an element, without their depths.
* `Tag.isWritable` — whether XML can hold the values of a tag.
* `Element.attributesOf` — the attributes of the elements with a name.

## Main statements

* `Element.induction` — a property of elements passes from the elements inside to the one around.
* `Element.isWritable_node` — what can be written, from the outside in.
* `Element.attributesOf_node` — the elements with a name, from the outside in.
-/

set_option autoImplicit false
namespace SequenceChart.Xml

/-- Whether every attribute of a tag has a value that XML can hold. -/
def Tag.isWritable (t : Tag) : Bool :=
  t.attributes.all fun a ↦ isXmlText a.value

namespace Element

/-- **Induction over elements**: what holds of an element if it holds of all the elements inside
holds of every element. -/
@[elab_as_elim]
theorem induction {motive : Element → Prop}
    (node : ∀ name attributes children, (∀ c ∈ children, motive c) →
      motive (.node name attributes children)) (e : Element) : motive e :=
  match e with
  | .node name attributes children =>
    node name attributes children fun c _ ↦ induction node c

theorem tagsOfList_eq_flatMap (depth : Nat) (es : List Element) :
    tagsOfList depth es = es.flatMap (tags depth) := by
  induction es with
  | nil => rfl
  | cons e es ih => rw [tagsOfList, ih, List.flatMap_cons]

theorem tags_node_cons (depth : Nat) (name : String) (attributes : List Attribute)
    (child : Element) (rest : List Element) :
    tags depth (.node name attributes (child :: rest)) = (depth, .opening name attributes) ::
      (child :: rest).flatMap (tags (depth + 1)) ++ [(depth, .closing name)] := by
  rw [tags, tagsOfList_eq_flatMap, List.flatMap_cons, List.cons_append]

/-- The tags of an element, without their depths. -/
def flatTags (e : Element) : List Tag :=
  (e.tags 0).map Prod.snd

/-- The depth at which an element stands does not change its tags. -/
theorem map_snd_tags (depth : Nat) (e : Element) : (e.tags depth).map Prod.snd = e.flatTags := by
  suffices h : ∀ d d', (e.tags d).map Prod.snd = (e.tags d').map Prod.snd from h depth 0
  induction e using induction with
  | node name attributes children ih =>
    intro d d'
    cases children with
    | nil => rfl
    | cons child rest =>
      have hinside : ((child :: rest).flatMap (tags (d + 1))).map Prod.snd =
          ((child :: rest).flatMap (tags (d' + 1))).map Prod.snd := by
        rw [List.map_flatMap, List.map_flatMap]
        exact List.flatMap_congr fun c hc ↦ ih c hc (d + 1) (d' + 1)
      simp only [tags_node_cons, List.map_append, List.map_cons, List.cons_append, hinside,
        List.map_nil]

theorem flatTags_node_nil (name : String) (attributes : List Attribute) :
    flatTags (.node name attributes []) = [.single name attributes] :=
  rfl

theorem flatTags_node_cons (name : String) (attributes : List Attribute) (child : Element)
    (rest : List Element) :
    flatTags (.node name attributes (child :: rest)) =
      .opening name attributes :: (child :: rest).flatMap flatTags ++ [.closing name] := by
  have hinside : ((child :: rest).flatMap (tags 1)).map Prod.snd =
      (child :: rest).flatMap flatTags := by
    rw [List.map_flatMap]
    exact List.flatMap_congr fun c _ ↦ map_snd_tags 1 c
  rw [flatTags, tags_node_cons, List.cons_append, List.map_cons, List.map_append, hinside]
  rfl

theorem isWritable_eq (e : Element) : e.isWritable = e.flatTags.all Tag.isWritable := by
  rw [isWritable, flatTags, List.all_map]
  rfl

/-- What is asked of all tags is asked of an element if it is asked of its name and attributes and
of the elements inside.  The tag that ends the element has only the name. -/
theorem all_flatTags_node {p : Tag → Bool} {q : String → List Attribute → Bool}
    (hopening : ∀ name attributes, p (.opening name attributes) = q name attributes)
    (hsingle : ∀ name attributes, p (.single name attributes) = q name attributes)
    (hclosing : ∀ name attributes, q name attributes = true → p (.closing name) = true)
    (name : String) (attributes : List Attribute) (children : List Element) :
    (node name attributes children).flatTags.all p =
      (q name attributes && children.all fun c ↦ c.flatTags.all p) := by
  cases children with
  | nil => rw [flatTags_node_nil, List.all_cons, hsingle, List.all_nil, List.all_nil]
  | cons child rest =>
    rw [flatTags_node_cons, List.cons_append, List.all_cons, List.all_append, List.all_flatMap,
      hopening, List.all_cons (l := []), List.all_nil, Bool.and_true]
    cases hq : q name attributes with
    | false => rfl
    | true => rw [hclosing name attributes hq, Bool.and_true]

/-- **An element can be written** if its attributes and the elements inside it can. -/
theorem isWritable_node (name : String) (attributes : List Attribute) (children : List Element) :
    (node name attributes children).isWritable =
      (attributes.all (fun a ↦ isXmlText a.value) && children.all isWritable) := by
  have hinside : isWritable = fun e : Element ↦ e.flatTags.all Tag.isWritable :=
    funext isWritable_eq
  rw [isWritable_eq, hinside]
  exact all_flatTags_node (fun _ _ ↦ rfl) (fun _ _ ↦ rfl) (fun _ _ _ ↦ rfl) name attributes children

end Element

/-! ## Elements with a name -/

/-- The attributes of an element, if the tag begins one with the given name. -/
def Tag.attributesOf? (name : String) : Tag → Option (List Attribute)
  | .opening n attributes | .single n attributes => if n = name then some attributes else none
  | .closing _ => none

/-- The value of the attribute with the given name. -/
def valueOf? (name : String) (attributes : List Attribute) : Option String :=
  (attributes.find? (·.name == name)).map (·.value)

namespace Element

/-- The attributes of all elements with the given name, in the order of the document. -/
def attributesOf (name : String) (e : Element) : List (List Attribute) :=
  e.flatTags.filterMap (Tag.attributesOf? name)

/-- **The elements with a name** are the element itself, if it has the name, and those inside. -/
theorem attributesOf_node (name n : String) (attributes : List Attribute)
    (children : List Element) :
    attributesOf name (.node n attributes children) =
      (if n = name then [attributes] else []) ++ children.flatMap (attributesOf name) := by
  cases children with
  | nil =>
    rw [attributesOf, flatTags_node_nil]
    by_cases hn : n = name <;> simp [Tag.attributesOf?, hn]
  | cons child rest =>
    have hinside : ((child :: rest).flatMap flatTags).filterMap (Tag.attributesOf? name) =
        (child :: rest).flatMap (attributesOf name) :=
      List.filterMap_flatMap
    rw [attributesOf, flatTags_node_cons, List.cons_append, List.filterMap_cons,
      List.filterMap_append, hinside]
    by_cases hn : n = name <;> simp [Tag.attributesOf?, hn]

end Element
end SequenceChart.Xml
