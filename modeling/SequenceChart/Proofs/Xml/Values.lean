import SequenceChart.Proofs.Xml.Reading

/-!
# What the values of a document can change

Two elements may differ in nothing but attributes of one name, as two pictures do whose labels
differ.  Then their documents have the same tags with the same names and the same attributes in the
same order, and even as texts they agree outside the quotes of these attributes: as a value is
written without quotes, the quotes of a document are those of the writer, and it makes no difference
which value stands between two of them.

The name here is `value`, which is what draw.io calls the text in a cell.

## Main definitions

* `SameButValues` — that two texts agree outside the attributes called `value`.
* `Element.blankTags` — the tags of an element without these values.

## Main statements

* `sameButValues_document` — elements with the same blank tags have documents that agree outside the
  values.
-/

set_option autoImplicit false
namespace SequenceChart.Xml

/-- Two texts are the same apart from what stands between quotes after `value=`.  The quotes of the
two texts correspond, since nothing but quotes begins and ends what stands between them. -/
inductive SameButValues : List Char → List Char → Prop
  /-- At the end. -/
  | nil : SameButValues [] []
  /-- A character outside quotes. -/
  | outside {c : Char} {s t : List Char} (hc : c ≠ '"') (h : SameButValues s t) :
    SameButValues (c :: s) (c :: t)
  /-- Any value that is the same in both. -/
  | quoted {v s t : List Char} (hv : '"' ∉ v) (h : SameButValues s t) :
    SameButValues ('"' :: v ++ '"' :: s) ('"' :: v ++ '"' :: t)
  /-- Two values of an attribute called `value`. -/
  | value {v w s t : List Char} (hv : '"' ∉ v) (hw : '"' ∉ w) (h : SameButValues s t) :
    SameButValues (" value=\"".toList ++ v ++ '"' :: s) (" value=\"".toList ++ w ++ '"' :: t)

namespace SameButValues

theorem append {s t s' t' : List Char} (h : SameButValues s t) (h' : SameButValues s' t') :
    SameButValues (s ++ s') (t ++ t') := by
  induction h with
  | nil => exact h'
  | outside hc _ ih => exact .outside hc ih
  | quoted hv _ ih => simpa using SameButValues.quoted hv ih
  | value hv hw _ ih => simpa using SameButValues.value hv hw ih

theorem of_unquoted {s : List Char} (h : '"' ∉ s) : SameButValues s s := by
  induction s with
  | nil => exact .nil
  | cons c s ih =>
    rw [List.mem_cons, not_or] at h
    exact .outside (Ne.symm h.1) (ih h.2)

/-- Lists of the same pieces, up to their values, are the same up to values. -/
theorem flatMap {β γ : Type} {key : β → γ} {text : β → List Char} {l l' : List β}
    (hkeys : l.map key = l'.map key)
    (htext : ∀ a ∈ l, ∀ b, key a = key b → SameButValues (text a) (text b)) :
    SameButValues (l.flatMap text) (l'.flatMap text) := by
  induction l generalizing l' with
  | nil =>
    rw [List.map_nil, eq_comm, List.map_eq_nil_iff] at hkeys
    rw [hkeys]
    exact .nil
  | cons a l ih =>
    obtain ⟨b, l'', rfl, hkey, hrest⟩ := List.map_eq_cons_iff.1 hkeys.symm
    rw [List.flatMap_cons, List.flatMap_cons]
    exact (htext a (List.mem_cons_self ..) b hkey.symm).append
      (ih hrest.symm fun c hc ↦ htext c (List.mem_cons_of_mem _ hc))

end SameButValues

/-! ## Attributes and tags -/

/-- An attribute without its value, if it is called `value`. -/
def Attribute.blank (a : Attribute) : Attribute :=
  if a.name = "value" then { a with value := "" } else a

/-- A tag without the values of the attributes called `value`. -/
def Tag.blank : Tag → Tag
  | .opening name attributes => .opening name (attributes.map Attribute.blank)
  | .closing name => .closing name
  | .single name attributes => .single name (attributes.map Attribute.blank)

theorem Attribute.name_blank (a : Attribute) : a.blank.name = a.name := by
  unfold blank
  split <;> rfl

theorem unquoted_name {s : List Char} (h : isName s = true) : '"' ∉ s :=
  fun hc ↦ (isUncut_name h _ hc).2.2 rfl

theorem unquoted_escape (s : List Char) : '"' ∉ escape s :=
  fun hc ↦ (isUncut_escape s _ hc).2.2 rfl

theorem sameButValues_attribute {a b : Attribute} (ha : isName a.name.toList = true)
    (h : a.blank = b.blank) : SameButValues a.text b.text := by
  have hname : a.name = b.name := by rw [← a.name_blank, h, b.name_blank]
  obtain ⟨name, v⟩ := a
  obtain ⟨name', w⟩ := b
  obtain rfl : name = name' := hname
  by_cases hvalue : name = "value"
  · subst hvalue
    have hopening : " value=\"".toList = ' ' :: "value".toList ++ ['=', '"'] := by decide
    simpa [Attribute.text, hopening] using
      SameButValues.value (unquoted_escape v.toList) (unquoted_escape w.toList) .nil
  · obtain rfl : v = w := by simpa [Attribute.blank, hvalue] using h
    have hkey : '"' ∉ [' '] ++ name.toList ++ ['='] := fun hc ↦ (isUncut_key ha _ hc).2.2 rfl
    simpa [Attribute.text] using
      (SameButValues.of_unquoted hkey).append (.quoted (unquoted_escape v.toList) .nil)

theorem sameButValues_attributes {as bs : List Attribute}
    (ha : (as.all fun a ↦ isName a.name.toList) = true)
    (h : as.map Attribute.blank = bs.map Attribute.blank) :
    SameButValues (as.flatMap Attribute.text) (bs.flatMap Attribute.text) :=
  .flatMap h fun a hmem _ hb ↦ sameButValues_attribute (List.all_eq_true.1 ha a hmem) hb

theorem sameButValues_tag {t u : Tag} (ht : t.isNamed = true) (h : t.blank = u.blank) :
    SameButValues t.text u.text := by
  cases t with
  | closing name =>
    cases u <;> cases h
    have htext : '"' ∉ '<' :: '/' :: name.toList ++ ['>'] := by
      simpa using unquoted_name ht
    exact .of_unquoted htext
  | opening name as =>
    rw [Tag.isNamed, Bool.and_eq_true] at ht
    cases u with
    | opening name' bs =>
      obtain ⟨rfl, hbs⟩ := Tag.opening.inj h
      have hname : '"' ∉ '<' :: name.toList := by simpa using unquoted_name ht.1
      exact ((SameButValues.of_unquoted hname).append (sameButValues_attributes ht.2 hbs)).append
        (.of_unquoted (by decide))
    | closing | single => cases h
  | single name as =>
    rw [Tag.isNamed, Bool.and_eq_true] at ht
    cases u with
    | single name' bs =>
      obtain ⟨rfl, hbs⟩ := Tag.single.inj h
      have hname : '"' ∉ '<' :: name.toList := by simpa using unquoted_name ht.1
      exact ((SameButValues.of_unquoted hname).append (sameButValues_attributes ht.2 hbs)).append
        (.of_unquoted (by decide))
    | opening | closing => cases h

/-! ## Elements -/

/-- The tags of an element, each with its depth, without the values of the attributes called
`value`. -/
def Element.blankTags (depth : Nat) (e : Element) : List (Nat × Tag) :=
  (e.tags depth).map fun t ↦ (t.1, t.2.blank)

/-- Elements have the same blank tags if their attributes are the same without values and the
elements inside have the same blank tags. -/
theorem Element.blankTags_node {depth : Nat} {name : String} {as bs : List Attribute}
    {es fs : List Element} (hattributes : as.map Attribute.blank = bs.map Attribute.blank)
    (hinside : es.map (blankTags (depth + 1)) = fs.map (blankTags (depth + 1))) :
    (node name as es).blankTags depth = (node name bs fs).blankTags depth := by
  cases es with
  | nil =>
    rw [List.map_nil, eq_comm, List.map_eq_nil_iff] at hinside
    rw [hinside]
    simp [blankTags, tags, Tag.blank, hattributes]
  | cons e es =>
    obtain ⟨f, fs, rfl, -, -⟩ := List.map_eq_cons_iff.1 hinside.symm
    have hflat : ((e :: es).flatMap (tags (depth + 1))).map (fun t ↦ (t.1, t.2.blank)) =
        ((f :: fs).flatMap (tags (depth + 1))).map fun t ↦ (t.1, t.2.blank) := by
      rw [List.map_flatMap, List.map_flatMap]
      exact congrArg List.flatten hinside
    have hopening : (Tag.opening name as).blank = (Tag.opening name bs).blank :=
      congrArg (Tag.opening name) hattributes
    simp only [blankTags, tags_node_cons, List.map_cons, List.map_append, hflat, hopening]

/-- **Elements that differ in values only have documents that differ in values only.** -/
theorem sameButValues_document {e e' : Element} (he : e.isNamed = true)
    (h : e.blankTags 0 = e'.blankTags 0) :
    SameButValues (document e).toList (document e').toList := by
  rw [document, document, String.toList_ofList, String.toList_ofList]
  refine .append (.of_unquoted (by decide)) (.flatMap h fun t ht u hu ↦ ?_)
  obtain ⟨depth, t⟩ := t
  obtain ⟨depth', u⟩ := u
  obtain ⟨rfl, hblank⟩ := Prod.mk.inj hu
  have hnamed : t.isNamed = true := List.all_eq_true.1 he t (List.mem_map_of_mem ht)
  have hindent : '"' ∉ List.replicate (2 * depth) ' ' := by simp
  exact ((SameButValues.of_unquoted hindent).append (sameButValues_tag hnamed hblank)).append
    (.of_unquoted (by decide))

end SequenceChart.Xml
