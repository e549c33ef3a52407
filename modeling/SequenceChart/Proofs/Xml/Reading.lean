import SequenceChart.Proofs.Xml.Tags
import SequenceChart.Proofs.Xml.Texts

/-!
# Reading documents

A reader of XML for documents of elements and attributes, and the proof that it gives back the
element that was written.  The reader knows nothing of how values are written.  It works in three
steps, each of which can fail:

* the text is cut at `<` and `>` into the texts of the tags, where a `>` between quotes cuts nothing
  and a `<` may not stand inside a tag (`rawTags`);
* each of these is cut at the quotes into keys and values, and the references in the values are
  replaced by the characters they stand for; white space that stands for itself becomes a space, as
  XML has it (`readTag`);
* the element is put together from the tags, which have to match (`Element.ofTags?`).

What is written survives each step for a reason of its own.  A value that is written has none of the
characters at which the text is cut (`isUncut_escape`), so the tags come out as they went in,
whatever the values are.  Every reference is followed by its semicolon and replaced by what it was
written for, and the three white spaces never stand for themselves (`resolve_escape`).  And the tags
of an element match (`treesFrom_flatTags`).

## Main definitions

* `Xml.read` — the element that a document holds.

## Main statements

* `read_document` — reading gives back what was written.
-/

set_option autoImplicit false
namespace SequenceChart.Xml

/-! ## The reader -/

section Reader

mutual

/-- What stands between `<` and `>`, for each tag of a text that has only white space elsewhere. -/
def rawTags : List Char → Option (List (List Char))
  | [] => some []
  | c :: rest =>
    if c = '<' then (rawTag false rest).map fun (tag, tags) ↦ tag :: tags
    else if c.isWhitespace then rawTags rest
    else none

/-- What is left of a tag, in quotes or not, and the tags that follow. -/
def rawTag (quoted : Bool) : List Char → Option (List Char × List (List Char))
  | [] => none
  | c :: rest =>
    if c = '<' then none
    else if c = '>' ∧ quoted = false then (rawTags rest).map fun tags ↦ ([], tags)
    else (rawTag (if c = '"' then !quoted else quoted) rest).map fun (tag, tags) ↦ (c :: tag, tags)

end

/-- The character that a reference stands for, given what is between `&` and `;`. -/
def reference? (name : List Char) : Option Char :=
  if name = "amp".toList then some '&'
  else if name = "lt".toList then some '<'
  else if name = "gt".toList then some '>'
  else if name = "quot".toList then some '"'
  else if name = "apos".toList then some '\''
  else match name with
    | '#' :: d :: digits =>
      if (d :: digits).all Char.isDigit then some (Char.ofNat (Nat.ofDigitChars 10 (d :: digits) 0))
      else none
    | _ => none

/-- The value that a text between quotes stands for; `open?` is what has been read of a reference
that has not ended. -/
def resolve (open? : Option (List Char)) : List Char → Option (List Char)
  | [] => if open?.isNone then some [] else none
  | c :: rest =>
    match open? with
    | some name =>
      if c = ';' then (reference? name).bind fun d ↦ (resolve none rest).map (d :: ·)
      else resolve (some (name ++ [c])) rest
    | none =>
      if c = '&' then resolve (some []) rest
      else if c = '<' then none
      else (resolve none rest).map ((if c.isWhitespace then ' ' else c) :: ·)

/-- Whether a character can stand in a name; here these are the letters of ASCII. -/
def isNameChar (c : Char) : Bool :=
  (65 ≤ c.toNat && c.toNat ≤ 90) || (97 ≤ c.toNat && c.toNat ≤ 122)

/-- Whether a text is a name. -/
def isName (s : List Char) : Bool :=
  !s.isEmpty && s.all isNameChar

/-- The name in front of a value, given what is between the quotes of two values. -/
def readKey : List Char → Option (List Char)
  | ' ' :: key =>
    if isName (key.takeWhile isNameChar) ∧ key.dropWhile isNameChar = ['='] then
      some (key.takeWhile isNameChar)
    else none
  | _ => none

/-- The attributes of a tag that is cut at its quotes, and what follows the last of them. -/
def readAttributes : List (List Char) → Option (List Attribute × List Char)
  | [] => none
  | [last] => some ([], last)
  | key :: value :: rest => do
    let name ← readKey key
    let content ← resolve none value
    let (attributes, last) ← readAttributes rest
    return (⟨String.ofList name, String.ofList content⟩ :: attributes, last)

/-- A tag, given what is between `<` and `>`. -/
def readTag : List Char → Option Tag
  | '/' :: name => if isName name then some (.closing (String.ofList name)) else none
  | raw =>
    let name := raw.takeWhile isNameChar
    if name.isEmpty then none
    else match readAttributes ((raw.dropWhile isNameChar).splitOn '"') with
      | some (attributes, []) => some (.opening (String.ofList name) attributes)
      | some (attributes, ['/']) => some (.single (String.ofList name) attributes)
      | _ => none

/-- A tag that has not been closed, with the elements in front of it. -/
structure OpenTag where
  /-- The name. -/
  name : String
  /-- The attributes. -/
  attributes : List Attribute
  /-- The elements before it that are around or inside the same element. -/
  before : List Element

/-- The elements that tags describe, after the elements `done` inside some open tags, of which the
last one comes first. -/
def treesFrom (done : List Element) : List OpenTag → List Tag → Option (List Element)
  | [], [] => some done
  | _ :: _, [] => none
  | outer, .opening name attributes :: rest => treesFrom [] (⟨name, attributes, done⟩ :: outer) rest
  | outer, .single name attributes :: rest =>
    treesFrom (done ++ [.node name attributes []]) outer rest
  | [], .closing _ :: _ => none
  | inner :: outer, .closing name :: rest =>
    if inner.name = name then
      treesFrom (inner.before ++ [.node name inner.attributes done]) outer rest
    else none

/-- The one element that tags describe. -/
def Element.ofTags? (tags : List Tag) : Option Element :=
  match treesFrom [] [] tags with
  | some [e] => some e
  | _ => none

/-- The texts of the tags without the declaration, which need not be there. -/
def withoutDeclaration : List (List Char) → List (List Char)
  | ('?' :: _) :: raws => raws
  | raws => raws

/-- The tags of a document. -/
def readTags (text : String) : Option (List Tag) :=
  if isXmlText text then
    (rawTags text.toList).bind fun raws ↦ (withoutDeclaration raws).mapM readTag
  else none

/-- The element that a document holds. -/
def read (text : String) : Option Element :=
  (readTags text).bind Element.ofTags?

end Reader

/-! ## Values -/

/-- What is written for a character is read as that character. -/
theorem resolve_escapeChar (c : Char) (rest : List Char) :
    resolve none (escapeChar c ++ rest) = (resolve none rest).map (c :: ·) := by
  by_cases hreference : c ∈ ['&', '<', '>', '"', '\t', '\n', '\r']
  · simp only [List.mem_cons, List.not_mem_nil, or_false] at hreference
    rcases hreference with rfl | rfl | rfl | rfl | rfl | rfl | rfl
    all_goals rfl
  · simp only [List.mem_cons, List.not_mem_nil, or_false, not_or] at hreference
    obtain ⟨hamp, hlt, hgt, hquot, htab, hlf, hcr⟩ := hreference
    have hescape : escapeChar c = [c] := by
      simp [escapeChar, hamp, hlt, hgt, hquot, htab, hlf, hcr]
    have hspace : (if c.isWhitespace then ' ' else c) = c := by
      split
      · rename_i hwhite
        simpa [Char.isWhitespace, htab, hlf, hcr, eq_comm] using hwhite
      · rfl
    rw [hescape, List.singleton_append, resolve]
    simp only [hamp, hlt, if_false, hspace]

/-- **What is written for a value is read as that value.** -/
theorem resolve_escape (s : List Char) : resolve none (escape s) = some s := by
  induction s with
  | nil => rfl
  | cons c s ih =>
    rw [escape, List.flatMap_cons, resolve_escapeChar]
    exact congrArg (Option.map (c :: ·)) ih

/-! ## Cutting at the delimiters -/

/-- A text at which nothing is cut. -/
def IsUncut (s : List Char) : Prop :=
  ∀ c ∈ s, c ≠ '<' ∧ c ≠ '>' ∧ c ≠ '"'

instance (s : List Char) : Decidable (IsUncut s) :=
  List.decidableBAll _ s

theorem isUncut_escapeChar (c : Char) : IsUncut (escapeChar c) := by
  unfold escapeChar
  repeat' split
  all_goals first | decide | simp_all [IsUncut]

theorem isUncut_escape (s : List Char) : IsUncut (escape s) := by
  intro c hc
  obtain ⟨d, -, hc⟩ := List.mem_flatMap.1 hc
  exact isUncut_escapeChar d c hc

theorem isUncut_name {s : List Char} (h : isName s = true) : IsUncut s := by
  intro c hc
  have hchar : isNameChar c = true := by
    rw [isName, Bool.and_eq_true, List.all_eq_true] at h
    exact h.2 c hc
  refine ⟨?_, ?_, ?_⟩
  all_goals
    rintro rfl
    exact absurd hchar (by decide)

variable {quoted : Bool} {s rest tag : List Char} {tags : List (List Char)}

theorem rawTag_append (hs : IsUncut s) (h : rawTag quoted rest = some (tag, tags)) :
    rawTag quoted (s ++ rest) = some (s ++ tag, tags) := by
  induction s with
  | nil => exact h
  | cons c s ih =>
    obtain ⟨hlt, hgt, hquote⟩ := hs c (List.mem_cons_self ..)
    have htail := ih fun d hd ↦ hs d (List.mem_cons_of_mem _ hd)
    rw [List.cons_append, rawTag, if_neg hlt, if_neg fun hc ↦ hgt hc.1, if_neg hquote, htail]
    rfl

theorem rawTag_quote (h : rawTag (!quoted) rest = some (tag, tags)) :
    rawTag quoted ('"' :: rest) = some ('"' :: tag, tags) := by
  rw [rawTag, if_neg (by decide), if_neg (by simp), if_pos rfl, h]
  rfl

theorem rawTag_close (h : rawTags rest = some tags) :
    rawTag false ('>' :: rest) = some ([], tags) := by
  rw [rawTag, if_neg (by decide), if_pos ⟨rfl, rfl⟩, h]
  rfl

theorem IsUncut.append {t : List Char} (hs : IsUncut s) (ht : IsUncut t) : IsUncut (s ++ t) :=
  fun c hc ↦ (List.mem_append.1 hc).elim (hs c) (ht c)

theorem isUncut_key {name : List Char} (h : isName name = true) :
    IsUncut ([' '] ++ name ++ ['=']) :=
  ((by decide : IsUncut [' ']).append (isUncut_name h)).append (by decide)

/-- An attribute belongs to the tag it is in, whatever its value is. -/
theorem rawTag_attribute {a : Attribute} (ha : isName a.name.toList = true)
    (h : rawTag false rest = some (tag, tags)) :
    rawTag false (a.text ++ rest) = some (a.text ++ tag, tags) := by
  have hend : rawTag (!false) ('"' :: rest) = some ('"' :: tag, tags) := rawTag_quote h
  have hvalue := rawTag_quote (rawTag_append (isUncut_escape a.value.toList) hend)
  simpa [Attribute.text] using rawTag_append (isUncut_key ha) hvalue

theorem rawTag_attributes {attributes : List Attribute}
    (ha : ∀ a ∈ attributes, isName a.name.toList = true)
    (h : rawTag false rest = some (tag, tags)) :
    rawTag false (attributes.flatMap Attribute.text ++ rest) =
      some (attributes.flatMap Attribute.text ++ tag, tags) := by
  induction attributes with
  | nil => exact h
  | cons a attributes ih =>
    rw [List.flatMap_cons, List.append_assoc, List.append_assoc]
    exact rawTag_attribute (ha a (List.mem_cons_self ..))
      (ih fun b hb ↦ ha b (List.mem_cons_of_mem _ hb))

/-! ## Tags -/

namespace Tag

/-- What is written for a tag between `<` and `>`. -/
def raw : Tag → List Char
  | opening name attributes => name.toList ++ attributes.flatMap Attribute.text
  | closing name => '/' :: name.toList
  | single name attributes => name.toList ++ attributes.flatMap Attribute.text ++ ['/']

/-- Whether the names in a tag are names. -/
def isNamed : Tag → Bool
  | opening name attributes | single name attributes =>
    isName name.toList && attributes.all fun a ↦ isName a.name.toList
  | closing name => isName name.toList

theorem text_eq (t : Tag) : t.text = '<' :: t.raw ++ ['>'] := by
  cases t <;> simp [text, raw]

end Tag

/-- A tag ends where it was written to end. -/
theorem rawTag_raw {t : Tag} (ht : t.isNamed = true) (h : rawTags rest = some tags) :
    rawTag false (t.raw ++ '>' :: rest) = some (t.raw, tags) := by
  have hend := rawTag_close h
  cases t with
  | opening name attributes =>
    rw [Tag.isNamed, Bool.and_eq_true, List.all_eq_true] at ht
    simpa [Tag.raw] using rawTag_append (isUncut_name ht.1) (rawTag_attributes ht.2 hend)
  | closing name =>
    have hslash : IsUncut ['/'] := by decide
    simpa [Tag.raw] using rawTag_append (hslash.append (isUncut_name ht)) hend
  | single name attributes =>
    rw [Tag.isNamed, Bool.and_eq_true, List.all_eq_true] at ht
    have hslash : IsUncut ['/'] := by decide
    simpa [Tag.raw] using rawTag_append (isUncut_name ht.1)
      (rawTag_attributes ht.2 (rawTag_append hslash hend))

theorem rawTags_blank {s : List Char} (hs : ∀ c ∈ s, c.isWhitespace = true) :
    rawTags (s ++ rest) = rawTags rest := by
  induction s with
  | nil => rfl
  | cons c s ih =>
    have hc := hs c (List.mem_cons_self ..)
    have hlt : c ≠ '<' := by
      rintro rfl
      exact absurd hc (by decide)
    rw [List.cons_append, rawTags, if_neg hlt, if_pos hc]
    exact ih fun d hd ↦ hs d (List.mem_cons_of_mem _ hd)

theorem rawTags_newline (h : rawTags rest = some tags) : rawTags ('\n' :: rest) = some tags := by
  rw [← h]
  exact rawTags_blank (List.forall_mem_singleton.2 (by decide : '\n'.isWhitespace = true))

theorem rawTags_tagLine {t : Tag} (depth : Nat) (ht : t.isNamed = true)
    (h : rawTags rest = some tags) : rawTags (tagLine depth t ++ rest) = some (t.raw :: tags) := by
  have hindent : ∀ c ∈ List.replicate (2 * depth) ' ', c.isWhitespace = true := by
    intro c hc
    rw [List.eq_of_mem_replicate hc]
    decide
  have htag : rawTags ('<' :: (t.raw ++ '>' :: '\n' :: rest)) = some (t.raw :: tags) := by
    rw [rawTags, if_pos rfl, rawTag_raw ht (rawTags_newline h)]
    rfl
  simpa [tagLine, Tag.text_eq, rawTags_blank hindent] using htag

/-- **Tags come out as they went in**: no value makes the reader see another tag. -/
theorem rawTags_tagLines {ts : List (Nat × Tag)} (hts : ∀ t ∈ ts, t.2.isNamed = true) :
    rawTags (ts.flatMap fun (depth, t) ↦ tagLine depth t) = some (ts.map fun t ↦ t.2.raw) := by
  induction ts with
  | nil => rfl
  | cons t ts ih =>
    rw [List.flatMap_cons]
    exact rawTags_tagLine t.1 (hts t (List.mem_cons_self ..))
      (ih fun u hu ↦ hts u (List.mem_cons_of_mem _ hu))

/-! ## The inside of a tag -/

theorem takeWhile_name {name rest : List Char} (hname : isName name = true)
    (hrest : rest.takeWhile isNameChar = []) : (name ++ rest).takeWhile isNameChar = name := by
  rw [isName, Bool.and_eq_true, List.all_eq_true] at hname
  rw [List.takeWhile_append_of_pos hname.2, hrest, List.append_nil]

theorem dropWhile_name {name rest : List Char} (hname : isName name = true)
    (hrest : rest.takeWhile isNameChar = []) : (name ++ rest).dropWhile isNameChar = rest := by
  rw [isName, Bool.and_eq_true, List.all_eq_true] at hname
  rw [List.dropWhile_append_of_pos hname.2]
  conv_rhs => rw [← List.takeWhile_append_dropWhile (p := isNameChar) (l := rest), hrest,
    List.nil_append]

theorem readKey_name {name : List Char} (h : isName name = true) :
    readKey (' ' :: name ++ ['=']) = some name := by
  rw [List.cons_append, readKey, takeWhile_name h (by decide), dropWhile_name h (by decide),
    if_pos ⟨h, rfl⟩]

/-- The attributes of a tag are read, each with its value. -/
theorem readAttributes_text {attributes : List Attribute} {last : List Char}
    (ha : ∀ a ∈ attributes, isName a.name.toList = true) (hlast : '"' ∉ last) :
    readAttributes ((attributes.flatMap Attribute.text ++ last).splitOn '"') =
      some (attributes, last) := by
  induction attributes with
  | nil => rw [List.flatMap_nil, List.nil_append, List.splitOn_eq_singleton hlast, readAttributes]
  | cons a attributes ih =>
    have hname := ha a (List.mem_cons_self ..)
    have hkey : '"' ∉ ' ' :: a.name.toList ++ ['='] := fun hc ↦ (isUncut_key hname _ hc).2.2 rfl
    have hvalue : '"' ∉ escape a.value.toList := fun hc ↦ (isUncut_escape _ _ hc).2.2 rfl
    have hpieces : ((a :: attributes).flatMap Attribute.text ++ last).splitOn '"' =
        (' ' :: a.name.toList ++ ['=']) :: escape a.value.toList ::
          (attributes.flatMap Attribute.text ++ last).splitOn '"' := by
      have htext : (a :: attributes).flatMap Attribute.text ++ last =
          (' ' :: a.name.toList ++ ['=']) ++ '"' :: (escape a.value.toList ++
            '"' :: (attributes.flatMap Attribute.text ++ last)) := by
        simp [Attribute.text]
      rw [htext, List.splitOn_append_cons_self, List.splitOn_append_cons_self,
        List.splitOn_eq_singleton hkey, List.splitOn_eq_singleton hvalue]
      rfl
    rw [hpieces, readAttributes, readKey_name hname, resolve_escape,
      ih fun b hb ↦ ha b (List.mem_cons_of_mem _ hb)]
    simp

/-- The name and the attributes of a tag are found. -/
theorem readTag_name {name last : List Char} {attributes : List Attribute}
    (hname : isName name = true) (ha : ∀ a ∈ attributes, isName a.name.toList = true)
    (hlast : last = [] ∨ last = ['/']) :
    readTag (name ++ (attributes.flatMap Attribute.text ++ last)) =
      if last = [] then some (.opening (String.ofList name) attributes)
      else some (.single (String.ofList name) attributes) := by
  have hstop : (attributes.flatMap Attribute.text ++ last).takeWhile isNameChar = [] := by
    cases attributes with
    | nil => rcases hlast with rfl | rfl <;> decide
    | cons a attributes => rfl
  have hquote : '"' ∉ last := by rcases hlast with rfl | rfl <;> decide
  obtain ⟨c, cs, rfl⟩ : ∃ c cs, name = c :: cs :=
    List.exists_cons_of_ne_nil fun hnil ↦ by simp [hnil, isName] at hname
  have hslash : c ≠ '/' := by
    rintro rfl
    rw [isName, Bool.and_eq_true, List.all_cons] at hname
    exact absurd hname.2 (by simp +decide)
  have hnotClosing : ∀ other, c :: cs ++ (attributes.flatMap Attribute.text ++ last) =
      '/' :: other → False := fun other h ↦ hslash (List.cons.inj h).1
  rw [readTag.eq_2 _ hnotClosing]
  simp only [takeWhile_name hname hstop, dropWhile_name hname hstop,
    readAttributes_text ha hquote]
  rcases hlast with rfl | rfl <;> rfl

theorem readTag_raw {t : Tag} (ht : t.isNamed = true) : readTag t.raw = some t := by
  cases t with
  | opening name attributes =>
    rw [Tag.isNamed, Bool.and_eq_true, List.all_eq_true] at ht
    simpa [Tag.raw] using readTag_name ht.1 ht.2 (.inl rfl)
  | closing name =>
    rw [Tag.isNamed] at ht
    rw [Tag.raw, readTag, if_pos ht, String.ofList_toList]
  | single name attributes =>
    rw [Tag.isNamed, Bool.and_eq_true, List.all_eq_true] at ht
    simpa [Tag.raw] using readTag_name ht.1 ht.2 (.inr rfl)

theorem mapM_readTag_raw {ts : List Tag} (hts : ∀ t ∈ ts, t.isNamed = true) :
    (ts.map Tag.raw).mapM readTag = some ts := by
  induction ts with
  | nil => rfl
  | cons t ts ih =>
    rw [List.map_cons, List.mapM_cons, readTag_raw (hts t (List.mem_cons_self ..)),
      ih fun u hu ↦ hts u (List.mem_cons_of_mem _ hu)]
    rfl

/-! ## Elements -/

/-- The tags of elements in a row are read as these elements, if the tags of each are. -/
theorem treesFrom_flatMap {es : List Element}
    (hes : ∀ e ∈ es, ∀ done outer ts,
      treesFrom done outer (e.flatTags ++ ts) = treesFrom (done ++ [e]) outer ts)
    (done : List Element) (outer : List OpenTag) (ts : List Tag) :
    treesFrom done outer (es.flatMap Element.flatTags ++ ts) = treesFrom (done ++ es) outer ts := by
  induction es generalizing done with
  | nil => rw [List.flatMap_nil, List.nil_append, List.append_nil]
  | cons e es ih =>
    rw [List.flatMap_cons, List.append_assoc, hes e (List.mem_cons_self ..),
      ih fun f hf ↦ hes f (List.mem_cons_of_mem _ hf), List.append_assoc, List.singleton_append]

/-- **The tags of an element are read as this element**, wherever they stand. -/
theorem treesFrom_flatTags (e : Element) (done : List Element) (outer : List OpenTag)
    (ts : List Tag) :
    treesFrom done outer (e.flatTags ++ ts) = treesFrom (done ++ [e]) outer ts := by
  induction e using Element.induction generalizing done outer ts with
  | node name attributes children ih =>
    cases children with
    | nil => rw [Element.flatTags_node_nil, List.singleton_append, treesFrom]
    | cons child rest =>
      rw [Element.flatTags_node_cons, List.cons_append, List.cons_append, treesFrom,
        List.append_assoc, treesFrom_flatMap fun e he done outer ts ↦ ih e he done outer ts,
        List.singleton_append, treesFrom, if_pos rfl, List.nil_append]

theorem ofTags?_flatTags (e : Element) : Element.ofTags? e.flatTags = some e := by
  have h := treesFrom_flatTags e [] [] []
  rw [List.append_nil] at h
  rw [Element.ofTags?, h]
  rfl

/-- Whether the names in an element are names. -/
def Element.isNamed (e : Element) : Bool :=
  e.flatTags.all Tag.isNamed

theorem Element.isNamed_node (name : String) (attributes : List Attribute)
    (children : List Element) :
    (node name attributes children).isNamed = ((isName name.toList &&
      attributes.all fun a ↦ isName a.name.toList) && children.all isNamed) :=
  all_flatTags_node (q := fun name attributes ↦
      isName name.toList && attributes.all fun a ↦ isName a.name.toList)
    (fun _ _ ↦ rfl) (fun _ _ ↦ rfl) (fun _ _ h ↦ (Bool.and_eq_true_iff.1 h).1) name attributes
    children

/-! ## Documents -/

theorem all_isXmlChar_escapeChar {c : Char} (h : isXmlChar c = true) :
    (escapeChar c).all isXmlChar = true := by
  unfold escapeChar
  repeat' split
  all_goals first | decide | simpa using h

theorem all_isXmlChar_escape {s : List Char} (h : s.all isXmlChar = true) :
    (escape s).all isXmlChar = true := by
  rw [escape, List.all_flatMap, List.all_eq_true]
  exact fun c hc ↦ all_isXmlChar_escapeChar (List.all_eq_true.1 h c hc)

theorem all_isXmlChar_name {s : List Char} (h : isName s = true) : s.all isXmlChar = true := by
  rw [isName, Bool.and_eq_true, List.all_eq_true] at h
  refine List.all_eq_true.2 fun c hc ↦ ?_
  have hletter : 65 ≤ c.toNat ∧ c.toNat ≤ 90 ∨ 97 ≤ c.toNat ∧ c.toNat ≤ 122 := by
    simpa [isNameChar] using h.2 c hc
  exact isXmlChar_of_toNat (by omega) (by omega)

theorem all_isXmlChar_attribute {a : Attribute} (hname : isName a.name.toList = true)
    (hvalue : isXmlText a.value = true) : a.text.all isXmlChar = true := by
  simp +decide [Attribute.text, all_isXmlChar_name hname, all_isXmlChar_escape hvalue]

theorem all_isXmlChar_raw {t : Tag} (hnamed : t.isNamed = true) (hwritable : t.isWritable = true) :
    t.raw.all isXmlChar = true := by
  have hattributes : ∀ attributes : List Attribute,
      (attributes.all fun a ↦ isName a.name.toList) = true →
      (attributes.all fun a ↦ isXmlText a.value) = true →
      (attributes.flatMap Attribute.text).all isXmlChar = true := by
    intro attributes hnames hvalues
    rw [List.all_flatMap, List.all_eq_true]
    exact fun a ha ↦ all_isXmlChar_attribute (List.all_eq_true.1 hnames a ha)
      (List.all_eq_true.1 hvalues a ha)
  cases t with
  | opening name attributes =>
    rw [Tag.isNamed, Bool.and_eq_true] at hnamed
    simp [Tag.raw, all_isXmlChar_name hnamed.1, hattributes attributes hnamed.2 hwritable]
  | closing name =>
    rw [Tag.isNamed] at hnamed
    simp +decide [Tag.raw, all_isXmlChar_name hnamed]
  | single name attributes =>
    rw [Tag.isNamed, Bool.and_eq_true] at hnamed
    simp +decide [Tag.raw, all_isXmlChar_name hnamed.1, hattributes attributes hnamed.2 hwritable]

/-- A document is a text of XML characters. -/
theorem isXmlText_document {e : Element} (hnamed : e.isNamed = true)
    (hwritable : e.isWritable = true) : isXmlText (document e) = true := by
  have hdeclaration : declaration.all isXmlChar = true := by decide
  have htags : ((e.tags 0).flatMap fun (depth, t) ↦ tagLine depth t).all isXmlChar = true := by
    rw [List.all_flatMap, List.all_eq_true]
    intro t ht
    have hflat : t.2 ∈ e.flatTags := List.mem_map_of_mem ht
    rw [Element.isNamed, List.all_eq_true] at hnamed
    rw [Element.isWritable_eq, List.all_eq_true] at hwritable
    have hraw := all_isXmlChar_raw (hnamed _ hflat) (hwritable _ hflat)
    simp +decide [tagLine, Tag.text_eq, hraw]
  rw [document, isXmlText_ofList, List.all_append, hdeclaration, htags, Bool.and_true]

/-- What is written in the declaration between `<?` and `>`. -/
def declarationRaw : List Char :=
  "xml version='1.0' encoding='UTF-8'?".toList

/-- The declaration is cut off like a tag. -/
theorem rawTags_declaration (h : rawTags rest = some tags) :
    rawTags (declaration ++ rest) = some (('?' :: declarationRaw) :: tags) := by
  have hdeclaration : declaration = '<' :: ('?' :: declarationRaw) ++ ['>', '\n'] := by decide
  have huncut : IsUncut ('?' :: declarationRaw) := by decide
  have htag := rawTag_append huncut (rawTag_close (rawTags_newline h))
  rw [List.append_nil] at htag
  have hcut : declaration ++ rest = '<' :: ('?' :: declarationRaw ++ '>' :: '\n' :: rest) := by
    rw [hdeclaration]
    simp
  rw [hcut, rawTags, if_pos rfl, htag]
  rfl

/-- **Reading gives back what was written.** -/
theorem read_document {e : Element} (hnamed : e.isNamed = true) (hwritable : e.isWritable = true) :
    read (document e) = some e := by
  have hflat : ∀ t ∈ e.flatTags, t.isNamed = true := List.all_eq_true.1 hnamed
  have htags : readTags (document e) = some e.flatTags := by
    have hraws : ((e.tags 0).map fun t ↦ t.2.raw) = e.flatTags.map Tag.raw := by
      rw [Element.flatTags, List.map_map]
      rfl
    rw [readTags, if_pos (isXmlText_document hnamed hwritable), document, String.toList_ofList,
      rawTags_declaration (rawTags_tagLines fun t ht ↦ hflat _ (List.mem_map_of_mem ht)), hraws]
    exact mapM_readTag_raw hflat
  rw [read, htags]
  exact ofTags?_flatTags e

end SequenceChart.Xml
