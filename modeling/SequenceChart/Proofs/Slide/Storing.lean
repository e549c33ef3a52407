import SequenceChart.Proofs.Fallible
import SequenceChart.Proofs.Slide.Figures
import SequenceChart.Proofs.Xml.Texts
import SequenceChart.Slide.Deck

/-!
# Storing a slide

In exact arithmetic every length is stored as a whole number of units, 914400 of them an inch, and
what is left over is dropped.  So an item of a slide is refused for its text only, and that text has
to hold a noncharacter: the control characters that XML cannot hold are replaced by their numbers
before, and so is the carriage return.  What remains to be refused is the size of the slide.

Where lengths are rounded, one of them may also be no number, or infinite.  `FailsOnly` lets one
proof serve both: nothing fails but for its lengths.

## Main definitions

* `units` — a length in units.

## Main statements

* `failsOnly_storedText` — a text that XML can hold is stored.
* `emu_eq`, `slideSide_eq` — lengths and sides in exact arithmetic.
* `SlideItem.failsOnly_toShape` — an item with such a text is refused for its lengths only.
* `Slide.failsOnly_toDeck` — a slide with such texts is refused for its sides and lengths only.
* `Slide.parts_of_toDeck_eq_ok`, `Slide.toDeck_eq_of_texts` — a slide is stored side by side and
  item by item.
-/

set_option autoImplicit false
namespace SequenceChart

/-! ## Texts -/

/-- A character that XML can hold is stored as such characters. -/
theorem all_isXmlChar_storedChar {c : Char} (hc : isXmlChar c = true) :
    (Deck.storedChar c).all isXmlChar = true := by
  rw [Deck.storedChar]
  split
  · rename_i hcontrol
    have hreturn : c = '\r' := by
      simp only [isXmlChar, Bool.or_eq_true, Bool.and_eq_true, beq_iff_eq, bne_iff_ne,
        decide_eq_true_iff] at hc hcontrol
      rcases hc with ((hc | hc) | hc) | hc
      · exact absurd hc hcontrol.1.2
      · exact absurd hc hcontrol.2
      · exact hc
      · omega
    rw [hreturn]
    decide
  · rw [List.all_cons, hc]
    rfl

/-- **A text that XML can hold is stored.** -/
theorem failsOnly_storedText {kind : Failure → Prop} {s : String} (hs : isXmlText s = true) :
    FailsOnly kind (Deck.storedText s) := by
  have hstored : isXmlText (String.ofList (s.toList.flatMap Deck.storedChar)) = true := by
    rw [isXmlText_ofList, List.all_flatMap, List.all_eq_true]
    exact fun c hc ↦ all_isXmlChar_storedChar (List.all_eq_true.1 hs c hc)
  rw [Deck.storedText, if_pos hstored]
  exact failsOnly_ok _

/-! ## Lengths -/

theorem slideMargin_eq : (slideMargin : Rat) = 3 / 10 := by
  norm_num [slideMargin]

/-- A side of a picture with the margins before and behind it. -/
theorem inches_add_margins (extent : Rat) :
    inches extent + slideMargin * 2.0 = extent / 96 + 3 / 5 := by
  rw [slideMargin_eq, inches]
  norm_num

/-- A length in units, without what is left over. -/
def units (length : Rat) : Int :=
  Scalar.truncateRat (length * 914400)

theorem emu_eq (length : Rat) : emu length = .ok (units length) := by
  have hunit : (914400.0 : Rat) = 914400 := by norm_num
  rw [units, ← hunit]
  rfl

theorem units_eq_floor {length : Rat} (h : 0 ≤ length) : units length = ⌊length * 914400⌋ :=
  Scalar.truncateRat_of_nonneg (mul_nonneg h (by norm_num))

theorem units_nonneg {length : Rat} (h : 0 ≤ length) : 0 ≤ units length := by
  rw [units_eq_floor h]
  exact Int.floor_nonneg.2 (mul_nonneg h (by norm_num))

theorem units_le_units {a b : Rat} (ha : 0 ≤ a) (h : a ≤ b) : units a ≤ units b := by
  rw [units_eq_floor ha, units_eq_floor (ha.trans h)]
  exact Int.floor_le_floor (mul_le_mul_of_nonneg_right h (by norm_num))

/-- What is dropped from two lengths is no less than what is dropped from both together. -/
theorem units_add_units_le {a b : Rat} (ha : 0 ≤ a) (hb : 0 ≤ b) :
    units a + units b ≤ units (a + b) := by
  rw [units_eq_floor ha, units_eq_floor hb, units_eq_floor (add_nonneg ha hb), add_mul]
  exact Int.le_floor_add _ _

/-- A side of a slide is refused if it is not between one inch and fifty-six. -/
theorem slideSide_eq (length : Rat) :
    slideSide length =
      if units length < leastSlideSide ∨ greatestSlideSide < units length then
        .error (.slideSize (units length))
      else .ok (units length) := by
  rw [slideSide, emu_eq]
  show (if units length < leastSlideSide ∨ greatestSlideSide < units length then _ else _) = _
  split <;> rfl

/-! ## Items -/

section

variable {α : Type} [Scalar α] {kind : Failure → Prop}

/-- In any arithmetic, a length is refused only if it is not finite. -/
theorem failsOnly_emu (length : α) :
    FailsOnly (fun f ↦ ∃ cause, f = .notFinite cause) (emu length) := by
  intro f h
  rw [emu] at h
  split at h
  · cases h
  · cases h
    exact ⟨_, rfl⟩

/-- In exact arithmetic no length is refused. -/
theorem failsOnly_emu_rat (length : Rat) : FailsOnly kind (emu length) := by
  rw [emu_eq]
  exact failsOnly_ok _

/-- **An item is refused for its lengths only** if XML can hold its text. -/
theorem SlideItem.failsOnly_toShape (hkind : ∀ length : α, FailsOnly kind (emu length))
    {item : SlideItem α} (id : Nat) (htext : ∀ t, item.text? = some t → isXmlText t = true) :
    FailsOnly kind (item.toShape id) := by
  cases item with
  | box _ place text =>
    exact (hkind place.x).bind fun _ ↦ (hkind place.y).bind fun _ ↦ (hkind place.width).bind fun _ ↦
      (hkind place.height).bind fun _ ↦ (failsOnly_storedText (htext text rfl)).bind fun _ ↦
        failsOnly_ok _
  | line _ start stop =>
    exact (hkind start.x).bind fun _ ↦ (hkind start.y).bind fun _ ↦ (hkind stop.x).bind fun _ ↦
      (hkind stop.y).bind fun _ ↦ failsOnly_ok _
  | label place text =>
    exact (hkind place.x).bind fun _ ↦ (hkind place.y).bind fun _ ↦ (hkind place.width).bind fun _ ↦
      (hkind place.height).bind fun _ ↦ (failsOnly_storedText (htext text rfl)).bind fun _ ↦
        failsOnly_ok _

/-- So are all items of a slide. -/
theorem failsOnly_mapM_toShape (hkind : ∀ length : α, FailsOnly kind (emu length))
    {items : List (SlideItem α)}
    (htexts : ∀ t ∈ items.filterMap SlideItem.text?, isXmlText t = true) :
    FailsOnly kind ((items.zipIdx 2).mapM fun (item, id) ↦ item.toShape id) :=
  .mapM fun (item, id) hmem ↦ SlideItem.failsOnly_toShape hkind id fun t ht ↦
    htexts t (List.mem_filterMap.2 ⟨item, List.fst_mem_of_mem_zipIdx hmem, ht⟩)

theorem failsOnly_slideSide (hkind : ∀ length : α, FailsOnly kind (emu length))
    (hsize : ∀ n, kind (.slideSize n)) (length : α) : FailsOnly kind (slideSide length) := by
  refine (hkind length).bind fun n ↦ ?_
  split
  · rintro f ⟨⟩
    exact hsize n
  · exact failsOnly_ok n

/-- **In any arithmetic, a slide is refused for its sides and its lengths only** if XML can hold its
texts. -/
theorem Slide.failsOnly_toDeck {slide : Slide α}
    (h : ∀ t ∈ slide.items.filterMap SlideItem.text?, isXmlText t = true) :
    FailsOnly (fun f ↦ (∃ n, f = .slideSize n) ∨ ∃ cause, f = .notFinite cause) slide.toDeck := by
  have hkind : ∀ length : α,
      FailsOnly (fun f ↦ (∃ n, f = .slideSize n) ∨ ∃ cause, f = .notFinite cause) (emu length) :=
    fun length f hf ↦ .inr (failsOnly_emu length f hf)
  have hside := failsOnly_slideSide hkind fun n ↦ .inl ⟨n, rfl⟩
  exact (hside slide.width).bind fun _ ↦ (hside slide.height).bind fun _ ↦
    (failsOnly_mapM_toShape hkind h).bind fun _ ↦ failsOnly_ok _

end

/-! ## Slides -/

namespace Slide

variable {slide : Slide Rat}

theorem eq_units_of_slideSide_eq_ok {length : Rat} {n : Int} (h : slideSide length = .ok n) :
    n = units length := by
  rw [slideSide_eq] at h
  split at h
  · cases h
  · exact (Except.ok.inj h).symm

/-- A slide that is stored has its sides stored, and each of its shapes is a stored item. -/
theorem parts_of_toDeck_eq_ok {deck : Deck} (h : slide.toDeck = .ok deck) :
    deck.width = units slide.width ∧ deck.height = units slide.height ∧
      ∀ shape ∈ deck.shapes, ∃ item ∈ slide.items, ∃ id, item.toShape id = .ok shape := by
  obtain ⟨width, hwidth, h⟩ := exists_of_bind_eq_ok h
  obtain ⟨height, hheight, h⟩ := exists_of_bind_eq_ok h
  obtain ⟨shapes, hshapes, h⟩ := exists_of_bind_eq_ok h
  cases h
  refine ⟨eq_units_of_slideSide_eq_ok hwidth, eq_units_of_slideSide_eq_ok hheight,
    fun shape hshape ↦ ?_⟩
  obtain ⟨⟨item, id⟩, hmem, hitem⟩ := exists_of_mem_mapM hshapes shape hshape
  exact ⟨item, List.fst_mem_of_mem_zipIdx hmem, id, hitem⟩

/-- **A slide is refused for its size only** if XML can hold its texts: first for its width, then
for its height. -/
theorem toDeck_eq_of_texts (h : ∀ t ∈ slide.items.filterMap SlideItem.text?, isXmlText t = true) :
    ∃ shapes, slide.toDeck = slideSide slide.width >>= fun width ↦
      slideSide slide.height >>= fun height ↦ .ok ⟨width, height, shapes⟩ := by
  obtain ⟨shapes, hshapes⟩ :=
    (failsOnly_mapM_toShape failsOnly_emu_rat h).exists_eq_ok
  refine ⟨shapes, ?_⟩
  rw [toDeck]
  simp only [hshapes]
  rfl

end Slide
end SequenceChart
