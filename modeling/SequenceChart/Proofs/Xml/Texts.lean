import SequenceChart.Drawio.Document
import Mathlib.Data.List.Basic

/-!
# Texts that a document can hold

Apart from the labels and texts of a diagram, a document holds numbers, times, ids and styles.  None
of them has a character that XML cannot hold: they are put together from fixed words and from
digits.  The lemmas here say so for each kind of text, whatever the numbers are, and are
simplification rules: what a document may be refused for is then a matter of its labels and texts
alone.

## Main statements

* `isXmlText_append` — a text that is put together can be held if its parts can.
* `isXmlText_natRepr`, `isXmlText_intRepr`, `Scalar.isXmlText_text` — numbers.
* `Timestamp.isXmlText_text`, `CellId.isXmlText_text`, `isXmlText_arrowStyle` — times, ids, styles.
-/

set_option autoImplicit false
namespace SequenceChart

/-! ## Parts -/

@[simp] theorem isXmlText_append (s t : String) :
    isXmlText (s ++ t) = (isXmlText s && isXmlText t) := by
  rw [isXmlText, String.toList_append, List.all_append, isXmlText, isXmlText]

theorem isXmlText_parts {s t : String} (hs : isXmlText s = true) (ht : isXmlText t = true) :
    isXmlText (s ++ t) = true := by
  rw [isXmlText_append, hs, ht, Bool.and_true]

theorem isXmlText_ofList (s : List Char) : isXmlText (String.ofList s) = s.all isXmlChar := by
  rw [isXmlText, String.toList_ofList]

/-- A long literal is checked as a list of characters: it is not encoded and decoded on the way. -/
theorem isXmlText_literal {s : List Char} (h : s.all isXmlChar = true) :
    isXmlText (String.ofList s) = true :=
  (isXmlText_ofList s).trans h

/-! ## Numbers -/

theorem isXmlChar_of_toNat {c : Char} (hlow : 0x20 ≤ c.toNat) (hhigh : c.toNat < 0xFFFE) :
    isXmlChar c = true := by
  have hfffe : c.toNat ≠ 0xFFFE := by omega
  have hffff : c.toNat ≠ 0xFFFF := by omega
  simp [isXmlChar, hlow, hfffe, hffff]

theorem isXmlChar_of_isDigit {c : Char} (h : c.isDigit = true) : isXmlChar c = true := by
  have hrange : 48 ≤ c.toNat ∧ c.toNat ≤ 57 := by
    simpa [Char.isDigit, Char.le_def, UInt32.le_iff_toNat_le] using h
  exact isXmlChar_of_toNat (by omega) (by omega)

@[simp] theorem isXmlText_natRepr (n : Nat) : isXmlText n.repr = true := by
  rw [Nat.repr_eq_ofList_toDigits, isXmlText_ofList, List.all_eq_true]
  exact fun c hc ↦ isXmlChar_of_isDigit (Nat.isDigit_of_mem_toDigits (by decide) (by decide) hc)

@[simp] theorem isXmlText_intRepr (n : Int) : isXmlText n.repr = true := by
  rw [Int.repr_eq_if]
  split
  · exact isXmlText_natRepr _
  · simp +decide

theorem NonFinite.isXmlText_text (e : NonFinite) : isXmlText e.text = true := by
  rcases e with _ | ⟨_ | _⟩ <;> decide

theorem isXmlText_decimals (n : Nat) : isXmlText (decimals n) = true := by
  unfold decimals
  repeat' split
  all_goals simp +decide

theorem isXmlText_hundredthsText (q : Rat) : isXmlText (hundredthsText q) = true := by
  unfold hundredthsText
  repeat' split
  all_goals simp +decide [isXmlText_decimals]

@[simp] theorem Scalar.isXmlText_text {α : Type} [Scalar α] (a : α) :
    isXmlText (Scalar.text a) = true := by
  unfold Scalar.text
  split
  · exact isXmlText_hundredthsText _
  · exact NonFinite.isXmlText_text _

/-! ## Times -/

namespace Timestamp

theorem isXmlText_padded (width n : Nat) : isXmlText (padded width n) = true := by
  have hdigits : n.repr.toList.all isXmlChar = true := isXmlText_natRepr n
  rw [padded, isXmlText_ofList, List.leftpad, List.all_append, List.all_replicate,
    Nat.toString_eq_repr, hdigits]
  simp +decide

theorem isXmlText_zoneText (t : Timestamp) : isXmlText t.zoneText = true := by
  by_cases hsign : t.ahead < 0 <;> by_cases hseconds : t.ahead.natAbs % 60 = 0 <;>
    simp +decide [zoneText, hsign, hseconds, isXmlText_padded]

@[simp] theorem isXmlText_text (t : Timestamp) : isXmlText t.text = true := by
  simp +decide [text, isXmlText_padded, isXmlText_zoneText]

end Timestamp

/-! ## Ids and styles -/

@[simp] theorem CellId.isXmlText_text (i : CellId) : isXmlText i.text = true := by
  cases i with
  | root | layer => decide
  | participant | lifeline | loop | message | note => simp +decide [text]

theorem isXmlText_arrowStyle (a : Arrow) : isXmlText (arrowStyle a) = true := by
  refine isXmlText_parts (isXmlText_literal rfl) ?_
  cases a
  all_goals exact isXmlText_literal rfl

theorem isXmlText_participantStyle : isXmlText participantStyle = true :=
  isXmlText_literal rfl

theorem isXmlText_lifelineStyle : isXmlText lifelineStyle = true :=
  isXmlText_parts (isXmlText_parts (isXmlText_literal rfl) (isXmlText_literal rfl))
    (isXmlText_literal rfl)

theorem isXmlText_loopStyle : isXmlText loopStyle = true :=
  isXmlText_parts (isXmlText_literal rfl) (isXmlText_literal rfl)

theorem isXmlText_noteStyle : isXmlText noteStyle = true :=
  isXmlText_literal rfl

end SequenceChart
