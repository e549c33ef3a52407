import SequenceChart.Proofs.Fallible
import SequenceChart.Text.Utf8
import Mathlib.Algebra.Order.Ring.Nat
import Mathlib.Tactic.NormNum

/-!
# The text that bytes spell

A text has one spelling in UTF-8.  A file is read as a text if and only if it holds the spelling of
that text, and then of no other.  So the decoder is held against the encoder of the library, and it
need not be looked at again to say which files have a text, and which text.

A character that is spelled with several bytes has its number cut into digits to the base 64; the
first byte holds the leading digit and a mark of how many follow, every further byte one digit.
Inside such a character the decoder has read some of the digits.  In one direction, what it knows
then is stated through what may still come: with the bounds it has set for the next byte, and
whatever follows, the number will be one that is spelled with that many bytes (`Completes`).  That
is why the bounds are narrower after some first bytes.  In the other direction the number is given,
and the decoder has its leading digits and awaits the next one (`Pending.Awaits`).

## Main definitions

* `IsCode` — the numbers of characters that are spelled with a given number of bytes.
* `digitBytes` — the first byte and some digits.
* `Pending.Holds`, `Decoder.Has` — what bytes the decoder has taken.
* `Pending.Awaits` — the decoder is on its way to a given character.

## Main statements

* `Utf8.toUTF8_of_decode` — bytes that are read as a text are its spelling.
* `Utf8.decode_eq_ok_iff` — bytes are read as a text if and only if they are its spelling.
-/

set_option autoImplicit false
namespace SequenceChart
namespace Utf8

/-! ## Spellings -/

/-- The numbers of the characters that are spelled with `n` bytes. -/
def IsCode (n v : Nat) : Prop :=
  match n with
  | 1 => v < 0x80
  | 2 => 0x80 ≤ v ∧ v < 0x800
  | 3 => 0x800 ≤ v ∧ v < 0xD800 ∨ 0xE000 ≤ v ∧ v < 0x10000
  | 4 => 0x10000 ≤ v ∧ v < 0x110000
  | _ => False

/-- What the first of `n` bytes holds beside its digit. -/
def mark : Nat → Nat
  | 2 => 0xC0
  | 3 => 0xE0
  | 4 => 0xF0
  | _ => 0

/-- The first byte of a character that is spelled with `n`, and `k` more bytes, for the number that
is read off them. -/
def digitBytes (n : Nat) : Nat → Nat → List UInt8
  | 0, v => [UInt8.ofNat (mark n + v)]
  | k + 1, v => digitBytes n k (v / 64) ++ [UInt8.ofNat (0x80 + v % 64)]

theorem digitBytes_one (v : Nat) : digitBytes 1 0 v = [UInt8.ofNat v] :=
  congrArg (fun n ↦ [UInt8.ofNat n]) (Nat.zero_add v)

/-- A byte adds a digit. -/
theorem digitBytes_succ {b : UInt8} (hlow : 0x80 ≤ b.toNat) (hhigh : b.toNat ≤ 0xBF) (n k v : Nat) :
    digitBytes n (k + 1) (v * 64 + (b.toNat - 0x80)) = digitBytes n k v ++ [b] := by
  have hdigit : b.toNat - 0x80 < 64 := by omega
  have hquotient : (v * 64 + (b.toNat - 0x80)) / 64 = v := by omega
  have hbyte : 0x80 + (v * 64 + (b.toNat - 0x80)) % 64 = b.toNat := by omega
  rw [digitBytes, hquotient, hbyte, UInt8.ofNat_toNat]

theorem IsCode.isValidChar {n v : Nat} (h : IsCode n v) : v.isValidChar := by
  match n, h with
  | 1, h => exact .inl (Nat.lt_trans h (by decide))
  | 2, h => exact .inl (Nat.lt_trans h.2 (by decide))
  | 3, .inl h => exact .inl h.2
  | 3, .inr h => exact .inr ⟨h.1, Nat.lt_trans h.2 (by decide)⟩
  | 4, h => exact .inr ⟨Nat.lt_of_lt_of_le (by decide) h.1, h.2⟩

/-- **The digits of a number are the spelling of its character.** -/
theorem utf8EncodeChar_ofNat {k v : Nat} (h : IsCode (k + 1) v) :
    String.utf8EncodeChar (Char.ofNat v) = digitBytes (k + 1) k v := by
  have hval : (Char.ofNat v).val.toNat = v := by
    rw [Char.ofNat, dif_pos h.isValidChar]
    rfl
  rw [String.utf8EncodeChar, hval]
  match k, h with
  | 0, h =>
    replace h : v < 0x80 := h
    rw [if_pos (by omega), digitBytes_one]
  | 1, h =>
    replace h : 0x80 ≤ v ∧ v < 0x800 := h
    have hlead : v / 64 % 32 + 192 = 0xC0 + v / 64 := by omega
    rw [if_neg (by omega), if_pos (by omega), hlead, Nat.add_comm (v % 64)]
    rfl
  | 2, h =>
    replace h : 0x800 ≤ v ∧ v < 0xD800 ∨ 0xE000 ≤ v ∧ v < 0x10000 := h
    have hlead : v / 4096 % 16 + 224 = 0xE0 + v / 64 / 64 := by omega
    rw [if_neg (by omega), if_neg (by omega), if_pos (by omega), hlead, Nat.add_comm (v % 64),
      Nat.add_comm (v / 64 % 64)]
    rfl
  | 3, h =>
    replace h : 0x10000 ≤ v ∧ v < 0x110000 := h
    have hlead : v / 262144 % 8 + 240 = 0xF0 + v / 64 / 64 / 64 := by omega
    have hsecond : v / 4096 % 64 + 128 = 0x80 + v / 64 / 64 % 64 := by omega
    rw [if_neg (by omega), if_neg (by omega), if_neg (by omega), hlead, hsecond,
      Nat.add_comm (v % 64), Nat.add_comm (v / 64 % 64)]
    rfl

/-! ## Unfinished characters -/

/-- Whichever `k` digits follow the number read so far, it will be that of a character that is
spelled with `n` bytes. -/
def Completes (n k v : Nat) : Prop :=
  ∀ w, v * 64 ^ k ≤ w → w < (v + 1) * 64 ^ k → IsCode n w

theorem Completes.isCode {n v : Nat} (h : Completes n 0 v) : IsCode n v :=
  h v (by omega) (by omega)

/-- One digit is one of the digits that may follow. -/
theorem Completes.digit {n k v d : Nat} (h : Completes n (k + 1) v) (hd : d < 64) :
    Completes n k (v * 64 + d) := by
  intro w hlow hhigh
  have hstart : v * 64 ≤ v * 64 + d := Nat.le_add_right _ _
  have hstop : v * 64 + d + 1 ≤ (v + 1) * 64 := by omega
  refine h w ?_ ?_
  · calc v * 64 ^ (k + 1) = v * 64 * 64 ^ k := by rw [pow_succ', mul_assoc]
      _ ≤ (v * 64 + d) * 64 ^ k := Nat.mul_le_mul_right _ hstart
      _ ≤ w := hlow
  · calc w < (v * 64 + d + 1) * 64 ^ k := hhigh
      _ ≤ (v + 1) * 64 * 64 ^ k := Nat.mul_le_mul_right _ hstop
      _ = (v + 1) * 64 ^ (k + 1) := by rw [pow_succ', mul_assoc]

/-- The bytes that have been taken of an unfinished character: they are the digits so far, `k` of
them behind the first byte, and any byte within the bounds lets the number be completed. -/
def Pending.Holds (p : Pending) (bytes : List UInt8) : Prop :=
  ∃ k rest, p.owed = rest + 1 ∧ bytes = digitBytes (k + rest + 2) k p.value ∧
    0x80 ≤ p.low ∧ p.high ≤ 0xBF ∧
    ∀ b, p.low ≤ b → b ≤ p.high → Completes (k + rest + 2) rest (p.value * 64 + (b - 0x80))

/-- The bytes that begin a character, and what each calls for. -/
theorem begin?_cases {b : Nat} {begun : Nat × Nat × Nat × Nat} (h : begin? b = some begun) :
    b ≤ 0x7F ∧ begun = (0, 0x80, 0xBF, b) ∨
    (0xC2 ≤ b ∧ b ≤ 0xDF) ∧ begun = (1, 0x80, 0xBF, b - 0xC0) ∨
    b = 0xE0 ∧ begun = (2, 0xA0, 0xBF, b - 0xE0) ∨
    b = 0xED ∧ begun = (2, 0x80, 0x9F, b - 0xE0) ∨
    (0xE0 < b ∧ b ≤ 0xEF ∧ b ≠ 0xED) ∧ begun = (2, 0x80, 0xBF, b - 0xE0) ∨
    b = 0xF0 ∧ begun = (3, 0x90, 0xBF, b - 0xF0) ∨
    (0xF0 < b ∧ b ≤ 0xF3) ∧ begun = (3, 0x80, 0xBF, b - 0xF0) ∨
    b = 0xF4 ∧ begun = (3, 0x80, 0x8F, b - 0xF0) := by
  rw [begin?] at h
  obtain ⟨hascii, h⟩ | ⟨hascii, h⟩ := ite_eq_iff.1 h
  · exact .inl ⟨hascii, (Option.some.inj h).symm⟩
  right
  obtain ⟨hlow, h⟩ | ⟨hlow, h⟩ := ite_eq_iff.1 h
  · cases h
  obtain ⟨htwo, h⟩ | ⟨htwo, h⟩ := ite_eq_iff.1 h
  · exact .inl ⟨⟨Nat.le_of_not_lt hlow, htwo⟩, (Option.some.inj h).symm⟩
  right
  obtain ⟨hE0, h⟩ | ⟨hE0, h⟩ := ite_eq_iff.1 h
  · exact .inl ⟨hE0, (Option.some.inj h).symm⟩
  right
  obtain ⟨hED, h⟩ | ⟨hED, h⟩ := ite_eq_iff.1 h
  · exact .inl ⟨hED, (Option.some.inj h).symm⟩
  right
  obtain ⟨hthree, h⟩ | ⟨hthree, h⟩ := ite_eq_iff.1 h
  · exact .inl ⟨by omega, (Option.some.inj h).symm⟩
  right
  obtain ⟨hF0, h⟩ | ⟨hF0, h⟩ := ite_eq_iff.1 h
  · exact .inl ⟨hF0, (Option.some.inj h).symm⟩
  right
  obtain ⟨hfour, h⟩ | ⟨hfour, h⟩ := ite_eq_iff.1 h
  · exact .inl ⟨by omega, (Option.some.inj h).symm⟩
  right
  obtain ⟨hF4, h⟩ | ⟨-, h⟩ := ite_eq_iff.1 h
  · exact ⟨hF4, (Option.some.inj h).symm⟩
  · cases h

/-- The first byte of a character says how many follow, and bounds the second so that the number can
be completed. -/
theorem begin?_spec {b rest low high v : Nat} (h : begin? b = some (rest + 1, low, high, v)) :
    mark (rest + 2) ≤ b ∧ v = b - mark (rest + 2) ∧ 0x80 ≤ low ∧ high ≤ 0xBF ∧
      ∀ c, low ≤ c → c ≤ high → Completes (rest + 2) rest (v * 64 + (c - 0x80)) := by
  rcases begin?_cases h with ⟨hb, heq⟩ | ⟨hb, heq⟩ | ⟨hb, heq⟩ | ⟨hb, heq⟩ | ⟨hb, heq⟩ | ⟨hb, heq⟩ |
    ⟨hb, heq⟩ | ⟨hb, heq⟩
  all_goals cases heq
  all_goals
    refine ⟨by simp only [mark]; omega, rfl, by decide, by decide, fun c hlow hhigh w hw hw' ↦ ?_⟩
    simp only [IsCode]
    omega

theorem holds_of_begin? {b : UInt8} {rest low high v : Nat}
    (h : begin? b.toNat = some (rest + 1, low, high, v)) (offset : Nat) :
    Pending.Holds ⟨b, offset, rest + 1, low, high, v⟩ [b] := by
  obtain ⟨hmark, rfl, hlow, hhigh, hcompletes⟩ := begin?_spec h
  have hlength : 0 + rest + 2 = rest + 2 := by omega
  refine ⟨0, rest, rfl, ?_, hlow, hhigh, ?_⟩
  · rw [hlength, digitBytes, Nat.add_sub_cancel' hmark, UInt8.ofNat_toNat]
  · rwa [hlength]

/-- A byte below 128 is a character by itself. -/
theorem isCode_of_begin? {b low high v : Nat} (h : begin? b = some (0, low, high, v)) :
    v = b ∧ IsCode 1 v := by
  obtain ⟨hb, heq⟩ | ⟨-, heq⟩ | ⟨-, heq⟩ | ⟨-, heq⟩ | ⟨-, heq⟩ | ⟨-, heq⟩ | ⟨-, heq⟩ | ⟨-, heq⟩ :=
    begin?_cases h
  all_goals cases heq
  exact ⟨rfl, Nat.lt_succ_of_le hb⟩

section

variable {p : Pending} {bytes : List UInt8} (hp : p.Holds bytes) {b : UInt8}
  (hlow : p.low ≤ b.toNat) (hhigh : b.toNat ≤ p.high)

include hp hlow hhigh

/-- The last byte of a character. -/
theorem Pending.Holds.finish (howed : p.owed = 1) :
    String.utf8EncodeChar (Char.ofNat (p.value * 64 + (b.toNat - 0x80))) = bytes ++ [b] := by
  obtain ⟨k, rest, hrest, rfl, hlow', hhigh', hcompletes⟩ := hp
  obtain rfl : rest = 0 := by omega
  rw [utf8EncodeChar_ofNat (hcompletes b.toNat hlow hhigh).isCode]
  exact digitBytes_succ (hlow'.trans hlow) (hhigh.trans hhigh') _ k p.value

/-- A byte that is not the last one. -/
theorem Pending.Holds.push (howed : p.owed ≠ 1) :
    Pending.Holds ⟨p.lead, p.start, p.owed - 1, 0x80, 0xBF, p.value * 64 + (b.toNat - 0x80)⟩
      (bytes ++ [b]) := by
  obtain ⟨k, rest, hrest, rfl, hlow', hhigh', hcompletes⟩ := hp
  obtain ⟨rest, rfl⟩ : ∃ r, rest = r + 1 := Nat.exists_eq_succ_of_ne_zero (by omega)
  have hlength : k + (rest + 1) + 2 = k + 1 + rest + 2 := by omega
  rw [hlength] at hcompletes ⊢
  refine ⟨k + 1, rest, ?_, ?_, le_rfl, le_rfl, fun c hc hc' ↦ ?_⟩
  · show p.owed - 1 = rest + 1
    omega
  · exact (digitBytes_succ (hlow'.trans hlow) (hhigh.trans hhigh') _ k p.value).symm
  · replace hc' : c ≤ 0xBF := hc'
    exact (hcompletes b.toNat hlow hhigh).digit (by omega)

end

/-! ## The decoder -/

/-- The bytes of a text. -/
def bytesOf (s : String) : List UInt8 :=
  s.toUTF8.data.toList

theorem bytesOf_push (s : String) (c : Char) :
    bytesOf (s.push c) = bytesOf s ++ String.utf8EncodeChar c := by
  rw [bytesOf, String.toUTF8, String.toByteArray_push, ByteArray.data_append, Array.toList_append,
    List.utf8Encode, List.toList_data_toByteArray, List.flatMap_singleton, bytesOf, String.toUTF8]

/-- The bytes that a decoder has taken: those of the text so far, and those of the character that
has been begun. -/
def Decoder.Has (d : Decoder) (bytes : List UInt8) : Prop :=
  match d.pending with
  | none => bytes = bytesOf d.text
  | some p => ∃ begun, p.Holds begun ∧ bytes = bytesOf d.text ++ begun

/-- **A byte that is taken is accounted for.** -/
theorem Decoder.Has.push {d d' : Decoder} {bytes : List UInt8} (hd : d.Has bytes) {b : UInt8}
    (h : d.push b = .ok d') : d'.Has (bytes ++ [b]) := by
  obtain ⟨offset, pending, text⟩ := d
  rw [Decoder.push] at h
  cases pending with
  | none =>
    replace hd : bytes = bytesOf text := hd
    cases hbegin : begin? b.toNat with
    | none =>
      rw [hbegin] at h
      cases h
    | some begun =>
      obtain ⟨owed, low, high, v⟩ := begun
      rw [hbegin] at h
      cases owed with
      | zero =>
        cases h
        obtain ⟨rfl, hcode⟩ := isCode_of_begin? hbegin
        show bytes ++ [b] = bytesOf (text.push _)
        rw [bytesOf_push, utf8EncodeChar_ofNat hcode, digitBytes_one, UInt8.ofNat_toNat, hd]
      | succ rest =>
        cases h
        exact ⟨[b], holds_of_begin? hbegin offset, by rw [hd]⟩
  | some p =>
    obtain ⟨begun, hbegun, rfl⟩ := hd
    simp only at h
    split at h
    · rename_i hbounds
      split at h
      · rename_i howed
        cases h
        show _ = bytesOf (text.push _)
        rw [bytesOf_push, hbegun.finish hbounds.1 hbounds.2 howed, List.append_assoc]
      · rename_i howed
        cases h
        exact ⟨begun ++ [b], hbegun.push hbounds.1 hbounds.2 howed, List.append_assoc _ _ _⟩
    · cases h

theorem Decoder.Has.foldlM {d d' : Decoder} {bytes more : List UInt8} (hd : d.Has bytes)
    (h : more.foldlM Decoder.push d = .ok d') : d'.Has (bytes ++ more) := by
  induction more generalizing d bytes with
  | nil =>
    cases h
    rwa [List.append_nil]
  | cons b more ih =>
    rw [List.foldlM_cons] at h
    obtain ⟨next, hpush, h⟩ := exists_of_bind_eq_ok h
    rw [List.append_cons]
    exact ih (hd.push hpush) h

/-- **Bytes that are read as a text are its spelling.** -/
theorem toUTF8_of_decode {b : ByteArray} {s : String} (h : decode b = .ok s) : s.toUTF8 = b := by
  obtain ⟨d, hrun, h⟩ := exists_of_bind_eq_ok h
  have hinitial : Decoder.initial.Has [] := rfl
  have hhas : d.Has b.data.toList := hinitial.foldlM hrun
  rw [Decoder.finish] at h
  rw [Decoder.Has] at hhas
  cases hpending : d.pending with
  | some p =>
    rw [hpending] at h
    cases h
  | none =>
    rw [hpending] at h hhas
    cases h
    exact ByteArray.ext (Array.toList_inj.1 hhas.symm)

/-! ## Spellings are read -/

theorem exists_isCode (c : Char) : ∃ k, IsCode (k + 1) c.toNat := by
  have hvalid : c.toNat < 0xD800 ∨ 0xDFFF < c.toNat ∧ c.toNat < 0x110000 := c.valid
  have hbounds : c.toNat < 0x80 ∨ (0x80 ≤ c.toNat ∧ c.toNat < 0x800) ∨
      (0x800 ≤ c.toNat ∧ c.toNat < 0xD800 ∨ 0xE000 ≤ c.toNat ∧ c.toNat < 0x10000) ∨
      0x10000 ≤ c.toNat ∧ c.toNat < 0x110000 := by omega
  rcases hbounds with h | h | h | h
  · exact ⟨0, h⟩
  · exact ⟨1, h⟩
  · exact ⟨2, h⟩
  · exact ⟨3, h⟩

/-- What is known of the leading digit of a number and the one behind it. -/
theorem IsCode.leading {rest v q d : Nat} (h : IsCode (rest + 2) v)
    (hq : v / 64 ^ (rest + 1) = q) (hd : v / 64 ^ rest % 64 = d) :
    d < 64 ∧ (rest = 0 ∧ 2 ≤ q ∧ q < 32 ∨
      rest = 1 ∧ q < 16 ∧ (q = 0 → 32 ≤ d) ∧ (q = 13 → d < 32) ∨
      rest = 2 ∧ q < 5 ∧ (q = 0 → 16 ≤ d) ∧ (q = 4 → d < 16)) := by
  match rest, h with
  | 0, h | 1, h | 2, h =>
    simp only [IsCode] at h
    omega

/-- The first byte of a spelling begins a character, and the second byte is within the bounds that
are set then. -/
theorem exists_begin?_eq {rest v q d : Nat} (h : IsCode (rest + 2) v)
    (hq : v / 64 ^ (rest + 1) = q) (hd : v / 64 ^ rest % 64 = d) :
    mark (rest + 2) + q < 256 ∧
      ∃ low high, begin? (mark (rest + 2) + q) = some (rest + 1, low, high, q) ∧
        low ≤ 0x80 + d ∧ 0x80 + d ≤ high := by
  obtain ⟨hdigit, ⟨rfl, hlow, hhigh⟩ | ⟨rfl, hhigh, hfirst, hlast⟩ |
    ⟨rfl, hhigh, hfirst, hlast⟩⟩ := h.leading hq hd
  · refine ⟨by simp only [mark]; omega, 0x80, 0xBF, ?_, by omega, by omega⟩
    rw [mark, begin?, if_neg (by omega), if_neg (by omega), if_pos (by omega),
      Nat.add_sub_cancel_left]
  · refine ⟨by simp only [mark]; omega, ?_⟩
    rw [mark, begin?, if_neg (by omega), if_neg (by omega), if_neg (by omega)]
    obtain rfl | hne := eq_or_ne q 0
    · exact ⟨0xA0, 0xBF, rfl, by omega, by omega⟩
    obtain rfl | hne' := eq_or_ne q 13
    · exact ⟨0x80, 0x9F, rfl, by omega, by omega⟩
    refine ⟨0x80, 0xBF, ?_, by omega, by omega⟩
    rw [if_neg (by omega), if_neg (by omega), if_pos (by omega), Nat.add_sub_cancel_left]
  · refine ⟨by simp only [mark]; omega, ?_⟩
    rw [mark, begin?, if_neg (by omega), if_neg (by omega), if_neg (by omega), if_neg (by omega),
      if_neg (by omega), if_neg (by omega)]
    obtain rfl | hne := eq_or_ne q 0
    · exact ⟨0x90, 0xBF, rfl, by omega, by omega⟩
    obtain rfl | hne' := eq_or_ne q 4
    · exact ⟨0x80, 0x8F, rfl, by omega, by omega⟩
    refine ⟨0x80, 0xBF, ?_, by omega, by omega⟩
    rw [if_neg (by omega), if_pos (by omega), Nat.add_sub_cancel_left]

/-- An unfinished character, `rest + 1` bytes before its end, may become the one with number `v`:
the digits so far are the leading ones of `v`, and the next one is within the bounds. -/
structure Pending.Awaits (p : Pending) (rest v : Nat) : Prop where
  owed : p.owed = rest + 1
  value : p.value = v / 64 ^ (rest + 1)
  low : p.low ≤ 0x80 + v / 64 ^ rest % 64
  high : 0x80 + v / 64 ^ rest % 64 ≤ p.high

/-- The byte that an unfinished character awaits is taken. -/
theorem Pending.Awaits.push {p : Pending} {rest v : Nat} (hp : p.Awaits rest v) (offset : Nat)
    (text : String) :
    Decoder.push ⟨offset, some p, text⟩ (UInt8.ofNat (0x80 + v / 64 ^ rest % 64)) =
      if rest = 0 then .ok ⟨offset + 1, none, text.push (Char.ofNat (v / 64 ^ rest))⟩
      else .ok ⟨offset + 1, some ⟨p.lead, p.start, rest, 0x80, 0xBF, v / 64 ^ rest⟩, text⟩ := by
  have hbyte : (UInt8.ofNat (0x80 + v / 64 ^ rest % 64)).toNat = 0x80 + v / 64 ^ rest % 64 :=
    UInt8.toNat_ofNat_of_lt' (by simp only [UInt8.size]; omega)
  have hvalue : p.value * 64 + (0x80 + v / 64 ^ rest % 64 - 0x80) = v / 64 ^ rest := by
    rw [hp.value, pow_succ, ← Nat.div_div_eq_div_mul]
    omega
  have howed : p.owed = 1 ↔ rest = 0 := by rw [hp.owed, Nat.add_eq_right]
  have hrest : p.owed - 1 = rest := by rw [hp.owed, Nat.add_sub_cancel]
  simp only [Decoder.push, hbyte, hvalue, hrest, howed, if_pos (And.intro hp.low hp.high)]

/-- The first bytes of a spelling are taken. -/
theorem exists_foldlM_digitBytes (k rest : Nat) {v : Nat} (h : IsCode (k + rest + 2) v)
    (offset : Nat) (text : String) :
    ∃ stop p, p.Awaits rest v ∧
      (digitBytes (k + rest + 2) k (v / 64 ^ (rest + 1))).foldlM Decoder.push
        ⟨offset, none, text⟩ = .ok ⟨stop, some p, text⟩ := by
  induction k generalizing rest with
  | zero =>
    rw [Nat.zero_add] at h ⊢
    obtain ⟨hbyte, low, high, hbegin, hlow, hhigh⟩ := exists_begin?_eq h rfl rfl
    refine ⟨offset + 1, ⟨UInt8.ofNat (mark (rest + 2) + v / 64 ^ (rest + 1)), offset, rest + 1, low,
      high, v / 64 ^ (rest + 1)⟩, ⟨rfl, rfl, hlow, hhigh⟩, ?_⟩
    rw [digitBytes, List.foldlM_cons, Decoder.push, UInt8.toNat_ofNat_of_lt' hbyte, hbegin]
    rfl
  | succ k ih =>
    have hlength : k + 1 + rest + 2 = k + (rest + 1) + 2 := by omega
    rw [hlength] at h ⊢
    obtain ⟨stop, p, hp, hrun⟩ := ih (rest + 1) h
    refine ⟨stop + 1, ⟨p.lead, p.start, rest + 1, 0x80, 0xBF, v / 64 ^ (rest + 1)⟩,
      ⟨rfl, rfl, Nat.le_add_right _ _, by dsimp only; omega⟩, ?_⟩
    rw [digitBytes, Nat.div_div_eq_div_mul, ← pow_succ, List.foldlM_append, hrun]
    show Decoder.push _ _ >>= pure = _
    rw [hp.push, if_neg (Nat.succ_ne_zero rest)]
    rfl

/-- **The spelling of a character is read.** -/
theorem exists_foldlM_utf8EncodeChar (c : Char) (offset : Nat) (text : String) :
    ∃ stop, (String.utf8EncodeChar c).foldlM Decoder.push ⟨offset, none, text⟩ =
      .ok ⟨stop, none, text.push c⟩ := by
  obtain ⟨k, hcode⟩ := exists_isCode c
  have hspelling := utf8EncodeChar_ofNat hcode
  rw [Char.ofNat_toNat] at hspelling
  rw [hspelling]
  cases k with
  | zero =>
    replace hcode : c.toNat < 0x80 := hcode
    have hbyte : (UInt8.ofNat c.toNat).toNat = c.toNat :=
      UInt8.toNat_ofNat_of_lt' (by simp only [UInt8.size]; omega)
    have hbegin : begin? c.toNat = some (0, 0x80, 0xBF, c.toNat) := by
      rw [begin?, if_pos (by omega)]
    have hpush : Decoder.push ⟨offset, none, text⟩ (UInt8.ofNat c.toNat) =
        .ok ⟨offset + 1, none, text.push (Char.ofNat c.toNat)⟩ := by
      rw [Decoder.push, hbyte, hbegin]
      rfl
    refine ⟨offset + 1, ?_⟩
    rw [digitBytes_one, List.foldlM_cons, hpush, Char.ofNat_toNat]
    rfl
  | succ k =>
    obtain ⟨stop, p, hp, hrun⟩ := exists_foldlM_digitBytes k 0 hcode offset text
    have hnumber : c.toNat / 64 ^ 0 = c.toNat := Nat.div_one _
    have hlast := hp.push stop text
    rw [if_pos rfl, hnumber, Char.ofNat_toNat] at hlast
    rw [pow_one] at hrun
    refine ⟨stop + 1, ?_⟩
    rw [digitBytes, List.foldlM_append, hrun]
    show Decoder.push _ _ >>= pure = _
    rw [hlast]
    rfl

theorem exists_foldlM_bytesOf (s : String) :
    ∃ stop, (bytesOf s).foldlM Decoder.push Decoder.initial = .ok ⟨stop, none, s⟩ := by
  induction s using String.push_induction with
  | empty => exact ⟨0, rfl⟩
  | push s c ih =>
    obtain ⟨stop, hrun⟩ := ih
    obtain ⟨stop', hchar⟩ := exists_foldlM_utf8EncodeChar c stop s
    refine ⟨stop', ?_⟩
    rw [bytesOf_push, List.foldlM_append, hrun]
    exact hchar

/-- **Bytes are read as a text if and only if they are its spelling.** -/
theorem decode_eq_ok_iff {b : ByteArray} {s : String} : decode b = .ok s ↔ s.toUTF8 = b := by
  refine ⟨toUTF8_of_decode, ?_⟩
  rintro rfl
  obtain ⟨stop, hrun⟩ := exists_foldlM_bytesOf s
  rw [bytesOf] at hrun
  rw [decode, hrun]
  rfl

end Utf8
end SequenceChart
