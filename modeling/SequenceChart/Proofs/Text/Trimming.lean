import SequenceChart.Text.Word
import Mathlib.Data.List.Basic
import Mathlib.Data.List.TakeDrop
import Mathlib.Data.List.TakeWhile

/-!
# Trimming, and reading from the left

A line is read by taking a keyword, white space or a word off its front and trimming what is left.
Each of these steps has an inverse in writing: what is put in front is what is taken off.  This file
has both directions for the four steps, and what trimming does to a text that is put together from
parts.

Where a word or white space is over is told by the next character alone, since no character is both.
So a text is cut in one way only into white space and a rest that begins with none
(`append_inj_of_stopsBlank`), and into a word and a rest that does not go on with it.

## Main definitions

* `IsTrimmed` — neither the first nor the last character of a text is white space.
* `IsWordText`, `IsBlankText`, `IsGap` — a word, white space, and white space that is there.
* `StopsWord`, `StopsBlank` — what may follow a word, and what may follow white space.

## Main statements

* `trim_append_of_isTrimmed` — behind a trimmed text only the end of the rest is trimmed, so a line
  with nothing after its colon loses the space there and nothing else.
* `takeWord?_eq_some_iff` — a word is taken exactly from a text that begins with a longest word.
* `IsWordText.stopsBlank_append`, `IsBlankText.stopsWord_append` — words and white space end each
  other.
-/

set_option autoImplicit false
namespace SequenceChart

/-! ## Keywords -/

theorem isPrefixOf?_append (p rest : List Char) : p.isPrefixOf? (p ++ rest) = some rest :=
  List.isPrefixOf?_eq_some_iff_append_eq.2 rfl

theorem eq_append_of_isPrefixOf? {p s rest : List Char} (h : p.isPrefixOf? s = some rest) :
    s = p ++ rest :=
  (List.append_eq_of_isPrefixOf?_eq_some h).symm

/-! ## White space in front -/

theorem trimStart_cons_of_isBlank {c : Char} {s : List Char} (h : isBlank c = true) :
    trimStart (c :: s) = trimStart s :=
  List.dropWhile_cons_of_pos h

theorem trimStart_cons_of_not_isBlank {c : Char} {s : List Char} (h : isBlank c = false) :
    trimStart (c :: s) = c :: s :=
  List.dropWhile_cons_of_neg (by simp [h])

/-- A text that begins with no white space is not changed at its front. -/
theorem trimStart_eq_self {s : List Char} (h : ∀ c, s.head? = some c → isBlank c = false) :
    trimStart s = s := by
  cases s with
  | nil => rfl
  | cons c s => exact trimStart_cons_of_not_isBlank (h c rfl)

theorem head?_trimStart {s : List Char} {c : Char} (h : (trimStart s).head? = some c) :
    isBlank c = false := by
  have hnot := List.head?_dropWhile_not isBlank s
  rw [trimStart] at h
  rw [h] at hnot
  simpa using hnot

theorem trimStart_trimStart (s : List Char) : trimStart (trimStart s) = trimStart s :=
  trimStart_eq_self fun _ h ↦ head?_trimStart h

theorem trimStart_suffix_self (s : List Char) : trimStart s <:+ s :=
  List.dropWhile_suffix _

theorem afterBlanks?_eq_some_iff {s rest : List Char} :
    afterBlanks? s = some rest ↔ ∃ c t, s = c :: t ∧ isBlank c = true ∧ trimStart t = rest := by
  cases s with
  | nil => simp [afterBlanks?]
  | cons c t =>
    constructor
    · intro h
      exact ⟨c, t, rfl, by simpa [afterBlanks?] using h⟩
    · rintro ⟨_, _, heq, hc, ht⟩
      cases heq
      simp [afterBlanks?, hc, ht]

/-- What follows white space is the text without it. -/
theorem eq_trimStart_of_afterBlanks? {s rest : List Char} (h : afterBlanks? s = some rest) :
    rest = trimStart s := by
  obtain ⟨c, t, rfl, hc, rfl⟩ := afterBlanks?_eq_some_iff.1 h
  exact (trimStart_cons_of_isBlank hc).symm

theorem afterBlanks?_blank_cons {s : List Char} (h : ∀ c, s.head? = some c → isBlank c = false) :
    afterBlanks? (' ' :: s) = some s :=
  afterBlanks?_eq_some_iff.2 ⟨' ', s, rfl, by decide, trimStart_eq_self h⟩

/-! ## White space at the end -/

theorem trimEnd_prefix_self (s : List Char) : trimEnd s <+: s := by
  rw [← List.reverse_suffix, trimEnd, List.reverse_reverse]
  exact trimStart_suffix_self _

theorem getLast?_trimEnd {s : List Char} {c : Char} (h : (trimEnd s).getLast? = some c) :
    isBlank c = false := by
  rw [trimEnd, List.getLast?_reverse] at h
  exact head?_trimStart h

/-- A text that ends with no white space is not changed at its end. -/
theorem trimEnd_eq_self {s : List Char} (h : ∀ c, s.getLast? = some c → isBlank c = false) :
    trimEnd s = s := by
  rw [trimEnd, trimStart_eq_self (by simpa using h), List.reverse_reverse]

theorem trimEnd_append (s t : List Char) :
    trimEnd (s ++ t) = if trimEnd t = [] then trimEnd s else s ++ trimEnd t := by
  have happend : trimStart (t.reverse ++ s.reverse) =
      if (trimStart t.reverse).isEmpty then trimStart s.reverse
      else trimStart t.reverse ++ s.reverse :=
    List.dropWhile_append
  rw [trimEnd, List.reverse_append, happend]
  by_cases h : trimEnd t = []
  · have ht : trimStart t.reverse = [] := List.reverse_eq_nil_iff.1 h
    rw [if_pos h, if_pos (by rw [ht]; rfl), trimEnd]
  · have ht : trimStart t.reverse ≠ [] := fun hnil ↦ h (List.reverse_eq_nil_iff.2 hnil)
    rw [if_neg h, if_neg (by simpa using ht), List.reverse_append, List.reverse_reverse, trimEnd]

/-! ## Trimmed texts -/

/-- A text that neither begins nor ends with white space. -/
structure IsTrimmed (s : List Char) : Prop where
  /-- It does not begin with white space. -/
  head : ∀ c, s.head? = some c → isBlank c = false
  /-- It does not end with white space. -/
  last : ∀ c, s.getLast? = some c → isBlank c = false

theorem IsTrimmed.trim_eq {s : List Char} (h : IsTrimmed s) : trim s = s := by
  rw [trim, trimStart_eq_self h.head, trimEnd_eq_self h.last]

/-- Trimming the end of a text does not uncover white space at its front. -/
theorem head?_trimEnd {s : List Char} {c : Char} (h : (trimEnd s).head? = some c) :
    s.head? = some c := by
  obtain ⟨t, ht⟩ := trimEnd_prefix_self s
  rw [← ht, List.head?_append, h, Option.some_or]

theorem isTrimmed_trim (s : List Char) : IsTrimmed (trim s) where
  head _ h := head?_trimStart (head?_trimEnd h)
  last _ h := getLast?_trimEnd h

theorem isTrimmed_of_trim_eq {s : List Char} (h : trim s = s) : IsTrimmed s :=
  h ▸ isTrimmed_trim s

theorem mem_of_mem_trim {s : List Char} {c : Char} (h : c ∈ trim s) : c ∈ s :=
  (trimStart_suffix_self s).mem ((trimEnd_prefix_self _).mem h)

theorem trim_trimStart (s : List Char) : trim (trimStart s) = trim s := by
  rw [trim, trimStart_trimStart, trim]

theorem trim_cons_of_isBlank {c : Char} (h : isBlank c = true) (s : List Char) :
    trim (c :: s) = trim s := by
  rw [← trim_trimStart, trimStart_cons_of_isBlank h, trim_trimStart]

/-- **Behind a trimmed text only the end of the rest is trimmed.** -/
theorem trim_append_of_isTrimmed {s : List Char} (h : IsTrimmed s) (hne : s ≠ [])
    (t : List Char) : trim (s ++ t) = s ++ trimEnd t := by
  have hhead : ∀ c, (s ++ t).head? = some c → isBlank c = false := by
    cases s with
    | nil => exact absurd rfl hne
    | cons d s => exact h.head
  rw [trim, trimStart_eq_self hhead, trimEnd_append, trimEnd_eq_self h.last]
  split
  · rename_i ht
    rw [ht, List.append_nil]
  · rfl

/-- A trimmed text behind one space, whose end is trimmed once more, is what trimming it gives. -/
theorem trim_trimEnd_blank_cons {s : List Char} (h : IsTrimmed s) :
    trim (trimEnd (' ' :: s)) = s := by
  rw [← List.singleton_append, trimEnd_append, trimEnd_eq_self h.last]
  split
  · rename_i hs
    rw [hs]
    decide
  · rw [List.singleton_append, trim_cons_of_isBlank (by decide), h.trim_eq]

/-- A character that is no white space guards what is in front of it. -/
theorem trim_append_cons {s : List Char} {c : Char}
    (hs : ∀ d, s.head? = some d → isBlank d = false) (hc : isBlank c = false) (t : List Char) :
    trim (s ++ c :: t) = s ++ c :: trimEnd t := by
  have htrimmed : IsTrimmed (s ++ [c]) := by
    constructor
    · intro d hd
      cases s with
      | nil =>
        obtain rfl : c = d := by simpa using hd
        exact hc
      | cons e s => exact hs d hd
    · intro d hd
      obtain rfl : c = d := by simpa using hd
      exact hc
  have htrim := trim_append_of_isTrimmed htrimmed (by simp) t
  simpa using htrim

/-! ## Cutting where a property ends -/

/-- A text is cut where a property of its characters ends, and nowhere else. -/
theorem span_eq_iff {p : Char → Bool} {s front rest : List Char} :
    s.span p = (front, rest) ↔ s = front ++ rest ∧ (∀ c ∈ front, p c = true) ∧
      ∀ c, rest.head? = some c → p c = false := by
  rw [List.span_eq_takeWhile_dropWhile, Prod.mk.injEq]
  constructor
  · rintro ⟨rfl, rfl⟩
    refine ⟨List.takeWhile_append_dropWhile.symm, fun c hc ↦ List.mem_takeWhile_imp hc, ?_⟩
    intro c hc
    have hnot := List.head?_dropWhile_not p s
    rw [hc] at hnot
    simpa using hnot
  · rintro ⟨rfl, hfront, hrest⟩
    rw [List.takeWhile_append_of_pos hfront, List.dropWhile_append_of_pos hfront]
    cases rest with
    | nil => simp
    | cons c rest =>
      have hc := hrest c rfl
      rw [List.takeWhile_cons_of_neg (by simp [hc]), List.dropWhile_cons_of_neg (by simp [hc])]
      simp

/-! ## Words -/

/-- A text that is a word: not empty, and of word characters only. -/
structure IsWordText (w : List Char) : Prop where
  /-- A word has a character. -/
  ne_nil : w ≠ []
  /-- All its characters are word characters. -/
  all_word : ∀ c ∈ w, isWord c = true

instance (w : List Char) : Decidable (IsWordText w) :=
  decidable_of_iff (w ≠ [] ∧ w.all isWord = true)
    ⟨fun h ↦ ⟨h.1, List.all_eq_true.1 h.2⟩, fun h ↦ ⟨h.ne_nil, List.all_eq_true.2 h.all_word⟩⟩

/-- Where a word ends, no word character follows. -/
def StopsWord (rest : List Char) : Prop :=
  ∀ c, rest.head? = some c → isWord c = false

/-- **A word is taken from a text exactly if the text begins with one**, and then the longest. -/
theorem takeWord?_eq_some_iff {s w rest : List Char} :
    takeWord? s = some (w, rest) ↔ s = w ++ rest ∧ IsWordText w ∧ StopsWord rest := by
  have htake : takeWord? s = some (w, rest) ↔ s.span isWord = (w, rest) ∧ w ≠ [] := by
    rw [takeWord?, takeWord]
    split
    · rename_i hspan
      rw [hspan]
      constructor
      · intro h
        cases h
      · rintro ⟨h, hne⟩
        exact absurd (Prod.mk.inj h).1.symm hne
    · rename_i w' rest' hne hspan
      rw [hspan, Option.some.injEq]
      constructor
      · rintro h
        cases h
        exact ⟨rfl, hne⟩
      · exact fun h ↦ h.1
  rw [htake, span_eq_iff]
  constructor
  · rintro ⟨⟨hs, hw, hrest⟩, hne⟩
    exact ⟨hs, ⟨hne, hw⟩, hrest⟩
  · rintro ⟨hs, hw, hrest⟩
    exact ⟨⟨hs, hw.all_word, hrest⟩, hw.ne_nil⟩

/-! ## Where words and white space end -/

/-- A text of white space, or an empty one. -/
def IsBlankText (w : List Char) : Prop :=
  ∀ c ∈ w, isBlank c = true

instance (w : List Char) : Decidable (IsBlankText w) :=
  decidable_of_iff (w.all isBlank = true) List.all_eq_true

theorem isBlankText_nil : IsBlankText [] :=
  fun _ h ↦ absurd h List.not_mem_nil

theorem IsBlankText.filter {w : List Char} (h : IsBlankText w) (p : Char → Bool) :
    IsBlankText (w.filter p) :=
  fun c hc ↦ h c (List.mem_of_mem_filter hc)

/-- Where white space ends, no more of it follows. -/
def StopsBlank (rest : List Char) : Prop :=
  ∀ c, rest.head? = some c → isBlank c = false

theorem stopsWord_cons {c : Char} {s : List Char} (h : isWord c = false) : StopsWord (c :: s) := by
  intro d hd
  obtain rfl : c = d := by simpa using hd
  exact h

theorem stopsBlank_cons {c : Char} {s : List Char} (h : isBlank c = false) :
    StopsBlank (c :: s) := by
  intro d hd
  obtain rfl : c = d := by simpa using hd
  exact h

theorem IsWordText.exists_cons {w : List Char} (h : IsWordText w) :
    ∃ c t, w = c :: t ∧ isWord c = true := by
  obtain ⟨c, t, rfl⟩ := List.exists_cons_of_ne_nil h.ne_nil
  exact ⟨c, t, rfl, h.all_word c (List.mem_cons_self ..)⟩

theorem isWord_eq_false_of_isBlank {c : Char} (h : isBlank c = true) : isWord c = false := by
  refine Bool.eq_false_iff.2 fun hc ↦ ?_
  rw [isBlank_eq_false_of_isWord hc] at h
  cases h

/-- White space ends where a word begins. -/
theorem IsWordText.stopsBlank_append {w rest : List Char} (h : IsWordText w) :
    StopsBlank (w ++ rest) := by
  obtain ⟨d, t, rfl, hd⟩ := h.exists_cons
  exact stopsBlank_cons (isBlank_eq_false_of_isWord hd)

/-- A word ends where white space begins. -/
theorem IsBlankText.stopsWord_append {w rest : List Char} (h : IsBlankText w)
    (hrest : StopsWord rest) : StopsWord (w ++ rest) := by
  cases w with
  | nil => exact hrest
  | cons c w => exact stopsWord_cons (isWord_eq_false_of_isBlank (h c (List.mem_cons_self ..)))

theorem takeWord?_append {w rest : List Char} (hw : IsWordText w) (hrest : StopsWord rest) :
    takeWord? (w ++ rest) = some (w, rest) :=
  takeWord?_eq_some_iff.2 ⟨rfl, hw, hrest⟩

theorem trimStart_append {w rest : List Char} (hw : IsBlankText w) (hrest : StopsBlank rest) :
    trimStart (w ++ rest) = rest := by
  rw [trimStart, List.dropWhile_append_of_pos hw]
  exact trimStart_eq_self hrest

theorem takeWord?_cons_of_not_isWord {c : Char} {s : List Char} (h : isWord c = false) :
    takeWord? (c :: s) = none := by
  simp [takeWord?, takeWord, List.span_eq_takeWhile_dropWhile, h]

/-- A text begins with the white space that trimming its front takes off. -/
theorem exists_blanks_append_trimStart (s : List Char) :
    ∃ w, IsBlankText w ∧ s = w ++ trimStart s :=
  ⟨s.takeWhile isBlank, fun _ hc ↦ List.mem_takeWhile_imp hc, List.takeWhile_append_dropWhile.symm⟩

/-- White space in front of a text that begins with none is cut off in one way only. -/
theorem append_inj_of_stopsBlank {w v s t : List Char} (hw : IsBlankText w) (hv : IsBlankText v)
    (hs : StopsBlank s) (ht : StopsBlank t) (h : w ++ s = v ++ t) : w = v ∧ s = t := by
  have hspan := span_eq_iff.2 ⟨rfl, hw, hs⟩
  rw [span_eq_iff.2 ⟨h, hv, ht⟩, Prod.mk.injEq] at hspan
  exact ⟨hspan.1.symm, hspan.2.symm⟩

/-- White space in front of a text is trimmed. -/
theorem IsBlankText.trim_append {w : List Char} (h : IsBlankText w) (s : List Char) :
    trim (w ++ s) = trim s := by
  rw [← trim_trimStart, trimStart, List.dropWhile_append_of_pos h, ← trimStart, trim_trimStart]

/-- White space at the end of a text is trimmed. -/
theorem trim_trimEnd (s : List Char) : trim (trimEnd s) = trim s := by
  obtain ⟨w, hw, hs⟩ := exists_blanks_append_trimStart s
  have hend : trimEnd s = if trim s = [] then trimEnd w else w ++ trim s := by
    conv_lhs => rw [hs, trimEnd_append]
    rfl
  rw [hend]
  split
  · next hnil =>
    have hblank : IsBlankText (trimEnd w) := fun c hc ↦ hw c ((trimEnd_prefix_self w).mem hc)
    have hempty := hblank.trim_append []
    rw [List.append_nil] at hempty
    rw [hempty, hnil]
    rfl
  · rw [hw.trim_append, (isTrimmed_trim s).trim_eq]

/-- Nothing is left of white space when its end is trimmed. -/
theorem IsBlankText.trimEnd_eq_nil {w : List Char} (h : IsBlankText w) : trimEnd w = [] := by
  rw [trimEnd, List.reverse_eq_nil_iff, trimStart, List.dropWhile_eq_nil_iff]
  exact fun c hc ↦ h c (List.mem_reverse.1 hc)

/-- White space behind a text is trimmed. -/
theorem IsBlankText.trim_append_self {w : List Char} (h : IsBlankText w) (s : List Char) :
    trim (s ++ w) = trim s := by
  rw [← trim_trimEnd, trimEnd_append, if_pos h.trimEnd_eq_nil, trim_trimEnd]

/-! ## White space that separates -/

/-- White space that is there: at least one character of it. -/
structure IsGap (w : List Char) : Prop where
  /-- A gap has a character. -/
  ne_nil : w ≠ []
  /-- All of it is white space. -/
  isBlankText : IsBlankText w

instance (w : List Char) : Decidable (IsGap w) :=
  decidable_of_iff (w ≠ [] ∧ IsBlankText w) ⟨fun h ↦ ⟨h.1, h.2⟩, fun h ↦ ⟨h.1, h.2⟩⟩

/-- **What follows a gap** is the rest of the text without the white space it begins with. -/
theorem IsGap.afterBlanks?_append {w : List Char} (h : IsGap w) (s : List Char) :
    afterBlanks? (w ++ s) = some (trimStart s) := by
  obtain ⟨c, v, rfl⟩ := List.exists_cons_of_ne_nil h.ne_nil
  obtain ⟨hc, hv⟩ := List.forall_mem_cons.1 h.isBlankText
  refine afterBlanks?_eq_some_iff.2 ⟨c, v ++ s, rfl, hc, ?_⟩
  rw [trimStart, List.dropWhile_append_of_pos hv, trimStart]

/-- A text that white space separates from what is in front of it has a gap there. -/
theorem exists_gap_of_afterBlanks? {s rest : List Char} (h : afterBlanks? s = some rest) :
    ∃ w, IsGap w ∧ s = w ++ rest := by
  obtain ⟨c, t, rfl, hc, rfl⟩ := afterBlanks?_eq_some_iff.1 h
  obtain ⟨w, hw, ht⟩ := exists_blanks_append_trimStart t
  refine ⟨c :: w, ⟨List.cons_ne_nil c w, List.forall_mem_cons.2 ⟨hc, hw⟩⟩, ?_⟩
  rw [List.cons_append, ← ht]

/-- A word ends where a gap begins. -/
theorem IsGap.stopsWord_append {w : List Char} (h : IsGap w) (rest : List Char) :
    StopsWord (w ++ rest) := by
  obtain ⟨c, v, rfl⟩ := List.exists_cons_of_ne_nil h.ne_nil
  exact stopsWord_cons (isWord_eq_false_of_isBlank (h.isBlankText c (List.mem_cons_self ..)))

end SequenceChart
