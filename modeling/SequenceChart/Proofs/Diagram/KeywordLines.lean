import SequenceChart.Proofs.Diagram.Readable

/-!
# The lines that declare a participant or make a note

Two forms of lines begin with a keyword and have white space in places where a text may have some
too.  A declaration ends in a label, which may be put in front of more white space than it has to
be, and the targets of a note stand between two stretches of white space that they may consist of
themselves.  So, unlike a line that sends a message, such a line can be cut up in several ways, and
whoever tries the ways out may have to go back: the white space behind `over` has to be left to the
targets if there is nothing else in front of the colon.

The reader goes through the line once all the same, since the ways do not differ in what they mean.
The white space for which two parts compete is trimmed off both, so every way to cut a line up
declares the same participant, or makes the same note.  The one thing that must not happen is that
nothing is left of a label, and for that the line has to be trimmed.

## Main definitions

* `ParticipantForm` — the parts of a line that declares a participant.
* `NoteForm` — the parts of a line that makes a note, cut at its first colon.
* `NoteCut` — the same line with the part in front of the colon cut into white space and targets.
* `participantWays`, `noteWays` — all ways to cut a line up, in the order in which they are found by
  trying out.

## Main statements

* `mem_participantWays_iff`, `mem_noteWays_iff` — trying out finds the ways to cut a line up and
  nothing else.
* `NoteCut.note_toForm` — all ways to cut up a line that makes a note mean the same note.
* `keywordLines_read_iff_form` — the reader takes the lines of the two grammars, and takes them as
  anyone does who tries the parts out.
-/

set_option autoImplicit false
namespace SequenceChart

/-! ## Trying out parts that are not empty -/

/-- All ways to cut a text behind at least one character of a class that it begins with, the longest
first. -/
def someRuns (p : Char → Bool) (s : List Char) :
    List ({w : List Char // w ≠ [] ∧ ∀ c ∈ w, p c = true} × List Char) :=
  (runs p s).filterMap fun (w, rest) ↦
    if h : w.1 = [] then none else some (⟨w, h, w.2⟩, rest)

theorem mem_someRuns_iff {p : Char → Bool} {s rest : List Char}
    {w : {w : List Char // w ≠ [] ∧ ∀ c ∈ w, p c = true}} :
    (w, rest) ∈ someRuns p s ↔ w.1 ++ rest = s := by
  rw [someRuns, List.mem_filterMap]
  constructor
  · rintro ⟨⟨v, rest'⟩, hv, heq⟩
    dsimp only at heq
    split at heq
    · cases heq
    · cases heq
      exact mem_runs_iff.1 hv
  · intro h
    exact ⟨(⟨w.1, w.2.2⟩, rest), mem_runs_iff.2 h, by simp [w.2.1]⟩

/-! ## Declarations -/

/-- The label of a declaration and what is in front of it. -/
structure LabelForm where
  /-- The white space in front of `as`. -/
  beforeAs : List Char
  /-- The white space behind `as`. -/
  afterAs : List Char
  /-- The rest of the line. -/
  label : List Char
  /-- There is white space in front of `as`. -/
  isGap_beforeAs : IsGap beforeAs
  /-- So there is behind it. -/
  isGap_afterAs : IsGap afterAs
  /-- Something follows. -/
  label_ne_nil : label ≠ []

/-- What follows the name in a declaration with a label. -/
def LabelForm.ending (l : LabelForm) : List Char :=
  l.beforeAs ++ ("as".toList ++ (l.afterAs ++ l.label))

/-- The parts of a line that declares a participant, from left to right but for what is known of
them. -/
structure ParticipantForm where
  /-- The white space behind the keyword. -/
  gap : List Char
  /-- The name. -/
  name : List Char
  /-- The label, if there is one. -/
  label? : Option LabelForm
  /-- There is white space behind the keyword. -/
  isGap_gap : IsGap gap
  /-- The name is a word. -/
  isWordText_name : IsWordText name

namespace ParticipantForm

/-- What follows the name. -/
def ending (f : ParticipantForm) : List Char :=
  f.label?.elim [] LabelForm.ending

/-- The line with the given parts. -/
def line (f : ParticipantForm) : List Char :=
  "participant".toList ++ (f.gap ++ (f.name ++ f.ending))

/-- The participant that a line with the given parts declares. -/
def participant (f : ParticipantForm) : Participant where
  id := String.ofList f.name
  label := String.ofList (f.label?.elim f.name fun l ↦ trim l.label)

variable (f : ParticipantForm)

/-- **The name is a whole word**: no further word character follows it. -/
theorem stopsWord_ending : StopsWord f.ending := by
  rw [ending]
  cases f.label? with
  | none => exact fun c hc ↦ absurd hc (by simp)
  | some l => exact l.isGap_beforeAs.stopsWord_append _

/-- Something is left of a text that does not end with white space. -/
theorem trimStart_ne_nil {s : List Char} (hne : s ≠ [])
    (hlast : ∀ c, s.getLast? = some c → isBlank c = false) : trimStart s ≠ [] := by
  intro hnil
  have hall : ∀ c ∈ s, isBlank c = true := List.dropWhile_eq_nil_iff.1 hnil
  have hend := hlast _ (List.getLast?_eq_some_getLast hne)
  rw [hall _ (List.getLast_mem hne)] at hend
  cases hend

/-- In a trimmed line something is left of the label. -/
theorem trimStart_label_ne_nil {l : LabelForm} (hl : f.label? = some l) (h : IsTrimmed f.line) :
    trimStart l.label ≠ [] := by
  have hline : f.line = "participant".toList ++ (f.gap ++ (f.name ++ (l.beforeAs ++
      ("as".toList ++ l.afterAs)))) ++ l.label := by
    unfold line
    simp only [ending, hl, Option.elim_some, LabelForm.ending, List.append_assoc]
  refine trimStart_ne_nil l.label_ne_nil fun c hc ↦ h.last c ?_
  rw [hline, List.getLast?_append, hc, Option.some_or]

/-- **A label is never empty** in a trimmed line. -/
theorem label_participant_ne (h : IsTrimmed f.line) : f.participant.label ≠ "" := by
  rw [participant, ← String.toList_inj.ne, String.toList_ofList]
  cases hl : f.label? with
  | none => exact f.isWordText_name.ne_nil
  | some l =>
    show trim l.label ≠ []
    obtain ⟨c, t, ht⟩ := List.exists_cons_of_ne_nil (f.trimStart_label_ne_nil hl h)
    have hc : isBlank c = false := head?_trimStart (by rw [ht, List.head?_cons])
    have htrim := trim_append_cons (s := []) (by simp) hc t
    rw [← trim_trimStart, ht, ← List.nil_append (c :: t), htrim]
    exact List.cons_ne_nil _ _

/-- The reader takes every trimmed line of the grammar. -/
theorem participant?_line (h : IsTrimmed f.line) :
    Statement.participant? f.line = some f.participant := by
  have hname : afterBlanks? (f.gap ++ (f.name ++ f.ending)) = some (f.name ++ f.ending) := by
    rw [f.isGap_gap.afterBlanks?_append, trimStart_eq_self f.isWordText_name.stopsBlank_append]
  have hword : takeWord? (f.name ++ f.ending) = some (f.name, f.ending) :=
    takeWord?_append f.isWordText_name f.stopsWord_ending
  unfold line
  simp only [Statement.participant?, isPrefixOf?_append, Option.bind_eq_bind, Option.bind_some,
    hname, hword]
  rw [participant, ending]
  cases hl : f.label? with
  | none => rfl
  | some l =>
    have has : afterBlanks? l.ending = some ("as".toList ++ (l.afterAs ++ l.label)) := by
      rw [LabelForm.ending, l.isGap_beforeAs.afterBlanks?_append]
      rfl
    have hne : l.ending ≠ [] := List.append_ne_nil_of_left_ne_nil l.isGap_beforeAs.ne_nil _
    simp only [Option.elim_some, has, isPrefixOf?_append, l.isGap_afterAs.afterBlanks?_append,
      Option.bind_some, List.isEmpty_iff, if_neg hne, if_neg (f.trimStart_label_ne_nil hl h),
      trim_trimStart, Option.pure_def]

end ParticipantForm

/-- Every line that the reader takes for a declaration is a line of the grammar. -/
theorem exists_form_of_participant? {line : List Char} {p : Participant}
    (h : Statement.participant? line = some p) :
    ∃ f : ParticipantForm, f.line = line ∧ f.participant = p := by
  simp only [Statement.participant?, Option.bind_eq_bind, Option.bind_eq_some_iff,
    Option.pure_def] at h
  obtain ⟨rest₁, h₁, rest₂, h₂, ⟨name, rest₃⟩, h₃, h⟩ := h
  obtain rfl := eq_append_of_isPrefixOf? h₁
  obtain ⟨gap, hgap, rfl⟩ := exists_gap_of_afterBlanks? h₂
  obtain ⟨rfl, hname, -⟩ := takeWord?_eq_some_iff.1 h₃
  split at h
  · next hnil =>
    rw [List.isEmpty_iff] at hnil
    subst hnil
    exact ⟨⟨gap, name, none, hgap, hname⟩, rfl, Option.some.inj h⟩
  · simp only [Option.bind_eq_some_iff] at h
    obtain ⟨rest₄, h₄, rest₅, h₅, label, h₆, h⟩ := h
    obtain ⟨beforeAs, hbefore, rfl⟩ := exists_gap_of_afterBlanks? h₄
    obtain rfl := eq_append_of_isPrefixOf? h₅
    obtain ⟨afterAs, hafter, rfl⟩ := exists_gap_of_afterBlanks? h₆
    split at h
    · cases h
    · next hne =>
      exact ⟨⟨gap, name, some ⟨beforeAs, afterAs, label, hbefore, hafter, by simpa using hne⟩, hgap,
        hname⟩, rfl, Option.some.inj h⟩

/-- All ways to read a text as a label with what is in front of it. -/
def labelForms (s : List Char) : List LabelForm :=
  (someRuns isBlank s).flatMap fun (beforeAs, s) ↦
  ("as".toList.isPrefixOf? s).toList.flatMap fun s ↦
  (someRuns isBlank s).flatMap fun (afterAs, label) ↦
  if h : label = [] then []
  else [⟨beforeAs, afterAs, label, ⟨beforeAs.2.1, beforeAs.2.2⟩, ⟨afterAs.2.1, afterAs.2.2⟩, h⟩]

/-- All ways to go on behind the name to the end of the line: with a label, and then without. -/
def labelWays (s : List Char) : List (Option LabelForm) :=
  (labelForms s).map some ++ if s = [] then [none] else []

/-- All forms of a line that declares a participant, in the order in which they are found by trying
out: white space and the name are taken as long as can be and then shorter and shorter. -/
def participantWays (line : List Char) : List ParticipantForm :=
  ("participant".toList.isPrefixOf? line).toList.flatMap fun s ↦
  (someRuns isBlank s).flatMap fun (gap, s) ↦
  (wordRuns s).flatMap fun (⟨name, hname⟩, s) ↦
  (labelWays s).map fun label? ↦ ⟨gap, name, label?, ⟨gap.2.1, gap.2.2⟩, hname⟩

theorem mem_labelForms_iff {s : List Char} {l : LabelForm} : l ∈ labelForms s ↔ l.ending = s := by
  simp only [labelForms, List.mem_flatMap, Prod.exists, mem_someRuns_iff, Option.mem_toList,
    List.isPrefixOf?_eq_some_iff_append_eq]
  constructor
  · rintro ⟨beforeAs, _, rfl, _, rfl, afterAs, label, rfl, hmem⟩
    split at hmem
    · cases hmem
    · cases List.mem_singleton.1 hmem
      rfl
  · rintro rfl
    refine ⟨⟨l.beforeAs, l.isGap_beforeAs.ne_nil, l.isGap_beforeAs.isBlankText⟩, _, rfl, _, rfl,
      ⟨l.afterAs, l.isGap_afterAs.ne_nil, l.isGap_afterAs.isBlankText⟩, l.label, rfl, ?_⟩
    rw [dif_neg l.label_ne_nil]
    exact List.mem_singleton_self _

theorem mem_labelWays_iff {s : List Char} {label? : Option LabelForm} :
    label? ∈ labelWays s ↔ label?.elim [] LabelForm.ending = s := by
  rw [labelWays, List.mem_append, List.mem_map]
  cases label? with
  | none =>
    by_cases hs : s = []
    · simp [hs]
    · simp [hs, Ne.symm hs]
  | some l =>
    simp only [Option.some.injEq, exists_eq_right, mem_labelForms_iff, Option.elim_some]
    refine or_iff_left fun hmem ↦ ?_
    split at hmem <;> simp at hmem

/-- **Trying out finds the forms of a line and nothing else.** -/
theorem mem_participantWays_iff {line : List Char} {f : ParticipantForm} :
    f ∈ participantWays line ↔ f.line = line := by
  simp only [participantWays, List.mem_flatMap, List.mem_map, Prod.exists, mem_wordRuns_iff,
    mem_someRuns_iff, mem_labelWays_iff, Option.mem_toList,
    List.isPrefixOf?_eq_some_iff_append_eq]
  constructor
  · rintro ⟨_, rfl, gap, _, rfl, name, _, rfl, label?, rfl, rfl⟩
    rfl
  · rintro rfl
    exact ⟨_, rfl, ⟨f.gap, f.isGap_gap.ne_nil, f.isGap_gap.isBlankText⟩, _, rfl,
      ⟨f.name, f.isWordText_name⟩, _, rfl, f.label?, rfl, rfl⟩

/-! ## Notes -/

/-- The parts of a line that makes a note, from left to right but for what is known of them. -/
structure NoteForm where
  /-- The white space behind the keyword. -/
  gap : List Char
  /-- Where the note stands. -/
  place : NotePlace
  /-- What is between the place and the first colon. -/
  part : List Char
  /-- What follows the colon. -/
  text : List Char
  /-- There is white space behind the keyword. -/
  isGap_gap : IsGap gap
  /-- The part in front of the colon begins with white space. -/
  isBlank_head : ∀ c, part.head? = some c → isBlank c = true
  /-- It has another character besides. -/
  two_le_length : 2 ≤ part.length
  /-- It has no colon. -/
  colon_notMem : ':' ∉ part

namespace NoteForm

/-- What is in front of the first colon. -/
def front (f : NoteForm) : List Char :=
  "Note".toList ++ (f.gap ++ (f.place.words.toList ++ f.part))

/-- The line with the given parts. -/
def line (f : NoteForm) : List Char :=
  f.front ++ ':' :: f.text

/-- What a note over participants has for targets are the pieces between commas, trimmed, of which
something is left; a note beside one has the whole part, trimmed, even if nothing is left of it. -/
def targets (f : NoteForm) : List (List Char) :=
  match f.place with
  | .across => ((f.part.splitOn ',').map trim).filter (!·.isEmpty)
  | .rightOf | .leftOf => [trim f.part]

/-- The note that a line with the given parts makes. -/
def note (f : NoteForm) : Note where
  place := f.place
  targets := f.targets.map String.ofList
  text := String.ofList (trim f.text)

variable (f : NoteForm)

theorem colon_notMem_front : ':' ∉ f.front := by
  have hkeyword : ':' ∉ "Note".toList := by decide
  have hgap : ':' ∉ f.gap := fun hmem ↦
    absurd (f.isGap_gap.isBlankText _ hmem) (by decide)
  have hwords : ':' ∉ f.place.words.toList := by cases f.place <;> decide
  simp only [front, List.mem_append, not_or]
  exact ⟨hkeyword, hgap, hwords, f.colon_notMem⟩

theorem span_of_colon_notMem {s : List Char} (h : ':' ∉ s) (rest : List Char) :
    (s ++ ':' :: rest).span (· != ':') = (s, ':' :: rest) := by
  refine span_eq_iff.2 ⟨rfl, fun c hc ↦ ?_, by simp⟩
  rw [bne_iff_ne]
  rintro rfl
  exact h hc

/-- **The text of a note is all that follows the first colon of the line.** -/
theorem span_line : f.line.span (· != ':') = (f.front, ':' :: f.text) :=
  span_of_colon_notMem f.colon_notMem_front f.text

theorem map_ofList_targets : f.targets.map String.ofList = Statement.targets f.place f.part := by
  rw [targets]
  cases f.place with
  | across =>
    rw [Statement.targets, ← List.filterMap_eq_map, ← List.filterMap_eq_filter,
      List.filterMap_filterMap]
    refine List.filterMap_congr fun name _ ↦ ?_
    cases name <;> rfl
  | rightOf | leftOf => rfl

theorem colon_notMem_targets : ∀ t ∈ f.note.targets, ':' ∉ t.toList := by
  intro t ht hmem
  obtain ⟨name, hname, rfl⟩ := List.mem_map.1 ht
  rw [String.toList_ofList] at hmem
  have hpart : ∀ c ∈ name, c ∈ f.part := by
    rw [targets] at hname
    split at hname
    · obtain ⟨piece, hpiece, rfl⟩ := List.mem_map.1 (List.mem_of_mem_filter hname)
      exact fun c hc ↦ (mem_of_mem_splitOn hpiece c (mem_of_mem_trim hc)).1
    · obtain rfl := List.mem_singleton.1 hname
      exact fun c hc ↦ mem_of_mem_trim hc
    · obtain rfl := List.mem_singleton.1 hname
      exact fun c hc ↦ mem_of_mem_trim hc
  exact f.colon_notMem (hpart _ hmem)

/-- The reader takes every line of the grammar. -/
theorem note?_line : Statement.note? f.line = some f.note := by
  obtain ⟨c, d, part, hpart⟩ : ∃ c d part, f.part = c :: d :: part := by
    match hpart : f.part with
    | c :: d :: part => exact ⟨c, d, part, rfl⟩
    | [] | [_] => exact absurd f.two_le_length (by simp [hpart])
  have hblank : isBlank c = true := f.isBlank_head c (by rw [hpart, List.head?_cons])
  have hplace : afterBlanks? (f.gap ++ (f.place.words.toList ++ (f.part ++ ':' :: f.text))) =
      some (f.place.words.toList ++ (f.part ++ ':' :: f.text)) := by
    rw [f.isGap_gap.afterBlanks?_append]
    cases f.place <;> rfl
  rw [note, map_ofList_targets]
  simp only [Statement.note?, line, front, List.append_assoc, isPrefixOf?_append,
    Option.bind_eq_bind, Option.bind_some, hplace, NotePlace.take?_append,
    span_of_colon_notMem f.colon_notMem]
  simp only [hpart, hblank, if_true]

end NoteForm

/-- Every line that the reader takes for a note is a line of the grammar. -/
theorem exists_form_of_note? {line : List Char} {n : Note} (h : Statement.note? line = some n) :
    ∃ f : NoteForm, f.line = line ∧ f.note = n := by
  simp only [Statement.note?, Option.bind_eq_bind, Option.bind_eq_some_iff] at h
  obtain ⟨rest₁, h₁, rest₂, h₂, ⟨place, rest₃⟩, h₃, h⟩ := h
  obtain rfl := eq_append_of_isPrefixOf? h₁
  obtain ⟨gap, hgap, rfl⟩ := exists_gap_of_afterBlanks? h₂
  obtain rfl := NotePlace.eq_of_take? h₃
  cases hspan : rest₃.span (· != ':') with
  | mk part rest₄ =>
    obtain ⟨rfl, hpart, hstop⟩ := span_eq_iff.1 hspan
    have hcolon : ':' ∉ part := fun hmem ↦ by simpa using hpart _ hmem
    simp only [hspan] at h
    split at h
    · rename_i c d part' e text
      obtain rfl : e = ':' := by simpa using hstop e rfl
      split at h
      · next hblank =>
        let f : NoteForm := ⟨gap, place, c :: d :: part', text, hgap, by simpa using hblank,
          by simp, hcolon⟩
        refine ⟨f, by simp [f, NoteForm.line, NoteForm.front], ?_⟩
        rw [NoteForm.note, f.map_ofList_targets]
        exact Option.some.inj h
      · cases h
    · cases h

/-- The parts of a line that makes a note if the targets and the text are cut off the white space
around them. -/
structure NoteCut where
  /-- The white space behind the keyword. -/
  gap : List Char
  /-- Where the note stands. -/
  place : NotePlace
  /-- White space behind the place. -/
  beforeNames : List Char
  /-- What is taken for the targets. -/
  names : List Char
  /-- White space in front of the colon. -/
  beforeColon : List Char
  /-- White space behind the colon. -/
  afterColon : List Char
  /-- What is taken for the text. -/
  text : List Char
  /-- There is white space behind the keyword. -/
  isGap_gap : IsGap gap
  /-- So there is behind the place. -/
  isGap_beforeNames : IsGap beforeNames
  /-- Something is taken for the targets. -/
  names_ne_nil : names ≠ []
  /-- They hold no colon. -/
  colon_notMem : ':' ∉ names
  /-- In front of the colon may be white space. -/
  isBlankText_beforeColon : IsBlankText beforeColon
  /-- So may be behind it. -/
  isBlankText_afterColon : IsBlankText afterColon

namespace NoteCut

/-- The line that is cut up. -/
def line (k : NoteCut) : List Char :=
  "Note".toList ++ (k.gap ++ (k.place.words.toList ++ (k.beforeNames ++ (k.names ++
    (k.beforeColon ++ ':' :: (k.afterColon ++ k.text))))))

/-- The note that is made of what is cut off. -/
def note (k : NoteCut) : Note where
  place := k.place
  targets := Statement.targets k.place k.names
  text := String.ofList (trim k.text)

variable (k : NoteCut)

/-- The form of the line that is cut up. -/
def toForm : NoteForm where
  gap := k.gap
  place := k.place
  part := k.beforeNames ++ (k.names ++ k.beforeColon)
  text := k.afterColon ++ k.text
  isGap_gap := k.isGap_gap
  isBlank_head c hc := by
    obtain ⟨d, w, hw⟩ := List.exists_cons_of_ne_nil k.isGap_beforeNames.ne_nil
    refine k.isGap_beforeNames.isBlankText c (List.mem_of_head? ?_)
    rw [hw] at hc ⊢
    exact hc
  two_le_length := by
    have hbefore := List.length_pos_iff.2 k.isGap_beforeNames.ne_nil
    have hnames := List.length_pos_iff.2 k.names_ne_nil
    simp only [List.length_append]
    omega
  colon_notMem := by
    have hblank : ∀ {w : List Char}, IsBlankText w → ':' ∉ w := fun hw hmem ↦
      absurd (hw _ hmem) (by decide)
    simp only [List.mem_append, not_or]
    exact ⟨hblank k.isGap_beforeNames.isBlankText, k.colon_notMem,
      hblank k.isBlankText_beforeColon⟩

theorem line_toForm : k.toForm.line = k.line := by
  simp [NoteForm.line, NoteForm.front, toForm, line]

/-- White space around the targets is no part of them. -/
theorem targets_part :
    Statement.targets k.place (k.beforeNames ++ (k.names ++ k.beforeColon)) =
      Statement.targets k.place k.names := by
  have hcomma : ∀ {w : List Char}, IsBlankText w → ',' ∉ w := fun hw hmem ↦
    absurd (hw _ hmem) (by decide)
  have hbefore := k.isGap_beforeNames.isBlankText
  have hbehind := k.isBlankText_beforeColon
  cases k.place with
  | across =>
    rw [Statement.targets, hbefore.map_trim_splitOn_append (hcomma hbefore),
      hbehind.map_trim_splitOn_append_self (hcomma hbehind), Statement.targets]
  | rightOf | leftOf =>
    rw [Statement.targets, hbefore.trim_append, hbehind.trim_append_self, Statement.targets]

/-- **All ways to cut a line up mean the same note**: that of the form of the line, which does not
depend on where white space is cut off. -/
theorem note_toForm : k.toForm.note = k.note := by
  rw [NoteForm.note, NoteForm.map_ofList_targets]
  simp only [toForm, note, targets_part, k.isBlankText_afterColon.trim_append]

end NoteCut

/-- All ways to cut up a line that makes a note, in the order in which they are found by trying out:
white space is taken as long as can be and then shorter and shorter, but the targets the other way
round. -/
def noteWays (line : List Char) : List NoteCut :=
  ("Note".toList.isPrefixOf? line).toList.flatMap fun s ↦
  (someRuns isBlank s).flatMap fun (gap, s) ↦
  NotePlace.all.flatMap fun place ↦
  (place.words.toList.isPrefixOf? s).toList.flatMap fun s ↦
  (someRuns isBlank s).flatMap fun (beforeNames, s) ↦
  (someRuns (· != ':') s).reverse.flatMap fun (names, s) ↦
  (runs isBlank s).flatMap fun (⟨beforeColon, hbeforeColon⟩, s) ↦
  ([':'].isPrefixOf? s).toList.flatMap fun s ↦
  (runs isBlank s).map fun (⟨afterColon, hafterColon⟩, text) ↦
  ⟨gap, place, beforeNames, names, beforeColon, afterColon, text, ⟨gap.2.1, gap.2.2⟩,
    ⟨beforeNames.2.1, beforeNames.2.2⟩, names.2.1, fun h ↦ by simpa using names.2.2 _ h,
    hbeforeColon, hafterColon⟩

/-- **Trying out finds the ways to cut a line up and nothing else.** -/
theorem mem_noteWays_iff {line : List Char} {k : NoteCut} :
    k ∈ noteWays line ↔ k.line = line := by
  simp only [noteWays, List.mem_flatMap, List.mem_map, Prod.exists, List.mem_reverse,
    mem_someRuns_iff, mem_runs_iff, Option.mem_toList, List.isPrefixOf?_eq_some_iff_append_eq]
  constructor
  · rintro ⟨_, rfl, gap, _, rfl, place, -, _, rfl, beforeNames, _, rfl, names, _, rfl, beforeColon,
      _, rfl, _, rfl, afterColon, text, rfl, rfl⟩
    rfl
  · rintro rfl
    have hcolon : ∀ c ∈ k.names, (c != ':') = true := fun c hc ↦ by
      rw [bne_iff_ne]
      rintro rfl
      exact k.colon_notMem hc
    exact ⟨_, rfl, ⟨k.gap, k.isGap_gap.ne_nil, k.isGap_gap.isBlankText⟩, _, rfl, k.place,
      by cases k.place <;> decide, _, rfl,
      ⟨k.beforeNames, k.isGap_beforeNames.ne_nil, k.isGap_beforeNames.isBlankText⟩, _, rfl,
      ⟨k.names, k.names_ne_nil, hcolon⟩, _, rfl, ⟨k.beforeColon, k.isBlankText_beforeColon⟩, _,
      rfl, _, rfl, ⟨k.afterColon, k.isBlankText_afterColon⟩, k.text, rfl, rfl⟩

/-- Every line of the grammar can be cut up: of the part in front of the colon the first character
is taken for white space and the others for the targets. -/
theorem NoteForm.exists_cut (f : NoteForm) : ∃ k : NoteCut, k.line = f.line := by
  obtain ⟨c, names, hpart⟩ : ∃ c names, f.part = c :: names :=
    List.exists_cons_of_length_pos (by have := f.two_le_length; omega)
  have hnames : names ≠ [] := by
    rintro rfl
    have hlength := f.two_le_length
    rw [hpart] at hlength
    exact absurd hlength (by simp)
  have hblank : isBlank c = true := f.isBlank_head c (by rw [hpart, List.head?_cons])
  have hcolon : ':' ∉ names := fun hmem ↦ f.colon_notMem (hpart ▸ List.mem_cons_of_mem c hmem)
  refine ⟨⟨f.gap, f.place, [c], names, [], [], f.text, f.isGap_gap,
    ⟨List.cons_ne_nil c [], List.forall_mem_singleton.2 hblank⟩, hnames, hcolon, isBlankText_nil,
    isBlankText_nil⟩, ?_⟩
  simp only [NoteCut.line, NoteForm.line, NoteForm.front, hpart, List.nil_append,
    List.cons_append, List.append_assoc]

/-! ## The reader and the grammars -/

theorem head?_participantWays {line : List Char} (h : IsTrimmed line) :
    (participantWays line).head?.map ParticipantForm.participant =
      Statement.participant? line := by
  refine head?_map_of_forall (fun f hf ↦ ?_) fun p hp ↦ ?_
  · obtain rfl := mem_participantWays_iff.1 hf
    exact f.participant?_line h
  · obtain ⟨f, hf, -⟩ := exists_form_of_participant? hp
    exact ⟨f, mem_participantWays_iff.2 hf⟩

theorem head?_noteWays (line : List Char) :
    (noteWays line).head?.map NoteCut.note = Statement.note? line := by
  refine head?_map_of_forall (fun k hk ↦ ?_) fun n hn ↦ ?_
  · rw [← mem_noteWays_iff.1 hk, ← k.line_toForm, k.toForm.note?_line, k.note_toForm]
  · obtain ⟨f, hf, -⟩ := exists_form_of_note? hn
    obtain ⟨k, hk⟩ := f.exists_cut
    exact ⟨k, mem_noteWays_iff.2 (hk.trans hf)⟩

/-- **The reader takes the lines of the two grammars, and takes them as anyone does who tries the
parts out.**  A trimmed line declares a participant exactly if it has a form, and then that of the
form; the name is a whole word, and the label is not empty.  A line makes a note exactly if it has a
form, and then that of the form; the text is all that follows the first colon of the line, and no
target has a colon.  Trying out finds the ways to cut a line up and no others, and the first one
that it finds means what the reader takes. -/
theorem keywordLines_read_iff_form {line : List Char} (h : IsTrimmed line) :
    ((∀ p, Statement.participant? line = some p ↔
        ∃ f : ParticipantForm, f.line = line ∧ f.participant = p) ∧
      (∀ f : ParticipantForm, f.line = line →
        StopsWord f.ending ∧ f.participant.label ≠ "") ∧
      (∀ f, f ∈ participantWays line ↔ f.line = line) ∧
      (participantWays line).head?.map ParticipantForm.participant =
        Statement.participant? line) ∧
    (∀ n, Statement.note? line = some n ↔ ∃ f : NoteForm, f.line = line ∧ f.note = n) ∧
    (∀ f : NoteForm, f.line = line → line.span (· != ':') = (f.front, ':' :: f.text) ∧
      ∀ t ∈ f.note.targets, ':' ∉ t.toList) ∧
    (∀ k, k ∈ noteWays line ↔ k.line = line) ∧
    (noteWays line).head?.map NoteCut.note = Statement.note? line := by
  refine ⟨⟨fun p ↦ ⟨exists_form_of_participant?, ?_⟩, ?_, fun f ↦ mem_participantWays_iff,
    head?_participantWays h⟩, fun n ↦ ⟨exists_form_of_note?, ?_⟩, ?_, fun k ↦ mem_noteWays_iff,
    head?_noteWays line⟩
  · rintro ⟨f, rfl, rfl⟩
    exact f.participant?_line h
  · rintro f rfl
    exact ⟨f.stopsWord_ending, f.label_participant_ne h⟩
  · rintro ⟨f, rfl, rfl⟩
    exact f.note?_line
  · rintro f rfl
    exact ⟨f.span_line, f.colon_notMem_targets⟩

/-- A participant called `as` with the label `as`, and a note whose targets are white space only and
whose text begins with a colon. -/
theorem keywordLines_read_iff_form_contested :
    let declaration := "participant as\tas  as".toList
    let note := "Note over \t:: a: b".toList
    IsTrimmed declaration ∧ IsTrimmed note ∧
      Statement.participant? declaration = some ⟨"as", "as"⟩ ∧
      Statement.note? note = some ⟨.across, [], ": a: b"⟩ := by
  intro declaration note
  have hdeclaration : IsTrimmed declaration := isTrimmed_of_trim_eq (by decide)
  have hnote : IsTrimmed note := isTrimmed_of_trim_eq (by decide)
  refine ⟨hdeclaration, hnote, ?_, ?_⟩
  · exact ((keywordLines_read_iff_form hdeclaration).1.1 _).2
      ⟨⟨[' '], ['a', 's'], some ⟨['\t'], [' '], " as".toList, by decide, by decide, by decide⟩,
        by decide, by decide +kernel⟩, by decide, by decide⟩
  · exact ((keywordLines_read_iff_form hnote).2.1 _).2
      ⟨⟨[' '], .across, [' ', '\t'], ": a: b".toList, by decide, fun c hc ↦ by cases hc; decide,
        by decide, by decide⟩, by decide, by decide⟩

end SequenceChart
