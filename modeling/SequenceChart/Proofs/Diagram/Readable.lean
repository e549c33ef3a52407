import SequenceChart.Proofs.Diagram.Participants
import SequenceChart.Proofs.Diagram.Writing

/-!
# What is read can be written

Each recogniser takes its parts from the line it is given, so they hold nothing a line cannot hold;
it takes names as words and trims the rest.  Hence every statement of a source is readable
(`isReadable_of_mem_statements`).  A text that is written from readable statements has these
statements, except that an unrecognised one has no line.

## Main definitions

* `written` — the text with the lines of given statements.

## Main statements

* `isReadable_of_mem_statements` — all that is read from a text is readable.
* `statements_written` — reading undoes writing, for whole texts.
-/

set_option autoImplicit false
namespace SequenceChart

/-! ## Parts of a plain text -/

theorem IsPlain.of_isPrefixOf? {p s rest : List Char} (hs : IsPlain s)
    (h : p.isPrefixOf? s = some rest) : IsPlain rest := by
  obtain rfl := eq_append_of_isPrefixOf? h
  exact (isPlain_append.1 hs).2

theorem IsPlain.trimStart {s : List Char} (hs : IsPlain s) : IsPlain (trimStart s) :=
  hs.mono fun _ hc ↦ (trimStart_suffix_self s).mem hc

theorem IsPlain.of_afterBlanks? {s rest : List Char} (hs : IsPlain s)
    (h : afterBlanks? s = some rest) : IsPlain rest := by
  rw [eq_trimStart_of_afterBlanks? h]
  exact hs.trimStart

theorem isField_trim {s : List Char} (hs : IsPlain s) :
    IsField (String.ofList (trim s)) where
  plain := by
    rw [String.toList_ofList]
    exact hs.trim
  trimmed := by
    rw [String.toList_ofList]
    exact isTrimmed_trim s

theorem isName_ofList {w : List Char} (hplain : IsPlain w) (hw : IsWordText w) :
    IsName (String.ofList w) where
  plain := by
    rw [String.toList_ofList]
    exact hplain
  word := by
    rw [String.toList_ofList]
    exact hw

/-- A word that is taken from a plain text is a name, and what follows it is plain. -/
theorem IsPlain.of_takeWord? {s w rest : List Char} (hs : IsPlain s)
    (h : takeWord? s = some (w, rest)) : IsName (String.ofList w) ∧ IsPlain rest := by
  obtain ⟨rfl, hw, -⟩ := takeWord?_eq_some_iff.1 h
  obtain ⟨hplain, hrest⟩ := isPlain_append.1 hs
  exact ⟨isName_ofList hplain hw, hrest⟩

theorem IsName.isField {s : String} (h : IsName s) : IsField s where
  plain := h.plain
  trimmed := by
    constructor
    · intro c hc
      exact isBlank_eq_false_of_isWord (h.word.all_word c (List.mem_of_head? hc))
    · intro c hc
      exact isBlank_eq_false_of_isWord (h.word.all_word c (List.mem_of_getLast? hc))

theorem NotePlace.eq_of_take? {s rest : List Char} {p : NotePlace}
    (h : NotePlace.take? s = some (p, rest)) : s = p.words.toList ++ rest := by
  obtain ⟨q, -, hq⟩ := List.exists_of_findSome?_eq_some h
  obtain ⟨r, hr, heq⟩ := Option.map_eq_some_iff.1 hq
  cases heq
  exact eq_append_of_isPrefixOf? hr

/-! ## One recogniser after the other -/

namespace Statement

variable {line : List Char}

theorem isReadable_of_participant? (hline : IsPlain line) {p : Participant}
    (h : participant? line = some p) : p.IsReadable := by
  simp only [participant?, Option.bind_eq_bind, Option.bind_eq_some_iff, Option.pure_def] at h
  obtain ⟨rest₁, h₁, rest₂, h₂, ⟨id, rest₃⟩, h₃, h⟩ := h
  obtain ⟨hid, hrest₃⟩ := ((hline.of_isPrefixOf? h₁).of_afterBlanks? h₂).of_takeWord? h₃
  split at h
  · obtain rfl := Option.some.inj h
    exact ⟨hid, hid.isField, hid.word.ne_nil⟩
  · simp only [Option.bind_eq_some_iff] at h
    obtain ⟨rest₄, h₄, rest₅, h₅, label, h₆, h⟩ := h
    have hlabel := ((hrest₃.of_afterBlanks? h₄).of_isPrefixOf? h₅).of_afterBlanks? h₆
    split at h
    · cases h
    · rename_i hne
      obtain rfl := Option.some.inj h
      refine ⟨hid, isField_trim hlabel, ?_⟩
      -- the label begins with no white space, so trimming leaves something of it
      obtain ⟨c, t, rfl⟩ := List.exists_cons_of_ne_nil (by simpa using hne)
      have hc : isBlank c = false := by
        refine head?_trimStart (s := rest₅) ?_
        rw [← eq_trimStart_of_afterBlanks? h₆]
        rfl
      have htrim := trim_append_cons (s := []) (by simp) hc t
      rw [List.nil_append] at htrim
      rw [String.toList_ofList, htrim]
      exact List.cons_ne_nil _ _

theorem isField_of_mem_targets {place : NotePlace} {part : List Char} (hpart : IsPlain part)
    (hcolon : ':' ∉ part) : ∀ t ∈ targets place part, IsField t ∧ ':' ∉ t.toList := by
  have htrim : ∀ {s : List Char}, (∀ c ∈ s, c ∈ part) →
      IsField (String.ofList (trim s)) ∧ ':' ∉ (String.ofList (trim s)).toList := by
    intro s hs
    refine ⟨isField_trim (hpart.mono hs), ?_⟩
    rw [String.toList_ofList]
    exact fun hmem ↦ hcolon (hs _ (mem_of_mem_trim hmem))
  intro t ht
  cases place with
  | across =>
    obtain ⟨name, hname, ht⟩ := List.mem_filterMap.1 ht
    obtain ⟨piece, hpiece, rfl⟩ := List.mem_map.1 hname
    split at ht
    · cases ht
    · obtain rfl := Option.some.inj ht
      exact htrim fun c hc ↦ (mem_of_mem_splitOn hpiece c hc).1
  | rightOf | leftOf =>
    obtain rfl := List.mem_singleton.1 ht
    exact htrim fun c hc ↦ hc

theorem ne_nil_of_mem_targets_across {part : List Char} :
    ∀ t ∈ targets .across part, t.toList ≠ [] ∧ ',' ∉ t.toList := by
  intro t ht
  obtain ⟨name, hname, ht⟩ := List.mem_filterMap.1 ht
  obtain ⟨piece, hpiece, rfl⟩ := List.mem_map.1 hname
  split at ht
  · cases ht
  · rename_i hne
    obtain rfl := Option.some.inj ht
    rw [String.toList_ofList]
    exact ⟨by simpa using hne, fun hmem ↦
      (mem_of_mem_splitOn hpiece _ (mem_of_mem_trim hmem)).2 rfl⟩

theorem isReadable_of_note? (hline : IsPlain line) {n : Note} (h : note? line = some n) :
    n.IsReadable := by
  simp only [note?, Option.bind_eq_bind, Option.bind_eq_some_iff] at h
  obtain ⟨rest₁, h₁, rest₂, h₂, ⟨place, rest₃⟩, h₃, h⟩ := h
  have hrest₂ := (hline.of_isPrefixOf? h₁).of_afterBlanks? h₂
  rw [NotePlace.eq_of_take? h₃] at hrest₂
  obtain ⟨-, hrest₃⟩ := isPlain_append.1 hrest₂
  cases hspan : rest₃.span (· != ':') with
  | mk part rest₄ =>
    obtain ⟨rfl, hpart, -⟩ := span_eq_iff.1 hspan
    obtain ⟨hplain, hrest₄⟩ := isPlain_append.1 hrest₃
    have hcolon : ':' ∉ part := fun hmem ↦ by simpa using hpart _ hmem
    simp only [hspan] at h
    split at h
    · rename_i first second part rest text
      split at h
      · obtain rfl := Option.some.inj h
        refine ⟨isField_trim (hrest₄.mono fun c hc ↦ List.mem_cons_of_mem _ hc),
          isField_of_mem_targets hplain hcolon, ?_, ?_⟩
        · rintro rfl
          exact ne_nil_of_mem_targets_across
        · intro hplace
          cases place with
          | across => exact absurd rfl hplace
          | rightOf | leftOf => exact ⟨_, rfl⟩
      · cases h
    · cases h

theorem isField_of_openLoop? (hline : IsPlain line) {label : String}
    (h : openLoop? line = some label) : IsField label := by
  simp only [openLoop?, Option.bind_eq_bind, Option.bind_eq_some_iff, Option.pure_def] at h
  obtain ⟨rest₁, h₁, h⟩ := h
  split at h
  · obtain rfl := Option.some.inj h
    exact isField_trim (fun c hc ↦ absurd hc List.not_mem_nil : IsPlain [])
  · obtain ⟨rest₂, h₂, h⟩ := Option.bind_eq_some_iff.1 h
    obtain rfl := Option.some.inj h
    exact isField_trim ((hline.of_isPrefixOf? h₁).of_afterBlanks? h₂)

theorem isReadable_of_message? (hline : IsPlain line) {m : Message} (h : message? line = some m) :
    m.IsReadable := by
  obtain ⟨f, rfl, rfl⟩ := exists_form_of_message? h
  simp only [MessageForm.line, MessageForm.pointer, MessageForm.target, MessageForm.ending,
    isPlain_append] at hline
  obtain ⟨hsender, -, -, -, hreceiver, -, hending⟩ := hline
  have htext : IsPlain f.text := hending.mono fun c hc ↦ List.mem_cons_of_mem _ hc
  exact ⟨isName_ofList hsender f.isWordText_sender, isName_ofList hreceiver f.isWordText_receiver,
    isField_trim htext⟩

/-- **What is read from a plain line is readable.** -/
theorem isReadable_ofLine (hline : IsPlain line) : (ofLine line).IsReadable := by
  unfold ofLine
  split
  · trivial
  split
  · exact isReadable_of_participant? hline ‹_›
  split
  · exact isReadable_of_note? hline ‹_›
  split
  · exact isField_of_openLoop? hline ‹_›
  split
  · trivial
  split
  · exact isReadable_of_message? hline ‹_›
  · trivial

end Statement

theorem isReadable_of_mem_statements {text : String} {s : Statement} (h : s ∈ statements text) :
    s.IsReadable := by
  obtain ⟨line, hline, rfl⟩ := List.mem_map.1 h
  exact Statement.isReadable_ofLine (isPlain_of_mem_sourceLines hline)

/-! ## The parts of a diagram -/

theorem Statement.eq_participant_of_declared? {s : Statement} {p : Participant}
    (h : s.declared? = some p) : s = .participant p := by
  cases s <;> cases h
  rfl

theorem Statement.eq_note_of_noted? {s : Statement} {n : Note} (h : s.noted? = some n) :
    s = .note n := by
  cases s <;> cases h
  rfl

theorem Statement.eq_message_of_sent? {s : Statement} {m : Message} (h : s.sent? = some m) :
    s = .message m := by
  cases s <;> cases h
  rfl

theorem isReadable_of_mem_participants {text : String} {p : Participant}
    (h : p ∈ (Diagram.ofText text).participants) : p.IsReadable := by
  rw [Diagram.participants_ofText] at h
  obtain ⟨s, hs, heq⟩ := List.mem_filterMap.1 (mem_of_mem_firstDeclared h)
  obtain rfl := Statement.eq_participant_of_declared? heq
  exact isReadable_of_mem_statements hs

theorem isReadable_of_mem_notes {text : String} {n : Note}
    (h : n ∈ (Diagram.ofText text).notes) : n.IsReadable := by
  rw [Diagram.notes_ofText] at h
  obtain ⟨s, hs, heq⟩ := List.mem_filterMap.1 h
  obtain rfl := Statement.eq_note_of_noted? heq
  exact isReadable_of_mem_statements hs

theorem isReadable_of_mem_messages {text : String} {m : Message}
    (h : m ∈ (Diagram.ofText text).messages) : m.IsReadable := by
  rw [Diagram.messages_ofText] at h
  obtain ⟨s, hs, heq⟩ := List.mem_filterMap.1 h
  obtain rfl := Statement.eq_message_of_sent? heq
  exact isReadable_of_mem_statements hs

/-! ## Whole texts -/

theorem isPlain_cons {c : Char} {s : List Char} :
    IsPlain (c :: s) ↔ (isXmlChar c = true ∧ c ≠ '\n') ∧ IsPlain s :=
  List.forall_mem_cons

theorem isPlain_of_all {s : List Char} (h : s.all (fun c ↦ isXmlChar c && c != '\n') = true) :
    IsPlain s := by
  intro c hc
  have hcheck := List.all_eq_true.1 h c hc
  rwa [Bool.and_eq_true, bne_iff_ne] at hcheck

theorem NotePlace.isPlain_words (p : NotePlace) : IsPlain p.words.toList := by
  refine isPlain_of_all ?_
  cases p <;> decide +kernel

theorem Arrow.isPlain_token (a : Arrow) : IsPlain a.token.toList := by
  refine isPlain_of_all ?_
  cases a <;> decide +kernel

theorem Note.IsReadable.isPlain_targetsText {n : Note} (h : n.IsReadable) :
    IsPlain n.targetsText := by
  by_cases hnil : [','].intercalate (n.targets.map String.toList) = []
  · rw [Note.targetsText_of_eq_nil hnil]
    refine isPlain_of_all ?_
    split <;> decide
  · rw [Note.targetsText_of_ne_nil hnil]
    intro c hc
    rcases mem_intercalate hc with rfl | ⟨l, hl, hc⟩
    · decide
    · obtain ⟨t, ht, rfl⟩ := List.mem_map.1 hl
      exact (h.target t ht).1.plain c hc

/-- The line of a readable statement can stand among others. -/
theorem Statement.IsReadable.isPlain_line {s : Statement} (h : s.IsReadable) : IsPlain s.line := by
  have hparticipant : IsPlain "participant".toList := isPlain_of_all (by decide +kernel)
  have has : IsPlain "as".toList := isPlain_of_all (by decide +kernel)
  have hnote : IsPlain "Note".toList := isPlain_of_all (by decide +kernel)
  have hloop : IsPlain "loop".toList := isPlain_of_all (by decide +kernel)
  have hspace : isXmlChar ' ' = true ∧ ' ' ≠ '\n' := by decide
  have hcolon : isXmlChar ':' = true ∧ ':' ≠ '\n' := by decide
  cases s with
  | participant p =>
    show IsPlain p.line
    unfold Participant.line
    simp only [isPlain_append, isPlain_cons]
    exact ⟨hparticipant, hspace, h.id.plain, hspace, has, hspace, h.label.plain⟩
  | note n =>
    show IsPlain n.line
    unfold Note.line
    simp only [isPlain_append, isPlain_cons]
    exact ⟨hnote, hspace, n.place.isPlain_words, hspace, h.isPlain_targetsText, hcolon, hspace,
      h.text.plain⟩
  | openLoop label =>
    show IsPlain (loopLine label)
    unfold loopLine
    split
    · exact hloop
    · simp only [isPlain_append, isPlain_cons]
      exact ⟨hloop, hspace, h.plain⟩
  | closeLoop => exact isPlain_of_all (by decide +kernel)
  | message m =>
    show IsPlain m.line
    unfold Message.line
    simp only [isPlain_append, isPlain_cons]
    exact ⟨h.sender.plain, m.arrow.isPlain_token, h.receiver.plain, hcolon, hspace, h.text.plain⟩
  | comment => exact isPlain_of_all (by decide +kernel)
  | unrecognized => exact fun c hc ↦ absurd hc List.not_mem_nil

/-- The text with the lines of given statements. -/
def written (ss : List Statement) : String :=
  String.ofList (['\n'].intercalate (ss.map Statement.line))

/-- **The statements of a written text are those it was written from.** -/
theorem statements_written {ss : List Statement}
    (h : ∀ s ∈ ss, s.IsReadable ∧ s ≠ .unrecognized) : statements (written ss) = ss := by
  have hplain : ∀ l ∈ ss.map Statement.line, IsPlain l := by
    intro l hl
    obtain ⟨s, hs, rfl⟩ := List.mem_map.1 hl
    exact (h s hs).1.isPlain_line
  -- nothing is lost to trimming, since an empty line is none of these statements
  have hkeep : ∀ l ∈ (ss.map Statement.line).map trim, (!l.isEmpty) = true := by
    intro l hl
    rw [List.map_map] at hl
    obtain ⟨s, hs, rfl⟩ := List.mem_map.1 hl
    obtain ⟨hs, hne⟩ := h s hs
    rw [Bool.not_eq_true', List.isEmpty_eq_false_iff]
    intro hnil
    refine hne ?_
    rw [← ofLine_trim_line hs, show trim s.line = [] from hnil]
    decide +kernel
  rw [statements, written, sourceLines_intercalate hplain, List.filter_eq_self.2 hkeep,
    List.map_map, List.map_map]
  conv_rhs => rw [← List.map_id ss]
  exact List.map_congr_left fun s hs ↦ ofLine_trim_line (h s hs).1

end SequenceChart
