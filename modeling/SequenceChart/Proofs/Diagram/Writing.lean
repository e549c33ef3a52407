import SequenceChart.Proofs.Diagram.MessageLines
import SequenceChart.Proofs.Text.SourceLines

/-!
# Writing statements

A printer for statements, one line each, and the proof that the reader undoes it.  The reader takes
many lines for the same statement; the printer picks one, with single spaces, none around the arrow.

A line is trimmed when it is read, and the only line that this changes is one that ends behind its
colon.  So the lemmas about reading are stated for any text behind the colon and say that it is
trimmed (`ofLine_message`, `ofLine_note`).

What a line cannot hold cannot be written: names have to be words, labels and texts have to be
trimmed and free of line feeds, and targets are bounded by commas and a colon.  `IsReadable` says
so, and it is all that reading back what was written needs.

## Main definitions

* `Statement.line` — the line of a statement.
* `Statement.IsReadable` — the statements a line can hold.

## Main statements

* `Statement.ofLine_participant`, `ofLine_note`, `ofLine_loop`, `ofLine_message` — what is read from
  a line of each form.
* `ofLine_trim_line` — reading undoes writing.
-/

set_option autoImplicit false
namespace SequenceChart

/-! ## The lines -/

/-- The line that declares a participant. -/
def Participant.line (p : Participant) : List Char :=
  "participant".toList ++ ' ' :: (p.id.toList ++ ' ' :: ("as".toList ++ ' ' :: p.label.toList))

/-- How the targets of a note are written.  The part between the place and the colon must not be
empty: a note over no participants has a lone comma there, a note beside the empty name a space. -/
def Note.targetsText (n : Note) : List Char :=
  match n.place, [','].intercalate (n.targets.map String.toList) with
  | .across, [] => [',']
  | .rightOf, [] | .leftOf, [] => [' ']
  | _, part => part

/-- The line that makes a note. -/
def Note.line (n : Note) : List Char :=
  "Note".toList ++ ' ' :: (n.place.words.toList ++ ' ' ::
    (n.targetsText ++ ':' :: ' ' :: n.text.toList))

/-- The line that sends a message. -/
def Message.line (m : Message) : List Char :=
  m.sender.toList ++ (m.arrow.token.toList ++ (m.receiver.toList ++ ':' :: ' ' :: m.text.toList))

/-- The line that begins a loop. -/
def loopLine (label : String) : List Char :=
  if label.toList = [] then "loop".toList else "loop".toList ++ ' ' :: label.toList

/-- The line of a statement. -/
def Statement.line : Statement → List Char
  | participant p => p.line
  | note n => n.line
  | openLoop label => loopLine label
  | closeLoop => "end".toList
  | message m => m.line
  | comment => "%%".toList
  | unrecognized => []

/-! ## What can be read -/

/-- A text that can be the rest of a line. -/
structure IsField (s : String) : Prop where
  /-- It has nothing that a line cannot hold. -/
  plain : IsPlain s.toList
  /-- It is trimmed. -/
  trimmed : IsTrimmed s.toList

/-- A text that can name a participant. -/
structure IsName (s : String) : Prop where
  /-- It has nothing that a line cannot hold. -/
  plain : IsPlain s.toList
  /-- It is a word. -/
  word : IsWordText s.toList

/-- The participants that can be declared. -/
structure Participant.IsReadable (p : Participant) : Prop where
  /-- The name is a word. -/
  id : IsName p.id
  /-- The label can end a line. -/
  label : IsField p.label
  /-- There is a label. -/
  label_ne_nil : p.label.toList ≠ []

/-- The notes that can be made. -/
structure Note.IsReadable (n : Note) : Prop where
  /-- The text can end a line. -/
  text : IsField n.text
  /-- The targets can stand in front of a colon. -/
  target : ∀ t ∈ n.targets, IsField t ∧ ':' ∉ t.toList
  /-- Targets that are separated by commas hold none and are not empty. -/
  across : n.place = .across → ∀ t ∈ n.targets, t.toList ≠ [] ∧ ',' ∉ t.toList
  /-- A note beside a participant has one target. -/
  beside : n.place ≠ .across → ∃ t, n.targets = [t]

/-- The messages that can be sent. -/
structure Message.IsReadable (m : Message) : Prop where
  /-- The sender is named by a word. -/
  sender : IsName m.sender
  /-- So is the receiver. -/
  receiver : IsName m.receiver
  /-- The text can end a line. -/
  text : IsField m.text

/-- The statements that a line can hold. -/
def Statement.IsReadable : Statement → Prop
  | participant p => p.IsReadable
  | note n => n.IsReadable
  | openLoop label => IsField label
  | message m => m.IsReadable
  | closeLoop | comment | unrecognized => True

/-! ## Reading the statements -/

theorem NotePlace.take?_append (p : NotePlace) (rest : List Char) :
    NotePlace.take? (p.words.toList ++ rest) = some (p, rest) := by
  cases p <;> simp [NotePlace.take?, NotePlace.all, NotePlace.words, List.isPrefixOf?]

namespace Statement

/-- **A message is read from its line**, whatever its participants are called. -/
theorem ofLine_message {sender receiver : List Char} (hs : IsWordText sender) (a : Arrow)
    (hr : IsWordText receiver) (rest : List Char) :
    ofLine (sender ++ (a.token.toList ++ (receiver ++ ':' :: rest))) =
      message ⟨String.ofList sender, String.ofList receiver, String.ofList (trim rest), a⟩ :=
  MessageForm.ofLine_line ⟨sender, [], a, [], receiver, [], rest, hs, hr, isBlankText_nil,
    isBlankText_nil, isBlankText_nil⟩ fun h ↦ h.2 rfl

/-- **A participant is read from its line.** -/
theorem ofLine_participant {id label : List Char} (hid : IsWordText id) (hlabel : IsTrimmed label)
    (hne : label ≠ []) :
    ofLine ("participant".toList ++ ' ' :: (id ++ ' ' :: ("as".toList ++ ' ' :: label))) =
      participant ⟨String.ofList id, String.ofList label⟩ := by
  have hword : takeWord? (id ++ ' ' :: ("as".toList ++ ' ' :: label)) =
      some (id, ' ' :: ("as".toList ++ ' ' :: label)) :=
    takeWord?_append hid (stopsWord_cons (by decide +kernel))
  have has : afterBlanks? (' ' :: ("as".toList ++ ' ' :: label)) =
      some ("as".toList ++ ' ' :: label) :=
    rfl
  have hparticipant : participant? ("participant".toList ++ ' ' ::
      (id ++ ' ' :: ("as".toList ++ ' ' :: label))) =
        some ⟨String.ofList id, String.ofList label⟩ := by
    rw [participant?, isPrefixOf?_append, Option.bind_eq_bind, Option.bind_some,
      afterBlanks?_blank_cons hid.stopsBlank_append, Option.bind_eq_bind, Option.bind_some, hword]
    simp only [Option.bind_some, List.isEmpty_cons, Bool.false_eq_true, if_false, has,
      isPrefixOf?_append, afterBlanks?_blank_cons hlabel.head]
    rw [if_neg (by simpa using hne), hlabel.trim_eq]
    rfl
  have hcomment : isComment ("participant".toList ++ ' ' ::
      (id ++ ' ' :: ("as".toList ++ ' ' :: label))) = false :=
    rfl
  rw [ofLine, hcomment, hparticipant]
  rfl

/-- **A note is read from its line.** -/
theorem ofLine_note (place : NotePlace) {c d : Char} {part rest : List Char}
    (hc : isBlank c = true) (hcolon : ':' ∉ c :: d :: part) :
    ofLine ("Note".toList ++ ' ' :: (place.words.toList ++ (c :: d :: part ++ ':' :: rest))) =
      note ⟨place, targets place (c :: d :: part), String.ofList (trim rest)⟩ := by
  have hplace : afterBlanks? (' ' :: (place.words.toList ++ (c :: d :: part ++ ':' :: rest))) =
      some (place.words.toList ++ (c :: d :: part ++ ':' :: rest)) := by
    cases place <;> rfl
  have hspan : (c :: d :: part ++ ':' :: rest).span (· != ':') = (c :: d :: part, ':' :: rest) := by
    refine span_eq_iff.2 ⟨rfl, fun e he ↦ ?_, by simp⟩
    rw [bne_iff_ne]
    rintro rfl
    exact hcolon he
  have hnote : note? ("Note".toList ++ ' ' ::
      (place.words.toList ++ (c :: d :: part ++ ':' :: rest))) =
        some ⟨place, targets place (c :: d :: part), String.ofList (trim rest)⟩ := by
    rw [note?, isPrefixOf?_append, Option.bind_eq_bind, Option.bind_some, hplace,
      Option.bind_eq_bind, Option.bind_some, NotePlace.take?_append]
    simp only [Option.bind_some, hspan, hc, if_true]
  have hcomment : isComment ("Note".toList ++ ' ' ::
      (place.words.toList ++ (c :: d :: part ++ ':' :: rest))) = false :=
    rfl
  have hparticipant : participant? ("Note".toList ++ ' ' ::
      (place.words.toList ++ (c :: d :: part ++ ':' :: rest))) = none :=
    rfl
  rw [ofLine, hcomment, hparticipant, hnote]
  rfl

/-- **A loop is read from its line**, with or without a label. -/
theorem ofLine_loop {rest : List Char} (hrest : ∀ c, rest.head? = some c → isBlank c = true) :
    ofLine ("loop".toList ++ rest) = openLoop (String.ofList (trim rest)) := by
  have hopenLoop : openLoop? ("loop".toList ++ rest) = some (String.ofList (trim rest)) := by
    rw [openLoop?, isPrefixOf?_append, Option.bind_eq_bind, Option.bind_some]
    cases rest with
    | nil => rfl
    | cons c rest =>
      have hafter : afterBlanks? (c :: rest) = some (trimStart rest) :=
        afterBlanks?_eq_some_iff.2 ⟨c, rest, rfl, hrest c rfl, rfl⟩
      rw [trim_cons_of_isBlank (hrest c rfl), hafter, ← trim_trimStart rest]
      rfl
  have hcomment : isComment ("loop".toList ++ rest) = false := rfl
  have hparticipant : participant? ("loop".toList ++ rest) = none := rfl
  have hnote : note? ("loop".toList ++ rest) = none := rfl
  rw [ofLine, hcomment, hparticipant, hnote, hopenLoop]
  rfl

end Statement

/-! ## The targets of a note -/

namespace Note

variable {n : Note}

/-- Only where nothing else is written, something is written in its stead. -/
theorem targetsText_of_ne_nil (h : [','].intercalate (n.targets.map String.toList) ≠ []) :
    n.targetsText = [','].intercalate (n.targets.map String.toList) := by
  rw [targetsText]
  split
  · contradiction
  · contradiction
  · contradiction
  · rfl

theorem targetsText_of_eq_nil (h : [','].intercalate (n.targets.map String.toList) = []) :
    n.targetsText = if n.place = .across then [','] else [' '] := by
  rw [targetsText, h]
  cases n.place <;> rfl

theorem exists_cons_targetsText (n : Note) : ∃ c part, n.targetsText = c :: part := by
  by_cases h : [','].intercalate (n.targets.map String.toList) = []
  · rw [targetsText_of_eq_nil h]
    split
    · exact ⟨',', [], rfl⟩
    · exact ⟨' ', [], rfl⟩
  · rw [targetsText_of_ne_nil h]
    exact List.exists_cons_of_ne_nil h

theorem IsReadable.colon_notMem (h : n.IsReadable) : ':' ∉ n.targetsText := by
  by_cases hnil : [','].intercalate (n.targets.map String.toList) = []
  · rw [targetsText_of_eq_nil hnil]
    split <;> decide
  · rw [targetsText_of_ne_nil hnil]
    intro hmem
    rcases mem_intercalate hmem with heq | ⟨l, hl, hc⟩
    · revert heq
      decide
    · obtain ⟨t, ht, rfl⟩ := List.mem_map.1 hl
      exact (h.target t ht).2 hc

/-- Trimmed names that are not empty are all kept. -/
theorem filterMap_trim_toList {ts : List String}
    (h : ∀ t ∈ ts, IsTrimmed t.toList ∧ t.toList ≠ []) :
    ((ts.map String.toList).map trim).filterMap (fun name ↦
      if name.isEmpty then none else some (String.ofList name)) = ts := by
  induction ts with
  | nil => rfl
  | cons t ts ih =>
    obtain ⟨htrimmed, hne⟩ := h t (List.mem_cons_self ..)
    rw [List.map_cons, List.map_cons, htrimmed.trim_eq, List.filterMap_cons,
      if_neg (by simpa using hne), String.ofList_toList,
      ih fun t ht ↦ h t (List.mem_cons_of_mem _ ht)]

/-- Names that hold no comma are found again where they are joined by commas. -/
theorem targets_intercalate {ts : List String} (hts : ts ≠ [])
    (htrimmed : ∀ t ∈ ts, IsTrimmed t.toList) (h : ∀ t ∈ ts, t.toList ≠ [] ∧ ',' ∉ t.toList) :
    Statement.targets .across (' ' :: [','].intercalate (ts.map String.toList)) = ts := by
  obtain ⟨t, ts, rfl⟩ := List.exists_cons_of_ne_nil hts
  have hcons : ' ' :: [','].intercalate ((t :: ts).map String.toList) =
      [','].intercalate ((' ' :: t.toList) :: ts.map String.toList) := by
    cases ts with
    | nil => simp
    | cons u ts => simp
  have hcomma : ∀ l ∈ (' ' :: t.toList) :: ts.map String.toList, ',' ∉ l := by
    intro l hl
    rcases List.mem_cons.1 hl with rfl | hl
    · simpa using (h t (List.mem_cons_self ..)).2
    · obtain ⟨u, hu, rfl⟩ := List.mem_map.1 hl
      exact (h u (List.mem_cons_of_mem _ hu)).2
  rw [Statement.targets, hcons, List.splitOn_intercalate ',' hcomma (List.cons_ne_nil _ _),
    List.map_cons, trim_cons_of_isBlank (by decide)]
  exact filterMap_trim_toList fun u hu ↦ ⟨htrimmed u hu, (h u hu).1⟩

/-- **The targets of a note are read from what is written for them.** -/
theorem IsReadable.targets_targetsText (h : n.IsReadable) :
    Statement.targets n.place (' ' :: n.targetsText) = n.targets := by
  by_cases hplace : n.place = .across
  · rw [hplace]
    by_cases hts : n.targets = []
    · have hnil : [','].intercalate (n.targets.map String.toList) = [] := by simp [hts]
      rw [targetsText_of_eq_nil hnil, if_pos hplace, hts]
      decide +kernel
    · have hne : [','].intercalate (n.targets.map String.toList) ≠ [] := by
        obtain ⟨t, ts, hts⟩ := List.exists_cons_of_ne_nil hts
        have ht := (h.across hplace t (hts ▸ List.mem_cons_self ..)).1
        rw [hts]
        cases ts with
        | nil => simpa using ht
        | cons u ts => simp
      rw [targetsText_of_ne_nil hne]
      exact targets_intercalate hts (fun t ht ↦ (h.target t ht).1.trimmed) (h.across hplace)
  · obtain ⟨t, ht⟩ := h.beside hplace
    have htrim : trim (' ' :: n.targetsText) = t.toList := by
      have htrimmed := (h.target t (ht ▸ List.mem_cons_self ..)).1.trimmed
      have hpart : [','].intercalate (n.targets.map String.toList) = t.toList := by simp [ht]
      rw [trim_cons_of_isBlank (by decide)]
      by_cases hnil : t.toList = []
      · rw [targetsText_of_eq_nil (hpart.trans hnil), if_neg hplace, hnil]
        decide
      · rw [targetsText_of_ne_nil (hpart.symm ▸ hnil), hpart, htrimmed.trim_eq]
    have htargets : Statement.targets n.place (' ' :: n.targetsText) =
        [String.ofList (trim (' ' :: n.targetsText))] := by
      cases hn : n.place with
      | across => contradiction
      | rightOf | leftOf => rfl
    rw [htargets, htrim, String.ofList_toList, ht]

end Note

/-! ## Reading undoes writing -/

theorem Participant.IsReadable.isTrimmed_line {p : Participant} (h : p.IsReadable) :
    IsTrimmed p.line := by
  constructor
  · intro c hc
    have hhead : p.line.head? = some 'p' := rfl
    rw [hhead] at hc
    obtain rfl := Option.some.inj hc
    decide
  · intro c hc
    refine h.label.trimmed.last c ?_
    obtain ⟨d, t, ht⟩ := List.exists_cons_of_ne_nil h.label_ne_nil
    unfold Participant.line at hc
    rw [ht] at hc ⊢
    simpa [List.getLast?_append, List.getLast?_cons, -String.reduceToList] using hc

theorem Note.trim_line (n : Note) :
    trim n.line = "Note".toList ++ ' ' :: (n.place.words.toList ++
      (' ' :: n.targetsText ++ ':' :: trimEnd (' ' :: n.text.toList))) := by
  have hhead : ∀ d, ("Note".toList ++ ' ' :: (n.place.words.toList ++
      ' ' :: n.targetsText)).head? = some d → isBlank d = false := by
    intro d hd
    obtain rfl : 'N' = d := Option.some.inj hd
    decide
  simpa only [Note.line, List.append_assoc, List.cons_append] using
    trim_append_cons hhead (by decide) (' ' :: n.text.toList)

theorem trim_loopLine (label : String) :
    trim (loopLine label) = "loop".toList ++ trimEnd (' ' :: label.toList) := by
  have hloop : IsTrimmed "loop".toList := by
    constructor
    · intro c hc
      obtain rfl : 'l' = c := Option.some.inj hc
      decide
    · intro c hc
      obtain rfl : 'p' = c := Option.some.inj hc
      decide
  rw [loopLine]
  split
  · rename_i hlabel
    rw [hlabel, hloop.trim_eq]
    decide
  · exact trim_append_of_isTrimmed hloop (by decide) _

theorem Message.IsReadable.trim_line {m : Message} (h : m.IsReadable) :
    trim m.line = m.sender.toList ++ (m.arrow.token.toList ++
      (m.receiver.toList ++ ':' :: trimEnd (' ' :: m.text.toList))) := by
  have hhead : ∀ d, (m.sender.toList ++ (m.arrow.token.toList ++ m.receiver.toList)).head? =
      some d → isBlank d = false :=
    h.sender.word.stopsBlank_append
  simpa only [Message.line, List.append_assoc] using
    trim_append_cons hhead (by decide) (' ' :: m.text.toList)

/-- **A readable statement is read from its line**, trimmed as the lines of a source are. -/
theorem ofLine_trim_line {s : Statement} (h : s.IsReadable) :
    Statement.ofLine (trim s.line) = s := by
  cases s with
  | participant p =>
    rw [Statement.line, h.isTrimmed_line.trim_eq]
    unfold Participant.line
    rw [Statement.ofLine_participant h.id.word h.label.trimmed h.label_ne_nil,
      String.ofList_toList, String.ofList_toList]
  | note n =>
    obtain ⟨d, part, hpart⟩ := n.exists_cons_targetsText
    have htrim := n.trim_line
    have hcolon : ':' ∉ ' ' :: n.targetsText := by simpa using h.colon_notMem
    have htargets := h.targets_targetsText
    rw [hpart] at htrim hcolon htargets
    rw [Statement.line, htrim, Statement.ofLine_note n.place (by decide) hcolon, htargets,
      trim_trimEnd_blank_cons h.text.trimmed, String.ofList_toList]
  | openLoop label =>
    rw [Statement.line, trim_loopLine, Statement.ofLine_loop, trim_trimEnd_blank_cons h.trimmed,
      String.ofList_toList]
    intro c hc
    obtain rfl : ' ' = c := by simpa using head?_trimEnd hc
    decide
  | message m =>
    rw [Statement.line, h.trim_line, Statement.ofLine_message h.sender.word m.arrow h.receiver.word,
      trim_trimEnd_blank_cons h.text.trimmed, String.ofList_toList, String.ofList_toList,
      String.ofList_toList]
  | closeLoop | comment | unrecognized => decide +kernel

end SequenceChart
