import SequenceChart.Diagram.Statement
import SequenceChart.Proofs.Text.Trimming

/-!
# The lines that send a message

A line that sends a message has seven parts: a word, white space, an arrow, white space, a word,
white space and, behind a colon, any text.  A line holds no line feed, so nothing is asked of that
text.  `MessageForm` holds the parts together with what makes them parts, so the grammar is the
range of `MessageForm.line`.

The reader goes through a line once and never goes back.  A reader that tries the parts out may cut
a word or white space short, and it may come upon the arrows in another order; `messageWays` lists
all that it can find, in the order in which it finds it.  The two agree because the grammar leaves
no choice: at the end of each part the next character tells that the part is over.  A word ends at
white space, a dash or a colon, white space ends at whatever is none, and an arrow is not continued
since neither a word nor white space begins with `>`.  So a line has one form at most
(`line_injective`), and whoever finds one has found the one that the reader takes.

## Main definitions

* `MessageForm` — the parts of a line that sends a message.
* `messageWays` — all forms of a line, for arrows that are tried in a given order.

## Main statements

* `MessageForm.line_injective` — a line has one form at most.
* `mem_messageWays_iff` — trying out finds the forms of a line and nothing else.
* `message?_eq_some_iff_form` — the reader takes the lines of the grammar, and takes them as anyone
  does who tries the parts out.
* `MessageForm.ofLine_line` — such a line is no other statement, unless it begins with a loop.
-/

set_option autoImplicit false
namespace SequenceChart

/-! ## Arrows -/

namespace Arrow

theorem token_eq_cons (a : Arrow) : ∃ t, a.token.toList = '-' :: t := by
  cases a <;> exact ⟨_, rfl⟩

/-- An arrow is read back in front of anything that does not make it longer. -/
theorem take?_append (a : Arrow) {rest : List Char} (h : ∀ c, rest.head? = some c → c ≠ '>') :
    take? (a.token.toList ++ rest) = some (a, rest) := by
  cases rest with
  | nil => cases a <;> rfl
  | cons c rest =>
    have hc := Ne.symm (h c rfl)
    cases a <;> simp [take?, longestFirst, token, List.isPrefixOf?, hc]

theorem eq_of_take? {s rest : List Char} {a : Arrow} (h : take? s = some (a, rest)) :
    s = a.token.toList ++ rest := by
  obtain ⟨b, -, hb⟩ := List.exists_of_findSome?_eq_some h
  obtain ⟨r, hr, heq⟩ := Option.map_eq_some_iff.1 hb
  cases heq
  exact eq_append_of_isPrefixOf? hr

end Arrow

/-! ## The grammar -/

/-- The parts of a line that sends a message, from left to right but for what is known of them. -/
@[ext] structure MessageForm where
  /-- The name of the sender. -/
  sender : List Char
  /-- The white space in front of the arrow. -/
  beforeArrow : List Char
  /-- The arrow. -/
  arrow : Arrow
  /-- The white space behind the arrow. -/
  afterArrow : List Char
  /-- The name of the receiver. -/
  receiver : List Char
  /-- The white space in front of the colon. -/
  beforeColon : List Char
  /-- What follows the colon. -/
  text : List Char
  /-- The sender is named by a word. -/
  isWordText_sender : IsWordText sender
  /-- So is the receiver. -/
  isWordText_receiver : IsWordText receiver
  /-- In front of the arrow is nothing but white space. -/
  isBlankText_beforeArrow : IsBlankText beforeArrow
  /-- Nor is there behind it. -/
  isBlankText_afterArrow : IsBlankText afterArrow
  /-- Nor in front of the colon. -/
  isBlankText_beforeColon : IsBlankText beforeColon

namespace MessageForm

/-- What follows the receiver. -/
def ending (f : MessageForm) : List Char :=
  f.beforeColon ++ ':' :: f.text

/-- What follows the arrow. -/
def target (f : MessageForm) : List Char :=
  f.afterArrow ++ (f.receiver ++ f.ending)

/-- What follows the white space behind the sender. -/
def pointer (f : MessageForm) : List Char :=
  f.arrow.token.toList ++ f.target

/-- The line with the given parts. -/
def line (f : MessageForm) : List Char :=
  f.sender ++ (f.beforeArrow ++ f.pointer)

/-- The message that a line with the given parts sends. -/
def message (f : MessageForm) : Message where
  sender := String.ofList f.sender
  receiver := String.ofList f.receiver
  text := String.ofList (trim f.text)
  arrow := f.arrow

variable (f : MessageForm)

/-! ### Where the parts end -/

theorem stopsWord_ending : StopsWord f.ending :=
  f.isBlankText_beforeColon.stopsWord_append (stopsWord_cons (by decide +kernel))

theorem stopsBlank_colon : StopsBlank (':' :: f.text) :=
  stopsBlank_cons (by decide)

theorem head?_target_ne : ∀ c, f.target.head? = some c → c ≠ '>' := by
  rintro c hc rfl
  rw [target] at hc
  cases hblanks : f.afterArrow with
  | nil =>
    obtain ⟨d, t, hd, hword⟩ := f.isWordText_receiver.exists_cons
    rw [hblanks, hd] at hc
    obtain rfl : d = '>' := by simpa using hc
    revert hword
    decide +kernel
  | cons d blanks =>
    have hblank := f.isBlankText_afterArrow d (hblanks ▸ List.mem_cons_self ..)
    rw [hblanks] at hc
    obtain rfl : d = '>' := by simpa using hc
    revert hblank
    decide

theorem exists_pointer_eq_cons : ∃ t, f.pointer = '-' :: t := by
  obtain ⟨t, ht⟩ := f.arrow.token_eq_cons
  exact ⟨t ++ f.target, by rw [pointer, ht, List.cons_append]⟩

theorem stopsBlank_pointer : StopsBlank f.pointer := by
  obtain ⟨t, ht⟩ := f.exists_pointer_eq_cons
  exact ht ▸ stopsBlank_cons (by decide)

theorem stopsWord_sender : StopsWord (f.beforeArrow ++ f.pointer) := by
  obtain ⟨t, ht⟩ := f.exists_pointer_eq_cons
  exact f.isBlankText_beforeArrow.stopsWord_append (ht ▸ stopsWord_cons (by decide +kernel))

/-! ### Reading the parts -/

theorem takeWord?_line : takeWord? f.line = some (f.sender, f.beforeArrow ++ f.pointer) :=
  takeWord?_append f.isWordText_sender f.stopsWord_sender

theorem trimStart_pointer : trimStart (f.beforeArrow ++ f.pointer) = f.pointer :=
  trimStart_append f.isBlankText_beforeArrow f.stopsBlank_pointer

theorem take?_pointer : Arrow.take? f.pointer = some (f.arrow, f.target) :=
  f.arrow.take?_append f.head?_target_ne

theorem trimStart_target : trimStart f.target = f.receiver ++ f.ending :=
  trimStart_append f.isBlankText_afterArrow f.isWordText_receiver.stopsBlank_append

theorem takeWord?_receiver : takeWord? (f.receiver ++ f.ending) = some (f.receiver, f.ending) :=
  takeWord?_append f.isWordText_receiver f.stopsWord_ending

theorem trimStart_ending : trimStart f.ending = ':' :: f.text :=
  trimStart_append f.isBlankText_beforeColon f.stopsBlank_colon

/-- The reader takes every line of the grammar. -/
theorem message?_line : Statement.message? f.line = some f.message := by
  simp only [Statement.message?, takeWord?_line, trimStart_pointer, take?_pointer,
    trimStart_target, takeWord?_receiver, trimStart_ending, Option.bind_eq_bind, Option.bind_some,
    message]

/-- **A line has one form at most**: its parts are cut off one after the other, and each in one way
only. -/
theorem line_injective : Function.Injective line := by
  intro f g h
  have hsender := f.takeWord?_line
  rw [h, g.takeWord?_line, Option.some.injEq, Prod.mk.injEq] at hsender
  obtain ⟨hsender, hrest⟩ := hsender
  obtain ⟨hbefore, hpointer⟩ := append_inj_of_stopsBlank g.isBlankText_beforeArrow
    f.isBlankText_beforeArrow g.stopsBlank_pointer f.stopsBlank_pointer hrest
  have harrow := f.take?_pointer
  rw [← hpointer, g.take?_pointer, Option.some.injEq, Prod.mk.injEq] at harrow
  obtain ⟨harrow, htarget⟩ := harrow
  obtain ⟨hafter, hname⟩ := append_inj_of_stopsBlank g.isBlankText_afterArrow
    f.isBlankText_afterArrow g.isWordText_receiver.stopsBlank_append
    f.isWordText_receiver.stopsBlank_append htarget
  have hreceiver := f.takeWord?_receiver
  rw [← hname, g.takeWord?_receiver, Option.some.injEq, Prod.mk.injEq] at hreceiver
  obtain ⟨hreceiver, hending⟩ := hreceiver
  obtain ⟨hcolon, htext⟩ := append_inj_of_stopsBlank g.isBlankText_beforeColon
    f.isBlankText_beforeColon g.stopsBlank_colon f.stopsBlank_colon hending
  exact MessageForm.ext hsender.symm hbefore.symm harrow.symm hafter.symm hreceiver.symm
    hcolon.symm (List.cons.inj htext).2.symm

end MessageForm

/-- Every line that the reader takes is a line of the grammar. -/
theorem exists_form_of_message? {line : List Char} {m : Message}
    (h : Statement.message? line = some m) : ∃ f : MessageForm, f.line = line ∧ f.message = m := by
  simp only [Statement.message?, Option.bind_eq_bind, Option.bind_eq_some_iff] at h
  obtain ⟨⟨sender, rest₁⟩, h₁, ⟨arrow, rest₂⟩, h₂, ⟨receiver, rest₃⟩, h₃, h⟩ := h
  obtain ⟨rfl, hsender, -⟩ := takeWord?_eq_some_iff.1 h₁
  obtain ⟨before, hbefore, hrest₁⟩ := exists_blanks_append_trimStart rest₁
  obtain ⟨after, hafter, hrest₂⟩ := exists_blanks_append_trimStart rest₂
  obtain ⟨heq, hreceiver, -⟩ := takeWord?_eq_some_iff.1 h₃
  obtain ⟨colon, hcolon, hrest₃⟩ := exists_blanks_append_trimStart rest₃
  split at h
  · next text htext =>
    refine ⟨⟨sender, before, arrow, after, receiver, colon, text, hsender, hreceiver, hbefore,
      hafter, hcolon⟩, ?_, Option.some.inj h⟩
    calc sender ++ (before ++ (arrow.token.toList ++
          (after ++ (receiver ++ (colon ++ ':' :: text)))))
      _ = sender ++ (before ++ (arrow.token.toList ++ rest₂)) := by
        rw [← htext, ← hrest₃, ← heq, ← hrest₂]
      _ = sender ++ rest₁ := by rw [← Arrow.eq_of_take? h₂, ← hrest₁]
  · cases h

/-! ## Trying the parts out -/

/-- All ways to cut a text behind some of the characters of a class that it begins with, the longest
first. -/
def runs (p : Char → Bool) :
    List Char → List ({w : List Char // ∀ c ∈ w, p c = true} × List Char)
  | [] => [(⟨[], nofun⟩, [])]
  | c :: s =>
    if h : p c = true then
      (runs p s).map (fun (w, rest) ↦ (⟨c :: w, List.forall_mem_cons.2 ⟨h, w.2⟩⟩, rest)) ++
        [(⟨[], nofun⟩, c :: s)]
    else [(⟨[], nofun⟩, c :: s)]

/-- All ways to cut a text behind a word, the longest first. -/
def wordRuns (s : List Char) : List ({w : List Char // IsWordText w} × List Char) :=
  (runs isWord s).filterMap fun (w, rest) ↦
    if h : w.1 = [] then none else some (⟨w, h, w.2⟩, rest)

/-- All forms of a line, in the order in which they are found by trying out: a word or white space
is taken as long as can be and then shorter and shorter, and the arrows are tried in the given
order. -/
def messageWays (order : List Arrow) (line : List Char) : List MessageForm :=
  (wordRuns line).flatMap fun (sender, s) ↦
  (runs isBlank s).flatMap fun (beforeArrow, s) ↦
  order.flatMap fun arrow ↦
  (arrow.token.toList.isPrefixOf? s).toList.flatMap fun s ↦
  (runs isBlank s).flatMap fun (afterArrow, s) ↦
  (wordRuns s).flatMap fun (receiver, s) ↦
  (runs isBlank s).flatMap fun (beforeColon, s) ↦
  ([':'].isPrefixOf? s).toList.map fun text ↦
  ⟨sender, beforeArrow, arrow, afterArrow, receiver, beforeColon, text, sender.2, receiver.2,
    beforeArrow.2, afterArrow.2, beforeColon.2⟩

theorem mem_runs_iff {p : Char → Bool} {s rest : List Char}
    {w : {w : List Char // ∀ c ∈ w, p c = true}} : (w, rest) ∈ runs p s ↔ w.1 ++ rest = s := by
  obtain ⟨w, hw⟩ := w
  induction s generalizing w with
  | nil => simp [runs]
  | cons c s ih =>
    rw [runs]
    cases w with
    | nil => split <;> simp
    | cons d w =>
      obtain ⟨hd, hall⟩ := List.forall_mem_cons.1 hw
      split
      · rw [List.cons_append, List.cons.injEq, ← ih w hall, List.mem_append, List.mem_map]
        constructor
        · rintro (⟨⟨v, rest⟩, hv, heq⟩ | h)
          · cases heq
            exact ⟨rfl, hv⟩
          · cases List.mem_singleton.1 h
        · rintro ⟨rfl, h⟩
          exact .inl ⟨_, h, rfl⟩
      · next hc =>
        have hne : d ≠ c := fun h ↦ hc (h ▸ hd)
        simp [hne]

theorem mem_wordRuns_iff {s rest : List Char} {w : {w : List Char // IsWordText w}} :
    (w, rest) ∈ wordRuns s ↔ w.1 ++ rest = s := by
  rw [wordRuns, List.mem_filterMap]
  constructor
  · rintro ⟨⟨v, rest'⟩, hv, heq⟩
    dsimp only at heq
    split at heq
    · cases heq
    · cases heq
      exact mem_runs_iff.1 hv
  · intro h
    exact ⟨(⟨w.1, w.2.all_word⟩, rest), mem_runs_iff.2 h, by simp [w.2.ne_nil]⟩

/-- **Trying out finds the forms of a line and nothing else**, whatever is tried first. -/
theorem mem_messageWays_iff {order : List Arrow} {line : List Char} {f : MessageForm} :
    f ∈ messageWays order line ↔ f.arrow ∈ order ∧ f.line = line := by
  simp only [messageWays, List.mem_flatMap, List.mem_map, Prod.exists, mem_wordRuns_iff,
    mem_runs_iff, Option.mem_toList, List.isPrefixOf?_eq_some_iff_append_eq]
  constructor
  · rintro ⟨sender, _, rfl, before, _, rfl, arrow, harrow, _, rfl, after, _, rfl, receiver, _, rfl,
      colon, _, rfl, text, rfl, rfl⟩
    exact ⟨harrow, rfl⟩
  · rintro ⟨harrow, rfl⟩
    exact ⟨⟨f.sender, f.isWordText_sender⟩, _, rfl, ⟨f.beforeArrow, f.isBlankText_beforeArrow⟩, _,
      rfl, f.arrow, harrow, _, rfl, ⟨f.afterArrow, f.isBlankText_afterArrow⟩, _, rfl,
      ⟨f.receiver, f.isWordText_receiver⟩, _, rfl, ⟨f.beforeColon, f.isBlankText_beforeColon⟩, _,
      rfl, f.text, rfl, rfl⟩

/-- Where all that is found by trying out means what is read, and something is found if anything is
read, what is found first means what is read. -/
theorem head?_map_of_forall {α β : Type} {ways : List α} {meaning : α → β} {r : Option β}
    (h : ∀ way ∈ ways, r = some (meaning way)) (hex : ∀ x, r = some x → ∃ way, way ∈ ways) :
    ways.head?.map meaning = r := by
  cases hways : ways with
  | nil =>
    refine (Option.eq_none_iff_forall_ne_some.2 fun x hx ↦ ?_).symm
    obtain ⟨way, hway⟩ := hex x hx
    exact List.ne_nil_of_mem hway hways
  | cons way others => exact (h way (hways ▸ List.mem_cons_self ..)).symm

/-- What is found first by trying out is what the reader takes. -/
theorem head?_messageWays {order : List Arrow} (horder : ∀ a, a ∈ order) (line : List Char) :
    (messageWays order line).head?.map MessageForm.message = Statement.message? line := by
  refine head?_map_of_forall (fun f hf ↦ ?_) fun m hm ↦ ?_
  · rw [← (mem_messageWays_iff.1 hf).2, f.message?_line]
  · obtain ⟨f, hf, -⟩ := exists_form_of_message? hm
    exact ⟨f, mem_messageWays_iff.2 ⟨horder _, hf⟩⟩

/-- **The reader takes the lines of the grammar, and there is no other way to read them.**  A line
sends a message exactly if it has a form, and then that of the form; a line has one form at most;
and whoever tries the parts out, with the arrows in any order, finds this form and no other, however
often the parts are cut short. -/
theorem message?_eq_some_iff_form (line : List Char) :
    (∀ m, Statement.message? line = some m ↔ ∃ f : MessageForm, f.line = line ∧ f.message = m) ∧
    (∀ f g : MessageForm, f.line = line → g.line = line → f = g) ∧
    ∀ order : List Arrow, (∀ a, a ∈ order) →
      (∀ f, f ∈ messageWays order line ↔ f.line = line) ∧
        (messageWays order line).head?.map MessageForm.message = Statement.message? line := by
  refine ⟨fun m ↦ ⟨exists_form_of_message?, ?_⟩, fun f g hf hg ↦ ?_, fun order horder ↦ ⟨?_, ?_⟩⟩
  · rintro ⟨f, rfl, rfl⟩
    exact f.message?_line
  · exact MessageForm.line_injective (hf.trans hg.symm)
  · intro f
    rw [mem_messageWays_iff, and_iff_right (horder f.arrow)]
  · exact head?_messageWays horder line

/-- An arrow is not cut short, and a receiver may begin with the letter that ends an arrow. -/
example : Statement.message? "A -->>B : a->b: c ".toList = some ⟨"A", "B", "a->b: c", .dashed⟩ ∧
    Statement.message? "A-xxB:".toList = some ⟨"A", "xB", "", .lost⟩ ∧
    Statement.message? "A-x: y".toList = none := by
  decide +kernel

/-! ## No other statement -/

namespace MessageForm

variable (f : MessageForm)

theorem dash_mem_line : '-' ∈ f.line := by
  obtain ⟨t, ht⟩ := f.exists_pointer_eq_cons
  simp [line, ht]

/-- A keyword with white space behind it is in such a line only as the name of the sender. -/
theorem eq_sender_of_keyword {keyword after : List Char} (hkeyword : IsWordText keyword)
    (h : (keyword.isPrefixOf? f.line).bind afterBlanks? = some after) :
    keyword = f.sender ∧ f.beforeArrow ≠ [] ∧ after = f.pointer := by
  obtain ⟨rest, hrest, hafter⟩ := Option.bind_eq_some_iff.1 h
  obtain ⟨c, t, rfl, hc, -⟩ := afterBlanks?_eq_some_iff.1 hafter
  have hstops : StopsWord (c :: t) := stopsWord_cons (isWord_eq_false_of_isBlank hc)
  have htake := takeWord?_append hkeyword hstops
  rw [← eq_append_of_isPrefixOf? hrest, f.takeWord?_line, Option.some.injEq, Prod.mk.injEq] at htake
  obtain ⟨hsender, hbehind⟩ := htake
  refine ⟨hsender.symm, fun hnil ↦ ?_, ?_⟩
  · rw [hnil, List.nil_append] at hbehind
    have hpointer := f.stopsBlank_pointer c (by rw [hbehind, List.head?_cons])
    rw [hc] at hpointer
    cases hpointer
  · rw [eq_trimStart_of_afterBlanks? hafter, ← hbehind, f.trimStart_pointer]

theorem isComment_line : Statement.isComment f.line = false := by
  obtain ⟨c, t, ht, hc⟩ := f.isWordText_sender.exists_cons
  have hne : '%' ≠ c := by
    rintro rfl
    revert hc
    decide +kernel
  simp [Statement.isComment, line, ht, List.isPrefixOf, hne]

theorem participant?_line : Statement.participant? f.line = none := by
  rw [Statement.participant?, Option.bind_eq_bind, ← Option.bind_assoc, Option.bind_eq_none_iff]
  intro after hafter
  obtain ⟨-, -, rfl⟩ := f.eq_sender_of_keyword (by decide +kernel) hafter
  obtain ⟨t, ht⟩ := f.exists_pointer_eq_cons
  rw [ht, takeWord?_cons_of_not_isWord (by decide +kernel)]
  rfl

theorem note?_line : Statement.note? f.line = none := by
  rw [Statement.note?, Option.bind_eq_bind, ← Option.bind_assoc, Option.bind_eq_none_iff]
  intro after hafter
  obtain ⟨-, -, rfl⟩ := f.eq_sender_of_keyword (by decide +kernel) hafter
  obtain ⟨t, ht⟩ := f.exists_pointer_eq_cons
  rw [ht]
  rfl

theorem isCloseLoop_line : Statement.isCloseLoop f.line = false := by
  rw [Statement.isCloseLoop, beq_eq_false_iff_ne]
  intro heq
  have hmem := f.dash_mem_line
  rw [heq] at hmem
  revert hmem
  decide

/-- The sender's name is that of the keyword that begins a loop, and white space follows it as it
follows the keyword. -/
def OpensLoop (f : MessageForm) : Prop :=
  f.sender = "loop".toList ∧ f.beforeArrow ≠ []

theorem openLoop?_line (h : ¬ f.OpensLoop) : Statement.openLoop? f.line = none := by
  cases hstart : "loop".toList.isPrefixOf? f.line with
  | none =>
    rw [Statement.openLoop?, hstart]
    rfl
  | some rest =>
    have hne : rest ≠ [] := by
      rintro rfl
      have hmem := f.dash_mem_line
      rw [eq_append_of_isPrefixOf? hstart] at hmem
      revert hmem
      decide
    have hafter : afterBlanks? rest = none := by
      refine Option.eq_none_iff_forall_ne_some.2 fun after hafter ↦ h ?_
      have hword : IsWordText "loop".toList := by decide +kernel
      obtain ⟨hsender, hbefore, -⟩ :=
        f.eq_sender_of_keyword hword (by rw [hstart, Option.bind_some, hafter])
      exact ⟨hsender.symm, hbefore⟩
    rw [Statement.openLoop?, hstart, Option.bind_eq_bind, Option.bind_some, hafter,
      if_neg (by simpa using hne)]
    rfl

/-- **A line of the grammar sends its message**, whatever its participants are called, unless it
begins with a loop. -/
theorem ofLine_line (h : ¬ f.OpensLoop) : Statement.ofLine f.line = .message f.message := by
  rw [Statement.ofLine, f.isComment_line, f.participant?_line, f.note?_line, f.openLoop?_line h,
    f.isCloseLoop_line, f.message?_line]
  rfl

end MessageForm

end SequenceChart
