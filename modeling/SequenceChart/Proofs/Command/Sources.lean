import SequenceChart.Proofs.Command.Delivery
import SequenceChart.Proofs.Drawio.Writable

/-!
# What a command makes of its source

A command is named a source, and whatever is there, or is not there, decides how it goes on
(`answersTo_withSource`).  From a text on nothing is left that could go wrong, if the picture has a
size, its place can be written and what is said is heard.  So the stages of the draw.io command are
followed here to the end, from what it was told.

A fault of the operating system is reported, with status 1.  A file that is no text is no such
fault: it breaks a command off.

## Main definitions

* `FileTree.IsWritable` — a path at which any file can be written.
* `Host.Hears` — what has to be heard of a run.

## Main statements

* `run_deliver_of_isWritable` — the last stage.
* `run_convertDrawio_of_eq_ok`, `run_convertDrawio_of_eq_error` — what comes of a text.
* `commands_answerTo_source` — both commands, for every source.
-/

set_option autoImplicit false
namespace SequenceChart

/-- Any file can be written at a path, once the directories around it are made. -/
structure FileTree.IsWritable (t : FileTree) (host : Host) (p : PathName) : Prop where
  isPath : p.holdsNull = false
  around : (t.makeDirectories p.parent).2 = none
  write : ∀ c, ((t.makeDirectories p.parent).1.write host.tears p c).2 = none

/-- Every text is heard, and so is the line that says where the picture is. -/
structure Host.Hears (host : Host) (kind : String) (p : PathName) : Prop where
  text : ∀ s : String, host.interrupts (RawText.ofString s) = none
  line : host.interrupts (announcement kind p) = none

/-! ## The output -/

theorem PathName.holdsNull_parent {p : PathName} (h : p.holdsNull = false) :
    p.parent.holdsNull = false := by
  rw [holdsNull, List.any_eq_false] at h ⊢
  exact fun name hname ↦ h name (p.names.dropLast_subset hname)

/-- **A picture is written if its place can be**, and the command ends well if it can say so. -/
theorem run_deliver_of_isWritable {host : Host} {t : FileTree} {path : PathName} {kind : String}
    (h : t.IsWritable host path) (hline : host.interrupts (announcement kind path) = none)
    (topic : String) (content : Content) :
    ((deliver topic kind path content).run host t).ending = .ok 0 := by
  have haround := h.around
  have hwrite := h.write content
  rw [deliver, ifPath_of_holdsNull_eq_false (PathName.holdsNull_parent h.isPath), Script.run]
  cases hmade : t.makeDirectories path.parent with
  | mk after error =>
    rw [hmade] at haround hwrite
    cases haround
    dsimp only at hwrite ⊢
    rw [ifPath_of_holdsNull_eq_false h.isPath, Script.run]
    cases hwritten : after.write host.tears path content with
    | mk final error =>
      rw [hwritten] at hwrite
      cases hwrite
      dsimp only
      rw [run_announce_of_heard hline]
      rfl

section

variable {now : Timestamp} {a : Arguments} {text : String} {host : Host} {t : FileTree}
  (hspacing : a.spacing ≠ .blank)

include hspacing

/-- A source that has a document is converted, and the document is written if its place can be. -/
theorem run_convertDrawio_of_eq_ok {xml : String}
    (h : convertToDrawio now a.settings text = .ok xml) {path : PathName}
    (hpath : a.outputPath? defaultDocument = some path) (hwritable : t.IsWritable host path)
    (hhears : host.Hears "XML" path) :
    ((convertDrawio now a text).run host t).ending = .ok 0 := by
  rw [convertToDrawio] at h
  rw [convertDrawio]
  obtain ⟨reading, drawing, hpicture⟩ :=
    (withPicture_eq_or a text _).resolve_right fun hblank ↦ hspacing hblank.1
  rw [hpicture, h, Script.run, Script.run]
  dsimp only
  rw [run_unless_quiet fun _ ↦ hhears.text _]
  obtain ⟨path', hpath', hplaced⟩ | ⟨hnone, -⟩ := withOutput_eq_or a defaultDocument _
  · obtain rfl : path' = path := Option.some.inj (hpath'.symm.trans hpath)
    rw [hplaced]
    exact run_deliver_of_isWritable hwritable hhears.line _ _
  · rw [hnone] at hpath
    cases hpath

/-- A source that has no document breaks the command off. -/
theorem run_convertDrawio_of_eq_error {cause : Failure}
    (h : convertToDrawio now a.settings text = .error cause) :
    ∃ complaints, (convertDrawio now a text).run host t = ⟨.error cause, [], complaints, t⟩ := by
  rw [convertToDrawio] at h
  rw [convertDrawio]
  obtain ⟨reading, drawing, hpicture⟩ :=
    (withPicture_eq_or a text _).resolve_right fun hblank ↦ hspacing hblank.1
  rw [hpicture, h]
  exact ⟨_, rfl⟩

end

/-! ## The commands -/

/-- **A source is reported, converted, or no text.**  A command is named a source, the draw.io
command also a place for the picture that can be written, no spacing was left blank, and what is
said is heard.  What is then at the path of the source decides what comes of the run:

* if nothing can be read there, that is logged as an error, the status is 1 and no file is written;
* if what is read there is not UTF-8, the command breaks off without a word;
* from a text the draw.io command makes its document, writes it and ends with status 0, unless the
  arithmetic of the picture leaves the page without a size.  The other command has read the text and
  goes on to convert it.

In exact arithmetic the page of every text has a size. -/
theorem commands_answerTo_source (now : Timestamp) {host : Host} {t : FileTree} {name : RawText}
    (hname : (PathName.ofText name).holdsNull = false)
    {args : List RawText} {a : Arguments} (hargs : drawioInterface.read args = .ok a)
    (hsource : a.source = .value name) (hspacing : a.spacing ≠ .blank) {path : PathName}
    (hpath : a.outputPath? defaultDocument = some path) (hwritable : t.IsWritable host path)
    (hhears : host.Hears "XML" path)
    {deckArgs : List RawText} {b : Arguments} (hdeckArgs : deckInterface.read deckArgs = .ok b)
    (hdeckSource : b.source = .value name) :
    ((drawioCommand now args).run host t).AnswersTo host t "render_sequence_drawio" (.ofText name)
      (fun text ↦
        (((drawioCommand now args).run host t).ending = .ok 0 ∧
          ∃ xml, ((drawioCommand now args).run host t).Delivers host now t a text xml path) ∨
        ∃ cause complaints, convertToDrawio now a.settings text = .error (.notFinite cause) ∧
          (drawioCommand now args).run host t = ⟨.error (.notFinite cause), [], complaints, t⟩) ∧
    ((deckCommand deckArgs).run host t).AnswersTo host t "render_sequence_pptx" (.ofText name)
      (fun text ↦ (deckCommand deckArgs).run host t = (convertDeck b text).run host t) ∧
    ∀ (s : Settings Rat) (text : String), ∃ xml, convertToDrawio now s text = .ok xml := by
  refine ⟨?_, ?_, fun s text ↦ ?_⟩
  · rw [drawioCommand, hargs]
    dsimp only
    rw [hsource]
    refine (answersTo_withSource hname _ _ host t).imp fun s hread hrun ↦ ?_
    rw [hrun]
    cases hdocument : convertToDrawio now a.settings (String.ofList (withLineFeeds s.toList)) with
    | ok xml =>
      have hending := run_convertDrawio_of_eq_ok hspacing hdocument hpath hwritable hhears
      have hhas : t.HasSource host a.source (String.ofList (withLineFeeds s.toList)) := by
        rw [hsource]
        exact ⟨hname, s, hread, rfl⟩
      obtain ⟨xml, path', hdelivers⟩ := delivers_run_convertDrawio hhas hending
      obtain rfl : path' = path := Option.some.inj (hdelivers.output.symm.trans hpath)
      exact .inl ⟨hending, xml, hdelivers⟩
    | error failure =>
      obtain ⟨cause, rfl⟩ := convertToDrawio_eq_error hdocument
      obtain ⟨complaints, hbroken⟩ := run_convertDrawio_of_eq_error hspacing hdocument
      exact .inr ⟨cause, complaints, rfl, hbroken⟩
  · rw [deckCommand, hdeckArgs]
    dsimp only
    rw [hdeckSource]
    exact answersTo_withSource hname _ _ host t
  · obtain ⟨sheet, hsheet⟩ := Sheet.exists_ofLayout_eq_ok (Layout.ofDiagram (Diagram.ofText text) s)
    exact ⟨_, drawioDocument_eq_ok now (Diagram.isWritable_ofText text) hsheet⟩

/-- A terminal that takes UTF-8 takes every text. -/
theorem Host.interrupts_utf8_ofString (pack : Deck → ByteArray) (s : String) :
    (Host.utf8 pack).interrupts (RawText.ofString s) = none := by
  have hnone : ∀ (cs : List Char) (n : Nat), RawText.strayFrom? n (cs.map .char) = none := by
    intro cs
    induction cs with
    | nil => exact fun n ↦ rfl
    | cons c cs ih => exact fun n ↦ ih (n + 1)
  show (RawText.strayFrom? 0 (s.toList.map .char)).map _ = none
  rw [hnone]
  rfl

/-- On such a host a file of the working directory can be written, and it can be said that it is. -/
theorem isWritable_out (pack : Deck → ByteArray) (b : ByteArray) :
    (FileTree.withFlow b).IsWritable (.utf8 pack) (.ofText (RawText.ofString "out")) ∧
      (Host.utf8 pack).Hears "XML" (.ofText (RawText.ofString "out")) := by
  refine ⟨⟨by decide +kernel, rfl, fun _ ↦ rfl⟩, ⟨Host.interrupts_utf8_ofString pack, ?_⟩⟩
  have hline : announcement "XML" (.ofText (RawText.ofString "out")) =
      RawText.ofString "XML written to out\n" := by decide +kernel
  rw [hline, Host.interrupts_utf8_ofString]

theorem read_source_flow : deckInterface.read ["--source", "flow"] =
    .ok ⟨.value "flow", .unsaid, .unsaid, false, false⟩ := by
  let o : OptionUse := ⟨some ⟨.source, ["--source"], ""⟩, "--source", none⟩
  have htokens : deckInterface.tokens ["--source", "flow"] = .ok [.option o, .value "flow"] := rfl
  rw [Interface.read, htokens]
  show takeTokens deckInterface _ _ _ _ = _
  rw [takeTokens]
  rfl

/-- One message, in a file of the working directory. -/
theorem commands_answerTo_source_message :
    let now := Timestamp.ofMicroseconds 0
    let host := Host.utf8 fun _ ↦ .empty
    let t := FileTree.withFlow "A->>B: hi".toUTF8
    let a : Arguments := ⟨.value "flow", .value "out", .unsaid, false, false⟩
    let b : Arguments := ⟨.value "flow", .unsaid, .unsaid, false, false⟩
    let o := (drawioCommand now ["flow", "out"]).run host t
    let text := String.ofList (withLineFeeds "A->>B: hi".toList)
    host.read t (.ofText (RawText.ofString "flow")) = .ok "A->>B: hi".toUTF8 ∧
      t.IsWritable host (.ofText (RawText.ofString "out")) ∧
      host.Hears "XML" (.ofText (RawText.ofString "out")) ∧
      (o.ending = .ok 0 ∧
          (∃ xml, o.Delivers host now t a text xml (.ofText (RawText.ofString "out"))) ∨
        ∃ cause complaints, convertToDrawio now a.settings text = .error (.notFinite cause) ∧
          o = ⟨.error (.notFinite cause), [], complaints, t⟩) ∧
      (deckCommand ["--source", "flow"]).run host t = (convertDeck b text).run host t := by
  intro now host t a b o text
  obtain ⟨hwritable, hhears⟩ := isWritable_out (fun _ ↦ .empty) "A->>B: hi".toUTF8
  have hread : host.read t (.ofText (RawText.ofString "flow")) = .ok "A->>B: hi".toUTF8 := rfl
  have hname : (PathName.ofText (RawText.ofString "flow")).holdsNull = false := by decide +kernel
  have hargs : drawioInterface.read ["flow", "out"] = .ok a := rfl
  have hdeckArgs : deckInterface.read ["--source", "flow"] = .ok b := read_source_flow
  obtain ⟨hdrawio, hdeck, -⟩ :=
    commands_answerTo_source now hname hargs rfl nofun rfl hwritable hhears hdeckArgs rfl
  have hconverted := hdrawio.text "A->>B: hi" hread
  have hpassed := hdeck.text "A->>B: hi" hread
  exact ⟨hread, hwritable, hhears, hconverted, hpassed⟩

/-- A single byte that begins no character: both commands break off. -/
theorem exists_source_not_reported :
    let host := Host.utf8 fun _ ↦ .empty
    let t := FileTree.withFlow ⟨#[0xFF]⟩
    let cause : Failure := .undecodable ⟨.invalidStart, 0xFF, 0, 1⟩
    t.IsWritable host (.ofText (RawText.ofString "out")) ∧
      (∀ now, ((drawioCommand now ["flow", "out"]).run host t).BreaksOff t cause) ∧
      ((deckCommand ["--source", "flow"]).run host t).BreaksOff t cause := by
  intro host t cause
  have hargs : drawioInterface.read ["flow", "out"] =
      .ok ⟨.value "flow", .value "out", .unsaid, false, false⟩ := rfl
  refine ⟨(isWritable_out _ _).1, fun now ↦ ?_, ?_⟩
  · rw [drawioCommand, hargs]
    rfl
  · rw [deckCommand, read_source_flow]
    rfl

end SequenceChart
