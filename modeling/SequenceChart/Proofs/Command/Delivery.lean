import SequenceChart.Proofs.Command.Stages

/-!
# What a command delivers

The draw.io command goes through four stages: the source, the picture, the document and the output.
It ends with status 0 only if all of them went well, and so what such a run leaves is known stage by
stage: the text that was read, the document that was made of it, the file in which the document is
now, and what was said on the way.  A run that finds no source says nothing.

What a run changes is known however it ends: it writes last, so what has become of the one file that
it writes can be told from its ending, and what was to be in that file is the picture of the source.
Status 0 is not to be had for a promise that no other ending changes the file.  The system may break
off a write, and then the old file is gone; and the last line may go unheard, for instance since the
path in it is not UTF-8, and then the new file is there already.  Nor does status 0 mean that there
is a file, where the path leads to a sink.

## Main definitions

* `FileTree.HasSource` — the text that a command works on.
* `Arguments.IsDocumentOf`, `Arguments.IsDeckOf` — the pictures that the commands make of a text.
* `Interface.MakesOfSource` — a picture of the source that a command line names.
* `Outcome.Delivers` — what a run of the draw.io command that went well leaves behind.

## Main statements

* `run_withSource`, `exists_withPicture_eq`, `exists_withOutput_eq`, `run_deliver` — what each stage
  did, seen from a run that ended with status 0.
* `commands_touch_only_output` — what both commands change, and what the draw.io command delivers.
* `exists_output_unheard_torn_lost` — a file that is changed by a run that does not end with status
  0, and a run that ends with status 0 and leaves no file.
-/

set_option autoImplicit false
namespace SequenceChart

/-! ## What a command works with -/

/-- A text is the source of a command: the example if no source is named, and else what the bytes
of a file spell in UTF-8, with a line feed at the end of every line. -/
def FileTree.HasSource (t : FileTree) (host : Host) (source : Entry RawText) (text : String) :
    Prop :=
  match source with
  | .unsaid | .blank => text = exampleSource
  | .value name =>
    (PathName.ofText name).holdsNull = false ∧
      ∃ s : String, host.read t (.ofText name) = .ok s.toUTF8 ∧
        text = String.ofList (withLineFeeds s.toList)

/-- A content is the document of a text, with the spacing and at the time that were given. -/
def Arguments.IsDocumentOf (a : Arguments) (now : Timestamp) (text : String) (c : Content) : Prop :=
  ∃ xml, convertToDrawio now a.settings text = .ok xml ∧ c = .bytes xml.toUTF8

/-- A content is the presentation of a text. -/
def Arguments.IsDeckOf (a : Arguments) (text : String) (c : Content) : Prop :=
  ∃ deck, convertToDeck a.settings text = .ok deck ∧ c = .deck deck

/-- A command line is one to go by, and a content is what `picture` says of its source. -/
def Interface.MakesOfSource (i : Interface) (args : List RawText) (host : Host) (t : FileTree)
    (picture : Arguments → String → Content → Prop) (c : Content) : Prop :=
  ∃ a text, i.read args = .ok a ∧ t.HasSource host a.source text ∧ picture a text c

/-- What a run of the draw.io command leaves if it went well, on a host with a file tree and with
what it was told: at the path for the picture is the document of the source, unless the path leads
to a sink, and the same document was shown unless the command was asked not to. -/
structure Outcome.Delivers (o : Outcome) (host : Host) (now : Timestamp) (t : FileTree)
    (a : Arguments) (text xml : String) (path : PathName) : Prop where
  source : t.HasSource host a.source text
  document : convertToDrawio now a.settings text = .ok xml
  output : a.outputPath? defaultDocument = some path
  file : ¬ o.tree.LeadsToSink path → o.tree.read path = .ok (.bytes xml.toUTF8)
  said : o.said =
    (if a.quiet then [] else RawText.ofString (xml ++ "\n")) ++ announcement "XML" path

/-! ## The stages -/

section

variable {host : Host} {t : FileTree}

/-- A command goes on with its source, or it ends badly without having said or changed anything. -/
theorem run_withSource (topic : String) (source : Entry RawText) (next : String → Script)
    (host : Host) (t : FileTree) :
    (∃ text, t.HasSource host source text ∧
      (withSource topic source next).run host t = (next text).run host t) ∨
    ((withSource topic source next).run host t).said = [] ∧
      ((withSource topic source next).run host t).ending ≠ .ok 0 ∧
      ((withSource topic source next).run host t).tree = t := by
  cases source with
  | unsaid => exact .inl ⟨exampleSource, rfl, rfl⟩
  | blank => exact .inl ⟨exampleSource, rfl, rfl⟩
  | value name =>
    cases hnull : (PathName.ofText name).holdsNull with
    | true =>
      rw [withSource, ifPath_of_holdsNull_eq_true hnull]
      exact .inr ⟨rfl, by simp [Script.run], rfl⟩
    | false =>
      obtain ⟨s, hread, hrun⟩ | hbad := (answersTo_withSource hnull topic next host t).goesOn_or
      · exact .inl ⟨_, ⟨hnull, s, hread, rfl⟩, hrun⟩
      · exact .inr hbad

/-- A command that ends well goes on with the picture, and only complains before. -/
theorem exists_withPicture_eq {a : Arguments} {text : String} {next : Layout Float → Script}
    (h : ((withPicture a text next).run host t).ending = .ok 0) :
    ∃ reading drawing, withPicture a text next = .complain reading
      (.complain drawing (next (Layout.ofDiagram (Diagram.ofText text) a.settings))) := by
  obtain hdrawn | ⟨-, reading, hbroken⟩ := withPicture_eq_or a text next
  · exact hdrawn
  · rw [hbroken] at h
    cases h

/-- A command that ends well goes on with the path of the picture. -/
theorem exists_withOutput_eq {a : Arguments} {standard : String} {next : PathName → Script}
    (h : ((withOutput standard a.output next).run host t).ending = .ok 0) :
    ∃ path, a.outputPath? standard = some path ∧
      withOutput standard a.output next = next path := by
  obtain hplaced | ⟨-, hbroken⟩ := withOutput_eq_or a standard next
  · exact hplaced
  · rw [hbroken] at h
    cases h

/-- A command that ends well goes on with any path. -/
theorem ifPath_eq {p : PathName} {next : Script}
    (h : ((ifPath p next).run host t).ending = .ok 0) : ifPath p next = next := by
  cases hnull : p.holdsNull with
  | false => exact ifPath_of_holdsNull_eq_false hnull next
  | true =>
    rw [ifPath_of_holdsNull_eq_true hnull] at h
    cases h

/-- A command that ends well and was to show a document has shown it. -/
theorem interrupts_eq_none_unless_quiet {quiet : Bool} {text : RawText} {rest : Script}
    (h : ((if quiet then rest else announce text rest).run host t).ending = .ok 0) :
    quiet = false → host.interrupts text = none := by
  rintro rfl
  exact interrupts_eq_none_of_ending h

/-- A command that ends well has written the picture and said so. -/
theorem run_deliver {topic kind : String} {path : PathName} {content : Content}
    (h : ((deliver topic kind path content).run host t).ending = .ok 0) :
    (¬ ((deliver topic kind path content).run host t).tree.LeadsToSink path →
        ((deliver topic kind path content).run host t).tree.read path = .ok content) ∧
      ((deliver topic kind path content).run host t).said = announcement kind path := by
  rw [deliver] at h ⊢
  have hparent := ifPath_eq h
  rw [hparent, Script.run] at h ⊢
  cases hmade : t.makeDirectories path.parent with
  | mk around error =>
    rw [hmade] at h
    cases error with
    | some e => cases h
    | none =>
      dsimp only at h ⊢
      have hpath := ifPath_eq h
      rw [hpath, Script.run] at h ⊢
      obtain ⟨e, hwrite⟩ | ⟨place, hplace, hfree, ⟨-, hwrite⟩ | ⟨tear, -, hwrite⟩⟩ :=
        around.write_cases host.tears path content
      · rw [hwrite] at h
        cases h
      · rw [hwrite] at h ⊢
        have hheard := interrupts_eq_none_of_ending h
        dsimp only
        rw [run_announce_of_heard hheard]
        exact ⟨FileTree.read_fill hplace hfree content, List.append_nil _⟩
      · rw [hwrite] at h
        cases h

end

/-! ## What is written -/

theorem writesLast_convertDrawio (now : Timestamp) (a : Arguments) (text : String) :
    (convertDrawio now a text).WritesLast (announcement "XML") (a.outputPath? defaultDocument)
      (a.IsDocumentOf now text) := by
  rw [convertDrawio]
  obtain ⟨reading, drawing, hpicture⟩ | ⟨-, reading, hbroken⟩ := withPicture_eq_or a text _
  · rw [hpicture]
    refine .complain _ (.complain _ ?_)
    cases hdocument : drawioDocument now (Layout.ofDiagram (Diagram.ofText text) a.settings) with
    | error cause => exact .fail cause
    | ok xml =>
      have hrest : (withOutput defaultDocument a.output fun path ↦
          deliver "render_sequence_drawio" "XML" path (.bytes xml.toUTF8)).WritesLast
          (announcement "XML") (a.outputPath? defaultDocument) (a.IsDocumentOf now text) :=
        writesLast_withOutput a _ fun path ↦ writesLast_deliver _ _ path ⟨xml, hdocument, rfl⟩
      dsimp only
      split
      · exact hrest
      · exact writesLast_announce _ hrest
  · rw [hbroken]
    exact .complain _ (.fail _)

theorem writesLast_convertDeck (a : Arguments) (text : String) :
    (convertDeck a text).WritesLast (announcement "PowerPoint") (a.outputPath? defaultDeck)
      (a.IsDeckOf text) := by
  rw [convertDeck]
  obtain ⟨reading, drawing, hpicture⟩ | ⟨-, reading, hbroken⟩ := withPicture_eq_or a text _
  · rw [hpicture]
    refine .complain _ (.complain _ ?_)
    cases hdeck : deckOfLayout (Layout.ofDiagram (Diagram.ofText text) a.settings) with
    | error cause => exact .fail cause
    | ok deck =>
      exact writesLast_withOutput a _ fun path ↦ writesLast_deliver _ _ path ⟨deck, hdeck, rfl⟩
  · rw [hbroken]
    exact .complain _ (.fail _)

section

variable (host : Host) (t : FileTree)

/-- What a command changes is what it changes once it has its source. -/
theorem changesOnly_withSource {topic : String} {source : Entry RawText} {next : String → Script}
    {line : PathName → RawText} {output : Option PathName} {picture : Content → Prop}
    (h : ∀ text, t.HasSource host source text →
      ((next text).run host t).ChangesOnly host t line output picture) :
    ((withSource topic source next).run host t).ChangesOnly host t line output picture := by
  obtain ⟨text, hsource, hrun⟩ | hbad := run_withSource topic source next host t
  · rw [hrun]
    exact h text hsource
  · exact .of_tree_eq hbad.2.2

/-- What the draw.io command changes. -/
theorem changesOnly_run_drawioCommand (now : Timestamp) (args : List RawText) :
    ((drawioCommand now args).run host t).ChangesOnly host t (announcement "XML")
      (drawioInterface.outputPath? defaultDocument args)
      (drawioInterface.MakesOfSource args host t (·.IsDocumentOf now)) := by
  rw [drawioCommand, Interface.outputPath?]
  cases hargs : drawioInterface.read args with
  | error refusal => exact .of_tree_eq (by cases refusal <;> rfl)
  | ok a =>
    refine changesOnly_withSource host t fun text hsource ↦ ?_
    exact ((writesLast_convertDrawio now a text).changesOnly_run t).imp fun c hc ↦
      ⟨a, text, hargs, hsource, hc⟩

/-- What the presentation command changes. -/
theorem changesOnly_run_deckCommand (args : List RawText) :
    ((deckCommand args).run host t).ChangesOnly host t (announcement "PowerPoint")
      (deckInterface.outputPath? defaultDeck args)
      (deckInterface.MakesOfSource args host t (·.IsDeckOf)) := by
  rw [deckCommand, Interface.outputPath?]
  cases hargs : deckInterface.read args with
  | error refusal => exact .of_tree_eq (by cases refusal <;> rfl)
  | ok a =>
    refine changesOnly_withSource host t fun text hsource ↦ ?_
    exact ((writesLast_convertDeck a text).changesOnly_run t).imp fun c hc ↦
      ⟨a, text, hargs, hsource, hc⟩

end

/-! ## The commands -/

/-- What a run of the draw.io command leaves that has its source and goes well. -/
theorem delivers_run_convertDrawio {now : Timestamp} {a : Arguments} {text : String} {host : Host}
    {t : FileTree} (hsource : t.HasSource host a.source text)
    (h : ((convertDrawio now a text).run host t).ending = .ok 0) :
    ∃ xml path, ((convertDrawio now a text).run host t).Delivers host now t a text xml path := by
  rw [convertDrawio] at h ⊢
  obtain ⟨reading, drawing, hpicture⟩ := exists_withPicture_eq h
  rw [hpicture, Script.run, Script.run] at h ⊢
  dsimp only at h ⊢
  cases hdocument : drawioDocument now (Layout.ofDiagram (Diagram.ofText text) a.settings) with
  | error cause =>
    rw [hdocument] at h
    cases h
  | ok xml =>
    rw [hdocument] at h
    dsimp only at h ⊢
    have hshown := interrupts_eq_none_unless_quiet h
    rw [run_unless_quiet hshown] at h ⊢
    dsimp only at h ⊢
    obtain ⟨path, hpath, houtput⟩ := exists_withOutput_eq h
    rw [houtput] at h ⊢
    obtain ⟨hfile, hsaid⟩ := run_deliver h
    exact ⟨xml, path, hsource, hdocument, hpath, hfile, by rw [hsaid]⟩

/-- **Both commands touch only their output.**  Whatever they are told, whatever files there are and
whatever the host does, a run leaves every file as it was, but for the one that the path for the
picture leads to.  That one it leaves as it was as well, unless it has come to write the picture of
its source there, which leaves it in one of three ways: the picture is in it, and the run ends with
status 0; the picture is in it, but the line that says so is not heard, and the run breaks off; or
the system breaks off the write, and the run ends with status 1.

If the draw.io command has arguments it can go by and ends with status 0, then at that path, unless
it leads to a sink, is the document of its source, with the spacing and the time it was given, and
the same document is what it has shown, unless it was asked not to.  If there is no source that can
be read, then neither command says anything, and neither ends with status 0.

A call for help ends with status 0 as well, but it is no run that works on a source: it is among the
command lines that `Interface.read` refuses, for which there is no path for a picture, so such a run
changes no file. -/
theorem commands_touch_only_output (host : Host) (now : Timestamp) (args : List RawText)
    (t : FileTree) :
    ((drawioCommand now args).run host t).ChangesOnly host t (announcement "XML")
        (drawioInterface.outputPath? defaultDocument args)
        (drawioInterface.MakesOfSource args host t (·.IsDocumentOf now)) ∧
      ((deckCommand args).run host t).ChangesOnly host t (announcement "PowerPoint")
        (deckInterface.outputPath? defaultDeck args)
        (deckInterface.MakesOfSource args host t (·.IsDeckOf)) ∧
      (∀ a, drawioInterface.read args = .ok a →
        (((drawioCommand now args).run host t).ending = .ok 0 →
          ∃ text xml path,
            ((drawioCommand now args).run host t).Delivers host now t a text xml path) ∧
        ((∀ text, ¬ t.HasSource host a.source text) →
          ((drawioCommand now args).run host t).said = [] ∧
            ((drawioCommand now args).run host t).ending ≠ .ok 0)) ∧
      ∀ a, deckInterface.read args = .ok a → (∀ text, ¬ t.HasSource host a.source text) →
        ((deckCommand args).run host t).said = [] ∧
          ((deckCommand args).run host t).ending ≠ .ok 0 := by
  refine ⟨changesOnly_run_drawioCommand host t now args, changesOnly_run_deckCommand host t args,
    fun a ha ↦ ?_, fun a ha hnone ↦ ?_⟩
  · rw [drawioCommand, ha]
    dsimp only
    obtain ⟨text, hsource, hrun⟩ | ⟨hsaid, hending, -⟩ :=
      run_withSource "render_sequence_drawio" a.source (convertDrawio now a) host t
    · rw [hrun]
      exact ⟨fun h ↦ ⟨text, delivers_run_convertDrawio hsource h⟩,
        fun hnone ↦ absurd hsource (hnone text)⟩
    · exact ⟨fun h ↦ absurd h hending, fun _ ↦ ⟨hsaid, hending⟩⟩
  · rw [deckCommand, ha]
    obtain ⟨text, hsource, -⟩ | ⟨hsaid, hending, -⟩ :=
      run_withSource "render_sequence_pptx" a.source (convertDeck a) host t
    · exact absurd hsource (hnone text)
    · exact ⟨hsaid, hending⟩

/-- A working directory with one file in it, and a sink elsewhere. -/
def FileTree.withFlow (b : ByteArray) : FileTree where
  home := ["work"]
  nodes := [(["flow", "work"], .file (.bytes b)), (["dev"], .directory), (["null", "dev"], .sink)]

/-- A host without room for any file. -/
def Host.full : Host where
  interrupts _ := none
  tears _ _ := some ⟨.bytes .empty, ⟨28, "No space left on device"⟩⟩
  pack _ := .empty

/-- **A file can be changed by a run that does not end with status 0**: the path has a byte in it
that belongs to no character, so a terminal that takes UTF-8 refuses the line that says where the
document is; or there is no room, and the old file, here the source itself, is gone.  **And status 0
does not mean that there is a document**, if what is written is gone. -/
theorem exists_output_unheard_torn_lost :
    let now := Timestamp.ofMicroseconds 0
    let host := Host.utf8 fun _ ↦ .empty
    let t := FileTree.withFlow "A->>B: hi".toUTF8
    let out : RawText := RawText.ofString "out" ++ [.stray 127]
    let unheard := (drawioCommand now ["flow", out, "--quiet"]).run host t
    let torn := (drawioCommand now ["flow", "flow", "--quiet"]).run .full t
    let lost := (drawioCommand now ["flow", "/dev/null", "--quiet"]).run host t
    (unheard.ending = .error (.unencodable ⟨127, 18, 19⟩) ∧
      t.file? [out, "work"] = none ∧ unheard.tree.file? [out, "work"] ≠ none) ∧
    (torn.ending = .ok 1 ∧
      t.file? ["flow", "work"] = some (.bytes "A->>B: hi".toUTF8) ∧
      torn.tree.file? ["flow", "work"] = some (.bytes .empty)) ∧
    lost.ending = .ok 0 ∧
      ∃ xml, convertToDrawio now (Settings.standard : Settings Float) "A->>B: hi" = .ok xml ∧
        lost.tree.read (.ofText (RawText.ofString "/dev/null")) ≠ .ok (.bytes xml.toUTF8) := by
  intro now host t out unheard torn lost
  have hunheard : unheard.ending = .error (.unencodable ⟨127, 18, 19⟩) := by decide +kernel
  have htorn : torn.ending = .ok 1 := by decide +kernel
  have hlost : lost.ending = .ok 0 := by decide +kernel
  have hgone : lost.tree.read (.ofText (RawText.ofString "/dev/null")) = .ok (.bytes .empty) := by
    decide +kernel
  have hdocument : (convertToDrawio now (Settings.standard : Settings Float)
      "A->>B: hi").toOption.any (·.toUTF8 ≠ .empty) = true := by decide +kernel
  refine ⟨⟨hunheard, ?_, ?_⟩, ⟨htorn, ?_, ?_⟩, hlost, ?_⟩
  · decide +kernel
  · decide +kernel
  · decide +kernel
  · decide +kernel
  · cases hxml : convertToDrawio now (Settings.standard : Settings Float) "A->>B: hi" with
    | error cause =>
      rw [hxml] at hdocument
      cases hdocument
    | ok xml =>
      rw [hxml] at hdocument
      refine ⟨xml, rfl, fun hread ↦ of_decide_eq_true hdocument ?_⟩
      rw [hgone] at hread
      exact (Content.bytes.inj (Except.ok.inj hread)).symm

end SequenceChart
