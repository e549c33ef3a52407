import SequenceChart.Proofs.Command.Writes
import SequenceChart.Proofs.Text.Decoding

/-!
# The stages of a command

Both commands go through the same stages: the source, the picture, and the place for what is made of
it.  Each stage either goes on or ends the command, and this file says once when it does which.
What comes of a whole command is put together from that, in either direction: followed from what it
was told (`Proofs/Command/Sources.lean`), or seen from how it ended
(`Proofs/Command/Delivery.lean`).

At the first stage a file is read.  The decoder takes just the spellings of texts
(`Utf8.decode_eq_ok_iff`), so a file is a text or none, whatever its bytes are; where there is no
file, the fault is reported, and where the file is no text, the command breaks off.

## Main definitions

* `Outcome.Reports`, `Outcome.BreaksOff` — the two ways to end badly without a trace in the files.
* `Outcome.AnswersTo` — how a run answers to what is at the path of its source.
* `Arguments.settings` — the measures of the picture.

## Main statements

* `answersTo_withSource`, `withPicture_eq_or`, `withOutput_eq_or` — the stages.
-/

set_option autoImplicit false
namespace SequenceChart

theorem ifPath_of_holdsNull_eq_false {p : PathName} (h : p.holdsNull = false) (next : Script) :
    ifPath p next = next := by
  rw [ifPath, h]
  rfl

theorem ifPath_of_holdsNull_eq_true {p : PathName} (h : p.holdsNull = true) (next : Script) :
    ifPath p next = .fail .nullInPath := by
  rw [ifPath, h]
  rfl

/-! ## The source -/

/-- A run logs one error and ends with status 1.  It says nothing else and leaves the files as they
are. -/
def Outcome.Reports (o : Outcome) (t : FileTree) (topic text : String) : Prop :=
  o = ⟨.ok 1, [], LogEntry.line ⟨.error, topic, text⟩ ++ "\n", t⟩

/-- A run breaks off without a word and leaves the files as they are. -/
def Outcome.BreaksOff (o : Outcome) (t : FileTree) (cause : Failure) : Prop :=
  o = ⟨.error cause, [], "", t⟩

/-- How a run on a host answers to what there is at the path of its source. -/
structure Outcome.AnswersTo (o : Outcome) (host : Host) (t : FileTree) (topic : String)
    (source : PathName) (goesOn : String → Prop) : Prop where
  /-- If nothing can be read there, that is reported. -/
  unreadable : ∀ e, host.read t source = .error e →
    o.Reports t topic ("cannot read " ++ source.text.shown ++ ": " ++ e.message)
  /-- If the bytes that are read there are the spelling of no text, the run breaks off. -/
  undecodable : ∀ b, host.read t source = .ok b → (∀ s : String, b ≠ s.toUTF8) →
    ∃ cause, textOfBytes b = .error (.undecodable cause) ∧ o.BreaksOff t (.undecodable cause)
  /-- If a text is spelled there, the run goes on with it. -/
  text : ∀ s : String, host.read t source = .ok s.toUTF8 →
    goesOn (String.ofList (withLineFeeds s.toList))

namespace Outcome.AnswersTo

variable {o : Outcome} {host : Host} {t : FileTree} {topic : String} {source : PathName}
  {goesOn goesOn' : String → Prop} (h : o.AnswersTo host t topic source goesOn)

include h

theorem imp (himp : ∀ s : String, host.read t source = .ok s.toUTF8 →
      goesOn (String.ofList (withLineFeeds s.toList)) →
        goesOn' (String.ofList (withLineFeeds s.toList))) :
    o.AnswersTo host t topic source goesOn' :=
  ⟨h.unreadable, h.undecodable, fun s hs ↦ himp s hs (h.text s hs)⟩

/-- A run that does not go on with a text has said nothing, does not end with status 0, and leaves
the files as they are. -/
theorem goesOn_or :
    (∃ s : String, host.read t source = .ok s.toUTF8 ∧
      goesOn (String.ofList (withLineFeeds s.toList))) ∨
    o.said = [] ∧ o.ending ≠ .ok 0 ∧ o.tree = t := by
  cases hread : host.read t source with
  | error e =>
    right
    rw [h.unreadable e hread]
    exact ⟨rfl, by simp, rfl⟩
  | ok b =>
    by_cases hspells : ∃ s : String, b = s.toUTF8
    · obtain ⟨s, rfl⟩ := hspells
      exact .inl ⟨s, rfl, h.text s hread⟩
    · obtain ⟨cause, -, hbroken⟩ := h.undecodable b hread fun s hs ↦ hspells ⟨s, hs⟩
      right
      rw [hbroken]
      exact ⟨rfl, by simp, rfl⟩

end Outcome.AnswersTo

theorem run_giveUp (topic text : String) (host : Host) (t : FileTree) :
    ((giveUp topic text).run host t).Reports t topic text := by
  rw [Outcome.Reports, giveUp, Script.run]
  dsimp only [Script.run]
  rw [String.append_empty]

/-- A spelling is read as its text. -/
theorem textOfBytes_toUTF8 (s : String) :
    textOfBytes s.toUTF8 = .ok (String.ofList (withLineFeeds s.toList)) := by
  rw [textOfBytes, Utf8.decode_eq_ok_iff.2 rfl]

/-- The spelling of no text cannot be decoded. -/
theorem exists_textOfBytes_eq_error {b : ByteArray} (h : ∀ s : String, b ≠ s.toUTF8) :
    ∃ cause, textOfBytes b = .error (.undecodable cause) := by
  rw [textOfBytes]
  cases hdecode : Utf8.decode b with
  | error cause => exact ⟨cause, rfl⟩
  | ok s => exact absurd (Utf8.toUTF8_of_decode hdecode).symm (h s)

/-- **Both commands begin alike**: the fate of a run is decided by what is read at the path of its
source. -/
theorem answersTo_withSource {name : RawText} (hname : (PathName.ofText name).holdsNull = false)
    (topic : String) (next : String → Script) (host : Host) (t : FileTree) :
    ((withSource topic (.value name) next).run host t).AnswersTo host t topic (.ofText name)
      fun text ↦ (withSource topic (.value name) next).run host t = (next text).run host t := by
  rw [withSource, ifPath_of_holdsNull_eq_false hname, Script.run]
  constructor
  · intro e he
    rw [he]
    exact run_giveUp _ _ _ _
  · intro b hb hspells
    obtain ⟨cause, hcause⟩ := exists_textOfBytes_eq_error hspells
    refine ⟨cause, hcause, ?_⟩
    rw [hb]
    dsimp only
    rw [hcause]
    rfl
  · intro s hs
    rw [hs]
    dsimp only
    rw [textOfBytes_toUTF8]

/-! ## The picture -/

/-- The measures of the picture. -/
def Arguments.settings (a : Arguments) : Settings Float :=
  match a.spacing with
  | .value x => { Settings.standard with spacing := x }
  | .unsaid | .blank => .standard

/-- The picture is drawn, after complaints, unless it needs a distance of columns that was left
blank. -/
theorem withPicture_eq_or (a : Arguments) (text : String) (next : Layout Float → Script) :
    (∃ reading drawing, withPicture a text next = .complain reading
      (.complain drawing (next (Layout.ofDiagram (Diagram.ofText text) a.settings)))) ∨
    a.spacing = .blank ∧
      ∃ reading, withPicture a text next = .complain reading (.fail .blankSpacing) := by
  rw [withPicture, Arguments.settings]
  cases a.spacing with
  | unsaid | value x => exact .inl ⟨_, _, rfl⟩
  | blank =>
    dsimp only
    split
    · exact .inl ⟨_, _, rfl⟩
    · exact .inr ⟨rfl, _, rfl⟩

/-! ## The output -/

theorem withOutput_eq_or (a : Arguments) (standard : String) (next : PathName → Script) :
    (∃ path, a.outputPath? standard = some path ∧ withOutput standard a.output next = next path) ∨
    a.outputPath? standard = none ∧ withOutput standard a.output next = .fail .blankOutput := by
  rw [Arguments.outputPath?]
  cases a.output with
  | unsaid | value name => exact .inl ⟨_, rfl, rfl⟩
  | blank => exact .inr ⟨rfl, rfl⟩

/-- A run that shows its document is the rest of the run if the document is heard, and ends badly if
it is not. -/
theorem run_unless_quiet {quiet : Bool} {host : Host} {text : RawText}
    (h : quiet = false → host.interrupts text = none) (rest : Script) (t : FileTree) :
    (if quiet then rest else announce text rest).run host t =
      { rest.run host t with said := (if quiet then [] else text) ++ (rest.run host t).said } := by
  cases quiet with
  | false => exact run_announce_of_heard (h rfl) rest t
  | true => rw [if_pos rfl, if_pos rfl, List.nil_append]

end SequenceChart
