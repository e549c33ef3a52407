import SequenceChart.Proofs.Diagram.Effective

/-!
# The streams of a source

The lines of a source make three streams: declarations, notes, and the sequence of messages, loop
lines and `end` lines.  Within a stream the order matters.  Between streams it does not: nothing is
looked up while a source is read, so a declaration may come behind the messages between its names,
and a note anywhere among them.  The other lines, comments and those without a form, are in no
stream.

Each list of a diagram is read off one stream: the participants off the declarations, the notes off
the notes, messages and loops off the sequence.  So two sources that differ in how their streams are
mixed have the same diagram.

## Main definitions

* `Statement.stream?` — the stream that a statement belongs to.
* `streamLines` — the lines of a source in one stream.

## Main statements

* `ofText_eq_of_streamLines_eq` — sources with the same streams have the same diagram.
-/

set_option autoImplicit false
namespace SequenceChart

/-- What a line is about, as far as its order among other lines matters. -/
inductive Stream
  /-- Who takes part. -/
  | declarations
  /-- What is noted. -/
  | notes
  /-- What happens, one after the other. -/
  | sequence
  deriving DecidableEq, Repr

/-- The stream that a statement belongs to. -/
def Statement.stream? : Statement → Option Stream
  | .participant _ => some .declarations
  | .note _ => some .notes
  | .openLoop _ | .closeLoop | .message _ => some .sequence
  | .comment | .unrecognized => none

/-- Whether a statement belongs to a stream. -/
def Statement.isIn (stream : Stream) (s : Statement) : Bool :=
  s.stream? == some stream

/-- The effective lines of a text in one stream. -/
def streamLines (stream : Stream) (text : String) : List (List Char) :=
  (effectiveLines text).filter fun line ↦ (Statement.ofLine line).isIn stream

/-! ## What is read off a stream -/

section

variable (ss : List Statement)

theorem filterMap_declared?_filter_isIn :
    (ss.filter (·.isIn .declarations)).filterMap Statement.declared? =
      ss.filterMap Statement.declared? := by
  refine filterMap_filter_of_none (fun s hs ↦ ?_) ss
  cases s with
  | participant => cases hs
  | _ => rfl

theorem filterMap_noted?_filter_isIn :
    (ss.filter (·.isIn .notes)).filterMap Statement.noted? = ss.filterMap Statement.noted? := by
  refine filterMap_filter_of_none (fun s hs ↦ ?_) ss
  cases s with
  | note => cases hs
  | _ => rfl

theorem filterMap_sent?_filter_isIn :
    (ss.filter (·.isIn .sequence)).filterMap Statement.sent? = ss.filterMap Statement.sent? := by
  refine filterMap_filter_of_none (fun s hs ↦ ?_) ss
  cases s with
  | message => cases hs
  | _ => rfl

theorem loopsFrom_filter_isIn :
    loopsFrom [] 0 (ss.filter (·.isIn .sequence)) = loopsFrom [] 0 ss :=
  loopsFrom_filter (fun _ ↦ rfl) (fun _ ↦ rfl) rfl [] 0 ss

end

/-- Each list of a diagram is read off one stream. -/
theorem ofStatements_eq_of_filter_isIn_eq {ss ts : List Statement}
    (h : ∀ stream, ss.filter (·.isIn stream) = ts.filter (·.isIn stream)) :
    Diagram.ofStatements ss = Diagram.ofStatements ts := by
  have hparticipants : ss.filterMap Statement.declared? = ts.filterMap Statement.declared? := by
    rw [← filterMap_declared?_filter_isIn, h, filterMap_declared?_filter_isIn]
  have hnotes : ss.filterMap Statement.noted? = ts.filterMap Statement.noted? := by
    rw [← filterMap_noted?_filter_isIn, h, filterMap_noted?_filter_isIn]
  have hmessages : ss.filterMap Statement.sent? = ts.filterMap Statement.sent? := by
    rw [← filterMap_sent?_filter_isIn, h, filterMap_sent?_filter_isIn]
  have hloops : loopsFrom [] 0 ss = loopsFrom [] 0 ts := by
    rw [← loopsFrom_filter_isIn, h, loopsFrom_filter_isIn]
  rw [Diagram.ofStatements, hparticipants, hnotes, hmessages, hloops, Diagram.ofStatements]

/-! ## Sources with the same streams -/

/-- What the lines of a stream say is what the statements of the stream say. -/
theorem map_ofLine_streamLines (stream : Stream) (text : String) :
    (streamLines stream text).map Statement.ofLine =
      (effectiveStatements text).filter (·.isIn stream) := by
  rw [streamLines, effectiveStatements, List.filter_map]
  rfl

/-- **Sources with the same streams have the same diagram**, however the streams are mixed and
whatever lines without effect stand between them. -/
theorem ofText_eq_of_streamLines_eq {a b : String}
    (h : ∀ stream, streamLines stream a = streamLines stream b) :
    Diagram.ofText a = Diagram.ofText b := by
  rw [Diagram.ofText_eq_ofStatements, Diagram.ofText_eq_ofStatements]
  refine ofStatements_eq_of_filter_isIn_eq fun stream ↦ ?_
  rw [← map_ofLine_streamLines, h, map_ofLine_streamLines]

/-- In the first source the participant is declared behind its messages and the note stands inside
the loop; in the second both come first. -/
theorem ofText_eq_of_streamLines_eq_declared_late :
    let a := "A->>B: x\nloop r\nNote over A: n\nB-->>A: y\nend\n%% who\nparticipant A"
    let b := "participant A\nNote over A: n\nA->>B: x\nloop r\nB-->>A: y\nend\nfin"
    (∀ stream, streamLines stream a = streamLines stream b) ∧
      Diagram.ofText a = Diagram.ofText b := by
  intro a b
  have hstreams : ∀ stream, streamLines stream a = streamLines stream b := by
    intro stream
    cases stream <;> decide +kernel
  exact ⟨hstreams, ofText_eq_of_streamLines_eq hstreams⟩

end SequenceChart
