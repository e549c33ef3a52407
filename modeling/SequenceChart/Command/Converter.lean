import SequenceChart.Command.Arguments
import SequenceChart.Command.Script
import SequenceChart.Diagram.Reading
import SequenceChart.Drawio.Document

/-!
# The converters

Two commands turn a source into a picture: one writes a draw.io document and shows it, the other
writes a presentation.  Both read their command line, then the source, or an example if none is
named; they complain of what the picture leaves out, make the picture, and only then write.  A
source that cannot be read, or an output that cannot be written, ends a command with status 1; a
command line that makes no sense ends it with status 2.  A command breaks off where a picture cannot
be made, where it needs a value that was left blank, or where it is not heard.
-/

set_option autoImplicit false
namespace SequenceChart

/-! ## The interfaces -/

/-- The option that explains a command. -/
def helpOption : CommandOption :=
  ⟨.help, ["-h", "--help"], "show this help message and exit"⟩

/-- The option that makes a command say more. -/
def verboseOption : CommandOption :=
  ⟨.verbose, ["-v", "--verbose"], ""⟩

/-- Where the document goes if nothing is said. -/
def defaultDocument : String := "output.drawio.xml"

/-- Where the presentation goes if nothing is said. -/
def defaultDeck : String := "output.pptx"

/-- The command that writes a draw.io document. -/
def drawioInterface : Interface where
  program := "mmd2drawio"
  description := "Convert a Mermaid sequenceDiagram to draw.io XML"
  positionals := [
    ⟨.source, "Mermaid source file (default: built-in example)"⟩,
    ⟨.output, "output file (default: " ++ defaultDocument ++ ")"⟩]
  options := [
    helpOption,
    ⟨.spacing, ["--spacing"], "horizontal distance between participant columns"⟩,
    ⟨.quiet, ["--quiet"], "do not echo the XML to stdout"⟩,
    verboseOption]

/-- The command that writes a presentation. -/
def deckInterface : Interface where
  program := "mmd2pptx-sequence"
  description := "Render Mermaid sequenceDiagram to PowerPoint using python-pptx"
  positionals := []
  options := [
    helpOption,
    ⟨.source, ["--source"], ""⟩,
    ⟨.output, ["--output"], ""⟩,
    verboseOption]

/-! ## What both do -/

/-- The source that is shown if none is named. -/
def exampleSource : String :=
  "\n".intercalate ["sequenceDiagram", "    participant A as Alice", "    participant B as Bob",
    "    A->>B: Hello", "    B-->>A: Hi back"]

/-- The lines of a log that are shown: without being asked to say more, a command keeps to what is
missing from the picture. -/
def logText (verbose : Bool) (remarks : List Remark) : String :=
  String.join ((remarks.filter fun r ↦ verbose || r.level != .debug).map fun r ↦
    r.entry.line ++ "\n")

/-- The text that bytes spell in UTF-8, with a line feed at the end of every line. -/
def textOfBytes (b : ByteArray) : Except Failure String :=
  match Utf8.decode b with
  | .ok s => .ok (String.ofList (withLineFeeds s.toList))
  | .error cause => .error (.undecodable cause)

/-- Says something, and breaks off if it is not heard. -/
def announce (text : RawText) (next : Script) : Script :=
  .say text fun
    | none => next
    | some cause => .fail cause

/-- A complaint that ends a command. -/
def giveUp (topic text : String) : Script :=
  .complain (LogEntry.line ⟨.error, topic, text⟩ ++ "\n") (.done 1)

/-- What a command does that does not start.  It does not matter whether an explanation is heard. -/
def refuse (i : Interface) : Refusal → Script
  | .help => .say i.helpText fun _ ↦ .done 0
  | .misuse cause => .complain (i.complaint cause.text) (.done 2)

/-- Goes on with a path that is one. -/
def ifPath (p : PathName) (next : Script) : Script :=
  if p.holdsNull then .fail .nullInPath else next

/-- Reads the source that is named, or takes the example. -/
def withSource (topic : String) (source : Entry RawText) (next : String → Script) : Script :=
  match source with
  | .unsaid | .blank => next exampleSource
  | .value name =>
    let path := PathName.ofText name
    ifPath path <| .read path fun
      | .error e => giveUp topic ("cannot read " ++ path.text.shown ++ ": " ++ e.message)
      | .ok b =>
        match textOfBytes b with
        | .ok text => next text
        | .error cause => .fail cause

/-- Complains of what is left out of the picture of a source, and goes on with the picture.  Without
a participant there is no column, and the distance between columns does not matter. -/
def withPicture (a : Arguments) (text : String) (next : Layout Float → Script) : Script :=
  let d := Diagram.ofText text
  let draw (s : Settings Float) : Script :=
    .complain (logText a.verbose (Layout.remarks d s)) (next (Layout.ofDiagram d s))
  .complain (logText a.verbose (readingRemarks text)) <|
    match a.spacing with
    | .unsaid => draw .standard
    | .value x => draw { Settings.standard with spacing := x }
    | .blank => if d.participants.isEmpty then draw .standard else .fail .blankSpacing

/-- Goes on with the place for the picture. -/
def withOutput (standard : String) (output : Entry RawText) (next : PathName → Script) : Script :=
  match output with
  | .unsaid => next (PathName.ofText standard)
  | .value name => next (PathName.ofText name)
  | .blank => .fail .blankOutput

/-- What is said of a picture that is written. -/
def announcement (kind : String) (path : PathName) : RawText :=
  RawText.ofString (kind ++ " written to ") ++ path.text ++ [.char '\n']

/-- Writes the picture, and says so. -/
def deliver (topic kind : String) (path : PathName) (content : Content) : Script :=
  let complain (e : SystemError) : Script :=
    giveUp topic ("cannot write " ++ path.text.shown ++ ": " ++ e.message)
  ifPath path.parent <| .makeDirectories path.parent fun
    | some e => complain e
    | none => ifPath path <| .write path content fun
      | some e => complain e
      | none => announce (announcement kind path) (.done 0)

/-! ## The commands -/

/-- Writes a draw.io document, and shows it first unless asked not to. -/
def convertDrawio (now : Timestamp) (a : Arguments) (text : String) : Script :=
  withPicture a text fun picture ↦
    match drawioDocument now picture with
    | .error cause => .fail cause
    | .ok xml =>
      let rest := withOutput defaultDocument a.output fun path ↦
        deliver "render_sequence_drawio" "XML" path (.bytes xml.toUTF8)
      if a.quiet then rest else announce (RawText.ofString (xml ++ "\n")) rest

/-- Writes a presentation. -/
def convertDeck (a : Arguments) (text : String) : Script :=
  withPicture a text fun picture ↦
    match deckOfLayout picture with
    | .error cause => .fail cause
    | .ok deck => withOutput defaultDeck a.output fun path ↦
      deliver "render_sequence_pptx" "PowerPoint" path (.deck deck)

/-- The command that writes a draw.io document, at a given time. -/
def drawioCommand (now : Timestamp) (args : List RawText) : Script :=
  match drawioInterface.read args with
  | .error refusal => refuse drawioInterface refusal
  | .ok a => withSource "render_sequence_drawio" a.source (convertDrawio now a)

/-- The command that writes a presentation. -/
def deckCommand (args : List RawText) : Script :=
  match deckInterface.read args with
  | .error refusal => refuse deckInterface refusal
  | .ok a => withSource "render_sequence_pptx" a.source (convertDeck a)

end SequenceChart
