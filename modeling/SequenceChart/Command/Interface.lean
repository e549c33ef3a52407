import SequenceChart.Number.Literal

/-!
# Command-line interfaces

What a command can be told: parameters that are given in order, and options that are given by name,
some with a value.  From this description follow the usage line, the help text, and, in the module
on arguments, how a command line is read.
-/

set_option autoImplicit false
namespace SequenceChart

/-- What a command can be told. -/
inductive Parameter
  /-- To explain itself. -/
  | help
  /-- Where the source is. -/
  | source
  /-- Where the picture goes. -/
  | output
  /-- How far apart columns are. -/
  | spacing
  /-- To say less. -/
  | quiet
  /-- To say more. -/
  | verbose
  deriving DecidableEq, Repr

namespace Parameter

/-- Whether a parameter has a value. -/
def takesValue : Parameter → Bool
  | source | output | spacing => true
  | help | quiet | verbose => false

/-- The word for a parameter. -/
def word : Parameter → String
  | help => "help"
  | source => "source"
  | output => "output"
  | spacing => "spacing"
  | quiet => "quiet"
  | verbose => "verbose"

end Parameter

/-- A parameter that is given by name. -/
structure CommandOption where
  /-- The parameter. -/
  parameter : Parameter
  /-- Its names, each with its dashes. -/
  names : List String
  /-- What the help text says about it. -/
  help : String
  deriving DecidableEq, Repr

/-- A parameter that is given by its place, or left out. -/
structure CommandPositional where
  /-- The parameter. -/
  parameter : Parameter
  /-- What the help text says about it. -/
  help : String
  deriving DecidableEq, Repr

/-- What a command can be told. -/
structure Interface where
  /-- The name of the command. -/
  program : String
  /-- What it does. -/
  description : String
  /-- The parameters that are given in order. -/
  positionals : List CommandPositional
  /-- The parameters that are given by name. -/
  options : List CommandOption
  deriving DecidableEq, Repr

/-! ## Explanations -/

/-- A name of an option with a word for its value. -/
def CommandOption.withValue (o : CommandOption) (name : String) : String :=
  if o.parameter.takesValue then name ++ " " ++ o.parameter.word.toUpper else name

/-- All names of an option. -/
def CommandOption.label (o : CommandOption) : String :=
  "/".intercalate o.names

namespace Interface

/-- How the command is used. -/
def usage (i : Interface) : String :=
  " ".intercalate ("usage:" :: i.program ::
    i.options.map (fun o ↦ "[" ++ ", ".intercalate ((o.names.take 1).map o.withValue) ++ "]") ++
    i.positionals.map fun p ↦ "[" ++ p.parameter.word ++ "]")

/-- How each parameter is given, with what there is to say about it. -/
def positionalRows (i : Interface) : List (String × String) :=
  i.positionals.map fun p ↦ (p.parameter.word, p.help)

/-- How each option is given, with what there is to say about it. -/
def optionRows (i : Interface) : List (String × String) :=
  i.options.map fun o ↦ (", ".intercalate (o.names.map o.withValue), o.help)

/-- The length of the longest way to give something. -/
def rowWidth (i : Interface) : Nat :=
  (i.positionalRows ++ i.optionRows).foldl (fun n row ↦ max n row.1.length) 0

/-- A line about one way to give something. -/
def rowText (i : Interface) (row : String × String) : String :=
  if row.2.isEmpty then "  " ++ row.1
  else "  " ++ String.ofList (row.1.toList.rightpad (i.rowWidth + 2) ' ') ++ row.2

/-- A headed list of lines. -/
def group (i : Interface) (heading : String) (rows : List (String × String)) : List String :=
  if rows.isEmpty then [] else "" :: heading :: rows.map i.rowText

/-- The help text. -/
def helpText (i : Interface) : String :=
  String.join ((i.usage :: "" :: i.description ::
    i.group "positional arguments:" i.positionalRows ++
    i.group "options:" i.optionRows).map (· ++ "\n"))

/-- What is said when the command is used in a wrong way. -/
def complaint (i : Interface) (reason : String) : String :=
  i.usage ++ "\n" ++ i.program ++ ": error: " ++ reason ++ "\n"

end Interface
end SequenceChart
