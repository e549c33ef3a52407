import SequenceChart.Command.Interface
import SequenceChart.Text.Quoted

/-!
# Reading a command line

A command line is read in two steps.  First every argument is told apart: an option begins with a
dash and is known by a name, by the beginning of just one name, or by one letter with more behind
it; a lone dash, a negative number, or an unknown text with a space in it is no option; and after
two dashes alone nothing is.  Then the arguments are taken from left to right.

The parameters that are given by place all take their values from the first arguments in a row that
are no options, so arguments after a later option are too many.  What is too many or unknown is
collected and reported at the end; all else that is wrong is reported where it is met, and a call
for help is answered where it is met.

Two dashes behind the equals sign of an option leave its value blank, which is not the same as
saying nothing: it takes back what was said before.

Arguments are raw texts.  One with a stray byte is told apart like any other; what is complained of
it shows the byte escaped.
-/

set_option autoImplicit false
namespace SequenceChart

/-- What has been said about a parameter. -/
inductive Entry (α : Type)
  /-- Nothing. -/
  | unsaid
  /-- That its value is left blank. -/
  | blank
  /-- A value. -/
  | value (a : α)
  deriving DecidableEq, Repr

/-- What a command has been told. -/
structure Arguments where
  /-- Where the source is. -/
  source : Entry RawText
  /-- Where the picture goes. -/
  output : Entry RawText
  /-- How far apart columns are. -/
  spacing : Entry Float
  /-- Whether to say less. -/
  quiet : Bool
  /-- Whether to say more. -/
  verbose : Bool

/-- What a command knows before it is told anything. -/
def Arguments.initial : Arguments where
  source := .unsaid
  output := .unsaid
  spacing := .unsaid
  quiet := false
  verbose := false

/-- The ways in which a command line makes no sense. -/
inductive Misuse
  /-- The beginning of a name is that of several options. -/
  | ambiguous (arg : RawText) (names : List RawText)
  /-- An option has no value behind it. -/
  | missingValue (o : CommandOption)
  /-- An option has something behind it that it cannot use. -/
  | ignoredValue (o : CommandOption) (text : RawText)
  /-- The value of a parameter, which has to be a number, is none. -/
  | notNumber (label : String) (value : RawText)
  /-- There are arguments that are unknown or too many. -/
  | unrecognized (args : List RawText)
  deriving DecidableEq, Repr

/-- The wording of a misuse. -/
def Misuse.text : Misuse → String
  | ambiguous arg names =>
    "ambiguous option: " ++ arg.shown ++ " could match " ++
      ", ".intercalate (names.map RawText.shown)
  | missingValue o => "argument " ++ o.label ++ ": expected one argument"
  | ignoredValue o text =>
    "argument " ++ o.label ++ ": ignored explicit argument " ++ quoted text
  | notNumber label value => "argument " ++ label ++ ": invalid float value: " ++ quoted value
  | unrecognized args =>
    "unrecognized arguments: " ++ " ".intercalate (args.map RawText.shown)

/-- Why a command does not start. -/
inductive Refusal
  /-- It is asked to explain itself. -/
  | help
  /-- It is used in a wrong way. -/
  | misuse (cause : Misuse)
  deriving DecidableEq, Repr

/-! ## Telling arguments apart -/

/-- An argument that is an option. -/
structure OptionUse where
  /-- The option, if there is one of that name. -/
  option? : Option CommandOption
  /-- The name; for an unknown option, the whole argument. -/
  name : RawText
  /-- What is written behind the name in the same argument. -/
  attached : Option RawText
  deriving DecidableEq, Repr

/-- An argument, told apart. -/
inductive Token
  /-- A value. -/
  | value (s : RawText)
  /-- Two dashes alone. -/
  | separator
  /-- An option. -/
  | option (o : OptionUse)
  deriving DecidableEq, Repr

namespace Interface

/-- The option with a name. -/
def option? (i : Interface) (name : RawText) : Option CommandOption :=
  i.options.find? fun o ↦ o.names.any (RawText.ofString · == name)

/-- Every name with its option. -/
def namedOptions (i : Interface) : List (RawText × CommandOption) :=
  i.options.flatMap fun o ↦ o.names.map (RawText.ofString ·, o)

/-- An argument cut at its first equals sign. -/
def cutAtEquals (s : RawText) : RawText × Option RawText :=
  match s.span (· != .char '=') with
  | (name, _ :: text) => (name, some text)
  | (name, []) => (name, none)

/-- Two dashes. -/
def dashes : RawText :=
  [.char '-', .char '-']

/-- The options that an argument which is no full name may mean: those whose names begin with it, if
it begins with two dashes, and else the one with its first letter. -/
def candidates (i : Interface) (s : RawText) : List OptionUse :=
  if dashes.isPrefixOf s then
    let (start, attached) := cutAtEquals s
    i.namedOptions.filterMap fun (name, o) ↦
      if start.isPrefixOf name then some ⟨some o, name, attached⟩ else none
  else
    i.namedOptions.filterMap fun (name, o) ↦
      if name = s.take 2 then some ⟨some o, name, some (s.drop 2)⟩
      else if s.isPrefixOf name then some ⟨some o, name, none⟩
      else none

/-- Whether a text is a dash and a number with at most one point. -/
def isNegativeNumber (s : List Char) : Bool :=
  match s with
  | '-' :: body =>
    let body := if body.getLast? = some '\n' then body.dropLast else body
    let (whole, rest) := body.span isDigit
    match rest with
    | [] => !whole.isEmpty
    | '.' :: part => !part.isEmpty && part.all isDigit
    | _ => false
  | _ => false

/-- The token that an argument before any separator is. -/
def token (i : Interface) (arg : RawText) : Except Refusal Token :=
  let named : Option OptionUse :=
    match i.option? arg with
    | some o => some ⟨some o, arg, none⟩
    | none =>
      match cutAtEquals arg with
      | (name, some text) => (i.option? name).map fun o ↦ ⟨some o, name, some text⟩
      | (_, none) => none
  if arg.head? ≠ some (.char '-') then .ok (.value arg)
  else match named with
    | some o => .ok (.option o)
    | none =>
      if arg = [.char '-'] then .ok (.value arg)
      else match i.candidates arg with
        | [o] => .ok (.option o)
        | [] =>
          if arg.toString?.any (isNegativeNumber ·.toList) || arg.contains (.char ' ') then
            .ok (.value arg)
          else .ok (.option ⟨none, arg, none⟩)
        | several =>
          .error (.misuse (.ambiguous arg (several.map (·.name))))

/-- The tokens of a command line. -/
def tokens (i : Interface) : List RawText → Except Refusal (List Token)
  | [] => .ok []
  | arg :: rest =>
    if arg = dashes then .ok (.separator :: rest.map .value)
    else do
      let t ← i.token arg
      return t :: (← i.tokens rest)

end Interface

/-! ## Values -/

/-- A parameter is given, under a label for complaints. -/
def Arguments.give (a : Arguments) (p : Parameter) (label : String) (value : RawText) :
    Except Refusal Arguments :=
  match p with
  | .help => .error .help
  | .source => .ok { a with source := .value value }
  | .output => .ok { a with output := .value value }
  | .spacing =>
    match value.toString?.bind readNumber? with
    | some x => .ok { a with spacing := .value x }
    | none => .error (.misuse (.notNumber label value))
  | .quiet => .ok { a with quiet := true }
  | .verbose => .ok { a with verbose := true }

/-- The value of a parameter is left blank. -/
def Arguments.giveBlank (a : Arguments) : Parameter → Arguments
  | .source => { a with source := .blank }
  | .output => { a with output := .blank }
  | .spacing => { a with spacing := .blank }
  | .help | .quiet | .verbose => a

/-- An option is given. -/
def Arguments.giveOption (a : Arguments) (o : CommandOption) (value : RawText) :
    Except Refusal Arguments :=
  if o.parameter.takesValue ∧ value = Interface.dashes then .ok (a.giveBlank o.parameter)
  else a.give o.parameter o.label value

/-- What the options in one argument amount to. -/
structure OptionChain where
  /-- The options that are complete, with their values. -/
  given : List (CommandOption × RawText)
  /-- The option that still needs a value. -/
  wanting : Option CommandOption

/-- An option with nothing behind it. -/
def CommandOption.alone (o : CommandOption) : OptionChain :=
  if o.parameter.takesValue then ⟨[], some o⟩ else ⟨[(o, [])], none⟩

/-- Options behind another one that needs no value. -/
def OptionChain.behind (chain : OptionChain) (o : CommandOption) : OptionChain :=
  { chain with given := (o, []) :: chain.given }

/-- The options in an argument with something behind the name of the first one.  An option with a
value takes all of it.  Letters that need no value may be strung together behind one dash, also with
an equals sign behind the first; otherwise there is nothing an option without a value could do with
what is behind it. -/
def Interface.chain (i : Interface) (o : CommandOption) (single : Bool) :
    RawText → Except Refusal OptionChain
  | [] =>
    if o.parameter.takesValue then .ok ⟨[(o, [])], none⟩
    else .error (.misuse (.ignoredValue o []))
  | c :: rest =>
    if o.parameter.takesValue then .ok ⟨[(o, c :: rest)], none⟩
    else match if single then i.option? [.char '-', c] else none with
      | none => .error (.misuse (.ignoredValue o (c :: rest)))
      | some next =>
        (if rest.isEmpty then .ok next.alone else i.chain next true rest).map (·.behind o)

/-- The options in one argument that begins with a known one. -/
def Interface.optionChain (i : Interface) (u : OptionUse) (o : CommandOption) :
    Except Refusal OptionChain :=
  match u.attached with
  | none => .ok o.alone
  | some text => i.chain o (u.name[1]? != some (.char '-')) text

/-! ## Taking arguments from left to right -/

/-- How far the parameters that are given by place have come. -/
inductive Filling
  /-- Their values have not begun. -/
  | waiting (rest : List CommandPositional)
  /-- Their values are being taken; `guarded` says that a separator was met and no value since. -/
  | taking (guarded : Bool) (rest : List CommandPositional)
  /-- Their values are over. -/
  | finished

/-- The filling after an option. -/
def Filling.afterOption : Filling → Filling
  | waiting rest => waiting rest
  | taking _ _ | finished => finished

/-- The arguments that tokens make, given what came before.  Two dashes that are a value count as
none, unless they come first behind the separator. -/
def takeTokens (i : Interface) (f : Filling) (extras : List RawText) (a : Arguments) :
    List Token → Except Refusal Arguments
  | [] =>
    if extras.isEmpty then .ok a
    else .error (.misuse (.unrecognized extras))
  | .separator :: rest =>
    match f with
    | .waiting (p :: ps) => takeTokens i (.taking true (p :: ps)) extras a rest
    | .taking _ ps => takeTokens i (.taking false ps) extras a rest
    | .waiting [] | .finished => takeTokens i .finished (extras ++ [Interface.dashes]) a rest
  | .value s :: rest =>
    match f with
    | .waiting (p :: ps) => do
      takeTokens i (.taking false ps) extras (← a.give p.parameter p.parameter.word s) rest
    | .taking guarded (p :: ps) => do
      let a ← if s = Interface.dashes ∧ guarded = false then .ok a
        else a.give p.parameter p.parameter.word s
      takeTokens i (.taking false ps) extras a rest
    | .waiting [] | .taking _ [] | .finished => takeTokens i .finished (extras ++ [s]) a rest
  | .option u :: rest =>
    match u.option? with
    | none => takeTokens i f.afterOption (extras ++ [u.name]) a rest
    | some o => do
      let chain ← i.optionChain u o
      match chain.wanting with
      | none =>
        let a ← chain.given.foldlM (fun a (o, v) ↦ a.giveOption o v) a
        takeTokens i f.afterOption extras a rest
      | some o =>
        match rest with
        | .value v :: rest =>
          let a ← (chain.given ++ [(o, v)]).foldlM (fun a (o, v) ↦ a.giveOption o v) a
          takeTokens i f.afterOption extras a rest
        | .separator :: _ | .option _ :: _ | [] => throw (.misuse (.missingValue o))

/-- What a command line tells a command. -/
def Interface.read (i : Interface) (args : List RawText) : Except Refusal Arguments := do
  takeTokens i (.waiting i.positionals) [] .initial (← i.tokens args)

end SequenceChart
