import ErrorTaxonomy.CommandLine.Command
import ErrorTaxonomy.Text.Affix

/-! # Arguments — reading a command

A command is followed by parameters with values: `--name value`, `--name=value`, `-n value`, `-n=value`
or `-nvalue`. Values that stand apart are collected until the next parameter and only then settled, so
that an unknown parameter is reported before a missing or repeated value in front of it. A single dash
is a value; after a double dash nothing is a parameter. -/

namespace ErrorTaxonomy.CommandLine

/-- What may be set by parameters. -/
inductive Parameter where
  | input
  | filter
  | markerSuffix
  | displayKey
  | outputSuffix
  | output
  | format
  | help
  deriving Repr, DecidableEq

/-- How many values a parameter takes. -/
inductive Arity where
  | none
  | one
  | many
  deriving Repr, DecidableEq

namespace Parameter

/-- The number of values of a parameter. -/
def arity : Parameter → Arity
  | .input => .many
  | .format => .none
  | .help => .none
  | _ => .one

/-- The names of a parameter. -/
structure Names where
  parameter : Parameter
  long : String
  short : Option Char

/-- The parameters of all commands. -/
def common : List Names := [
  ⟨.filter, "jq-expr", none⟩,
  ⟨.input, "input", some 'i'⟩,
  ⟨.markerSuffix, "marker-suffix", none⟩,
  ⟨.displayKey, "display-key", none⟩,
  ⟨.outputSuffix, "output-suffix", none⟩,
  ⟨.help, "help", some 'h'⟩]

/-- The parameters of the command that generates artifacts. -/
def ofGenerate : List Names :=
  common ++ [⟨.output, "out-dir", some 'o'⟩, ⟨.format, "rustfmt", none⟩]

/-- The parameters of the command that writes plans. -/
def ofPlan : List Names := common ++ [⟨.output, "out", some 'o'⟩]

end Parameter

/-- Parameters with their values, in the order in which they were settled. -/
abbrev Settled := List (Parameter × List String)

/-- A parameter whose values are still being collected, and whether it takes more of them. -/
structure Pending where
  parameter : Parameter
  values : List String
  isOpen : Bool

/-- The state between two arguments. -/
structure Reading where
  settled : Settled
  pending : Option Pending

/-- Whether a value must not be empty. -/
def refusesEmpty (p : Parameter) : Bool := p = .output

/-- **Settles** a parameter with its values. All but the input are settled once. -/
def settle (p : Parameter) (values : List String) (s : Settled) : Except UsageError Settled :=
  if p = .help then .error .help
  else if p.arity ≠ .none ∧ values = [] then .error .invalidValue
  else if p ≠ .input ∧ (s.lookup p).isSome then .error .conflict
  else if refusesEmpty p ∧ "" ∈ values then .error .invalidValue
  else .ok (s ++ [(p, values)])

namespace Reading

/-- Settles the parameter whose values were being collected. -/
def finish (r : Reading) : Except UsageError Settled :=
  match r.pending with
  | none => .ok r.settled
  | some p => settle p.parameter p.values r.settled

/-- Goes on with a parameter, which has a value attached or not. -/
def parameter (p : Parameter) (attached : Option String) (r : Reading) :
    Except UsageError Reading := do
  match p.arity, attached with
  | .none, some _ => throw .tooManyValues
  | .none, none => pure ⟨← settle p [] (← r.finish), none⟩
  | _, some v => pure ⟨← settle p [v] (← r.finish), none⟩
  | _, none => pure ⟨← r.finish, some ⟨p, [], true⟩⟩

/-- Goes on with a value. -/
def value (v : String) (r : Reading) : Except UsageError Reading :=
  match r.pending with
  | some p =>
    if p.isOpen then
      .ok { r with pending := some ⟨p.parameter, p.values ++ [v], p.parameter.arity = .many⟩ }
    else .error .unknownArgument
  | none => .error .unknownArgument

end Reading

/-- An argument: a name with dashes, which may have a value attached, the double dash, or a value. -/
inductive Shape where
  | long (name : String) (attached : Option String)
  | short (name : Char) (rest : List Char)
  | separator
  | value
  deriving Repr, DecidableEq

/-- The **shape** of an argument. -/
def shapeOf (a : String) : Shape :=
  match a.toList with
  | ['-', '-'] => .separator
  | '-' :: '-' :: s =>
    let (name, rest) := s.span (· ≠ '=')
    .long (String.ofList name) (rest.head?.map fun _ => String.ofList (rest.drop 1))
  | '-' :: c :: s => .short c s
  | _ => .value

/-- The value attached to a short name. -/
def attachedTo : List Char → Option String
  | [] => none
  | '=' :: v => some (String.ofList v)
  | v => some (String.ofList v)

/-- Goes on with one argument. -/
def readArgument (names : List Parameter.Names) (r : Reading) (a : String) :
    Except UsageError Reading :=
  match shapeOf a with
  | .long name attached =>
    match names.find? (·.long = name) with
    | some n => r.parameter n.parameter attached
    | none => .error .unknownArgument
  | .short c rest =>
    match names.find? (·.short = some c) with
    | some n => r.parameter n.parameter (if n.parameter.arity = .none then none else attachedTo rest)
    | none => .error .unknownArgument
  | _ => r.value a

/-- Reads the parameters of a command. -/
def readArguments (names : List Parameter.Names) : Reading → List String → Except UsageError Settled
  | r, [] => r.finish
  | r, a :: as =>
    match shapeOf a with
    | .separator => if as = [] then r.finish else .error .unknownArgument
    | _ => do readArguments names (← readArgument names r a) as

/-! ## Commands -/

/-- The single value of a parameter. -/
def valueOf (s : Settled) (p : Parameter) : Option String := (s.lookup p).bind List.head?

/-- The values of the input parameter, one at least. -/
def patternsOf (s : Settled) : List String :=
  (s.filter (·.1 = .input)).flatMap Prod.snd

/-- The inputs that parameters describe. -/
def inputsOf (s : Settled) : Except UsageError Inputs :=
  match patternsOf s with
  | [] => .error .missingArgument
  | patterns =>
    let defaults : Options := {}
    .ok {
      patterns
      filter := valueOf s .filter
      options := {
        markerSuffix := (valueOf s .markerSuffix).getD defaults.markerSuffix
        displayKey := (valueOf s .displayKey).getD defaults.displayKey
        outputSuffix := (valueOf s .outputSuffix).getD defaults.outputSuffix } }

/-- The names of the commands. -/
def commandNames : List String := ["generate", "check", "plan", "help"]

/-- Reads the arguments of the request for help, which may name a command. -/
def readHelp : List String → UsageError
  | [] => .help
  | [a] => if commandNames.contains a then .help else .unknownCommand
  | _ => .unknownCommand

/-- What arguments say that do not start with a command. -/
def readOther (a : String) (rest : List String) : UsageError :=
  match shapeOf a with
  | .separator =>
    match rest with
    | [] => .helpForNothing
    | b :: _ => if commandNames.contains b then .unknownArgument else .unknownCommand
  | .long name attached =>
    let answer? := [("help", UsageError.help), ("version", .version)].lookup name
    match answer?, attached with
    | some _, some _ => .tooManyValues
    | some e, none => e
    | none, _ => .unknownArgument
  | .short c _ => if c = 'h' then .help else if c = 'V' then .version else .unknownArgument
  | .value => .unknownCommand

/-- **Reads** a command. -/
def read : List String → Except UsageError Command
  | [] => .error .helpForNothing
  | "generate" :: as => do
    let s ← readArguments Parameter.ofGenerate ⟨[], none⟩ as
    pure (.generate (← inputsOf s) (valueOf s .output) (s.lookup .format).isSome)
  | "check" :: as => do
    pure (.check (← inputsOf (← readArguments Parameter.common ⟨[], none⟩ as)))
  | "plan" :: as => do
    let s ← readArguments Parameter.ofPlan ⟨[], none⟩ as
    pure (.plan (← inputsOf s) (valueOf s .output))
  | "help" :: as => .error (readHelp as)
  | a :: as => .error (readOther a as)

end ErrorTaxonomy.CommandLine
