import ErrorTaxonomy.Plan.Options

/-! # Commands — what the program can be told to do -/

namespace ErrorTaxonomy.CommandLine

/-- Where units come from and how their errors are generated. -/
structure Inputs where
  patterns : List String
  filter : Option String
  options : Options
  deriving Repr, DecidableEq

/-- A **command**. -/
inductive Command where
  /-- Writes the artifacts into a directory or to the output, formatted or as they are. -/
  | generate (inputs : Inputs) (directory : Option String) (format : Bool)
  /-- Reports on every unit. -/
  | check (inputs : Inputs)
  /-- Writes the plans of all units into a file or to the output. -/
  | plan (inputs : Inputs) (file : Option String)
  deriving Repr, DecidableEq

/-- Why arguments are no command; asking for help or for the version is a reason too. -/
inductive UsageError where
  | help
  | helpForNothing
  | version
  | missingArgument
  | unknownArgument
  | unknownCommand
  | invalidValue
  | conflict
  | tooManyValues
  deriving Repr, DecidableEq

/-- The exit code of a usage error. -/
def UsageError.exitCode : UsageError → Nat
  | .help => 0
  | .version => 0
  | _ => 2

/-- The text that answers a question for the version. -/
def versionText : String := "proto-errgen 0.1.0\n"

end ErrorTaxonomy.CommandLine
