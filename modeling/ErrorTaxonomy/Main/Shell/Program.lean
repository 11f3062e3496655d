import ErrorTaxonomy.FileSystem.Basic
import ErrorTaxonomy.Main.Shell.Script
import ErrorTaxonomy.Text.Affix

/-! # Programs — finding and running a formatter

A program whose name has a slash is the file at that path; any other is searched in the directories of
a search path. It must be an executable file; what it holds is run when it is a script for the
shell. -/

namespace ErrorTaxonomy.Shell

/-- Where programs are searched: in the usual directories, or in these. -/
inductive SearchPath where
  | usual
  | dirs (paths : List String)
  deriving Repr, DecidableEq

/-- The directories of a text that lists them between colons. -/
def SearchPath.ofText (s : String) : SearchPath :=
  .dirs ((s.toList.splitOn ':').map String.ofList)

/-- The first line of a script for the shell. -/
def shebang : String := "#!/bin/sh"

/-- The script in an executable file at a path. -/
def executable (fs : FileSystem) (path : String) : Except OsError String := do
  match ← fs.find path with
  | .dir => throw .permissionDenied
  | .file _ false => throw .permissionDenied
  | .file content true =>
    match Text.decodeUtf8? content with
    | some s => if Text.startsWith shebang s then pure s else throw .badExecutable
    | none => throw .badExecutable

/-- The script of the first program of a list of paths that can be run. Paths that lead nowhere are
passed over; so are those that must not be run, unless no other is found. -/
def firstExecutable (fs : FileSystem) (otherwise : OsError) :
    List String → Except OsError (String × String)
  | [] => .error otherwise
  | p :: ps =>
    match executable fs p with
    | .ok s => .ok (p, s)
    | .error .notFound => firstExecutable fs otherwise ps
    | .error .notDirectory => firstExecutable fs otherwise ps
    -- a refusal is remembered while the search goes on
    | .error .permissionDenied => firstExecutable fs .permissionDenied ps
    | .error e => .error e

/-- The script of a program and where it was found. -/
def findProgram (fs : FileSystem) (search : SearchPath) (program : String) :
    Except OsError (String × String) :=
  if program = "" then .error .notFound
  else if program.toList.contains '/' then (executable fs program).map (program, ·)
  else
    match search with
    | .usual => .error .notFound
    | .dirs ds =>
      firstExecutable fs .notFound
        (ds.map fun d => FileSystem.join (if d = "" then "." else d) program)

/-- Whether the search path leads to the usual programs. -/
def SearchPath.hasUsual : SearchPath → Bool
  | .usual => true
  | .dirs ds => ds.contains "/bin" || ds.contains "/usr/bin"

/-- **Runs** a program with arguments on an input. -/
def runProgram (fs : FileSystem) (search : SearchPath) (program : String) (args : List String)
    (input : Text.Bytes) : Except OsError PostProcessor.Finished :=
  if (program :: args).any (·.toList.contains '\x00') then .error .nullInArgument
  else do
    let (path, script) ← findProgram fs search program
    pure (run ⟨path, args, search.hasUsual⟩ script input)

end ErrorTaxonomy.Shell

namespace ErrorTaxonomy.PostProcessor

/-- **Formats** each artifact by a program that reads it and writes it to its output. -/
def formatter (fs : FileSystem) (search : Shell.SearchPath) (program edition : String) :
    PostProcessor :=
  pipe program
    (Shell.runProgram fs search program ["--edition", edition, "--emit", "stdout"])

end ErrorTaxonomy.PostProcessor
