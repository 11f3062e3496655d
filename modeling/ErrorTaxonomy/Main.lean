import ErrorTaxonomy.CommandLine.Arguments
import ErrorTaxonomy.CommandLine.Run
import ErrorTaxonomy.Main.Shell.Program
import ErrorTaxonomy.Main.Tools

/-! # The program — reading a command and carrying it out

The program sees the tree under its working directory. It reads the tree, with a refusal for what cannot
be read, runs the command on it, writes back what has changed, and prints the two outputs. What commands
make use of and leave open is provided under this layer: the search for files, the engine for filters,
and the shell for formatters, which are searched along the search path of the environment among the
scripts of the tree. -/

namespace ErrorTaxonomy.Main

/-- The error of the system for an operation that failed. -/
def errorOf : IO.Error → OsError
  | .permissionDenied .. => .permissionDenied
  | e => .other (toString e)

/-- Notes that what is at a location cannot be read. -/
def unreadable (fs : FileSystem) (l : Location) (e : IO.Error) : FileSystem :=
  { fs with refusals := ((.read, l), errorOf e) :: fs.refusals }

/-- Adds the entries of a directory that was listed, and all that is below them, to a file system. -/
partial def addEntries (fs : FileSystem) (l : Location) :
    Except IO.Error (Array IO.FS.DirEntry) → IO FileSystem
  | .error e => pure (unreadable fs l e)
  | .ok entries =>
    entries.foldlM
      (fun fs e => do
        let here := l ++ [e.fileName]
        match (← e.path.metadata).type with
        | .dir => addEntries (fs.put here .dir) here (← e.path.readDir.toBaseIO)
        | .file => do
          match ← (IO.FS.readBinFile e.path).toBaseIO with
          | .error e => pure (unreadable (fs.put here (.file [] false)) here e)
          | .ok bytes =>
            let content := bytes.toList
            let isScript := (Text.encodeUtf8 Shell.shebang).isPrefixOf content
            pure (fs.put here (.file content isScript))
        | _ => pure fs)
      fs

/-- The file system with the tree under the working directory. -/
def snapshot : IO FileSystem := do
  let here ← IO.currentDir
  let location := (FileSystem.Route.ofPath here.toString).names
  let ancestors := (List.range location.length).map fun n => location.take (n + 1)
  let bare := ancestors.foldl (fun (fs : FileSystem) l => fs.put l .dir) ⟨location, [], []⟩
  addEntries bare location (← here.readDir.toBaseIO)

/-- The absolute path of a location. -/
def pathOf (l : Location) : String := "/" ++ String.intercalate "/" l

/-- Writes an entry. -/
def writeEntry (l : Location) : Entry → IO Unit
  | .dir => IO.FS.createDirAll (pathOf l)
  | .file content _ => do
    IO.FS.createDirAll (pathOf l.dropLast)
    IO.FS.writeBinFile (pathOf l) ⟨content.toArray⟩

/-- Writes back what has changed. -/
def writeBack (before after : FileSystem) : IO Unit :=
  (after.entries.filter fun e => before.get? e.1 ≠ some e.2).forM fun e => writeEntry e.1 e.2

/-- The wording of a usage error. -/
def usageText : CommandLine.UsageError → String
  | .version => CommandLine.versionText
  | .missingArgument => "error: the following required arguments were not provided: --input\n"
  | .unknownArgument => "error: unexpected argument\n"
  | .unknownCommand => "error: unrecognized subcommand\n"
  | .invalidValue => "error: a value is required\n"
  | .conflict => "error: an argument cannot be used multiple times\n"
  | .tooManyValues => "error: unexpected value\n"
  | _ => "Usage: proto-errgen <generate|check|plan> --input <INPUT>...\n"

/-- Reports a usage error and gives its exit code. -/
def refuse (e : CommandLine.UsageError) : IO UInt32 := do
  if e.exitCode = 0 then IO.print (usageText e) else IO.eprint (usageText e)
  pure (UInt32.ofNat e.exitCode)

/-- Carries out a command and gives the exit code. -/
def carryOut (c : CommandLine.Command) : IO UInt32 := do
  let before ← snapshot
  let search := Shell.SearchPath.ofText ((← IO.getEnv "PATH").getD "")
  let outcome := c.run .own (.formatter before search "rustfmt" "2021") before
  writeBack before outcome.files
  IO.print outcome.stdout
  IO.eprint outcome.stderr
  match outcome.ending with
  | .success => pure 0
  | .failure => pure 1
  | .error e => do
    IO.eprintln ("error: " ++ e.text)
    pure 1
  -- the tools of the program always end
  | .endless => pure 1

end ErrorTaxonomy.Main

/-- Reads the arguments as a command and carries it out. -/
def main (args : List String) : IO UInt32 :=
  match ErrorTaxonomy.CommandLine.read args with
  | .error e => ErrorTaxonomy.Main.refuse e
  | .ok c => ErrorTaxonomy.Main.carryOut c
