import ErrorTaxonomy.CommandLine.Command
import ErrorTaxonomy.FileSystem.Change
import ErrorTaxonomy.Generate.Basic
import ErrorTaxonomy.Json.Printer
import ErrorTaxonomy.Load.Basic
import ErrorTaxonomy.Plan.Encode

/-! # Running commands

A command reads units from a file system and leaves texts on its two outputs and a changed file system.
All units are loaded, planned and post-processed before anything is written. A command whose filter never
ends does not end either, and leaves what is there while it goes on. -/

namespace ErrorTaxonomy.CommandLine

/-- Why a command fails. -/
inductive RunError where
  | load (error : LoadError)
  | unit (error : UnitError)
  /-- A directory cannot be made. -/
  | create (path : String) (error : OsError)
  /-- A file cannot be written. -/
  | write (path : String) (error : OsError)
  deriving Repr, DecidableEq

namespace RunError

/-- The wordings of an error and of what is behind it, outermost first. -/
def chain : RunError → List String
  | .load e => "failed to load schema units" :: e.chain
  | .unit e => e.chain
  | .create path e => ["failed to create " ++ path, e.text]
  | .write path e => ["failed to write " ++ path, e.text]

/-- The wording of an error with all that is behind it. -/
def text (e : RunError) : String := String.intercalate ": " e.chain

end RunError

/-- How a command ends. -/
inductive Ending where
  | success
  /-- Some units cannot be planned. -/
  | failure
  | error (e : RunError)
  /-- It does not end. -/
  | endless
  deriving Repr, DecidableEq

/-- The ending of a command that has no result to go on with. -/
def Ending.without : NoResult RunError → Ending
  | .error e => .error e
  | .endless => .endless

/-- What a command leaves behind. -/
structure Outcome where
  ending : Ending
  stdout : String
  stderr : String
  files : FileSystem
  deriving Repr, DecidableEq

/-- The outcome of a command that only writes to its output. -/
def Outcome.printed (fs : FileSystem) (r : Except (NoResult RunError) String) : Outcome :=
  match r with
  | .ok s => ⟨.success, s, "", fs⟩
  | .error e => ⟨.without e, "", "", fs⟩

/-- The outcome of a command that only writes files. -/
def Outcome.written (r : FileSystem × Except RunError Unit) : Outcome :=
  match r with
  | (fs, .ok ()) => ⟨.success, "", "", fs⟩
  | (fs, .error e) => ⟨.error e, "", "", fs⟩

/-- The outcome of a command that stops before it writes anything. -/
def Outcome.stopped (fs : FileSystem) (e : NoResult RunError) : Outcome := ⟨.without e, "", "", fs⟩

/-! ## Writing files -/

/-- Makes the directories that a file is in. -/
def makeParent (fs : FileSystem) (path : String) : FileSystem × Except RunError Unit :=
  match FileSystem.parent? path with
  | none => (fs, .ok ())
  | some parent =>
    match fs.makeDirs parent with
    | (made, .ok ()) => (made, .ok ())
    | (made, .error e) => (made, .error (.create parent e))

/-- Writes a file, making the directories it is in. -/
def writeFile (fs : FileSystem) (path content : String) : FileSystem × Except RunError Unit :=
  match makeParent fs path with
  | (made, .error e) => (made, .error e)
  | (made, .ok ()) =>
    match made.writeFile path content with
    | .ok written => (written, .ok ())
    | .error e => (made, .error (.write path e))

/-- Writes artifacts into a directory, in order, up to the first that cannot be written. -/
def writeArtifacts (directory : String) :
    FileSystem → List Artifact → FileSystem × Except RunError Unit
  | fs, [] => (fs, .ok ())
  | fs, a :: as =>
    match writeFile fs (FileSystem.join directory a.name) a.content with
    | (fs, .ok ()) => writeArtifacts directory fs as
    | (fs, .error e) => (fs, .error e)

/-! ## Commands -/

/-- The units of the inputs. -/
def Inputs.load (i : Inputs) (tools : Load.Tools) (fs : FileSystem) :
    Except (NoResult RunError) (List SchemaUnit) :=
  (Load.all tools fs i.filter i.patterns).mapError (.map .load)

/-- The artifacts of the inputs. -/
def Inputs.artifacts (i : Inputs) (tools : Load.Tools) (post : PostProcessor) (fs : FileSystem) :
    Except (NoResult RunError) (List Artifact) := do
  let us ← i.load tools fs
  ((⟨i.options, post⟩ : Generator).generate us).mapError fun e => .error (.unit e)

/-- What planning gives for each unit. -/
def Inputs.check (i : Inputs) (us : List SchemaUnit) : List (Except UnitError UnitPlan) :=
  (⟨i.options, .passthrough⟩ : Generator).check us

/-- The text of the plans of the inputs. -/
def Inputs.plans (i : Inputs) (tools : Load.Tools) (fs : FileSystem) :
    Except (NoResult RunError) String := do
  let us ← i.load tools fs
  let plans ← ((i.check us).mapM id).mapError fun e => .error (.unit e)
  pure (Json.pretty (.arr (plans.map UnitPlan.toJson)))

/-- The line that reports on a unit. -/
def reportLine (file : String) : Except UnitError UnitPlan → String
  | .ok plan => s!"ok {file} ({plan.plans.length} error messages)\n"
  | .error e => "FAILED " ++ e.text ++ "\n"

/-- Whether planning fails. -/
def hasFailed : Except UnitError UnitPlan → Bool
  | .ok _ => false
  | .error _ => true

/-- The report on units: a line for each, and a count when some cannot be planned. -/
def report (us : List SchemaUnit) (outcomes : List (Except UnitError UnitPlan)) : String :=
  let lines := String.join ((us.zip outcomes).map fun p => reportLine p.1.file p.2)
  match outcomes.countP hasFailed with
  | 0 => lines
  | n => lines ++ s!"{n} of {us.length} units failed\n"

/-- **Runs** a command on a file system; units are loaded with the help of `tools`, and artifacts that
are to be formatted are formatted by `formatter`. -/
def Command.run (tools : Load.Tools) (formatter : PostProcessor) (fs : FileSystem) :
    Command → Outcome
  | .generate i directory format =>
    let post := if format then formatter else .passthrough
    match directory with
    | none =>
      .printed fs do
        pure (String.join ((← i.artifacts tools post fs).map fun a => a.content ++ "\n"))
    | some d =>
      match i.artifacts tools post fs with
      | .error e => .stopped fs e
      -- from here on only the file system can refuse
      | .ok as => .written (writeArtifacts d fs as)
  | .check i =>
    match i.load tools fs with
    | .error e => .stopped fs e
    | .ok us =>
      let outcomes := i.check us
      ⟨if outcomes.any hasFailed then .failure else .success, "", report us outcomes, fs⟩
  | .plan i file =>
    match file with
    | none => .printed fs ((i.plans tools fs).map (· ++ "\n"))
    | some path =>
      match i.plans tools fs with
      | .error e => .stopped fs e
      | .ok text => .written (writeFile fs path text)

end ErrorTaxonomy.CommandLine
