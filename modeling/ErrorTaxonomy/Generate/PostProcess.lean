import ErrorTaxonomy.Plan.Event
import ErrorTaxonomy.FileSystem.Error
import ErrorTaxonomy.Text.Blank
import ErrorTaxonomy.Text.Utf8

/-! # Post-processing — the last step for an artifact

A post-processor changes the text of an artifact or refuses it. One leaves the text as it is; another
pipes it through a formatting program, whose exit and output decide. -/

namespace ErrorTaxonomy

/-- How a program ended. -/
inductive ExitStatus where
  | code (n : Nat)
  | signal (n : Nat)
  deriving Repr, DecidableEq

/-- The names of signals. -/
def signalName (n : Nat) : String :=
  let names := [
    "SIGHUP", "SIGINT", "SIGQUIT", "SIGILL", "SIGTRAP", "SIGABRT", "SIGBUS", "SIGFPE", "SIGKILL",
    "SIGUSR1", "SIGSEGV", "SIGUSR2", "SIGPIPE", "SIGALRM", "SIGTERM", "SIGSTKFLT", "SIGCHLD",
    "SIGCONT", "SIGSTOP", "SIGTSTP", "SIGTTIN", "SIGTTOU", "SIGURG", "SIGXCPU", "SIGXFSZ",
    "SIGVTALRM", "SIGPROF", "SIGWINCH", "SIGIO", "SIGPWR", "SIGSYS"]
  match n with
  | 0 => ""
  | k + 1 => names.getD k ""

/-- The wording of an exit status. -/
def ExitStatus.text : ExitStatus → String
  | .code n => s!"exit status: {n}"
  | .signal n => s!"signal: {n} ({signalName n})"

/-- Why an artifact was refused. -/
inductive PostProcessError where
  /-- The program could not be run. -/
  | spawn (program : String) (error : OsError)
  /-- The program failed, with this on its error output. -/
  | failed (program : String) (status : ExitStatus) (stderr : String)
  /-- The output of the program is no text. -/
  | notText (program : String)
  deriving Repr, DecidableEq

namespace PostProcessError

/-- The wording of a post-processing error. -/
def text : PostProcessError → String
  | .spawn program e => "failed to run " ++ program ++ ": " ++ e.text
  | .failed program status stderr => program ++ " exited with " ++ status.text ++ ": " ++ stderr
  | .notText program => program ++ " produced non UTF-8 output"

/-- The wordings of a post-processing error and of what is behind it, outermost first. -/
def chain : PostProcessError → List String
  | .spawn program e => [(PostProcessError.spawn program e).text, e.text]
  | e => [e.text]

end PostProcessError

/-- What is done to an artifact of that name and content, and what is reported about it. -/
structure PostProcessor where
  process : (name content : String) → Except PostProcessError String
  events : (name content : String) → List Event

namespace PostProcessor

/-- Leaves every artifact as it is. -/
def passthrough : PostProcessor := ⟨fun _ content => .ok content, fun _ _ => []⟩

/-- What a finished program left behind. -/
structure Finished where
  status : ExitStatus
  stdout : Text.Bytes
  stderr : Text.Bytes
  deriving Repr, DecidableEq

/-- Judges the run of a program. -/
def judge (program : String) : Except OsError Finished → Except PostProcessError String
  | .error e => .error (.spawn program e)
  | .ok done =>
    -- the error output of a program that succeeds does not matter
    if done.status = .code 0 then
      match Text.decodeUtf8? done.stdout with
      | some s => .ok s
      | none => .error (.notText program)
    else .error (.failed program done.status (Text.trim (Text.decodeUtf8Lossy done.stderr)))

/-- Whether the run of a program succeeded. -/
def succeeded : Except OsError Finished → Bool
  | .error _ => false
  | .ok done => done.status = .code 0

/-- **Pipes** each artifact through a program, whose runs on an input are given by `run`. -/
def pipe (program : String) (run : Text.Bytes → Except OsError Finished) : PostProcessor where
  process _ content := judge program (run (Text.encodeUtf8 content))
  events name content :=
    if succeeded (run (Text.encodeUtf8 content)) then [.formatted program name] else []

@[simp] theorem process_passthrough (name content : String) :
    passthrough.process name content = .ok content := rfl

end PostProcessor
end ErrorTaxonomy
