import ErrorTaxonomy.Generate.PostProcess
import ErrorTaxonomy.Main.Shell.Word

/-! # Running shell scripts

A script runs its commands one after another on one input and collects its two outputs. The status of
the last command is the status of the script, unless it exits or is killed before. The commands are
those that filters are written with: `cat`, `tr`, `echo`, `printf`, `true`, `false`, `exit` and
`kill`. -/

namespace ErrorTaxonomy.Shell

open Text (Bytes)

/-- The bytes of characters. -/
def bytesOf (s : List Char) : Bytes := Text.encodeUtf8 (String.ofList s)

/-! ## Escapes -/

/-- The byte of a one-letter escape. -/
def escapeByte? (c : Char) : Option UInt8 :=
  if c = 'n' then some 10
  else if c = 't' then some 9
  else if c = 'r' then some 13
  else if c = 'a' then some 7
  else if c = 'b' then some 8
  else if c = 'f' then some 12
  else if c = 'v' then some 11
  else if c = '\\' then some 92
  else none

/-- An octal digit. -/
def isOctal (c : Char) : Bool := decide ('0' ≤ c) && decide (c ≤ '7')

/-- The byte that octal digits spell. -/
def octalByte (ds : List Char) : UInt8 :=
  UInt8.ofNat (ds.foldl (fun n d => n * 8 + (d.toNat - '0'.toNat)) 0)

/-- The bytes of a text with escapes, and the arguments put in for `%s`. -/
def formatted (s : List Char) (args : List (List Char)) : Bytes :=
  match s with
  | [] => []
  | '\\' :: a :: b :: c :: r =>
    if isOctal a ∧ isOctal b ∧ isOctal c then octalByte [a, b, c] :: formatted r args
    else escaped a ++ formatted (b :: c :: r) args
  | '\\' :: a :: r => escaped a ++ formatted r args
  | '%' :: '%' :: r => 37 :: formatted r args
  | '%' :: 's' :: r => bytesOf (args.headD []) ++ formatted r args.tail
  | c :: r => bytesOf [c] ++ formatted r args
where
  /-- The bytes of an escape by one character. -/
  escaped (a : Char) : Bytes :=
    match escapeByte? a with
    | some b => [b]
    | none => if isOctal a then [octalByte [a]] else 92 :: bytesOf [a]

/-- The bytes of a text in which only one-letter escapes count. -/
def unescaped : List Char → Bytes
  | [] => []
  | '\\' :: a :: r =>
    match escapeByte? a with
    | some b => b :: unescaped r
    | none => 92 :: bytesOf [a] ++ unescaped r
  | c :: r => bytesOf [c] ++ unescaped r

/-! ## Exchanging bytes -/

/-- The bytes of a set of characters with ranges. -/
def setOf : List Char → Bytes
  | a :: '-' :: b :: r =>
    (List.range (b.toNat + 1 - a.toNat)).map (fun i => UInt8.ofNat (a.toNat + i)) ++ setOf r
  | a :: r => bytesOf [a] ++ setOf r
  | [] => []

/-- **Exchanges** a byte of one set for the one at the same place in another, or for the last one
there. -/
def exchange (source target : Bytes) (b : UInt8) : UInt8 :=
  match source.idxOf? b with
  | none => b
  | some i => (target[i]?).getD (target.getLastD b)

/-! ## Running -/

/-- What a script has done so far. -/
structure State where
  input : Bytes
  output : Bytes
  errors : Bytes
  status : Nat
  /-- How the script ended, if it did. -/
  ended : Option ExitStatus

/-- Where an output goes. -/
inductive Sink where
  | output
  | errors
  | nowhere

/-- The place that a redirection names. -/
def Sink.ofWord (s : List Char) : Sink :=
  if s = ['&', '1'] then .output else if s = ['&', '2'] then .errors else .nowhere

/-- Writes to an output. -/
def State.write (st : State) (sink : Sink) (bs : Bytes) : State :=
  match sink with
  | .output => { st with output := st.output ++ bs }
  | .errors => { st with errors := st.errors ++ bs }
  | .nowhere => st

/-- What a script is run with: the script's name, its arguments, and whether programs are found by
their bare names. -/
structure Setting where
  script : String
  args : List String
  bare : Bool

/-- The value of a parameter. -/
def Setting.parameter (se : Setting) (status : Nat) (p : Char) : List Char :=
  if p = '#' then (toString se.args.length).toList
  else if p = '*' ∨ p = '@' then (String.intercalate " " se.args).toList
  else if p = '$' then "$$".toList
  else if p = '?' then (toString status).toList
  else if p = '0' then se.script.toList
  else ((se.args[p.toNat - '0'.toNat - 1]?).getD "").toList

/-- The number that digits spell. -/
def number (s : List Char) : Nat := s.foldl (fun n d => n * 10 + (d.toNat - '0'.toNat)) 0

/-- The name under which a program is known; it is not found by its bare name everywhere. -/
def programName (bare : Bool) (name : String) : String :=
  let known := ["cat", "tr"]
  if known.contains name then (if bare then name else "")
  else if (known.map ("/bin/" ++ ·)).contains name then String.ofList (name.toList.drop 5)
  else if (known.map ("/usr/bin/" ++ ·)).contains name then String.ofList (name.toList.drop 9)
  else name

/-- Runs a command that has a name and arguments. -/
def invoke (se : Setting) (out err : Sink) (name : String) (args : List (List Char)) (st : State) :
    State :=
  let done (st : State) : State := { st with status := 0 }
  match programName se.bare name with
  | "cat" => done { st.write out st.input with input := [] }
  | "tr" =>
    let source := setOf (args.headD [])
    let target := setOf ((args.drop 1).headD [])
    done { st.write out (st.input.map (exchange source target)) with input := [] }
  | "echo" => done (st.write out (unescaped (List.intercalate [' '] args) ++ [10]))
  | "printf" => done (st.write out (formatted (args.headD []) (args.drop 1)))
  | "true" => done st
  | ":" => done st
  | "false" => { st with status := 1 }
  | "exit" =>
    let status := match args with
      | [] => st.status
      | a :: _ => number a % 256
    { st with status := status, ended := some (.code status) }
  | "kill" =>
    match args with
    | ['-' :: n, ['$', '$']] => { st with ended := some (.signal (number n)) }
    | [['$', '$']] => { st with ended := some (.signal 15) }
    | _ => { st with status := 1 }
  | _ =>
    { st.write err (bytesOf (se.script ++ ": " ++ name ++ ": not found\n").toList) with status := 127 }

/-- Runs one command, unless the script has ended. -/
def step (se : Setting) (st : State) (c : Command) : State :=
  match st.ended with
  | some _ => st
  | none =>
    let fields := fun w => fieldsOf (se.parameter st.status) w
    let sinkOf (output : Nat) (default : Sink) : Sink :=
      c.redirections.foldl
        (fun s r => if r.1 = output then .ofWord ((fields r.2).headD []) else s) default
    match c.words.flatMap fields with
    | [] => { st with status := 0 }
    | name :: args =>
      invoke se (sinkOf 1 .output) (sinkOf 2 .errors) (String.ofList name) args st

/-- **Runs** a script on an input. -/
def run (se : Setting) (script : String) (input : Bytes) : PostProcessor.Finished :=
  let st := (commands script).foldl (step se) ⟨input, [], [], 0, none⟩
  ⟨st.ended.getD (.code st.status), st.output, st.errors⟩

end ErrorTaxonomy.Shell
