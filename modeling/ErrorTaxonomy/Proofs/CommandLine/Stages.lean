import ErrorTaxonomy.CommandLine.Run
import ErrorTaxonomy.Proofs.Generate.Outcome

/-! # Stages — preparing and finishing a command

Every command first **prepares** a value from its inputs, which may fail or never end and changes nothing,
and then **finishes** with it (`Outcome.prepared`, `run_generate`, `run_plan`, `run_check`). An error of the
first stage comes from a load or a unit; in the second only writing fails. -/

namespace ErrorTaxonomy.CommandLine

variable {tools : Load.Tools} {fs : FileSystem} {i : Inputs} {post : PostProcessor}

/-- Tools for inputs without wildcards and without a filter, which ask nothing of them. -/
def noTools : Load.Tools := ⟨fun _ _ => .ok [], ⟨fun _ => .error (.unreadable [])⟩⟩

/-! ## Preparing and finishing -/

/-- The outcome of a command that **prepares** a value and finishes with it. -/
def Outcome.prepared {α : Type} (fs : FileSystem) (r : Except (NoResult RunError) α)
    (finish : α → Outcome) : Outcome :=
  match r with
  | .error e => .stopped fs e
  | .ok a => finish a

@[simp] theorem Outcome.prepared_ok {α : Type} (fs : FileSystem) (a : α) (finish : α → Outcome) :
    Outcome.prepared fs (.ok a) finish = finish a := rfl

/-- Finishes generating: the artifacts are printed, or written into a directory. -/
def finishGenerate (fs : FileSystem) (directory : Option String) (as : List Artifact) : Outcome :=
  match directory with
  | none => ⟨.success, String.join (as.map fun a => a.content ++ "\n"), "", fs⟩
  | some d => .written (writeArtifacts d fs as)

/-- Finishes planning: the text of the plans is printed, or written into a file. -/
def finishPlan (fs : FileSystem) (file : Option String) (text : String) : Outcome :=
  match file with
  | none => ⟨.success, text ++ "\n", "", fs⟩
  | some path => .written (writeFile fs path text)

/-- Finishes checking: the units are reported on. -/
def finishCheck (fs : FileSystem) (i : Inputs) (us : List SchemaUnit) : Outcome :=
  ⟨if (i.check us).any hasFailed then .failure else .success, "", report us (i.check us), fs⟩

/-- Generating prepares the artifacts. -/
theorem run_generate (formatter : PostProcessor) (directory : Option String) (format : Bool) :
    Command.run tools formatter fs (.generate i directory format) =
      .prepared fs (i.artifacts tools (if format then formatter else .passthrough) fs)
        (finishGenerate fs directory) := by
  cases directory <;> rw [Command.run] <;>
    cases i.artifacts tools (if format then formatter else .passthrough) fs <;> rfl

/-- Planning prepares the text of the plans. -/
theorem run_plan (formatter : PostProcessor) (file : Option String) :
    Command.run tools formatter fs (.plan i file) =
      .prepared fs (i.plans tools fs) (finishPlan fs file) := by
  cases file <;> rw [Command.run] <;> cases i.plans tools fs <;> rfl

/-- Checking prepares the units. -/
theorem run_check (formatter : PostProcessor) :
    Command.run tools formatter fs (.check i) =
      .prepared fs (i.load tools fs) (finishCheck fs i) := by
  rw [Command.run]
  cases i.load tools fs <;> rfl

/-! ## Errors of the two stages -/

/-- Whether an error comes up while files are written. -/
def RunError.OfWriting : RunError → Prop
  | .create _ _ => True
  | .write _ _ => True
  | _ => False

/-- An error of loading is none of writing. -/
theorem not_ofWriting_of_load {e : RunError} (h : i.load tools fs = .error (.error e)) :
    ¬ e.OfWriting := by
  obtain ⟨r, -, hr⟩ := mapError_eq_error_iff.1 h
  cases r with
  | error _ =>
    cases hr
    exact not_false
  | endless => cases hr

/-- An error of a unit is none of writing. -/
theorem not_ofWriting_of_unit {α : Type} {r : Except UnitError α} {e : RunError}
    (h : r.mapError (fun u => NoResult.error (.unit u)) = .error (.error e)) : ¬ e.OfWriting := by
  obtain ⟨_, -, hu⟩ := mapError_eq_error_iff.1 h
  cases hu
  exact not_false

/-- An error of preparing artifacts is none of writing. -/
theorem not_ofWriting_of_artifacts {e : RunError} (h : i.artifacts tools post fs = .error (.error e)) :
    ¬ e.OfWriting := by
  obtain hload | ⟨us, -, hgenerate⟩ := bind_eq_error_iff.1 h
  · exact not_ofWriting_of_load hload
  · exact not_ofWriting_of_unit hgenerate

/-- An error of preparing plans is none of writing. -/
theorem not_ofWriting_of_plans {e : RunError} (h : i.plans tools fs = .error (.error e)) :
    ¬ e.OfWriting := by
  obtain hload | ⟨us, -, hrest⟩ := bind_eq_error_iff.1 h
  · exact not_ofWriting_of_load hload
  · obtain hplans | ⟨plans, -, hpure⟩ := bind_eq_error_iff.1 hrest
    · exact not_ofWriting_of_unit hplans
    · cases hpure

/-- Making the parent of a file fails with an error of writing. -/
theorem ofWriting_of_makeParent {path : String} {fs' : FileSystem} {e : RunError}
    (h : makeParent fs path = (fs', .error e)) : e.OfWriting := by
  rw [makeParent] at h
  split at h
  · cases h
  · split at h
    · cases h
    · cases h
      exact trivial

/-- Writing a file fails with an error of writing. -/
theorem ofWriting_of_writeFile {path content : String} {fs' : FileSystem} {e : RunError}
    (h : writeFile fs path content = (fs', .error e)) : e.OfWriting := by
  rw [writeFile] at h
  split at h
  · next hparent =>
    cases h
    exact ofWriting_of_makeParent hparent
  · split at h
    · cases h
    · cases h
      exact trivial

seal writeFile in
/-- Writing artifacts writes the first and goes on, unless it cannot be written. -/
theorem writeArtifacts_cons (d : String) (fs : FileSystem) (a : Artifact) (as : List Artifact) :
    writeArtifacts d fs (a :: as) =
      match writeFile fs (FileSystem.join d a.name) a.content with
      | (written, .ok ()) => writeArtifacts d written as
      | (written, .error e) => (written, .error e) := rfl

/-- Writing artifacts fails with an error of writing. -/
theorem ofWriting_of_writeArtifacts {d : String} {as : List Artifact} {fs' : FileSystem}
    {e : RunError} (h : writeArtifacts d fs as = (fs', .error e)) : e.OfWriting := by
  induction as generalizing fs with
  | nil => cases h
  | cons a as ih =>
    rw [writeArtifacts_cons] at h
    split at h
    · exact ih h
    · next hwrite =>
      cases h
      exact ofWriting_of_writeFile hwrite

/-- The ending of a command that writes files is that of writing them. -/
theorem written_ending {r : FileSystem × Except RunError Unit} {e : RunError}
    (h : (Outcome.written r).ending = .error e) : r = (r.1, .error e) := by
  obtain ⟨fs', written⟩ := r
  cases written with
  | ok => cases h
  | error e' =>
    cases h
    rfl

/-- Writing files ends. -/
theorem written_ending_ne (r : FileSystem × Except RunError Unit) :
    (Outcome.written r).ending ≠ .endless := by
  obtain ⟨fs', written⟩ := r
  cases written <;> exact nofun

/-- An outcome is **of writing** when it is not that of an endless command, and only writing fails in it. -/
structure Outcome.OfWriting (o : Outcome) : Prop where
  ends : o.ending ≠ .endless
  fails : ∀ e, o.ending = .error e → e.OfWriting

/-- Finishing to generate fails with an error of writing. -/
theorem ofWriting_finishGenerate (fs : FileSystem) (directory : Option String) (as : List Artifact) :
    (finishGenerate fs directory as).OfWriting := by
  cases directory with
  | none => exact ⟨nofun, nofun⟩
  | some d =>
    exact ⟨written_ending_ne _, fun e h => ofWriting_of_writeArtifacts (written_ending h)⟩

/-- Finishing to plan fails with an error of writing. -/
theorem ofWriting_finishPlan (fs : FileSystem) (file : Option String) (text : String) :
    (finishPlan fs file text).OfWriting := by
  cases file with
  | none => exact ⟨nofun, nofun⟩
  | some path => exact ⟨written_ending_ne _, fun e h => ofWriting_of_writeFile (written_ending h)⟩

/-- Finishing to check does not fail with an error. -/
theorem ofWriting_finishCheck (fs : FileSystem) (i : Inputs) (us : List SchemaUnit) :
    (finishCheck fs i us).OfWriting := by
  rw [finishCheck]
  constructor
  · dsimp only
    split <;> exact nofun
  · dsimp only
    split <;> exact nofun

end ErrorTaxonomy.CommandLine
