import ErrorTaxonomy.Proofs.CommandLine.Stages
import ErrorTaxonomy.Proofs.Load.Failure

/-! # Atomicity — a command that breaks off leaves nothing behind

A command works in stages: it loads all units, plans all of them, post-processes all artifacts, and writes
only then. It **breaks off** when one of the stages before the last fails at any pattern, file, message or
artifact, or when a filter never ends (`Command.BreaksOff`). These are the failures that are no failures of
writing, and they leave the file system as it was and the output empty (`breaksOff_leaves_nothing`). -/

namespace ErrorTaxonomy.CommandLine

/-! ## Breaking off -/

/-- Inputs **break off** a command before it writes anything. -/
inductive Inputs.BreaksOff (i : Inputs) (tools : Load.Tools) (post : PostProcessor) (fs : FileSystem) :
    Prop
  /-- Some pattern cannot be expanded, or some file gives no units. -/
  | loading (load : Load.Breaks tools fs i.filter i.patterns)
  /-- Some message of some unit cannot be planned. -/
  | planning {us : List SchemaUnit} {u : SchemaUnit} {p : Placed} (load : i.load tools fs = .ok us)
      (unit : u ∈ us) (error : p ∈ u.errors i.options)
      (plan : Fails (Placed.plan u (.build us) i.options p))
  /-- The post-processor refuses the code of some unit. -/
  | postProcessing {us : List SchemaUnit} {u : SchemaUnit} {plans : List ErrorPlan}
      (load : i.load tools fs = .ok us) (unit : u ∈ us)
      (plan : u.plan (.build us) i.options = .ok ⟨u.file, u.package, plans⟩) (errors : plans ≠ [])
      (process : Fails (post.process (i.options.artifactName u)
        (Emit.header u ++ String.join (plans.map Emit.planText))))

/-- A command **breaks off** before it writes anything. Checking reports on units that cannot be planned,
and only generating post-processes. -/
def Command.BreaksOff (tools : Load.Tools) (formatter : PostProcessor) (fs : FileSystem) :
    Command → Prop
  | .generate i _ format => i.BreaksOff tools (if format then formatter else .passthrough) fs
  | .check i => Load.Breaks tools fs i.filter i.patterns
  | .plan i _ => i.BreaksOff tools .passthrough fs

section Stages

variable {tools : Load.Tools} {i : Inputs} {post : PostProcessor} {fs : FileSystem}

/-! ## Stages -/

/-- Inputs cannot be loaded when the load breaks. -/
theorem fails_load_iff : Fails (i.load tools fs) ↔ Load.Breaks tools fs i.filter i.patterns := by
  rw [Inputs.load, fails_mapError_iff, Load.fails_all_iff]

/-- A unit cannot be planned when some error of it cannot. -/
theorem fails_plan_unit_iff {u : SchemaUnit} {ix : SchemaIndex} {o : Options} :
    Fails (u.plan ix o) ↔ ∃ p ∈ u.errors o, Fails (Placed.plan u ix o p) := by
  rw [SchemaUnit.plan, fails_map_iff, fails_mapM_iff]

/-- **Artifacts fail** when the inputs break off. -/
theorem fails_artifacts_iff : Fails (i.artifacts tools post fs) ↔ i.BreaksOff tools post fs := by
  have hgenerate : ∀ us, Fails ((Generator.mk i.options post).generate us) ↔
      ∃ u ∈ us, ∃ e, (Generator.mk i.options post).Ends (.build us) u (.error e) := by
    intro us
    rw [Generator.generate, fails_map_iff, fails_mapM_iff]
    simp only [Fails, Generator.ends_iff]
  rw [Inputs.artifacts, fails_bind_iff, fails_load_iff]
  simp only [fails_mapError_iff, hgenerate]
  constructor
  · rintro (hload | ⟨us, hload, u, hu, e, hends⟩)
    · exact .loading hload
    · cases hends with
      | unplanned plan =>
        obtain ⟨p, hp, hfails⟩ := fails_plan_unit_iff.1 ⟨_, plan⟩
        exact .planning hload hu hp hfails
      | refused plan errors process => exact .postProcessing hload hu plan errors ⟨_, process⟩
  · intro h
    cases h with
    | loading load => exact .inl load
    | planning load unit error plan =>
      obtain ⟨e, hplan⟩ := fails_plan_unit_iff.2 ⟨_, error, plan⟩
      exact .inr ⟨_, load, _, unit, _, .unplanned hplan⟩
    | postProcessing load unit plan errors process =>
      obtain ⟨e, hprocess⟩ := process
      exact .inr ⟨_, load, _, unit, _, .refused plan errors hprocess⟩

/-- **Plans fail** when the inputs break off without post-processing. -/
theorem fails_plans_iff : Fails (i.plans tools fs) ↔ i.BreaksOff tools .passthrough fs := by
  have hpassthrough : ∀ name content, ¬ Fails (PostProcessor.passthrough.process name content) :=
    fun _ content => not_fails_ok content
  have hcheck : ∀ us, Fails ((i.check us).mapM id) ↔
      ∃ u ∈ us, Fails (u.plan (.build us) i.options) := by
    intro us
    rw [fails_mapM_iff, Inputs.check, Generator.check]
    simp only [List.mem_map, exists_exists_and_eq_and, id, Generator.planUnit, fails_mapError_iff]
  rw [Inputs.plans, fails_bind_iff, fails_load_iff]
  simp only [fails_bind_iff, fails_mapError_iff, hcheck, not_fails_pure, and_false, exists_false,
    or_false]
  constructor
  · rintro (hload | ⟨us, hload, u, hu, hplan⟩)
    · exact .loading hload
    · obtain ⟨p, hp, hfails⟩ := fails_plan_unit_iff.1 hplan
      exact .planning hload hu hp hfails
  · intro h
    cases h with
    | loading load => exact .inl load
    | planning load unit error plan =>
      exact .inr ⟨_, load, _, unit, fails_plan_unit_iff.2 ⟨_, error, plan⟩⟩
    -- plans are never post-processed
    | postProcessing load unit plan errors process => exact absurd process (hpassthrough _ _)

end Stages

/-! ## Commands -/

/-- A command whose preparation fails leaves nothing behind, and ends with an error that is none of
writing or does not end; no other command does. -/
theorem prepared_leaves_nothing {α : Type} {fs : FileSystem} {r : Except (NoResult RunError) α}
    {finish : α → Outcome} (hprepare : ∀ e, r = .error (.error e) → ¬ e.OfWriting)
    (hfinish : ∀ a, (finish a).OfWriting) :
    (Fails r ↔ (∃ e, (Outcome.prepared fs r finish).ending = .error e ∧ ¬ e.OfWriting) ∨
      (Outcome.prepared fs r finish).ending = .endless) ∧
    (Fails r → (Outcome.prepared fs r finish).files = fs ∧
      (Outcome.prepared fs r finish).stdout = "") := by
  cases r with
  | error e =>
    refine ⟨⟨fun _ => ?_, fun _ => fails_error e⟩, fun _ => ⟨rfl, rfl⟩⟩
    cases e with
    | error e => exact .inl ⟨e, rfl, hprepare e rfl⟩
    | endless => exact .inr rfl
  | ok a =>
    refine ⟨⟨fun h => absurd h (not_fails_ok a), ?_⟩, fun h => absurd h (not_fails_ok a)⟩
    rintro (⟨e, hend, hwriting⟩ | hend)
    · exact absurd ((hfinish a).fails e hend) hwriting
    · exact absurd hend (hfinish a).ends

/-- **No partial output.** Whatever searches for files and whatever runs filters, a command breaks off
exactly when it ends with an error that is none of writing files, or does not end. It then leaves the file
system as it was and has written nothing to its output, wherever the pattern, the file, the message or the
artifact stands that made it fail, and whatever stands before it. -/
theorem breaksOff_leaves_nothing (tools : Load.Tools) (formatter : PostProcessor) (fs : FileSystem)
    (c : Command) :
    (c.BreaksOff tools formatter fs ↔
      (∃ e, (c.run tools formatter fs).ending = .error e ∧ ¬ e.OfWriting) ∨
        (c.run tools formatter fs).ending = .endless) ∧
    (c.BreaksOff tools formatter fs →
      (c.run tools formatter fs).files = fs ∧ (c.run tools formatter fs).stdout = "") := by
  cases c with
  | generate i directory format =>
    rw [run_generate, Command.BreaksOff, ← fails_artifacts_iff]
    exact prepared_leaves_nothing (fun _ => not_ofWriting_of_artifacts) (ofWriting_finishGenerate fs _)
  | check i =>
    rw [run_check, Command.BreaksOff, ← fails_load_iff]
    exact prepared_leaves_nothing (fun _ => not_ofWriting_of_load) (ofWriting_finishCheck fs i)
  | plan i file =>
    rw [run_plan, Command.BreaksOff, ← fails_plans_iff]
    exact prepared_leaves_nothing (fun _ => not_ofWriting_of_plans) (ofWriting_finishPlan fs file)

/-- A directory with two documents of one unit each; the error of the second unit has no format. -/
def partlyBroken : FileSystem := ⟨["work"], [
  (["work"], .dir),
  (["work", "good.json"], .file (Text.encodeUtf8
    "[[\"good.proto\", \"app\", [[\"GoodError\", [[\"text\", \"string\", \"singular\", \"kind\"]]]]]]")
    false),
  (["work", "bad.json"], .file (Text.encodeUtf8 "[[\"bad.proto\", \"app\", [[\"BadError\"]]]]") false)],
  []⟩

/-- Generates the artifacts of both documents into a directory that is not there. -/
def partlyBrokenCommand : Command := .generate ⟨["good.json", "bad.json"], none, {}⟩ (some "out") false

/-- The second unit breaks the command off, and nothing is written for the first. -/
theorem breaksOff_partlyBroken :
    partlyBrokenCommand.BreaksOff noTools .passthrough partlyBroken ∧
      (partlyBrokenCommand.run noTools .passthrough partlyBroken).files = partlyBroken ∧
      (partlyBrokenCommand.run noTools .passthrough partlyBroken).stdout = "" := by
  obtain ⟨hbreaks, hnothing⟩ :=
    breaksOff_leaves_nothing noTools .passthrough partlyBroken partlyBrokenCommand
  have hending : (partlyBrokenCommand.run noTools .passthrough partlyBroken).ending =
      .error (.unit (.schema "bad.proto" (.missingFormat "BadError" "errors.display"))) := by
    decide +kernel
  have hbroken := hbreaks.2 (.inl ⟨_, hending, not_false⟩)
  exact ⟨hbroken, hnothing hbroken⟩

end ErrorTaxonomy.CommandLine
