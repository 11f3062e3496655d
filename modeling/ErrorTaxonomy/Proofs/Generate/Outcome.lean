import ErrorTaxonomy.Generate.Basic
import ErrorTaxonomy.Proofs.Traversal

/-! # Outcomes — how a run over units ends

A unit **ends** in one of four ways (`Generator.Ends`): it cannot be planned, it has no errors, its
artifact is refused, or it has one. A run takes the units in order and goes no further than the first
that fails, so its outcome is put together from the ends of the units (`generate_exact`): it succeeds when
every unit is planned and every artifact is accepted, it returns the artifacts of the units that have
errors, and otherwise the error is that of the first unit that fails. -/

namespace ErrorTaxonomy

/-! ## Units -/

/-- A unit that can be planned has the plans of its errors, in order. -/
theorem plan_unit_eq_ok_iff {u : SchemaUnit} {ix : SchemaIndex} {o : Options} {up : UnitPlan} :
    u.plan ix o = .ok up ↔
      ∃ plans, (u.errors o).mapM (Placed.plan u ix o) = .ok plans ∧
        up = ⟨u.file, u.package, plans⟩ := by
  rw [SchemaUnit.plan]
  cases (u.errors o).mapM (Placed.plan u ix o) with
  | error e =>
    refine ⟨nofun, ?_⟩
    rintro ⟨_, h, -⟩
    cases h
  | ok plans =>
    constructor
    · intro h
      exact ⟨plans, rfl, (Except.ok.inj h).symm⟩
    · rintro ⟨_, h, rfl⟩
      cases h
      rfl

namespace Generator

/-- How a unit **ends**: with an error, without an artifact, or with one. -/
inductive Ends (g : Generator) (ix : SchemaIndex) (u : SchemaUnit) :
    Except UnitError (Option Artifact) → Prop
  /-- Some error of the unit cannot be planned. -/
  | unplanned {e : SchemaError} (plan : u.plan ix g.options = .error e) :
    Ends g ix u (.error (.schema u.file e))
  /-- The unit has no errors. -/
  | empty (plan : u.plan ix g.options = .ok ⟨u.file, u.package, []⟩) : Ends g ix u (.ok none)
  /-- The errors of the unit are planned, and the post-processor refuses their code. -/
  | refused {plans : List ErrorPlan} {e : PostProcessError}
      (plan : u.plan ix g.options = .ok ⟨u.file, u.package, plans⟩) (errors : plans ≠ [])
      (process : g.post.process (g.options.artifactName u)
        (Emit.header u ++ String.join (plans.map Emit.planText)) = .error e) :
    Ends g ix u (.error (.postProcess u.file e))
  /-- The errors of the unit are planned, and the post-processor accepts their code. -/
  | written {plans : List ErrorPlan} {content : String}
      (plan : u.plan ix g.options = .ok ⟨u.file, u.package, plans⟩) (errors : plans ≠ [])
      (process : g.post.process (g.options.artifactName u)
        (Emit.header u ++ String.join (plans.map Emit.planText)) = .ok content) :
    Ends g ix u (.ok (some ⟨g.options.artifactName u, content⟩))

section Units

variable {g : Generator} {ix : SchemaIndex} {u : SchemaUnit}

/-- The plan of a unit bears the file and the package of the unit. -/
theorem eq_of_plan_unit {up : UnitPlan} (h : u.plan ix g.options = .ok up) :
    up = ⟨u.file, u.package, up.plans⟩ := by
  obtain ⟨plans, -, rfl⟩ := plan_unit_eq_ok_iff.1 h
  rfl

/-- Generating a unit gives one of the ends of the unit. -/
theorem generateUnit_ends (g : Generator) (ix : SchemaIndex) (u : SchemaUnit) :
    g.Ends ix u (g.generateUnit ix u) := by
  rw [generateUnit, planUnit]
  cases hplan : u.plan ix g.options with
  | error e => exact .unplanned hplan
  | ok up =>
    rw [eq_of_plan_unit hplan] at hplan
    cases hplans : up.plans with
    | nil =>
      rw [hplans] at hplan
      simp only [Except.mapError, bind, Except.bind, hplans]
      exact .empty hplan
    | cons p ps =>
      rw [hplans] at hplan
      simp only [Except.mapError, bind, Except.bind, hplans, polish, draft, Emit.artifactText]
      cases hpost : g.post.process (g.options.artifactName u)
          (Emit.header u ++ String.join ((p :: ps).map Emit.planText)) with
      | error e => exact .refused hplan (List.cons_ne_nil p ps) hpost
      | ok content => exact .written hplan (List.cons_ne_nil p ps) hpost

/-- A unit ends in one way only. -/
theorem Ends.unique {r s : Except UnitError (Option Artifact)} (hr : g.Ends ix u r)
    (hs : g.Ends ix u s) : r = s := by
  cases hr <;> cases hs <;> simp_all

/-- **Generating a unit** is one of the four ends. -/
theorem ends_iff {r : Except UnitError (Option Artifact)} :
    g.Ends ix u r ↔ g.generateUnit ix u = r := by
  constructor
  · exact fun h => (generateUnit_ends g ix u).unique h
  · rintro rfl
    exact generateUnit_ends g ix u

/-- A unit that can be planned has as many plans as errors. -/
theorem plans_eq_nil_iff {plans : List ErrorPlan}
    (h : u.plan ix g.options = .ok ⟨u.file, u.package, plans⟩) :
    plans = [] ↔ u.errors g.options = [] := by
  obtain ⟨_, hplans, heq⟩ := plan_unit_eq_ok_iff.1 h
  cases heq
  have hlen := (mapM_eq_ok_iff.1 hplans).length_eq
  rw [← List.length_eq_zero_iff, ← hlen, List.length_eq_zero_iff]

/-- A unit does not fail when it is planned and its code, if it has any, is accepted. -/
theorem exists_ends_ok_iff : (∃ a, g.Ends ix u (.ok a)) ↔
    (∃ up, g.planUnit ix u = .ok up) ∧ ∀ up, g.planUnit ix u = .ok up → up.plans ≠ [] →
      ∃ content, g.post.process (g.options.artifactName u)
        (Emit.header u ++ String.join (up.plans.map Emit.planText)) = .ok content := by
  simp only [planUnit, mapError_eq_ok_iff]
  constructor
  · rintro ⟨a, h⟩
    cases h with
    | empty plan =>
      refine ⟨⟨_, plan⟩, fun up hup herrors => ?_⟩
      rw [plan] at hup
      cases hup
      exact absurd rfl herrors
    | @written plans content plan errors process =>
      refine ⟨⟨_, plan⟩, fun up hup _ => ?_⟩
      rw [plan] at hup
      cases hup
      exact ⟨content, process⟩
  · rintro ⟨⟨up, hup⟩, hprocess⟩
    have hplan := hup
    rw [eq_of_plan_unit hup] at hplan
    by_cases herrors : up.plans = []
    · rw [herrors] at hplan
      exact ⟨none, .empty hplan⟩
    · obtain ⟨content, hcontent⟩ := hprocess up hup herrors
      exact ⟨_, .written hplan herrors hcontent⟩

/-- The error of a unit names its file. -/
theorem Ends.unit_eq {e : UnitError} (h : g.Ends ix u (.error e)) : e.unit = u.file := by
  cases h <;> rfl

end Units

/-! ## Runs -/

/-- A unit with errors **gives** an artifact: it bears the name of the unit, and its content is what
the post-processor makes of the header and the code of each plan, in order. -/
structure Gives (g : Generator) (ix : SchemaIndex) (u : SchemaUnit) (a : Artifact) : Prop where
  name : a.name = g.options.artifactName u
  content : ∃ plans, g.planUnit ix u = .ok ⟨u.file, u.package, plans⟩ ∧
    g.post.process a.name (Emit.header u ++ String.join (plans.map Emit.planText)) = .ok a.content

section Runs

variable {g : Generator} {ix : SchemaIndex} {us : List SchemaUnit}

/-- A run succeeds when no unit fails, with the artifacts of those that have one. -/
theorem generate_eq_ok_iff {arts : List Artifact} : g.generate us = .ok arts ↔
    ∃ results, List.Forall₂ (fun u a => g.Ends (.build us) u (.ok a)) us results ∧
      arts = results.filterMap id := by
  simp only [ends_iff, ← mapM_eq_ok_iff]
  rw [generate]
  cases us.mapM (g.generateUnit (.build us)) with
  | error e => exact ⟨nofun, fun ⟨_, h, _⟩ => nomatch h⟩
  | ok results =>
    constructor
    · intro h
      exact ⟨results, rfl, (Except.ok.inj h).symm⟩
    · rintro ⟨_, h, rfl⟩
      cases h
      rfl

/-- A run fails with the error of the first unit that fails. -/
theorem generate_eq_error_iff {e : UnitError} : g.generate us = .error e ↔
    ∃ before u after, us = before ++ u :: after ∧
      (∀ v ∈ before, ∃ a, g.Ends (.build us) v (.ok a)) ∧ g.Ends (.build us) u (.error e) := by
  simp only [ends_iff, ← mapM_eq_error_iff]
  rw [generate]
  cases us.mapM (g.generateUnit (.build us)) with
  | error e' => exact ⟨fun h => by cases h; rfl, fun h => by cases h; rfl⟩
  | ok results => exact ⟨nofun, nofun⟩

/-- No unit of a run that succeeds fails. -/
theorem exists_generate_eq_ok_iff : (∃ arts, g.generate us = .ok arts) ↔
    ∀ u ∈ us, ∃ a, g.Ends (.build us) u (.ok a) := by
  simp only [ends_iff, ← exists_mapM_eq_ok_iff]
  rw [generate]
  cases us.mapM (g.generateUnit (.build us)) with
  | error e => exact ⟨nofun, nofun⟩
  | ok results => exact ⟨fun _ => ⟨results, rfl⟩, fun _ => ⟨_, rfl⟩⟩

/-- Units that do not fail give the artifacts, one for each unit with errors. -/
theorem forall₂_gives {results : List (Option Artifact)}
    (h : List.Forall₂ (fun u a => g.Ends ix u (.ok a)) us results) :
    List.Forall₂ (g.Gives ix) (us.filter fun u => !(u.errors g.options).isEmpty)
      (results.filterMap id) := by
  induction h with
  | nil => exact .nil
  | @cons u a us results hends _ ih =>
    generalize hr : Except.ok a = r at hends
    cases hends with
    | unplanned => cases hr
    | refused => cases hr
    | empty plan =>
      cases hr
      have hno := (plans_eq_nil_iff plan).1 rfl
      rw [List.filter_cons_of_neg (by simp [hno])]
      exact ih
    | @written plans content plan errors process =>
      cases hr
      have hsome := (plans_eq_nil_iff plan).not.1 errors
      rw [List.filter_cons_of_pos (by simpa using hsome)]
      exact .cons ⟨rfl, plans, mapError_eq_ok_iff.2 plan, process⟩ ih

/-- A unit gives one artifact at most. -/
theorem Gives.unique : Relator.RightUnique (g.Gives ix) := by
  rintro u ⟨name, content⟩ ⟨name', content'⟩ ⟨hname, plans, hplan, hcontent⟩
    ⟨hname', plans', hplan', hcontent'⟩
  rw [hplan] at hplan'
  cases hplan'
  dsimp only at hname hname' hcontent hcontent'
  subst hname hname'
  rw [hcontent] at hcontent'
  cases hcontent'
  rfl

/-- A run succeeds when every unit is planned and the code of every unit that has plans is accepted. -/
theorem exists_generate_eq_ok_iff_accepted : (∃ arts, g.generate us = .ok arts) ↔
    (∀ r ∈ g.check us, ∃ up, r = .ok up) ∧
    ∀ u ∈ us, ∀ up, g.planUnit (.build us) u = .ok up → up.plans ≠ [] →
      ∃ content, g.post.process (g.options.artifactName u)
        (Emit.header u ++ String.join (up.plans.map Emit.planText)) = .ok content := by
  rw [exists_generate_eq_ok_iff, check, List.forall_mem_map]
  simp only [exists_ends_ok_iff, forall_and]

/-- The units with errors of a run that succeeds give its artifacts, in order. -/
theorem forall₂_gives_of_generate {arts : List Artifact} (h : g.generate us = .ok arts) :
    List.Forall₂ (g.Gives (.build us)) (us.filter fun u => !(u.errors g.options).isEmpty) arts := by
  obtain ⟨results, hends, rfl⟩ := generate_eq_ok_iff.1 h
  exact forall₂_gives hends

/-- When the units with errors give artifacts, the code of every unit that has plans is accepted. -/
theorem accepted_of_forall₂_gives {arts : List Artifact}
    (h : List.Forall₂ (g.Gives ix) (us.filter fun u => !(u.errors g.options).isEmpty) arts)
    {u : SchemaUnit} (hu : u ∈ us) {up : UnitPlan} (hup : g.planUnit ix u = .ok up)
    (hne : up.plans ≠ []) :
    ∃ content, g.post.process (g.options.artifactName u)
      (Emit.header u ++ String.join (up.plans.map Emit.planText)) = .ok content := by
  have hplan := mapError_eq_ok_iff.1 hup
  rw [eq_of_plan_unit hplan] at hplan
  have hsome := (plans_eq_nil_iff hplan).not.1 hne
  obtain ⟨a, -, ha⟩ := exists_mem_of_forall₂ h (List.mem_filter.2 ⟨hu, by simpa using hsome⟩)
  obtain ⟨plans, hplans, hcontent⟩ := ha.content
  rw [hup] at hplans
  cases hplans
  rw [ha.name] at hcontent
  exact ⟨a.content, hcontent⟩

/-- **Exact runs.** A run succeeds exactly when every unit is planned and the code of every unit that has
plans is accepted. It then returns, in the order of the units, the artifacts that the units with errors
give. Otherwise the error is that of the first unit that fails, and it names the file of that unit. -/
theorem generate_exact (g : Generator) (us : List SchemaUnit) :
    ((∃ arts, g.generate us = .ok arts) ↔
      (∀ r ∈ g.check us, ∃ up, r = .ok up) ∧
      ∀ u ∈ us, ∀ up, g.planUnit (.build us) u = .ok up → up.plans ≠ [] →
        ∃ content, g.post.process (g.options.artifactName u)
          (Emit.header u ++ String.join (up.plans.map Emit.planText)) = .ok content) ∧
    (∀ arts, g.generate us = .ok arts ↔
      (∀ r ∈ g.check us, ∃ up, r = .ok up) ∧
      List.Forall₂ (g.Gives (.build us))
        (us.filter fun u => !(u.errors g.options).isEmpty) arts) ∧
    ∀ e, g.generate us = .error e ↔ ∃ before u after, us = before ++ u :: after ∧
      (∀ v ∈ before, ∃ a, g.Ends (.build us) v (.ok a)) ∧ g.Ends (.build us) u (.error e) ∧
      e.unit = u.file := by
  refine ⟨exists_generate_eq_ok_iff_accepted, fun arts => ⟨fun h => ?_, ?_⟩, fun e => ?_⟩
  · exact ⟨(exists_generate_eq_ok_iff_accepted.1 ⟨arts, h⟩).1, forall₂_gives_of_generate h⟩
  · rintro ⟨hplanned, harts⟩
    -- no unit fails, so the run returns artifacts, and units give no others than these
    obtain ⟨arts', h⟩ := exists_generate_eq_ok_iff_accepted.2
      ⟨hplanned, fun u hu up hup => accepted_of_forall₂_gives harts hu hup⟩
    rw [h, List.right_unique_forall₂' Gives.unique harts (forall₂_gives_of_generate h)]
  · rw [generate_eq_error_iff]
    constructor
    · rintro ⟨before, u, after, hus, hbefore, hu⟩
      exact ⟨before, u, after, hus, hbefore, hu, hu.unit_eq⟩
    · rintro ⟨before, u, after, hus, hbefore, hu, -⟩
      exact ⟨before, u, after, hus, hbefore, hu⟩

end Runs
end Generator
end ErrorTaxonomy
