import ErrorTaxonomy.Proofs.Generate.Outcome
import ErrorTaxonomy.Proofs.Schema.Address
import ErrorTaxonomy.Proofs.Text.Affix

/-! # Forests — every error of a unit is planned once, in its own place

The messages of a unit form a forest, and which of them are errors is decided message by message
(`Options.Marks`), whatever stands around them. The errors of a unit are enumerated by their addresses
(`enumerates_errors`), and planning goes through them in this order:

* **`enumerates_plans`** — a unit that is planned has one plan for each error, in the order of the errors.
* **`plan_unit_eq_error_iff`** — a unit that cannot be planned fails with the first error that cannot be.
* **`errors_planned_in_order`** — both, for what a run makes of a unit. -/

namespace ErrorTaxonomy

/-! ## Errors of a unit -/

/-- Options **mark** a message as an error: it is no map entry, and its name ends with the marker. -/
structure Options.Marks (o : Options) (m : Message) : Prop where
  notMapEntry : m.mapEntry = false
  suffix : ∃ stem, m.name = stem ++ o.markerSuffix

/-- Which messages qualify is what the options mark. -/
theorem Options.qualifies_iff (o : Options) (m : Message) : o.qualifies m = true ↔ o.Marks m := by
  unfold qualifies
  rw [Bool.and_eq_true, Bool.not_eq_true', Text.endsWith_iff]
  constructor
  · rintro ⟨hentry, hsuffix⟩
    exact ⟨hentry, hsuffix⟩
  · rintro ⟨hentry, hsuffix⟩
    exact ⟨hentry, hsuffix⟩

/-- An **error of a unit** stands at an address: a message that is marked, at any depth, whatever the
messages around it are. -/
def SchemaUnit.ErrorAt (u : SchemaUnit) (o : Options) (a : List Nat) (p : Placed) : Prop :=
  u.StandsAt a p ∧ o.Marks p.message

/-- **The errors of a unit** are enumerated, each with the names of the messages around it. -/
theorem enumerates_errors (u : SchemaUnit) (o : Options) : Enumerates (u.ErrorAt o) (u.errors o) := by
  unfold SchemaUnit.errors
  refine ((enumerates_placed u).filter fun p => o.qualifies p.message).congr ?_
  intro a p
  rw [Options.qualifies_iff]
  rfl

/-! ## Plans of a unit -/

section Units

variable {u : SchemaUnit} {ix : SchemaIndex} {o : Options}

/-- A unit is planned exactly when every error of it is. -/
theorem exists_plan_unit_eq_ok_iff :
    (∃ up, u.plan ix o = .ok up) ↔
      ∀ a p, u.ErrorAt o a p → ∃ plan, Placed.plan u ix o p = .ok plan := by
  have hmem := (enumerates_errors u o).mem_iff
  have htraversal : (∃ plans, (u.errors o).mapM (Placed.plan u ix o) = .ok plans) ↔ _ :=
    exists_mapM_eq_ok_iff
  simp only [plan_unit_eq_ok_iff]
  constructor
  · rintro ⟨_, plans, hplans, -⟩ a p hp
    exact htraversal.1 ⟨plans, hplans⟩ p ((hmem p).2 ⟨a, hp⟩)
  · intro h
    obtain ⟨plans, hplans⟩ := htraversal.2 fun p hp => by
      obtain ⟨a, ha⟩ := (hmem p).1 hp
      exact h a p ha
    exact ⟨_, plans, hplans, rfl⟩

/-- **The plans of a unit** are enumerated: where an error stands there is its plan, and no other. -/
theorem enumerates_plans {up : UnitPlan} (h : u.plan ix o = .ok up) :
    up.unit = u.file ∧ up.package = u.package ∧
      Enumerates (fun a plan => ∃ p, u.ErrorAt o a p ∧ Placed.plan u ix o p = .ok plan) up.plans := by
  obtain ⟨plans, hplans, rfl⟩ := plan_unit_eq_ok_iff.1 h
  refine ⟨rfl, rfl, (enumerates_errors u o).forall₂ ?_ (mapM_eq_ok_iff.1 hplans)⟩
  intro p plan plan' hplan hplan'
  rw [hplan] at hplan'
  exact Except.ok.inj hplan'

/-- **The first error that cannot be planned** is what a unit fails with. -/
theorem plan_unit_eq_error_iff {e : SchemaError} :
    u.plan ix o = .error e ↔
      ∃ a p, u.ErrorAt o a p ∧ Placed.plan u ix o p = .error e ∧
        ∀ b q, u.ErrorAt o b q → b < a → ∃ plan, Placed.plan u ix o q = .ok plan := by
  have hsplit := (enumerates_errors u o).exists_split_iff
    fun q => ∃ plan, Placed.plan u ix o q = .ok plan
  have hmap : u.plan ix o = .error e ↔ (u.errors o).mapM (Placed.plan u ix o) = .error e := by
    unfold SchemaUnit.plan
    cases (u.errors o).mapM (Placed.plan u ix o) with
    | error e' => exact ⟨fun h => by cases h; rfl, fun h => by cases h; rfl⟩
    | ok plans => exact ⟨nofun, nofun⟩
  rw [hmap, mapM_eq_error_iff]
  constructor
  · rintro ⟨before, p, after, heq, hbefore, hp⟩
    obtain ⟨a, ha, hlower⟩ := (hsplit p).1 ⟨before, after, heq, hbefore⟩
    exact ⟨a, p, ha, hp, hlower⟩
  · rintro ⟨a, p, ha, hp, hlower⟩
    obtain ⟨before, after, heq, hbefore⟩ := (hsplit p).2 ⟨a, ha, hlower⟩
    exact ⟨before, p, after, heq, hbefore, hp⟩

end Units

/-- **Every error is planned once, in order.** A unit is planned exactly when each error of it is planned
under the package of the unit and the names on its way. The plans are then those of the errors, one for
each, in the order of their addresses: a message before the ones nested in it, siblings as declared.
Otherwise the unit fails with the first error in this order that cannot be planned, whatever comes after
it. Messages that are not marked make no plan and no failure, and hide nothing that is nested in them. -/
theorem errors_planned_in_order (g : Generator) (ix : SchemaIndex) (u : SchemaUnit) :
    ((∃ up, g.planUnit ix u = .ok up) ↔ ∀ a p, u.ErrorAt g.options a p →
      ∃ plan, Context.plan ⟨ix, u.package, p.parents, g.options⟩ p.message = .ok plan) ∧
    (∀ up, g.planUnit ix u = .ok up → up.unit = u.file ∧ up.package = u.package ∧
      Enumerates (fun a plan => ∃ p, u.ErrorAt g.options a p ∧
        Context.plan ⟨ix, u.package, p.parents, g.options⟩ p.message = .ok plan) up.plans) ∧
    ∀ e, g.planUnit ix u = .error e ↔ ∃ a p s, u.ErrorAt g.options a p ∧
      Context.plan ⟨ix, u.package, p.parents, g.options⟩ p.message = .error s ∧
      e = .schema u.file s ∧ ∀ b q, u.ErrorAt g.options b q → b < a →
        ∃ plan, Context.plan ⟨ix, u.package, q.parents, g.options⟩ q.message = .ok plan := by
  unfold Generator.planUnit
  simp only [mapError_eq_ok_iff, mapError_eq_error_iff]
  refine ⟨exists_plan_unit_eq_ok_iff, fun up hup => enumerates_plans hup, fun e => ?_⟩
  constructor
  · rintro ⟨s, hs, rfl⟩
    obtain ⟨a, p, ha, hp, hlower⟩ := plan_unit_eq_error_iff.1 hs
    exact ⟨a, p, s, ha, hp, rfl, hlower⟩
  · rintro ⟨a, p, s, ha, hp, rfl, hlower⟩
    exact ⟨s, plan_unit_eq_error_iff.2 ⟨a, p, ha, hp, hlower⟩, rfl⟩

end ErrorTaxonomy
