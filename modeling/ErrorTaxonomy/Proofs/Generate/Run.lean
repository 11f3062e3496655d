import ErrorTaxonomy.Proofs.Generate.Outcome
import ErrorTaxonomy.Proofs.Plan.Exact
import ErrorTaxonomy.Proofs.Schema.Index

/-! # Runs — what a run that succeeds has planned and written

When a run succeeds without post-processing, every unit has been planned and every unit with an error has
its artifact (`exists_plans_of_generate`). The index of the run resolves a type name to a message of
one of the units; when that message is an error, the artifact of its unit holds its impls
(`emits_of_resolve?`). -/

namespace ErrorTaxonomy

/-! ## Events of a unit -/

section Units

variable {u : SchemaUnit} {ix : SchemaIndex} {o : Options}

/-- Every event of a message is reported when all messages can be planned. -/
theorem planEvents_subset {ps : List Placed} {plans : List ErrorPlan}
    (h : ps.mapM (Placed.plan u ix o) = .ok plans) {p : Placed} (hp : p ∈ ps) :
    (p.context u ix o).planEvents p.message ⊆ planEventsOf u ix o ps := by
  rw [mapM_eq_ok_iff] at h
  induction h with
  | nil => simp at hp
  | cons hplan _ ih =>
    rw [Placed.plan] at hplan
    rw [planEventsOf, hplan]
    -- the message is the head, whose events come first, or one of those after it
    obtain rfl | hp := List.mem_cons.1 hp
    · exact List.subset_append_left _ _
    · intro e he
      exact List.mem_append_right _ (List.mem_cons_of_mem _ (ih hp he))

end Units

/-! ## Items -/

/-- The path of the type of a plan. -/
def ErrorPlan.path : ErrorPlan → Ident.ItemPath
  | .leaf p => p.path
  | .sum p => p.path

/-- A plan stands for the message that was planned. -/
theorem path_of_plan {c : Context} {m : Message} {plan : ErrorPlan} (h : c.plan m = .ok plan) :
    plan.path = c.ownPath m := by
  cases plan with
  | leaf p =>
    obtain ⟨_, -, hp⟩ := fits_of_plan_leaf h
    exact hp.path
  | sum p => exact (fits_of_plan_sum h).path

/-- A plan is named after the message that was planned. -/
theorem message_of_plan {c : Context} {m : Message} {plan : ErrorPlan} (h : c.plan m = .ok plan) :
    plan.message = m.name := by
  cases plan with
  | leaf p =>
    obtain ⟨_, -, hp⟩ := fits_of_plan_leaf h
    exact hp.message
  | sum p => exact (fits_of_plan_sum h).message

/-- The first two items of a plan make its type an error. -/
theorem exists_items_eq (plan : ErrorPlan) :
    ∃ display source rest, plan.items =
      .display plan.path.render display :: .source plan.path.render source :: rest := by
  cases plan with
  | leaf p => exact ⟨_, _, [], rfl⟩
  | sum p => exact ⟨_, _, _, rfl⟩

/-- An artifact contains the text of each of its plans. -/
theorem exists_artifactText_eq (u : SchemaUnit) {plans : List ErrorPlan} {plan : ErrorPlan}
    (h : plan ∈ plans) : ∃ before after,
      Emit.artifactText u plans = before ++ Emit.planText plan ++ after := by
  obtain ⟨xs, ys, rfl⟩ := List.append_of_mem h
  refine ⟨Emit.header u ++ String.join (xs.map Emit.planText), String.join (ys.map Emit.planText), ?_⟩
  rw [Emit.artifactText, List.map_append, List.map_cons, String.join_append, String.join_cons]
  simp only [String.append_assoc]

/-! ## Runs -/

section Runs

variable {o : Options} {us : List SchemaUnit} {arts : List Artifact}

/-- **A run that succeeds** has planned every unit and written an artifact for each unit with errors. -/
theorem exists_plans_of_generate (h : (Generator.mk o .passthrough).generate us = .ok arts)
    {u : SchemaUnit} (hu : u ∈ us) :
    ∃ plans, u.plan (SchemaIndex.build us) o = .ok ⟨u.file, u.package, plans⟩ ∧
      (plans ≠ [] → ⟨o.artifactName u, Emit.artifactText u plans⟩ ∈ arts) := by
  obtain ⟨results, hends, rfl⟩ := Generator.generate_eq_ok_iff.1 h
  obtain ⟨a, ha, hend⟩ := exists_mem_of_forall₂ hends hu
  generalize hr : Except.ok a = r at hend
  cases hend with
  | unplanned => cases hr
  | refused => cases hr
  | empty plan => exact ⟨[], plan, fun hne => absurd rfl hne⟩
  | @written plans content plan _ process =>
    cases hr
    obtain rfl := Except.ok.inj process
    exact ⟨plans, plan, fun _ => List.mem_filterMap.2 ⟨_, ha, rfl⟩⟩

/-- The path of the type of an entry in its own package. -/
def IndexEntry.path (e : IndexEntry) : Ident.ItemPath :=
  Ident.typePath e.unit.package e.unit.package e.parents e.message.name

/-- Artifacts hold the **impls** of a message: that of its unit contains the code of its plan, which
makes the type of the message show itself and say which error it wraps. -/
def Emits (ix : SchemaIndex) (o : Options) (arts : List Artifact) (e : IndexEntry) : Prop :=
  ∃ a ∈ arts, a.name = o.artifactName e.unit ∧
    ∃ plan, Placed.plan e.unit ix o ⟨e.parents, e.message⟩ = .ok plan ∧
      (∃ before after, a.content = before ++ Emit.planText plan ++ after) ∧
      ∃ display source rest, plan.items =
        .display e.path.render display :: .source e.path.render source :: rest

/-- A message that qualifies and stands in a unit of a run has been planned there. -/
theorem exists_plan_of_standsIn (h : (Generator.mk o .passthrough).generate us = .ok arts)
    {e : IndexEntry} (he : e.StandsIn us) (hq : o.qualifies e.message = true) :
    ∃ plans, e.unit.plan (.build us) o = .ok ⟨e.unit.file, e.unit.package, plans⟩ ∧
      ⟨o.artifactName e.unit, Emit.artifactText e.unit plans⟩ ∈ arts ∧
      ∃ plan ∈ plans, Placed.plan e.unit (.build us) o ⟨e.parents, e.message⟩ = .ok plan := by
  obtain ⟨plans, hplan, hart⟩ := exists_plans_of_generate h he.1
  obtain ⟨_, hplans, heq⟩ := plan_unit_eq_ok_iff.1 hplan
  cases heq
  have hmem : ⟨e.parents, e.message⟩ ∈ e.unit.errors o := List.mem_filter.2 ⟨he.2, hq⟩
  obtain ⟨plan, hp, hok⟩ := exists_mem_of_mapM_eq_ok hplans hmem
  exact ⟨plans, hplan, hart (List.ne_nil_of_mem hp), plan, hp, hok⟩

/-- **A message that qualifies** and stands in a unit of a run has its impls in the artifacts. -/
theorem emits_of_standsIn (h : (Generator.mk o .passthrough).generate us = .ok arts)
    {e : IndexEntry} (he : e.StandsIn us) (hq : o.qualifies e.message = true) :
    Emits (SchemaIndex.build us) o arts e := by
  obtain ⟨plans, -, hart, plan, hp, hok⟩ := exists_plan_of_standsIn h he hq
  obtain ⟨display, source, rest, hitems⟩ := exists_items_eq plan
  have hpath := path_of_plan hok
  rw [hpath, Context.ownPath] at hitems
  exact ⟨_, hart, rfl, plan, hok, exists_artifactText_eq e.unit hp, display, source, rest, hitems⟩

end Runs

end ErrorTaxonomy
