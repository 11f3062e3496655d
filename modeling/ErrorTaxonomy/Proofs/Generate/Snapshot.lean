import ErrorTaxonomy.Generate.Basic
import ErrorTaxonomy.Proofs.Generate.Delegation
import ErrorTaxonomy.Proofs.Schema.Snapshot

/-! # Snapshot independence — plans depend on what is declared, not on how it is listed

The planner reads the index in two ways: it resolves type names, and it splits names at packages. Indexes
that agree answer both alike, so each stage of the planner gives the same with either of them
(`renders_within` to `plan_within`). With the indexes of units that are one snapshot, in whatever order
and however often they are listed, **every unit has the same outcome** (`planUnit_snapshot`). -/

namespace ErrorTaxonomy

/-- The same place of a message in the run of another index. -/
def Context.within (c : Context) (jx : SchemaIndex) : Context := { c with index := jx }

/-! ## Stages -/

section Stages

variable {c : Context} {jx : SchemaIndex} (h : c.index.Agrees jx)
include h

/-- The same types show themselves. -/
theorem renders_within : (c.within jx).renders = c.renders := by
  funext t
  rw [Context.renders, Context.renders]
  exact (h.any_resolve? t c.package c.options.qualifies).symm

/-- The same paths are guessed. -/
theorem guessPath_within : (c.within jx).guessPath = c.guessPath := by
  funext t
  rw [Context.guessPath, Context.guessPath]
  have hsplit : (c.within jx).index.splitPackage? (Text.withoutDot t) =
      c.index.splitPackage? (Text.withoutDot t) := (h.splitPackage? _).symm
  simp only [hsplit]
  rfl

/-- Types have the same names and paths. -/
theorem typeOf_within : (c.within jx).typeOf = c.typeOf := by
  funext t
  rw [Context.typeOf, Context.typeOf, guessPath_within h]
  have hr : Option.Rel IndexEntry.Same (c.index.resolve? t c.package)
      ((c.within jx).index.resolve? t (c.within jx).package) := h.resolve? t c.package
  generalize c.index.resolve? t c.package = a at hr ⊢
  generalize (c.within jx).index.resolve? t (c.within jx).package = b at hr ⊢
  cases hr with
  | none => rfl
  | some hsame =>
    simp only [hsame.message, hsame.package, hsame.parents]
    rfl

/-- Placeholders show their fields in the same way. -/
theorem accessor_within : (c.within jx).accessor = c.accessor := by
  funext f
  rw [Context.accessor, Context.accessor, Context.access, Context.access, renders_within h,
    guessPath_within h]

/-- Formats compile to the same. -/
theorem compileFormat_within (m : Message) (format : String) :
    (c.within jx).compileFormat m format = c.compileFormat m format := by
  rw [Context.compileFormat, Context.compileFormat, accessor_within h]
  rfl

/-- The same types have a format of their own. -/
theorem hasFormat_within (package key : String) :
    hasFormat jx package key = hasFormat c.index package key := by
  funext t
  rw [hasFormat, hasFormat]
  exact (h.any_resolve? t package fun m => (m.annotation? key).isSome).symm

/-- A leaf error has the same cause. -/
theorem resolveCause_within (m : Message) (format package key : String) :
    resolveCause m format jx package key = resolveCause m format c.index package key := by
  rw [resolveCause, resolveCause, causeCandidates, causeCandidates, hasFormat_within h]

/-- Leaf errors have the same plan. -/
theorem planLeaf_within (m : Message) : (c.within jx).planLeaf m = c.planLeaf m := by
  rw [Context.planLeaf, Context.planLeaf]
  simp only [compileFormat_within h]
  simp only [Context.within, resolveCause_within h]
  rfl

/-- Members of a union are the same. -/
theorem member_within : (c.within jx).member = c.member := by
  have htype : (c.within jx).memberType = c.memberType := by
    funext t
    rw [Context.memberType, Context.memberType, typeOf_within h]
  funext f
  rw [Context.member, Context.member, htype]

/-- Sum errors have the same plan. -/
theorem planSum_within (m : Message) (u : TaggedUnion) :
    (c.within jx).planSum m u = c.planSum m u := by
  rw [Context.planSum, Context.planSum, member_within h]
  rfl

/-- **Planning a message** gives the same with an index that agrees. -/
theorem plan_within (m : Message) : (c.within jx).plan m = c.plan m := by
  rw [Context.plan, Context.plan]
  simp only [planLeaf_within h, planSum_within h]

end Stages

/-! ## Units -/

/-- **Planning a unit** gives the same with an index that agrees. -/
theorem planUnit_of_agrees {ix jx : SchemaIndex} (h : ix.Agrees jx) (g : Generator)
    (u : SchemaUnit) : g.planUnit ix u = g.planUnit jx u := by
  have hplan : Placed.plan u ix g.options = Placed.plan u jx g.options := by
    funext p
    have hc : (p.context u ix g.options).index.Agrees jx := h
    exact (plan_within hc p.message).symm
  rw [Generator.planUnit, Generator.planUnit, SchemaUnit.plan, SchemaUnit.plan, hplan]

/-- Planning a unit gives the same in one snapshot. -/
theorem planUnit_of_sameSnapshot {us vs : List SchemaUnit} (h : SameSnapshot us vs) (g : Generator)
    (u : SchemaUnit) : g.planUnit (.build us) u = g.planUnit (.build vs) u :=
  planUnit_of_agrees (SchemaIndex.agrees_of_sameSnapshot h) g u

/-- **Plans depend on the snapshot alone.** A unit has one outcome, plans or error, in any two lists of
units that are one snapshot. So neither another order of units that share no full names nor listing the
units twice changes the outcome of a unit. -/
theorem planUnit_snapshot (g : Generator) :
    (∀ us vs, SameSnapshot us vs → ∀ u, g.planUnit (.build us) u = g.planUnit (.build vs) u) ∧
    (∀ us vs : List SchemaUnit, us.Perm vs → us.Pairwise SchemaUnit.SharesNoName →
      ∀ u, g.planUnit (.build us) u = g.planUnit (.build vs) u) ∧
    ∀ us, g.check (us ++ us) = g.check us ++ g.check us := by
  refine ⟨fun us vs h => planUnit_of_sameSnapshot h g, fun us vs h hus => ?_, fun us => ?_⟩
  · exact planUnit_of_sameSnapshot (sameSnapshot_of_perm h hus) g
  · rw [Generator.check, Generator.check, List.map_append,
      funext (planUnit_of_sameSnapshot (sameSnapshot_append_self us) g)]

/-- Two units that share no names are planned alike in both orders. -/
theorem planUnit_snapshot_lookupUnit :
    SameSnapshot [storageUnit, lookupUnit] [lookupUnit, storageUnit] ∧
      [storageUnit, lookupUnit].Pairwise SchemaUnit.SharesNoName ∧
      ∀ u, (Generator.mk {} .passthrough).planUnit (.build [storageUnit, lookupUnit]) u =
        (Generator.mk {} .passthrough).planUnit (.build [lookupUnit, storageUnit]) u := by
  have hnames : [storageUnit, lookupUnit].Pairwise SchemaUnit.SharesNoName := by
    refine List.pairwise_pair.2 fun e he e' he' => ?_
    revert e e'
    decide
  have hsame := sameSnapshot_of_perm (.swap lookupUnit storageUnit []) hnames
  exact ⟨hsame, hnames, (planUnit_snapshot _).1 _ _ hsame⟩

end ErrorTaxonomy
