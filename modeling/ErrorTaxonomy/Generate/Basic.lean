import ErrorTaxonomy.Emit.SourceText
import ErrorTaxonomy.Generate.PostProcess

/-! # Generating — one artifact for each unit that has errors

A unit is planned, written out and post-processed. A run takes the units in order and fails with the
first unit that fails; checking a run reports on every unit instead. -/

namespace ErrorTaxonomy

/-- Why a unit has no artifact. -/
inductive UnitError where
  | schema (unit : String) (error : SchemaError)
  | postProcess (unit : String) (error : PostProcessError)
  deriving Repr, DecidableEq

namespace UnitError

/-- The file of the unit. -/
def unit : UnitError → String
  | .schema u _ => u
  | .postProcess u _ => u

/-- The wording of a unit error. -/
def text : UnitError → String
  | .schema u e => u ++ ": " ++ e.text
  | .postProcess u e => u ++ ": post-processing failed: " ++ e.text

/-- The wordings of a unit error and of what is behind it, outermost first. -/
def chain : UnitError → List String
  | .schema u e => [(UnitError.schema u e).text, e.text]
  | .postProcess u e => (UnitError.postProcess u e).text :: e.chain

end UnitError

/-- A generated file. -/
structure Artifact where
  name : String
  content : String
  deriving Repr, DecidableEq

/-- The settings of a run and what is done to each artifact at the end. -/
structure Generator where
  options : Options
  post : PostProcessor

namespace Generator

/-- Plans a unit. -/
def planUnit (g : Generator) (ix : SchemaIndex) (u : SchemaUnit) : Except UnitError UnitPlan :=
  (u.plan ix g.options).mapError (.schema u.file)

/-- The artifact of a unit before post-processing. -/
def draft (g : Generator) (u : SchemaUnit) (plans : List ErrorPlan) : Artifact :=
  ⟨g.options.artifactName u, Emit.artifactText u plans⟩

/-- Post-processes an artifact of a unit. -/
def polish (g : Generator) (u : SchemaUnit) (a : Artifact) : Except UnitError Artifact :=
  match g.post.process a.name a.content with
  | .ok content => .ok ⟨a.name, content⟩
  | .error e => .error (.postProcess u.file e)

/-- **Generates** the artifact of a unit; there is none when the unit has no errors. -/
def generateUnit (g : Generator) (ix : SchemaIndex) (u : SchemaUnit) :
    Except UnitError (Option Artifact) := do
  let plan ← g.planUnit ix u
  match plan.plans with
  | [] => pure none
  | plans => (g.polish u (g.draft u plans)).map some

/-- **Generates** the artifacts of all units, in order. -/
def generate (g : Generator) (us : List SchemaUnit) : Except UnitError (List Artifact) :=
  (us.mapM (g.generateUnit (SchemaIndex.build us))).map (·.filterMap id)

/-- The outcome of planning of each unit. -/
def check (g : Generator) (us : List SchemaUnit) : List (Except UnitError UnitPlan) :=
  us.map (g.planUnit (SchemaIndex.build us))

/-- What is reported while a unit is generated. -/
def events (g : Generator) (ix : SchemaIndex) (u : SchemaUnit) : List Event :=
  u.planEvents ix g.options ++
  match u.plan ix g.options with
  | .error _ => []
  | .ok plan =>
    match plan.plans with
    | [] => [.noErrors u.file]
    | plans => let a := g.draft u plans; g.post.events a.name a.content

end Generator
end ErrorTaxonomy
