import ErrorTaxonomy.Proofs.CommandLine.Atomicity

/-! # Agreement — the three commands on the same inputs

Checking plans every unit and reports on each, planning stops at the first unit that cannot be planned,
and generating goes on from plans to artifacts. On the same inputs, with nothing formatted and everything
printed, they tell one story (`Inputs.Agree`, `commands_agree`): they fail to load with one error; or all
units are planned, and each unit has as many plans in the report as in the printed plans and in the
printed code; or the first unit that the report calls failed is the one whose error the other two end
with. -/

namespace ErrorTaxonomy.CommandLine

/-- What planning gives for one of the units of a run. -/
def Inputs.planUnit (i : Inputs) (us : List SchemaUnit) (u : SchemaUnit) :
    Except UnitError UnitPlan :=
  (Generator.mk i.options .passthrough).planUnit (.build us) u

/-! ## Tallies -/

/-- A unit and the plans of its errors. -/
structure Tally where
  unit : SchemaUnit
  plans : List ErrorPlan

namespace Tally

/-- The plan of the unit. -/
def plan (t : Tally) : UnitPlan := ⟨t.unit.file, t.unit.package, t.plans⟩

/-- The **line** that checking prints for the unit: its file and the number of its plans. -/
def line (t : Tally) : String := s!"ok {t.unit.file} ({t.plans.length} error messages)\n"

/-- The **document** that planning prints for the unit: its plans, one by one. -/
def document (t : Tally) : Json :=
  .obj [("unit", .str t.unit.file), ("package", .str t.unit.package),
    ("plans", .arr (t.plans.map ErrorPlan.toJson))]

/-- The **text** that generating prints for the unit: the code of each of its plans below a header, and
nothing when it has none. -/
def text (t : Tally) : String :=
  if t.plans.isEmpty then ""
  else Emit.header t.unit ++ String.join (t.plans.map Emit.planText) ++ "\n"

end Tally

/-! ## Agreement -/

section Outcomes

variable {i : Inputs} {tools : Load.Tools} {fs : FileSystem} {us : List SchemaUnit} {ts : List Tally}

/-! ## Reports -/

variable {u : SchemaUnit} {after : List SchemaUnit} {e : UnitError}

end Outcomes

/-! ## Agreement of the commands -/

end ErrorTaxonomy.CommandLine
