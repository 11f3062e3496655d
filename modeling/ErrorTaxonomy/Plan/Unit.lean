import ErrorTaxonomy.Plan.Basic
import ErrorTaxonomy.Plan.Event

/-! # Unit plans — the plans of all errors of a schema file

Every qualifying message of a unit is planned in its own place, depth first. The first one that cannot
be planned aborts the unit. -/

namespace ErrorTaxonomy

/-- The plans of a unit. -/
structure UnitPlan where
  unit : String
  package : String
  plans : List ErrorPlan
  deriving Repr, DecidableEq

/-- The context of a message of a unit. -/
def Placed.context (p : Placed) (u : SchemaUnit) (ix : SchemaIndex) (o : Options) : Context :=
  ⟨ix, u.package, p.parents, o⟩

/-- Plans a message of a unit. -/
def Placed.plan (u : SchemaUnit) (ix : SchemaIndex) (o : Options) (p : Placed) :
    Except SchemaError ErrorPlan :=
  (p.context u ix o).plan p.message

/-- The qualifying messages of a unit. -/
def SchemaUnit.errors (u : SchemaUnit) (o : Options) : List Placed :=
  u.placed.filter fun p => o.qualifies p.message

/-- **Plans** a unit. -/
def SchemaUnit.plan (u : SchemaUnit) (ix : SchemaIndex) (o : Options) :
    Except SchemaError UnitPlan :=
  ((u.errors o).mapM (Placed.plan u ix o)).map fun plans => ⟨u.file, u.package, plans⟩

/-! ## Events -/

/-- What is reported about the mentioned fields of a message. -/
def causeEvents (m : Message) (format : String) (ix : SchemaIndex) (package : String) :
    List Event :=
  (unresolvedCauses m format ix package).map fun p => .unresolvedCause m.name p.1.name p.2

/-- What is reported about the members of a union. -/
def Context.memberEvents (c : Context) (u : TaggedUnion) : List Event :=
  u.members.filterMap fun f =>
    f.messageType?.bind fun t =>
      if (c.index.resolve? t c.package).isNone then some (.unresolvedMember t) else none

/-- What is reported while a message is planned. -/
def Context.planEvents (c : Context) (m : Message) : List Event :=
  match m.kind with
  | .error _ => []
  | .ok .leaf =>
    match m.annotation? c.options.displayKey with
    | none => []
    | some format =>
      match c.compileFormat m format with
      | .error _ => []
      | .ok _ => causeEvents m format c.index c.package
  | .ok (.sum u) => c.memberEvents u

/-- What is reported while messages are planned, up to the first that cannot be. -/
def planEventsOf (u : SchemaUnit) (ix : SchemaIndex) (o : Options) : List Placed → List Event
  | [] => []
  | p :: ps =>
    let c := p.context u ix o
    match c.plan p.message with
    | .error e => c.planEvents p.message ++ [.notPlanned e.message]
    | .ok plan =>
      c.planEvents p.message ++ .planned p.message.name plan.kindName :: planEventsOf u ix o ps

/-- What is reported while a unit is planned. -/
def SchemaUnit.planEvents (u : SchemaUnit) (ix : SchemaIndex) (o : Options) : List Event :=
  planEventsOf u ix o (u.errors o)

end ErrorTaxonomy
