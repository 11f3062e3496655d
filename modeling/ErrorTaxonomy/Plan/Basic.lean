import ErrorTaxonomy.Plan.Access
import ErrorTaxonomy.Plan.Cause
import ErrorTaxonomy.Plan.Classify
import ErrorTaxonomy.Template.Basic

/-! # Plans — what is generated for one message

The plan of a **leaf** error holds its compiled display format and its cause; the plan of a **sum**
error holds the layout of its union, with a constructor for every member that is a message. Planning
checks, in this order: the oneofs; for a sum, that no two members have one constructor; for a leaf,
that there is a format, that it mentions fields only, and that there is at most one cause. -/

namespace ErrorTaxonomy

/-- The plan of a leaf error. -/
structure LeafPlan where
  message : String
  path : Ident.ItemPath
  format : Template Accessor
  cause : Option String
  deriving Repr, DecidableEq

/-- The message type of a union member. -/
structure MemberType where
  /-- The name in the schema, without a leading dot. -/
  name : String
  path : Ident.ItemPath
  constructor : String
  deriving Repr, DecidableEq

/-- A member of a union; `type?` is there for messages only. -/
structure SumMember where
  field : String
  variant : String
  type? : Option MemberType
  deriving Repr, DecidableEq

/-- The plan of a sum error. -/
structure SumPlan where
  message : String
  path : Ident.ItemPath
  union : String
  /-- The field that holds the union. -/
  unionField : String
  /-- The segments of the path of the union's own type. -/
  unionType : List String
  /-- Whether there are fields outside the union. -/
  hasOtherFields : Bool
  members : List SumMember
  deriving Repr, DecidableEq

/-- The plan of one error. -/
inductive ErrorPlan where
  | leaf (plan : LeafPlan)
  | sum (plan : SumPlan)
  deriving Repr, DecidableEq

/-- The message of a plan. -/
def ErrorPlan.message : ErrorPlan → String
  | .leaf p => p.message
  | .sum p => p.message

/-- The name of the kind of a plan. -/
def ErrorPlan.kindName : ErrorPlan → String
  | .leaf _ => "leaf"
  | .sum _ => "sum"

/-! ## Leaf errors -/

/-- The compiled display format of a leaf error. -/
def Context.compileFormat (c : Context) (m : Message) (format : String) :
    Except SchemaError (Template Accessor) :=
  match Template.compile m.field? format with
  | .ok t => .ok (t.map c.accessor)
  | .error u => .error (.unknownField m.name u.name c.options.displayKey)

/-- Plans a leaf error. -/
def Context.planLeaf (c : Context) (m : Message) : Except SchemaError LeafPlan := do
  let key := c.options.displayKey
  match m.annotation? key with
  | none => throw (.missingFormat m.name key)
  | some format =>
    let template ← c.compileFormat m format
    let cause ← resolveCause m format c.index c.package key
    pure ⟨m.name, c.ownPath m, template, cause.map (·.name)⟩

/-! ## Sum errors -/

/-- The message type of a union member. -/
def Context.memberType (c : Context) (typeName : String) : MemberType :=
  let (name, path) := c.typeOf typeName
  ⟨Text.withoutDot typeName, path, "from_" ++ Ident.snakeCase name⟩

/-- A member of a union. -/
def Context.member (c : Context) (f : Field) : SumMember :=
  ⟨f.name, Ident.typeIdent f.name, f.messageType?.map c.memberType⟩

/-- Whether a member has that constructor. -/
def SumMember.constructs (constructor : String) (m : SumMember) : Bool :=
  m.type?.any (·.constructor = constructor)

/-- The first member that shares its constructor with a later one: its type, and the fields of all
members with that constructor. -/
def duplicate? : List SumMember → Option (MemberType × List String)
  | [] => none
  | m :: ms =>
    match m.type? with
    | none => duplicate? ms
    | some t =>
      -- members before this one share no constructor with it
      match ms.filter (·.constructs t.constructor) with
      | [] => duplicate? ms
      | same => some (t, m.field :: same.map (·.field))

/-- Plans a sum error. -/
def Context.planSum (c : Context) (m : Message) (u : TaggedUnion) : Except SchemaError SumPlan :=
  let members := u.members.map c.member
  match duplicate? members with
  | some (t, fields) => .error (.duplicateConstructor m.name u.name t.name fields)
  | none => .ok {
      message := m.name
      path := c.ownPath m
      union := u.name
      unionField := Ident.fieldIdent u.name
      unionType := c.parents.map Ident.fieldIdent ++ [Ident.fieldIdent m.name, Ident.typeIdent u.name]
      hasOtherFields := m.fields.any (·.oneof ≠ some u.name)
      members }

/-! ## Messages -/

/-- **Plans** a message. -/
def Context.plan (c : Context) (m : Message) : Except SchemaError ErrorPlan :=
  match m.kind with
  | .error e => .error e
  | .ok .leaf => (c.planLeaf m).map .leaf
  | .ok (.sum u) => (c.planSum m u).map .sum

@[simp] theorem ErrorPlan.message_leaf (p : LeafPlan) : (ErrorPlan.leaf p).message = p.message := rfl

@[simp] theorem ErrorPlan.message_sum (p : SumPlan) : (ErrorPlan.sum p).message = p.message := rfl

end ErrorTaxonomy
