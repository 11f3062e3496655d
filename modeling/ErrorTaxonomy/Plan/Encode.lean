import ErrorTaxonomy.Json.Basic
import ErrorTaxonomy.Plan.Unit

/-! # Encoding plans as JSON

A plan is an object whose first member tells its kind. -/

namespace ErrorTaxonomy

/-- The JSON value of a segment of a template. -/
def Segment.toJson : Segment → Json
  | .text s => .obj [("kind", .str "text"), ("text", .str s)]
  | .slot => .obj [("kind", .str "slot")]

/-- The JSON value of an accessor. -/
def Accessor.toJson (a : Accessor) : Json := .obj [("field", .str a.field), ("expr", .str a.expr)]

/-- The JSON value of a cause. -/
def causeToJson (field : String) : Json :=
  .obj [("field", .str field), ("ident", .str (Ident.fieldIdent field))]

/-- The JSON value of the message type of a member. -/
def MemberType.toJson (t : MemberType) : Json :=
  .obj [("name", .str t.name), ("rust_type", .str t.path.render),
    ("constructor", .str t.constructor)]

/-- The JSON value of a member of a union. -/
def SumMember.toJson (m : SumMember) : Json :=
  .obj [("field", .str m.field), ("variant", .str m.variant),
    ("message_type", (m.type?.map MemberType.toJson).getD .null)]

/-- The JSON value of a plan. -/
def ErrorPlan.toJson : ErrorPlan → Json
  | .leaf p => .obj [
      ("kind", .str "leaf"),
      ("message", .str p.message),
      ("rust_type", .str p.path.render),
      ("format", .obj [
        ("segments", .arr (p.format.segments.map Segment.toJson)),
        ("accessors", .arr (p.format.accessors.map Accessor.toJson))]),
      ("cause", (p.cause.map causeToJson).getD .null)]
  | .sum p => .obj [
      ("kind", .str "sum"),
      ("message", .str p.message),
      ("rust_type", .str p.path.render),
      ("union", .str p.union),
      ("union_field", .str p.unionField),
      ("union_enum", .str (String.intercalate "::" p.unionType)),
      ("has_other_fields", .bool p.hasOtherFields),
      ("members", .arr (p.members.map SumMember.toJson))]

/-- The JSON value of the plans of a unit. -/
def UnitPlan.toJson (u : UnitPlan) : Json :=
  .obj [("unit", .str u.unit), ("package", .str u.package),
    ("plans", .arr (u.plans.map ErrorPlan.toJson))]

end ErrorTaxonomy
