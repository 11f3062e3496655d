import ErrorTaxonomy.Json.Basic
import ErrorTaxonomy.Schema.Basic

/-! # Encoding schema units as JSON

The encoded form has every member, in declared order; a scalar type is a text, an enum or a message an
object with one member. -/

namespace ErrorTaxonomy

/-- The JSON value of a field type. -/
def FieldType.toJson : FieldType → Json
  | .scalar t => .str t.name
  | .enum name => .obj [("enum", .str name)]
  | .message name => .obj [("message", .str name)]

/-- The JSON value of a field. -/
def Field.toJson (f : Field) : Json :=
  .obj [("name", .str f.name), ("type", f.type.toJson), ("label", .str f.label.name),
    ("oneof", Json.ofOption f.oneof)]

/-- The JSON value of the options of a message. -/
def optionsToJson (os : List (String × String)) : Json :=
  .obj (os.map fun o => (o.1, .str o.2))

mutual

/-- The JSON value of a message. -/
def Message.toJson : Message → Json
  | ⟨name, fields, options, nested, mapEntry⟩ =>
    .obj [("name", .str name), ("fields", .arr (fields.map Field.toJson)),
      ("options", optionsToJson options), ("nested", .arr (Message.listToJson nested)),
      ("map_entry", .bool mapEntry)]

/-- The JSON values of a list of messages. -/
def Message.listToJson : List Message → List Json
  | [] => []
  | m :: ms => m.toJson :: listToJson ms

end

/-- The JSON value of a unit. -/
def SchemaUnit.toJson (u : SchemaUnit) : Json :=
  .obj [("file", .str u.file), ("package", .str u.package),
    ("messages", .arr (Message.listToJson u.messages))]

/-- The JSON value of a list of units. -/
def Schema.unitsToJson (us : List SchemaUnit) : Json := .arr (us.map SchemaUnit.toJson)

end ErrorTaxonomy
