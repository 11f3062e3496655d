import ErrorTaxonomy.Text.Affix

/-! # Schemas — units, messages and fields

A **unit** is one schema file: a package and a forest of messages. A message has fields, string options
and nested messages; fields that name the same **oneof** form a union, of which at most one member is
set. `SchemaUnit.placed` lists every message of a unit with the names of the messages around it, a
message before its nested ones. -/

namespace ErrorTaxonomy

/-- The scalar types of fields. -/
inductive ScalarType where
  | double | float | int32 | int64 | uint32 | uint64 | sint32 | sint64
  | fixed32 | fixed64 | sfixed32 | sfixed64 | bool | string | bytes
  deriving Repr, DecidableEq

namespace ScalarType

/-- The scalar types in the order in which they are listed. -/
def all : List ScalarType := [
  .double, .float, .int32, .int64, .uint32, .uint64, .sint32, .sint64, .fixed32, .fixed64,
  .sfixed32, .sfixed64, .bool, .string, .bytes]

/-- The name of a scalar type. -/
def name : ScalarType → String
  | .double => "double"
  | .float => "float"
  | .int32 => "int32"
  | .int64 => "int64"
  | .uint32 => "uint32"
  | .uint64 => "uint64"
  | .sint32 => "sint32"
  | .sint64 => "sint64"
  | .fixed32 => "fixed32"
  | .fixed64 => "fixed64"
  | .sfixed32 => "sfixed32"
  | .sfixed64 => "sfixed64"
  | .bool => "bool"
  | .string => "string"
  | .bytes => "bytes"

/-- The scalar type of that name. -/
def ofName? (s : String) : Option ScalarType := all.find? (·.name = s)

theorem ofName?_name (t : ScalarType) : ofName? t.name = some t := by cases t <;> decide

end ScalarType

/-- The type of a field: a scalar, or the name of an enum or a message. -/
inductive FieldType where
  | scalar (t : ScalarType)
  | enum (name : String)
  | message (name : String)
  deriving Repr, DecidableEq

/-- How often a field may be set. -/
inductive Label where
  | singular
  | optional
  | repeated
  deriving Repr, DecidableEq

/-- The name of a label. -/
def Label.name : Label → String
  | .singular => "singular"
  | .optional => "optional"
  | .repeated => "repeated"

/-- The label of that name. -/
def Label.ofName? (s : String) : Option Label :=
  [Label.singular, .optional, .repeated].find? (·.name = s)

theorem Label.ofName?_name (l : Label) : Label.ofName? l.name = some l := by cases l <;> decide

/-- A field of a message, and the oneof that it is a member of. -/
structure Field where
  name : String
  type : FieldType
  label : Label
  oneof : Option String
  deriving Repr, DecidableEq

/-- The message that a field holds, when it holds at most one. -/
def Field.messageType? (f : Field) : Option String :=
  match f.type, f.label with
  | .message name, .singular => some name
  | .message name, .optional => some name
  | _, _ => none

/-- A message: its fields, its options in order and its nested messages. A **map entry** is made for a
map field and is never an error. -/
structure Message where
  name : String
  fields : List Field
  options : List (String × String)
  nested : List Message
  mapEntry : Bool

/-- A schema file. The root package is empty. -/
structure SchemaUnit where
  file : String
  package : String
  messages : List Message

/-- The members of a oneof, in declared order. -/
structure TaggedUnion where
  name : String
  members : List Field
  deriving Repr, DecidableEq

namespace Message

/-- The value of an option; an empty value counts as **absent**. -/
def annotation? (m : Message) (key : String) : Option String :=
  (m.options.lookup key).filter fun v => v ≠ ""

/-- The first field of that name. -/
def field? (m : Message) (name : String) : Option Field := m.fields.find? (·.name = name)

/-- Adds a member to the union it names, which is put at the end when it is new. -/
def addMember (name : String) (f : Field) : List TaggedUnion → List TaggedUnion
  | [] => [⟨name, [f]⟩]
  | u :: us => if u.name = name then ⟨u.name, u.members ++ [f]⟩ :: us else u :: addMember name f us

/-- The **unions** of a message, in order of first appearance among the fields. -/
def unions (m : Message) : List TaggedUnion :=
  m.fields.foldl (fun us f => match f.oneof with
    | none => us
    | some name => addMember name f us) []

end Message

/-- A message and the names of the messages around it, outermost first. -/
structure Placed where
  parents : List String
  message : Message

mutual

/-- A message below `parents` and all messages nested in it. -/
def Message.placedIn (parents : List String) : Message → List Placed
  | ⟨name, fields, options, nested, mapEntry⟩ =>
    ⟨parents, ⟨name, fields, options, nested, mapEntry⟩⟩ :: placedAllIn (parents ++ [name]) nested

/-- All messages of a forest below `parents`. -/
def Message.placedAllIn (parents : List String) : List Message → List Placed
  | [] => []
  | m :: ms => m.placedIn parents ++ placedAllIn parents ms

end

/-- **Every message** of a unit, depth first in declared order. -/
def SchemaUnit.placed (u : SchemaUnit) : List Placed := Message.placedAllIn [] u.messages

@[simp] theorem Message.placedAllIn_nil (ps : List String) : Message.placedAllIn ps [] = [] := by
  simp [Message.placedAllIn]

@[simp] theorem Message.placedAllIn_cons (ps : List String) (m : Message) (ms : List Message) :
    Message.placedAllIn ps (m :: ms) = m.placedIn ps ++ Message.placedAllIn ps ms := by
  simp [Message.placedAllIn]

/-- A message stands before the messages nested in it. -/
theorem Message.placedIn_eq (ps : List String) (m : Message) :
    m.placedIn ps = ⟨ps, m⟩ :: Message.placedAllIn (ps ++ [m.name]) m.nested := by
  cases m; simp [Message.placedIn]

end ErrorTaxonomy
