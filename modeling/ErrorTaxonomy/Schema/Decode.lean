import ErrorTaxonomy.Json.Path
import ErrorTaxonomy.Json.Printer
import ErrorTaxonomy.Schema.Basic
import ErrorTaxonomy.Text.Quoted

/-! # Decoding schema units from JSON

A unit, a message and a field are read from an object, whose unknown members are ignored and whose
missing members take their default, or from a list that gives the members **by position**. Members are
read in the order of the document, and the first that does not fit is the error, together with the
path to it. -/

namespace ErrorTaxonomy.Schema

open Json (Step Path)

/-- What is wrong with a JSON value that should be a part of a schema. -/
inductive Mismatch where
  | missingMember (name : String)
  | wrongType (found expected : String)
  | wrongValue (found expected : String)
  | tooShort (length : Nat) (expected : String)
  | tooLong (length : Nat)
  | unknownVariant (name : String) (variants : List String)
  deriving Repr, DecidableEq

/-- A name between grave accents. -/
def ticked (s : String) : String := "`" ++ s ++ "`"

/-- The wording of a mismatch. -/
def Mismatch.message : Mismatch → String
  | .missingMember name => "missing field " ++ ticked name
  | .wrongType found expected => "invalid type: " ++ found ++ ", expected " ++ expected
  | .wrongValue found expected => "invalid value: " ++ found ++ ", expected " ++ expected
  | .tooShort length expected => s!"invalid length {length}, expected {expected}"
  | .tooLong length => s!"invalid length {length}, expected fewer elements in array"
  | .unknownVariant name variants =>
    "unknown variant " ++ ticked name ++ ", expected one of " ++
      String.intercalate ", " (variants.map ticked)

/-- A mismatch and the path to it. -/
structure DecodeFailure where
  path : Path
  mismatch : Mismatch
  deriving Repr, DecidableEq

/-- The failure as seen from one level up. -/
def DecodeFailure.within (s : Step) (f : DecodeFailure) : DecodeFailure :=
  { f with path := s :: f.path }

/-- The outcome of decoding. -/
abbrev Decoded (α : Type) := Except DecodeFailure α

/-- A mismatch at this very value. -/
def mismatch {α : Type} (m : Mismatch) : Decoded α := .error ⟨[], m⟩

/-- The outcome as seen from one level up. -/
def within {α : Type} (s : Step) (r : Decoded α) : Decoded α := r.mapError (DecodeFailure.within s)

/-- How a value is called in an error. -/
def describe : Json → String
  | .null => "null"
  | .bool b => "boolean " ++ ticked (toString b)
  | .num (.int n) => "integer " ++ ticked (toString n)
  | .num (.real x) => "floating point " ++ ticked (Json.realText x)
  | .str s => "string " ++ Text.quote s
  | .arr _ => "sequence"
  | .obj _ => "map"

/-- A value of another type than expected. -/
def wrongType {α : Type} (v : Json) (expected : String) : Decoded α :=
  mismatch (.wrongType (describe v) expected)

/-! ## Leaves -/

/-- Decodes a text. -/
def text : Json → Decoded String
  | .str s => .ok s
  | v => wrongType v "a string"

/-- Decodes a truth value. -/
def boolean : Json → Decoded Bool
  | .bool b => .ok b
  | v => wrongType v "a boolean"

/-- Decodes a text that may be null. -/
def optionalText : Json → Decoded (Option String)
  | .null => .ok none
  | v => (text v).map some

/-- Decodes nothing, which is written null. -/
def nothing : Json → Decoded Unit
  | .null => .ok ()
  | v => wrongType v "unit"

/-- Decodes texts under keys. -/
def options : Json → Decoded (List (String × String))
  | .obj ms => ms.mapM fun m => within (.key m.1) ((text m.2).map (m.1, ·))
  | v => wrongType v "a map"

/-- The name of a variant and its payload: a text is a variant without payload, an object with one
member a variant with one. -/
def variant : Json → Decoded (String × Option Json)
  | .str s => .ok (s, none)
  | .obj [(k, v)] => .ok (k, some v)
  | .obj _ => mismatch (.wrongValue "map" "map with a single key")
  | v => wrongType v "string or map"

/-- Decodes the payload of a variant that has none. -/
def plainVariant {α : Type} (name : String) (payload : Option Json) (a : α) : Decoded α :=
  match payload with
  | none => .ok a
  | some v => within (.key name) ((nothing v).map fun _ => a)

/-- Decodes the payload of a variant that holds a name. -/
def namedVariant (name : String) : Option Json → Decoded String
  | none => within (.key name) (mismatch (.wrongType "unit variant" "newtype variant"))
  | some v => within (.key name) (text v)

/-- The names of the variants of a field type. -/
def typeNames : List String := ScalarType.all.map ScalarType.name ++ ["enum", "message"]

/-- Decodes a field type. -/
def fieldType (v : Json) : Decoded FieldType := do
  let (name, payload) ← variant v
  match ScalarType.ofName? name with
  | some t => plainVariant name payload (.scalar t)
  | none =>
    if name = "enum" then (namedVariant name payload).map .enum
    else if name = "message" then (namedVariant name payload).map .message
    else mismatch (.unknownVariant name typeNames)

/-- Decodes a label. -/
def label (v : Json) : Decoded Label := do
  let (name, payload) ← variant v
  match Label.ofName? name with
  | some l => plainVariant name payload l
  | none => mismatch (.unknownVariant name ["singular", "optional", "repeated"])

/-- Decodes the items of a list from item `i` on. -/
def itemsFrom {α : Type} (item : Json → Decoded α) : Nat → List Json → Decoded (List α)
  | _, [] => .ok []
  | i, v :: vs => do
    let a ← within (.index i) (item v)
    let as ← itemsFrom item (i + 1) vs
    pure (a :: as)

/-- Decodes a list. -/
def list {α : Type} (item : Json → Decoded α) : Json → Decoded (List α)
  | .arr vs => itemsFrom item 0 vs
  | v => wrongType v "a sequence"

/-! ## Records -/

/-- Whether a record was given by members or by position. -/
inductive Layout where
  | byName
  | byPosition
  deriving DecidableEq

/-- The value of a required member. -/
def required {α : Type} (layout : Layout) (record member : String) (index size : Nat) :
    Option α → Decoded α
  | some a => .ok a
  | none =>
    match layout with
    | .byName => mismatch (.missingMember member)
    | .byPosition => mismatch (.tooShort index s!"struct {record} with {size} elements")

/-- Refuses a list with more items than the record has members. -/
def noMoreThan (size : Nat) (vs : List Json) : Decoded Unit :=
  if vs.length ≤ size then .ok () else mismatch (.tooLong vs.length)

/-- Reads the members of a record one by one into a draft. -/
def membersInto {δ : Type} (put : Step → String → Json → δ → Decoded δ) :
    List (String × Json) → δ → Decoded δ
  | [], d => .ok d
  | (k, v) :: ms, d => do membersInto put ms (← put (.key k) k v d)

/-- Reads the members of a record by position into a draft; `ks` are the names of the members from
position `i` on. -/
def itemsInto {δ : Type} (put : Step → String → Json → δ → Decoded δ) :
    List String → Nat → List Json → δ → Decoded δ
  | k :: ks, i, v :: vs, d => do itemsInto put ks (i + 1) vs (← put (.index i) k v d)
  | _, _, _, d => .ok d

/-! ## Fields -/

/-- The members of a field that have been read. -/
structure FieldDraft where
  name : Option String := none
  type : Option FieldType := none
  label : Label := .singular
  oneof : Option String := none

namespace FieldDraft

/-- Reads one member. -/
def put (s : Step) (k : String) (v : Json) (d : FieldDraft) : Decoded FieldDraft :=
  match k with
  | "name" => within s ((text v).map fun a => { d with name := some a })
  | "type" => within s ((fieldType v).map fun a => { d with type := some a })
  | "label" => within s ((Schema.label v).map fun a => { d with label := a })
  | "oneof" => within s ((optionalText v).map fun a => { d with oneof := a })
  | _ => .ok d

/-- The field, when its required members are there. -/
def finish (layout : Layout) (d : FieldDraft) : Decoded Field := do
  let name ← required layout "Field" "name" 0 4 d.name
  let type ← required layout "Field" "type" 1 4 d.type
  pure ⟨name, type, d.label, d.oneof⟩

end FieldDraft

/-- Decodes a field. -/
def field : Json → Decoded Field
  | .obj ms => do (← membersInto FieldDraft.put ms {}).finish .byName
  | .arr vs => do
    let d ← itemsInto FieldDraft.put ["name", "type", "label", "oneof"] 0 vs {}
    -- a missing member comes before an item too many
    let f ← d.finish .byPosition
    noMoreThan 4 vs
    pure f
  | v => wrongType v "struct Field"

/-! ## Messages -/

/-- The members of a message that have been read. -/
structure MessageDraft where
  name : Option String := none
  fields : List Field := []
  options : List (String × String) := []
  nested : List Message := []
  mapEntry : Bool := false

namespace MessageDraft

/-- Reads one member other than the nested messages. -/
def put (s : Step) (k : String) (v : Json) (d : MessageDraft) : Decoded MessageDraft :=
  match k with
  | "name" => within s ((text v).map fun a => { d with name := some a })
  | "fields" => within s ((list field v).map fun a => { d with fields := a })
  | "options" => within s ((Schema.options v).map fun a => { d with options := a })
  | "map_entry" => within s ((boolean v).map fun a => { d with mapEntry := a })
  | _ => .ok d

/-- The message, when its required member is there. -/
def finish (layout : Layout) (d : MessageDraft) : Decoded Message := do
  let name ← required layout "Message" "name" 0 5 d.name
  pure ⟨name, d.fields, d.options, d.nested, d.mapEntry⟩

end MessageDraft

mutual

/-- Decodes a message. -/
def message : Json → Decoded Message
  | .obj ms => do (← messageMembers ms {}).finish .byName
  | .arr vs => do
    let d ← messageItems ["name", "fields", "options", "nested", "map_entry"] 0 vs {}
    let m ← d.finish .byPosition
    noMoreThan 5 vs
    pure m
  | v => wrongType v "struct Message"

/-- Decodes a list of messages. -/
def messages : Json → Decoded (List Message)
  | .arr vs => messagesFrom 0 vs
  | v => wrongType v "a sequence"

/-- Decodes the messages of a list from message `i` on. -/
def messagesFrom : Nat → List Json → Decoded (List Message)
  | _, [] => .ok []
  | i, v :: vs => do
    let m ← within (.index i) (message v)
    let ms ← messagesFrom (i + 1) vs
    pure (m :: ms)

/-- Reads the members of a message one by one. -/
def messageMembers : List (String × Json) → MessageDraft → Decoded MessageDraft
  | [], d => .ok d
  | (k, v) :: ms, d => do
    let d ←
      if k = "nested" then
        within (.key k) ((messages v).map fun a => { d with nested := a })
      else d.put (.key k) k v
    messageMembers ms d

/-- Reads the members of a message by position. -/
def messageItems : List String → Nat → List Json → MessageDraft → Decoded MessageDraft
  | k :: ks, i, v :: vs, d => do
    let d ←
      if k = "nested" then
        within (.index i) ((messages v).map fun a => { d with nested := a })
      else d.put (.index i) k v
    messageItems ks (i + 1) vs d
  | _, _, _, d => .ok d

end

/-! ## Units -/

/-- The members of a unit that have been read. -/
structure UnitDraft where
  file : Option String := none
  package : String := ""
  messages : List Message := []

namespace UnitDraft

/-- Reads one member. -/
def put (s : Step) (k : String) (v : Json) (d : UnitDraft) : Decoded UnitDraft :=
  match k with
  | "file" => within s ((text v).map fun a => { d with file := some a })
  | "package" => within s ((text v).map fun a => { d with package := a })
  | "messages" => within s ((Schema.messages v).map fun a => { d with messages := a })
  | _ => .ok d

/-- The unit, when its required member is there. -/
def finish (layout : Layout) (d : UnitDraft) : Decoded SchemaUnit := do
  let file ← required layout "SchemaUnit" "file" 0 3 d.file
  pure ⟨file, d.package, d.messages⟩

end UnitDraft

/-- Decodes a unit. -/
def unit : Json → Decoded SchemaUnit
  | .obj ms => do (← membersInto UnitDraft.put ms {}).finish .byName
  | .arr vs => do
    let d ← itemsInto UnitDraft.put ["file", "package", "messages"] 0 vs {}
    let u ← d.finish .byPosition
    noMoreThan 3 vs
    pure u
  | v => wrongType v "struct SchemaUnit"

/-- Decodes a **document**: a list of units, or a single one. -/
def units : Json → Decoded (List SchemaUnit)
  | .arr vs => itemsFrom unit 0 vs
  | v => (unit v).map fun u => [u]

end ErrorTaxonomy.Schema
