import ErrorTaxonomy.Plan.Error
import ErrorTaxonomy.Schema.Index
import ErrorTaxonomy.Template.Placeholder

/-! # Causes — the field that a leaf error unwraps to

A field is a **candidate** when the display format mentions it, it holds at most one message, and that
message has a display format of its own. One candidate is the cause; several are an error. A mentioned
message field whose type the index does not know is no candidate and is reported. -/

namespace ErrorTaxonomy

/-- The type names of the mentioned fields that hold at most one message, with the fields. -/
def mentionedMessages (m : Message) (format : String) : List (Field × String) :=
  m.fields.filterMap fun f =>
    if Template.mentions format f.name then f.messageType?.map (f, ·) else none

/-- Whether the type of a field resolves to a message with a display format. -/
def hasFormat (ix : SchemaIndex) (package key typeName : String) : Bool :=
  (ix.resolve? typeName package).any fun e => (e.message.annotation? key).isSome

/-- The fields that could be the cause. -/
def causeCandidates (m : Message) (format : String) (ix : SchemaIndex) (package key : String) :
    List Field :=
  ((mentionedMessages m format).filter fun p => hasFormat ix package key p.2).map Prod.fst

/-- The **cause** of a leaf error, if it has one. -/
def resolveCause (m : Message) (format : String) (ix : SchemaIndex) (package key : String) :
    Except SchemaError (Option Field) :=
  match causeCandidates m format ix package key with
  | [] => .ok none
  | [f] => .ok (some f)
  | fs => .error (.ambiguousCause m.name (fs.map (·.name)))

/-- The mentioned message fields whose type is not in the index. -/
def unresolvedCauses (m : Message) (format : String) (ix : SchemaIndex) (package : String) :
    List (Field × String) :=
  (mentionedMessages m format).filter fun p => (ix.resolve? p.2 package).isNone

end ErrorTaxonomy
