import ErrorTaxonomy.Plan.Error
import ErrorTaxonomy.Schema.Basic

/-! # Kinds of errors — leaf and sum

A message without a oneof is a **leaf** error and renders from its own fields. A message with exactly
one oneof is a **sum** error and delegates to the member that is set. -/

namespace ErrorTaxonomy

/-- How an error renders. -/
inductive ErrorKind where
  | leaf
  | sum (union : TaggedUnion)
  deriving Repr, DecidableEq

/-- The **kind** of a message; several oneofs are an error. -/
def Message.kind (m : Message) : Except SchemaError ErrorKind :=
  match m.unions with
  | [] => .ok .leaf
  | [u] => .ok (.sum u)
  | us => .error (.multipleUnions m.name (us.map (·.name)))

end ErrorTaxonomy
