import ErrorTaxonomy.Emit.Code
import ErrorTaxonomy.Plan.Basic

/-! # Items — the impl blocks generated for one error

The plan of an error becomes a list of **items**: how the error shows itself, which error it wraps, and
for a sum error the constructors and conversions from its members. Dispatch over a union is a list of
patterns with a fallback at the end, and every list follows the order of the members. -/

namespace ErrorTaxonomy

/-- A pattern for one member of a union: the path of the union type and the variant. -/
structure VariantPattern where
  unionType : List String
  variant : String
  deriving Repr, DecidableEq

/-- How an error shows itself. -/
inductive DisplayBody where
  /-- A text without slots. -/
  | text (s : String)
  /-- A format string and the expressions for its slots. -/
  | format (s : String) (args : List String)
  /-- The member of a union field that is set, or a fallback text. -/
  | dispatch (field : String) (arms : List VariantPattern) (fallback : String)
  deriving Repr, DecidableEq

/-- Which error an error wraps. -/
inductive SourceBody where
  /-- None. -/
  | none
  /-- The one in a field, when it is set. -/
  | field (ident : String)
  /-- The member of a union field that is set, if it is an error. -/
  | dispatch (field : String) (arms : List VariantPattern)
  deriving Repr, DecidableEq

/-- A function that makes a sum error of one member. -/
structure Constructor where
  name : String
  argument : String
  field : String
  variant : VariantPattern
  /-- Whether the remaining fields take their defaults. -/
  rest : Bool
  deriving Repr, DecidableEq

/-- An impl block for a type. -/
inductive Item where
  | display (type : String) (body : DisplayBody)
  | source (type : String) (body : SourceBody)
  | constructors (type : String) (functions : List Constructor)
  | conversion (source target constructor : String)
  deriving Repr, DecidableEq

/-- What a sum error shows when no member is set or the set member is no error. -/
def unknownError : String := "unknown error"

/-! ## Items of a plan -/

/-- How a leaf error shows itself. -/
def LeafPlan.displayBody (p : LeafPlan) : DisplayBody :=
  match p.format.literalText? with
  | some s => .text s
  | none => .format p.format.formatString (p.format.accessors.map Accessor.expr)

/-- Which error a leaf error wraps. -/
def LeafPlan.sourceBody (p : LeafPlan) : SourceBody :=
  match p.cause with
  | some field => .field (Ident.fieldIdent field)
  | none => .none

/-- The items of a leaf error. -/
def LeafPlan.items (p : LeafPlan) : List Item :=
  [.display p.path.render p.displayBody, .source p.path.render p.sourceBody]

/-- The members of a sum error that are messages, with their types. -/
def SumPlan.typed (p : SumPlan) : List (SumMember × MemberType) :=
  p.members.filterMap fun m => m.type?.map (m, ·)

/-- The pattern of a member. -/
def SumPlan.pattern (p : SumPlan) (m : SumMember) : VariantPattern := ⟨p.unionType, m.variant⟩

/-- The constructor for a member. -/
def SumPlan.constructor (p : SumPlan) (m : SumMember) (t : MemberType) : Constructor :=
  ⟨t.constructor, t.path.render, p.unionField, p.pattern m, p.hasOtherFields⟩

/-- The items of a sum error. -/
def SumPlan.items (p : SumPlan) : List Item :=
  let type := p.path.render
  let arms := p.typed.map fun mt => p.pattern mt.1
  [.display type (.dispatch p.unionField arms unknownError),
    .source type (.dispatch p.unionField arms)] ++
  match p.typed with
  | [] => []
  | typed =>
    .constructors type (typed.map fun mt => p.constructor mt.1 mt.2) ::
      typed.map fun mt => .conversion mt.2.path.render type mt.2.constructor

/-- The **items** of a plan. -/
def ErrorPlan.items : ErrorPlan → List Item
  | .leaf p => p.items
  | .sum p => p.items

end ErrorTaxonomy
