import ErrorTaxonomy.Text.Quoted

/-! # Schema errors — authoring mistakes in a message

Each error names the offending message; `SchemaError.text` is its wording. -/

namespace ErrorTaxonomy

/-- Why a message cannot be planned. -/
inductive SchemaError where
  /-- A placeholder of the display format under `key` is not the name of a field. -/
  | unknownField (message field key : String)
  /-- A leaf error has no display format under `key`. -/
  | missingFormat (message key : String)
  /-- The fields of the message name several oneofs. -/
  | multipleUnions (message : String) (unions : List String)
  /-- Several fields could be the cause. -/
  | ambiguousCause (message : String) (candidates : List String)
  /-- Several members of a union have one constructor. -/
  | duplicateConstructor (message union type : String) (fields : List String)
  deriving Repr, DecidableEq

namespace SchemaError

/-- The offending message. -/
def message : SchemaError → String
  | .unknownField m _ _ => m
  | .missingFormat m _ => m
  | .multipleUnions m _ => m
  | .ambiguousCause m _ => m
  | .duplicateConstructor m _ _ _ => m

/-- The wording of a schema error. -/
def text : SchemaError → String
  | .unknownField m field key =>
    "field \x7b" ++ field ++ "\x7d in (" ++ key ++ ") not found in message " ++ m
  | .missingFormat m key => "missing (" ++ key ++ ") option in message " ++ m
  | .multipleUnions m unions =>
    "multiple oneofs not allowed in message " ++ m ++ ", found " ++ toString unions.length ++ ": " ++
      Text.quoteList unions
  | .ambiguousCause m candidates =>
    "only one unwrappable field allowed in message " ++ m ++ ", found: " ++
      Text.quoteList candidates
  | .duplicateConstructor m union type fields =>
    "oneof " ++ union ++ " in message " ++ m ++ " holds " ++ type ++ " more than once: " ++
      Text.quoteList fields

end SchemaError
end ErrorTaxonomy
