/-! # Query errors — why a filter gives no values

A filter may not parse, may use names that nothing defines, may fail on its input, or may yield a value
that has no JSON text. -/

namespace ErrorTaxonomy.Query

/-- Why a filter gives no values. -/
inductive QueryError where
  /-- The filter does not parse. -/
  | unreadable (filter detail : String)
  /-- The filter uses undefined names, in this order. -/
  | undefinedNames (filter : String) (names : List String)
  /-- The filter fails on its input. -/
  | failed (reason : String)
  /-- A value has no JSON text: what is wrong with the text that was written for it. -/
  | unwritable (reason : String)
  deriving Repr, DecidableEq

namespace QueryError

/-- The wording of a query error. -/
def text : QueryError → String
  | .unreadable filter detail => "parse error in `" ++ filter ++ "`: " ++ detail
  | .undefinedNames filter names =>
    "undefined in `" ++ filter ++ "`: " ++ String.intercalate ", " names
  | .failed reason => reason
  | .unwritable reason => "output is not JSON: " ++ reason

/-- The wordings of a query error and of what is behind it, outermost first. -/
def chain : QueryError → List String
  | .unwritable reason => [(QueryError.unwritable reason).text, reason]
  | e => [e.text]

end QueryError
end ErrorTaxonomy.Query
