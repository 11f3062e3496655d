import ErrorTaxonomy.Json.Path
import ErrorTaxonomy.Load.Pattern
import ErrorTaxonomy.Query.Error

/-! # Load errors — why a document gives no units -/

namespace ErrorTaxonomy

/-- Why loading fails. -/
inductive LoadError where
  /-- A file cannot be read. -/
  | unreadable (path : String) (error : OsError)
  /-- A document is no JSON, or its JSON is no list of units. -/
  | undecodable (origin : String) (path : Json.Path) (reason : String)
  /-- The filter gives no values for a document. -/
  | query (origin : String) (error : Query.QueryError)
  /-- An input pattern names no files. -/
  | pattern (error : Load.PatternError)
  deriving Repr, DecidableEq

namespace LoadError

/-- The wording of a load error. -/
def text : LoadError → String
  | .unreadable path e => "failed to read " ++ path ++ ": " ++ e.text
  | .undecodable origin path reason =>
    origin ++ ": at JSON path " ++ path.render ++ " → " ++ reason
  | .query origin e => origin ++ ": jq filter failed: " ++ e.text
  | .pattern e => "bad input pattern: " ++ e.text

/-- The wordings of a load error and of what is behind it, outermost first. -/
def chain : LoadError → List String
  | .unreadable path e => [(LoadError.unreadable path e).text, e.text]
  | .query origin e => (LoadError.query origin e).text :: e.chain
  | e => [e.text]

end LoadError
end ErrorTaxonomy
