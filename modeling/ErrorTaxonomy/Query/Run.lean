import ErrorTaxonomy.Json.Parser
import ErrorTaxonomy.Query.Engine

/-! # Running filters on documents

A filter is compiled and run by an engine, and the texts of its outputs are read back as JSON, up to the
first that is an error or cannot be read back. -/

namespace ErrorTaxonomy.Query

/-- The JSON value of an output. -/
def output : Except String String → Except QueryError Json
  | .error reason => .error (.failed reason)
  | .ok text => (Json.read text).mapError fun f => .unwritable (f.message text.toList)

/-- **Runs** a filter on a document. -/
def run (engine : Engine) (filter : String) (document : Json) :
    Except (NoResult QueryError) (List Json) := do
  let program ← (engine.compile filter).mapError fun r => .error (r.toError filter)
  let outputs := program document
  let values ← (outputs.given.mapM output).mapError .error
  -- a filter that goes on forever is waited for
  if outputs.ends then pure values else throw .endless

end ErrorTaxonomy.Query
