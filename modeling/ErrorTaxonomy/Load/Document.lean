import ErrorTaxonomy.Json.Parser
import ErrorTaxonomy.Load.Error
import ErrorTaxonomy.Schema.Decode

/-! # Documents — units from JSON text and JSON values

A document holds one unit or a list of units. Its text is read up to the end of the first value. -/

namespace ErrorTaxonomy.Document

/-- The units of a JSON value. -/
def unitsOfJson (origin : String) (v : Json) : Except LoadError (List SchemaUnit) :=
  (Schema.units v).mapError fun f => .undecodable origin f.path f.mismatch.message

/-- The units of a JSON text. -/
def unitsOfText (origin source : String) : Except LoadError (List SchemaUnit) := do
  let v ← (Json.readFirst source).mapError fun f =>
    .undecodable origin f.path (f.message source.toList)
  unitsOfJson origin v

end ErrorTaxonomy.Document
