import ErrorTaxonomy.Load.Document
import ErrorTaxonomy.Query.Run

/-! # Loading — units from files

Input patterns are all expanded before any file is read. Each file is a document; a filter turns a
document into others, and then nothing but blanks may follow the first value of the file. What patterns
match and what filters give is left to tools; a filter that never ends leaves the load without a
result. -/

namespace ErrorTaxonomy.Load

/-- The **tools** that a load makes use of. -/
structure Tools where
  search : Search
  engine : Query.Engine

/-- The units of a document that is filtered first. -/
def filtered (engine : Query.Engine) (origin source filter : String) :
    Except (NoResult LoadError) (List SchemaUnit) := do
  let document ← (Json.read source).mapError fun f =>
    .error (.undecodable origin [] (f.message source.toList))
  let outputs ← (Query.run engine filter document).mapError (.map (.query origin))
  let units ← (outputs.mapM (Document.unitsOfJson origin)).mapError .error
  pure units.flatten

/-- The units of a text, filtered first if there is a filter. -/
def ofText (engine : Query.Engine) (filter : Option String) (origin source : String) :
    Except (NoResult LoadError) (List SchemaUnit) :=
  match filter with
  | none => (Document.unitsOfText origin source).mapError .error
  | some filter => filtered engine origin source filter

/-- The units of a file. -/
def file (engine : Query.Engine) (fs : FileSystem) (filter : Option String) (path : String) :
    Except (NoResult LoadError) (List SchemaUnit) := do
  let source ← (fs.readText path).mapError fun e => .error (.unreadable path e)
  ofText engine filter path source

/-- The units of several files, in order. -/
def files (engine : Query.Engine) (fs : FileSystem) (filter : Option String) (paths : List String) :
    Except (NoResult LoadError) (List SchemaUnit) :=
  (paths.mapM (file engine fs filter)).map List.flatten

/-- The paths that input patterns name. -/
def paths (search : Search) (fs : FileSystem) (patterns : List String) :
    Except LoadError (List String) :=
  (expandAll search fs patterns).mapError .pattern

/-- **Loads** the units of all files that input patterns name. -/
def all (tools : Tools) (fs : FileSystem) (filter : Option String) (patterns : List String) :
    Except (NoResult LoadError) (List SchemaUnit) := do
  files tools.engine fs filter (← (paths tools.search fs patterns).mapError .error)

end ErrorTaxonomy.Load
