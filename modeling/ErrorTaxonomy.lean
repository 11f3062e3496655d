import ErrorTaxonomy.Main
import ErrorTaxonomy.Schema.Encode
import ErrorTaxonomy.Proofs.Distinct
import ErrorTaxonomy.Proofs.Traversal
import ErrorTaxonomy.Proofs.Text.Ascii
import ErrorTaxonomy.Proofs.Text.CaseMap
import ErrorTaxonomy.Proofs.Text.Letters
import ErrorTaxonomy.Proofs.Text.Literal
import ErrorTaxonomy.Proofs.Template.Compile
import ErrorTaxonomy.Proofs.Template.FormatString
import ErrorTaxonomy.Proofs.Text.Bytes
import ErrorTaxonomy.Proofs.Template.Scan
import ErrorTaxonomy.Proofs.Emit.RenderLiteral
import ErrorTaxonomy.Proofs.Ident.Words
import ErrorTaxonomy.Proofs.Ident.Runs
import ErrorTaxonomy.Proofs.Ident.Cuts
import ErrorTaxonomy.Proofs.Ident.Spelling
import ErrorTaxonomy.Proofs.Ident.AsciiWords
import ErrorTaxonomy.Proofs.Ident.ReadBack
import ErrorTaxonomy.Proofs.Ident.Legal
import ErrorTaxonomy.Proofs.Ident.SnakeCase
import ErrorTaxonomy.Proofs.Ident.CamelCase
import ErrorTaxonomy.Proofs.Ident.Path
import ErrorTaxonomy.Proofs.Ident.Dotted
import ErrorTaxonomy.Proofs.Schema.Unions
import ErrorTaxonomy.Proofs.Schema.Index
import ErrorTaxonomy.Proofs.Schema.Package
import ErrorTaxonomy.Proofs.Schema.Address
import ErrorTaxonomy.Proofs.Schema.Snapshot
import ErrorTaxonomy.Proofs.Schema.Resolution
import ErrorTaxonomy.Proofs.Plan.Rules
import ErrorTaxonomy.Proofs.Plan.Constructors
import ErrorTaxonomy.Proofs.Plan.Causes
import ErrorTaxonomy.Proofs.Plan.Exact
import ErrorTaxonomy.Proofs.Generate.Run
import ErrorTaxonomy.Proofs.Generate.Coercion
import ErrorTaxonomy.Proofs.Generate.Delegation
import ErrorTaxonomy.Proofs.Generate.Snapshot
import ErrorTaxonomy.Proofs.Generate.Path
import ErrorTaxonomy.Proofs.Generate.Conversion
import ErrorTaxonomy.Proofs.Generate.Outcome
import ErrorTaxonomy.Proofs.Load.Failure
import ErrorTaxonomy.Proofs.CommandLine.Atomicity
import ErrorTaxonomy.Proofs.CommandLine.Stages
import ErrorTaxonomy.Proofs.CommandLine.Agreement
import ErrorTaxonomy.Proofs.FileSystem.Growth
import ErrorTaxonomy.Proofs.CommandLine.Storage
import ErrorTaxonomy.Proofs.FileSystem.Footprint
import ErrorTaxonomy.Proofs.Schema.RoundTrip
import ErrorTaxonomy.Proofs.CommandLine.Confinement
import ErrorTaxonomy.Proofs.Json.Members
import ErrorTaxonomy.Proofs.Json.Reread
import ErrorTaxonomy.Proofs.Schema.Numbers
import ErrorTaxonomy.Proofs.Decimal.Double
import ErrorTaxonomy.Proofs.Json.Scale
import ErrorTaxonomy.Proofs.Decimal.Shortest
import ErrorTaxonomy.Proofs.Decimal.Layout
import ErrorTaxonomy.Proofs.Json.Numeral
import ErrorTaxonomy.Proofs.Query.Identity
import ErrorTaxonomy.Proofs.Load.Identity
import ErrorTaxonomy.Proofs.Generate.Names
import ErrorTaxonomy.Proofs.Generate.Forest
import ErrorTaxonomy.Proofs.Plan.Partition
import ErrorTaxonomy.Proofs.Template.NormalForm
import ErrorTaxonomy.Proofs.Emit.Layout
import ErrorTaxonomy.Proofs.Emit.Impls
import ErrorTaxonomy.Proofs.Emit.Dispatch
import ErrorTaxonomy.Proofs.Schema.Lists
import ErrorTaxonomy.Proofs.Schema.Slots
import ErrorTaxonomy.Proofs.Schema.Presentation
import ErrorTaxonomy.Proofs.Glob.Refusal
import ErrorTaxonomy.Proofs.Load.Order
