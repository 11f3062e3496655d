import ErrorTaxonomy.Ident.Words

/-! # Identifiers — the Rust names of fields, modules, types and variants

A schema name is re-spelled from its words, in **snake case** for fields and modules and in **upper
camel case** for types and variants. A spelling that is a keyword becomes a raw identifier, one that
cannot be raw gets an underscore behind it, and one that starts with a number gets an underscore in
front. -/

namespace ErrorTaxonomy.Ident

/-- Keywords that have no raw form, and the lone underscore. -/
def unrawable : List String := ["_", "self", "super", "crate", "Self", "extern"]

/-- Keywords that have a raw form. -/
def rawable : List String := [
  "abstract", "as", "async", "await", "become", "box", "break", "const", "continue", "do", "dyn",
  "else", "enum", "false", "final", "fn", "for", "gen", "if", "impl", "in", "let", "loop", "macro",
  "match", "mod", "move", "mut", "override", "priv", "pub", "ref", "return", "static", "struct",
  "trait", "true", "try", "type", "typeof", "unsafe", "unsized", "use", "virtual", "where", "while",
  "yield"]

/-- Whether a spelling starts with a number of any script. -/
def startsWithNumber (s : String) : Bool := s.toList.head?.any Text.isNumeric

/-- Makes an identifier of a spelling. -/
def legalize (s : String) : String :=
  if s ∈ unrawable then s ++ "_"
  else if s ∈ rawable then "r#" ++ s
  else if startsWithNumber s then "_" ++ s
  else s

/-- The words of a name, lowered and joined by underscores. -/
def snakeCase (s : String) : String :=
  String.ofList (List.intercalate ['_'] ((words s.toList).map Text.lowerWord))

/-- The words of a name, each with a capital, run together. -/
def upperCamelCase (s : String) : String :=
  String.ofList ((words s.toList).flatMap Text.capitalize)

/-- The identifier of a **field** or a module. -/
def fieldIdent (s : String) : String := legalize (snakeCase s)

/-- The identifier of a **type** or a variant. -/
def typeIdent (s : String) : String := legalize (upperCamelCase s)

end ErrorTaxonomy.Ident
