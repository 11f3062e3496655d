import ErrorTaxonomy.Emit.Item
import ErrorTaxonomy.Plan.Unit

/-! # Source text — items written as Rust

Each item is written as one impl block after a blank line. Every name of the standard library is a full
path, so that the text can be included next to any other code of its package. -/

namespace ErrorTaxonomy

/-- The name of this tool in what it generates. -/
def toolName : String := "proto-errgen"

namespace Emit

/-- The type of a wrapped error. -/
def dynError : String := "(dyn ::std::error::Error + 'static)"

/-- The empty option. -/
def none : String := "::std::option::Option::None"

/-- A filled option. -/
def some (s : String) : String := "::std::option::Option::Some(" ++ s ++ ")"

/-- The expression or pattern for a variant with that payload. -/
def variant (v : VariantPattern) (payload : String) : String :=
  String.intercalate "::" v.unionType ++ "::" ++ v.variant ++ "(" ++ payload ++ ")"

/-- An arm that takes the payload of a variant. -/
def arm (body : String) (v : VariantPattern) : Code :=
  .line (some (variant v "v") ++ " => " ++ body ++ ",")

/-- The arm for everything else. -/
def lastArm (body : String) : Code := .line ("_ => " ++ body ++ ",")

/-- A match over a union field: one arm for each pattern and a last one. -/
def dispatch (field body last : String) (arms : List VariantPattern) : Code :=
  .block ("match &self." ++ field) (arms.map (arm body) ++ [lastArm last])

/-- Writes a text to the formatter. -/
def writeText (s : String) : String := "f.write_str(" ++ Text.quote s ++ ")"

/-- The body of a display function. -/
def displayCode : DisplayBody → Code
  | .text s => .line (writeText s)
  | .format s args =>
    .line ("::std::write!(f, " ++ Text.quote s ++ ", " ++ String.intercalate ", " args ++ ")")
  | .dispatch field arms fallback =>
    dispatch field "::std::fmt::Display::fmt(v, f)" (writeText fallback) arms

/-- The body of a source function. -/
def sourceCode : SourceBody → Code
  | .none => .line none
  | .field ident => .line ("self." ++ ident ++ ".as_ref().map(|v| v as &" ++ dynError ++ ")")
  | .dispatch field arms => dispatch field (some ("v as &" ++ dynError)) none arms

/-- A constructor. -/
def constructorCode (c : Constructor) : Code :=
  .block ("pub fn " ++ c.name ++ "(leaf: " ++ c.argument ++ ") -> Self") [
    .block "Self" (
      .line (c.field ++ ": " ++ some (variant c.variant "leaf") ++ ",") ::
        if c.rest then [.line "..::std::default::Default::default()"] else [])]

/-- Constructors with a blank line between them. -/
def constructorsCode : List Constructor → List Code
  | [] => []
  | [c] => [constructorCode c]
  | c :: cs => constructorCode c :: .blank :: constructorsCode cs

/-- The impl block of an item. -/
def itemCode : Item → Code
  | .display type body =>
    .block ("impl ::std::fmt::Display for " ++ type) [
      .block "fn fmt(&self, f: &mut ::std::fmt::Formatter<'_>) -> ::std::fmt::Result"
        [displayCode body]]
  | .source type body =>
    .block ("impl ::std::error::Error for " ++ type) [
      .block ("fn source(&self) -> ::std::option::Option<&" ++ dynError ++ ">")
        [sourceCode body]]
  | .constructors type functions => .block ("impl " ++ type) (constructorsCode functions)
  | .conversion source target constructor =>
    .block ("impl ::std::convert::From<" ++ source ++ "> for " ++ target) [
      .block ("fn from(leaf: " ++ source ++ ") -> Self")
        [.line ("Self::" ++ constructor ++ "(leaf)")]]

/-- Items, each after a blank line. -/
def itemsCode (is : List Item) : List Code := is.flatMap fun i => [.blank, itemCode i]

/-- The text of a plan. -/
def planText (p : ErrorPlan) : String := Code.renderAll 0 (itemsCode p.items)

/-- The comment lines at the top of the artifact of a unit. -/
def header (u : SchemaUnit) : String :=
  "// Code generated by " ++ toolName ++ ". DO NOT EDIT.\n// source: " ++ u.file ++ "\n" ++
    if u.package = "" then "" else "// package: " ++ u.package ++ "\n"

/-- The text of an artifact: its header, then the text of each plan. -/
def artifactText (u : SchemaUnit) (plans : List ErrorPlan) : String :=
  header u ++ String.join (plans.map planText)

end Emit
end ErrorTaxonomy
