import ErrorTaxonomy.Ident.Path
import ErrorTaxonomy.Plan.Options
import ErrorTaxonomy.Schema.Index

/-! # Accessors — how a placeholder shows a field

A placeholder becomes an expression that shows the value of a field. Which expression depends on the
type and the label of the field, and for a message on whether the same run gives that message a way to
show itself. Types without an entry in the index get a **guessed** path: the longest loaded package
that starts the name, or everything before the first capitalized segment. -/

namespace ErrorTaxonomy

/-- Where a message stands, and the run around it. -/
structure Context where
  index : SchemaIndex
  package : String
  parents : List String
  options : Options

/-- A form of access to a field. -/
inductive Access where
  /-- The value as a developer would see it. -/
  | debug
  /-- The value through its own way to show itself; nothing when it is unset. -/
  | display
  /-- Bytes as text. -/
  | bytes (unset : Bool)
  /-- A text that may be unset. -/
  | optionalText
  /-- The name of an enum value, or its number. -/
  | enumName (path : Ident.ItemPath) (unset : Bool)
  /-- The value itself. -/
  | value (unset : Bool)
  deriving Repr, DecidableEq

/-- A field and the form of access to it. -/
structure Accessor where
  field : String
  access : Access
  deriving Repr, DecidableEq

namespace Context

/-- Whether the run makes the message of that type name show itself. -/
def renders (c : Context) (typeName : String) : Bool :=
  (c.index.resolve? typeName c.package).any fun e => c.options.qualifies e.message

/-- Whether a segment of a name starts with a capital. -/
def isCapitalized (s : String) : Bool := s.toList.head?.any Text.isUppercase

/-- The package and the path in it that a type name without a loaded package probably means: the last
segment is never part of the package. -/
def guessSplit (name : String) : List String × List String :=
  let segments := Text.dotted name
  let n := (segments.dropLast.takeWhile (!isCapitalized ·)).length
  (segments.take n, segments.drop n)

/-- The simple name and the path of a type that has no entry in the index. -/
def guessPath (c : Context) (typeName : String) : String × Ident.ItemPath :=
  let name := Text.withoutDot typeName
  let (package, path) :=
    match c.index.splitPackage? name with
    | some (package, inner) => (package, Text.dotted inner)
    | none =>
      let (package, path) := guessSplit name
      (String.intercalate "." package, path)
  let last := path.getLast?.getD name
  (last, Ident.typePath c.package package path.dropLast last)

/-- The simple name and the path of a message type. -/
def typeOf (c : Context) (typeName : String) : String × Ident.ItemPath :=
  match c.index.resolve? typeName c.package with
  | some e => (e.message.name, Ident.typePath c.package e.unit.package e.parents e.message.name)
  | none => c.guessPath typeName

/-- The path of a message of this very package. -/
def ownPath (c : Context) (m : Message) : Ident.ItemPath :=
  Ident.typePath c.package c.package c.parents m.name

/-- The form of access to a field. -/
def access (c : Context) (f : Field) : Access :=
  match f.type, f.label with
  -- a list has no text of its own, whatever its items are
  | _, .repeated => .debug
  | .message name, _ => if c.renders name then .display else .debug
  | .scalar .bytes, l => .bytes (l = .optional)
  | .scalar .string, .optional => .optionalText
  | .enum name, l => .enumName (c.guessPath name).2 (l = .optional)
  | _, l => .value (l = .optional)

/-- The accessor of a field. -/
def accessor (c : Context) (f : Field) : Accessor := ⟨f.name, c.access f⟩

end Context

/-! ## Expressions -/

/-- A field of the error, or its default when it may be unset and is. -/
def valueExpr (ident : String) (unset : Bool) : String :=
  "self." ++ ident ++ if unset then ".unwrap_or_default()" else ""

/-- The name of an enum value, or its number when it is no known value. -/
def enumNameExpr (path value : String) : String :=
  "match <" ++ path ++ " as ::std::convert::TryFrom<i32>>::try_from(" ++ value ++ ") \x7b " ++
    "::std::result::Result::Ok(v) => ::std::borrow::Cow::Borrowed(v.as_str_name()), " ++
    "::std::result::Result::Err(_) => " ++
    "::std::borrow::Cow::Owned(::std::string::ToString::to_string(&" ++ value ++ ")) \x7d"

/-- The expression for a form of access to the field with that identifier. -/
def Access.expr (ident : String) : Access → String
  | .debug => "::std::format_args!(\"\x7b:?\x7d\", self." ++ ident ++ ")"
  | .display =>
    "self." ++ ident ++ ".as_ref().map_or(&\"\" as &dyn ::std::fmt::Display, " ++
      "|v| v as &dyn ::std::fmt::Display)"
  | .bytes true =>
    "::std::string::String::from_utf8_lossy(self." ++ ident ++ ".as_deref().unwrap_or_default())"
  | .bytes false => "::std::string::String::from_utf8_lossy(&self." ++ ident ++ ")"
  | .optionalText => "self." ++ ident ++ ".as_deref().unwrap_or_default()"
  | .enumName path unset => enumNameExpr path.render (valueExpr ident unset)
  | .value unset => valueExpr ident unset

/-- The expression of an accessor. -/
def Accessor.expr (a : Accessor) : String := a.access.expr (Ident.fieldIdent a.field)

end ErrorTaxonomy
