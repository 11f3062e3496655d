import ErrorTaxonomy.Json.Basic
import ErrorTaxonomy.Schema.Basic

/-! # Schema index — messages by full name across all units

The index maps the full name of every message, without a leading dot, to the message and where it
stands; of two messages with one full name the **last** wins. It also knows the packages of the units,
and splits a type name at the longest of them. -/

namespace ErrorTaxonomy

/-- A message of the index, with its unit and the names of the messages around it. -/
structure IndexEntry where
  unit : SchemaUnit
  parents : List String
  message : Message

/-- The messages and packages of all units. -/
structure SchemaIndex where
  entries : List (String × IndexEntry)
  packages : List String

/-- The full name of a message: the non-empty ones of package and parents, then its own name. -/
def fullName (package : String) (parents : List String) (name : String) : String :=
  String.join (((package :: parents).filter (· ≠ "")).map (· ++ ".")) ++ name

namespace SchemaIndex

/-- The messages of a unit under their full names. -/
def unitEntries (u : SchemaUnit) : List (String × IndexEntry) :=
  u.placed.map fun p => (fullName u.package p.parents p.message.name, ⟨u, p.parents, p.message⟩)

/-- **Builds** the index of a list of units. -/
def build (units : List SchemaUnit) : SchemaIndex where
  entries := Json.ofPairs (units.flatMap unitEntries)
  packages := ((units.map (·.package)).filter (· ≠ "")).eraseDups

/-- The number of full names. -/
def size (ix : SchemaIndex) : Nat := ix.entries.length

/-- **Resolves** a type name as written on a field of `package`: as a full name first and, unless it
has a leading dot, relative to the package next. -/
def resolve? (ix : SchemaIndex) (typeName package : String) : Option IndexEntry :=
  let name := Text.withoutDot typeName
  match ix.entries.lookup name with
  | some e => some e
  | none =>
    if package = "" ∨ Text.startsWith "." typeName then none
    else ix.entries.lookup (package ++ "." ++ name)

/-- The rest of a name inside a package. -/
def inside? (name package : String) : Option String :=
  Text.afterPrefix? (package ++ ".") name

/-- The longer of two splits. -/
def longer (a : Option (String × String)) (b : String × String) : Option (String × String) :=
  match a with
  | none => some b
  | some a => if b.1.utf8ByteSize < a.1.utf8ByteSize then some a else some b

/-- Splits a type name into the **longest** loaded package and the path inside it. -/
def splitPackage? (ix : SchemaIndex) (typeName : String) : Option (String × String) :=
  let name := Text.withoutDot typeName
  (ix.packages.filterMap fun p => (inside? name p).map (p, ·)).foldl longer none

end SchemaIndex
end ErrorTaxonomy
