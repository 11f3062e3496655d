import ErrorTaxonomy.Json.Printer
import ErrorTaxonomy.Query.Error

/-! # Engines — what compiles filters and runs them

The language of filters belongs to an **engine**, of which nothing is known here but the shape of its
answers. It compiles a filter or says why not. A compiled filter takes a document and gives one output
after another, each the text of a value or the reason of an error; it may go on forever, with or without
further outputs. -/

namespace ErrorTaxonomy

/-- Why there is **no result**: there is an error instead, or the computation never ends. -/
inductive NoResult (ε : Type) where
  | error (e : ε)
  | endless
  deriving Repr, DecidableEq

/-- Rewords an error. -/
def NoResult.map {ε ε' : Type} (w : ε → ε') : NoResult ε → NoResult ε'
  | .error e => .error (w e)
  | .endless => .endless

namespace Query

/-- The **outputs** of a filter: those it gives, and whether it ends after them. For one that gives values
forever a beginning will do, up to its first error if there is one: no value is used before the last. -/
structure Outputs where
  given : List (Except String String)
  ends : Bool

/-- Why a filter does not compile. -/
inductive Refusal where
  /-- It does not parse, for these reasons. -/
  | unreadable (reasons : List String)
  /-- It uses names that nothing defines, each as a variable, a function or something else. -/
  | undefinedNames (names : List (String × String))
  deriving Repr, DecidableEq

/-- The error for a filter that does not compile. -/
def Refusal.toError (filter : String) : Refusal → QueryError
  | .unreadable reasons => .unreadable filter (String.intercalate "; " reasons)
  | .undefinedNames names =>
    .undefinedNames filter (names.map fun n => n.1 ++ " (" ++ n.2 ++ ")")

/-- An **engine** for filters. -/
structure Engine where
  compile : (filter : String) → Except Refusal (Json → Outputs)

/-! ## Texts of values -/

/-- The written form of one character of a string: of the control characters only tabs and line breaks
have a short escape. -/
def stringChar (c : Char) : List Char :=
  if c = '\x08' ∨ c = '\x0c' then Json.controlEscape c else Json.stringChar c

/-- The style in which an engine writes a document that it passes on: numbers stay as they are written
in a document. -/
def style : Json.Style Json.Number := ⟨Json.Number.text, stringChar⟩

/-- An engine has the **identity** when its filter `.` gives each document once, written out, and ends. -/
def Engine.HasIdentity (engine : Engine) : Prop :=
  ∃ program, engine.compile "." = .ok program ∧
    ∀ document : Json, program document = ⟨[.ok (document.render style)], true⟩

end Query
end ErrorTaxonomy
