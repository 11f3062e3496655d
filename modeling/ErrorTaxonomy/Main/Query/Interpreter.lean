import ErrorTaxonomy.Main.Query.Eval
import ErrorTaxonomy.Main.Query.Parser

/-! # The interpreter — an engine for a part of the language

Filters that go through a document, choose, build, sort and compute are compiled to terms and run. Of
the rest of the language, such as definitions and regular expressions, the interpreter knows nothing: it
does not compile filters that use it. -/

namespace ErrorTaxonomy.Query

/-- The output of a term as a text or as the reason of an error. -/
def answer : Except Value Value → Except String String
  | .error e => .error e.text
  | .ok v => .ok v.text

/-- The **interpreter**. -/
def interpreter : Engine where
  compile filter :=
    match readFilter filter with
    | none => .error (.unreadable [])
    | some t =>
      match t.undefinedNames [] with
      | [] => .ok fun document => ⟨(t.run [] (Value.ofJson document)).map answer, true⟩
      | names => .error (.undefinedNames (names.map Undefined.described))

end ErrorTaxonomy.Query
