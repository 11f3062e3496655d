/-! # JSON paths — where in a document something is

A path is a list of steps from the root, written `messages[0].name`; the root is a single dot. The
**unknown** step stands for a member whose key is still being read. -/

namespace ErrorTaxonomy.Json

/-- One step into a JSON value. -/
inductive Step where
  | index (i : Nat)
  | key (k : String)
  | unknown
  deriving Repr, DecidableEq

/-- The steps from the root of a document. -/
abbrev Path := List Step

/-- The text of one step. -/
def Step.render : Step → String
  | .index i => s!"[{i}]"
  | .key k => k
  | .unknown => "?"

/-- The text of the steps after the first: a dot stands before each member, none before an index. -/
def Path.renderTail : Path → String
  | [] => ""
  | .index i :: p => (Step.index i).render ++ renderTail p
  | s :: p => "." ++ s.render ++ renderTail p

/-- The text of a path. -/
def Path.render : Path → String
  | [] => "."
  | s :: p => s.render ++ Path.renderTail p

@[simp] theorem Path.render_nil : Path.render [] = "." := rfl

/-- After an index, the rest of a path follows behind a dot or, where it starts with an index too,
directly. -/
theorem Path.render_index_cons (i : Nat) (p : Path) :
    Path.render (.index i :: p) = (Step.index i).render ++ Path.renderTail p := rfl

end ErrorTaxonomy.Json
