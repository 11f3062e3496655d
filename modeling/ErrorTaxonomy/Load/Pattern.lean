import ErrorTaxonomy.FileSystem.Basic

/-! # Input patterns — the paths that are named

A pattern without wildcards is a path, which is not looked up. What one with wildcards matches is found
by a **search**, of which nothing is known here but the shape of its answers: it refuses the pattern, or
gives the entries it comes to, one after the other. -/

namespace ErrorTaxonomy.Load

/-- Why an input pattern names no files. -/
inductive PatternError where
  /-- The pattern cannot be read. -/
  | malformed (pattern reason : String)
  /-- Something that the search comes to cannot be read. -/
  | unreadable (reason : String)
  | noMatch (pattern : String)
  deriving Repr, DecidableEq

/-- The wording of a pattern error. -/
def PatternError.text : PatternError → String
  | .malformed pattern reason => pattern ++ ": " ++ reason
  | .unreadable reason => reason
  | .noMatch pattern => "glob pattern matched no files: " ++ pattern

/-- A **search** for what a pattern matches in a file system. It gives paths in order, and the reason of
an error in the place of an entry that cannot be read, or only the reason why the pattern is refused. -/
abbrev Search :=
  (fs : FileSystem) → (pattern : String) → Except String (List (Except String String))

/-- Whether a text has wildcards. -/
def hasWildcard (p : String) : Bool := p.toList.any fun c => c = '*' || c = '?' || c = '['

/-- **Expands** an input pattern; one with wildcards must match something. -/
def expand (search : Search) (fs : FileSystem) (pattern : String) :
    Except PatternError (List String) :=
  if hasWildcard pattern then do
    let entries ← (search fs pattern).mapError (.malformed pattern)
    match ← (entries.mapM id).mapError .unreadable with
    | [] => throw (.noMatch pattern)
    | paths => pure paths
  else pure [pattern]

/-- Expands input patterns, in order. -/
def expandAll (search : Search) (fs : FileSystem) (patterns : List String) :
    Except PatternError (List String) :=
  (patterns.mapM (expand search fs)).map List.flatten

end ErrorTaxonomy.Load
