import ErrorTaxonomy.Main.Query.Arith

/-! # Terms — what a filter is made of

A term maps a value to a stream of values. A **path** starts with a term and goes on through parts of
its values; a part is lenient when it gives nothing, instead of an error, for a value that has no such
part. A name that nothing defines stays in the term as unknown; `Term.undefinedNames` lists such names
and the variables that nothing binds. -/

namespace ErrorTaxonomy.Query

/-- A name that nothing defines: a filter with a number of arguments, or a variable. -/
inductive Undefined where
  | filter (name : String) (arity : Nat)
  | variable (name : String)
  deriving Repr, DecidableEq

/-- An undefined name and what it is used as. -/
def Undefined.described : Undefined → String × String
  | .filter name arity => (name, s!"Filter({arity})")
  | .variable name => (name, "Var")

/-- Functions of a value and of argument values. -/
inductive Function where
  | empty
  | error
  | length
  | keys
  | keysUnsorted
  | has
  | add
  | sort
  | reverse
  | join
  | toText
  | toJsonText
  | toEntries
  | fromEntries
  | startsWith
  | endsWith
  | withoutStart
  | withoutEnd
  | split
  | typeName
  | not
  | withParts
  | range
  deriving Repr, DecidableEq

/-- Functions of an array that compare its items by a key. -/
inductive Keyed where
  | sort
  | group
  | unique
  deriving Repr, DecidableEq

mutual

/-- A **term** of a filter. -/
inductive Term where
  /-- The input. -/
  | self
  | constant (v : Value)
  | variable (name : String)
  /-- The array of all outputs. -/
  | collect (t : Term)
  /-- An object with one member. -/
  | member (key value : Term)
  | negate (t : Term)
  | path (head : Term) (parts : List Part)
  | pipe (l r : Term)
  /-- The outputs of `l` are bound to a variable in `r`, one by one. -/
  | bind (l : Term) (name : String) (r : Term)
  | both (l r : Term)
  | branch (condition yes no : Term)
  /-- The first error of a term ends its outputs and is handled by another one. -/
  | attempt (t handler : Term)
  /-- The outputs of `l` that count as true, or those of `r` when there is none. -/
  | otherwise (l r : Term)
  /-- A conjunction stops at false, a disjunction at true. -/
  | logic (stop : Bool) (l r : Term)
  | arith (op : Arith) (l r : Term)
  | compare (op : Comparison) (l r : Term)
  | assign (l r : Term)
  | update (l r : Term)
  | updateArith (op : Arith) (l r : Term)
  | updateOtherwise (l r : Term)
  | apply (f : Function) (args : List Term)
  | keyed (f : Keyed) (key : Term)
  /-- The first output. -/
  | firstOf (t : Term)
  /-- A call of a name that nothing defines. -/
  | unknown (name : String) (args : List Term)

/-- A **part** of a path. -/
inductive Part where
  | each (lenient : Bool)
  | index (i : Term) (lenient : Bool)
  | sliceFrom (low : Term) (lenient : Bool)
  | sliceUpTo (high : Term) (lenient : Bool)
  | slice (low high : Term) (lenient : Bool)

end

mutual

/-- The names that a term uses and nothing defines, in the order of their appearance; but those of a
binding's scope come before those of what is bound, and those of an `else` before those of its condition.
`scope` lists the variables that are bound. -/
def Term.undefinedNames (scope : List String) : Term → List Undefined
  | .self => []
  | .constant _ => []
  | .variable name => if scope.contains name then [] else [.variable name]
  | .collect t => t.undefinedNames scope
  | .member k v => k.undefinedNames scope ++ v.undefinedNames scope
  | .negate t => t.undefinedNames scope
  | .path head parts => head.undefinedNames scope ++ undefinedInParts scope parts
  | .pipe l r => l.undefinedNames scope ++ r.undefinedNames scope
  | .bind l name r => r.undefinedNames (name :: scope) ++ l.undefinedNames scope
  | .both l r => l.undefinedNames scope ++ r.undefinedNames scope
  | .branch c t e =>
    e.undefinedNames scope ++ c.undefinedNames scope ++ t.undefinedNames scope
  | .attempt t h => t.undefinedNames scope ++ h.undefinedNames scope
  | .otherwise l r => l.undefinedNames scope ++ r.undefinedNames scope
  | .logic _ l r => l.undefinedNames scope ++ r.undefinedNames scope
  | .arith _ l r => l.undefinedNames scope ++ r.undefinedNames scope
  | .compare _ l r => l.undefinedNames scope ++ r.undefinedNames scope
  | .assign l r => l.undefinedNames scope ++ r.undefinedNames scope
  | .update l r => l.undefinedNames scope ++ r.undefinedNames scope
  | .updateArith _ l r => l.undefinedNames scope ++ r.undefinedNames scope
  | .updateOtherwise l r => l.undefinedNames scope ++ r.undefinedNames scope
  | .apply _ args => undefinedInTerms scope args
  | .keyed _ key => key.undefinedNames scope
  | .firstOf t => t.undefinedNames scope
  | .unknown name args => undefinedInTerms scope args ++ [.filter name args.length]

/-- The undefined names of a list of terms. -/
def undefinedInTerms (scope : List String) : List Term → List Undefined
  | [] => []
  | t :: ts => t.undefinedNames scope ++ undefinedInTerms scope ts

/-- The undefined names of a part. -/
def undefinedInPart (scope : List String) : Part → List Undefined
  | .each _ => []
  | .index i _ => i.undefinedNames scope
  | .sliceFrom low _ => low.undefinedNames scope
  | .sliceUpTo high _ => high.undefinedNames scope
  | .slice low high _ => low.undefinedNames scope ++ high.undefinedNames scope

/-- The undefined names of the parts of a path. -/
def undefinedInParts (scope : List String) : List Part → List Undefined
  | [] => []
  | p :: ps => undefinedInPart scope p ++ undefinedInParts scope ps

end

end ErrorTaxonomy.Query
