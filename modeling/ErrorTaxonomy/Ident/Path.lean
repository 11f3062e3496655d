import ErrorTaxonomy.Ident.Basic

/-! # Item paths — how one package names a type of another

Each package is a module whose path is the identifiers of its segments. An **item path** goes up from
the module it is written in, past the segments that the two packages do not share, and then down to
the type. `resolve` reads a path the way the target language does: each `super` leaves a module and
each other segment enters one. -/

namespace ErrorTaxonomy.Ident

/-- The non-empty segments of a dotted package name. -/
def packageSegments (package : String) : List String :=
  ((package.toList.splitOn '.').filter fun s => !s.isEmpty).map String.ofList

/-- The number of leading elements that two lists share. -/
def sharedLength : List String → List String → Nat
  | a :: as, b :: bs => if a = b then sharedLength as bs + 1 else 0
  | _, _ => 0

/-- A path that goes up by a number of modules and then down. -/
structure ItemPath where
  up : Nat
  down : List String
  deriving Repr, DecidableEq

namespace ItemPath

/-- The segments of a path. -/
def segments (p : ItemPath) : List String := List.replicate p.up "super" ++ p.down

/-- The text of a path. -/
def render (p : ItemPath) : String := String.intercalate "::" p.segments

end ItemPath

/-- The path, from the module of package `home`, of the type `name` that is nested in `parents` in
`package`. -/
def typePath (home package : String) (parents : List String) (name : String) : ItemPath :=
  let here := packageSegments home
  let there := packageSegments package
  let shared := sharedLength here there
  { up := here.length - shared
    down := (there.drop shared).map fieldIdent ++ parents.map fieldIdent ++ [typeIdent name] }

/-- The module of a package. -/
def moduleOf (package : String) : List String := (packageSegments package).map fieldIdent

/-- Follows the segments of a path from a module; nothing when it leaves the root. -/
def resolve : List String → List String → Option (List String)
  | m, [] => some m
  | m, s :: ss =>
    if s = "super" then
      match m with
      | [] => none
      | _ :: _ => resolve m.dropLast ss
    else resolve (m ++ [s]) ss

@[simp] theorem resolve_nil (m : List String) : resolve m [] = some m := rfl

theorem sharedLength_le_left (as bs : List String) : sharedLength as bs ≤ as.length := by
  fun_induction sharedLength as bs with
  | case1 a as bs ih => simp; omega
  | case2 | case3 => simp

theorem sharedLength_le_right (as bs : List String) : sharedLength as bs ≤ bs.length := by
  fun_induction sharedLength as bs with
  | case1 a as bs ih => simp; omega
  | case2 | case3 => simp

/-- The shared segments are the same in both lists. -/
theorem take_sharedLength (as bs : List String) :
    as.take (sharedLength as bs) = bs.take (sharedLength as bs) := by
  fun_induction sharedLength as bs with
  | case1 a as bs ih => simp [ih]
  | case2 | case3 => simp

end ErrorTaxonomy.Ident
