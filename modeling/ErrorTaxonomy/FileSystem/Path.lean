/-! # Paths — texts that lead to files

A path is a text of names between slashes; it is **absolute** when it starts with one. Empty names do
not count, and neither do single dots except as the whole start of a path. `join` continues a path,
`parent?` takes the last name off. -/

namespace ErrorTaxonomy.FileSystem

/-- What a path says: whether it starts at the root, the names it goes through, and whether it ends
with a slash, which asks for a directory. -/
structure Route where
  absolute : Bool
  names : List String
  slash : Bool
  deriving Repr, DecidableEq

/-- The route of a path. -/
def Route.ofPath (p : String) : Route where
  absolute := p.toList.head? = some '/'
  names := ((p.toList.splitOn '/').filter (· ≠ [])).map String.ofList
  slash := p.toList.getLast? = some '/'

/-- Whether a path is a single dot, however it is written. -/
def isDot (p : String) : Bool :=
  let r := Route.ofPath p
  !r.absolute && !r.names.isEmpty && r.names.all (· == ".")

/-- **Continues** a path; an absolute continuation replaces it. -/
def join (p q : String) : String :=
  if (Route.ofPath q).absolute then q
  else if p = "" ∨ (Route.ofPath p).slash then p ++ q
  else p ++ "/" ++ q

/-! ## The parent of a path -/

/-- A path read from its end, without the slashes and single dots at its end. -/
def settle : List Char → List Char
  | ['/'] => ['/']
  | '/' :: r => settle r
  | '.' :: '/' :: r => settle ('/' :: r)
  | s => s

theorem length_settle_le (s : List Char) : (settle s).length ≤ s.length := by
  fun_induction settle s <;> simp_all <;> omega

/-- The parent of a path that is read from its end. -/
def parentChars? (s : List Char) : Option (List Char) :=
  match settle s with
  | [] => none
  | ['/'] => none
  | _ :: r => some (settle (r.dropWhile (· ≠ '/')))

theorem length_lt_of_parentChars? {s t : List Char} (h : parentChars? s = some t) :
    t.length < s.length := by
  have hs := length_settle_le s
  unfold parentChars? at h
  split at h
  · cases h
  · cases h
  · rename_i r _ e
    obtain rfl := Option.some.inj h
    have h1 := length_settle_le (r.dropWhile (· ≠ '/'))
    have h2 := (List.dropWhile_suffix (l := r) (· ≠ '/')).length_le
    simp only [e, List.length_cons] at hs
    omega

/-- The **parent** of a path: what is left without its last name. The empty path and the root have
none. -/
def parent? (p : String) : Option String :=
  (parentChars? p.toList.reverse).map fun t => String.ofList t.reverse

/-- A parent is shorter. -/
theorem length_lt_of_parent? {p q : String} (h : parent? p = some q) : q.length < p.length := by
  obtain ⟨t, ht, rfl⟩ := Option.map_eq_some_iff.1 h
  have := length_lt_of_parentChars? ht
  simpa [String.length_toList] using this

@[simp] theorem parent?_empty : parent? "" = none := rfl

end ErrorTaxonomy.FileSystem
