import ErrorTaxonomy.Load.Pattern
import ErrorTaxonomy.Main.Glob.Pattern

/-! # Searching — the paths that a pattern names

A pattern is followed name by name. A name without wildcards continues the path when something is
there; one with wildcards continues it by each matching entry of the directory, in the order of their
names; a subtree continues it by everything below, each directory right before what is in it. The
entries `.` and `..` match only names that start with a dot, and come first. A directory that must be
listed and cannot be ends the search. -/

namespace ErrorTaxonomy.Glob

/-- Continues a path by an entry of its directory; the working directory is not written. -/
def child (path name : String) : String :=
  if FileSystem.isDot path then name else FileSystem.join path name

/-- Continues a path by several names. -/
def below (path : String) (route : List String) : String := route.foldl child path

/-- A path that is followed, and whether it was found to be a directory. -/
structure Place where
  path : String
  isDir : Bool
  deriving Repr, DecidableEq

/-- A path that is looked up. -/
def Place.look (fs : FileSystem) (path : String) : Place := ⟨path, fs.isDir path⟩

/-- A place below a directory, found by listing it. -/
def Place.listed (fs : FileSystem) (path : String) (l route : Location) : Place :=
  ⟨below path route, fs.get? (l ++ route) = some .dir⟩

/-- A directory that cannot be listed, and why. -/
structure Unlistable where
  path : String
  error : OsError
  deriving Repr, DecidableEq

/-- The wording about a directory that cannot be listed. -/
def Unlistable.text (u : Unlistable) : String :=
  "attempting to read `" ++ u.path ++ "` resulted in an error: " ++ u.error.text

/-- Opens the directory at a path, to list what is in it. -/
def opened (fs : FileSystem) (path : String) : Except Unlistable Location :=
  (fs.openDir path).mapError fun e => ⟨path, e⟩

/-- A path that has been followed to its end, unless only directories match and it is none. -/
def arrived (directory : Bool) (p : Place) : List String :=
  if directory && !p.isDir then [] else [p.path]

/-- The entries `.` and `..` that a name of a pattern matches. -/
def specials (ts : List Token) : List String :=
  if ts.head? = some (.char '.') then
    ["..", "."].filter fun n => matchesName ts n.toList
  else []

/-- Whether a name without wildcards continues a path. -/
def continues (fs : FileSystem) (p : Place) (name : String) : Bool :=
  if name = "." ∨ name = ".." then p.isDir else fs.isPresent (child p.path name)

/-- The entries of a directory that a name with wildcards matches. -/
def matching (fs : FileSystem) (ts : List Token) (path : String) (l : Location) : List Place :=
  -- the two special entries are never written as the working directory
  (specials ts).map (fun n => .look fs (FileSystem.join path n)) ++
    ((fs.children l).filter (matchesName ts ·.toList)).map fun n => .listed fs path l [n]

/-- The places to which a name of a pattern continues a place. -/
def entries (fs : FileSystem) (ts : List Token) (p : Place) : Except Unlistable (List Place) :=
  match literal? ts with
  | some s =>
    let name := String.ofList s
    pure (if continues fs p name then [.look fs (child p.path name)] else [])
  | none => if p.isDir then (opened fs p.path).map (matching fs ts p.path) else pure []

/-- Checks that a place can be listed if it is a directory. -/
def Place.check (fs : FileSystem) (p : Place) : Except Unlistable Unit :=
  if p.isDir then (opened fs p.path).map fun _ => () else pure ()

/-- Collects what is found at the places below a directory; each directory among them is listed after
what is found at itself. -/
def collect (fs : FileSystem) (p : Place)
    (search : Location → Place → Except Unlistable (List String)) :
    Except Unlistable (List String) :=
  if p.isDir then do
    let l ← opened fs p.path
    let found ← (fs.descendants l).mapM fun route => do
      let q := Place.listed fs p.path l route
      let found ← search route q
      q.check fs
      pure found
    pure found.flatten
  else pure []

/-- The paths to which the names of a pattern lead from a place. -/
def follow (fs : FileSystem) (directory : Bool) :
    List Component → Place → Except Unlistable (List String)
  | [], p => pure (arrived directory p)
  | .name ts :: cs, p => do
    let found ← (← entries fs ts p).mapM fun q => follow fs directory cs q
    pure found.flatten
  | [.subtree], p => collect fs p fun _ q => pure (arrived true q)
  | .subtree :: .subtree :: cs, p => follow fs directory (.subtree :: cs) p
  | .subtree :: .name ts :: cs, p =>
    collect fs p fun route q =>
      if route.getLast?.any (matchesName ts ·.toList) then follow fs directory cs q else pure []

/-- The paths that a pattern names. -/
def Pattern.paths (fs : FileSystem) (p : Pattern) : Except Unlistable (List String) :=
  follow fs p.directory p.components (.look fs (if p.absolute then "/" else "."))

/-- **Searches** for the paths that a pattern names. -/
def search : Load.Search := fun fs pattern => do
  let p ← (Pattern.read pattern).mapError Malformed.text
  match p.paths fs with
  | .ok paths => pure (paths.map .ok)
  -- the paths before a directory that cannot be listed do not matter
  | .error u => pure [.error u.text]

end ErrorTaxonomy.Glob
