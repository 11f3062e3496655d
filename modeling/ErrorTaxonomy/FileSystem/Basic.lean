import ErrorTaxonomy.FileSystem.Error
import ErrorTaxonomy.FileSystem.Path
import ErrorTaxonomy.Text.Utf8

/-! # File systems — directories, files and the way to them

A file system lists what stands at each **location**, the names from the root on, and has a working
directory, where relative paths start. Following a path, each name must be entered from a directory that
is there; only the last one may be missing. The system may refuse to go through a directory, to list it,
to read a file, or to write, for want of permission or for any other reason. There are no links: every
path leads to a location of its own text. -/

namespace ErrorTaxonomy

/-- What stands at a location. -/
inductive Entry where
  | file (content : Text.Bytes) (executable : Bool)
  | dir
  deriving Repr, DecidableEq

/-- The names from the root to a place. -/
abbrev Location := List String

/-- What may be refused at a location: to pass through a directory, to read or list what is there, and
to replace a file or to make something in a directory. -/
inductive FileSystem.Access where
  | pass
  | read
  | write
  deriving Repr, DecidableEq

/-- A **file system**: its working directory, its entries, and what is refused and why. The root is
always a directory. -/
structure FileSystem where
  workingDir : Location
  entries : List (Location × Entry)
  refusals : List ((FileSystem.Access × Location) × OsError)
  deriving Repr, DecidableEq

namespace FileSystem

/-- What stands at a location. -/
def get? (fs : FileSystem) : Location → Option Entry
  | [] => some .dir
  | l => fs.entries.lookup l

/-- Asks for access to a location. -/
def permit (fs : FileSystem) (a : Access) (l : Location) : Except OsError Unit :=
  match fs.refusals.lookup (a, l) with
  | none => .ok ()
  | some e => .error e

/-- Puts an entry at a location. -/
def put (fs : FileSystem) (l : Location) (e : Entry) : FileSystem :=
  { fs with entries := (l, e) :: fs.entries.filter (·.1 != l) }

@[simp] theorem get?_root (fs : FileSystem) : fs.get? [] = some .dir := rfl

/-- An entry that was put is there. -/
theorem get?_put_self (fs : FileSystem) {l : Location} (h : l ≠ []) (e : Entry) :
    (fs.put l e).get? l = some e := by
  cases l with
  | nil => exact absurd rfl h
  | cons a l => simp [get?, put]

/-- All other locations stay as they were. -/
theorem get?_put_of_ne (fs : FileSystem) {l m : Location} (h : m ≠ l) (e : Entry) :
    (fs.put l e).get? m = fs.get? m := by
  cases m with
  | nil => rfl
  | cons a m =>
    have hne : ((a :: m) == l) = false := by simpa using h
    simp only [get?, put, List.lookup_cons, hne]
    induction fs.entries with
    | nil => rfl
    | cons p ps ih =>
      obtain ⟨k, v⟩ := p
      by_cases hk : k = l
      · rw [List.filter_cons_of_neg (by simp [hk]), ih]
        subst hk
        simp [List.lookup_cons, hne]
      · rw [List.filter_cons_of_pos (by simp [hk])]
        simp only [List.lookup_cons, ih]

/-! ## Following a path -/

/-- The most bytes of a name. -/
def longestName : Nat := 255

/-- The most bytes of a path. -/
def longestPath : Nat := 4095

/-- Enters a name from a location, which must be a directory. -/
def enter (fs : FileSystem) (l : Location) (name : String) : Except OsError Location :=
  match fs.get? l with
  | none => .error .notFound
  | some (.file ..) => .error .notDirectory
  | some .dir => do
    fs.permit .pass l
    -- the root is its own parent
    if name = "." then pure l
    else if name = ".." then pure l.dropLast
    else if longestName < name.utf8ByteSize then throw .nameTooLong
    else pure (l ++ [name])

/-- The **location** a path leads to; only its last name may be missing there. -/
def locate (fs : FileSystem) (p : String) : Except OsError Location :=
  if p.toList.contains '\x00' then .error .nullInPath
  else if p = "" then .error .notFound
  else if longestPath < p.utf8ByteSize then .error .nameTooLong
  else
    let r := Route.ofPath p
    r.names.foldlM fs.enter (if r.absolute then [] else fs.workingDir)

/-- What a path leads to; a file must not be named with a slash at the end. -/
def find (fs : FileSystem) (p : String) : Except OsError Entry := do
  let l ← fs.locate p
  match fs.get? l with
  | none => throw .notFound
  | some .dir => pure .dir
  | some e => if (Route.ofPath p).slash then throw .notDirectory else pure e

/-- Whether a path leads to something. -/
def isPresent (fs : FileSystem) (p : String) : Bool :=
  match fs.find p with
  | .ok _ => true
  | .error _ => false

/-- Whether a path leads to a directory. -/
def isDir (fs : FileSystem) (p : String) : Bool :=
  match fs.find p with
  | .ok .dir => true
  | _ => false

/-! ## Reading -/

/-- The bytes of the file at a path. -/
def readBytes (fs : FileSystem) (p : String) : Except OsError Text.Bytes := do
  let e ← fs.find p
  fs.permit .read (← fs.locate p)
  match e with
  | .file content _ => pure content
  | .dir => throw .isDirectory

/-- The **text** of the file at a path. -/
def readText (fs : FileSystem) (p : String) : Except OsError String := do
  match Text.decodeUtf8? (← fs.readBytes p) with
  | some s => pure s
  | none => throw .notText

/-- The routes from a location to everything below it. -/
def below (fs : FileSystem) (l : Location) : List Location :=
  (fs.entries.filter fun e => l.isPrefixOf e.1 && e.1 != l).map fun e => e.1.drop l.length

/-- Whether one list of names stands before another: directories before what is in them, and names by
their code points. -/
def before : Location → Location → Bool
  | [], _ => true
  | _ :: _, [] => false
  | a :: l, b :: m => if a = b then before l m else decide (a < b)

/-- Opens the directory at a path, to list what is in it. -/
def openDir (fs : FileSystem) (p : String) : Except OsError Location := do
  let l ← fs.locate p
  match fs.get? l with
  | none => throw .notFound
  | some (.file ..) => throw .notDirectory
  | some .dir => do
    fs.permit .read l
    pure l

/-- The names in the directory at a location, in order. -/
def children (fs : FileSystem) (l : Location) : List String :=
  (((fs.below l).filter (·.length = 1)).mergeSort before).filterMap List.head?

/-- The routes from the directory at a location to everything below it, each directory right before what
is in it. -/
def descendants (fs : FileSystem) (l : Location) : List Location := (fs.below l).mergeSort before

end FileSystem
end ErrorTaxonomy
