import ErrorTaxonomy.FileSystem.Basic

/-! # Changing a file system — directories and files that are made

Something new is made when its directory may be written, and a file is replaced when it may be written
itself. Making one directory or writing one file is done or fails as a whole. Making a directory **with
its missing parents** may stop half-way; the parents made so far stay. -/

namespace ErrorTaxonomy.FileSystem

/-- Makes one directory. -/
def makeDir (fs : FileSystem) (p : String) : Except OsError FileSystem := do
  let l ← fs.locate p
  match fs.get? l with
  | some _ => throw .fileExists
  | none => do
    fs.permit .write l.dropLast
    pure (fs.put l .dir)

/-- Makes a directory with its missing parents; one that is already there is fine. -/
def makeDirs (fs : FileSystem) (p : String) : FileSystem × Except OsError Unit :=
  if p = "" then (fs, .ok ())
  else
    match fs.makeDir p with
    | .ok made => (made, .ok ())
    | .error .notFound =>
      match _h : parent? p with
      | none => (fs, .error .notFound)
      | some q =>
        match makeDirs fs q with
        | (above, .error e) => (above, .error e)
        | (above, .ok ()) =>
          -- a path that ends in two dots is there as soon as its parent is
          match above.makeDir p with
          | .ok made => (made, .ok ())
          | .error e => (above, if above.isDir p then .ok () else .error e)
    | .error e => (fs, if fs.isDir p then .ok () else .error e)
termination_by p.length
decreasing_by exact length_lt_of_parent? _h

/-- Whether a path ends with a slash behind a name, where no file can be made. -/
def endsInSlash (p : String) : Bool :=
  let r := Route.ofPath p
  r.slash && r.names.getLast?.any fun n => n ≠ "." ∧ n ≠ ".."

/-- Writes a file; one that is there is replaced and stays executable if it was. -/
def writeFile (fs : FileSystem) (p content : String) : Except OsError FileSystem := do
  let l ← fs.locate p
  if endsInSlash p then throw .isDirectory
  match fs.get? l with
  | some .dir => throw .isDirectory
  | some (.file _ executable) => do
    fs.permit .write l
    pure (fs.put l (.file (Text.encodeUtf8 content) executable))
  | none => do
    fs.permit .write l.dropLast
    pure (fs.put l (.file (Text.encodeUtf8 content) false))

end ErrorTaxonomy.FileSystem
