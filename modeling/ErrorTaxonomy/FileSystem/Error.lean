/-! # System errors — why a file operation or a program start fails

Each error has the wording and the number of the system; a text that is not UTF-8 and a path or an
argument that holds a null character are refused before the system is asked and have no number. -/

namespace ErrorTaxonomy

/-- Why the system refuses an operation. -/
inductive OsError where
  | notFound
  | badExecutable
  | permissionDenied
  | fileExists
  | notDirectory
  | isDirectory
  | nameTooLong
  | notText
  | nullInPath
  | nullInArgument
  /-- Any other error, in the wording of the system. -/
  | other (text : String)
  deriving Repr, DecidableEq

/-- The wording of a system error. -/
def OsError.text : OsError → String
  | .notFound => "No such file or directory (os error 2)"
  | .badExecutable => "Exec format error (os error 8)"
  | .permissionDenied => "Permission denied (os error 13)"
  | .fileExists => "File exists (os error 17)"
  | .notDirectory => "Not a directory (os error 20)"
  | .isDirectory => "Is a directory (os error 21)"
  | .nameTooLong => "File name too long (os error 36)"
  | .notText => "stream did not contain valid UTF-8"
  | .nullInPath => "file name contained an unexpected NUL byte"
  | .nullInArgument => "nul byte found in provided data"
  | .other text => text

end ErrorTaxonomy
