import ErrorTaxonomy.Json.Path
import ErrorTaxonomy.Text.Utf8

/-! # Failures of reading JSON text

A failure names its **fault**, the path of the value that was being read and the place in the text. The
place is kept as the rest of the text and a number of bytes into it; `Failure.locate` turns it into a
line and a column, which counts bytes. -/

namespace ErrorTaxonomy.Json

/-- What is wrong with a JSON text. -/
inductive Fault where
  | endOfList
  | endOfObject
  | endOfString
  | endOfValue
  | expectedColon
  | expectedListEnd
  | expectedObjectEnd
  | expectedWord
  | expectedValue
  | invalidEscape
  | invalidNumber
  | numberOutOfRange
  | controlCharacter
  | keyNotString
  | loneSurrogate
  | trailingComma
  | trailingCharacters
  | endOfHexEscape
  | tooDeep
  deriving Repr, DecidableEq

/-- The wording of a fault. -/
def Fault.message : Fault → String
  | .endOfList => "EOF while parsing a list"
  | .endOfObject => "EOF while parsing an object"
  | .endOfString => "EOF while parsing a string"
  | .endOfValue => "EOF while parsing a value"
  | .expectedColon => "expected `:`"
  | .expectedListEnd => "expected `,` or `]`"
  | .expectedObjectEnd => "expected `,` or `\x7d`"
  | .expectedWord => "expected ident"
  | .expectedValue => "expected value"
  | .invalidEscape => "invalid escape"
  | .invalidNumber => "invalid number"
  | .numberOutOfRange => "number out of range"
  | .controlCharacter => "control character (\\u0000-\\u001F) found while parsing a string"
  | .keyNotString => "key must be a string"
  | .loneSurrogate => "lone leading surrogate in hex escape"
  | .trailingComma => "trailing comma"
  | .trailingCharacters => "trailing characters"
  | .endOfHexEscape => "unexpected end of hex escape"
  | .tooDeep => "recursion limit exceeded"

/-- A fault, the path of the value that was being read, and its place: `ahead` bytes into `rest`. -/
structure Failure where
  fault : Fault
  rest : List Char
  ahead : Nat
  path : Path
  deriving Repr, DecidableEq

namespace Failure

/-- A fault right before `rest`. -/
def here (fault : Fault) (rest : List Char) : Failure := ⟨fault, rest, 0, []⟩

/-- A fault at the first byte of `rest`, if there is one. -/
def after (fault : Fault) (rest : List Char) : Failure := ⟨fault, rest, 1, []⟩

/-- The failure as seen from one level up. -/
def within (s : Step) (f : Failure) : Failure := { f with path := s :: f.path }

@[simp] theorem within_fault (s : Step) (f : Failure) : (f.within s).fault = f.fault := rfl

@[simp] theorem within_path (s : Step) (f : Failure) : (f.within s).path = s :: f.path := rfl

/-- Line and column of byte `index` of a text, counted on from `line` and `column`. -/
def locateFrom (line column : Nat) : Nat → List Char → Nat × Nat
  | 0, _ => (line, column)
  | _, [] => (line, column)
  | index, c :: s =>
    if index < c.utf8Size then (line, column + index)
    else if c = '\n' then locateFrom (line + 1) 0 (index - 1) s
    else locateFrom line (column + c.utf8Size) (index - c.utf8Size) s

/-- Line and column of a failure in the text that was read. -/
def locate (source : List Char) (f : Failure) : Nat × Nat :=
  locateFrom 1 0 (Text.byteCount source - Text.byteCount f.rest + f.ahead) source

/-- The wording of a failure in the text that was read. -/
def message (source : List Char) (f : Failure) : String :=
  let (line, column) := f.locate source
  s!"{f.fault.message} at line {line} column {column}"

end Failure

end ErrorTaxonomy.Json
