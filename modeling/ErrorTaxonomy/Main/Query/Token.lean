import ErrorTaxonomy.Json.Parser
import ErrorTaxonomy.Text.Blank

/-! # Tokens of filters

A filter is a text of words, variables, fields, numerals, strings and symbols. Of several operators that
a text starts with, the **longest** is the symbol. Blanks and comments up to the end of the line separate
tokens; a comment goes on behind a line that ends in a backslash. -/

namespace ErrorTaxonomy.Query

/-- A token of a filter. -/
inductive Token where
  | word (s : String)
  /-- A variable with its sign. -/
  | variable (s : String)
  /-- A name right behind a dot. -/
  | field (s : String)
  | numeral (s : String)
  | text (s : String)
  | symbol (s : String)
  deriving Repr, DecidableEq

namespace Token

/-- A character that a name starts with. -/
def startsName (c : Char) : Bool := c.isAlpha || c = '_'

/-- A character of a name. -/
def inName (c : Char) : Bool := c.isAlphanum || c = '_'

/-- The symbols of operators; one that starts with another one comes before it. -/
def operators : List String :=
  ["//=", "//", "/=", "/", "|=", "|", "==", "=", "!=", "<=", "<", ">=", ">", "+=", "+", "-=", "-", "*=",
    "*", "%=", "%"]

/-- Reads the longest operator that a text starts with. -/
def readOperator (s : List Char) : Option (String × List Char) :=
  operators.findSome? fun op => (op.toList.isPrefixOf? s).map (op, ·)

/-- A symbol of one character. -/
def isPunctuation (c : Char) : Bool := ",:;?()[]\x7b\x7d".toList.contains c

/-- Reads a string after its opening quote. -/
def readText : List Char → Option (List Char × List Char)
  | [] => none
  | '"' :: s => some ([], s)
  | '\\' :: 'u' :: a :: b :: c :: d :: s => do
    let n ← Json.hex4? a b c d
    let (t, rest) ← readText s
    if n.isValidChar then pure (Char.ofNat n :: t, rest) else none
  | '\\' :: c :: s => do
    let e ← Json.shortEscape? c
    let (t, rest) ← readText s
    pure (e :: t, rest)
  | ['\\'] => none
  | c :: s => do
    let (t, rest) ← readText s
    pure (c :: t, rest)

/-- Reads digits, at least one. -/
def readDigits (s : List Char) : Option (List Char × List Char) :=
  match s.span Char.isDigit with
  | ([], _) => none
  | r => some r

/-- Reads what follows the integral digits of a numeral: a fraction, if there is a point. -/
def readFraction : List Char → Option (List Char × List Char)
  | '.' :: s => do
    let (ds, rest) ← readDigits s
    pure ('.' :: ds, rest)
  | s => some ([], s)

/-- Reads the exponent of a numeral, if there is a mark. -/
def readExponent (s : List Char) : Option (List Char × List Char) :=
  match s with
  | c :: t =>
    if c = 'e' ∨ c = 'E' then
      match t with
      | d :: u =>
        if d = '+' ∨ d = '-' then do
          let (ds, rest) ← readDigits u
          pure (c :: d :: ds, rest)
        else do
          let (ds, rest) ← readDigits (d :: u)
          pure (c :: ds, rest)
      | [] => none
    else some ([], s)
  | [] => some ([], s)

/-- Reads a numeral. -/
def readNumeral (s : List Char) : Option (List Char × List Char) := do
  let (whole, s) ← readDigits s
  let (fraction, s) ← readFraction s
  let (exponent, s) ← readExponent s
  pure (whole ++ fraction ++ exponent, s)

/-- Reads one token from the front of a text that does not start with a separator. -/
def readOne : List Char → Option (Token × List Char)
  | [] => none
  | '"' :: s => (readText s).map fun p => (.text (String.ofList p.1), p.2)
  | '.' :: '.' :: s => some (.symbol "..", s)
  | '.' :: s =>
    if s.head?.any startsName then
      let (name, rest) := s.span inName
      some (.field (String.ofList name), rest)
    else some (.symbol ".", s)
  | '$' :: s =>
    if s.head?.any startsName then
      let (name, rest) := s.span inName
      some (.variable (String.ofList ('$' :: name)), rest)
    else none
  | c :: s =>
    if isPunctuation c then some (.symbol (String.ofList [c]), s)
    else if startsName c then
      let (name, rest) := (c :: s).span inName
      some (.word (String.ofList name), rest)
    else if c.isDigit then (readNumeral (c :: s)).map fun p => (.numeral (String.ofList p.1), p.2)
    else (readOperator (c :: s)).map fun p => (.symbol p.1, p.2)

/-- Where a text stands between two tokens. -/
inductive Gap where
  /-- Outside a comment. -/
  | blank
  /-- Inside a comment; `goesOn` tells whether its line ends in an odd number of backslashes so far. -/
  | comment (goesOn : Bool)

/-- A text without the blanks and comments at its start. -/
def skip : Gap → List Char → List Char
  | _, [] => []
  | .blank, c :: s =>
    if c = '#' then skip (.comment false) s
    else if Text.isBlank c then skip .blank s
    else c :: s
  -- the end of a line may have a carriage return
  | .comment goesOn, '\r' :: '\n' :: s => skip (if goesOn then .comment false else .blank) s
  | .comment goesOn, c :: s =>
    if c = '\n' then skip (if goesOn then .comment false else .blank) s
    else skip (.comment (c = '\\' && !goesOn)) s

/-- Reads at most `fuel` tokens. -/
def readAll : (fuel : Nat) → List Char → Option (List Token)
  | 0, _ => none
  | fuel + 1, s =>
    match skip .blank s with
    | [] => some []
    | t => do
      let (token, rest) ← readOne t
      let tokens ← readAll fuel rest
      pure (token :: tokens)

/-- The **tokens** of a filter; each takes a character at least. -/
def read (s : String) : Option (List Token) := readAll (s.length + 1) s.toList

end Token
end ErrorTaxonomy.Query
