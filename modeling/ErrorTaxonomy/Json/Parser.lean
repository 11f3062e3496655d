import ErrorTaxonomy.Json.Basic
import ErrorTaxonomy.Json.Number

/-! # Reading JSON text

`value` reads one JSON value from the front of a text and returns what follows it; values nest at most
`deepest` levels. `Json.readFirst` takes the first value of a text and ignores the rest, `Json.read`
asks that nothing but blanks follow. A failure inside an item or a member carries the path to it. -/

namespace ErrorTaxonomy.Json

/-- A character that may stand between the tokens of a JSON text. -/
def isBlank (c : Char) : Bool := c = ' ' || c = '\n' || c = '\t' || c = '\r'

/-- The text after its leading blanks. -/
def skipBlank (s : List Char) : List Char := s.dropWhile isBlank

/-- Lists and objects nest at most this deep. -/
def deepest : Nat := 127

/-- Reads the remaining letters of a word. -/
def word (v : Json) : List Char → List Char → Except Failure (Json × List Char)
  | [], s => .ok (v, s)
  | _ :: _, [] => .error (Failure.here .endOfValue [])
  | w :: ws, c :: s => if c = w then word v ws s else .error (Failure.after .expectedWord (c :: s))

/-! ## Strings -/

/-- The value of a hexadecimal digit. -/
def hexDigit? (c : Char) : Option Nat :=
  if c.isDigit then some (c.toNat - '0'.toNat)
  else if 'a' ≤ c ∧ c ≤ 'f' then some (c.toNat - 'a'.toNat + 10)
  else if 'A' ≤ c ∧ c ≤ 'F' then some (c.toNat - 'A'.toNat + 10)
  else none

/-- The number that four hexadecimal digits spell. -/
def hex4? (a b c d : Char) : Option Nat :=
  match hexDigit? a, hexDigit? b, hexDigit? c, hexDigit? d with
  | some w, some x, some y, some z => some (((w * 16 + x) * 16 + y) * 16 + z)
  | _, _, _, _ => none

/-- The failure of a hexadecimal escape whose digits should start at `s`. -/
def badHex (s : List Char) : Failure :=
  if Text.byteCount s < 4 then Failure.here .endOfString [] else ⟨.invalidEscape, s, 4, []⟩

/-- The character of a one-letter escape. -/
def shortEscape? (c : Char) : Option Char :=
  if c = '"' ∨ c = '\\' ∨ c = '/' then some c
  else if c = 'b' then some '\x08'
  else if c = 'f' then some '\x0c'
  else if c = 'n' then some '\n'
  else if c = 'r' then some '\r'
  else if c = 't' then some '\t'
  else none

/-- A high surrogate is the first half of a pair. -/
def isHighSurrogate (n : Nat) : Bool := decide (0xD800 ≤ n) && decide (n ≤ 0xDBFF)

/-- A low surrogate is the second half of a pair. -/
def isLowSurrogate (n : Nat) : Bool := decide (0xDC00 ≤ n) && decide (n ≤ 0xDFFF)

/-- The character that a surrogate pair stands for. -/
def pairChar (high low : Nat) : Char := Char.ofNat ((high - 0xD800) * 0x400 + (low - 0xDC00) + 0x10000)

/-- Puts a character in front of the text that was read. -/
def consChar (c : Char) (r : Except Failure (List Char × List Char)) :
    Except Failure (List Char × List Char) :=
  r.map fun p => (c :: p.1, p.2)

/-- Reads a string after its opening quote. -/
def stringBody : List Char → Except Failure (List Char × List Char)
  | [] => .error (Failure.here .endOfString [])
  | '"' :: s => .ok ([], s)
  | '\\' :: [] => .error (Failure.here .endOfString [])
  | '\\' :: 'u' :: a :: b :: c :: d :: s =>
    match hex4? a b c d with
    | none => .error (badHex (a :: b :: c :: d :: s))
    | some n =>
      if isLowSurrogate n then .error ⟨.loneSurrogate, a :: b :: c :: d :: s, 4, []⟩
      else if isHighSurrogate n then
        -- the other half of the pair must be the next escape
        match s with
        | '\\' :: 'u' :: a' :: b' :: c' :: d' :: t =>
          match hex4? a' b' c' d' with
          | none => .error (badHex (a' :: b' :: c' :: d' :: t))
          | some n' =>
            if isLowSurrogate n' then consChar (pairChar n n') (stringBody t)
            else .error ⟨.loneSurrogate, a' :: b' :: c' :: d' :: t, 4, []⟩
        | '\\' :: 'u' :: t => .error (badHex t)
        | '\\' :: [] => .error (Failure.here .endOfString [])
        | '\\' :: t => .error (Failure.after .endOfHexEscape t)
        | [] => .error (Failure.here .endOfString [])
        | t => .error (Failure.after .endOfHexEscape t)
      else consChar (Char.ofNat n) (stringBody s)
  | '\\' :: 'u' :: s => .error (badHex s)
  | '\\' :: c :: s =>
    match shortEscape? c with
    | some e => consChar e (stringBody s)
    | none => .error (Failure.after .invalidEscape (c :: s))
  | c :: s =>
    if c.toNat < 0x20 then .error (Failure.after .controlCharacter (c :: s))
    else consChar c (stringBody s)

/-- Reads a string after its opening quote. -/
def string (s : List Char) : Except Failure (String × List Char) :=
  (stringBody s).map fun p => (String.ofList p.1, p.2)

/-! ## Lists and objects -/

/-- A reader of one value from the front of a text. -/
abbrev Reader := List Char → Except Failure (Json × List Char)

/-- Reads the items of a list from item `i` on, at most `fuel` of them, and the closing bracket. -/
def items (value : Reader) : Nat → Nat → List Char → Except Failure (List Json × List Char)
  | 0, _, s => .error (Failure.here .endOfList s)
  | fuel + 1, i, s => do
    let (v, s) ← (value s).mapError (Failure.within (.index i))
    match skipBlank s with
    | [] => .error (Failure.after .endOfList [])
    | ']' :: t => pure ([v], t)
    | ',' :: t =>
      match skipBlank t with
      | [] => .error (Failure.after .endOfValue [])
      -- a comma promises another item
      | ']' :: u => .error (Failure.after .trailingComma (']' :: u))
      | u => do
        let (vs, rest) ← items value fuel (i + 1) u
        pure (v :: vs, rest)
    | t => .error (Failure.after .expectedListEnd t)

/-- Reads a list after its opening bracket. -/
def list (value : Reader) (s : List Char) : Except Failure (Json × List Char) :=
  match skipBlank s with
  | [] => .error (Failure.after .endOfList [])
  | ']' :: t => .ok (.arr [], t)
  | t => (items value (t.length + 1) 0 t).map fun p => (.arr p.1, p.2)

/-- Reads a key after its opening quote. -/
def key (s : List Char) : Except Failure (String × List Char) :=
  (string s).mapError (Failure.within .unknown)

/-- A fault where a key was expected. -/
def keyFault (fault : Fault) (s : List Char) : Failure := (Failure.after fault s).within .unknown

/-- Reads the members of an object from a key on, at most `fuel` of them, and the closing brace. -/
def members (value : Reader) :
    Nat → List Char → Except Failure (List (String × Json) × List Char)
  | 0, s => .error (Failure.here .endOfObject s)
  | fuel + 1, s => do
    let t ← match s with
      | '"' :: t => pure t
      | t => throw (keyFault .keyNotString t)
    let (k, t) ← key t
    let t ← match skipBlank t with
      | [] => throw (Failure.after .endOfObject [])
      | ':' :: t => pure t
      | t => throw (Failure.after .expectedColon t)
    let (v, t) ← (value t).mapError (Failure.within (.key k))
    match skipBlank t with
    | [] => throw (keyFault .endOfObject [])
    | '\x7d' :: u => pure ([(k, v)], u)
    | ',' :: u =>
      match skipBlank u with
      | [] => throw (keyFault .endOfValue [])
      | '\x7d' :: w => throw (keyFault .trailingComma ('\x7d' :: w))
      | w => do
        let (ms, rest) ← members value fuel w
        pure ((k, v) :: ms, rest)
    | u => throw (keyFault .expectedObjectEnd u)

/-- Reads an object after its opening brace. -/
def object (value : Reader) (s : List Char) : Except Failure (Json × List Char) :=
  match skipBlank s with
  | [] => .error (keyFault .endOfObject [])
  | '\x7d' :: t => .ok (.obj [], t)
  | t => (members value (t.length + 1) t).map fun p => (.obj (ofPairs p.1), p.2)

/-! ## Values -/

/-- Reads a value whose lists and objects nest at most `depth` levels. -/
def value : Nat → Reader
  | depth, s =>
    match skipBlank s with
    | [] => .error (Failure.after .endOfValue [])
    | '"' :: t => (string t).map fun p => (.str p.1, p.2)
    | '[' :: t =>
      match depth with
      | 0 => .error (Failure.after .tooDeep ('[' :: t))
      | d + 1 => list (value d) t
    | '\x7b' :: t =>
      match depth with
      | 0 => .error (Failure.after .tooDeep ('\x7b' :: t))
      | d + 1 => object (value d) t
    | '-' :: t => (numeral true t).map fun p => (.num p.1, p.2)
    | 'n' :: t => word .null "ull".toList t
    | 't' :: t => word (.bool true) "rue".toList t
    | 'f' :: t => word (.bool false) "alse".toList t
    | c :: t =>
      if c.isDigit then (numeral false (c :: t)).map fun p => (.num p.1, p.2)
      else .error (Failure.after .expectedValue (c :: t))

/-- Reads the **first** value of a text; what follows it does not matter. -/
def readFirst (source : String) : Except Failure Json :=
  (value deepest source.toList).map Prod.fst

/-- Reads a text that holds **one** value and blanks. -/
def read (source : String) : Except Failure Json := do
  let (v, s) ← value deepest source.toList
  match skipBlank s with
  | [] => pure v
  | t => throw (Failure.after .trailingCharacters t)

end ErrorTaxonomy.Json
