import ErrorTaxonomy.Json.Basic
import ErrorTaxonomy.Json.Failure

/-! # Numerals — the numbers of a JSON text

A numeral without fraction and exponent is an integer when it fits in 64 bits. Any other numeral is a
double, computed from the **leading digits that fit in 64 bits** and a power of ten: the significand is
rounded to a double once and the product or quotient with the power of ten once more. -/

namespace ErrorTaxonomy.Json

/-- The largest unsigned integer of 64 bits. -/
def largest64 : Nat := 0xFFFFFFFFFFFFFFFF

/-- The largest exponent that is read digit by digit. -/
def largestExponent : Nat := 0x7FFFFFFF

/-- A power of ten up to the largest one that is a double. -/
def tenPower (n : Nat) : Float := Float.ofScientific 1 false n

/-- Divides by a power of ten; powers past the range of doubles are divided out in steps. -/
def divideTen (x : Float) (n : Nat) : Float :=
  if n ≤ 308 then x / tenPower n
  else if x == 0.0 then x
  else divideTen (x / tenPower 308) (n - 308)
termination_by n

/-- The double `significand · 10 ^ exponent`, or nothing when it is too large. -/
def scaleTen? (significand : Nat) (exponent : Int) : Option Float :=
  let x := Float.ofNat significand
  if exponent < 0 then some (divideTen x (-exponent).toNat)
  else if 308 < exponent then (if significand = 0 then some x else none)
  else
    let y := x * tenPower exponent.toNat
    if y.isInf then none else some y

/-- The double of a numeral that ends before `rest`. -/
def realOf (negative : Bool) (significand : Nat) (exponent : Int) (rest : List Char) :
    Except Failure (Number × List Char) :=
  match scaleTen? significand exponent with
  | some x => .ok (.real (if negative then -x else x), rest)
  | none => .error (Failure.here .numberOutOfRange rest)

/-- Drops digits. -/
def skipDigits (s : List Char) : List Char := s.dropWhile Char.isDigit

/-- Reads the digits of an exponent after its first one. -/
def exponentDigits (negative : Bool) (significand : Nat) (start : Int) (up : Bool) :
    Nat → List Char → Except Failure (Number × List Char)
  | n, [] => realOf negative significand (if up then start + n else start - n) []
  | n, c :: r =>
    if c.isDigit then
      let n' := n * 10 + (c.toNat - '0'.toNat)
      if n' ≤ largestExponent then exponentDigits negative significand start up n' r
      else if significand ≠ 0 ∧ up then .error (Failure.here .numberOutOfRange r)
      else .ok (.real (if negative then -0.0 else 0.0), skipDigits r)
    else realOf negative significand (if up then start + n else start - n) (c :: r)

/-- Reads an exponent after its letter. -/
def exponentPart (negative : Bool) (significand : Nat) (start : Int) (s : List Char) :
    Except Failure (Number × List Char) :=
  let (up, t) : Bool × List Char :=
    match s with
    | '+' :: r => (true, r)
    | '-' :: r => (false, r)
    | _ => (true, s)
  match t with
  | [] => .error (Failure.here .endOfValue [])
  | c :: r =>
    if c.isDigit then exponentDigits negative significand start up (c.toNat - '0'.toNat) r
    else .error (Failure.after .invalidNumber t)

/-- Reads what may follow the digits of a number: an exponent or nothing. -/
def exponentOrEnd (negative : Bool) (significand : Nat) (exponent : Int) :
    List Char → Except Failure (Number × List Char)
  | 'e' :: r => exponentPart negative significand exponent r
  | 'E' :: r => exponentPart negative significand exponent r
  | s => realOf negative significand exponent s

/-- Reads the digits of a fraction. A digit that no longer fits ends the significand. -/
def fractionDigits (negative : Bool) (significand : Nat) (start : Int) (seen : Nat) :
    List Char → Except Failure (Number × List Char)
  | c :: r =>
    if c.isDigit then
      let s' := significand * 10 + (c.toNat - '0'.toNat)
      if s' ≤ largest64 then fractionDigits negative s' start (seen + 1) r
      else exponentOrEnd negative significand (start - seen) (skipDigits r)
    else if seen = 0 then .error (Failure.after .invalidNumber (c :: r))
    else exponentOrEnd negative significand (start - seen) (c :: r)
  | [] =>
    if seen = 0 then .error (Failure.after .endOfValue [])
    else realOf negative significand (start - seen) []

/-- Reads what may follow the digits of an integer that is already too large: each further digit is a
factor of ten. -/
def longInteger (negative : Bool) (significand : Nat) (exponent : Nat) :
    List Char → Except Failure (Number × List Char)
  | '.' :: r => fractionDigits negative significand exponent 0 r
  | c :: r =>
    if c.isDigit then longInteger negative significand (exponent + 1) r
    else exponentOrEnd negative significand exponent (c :: r)
  | [] => realOf negative significand exponent []

/-- The integer of a numeral, which is a double when it is a negative zero or too small. -/
def integerOf (negative : Bool) (n : Nat) : Number :=
  if negative then
    if n = 0 ∨ 0x8000000000000000 < n then .real (-(Float.ofNat n)) else .int (-n)
  else .int n

/-- Reads what may follow the digits of an integer. -/
def integerEnd (negative : Bool) (n : Nat) : List Char → Except Failure (Number × List Char)
  | '.' :: r => fractionDigits negative n 0 0 r
  | 'e' :: r => exponentPart negative n 0 r
  | 'E' :: r => exponentPart negative n 0 r
  | s => .ok (integerOf negative n, s)

/-- Reads the digits of an integer after its first one. -/
def integerDigits (negative : Bool) (n : Nat) : List Char → Except Failure (Number × List Char)
  | c :: r =>
    if c.isDigit then
      let n' := n * 10 + (c.toNat - '0'.toNat)
      if n' ≤ largest64 then integerDigits negative n' r else longInteger negative n 0 (c :: r)
    else integerEnd negative n (c :: r)
  | [] => .ok (integerOf negative n, [])

/-- Reads a numeral after its sign; a zero is followed by no other digit. -/
def numeral (negative : Bool) : List Char → Except Failure (Number × List Char)
  | [] => .error (Failure.here .endOfValue [])
  | '0' :: c :: r =>
    if c.isDigit then .error (Failure.after .invalidNumber (c :: r))
    else integerEnd negative 0 (c :: r)
  | c :: r =>
    if c.isDigit then integerDigits negative (c.toNat - '0'.toNat) r
    else .error (Failure.after .invalidNumber (c :: r))

end ErrorTaxonomy.Json
