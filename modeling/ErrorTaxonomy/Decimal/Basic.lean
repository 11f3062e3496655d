/-! # Decimals — digits, a power of ten and a sign

A **decimal** is `± digits · 10 ^ exponent`. It is read from the digits of a numeral and turned into
the nearest double, and it is written in positional or in exponent form by a `Style`. -/

namespace ErrorTaxonomy

/-- The number `± digits · 10 ^ exponent`. -/
structure Decimal where
  negative : Bool
  digits : Nat
  exponent : Int
  deriving Repr, DecidableEq

namespace Decimal

/-- How a decimal is written: positional from `10 ^ least` up to below `10 ^ bound`, with an exponent
otherwise, which has a plus sign when `plus` says so. -/
structure Style where
  least : Int
  bound : Int
  plus : Bool

/-- `n` zeros. -/
def zeros (n : Nat) : String := String.ofList (List.replicate n '0')

/-- The value of a digit. -/
def digitValue (c : Char) : Nat := c.toNat - '0'.toNat

/-- The number that decimal digits spell. -/
def ofDigits (ds : List Char) : Nat := ds.foldl (fun n d => n * 10 + digitValue d) 0

/-- Writes a decimal whose digits do not end in zero. A positional form always has a fraction; zero
is written with one too. -/
def render (style : Style) (d : Decimal) : String :=
  let sign := if d.negative then "-" else ""
  if d.digits = 0 then sign ++ "0.0"
  else
    let ds := toString d.digits
    let top : Int := ds.length + d.exponent - 1
    let body :=
      if style.least ≤ top ∧ top < style.bound then
        if 0 ≤ d.exponent then ds ++ zeros d.exponent.toNat ++ ".0"
        else if 0 ≤ top then
          String.ofList (ds.toList.take (top.toNat + 1)) ++ "." ++
            String.ofList (ds.toList.drop (top.toNat + 1))
        else "0." ++ zeros (-1 - top).toNat ++ ds
      else
        let head := String.ofList (ds.toList.take 1)
        let tail := String.ofList (ds.toList.drop 1)
        let fraction := if tail.isEmpty then "" else "." ++ tail
        let mark := if 0 ≤ top ∧ style.plus then "e+" else "e"
        head ++ fraction ++ mark ++ toString top
    sign ++ body

/-- The nearest double; past the range of doubles an infinity or zero. -/
def toFloat (d : Decimal) : Float :=
  let size : Int := (toString d.digits).length + d.exponent
  let x :=
    if d.digits = 0 ∨ size < -400 then 0.0
    else if 400 < size then 1.0 / 0.0
    else if 0 ≤ d.exponent then Float.ofScientific d.digits false d.exponent.toNat
    else Float.ofScientific d.digits true (-d.exponent).toNat
  if d.negative then -x else x

end Decimal

end ErrorTaxonomy
