import ErrorTaxonomy.Decimal.Basic

/-! # Shortest decimals — the fewest digits that read back as a given double

A finite double is `mantissa · 2 ^ exponent`, and the reals that round to it form an interval around
it whose ends belong to it when the mantissa is even. Of the decimal grids with one digit, two digits
and so on, the first that has a point in the interval gives the digits; of two such points the nearer
one is taken. -/

namespace ErrorTaxonomy

/-- The positive double `mantissa · 2 ^ exponent`, and whether the next smaller double is only half
as far away as the next larger one. -/
structure Binary where
  mantissa : Nat
  exponent : Int
  narrow : Bool
  deriving Repr, DecidableEq

namespace Binary

/-- The size of a finite double from its bits without the sign. -/
def ofBits (bits : Nat) : Binary :=
  let field : Nat := bits / Nat.pow 2 52 % Nat.pow 2 11
  let fraction : Nat := bits % Nat.pow 2 52
  if field = 0 then ⟨fraction, -1074, false⟩
  else ⟨fraction + Nat.pow 2 52, (field : Int) - 1075, fraction == 0 && decide (1 < field)⟩

/-- `n · 2 ^ e · 10 ^ (-k)` as a fraction. -/
def scaled (n : Nat) (e k : Int) : Nat × Nat :=
  (n * Nat.pow 2 e.toNat * Nat.pow 10 (-k).toNat, Nat.pow 2 (-e).toNat * Nat.pow 10 k.toNat)

/-- Whether `10 ^ k ≤ n · 2 ^ e`. -/
def atLeastPower (n : Nat) (e k : Int) : Bool :=
  let (num, den) := scaled n e k
  decide (den ≤ num)

/-- The exponent of the leading decimal digit of a positive number, found among the neighbours of an
estimate from its binary length. -/
def leadingPower (b : Binary) : Int :=
  let estimate := ((Nat.log2 b.mantissa : Int) + b.exponent) * 30103 / 100000
  if atLeastPower b.mantissa b.exponent (estimate + 1) then estimate + 1
  else if atLeastPower b.mantissa b.exponent estimate then estimate
  else estimate - 1

/-- The point of the grid of multiples of `10 ^ k` that reads back as `b` and is nearest to it. All
quantities are in quarters of the last binary place, times the common denominator. -/
def gridPoint? (b : Binary) (k : Int) : Option Nat :=
  let (num, den) := scaled (4 * b.mantissa) (b.exponent - 2) k
  let (above, _) := scaled 2 (b.exponent - 2) k
  let (below, _) := scaled (if b.narrow then 1 else 2) (b.exponent - 2) k
  let down := num / den
  let up := down + 1
  let closed := b.mantissa % 2 == 0
  let downFits := decide (num < down * den + below) || (closed && num == down * den + below)
  let upFits := decide (up * den < num + above) || (closed && up * den == num + above)
  let downGap := num - down * den
  let upGap := up * den - num
  if downFits && upFits then
    if downGap < upGap then some down
    else if upGap < downGap then some up
    -- halfway between two points the even one is taken
    else some (if down % 2 = 0 then down else up)
  else if downFits then some down
  else if upFits then some up
  else none

/-- Tries grids of `n` more digits each, from the leading power `top` on. -/
def shortestFrom (b : Binary) (top : Int) : Nat → Int → Nat × Int
  | 0, k => (((gridPoint? b k).getD 0), k)
  | n + 1, k =>
    match gridPoint? b k with
    -- zero is a point of every grid, but no digit of a positive number
    | some (d + 1) => (d + 1, k)
    | _ => shortestFrom b top n (k - 1)

/-- Drops the zeros at the end of the digits, at most `n` of them. -/
def dropZeros : Nat → Nat → Int → Nat × Int
  | 0, d, k => (d, k)
  | n + 1, d, k => if d % 10 = 0 ∧ d ≠ 0 then dropZeros n (d / 10) (k + 1) else (d, k)

/-- Digits and power of ten of the shortest decimal of a positive number. -/
def shortest (b : Binary) : Nat × Int :=
  let top := b.leadingPower
  let (d, k) := shortestFrom b top 17 top
  dropZeros 20 d k

end Binary

/-- The **shortest decimal** of a finite double. -/
def Decimal.shortest (x : Float) : Decimal :=
  let bits := x.toBits.toNat
  let negative := decide (Nat.pow 2 63 ≤ bits)
  let size := bits % Nat.pow 2 63
  if size = 0 then ⟨negative, 0, 0⟩
  else
    let (digits, exponent) := (Binary.ofBits size).shortest
    ⟨negative, digits, exponent⟩

end ErrorTaxonomy
