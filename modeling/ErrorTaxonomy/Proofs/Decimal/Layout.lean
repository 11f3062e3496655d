import ErrorTaxonomy.Decimal.Basic
import Mathlib.Data.List.Basic

/-! # Layout — the characters of a written decimal

A decimal is written as its digits with zeros and a point among or around them, or with an exponent. Its
characters are its sign and then those of its size (`toList_render`). -/

namespace ErrorTaxonomy.Decimal

/-- The power of ten of the leading digit. -/
def top (d : Decimal) : Int := (Nat.toDigits 10 d.digits).length + d.exponent - 1

/-- The characters of an exponent of ten. -/
def exponentChars (plus : Bool) (top : Int) : List Char :=
  if 0 ≤ top then (if plus then '+' :: Nat.toDigits 10 top.toNat else Nat.toDigits 10 top.toNat)
  else '-' :: Nat.toDigits 10 (-top).toNat

/-- The characters of the size of a decimal, which is not zero. -/
def sizeChars (style : Style) (d : Decimal) : List Char :=
  let ds := Nat.toDigits 10 d.digits
  if style.least ≤ d.top ∧ d.top < style.bound then
    if 0 ≤ d.exponent then ds ++ List.replicate d.exponent.toNat '0' ++ ['.', '0']
    else if 0 ≤ d.top then ds.take (d.top.toNat + 1) ++ '.' :: ds.drop (d.top.toNat + 1)
    else '0' :: '.' :: (List.replicate (-1 - d.top).toNat '0' ++ ds)
  else
    ds.take 1 ++ (if (ds.drop 1).isEmpty then [] else '.' :: ds.drop 1) ++
      'e' :: exponentChars style.plus d.top

theorem toList_toString_int (n : Int) :
    (toString n).toList =
      if 0 ≤ n then Nat.toDigits 10 n.toNat else '-' :: Nat.toDigits 10 (-n).toNat := by
  cases n with
  | ofNat n =>
    have hnonneg : (0 : Int) ≤ Int.ofNat n := Int.natCast_nonneg n
    rw [if_pos hnonneg]
    exact Nat.toList_repr
  | negSucc n =>
    rw [if_neg (by omega)]
    change ("-" ++ toString (n + 1)).toList = _
    simp

/-- The characters of a fraction after the leading digit. -/
theorem toList_fraction (tail : List Char) :
    (if (String.ofList tail).isEmpty then "" else "." ++ String.ofList tail).toList =
      if tail.isEmpty then [] else '.' :: tail := by
  cases tail with
  | nil => rfl
  | cons c tail =>
    have hempty : ¬ (String.ofList (c :: tail)).isEmpty = true := by simp
    rw [if_neg hempty]
    simp

/-- The characters of an exponent with its letter. -/
theorem toList_exponent (plus : Bool) (top : Int) :
    ((if 0 ≤ top ∧ plus then "e+" else "e") ++ toString top).toList =
      'e' :: exponentChars plus top := by
  rw [String.toList_append, toList_toString_int, exponentChars]
  by_cases htop : 0 ≤ top
  · cases plus <;> simp [htop]
  · simp [htop]

/-- **A written decimal** is its sign and then the characters of its size. -/
theorem toList_render (style : Style) (d : Decimal) : (render style d).toList =
    (if d.negative then ['-'] else []) ++
      if d.digits = 0 then ['0', '.', '0'] else sizeChars style d := by
  have hlength : (toString d.digits).length = (Nat.toDigits 10 d.digits).length := by
    rw [← String.length_toList]
    simp
  have hsign : (if d.negative then "-" else "").toList = if d.negative then ['-'] else [] := by
    cases d.negative <;> rfl
  have hdigits : (toString d.digits).toList = Nat.toDigits 10 d.digits := Nat.toList_repr
  have htop : ((Nat.toDigits 10 d.digits).length : Int) + d.exponent - 1 = d.top := rfl
  rw [render]
  simp only [hlength, htop, hdigits]
  by_cases hzero : d.digits = 0
  · rw [if_pos hzero, if_pos hzero, String.toList_append, hsign]
    rfl
  · rw [if_neg hzero, if_neg hzero, String.toList_append, hsign, sizeChars]
    congr 1
    by_cases hpositional : style.least ≤ d.top ∧ d.top < style.bound
    · rw [if_pos hpositional, if_pos hpositional]
      split_ifs with hwhole hmiddle
      · simp [zeros]
      · simp
      · simp [zeros]
    · rw [if_neg hpositional, if_neg hpositional, String.append_assoc, String.toList_append,
        toList_exponent, String.toList_append, toList_fraction, String.toList_ofList]

end ErrorTaxonomy.Decimal
