import ErrorTaxonomy.Proofs.Decimal.Rounding

/-! # Doubles — sizes of products and quotients

`AtMost x r` says that the double `x` is finite and of size at most `r`. Products and quotients are finite
and of a known size as long as the exact ones stay clearly below `2 ^ 1024` (`AtMost.mul`, `AtMost.div`). A
number with a power of ten is rounded once (`sizeAtMost_ofScientific`, `exists_le_ofScientific`). -/

namespace ErrorTaxonomy.Double

open Float.Model (Format UnpackedFloat totalExponent)
open Float.Model.UnpackedFloat

/-- A double is **finite and of size at most** `r`. -/
def AtMost (x : Float) (r : ℚ) : Prop := SizeAtMost r x.toModel.unpack

/-- A double is finite and of size at least `r`. -/
def AtLeast (x : Float) (r : ℚ) : Prop :=
  ∃ s m e hm, x.toModel.unpack = .finite s m e hm ∧ r ≤ (m : ℚ) * 2 ^ e

section Float

variable {x y : Float} {r r' : ℚ}

theorem AtMost.nonneg (h : AtMost x r) : 0 ≤ r := SizeAtMost.nonneg h

theorem AtMost.mono (h : AtMost x r) (hr : r ≤ r') : AtMost x r' := SizeAtMost.mono h hr

theorem AtMost.isFinite (h : AtMost x r) : x.isFinite = true := SizeAtMost.isFinite h

theorem AtMost.not_isInf (h : AtMost x r) : x.isInf = false := by
  change x.toModel.unpack.isInf = false
  obtain ⟨s, hx⟩ | ⟨s, m, e, hm, hx, -⟩ := SizeAtMost.zero_or_finite h
  · rw [hx]
    rfl
  · rw [hx]
    rfl

/-- Every double is unpacked to a regular one. -/
theorem regular (x : Float) : Regular x.toModel.unpack := regular_unpack _

/-- Changing the sign keeps the size. -/
theorem AtMost.neg (h : AtMost x r) : AtMost (-x) r := by
  have hregular := regular x
  change SizeAtMost r (unpack Format.binary64 (pack Format.binary64 x.toModel.unpack.neg))
  obtain ⟨s, hx⟩ | ⟨s, m, e, hm, hx, hsize⟩ := SizeAtMost.zero_or_finite h
  · rw [hx]
    exact sizeAtMost_unpack_pack (u := .zero (-s)) h.nonneg trivial
  · rw [hx] at hregular ⊢
    exact sizeAtMost_unpack_pack (u := .finite (-s) m e hm) hsize hregular.2.1

/-- A finite double has a size. -/
theorem exists_atMost (h : x.isFinite = true) : ∃ r, AtMost x r := by
  change x.toModel.unpack.isFinite = true at h
  cases hx : x.toModel.unpack with
  | finite s m e hm =>
    refine ⟨m * 2 ^ e, ?_⟩
    rw [AtMost, hx]
    exact le_refl _
  | zero s =>
    refine ⟨0, ?_⟩
    rw [AtMost, hx]
    exact le_refl _
  | infinity s =>
    rw [hx] at h
    cases h
  | notANumber =>
    rw [hx] at h
    cases h

theorem isFinite_neg (h : x.isFinite = true) : (-x).isFinite = true := by
  obtain ⟨r, hx⟩ := exists_atMost h
  exact hx.neg.isFinite

/-- **Products** of finite doubles are finite as long as the exact product stays below `2 ^ 1024`. -/
theorem AtMost.mul (hx : AtMost x r) (hy : AtMost y r') (hbound : grown (r * r') < 2 ^ (1024 : Int)) :
    AtMost (x * y) (grown (r * r')) := by
  have hnonneg : 0 ≤ grown (r * r') :=
    (mul_nonneg hx.nonneg hy.nonneg).trans (le_grown (mul_nonneg hx.nonneg hy.nonneg))
  have hzero : ∀ s, SizeAtMost (grown (r * r'))
      (unpack Format.binary64 (pack Format.binary64 (.zero s))) :=
    fun s => sizeAtMost_unpack_pack (u := .zero s) hnonneg trivial
  have hxregular := regular x
  have hyregular := regular y
  change SizeAtMost _ (unpack Format.binary64 (pack Format.binary64
    (UnpackedFloat.mul Format.binary64 x.toModel.unpack y.toModel.unpack)))
  obtain ⟨s, hu⟩ | ⟨s, m, e, hm, hu, hxsize⟩ := SizeAtMost.zero_or_finite hx <;>
    obtain ⟨t, hv⟩ | ⟨t, n, f, hn, hv, hysize⟩ := SizeAtMost.zero_or_finite hy <;>
    rw [hu, hv]
  · exact hzero (s * t)
  · exact hzero (s * t)
  · exact hzero (s * t)
  · rw [hu] at hxregular
    rw [hv] at hyregular
    have hproduct : ((m * n : Nat) : ℚ) * 2 ^ (e + f) ≤ r * r' := by
      rw [zpow_add₀ two_ne_zero, Nat.cast_mul, mul_mul_mul_comm]
      exact mul_le_mul hxsize hysize (size_nonneg n f) hx.nonneg
    have hlt : ((m * n : Nat) : ℚ) * 2 ^ (e + f) < 2 ^ (1024 : Int) :=
      (hproduct.trans (le_grown ((size_nonneg _ _).trans hproduct))).trans_lt hbound
    exact sizeAtMost_round (add_exponents_le hxregular hyregular hlt) hproduct hbound

/-- A product of finite doubles is an infinity unless it is finite. -/
theorem AtMost.isFinite_mul (hx : AtMost x r) (hy : AtMost y r') (h : (x * y).isInf = false) :
    (x * y).isFinite = true := by
  change (unpack Format.binary64 (pack Format.binary64
    (UnpackedFloat.mul Format.binary64 x.toModel.unpack y.toModel.unpack))).isFinite = true
  change (unpack Format.binary64 (pack Format.binary64
    (UnpackedFloat.mul Format.binary64 x.toModel.unpack y.toModel.unpack))).isInf = false at h
  obtain ⟨s, hu⟩ | ⟨s, m, e, hm, hu, -⟩ := SizeAtMost.zero_or_finite hx <;>
    obtain ⟨t, hv⟩ | ⟨t, n, f, hn, hv, -⟩ := SizeAtMost.zero_or_finite hy <;>
    rw [hu, hv] at h ⊢
  · exact isFinite_zero (s * t)
  · exact isFinite_zero (s * t)
  · exact isFinite_zero (s * t)
  · exact isFinite_of_not_isInf_round h

/-- **Quotients** of finite doubles are finite as long as the exact quotient stays below `2 ^ 1024`. -/
theorem AtMost.div {v : ℚ} (hx : AtMost x r) (hy : AtLeast y v) (hv : 0 < v)
    (hbound : grown (grown (r / v)) < 2 ^ (1024 : Int)) : AtMost (x / y) (grown (grown (r / v))) := by
  obtain ⟨t, n, f, hn, hw, hle⟩ := hy
  have hquotient : 0 ≤ r / v := div_nonneg hx.nonneg hv.le
  have hgrown : r / v ≤ grown (r / v) := le_grown hquotient
  have hnonneg : 0 ≤ grown (grown (r / v)) :=
    (hquotient.trans hgrown).trans (le_grown (hquotient.trans hgrown))
  change SizeAtMost _ (unpack Format.binary64 (pack Format.binary64
    (UnpackedFloat.div Format.binary64 x.toModel.unpack y.toModel.unpack)))
  obtain ⟨s, hu⟩ | ⟨s, m, e, hm, hu, hsize⟩ := SizeAtMost.zero_or_finite hx
  · rw [hu, hw]
    exact sizeAtMost_unpack_pack (u := .zero (s / t)) hnonneg trivial
  · rw [hu, hw]
    have hq : (m : ℚ) * 2 ^ e ≤ r / v * (n * 2 ^ f) :=
      calc (m : ℚ) * 2 ^ e ≤ r := hsize
        _ = r / v * v := (div_mul_cancel₀ r hv.ne').symm
        _ ≤ r / v * (n * 2 ^ f) := mul_le_mul_of_nonneg_left hle hquotient
    have hbelow : r / v < 2 ^ (1024 : Int) :=
      (hgrown.trans (le_grown (hquotient.trans hgrown))).trans_lt hbound
    exact sizeAtMost_round (exponent_divCore_le hm hn hq hbelow) (ceiling_divCore_le hm hn hq) hbound

end Float

/-! ## Decided sizes -/

/-- Whether a double is a multiple of `2 ^ -52` from `low` up to `high` times as large, up to its sign. -/
def Within (low high : Nat) (x : Float) : Bool :=
  match x.toModel.unpack with
  | .finite _ m e _ =>
    decide (-52 ≤ e) && decide (low ≤ m * 2 ^ (e + 52).toNat) && decide (m * 2 ^ (e + 52).toNat ≤ high)
  | _ => false

section Within

variable {low high : Nat} {x : Float}

theorem exists_finite_of_within (h : Within low high x = true) :
    ∃ s m e hm, x.toModel.unpack = .finite s m e hm ∧ (low : ℚ) / 2 ^ 52 ≤ m * 2 ^ e ∧
      (m : ℚ) * 2 ^ e ≤ high / 2 ^ 52 := by
  rw [Within] at h
  split at h
  · next s m e hm hx =>
    simp only [Bool.and_eq_true, decide_eq_true_eq] at h
    obtain ⟨⟨he, hlow⟩, hhigh⟩ := h
    have hunits : (m : ℚ) * 2 ^ e = ((m * 2 ^ (e + 52).toNat : Nat) : ℚ) / 2 ^ 52 := by
      have hpow : (2 : ℚ) ^ e * 2 ^ 52 = 2 ^ (e + 52).toNat := by
        rw [← zpow_natCast, ← zpow_natCast, ← zpow_add₀ two_ne_zero]
        congr 1
        omega
      rw [eq_div_iff (by positivity), mul_assoc, hpow]
      norm_cast
    refine ⟨s, m, e, hm, hx, ?_, ?_⟩
    · rw [hunits]
      exact div_le_div_of_nonneg_right (by exact_mod_cast hlow) (by positivity)
    · rw [hunits]
      exact div_le_div_of_nonneg_right (by exact_mod_cast hhigh) (by positivity)
  · cases h

theorem atMost_of_within (h : Within low high x = true) : AtMost x (high / 2 ^ 52) := by
  obtain ⟨s, m, e, hm, hx, -, hhigh⟩ := exists_finite_of_within h
  rw [AtMost, hx]
  exact hhigh

end Within

/-! ## Natural numbers -/

/-- A coarse bound of what rounding adds. -/
theorem grown_le_two_mul {r : ℚ} (hr : 0 ≤ r) : grown r ≤ 2 * r + 1 := by
  have hrel : r * 2 ^ (-52 : Int) ≤ r * 1 :=
    mul_le_mul_of_nonneg_left (zpow_le_one_of_nonpos₀ one_le_two (by norm_num)) hr
  have habs : (2 : ℚ) ^ (-1074 : Int) ≤ 1 := zpow_le_one_of_nonpos₀ one_le_two (by norm_num)
  rw [grown]
  linarith

/-- Sizes of 64 bits stay far below `2 ^ 1024` when they are rounded twice. -/
theorem grown_grown_lt {r : ℚ} (hr : 0 ≤ r) (h : r ≤ 2 ^ 65) : grown (grown r) < 2 ^ (1024 : Int) := by
  have hfirst := grown_le_two_mul hr
  have hsecond := grown_le_two_mul (hr.trans (le_grown hr))
  have hsmall : grown (grown r) < 2 ^ (68 : Int) := by
    norm_num at h ⊢
    linarith
  exact hsmall.trans_le (zpow_le_zpow_right₀ one_le_two (by norm_num))

/-- A number of few bits is shifted to its place and not rounded. -/
theorem atMost_toFloat {n : Nat} (hn : n < 2 ^ 53) : AtMost n.toUInt64.toFloat (grown n) := by
  have hnonneg : (0 : ℚ) ≤ n := Nat.cast_nonneg n
  have hbound : grown (n : ℚ) < 2 ^ (1024 : Int) := by
    have hsize : (n : ℚ) ≤ 2 ^ 65 := by
      have hlt : n ≤ 2 ^ 65 := by omega
      exact_mod_cast hlt
    exact (le_grown (hnonneg.trans (le_grown hnonneg))).trans_lt (grown_grown_lt hnonneg hsize)
  have hvalue : n.toUInt64.toNat = n := by
    rw [Nat.toUInt64_eq, UInt64.toNat_ofNat']
    omega
  change SizeAtMost _ (unpack Format.binary64 (pack Format.binary64
    (UnpackedFloat.normalize Format.binary64 (n.toUInt64.toNat : Int) 0 .positive)))
  rw [hvalue, UnpackedFloat.normalize]
  split
  · next hneg => exact absurd (compare_lt_iff_lt.1 hneg) (by omega)
  · exact sizeAtMost_unpack_pack (u := .zero _) (hnonneg.trans (le_grown hnonneg)) trivial
  · rw [Int.toNat_natCast]
    set k : Nat := (0 - Format.binary64.targetExponent (totalExponent n 0)).toNat with hk
    have hshifted : ((n <<< k : Nat) : ℚ) * 2 ^ ((0 : Int) - k) ≤ n := by
      rw [Nat.shiftLeft_eq, zero_sub, zpow_neg, zpow_natCast, Nat.cast_mul, Nat.cast_pow, Nat.cast_ofNat,
        mul_assoc, mul_inv_cancel₀ (by positivity), mul_one]
    exact sizeAtMost_round (by omega) hshifted hbound

section Scientific

variable {n k : Nat}

/-- A number with a power of ten is rounded once, from 53 more binary digits. -/
theorem ofScientific_eq_round (hn : n ≠ 0) (hk : k ≤ 2 ^ 11) :
    UnpackedFloat.ofScientific Format.binary64 n k =
      roundWithAccuracy Format.binary64 (.positive * .positive) (n <<< 53 * 10 ^ k) (-53) .exact := by
  have hlarge : ¬ (k : Int) > 2 ^ Format.binary64.exponentBits := by
    change ¬ (k : Int) > 2 ^ 11
    omega
  have htiny : ¬ (k : Int) < -(2 ^ Format.binary64.exponentBits + (n.log2 : Int)) := by
    change ¬ (k : Int) < -(2 ^ 11 + (n.log2 : Int))
    omega
  rw [UnpackedFloat.ofScientific, dif_neg hn, if_neg hlarge, if_neg htiny, if_pos (by omega)]
  rfl

/-- The digits that are rounded are those of the number. -/
theorem ceiling_shifted_le (n k : Nat) :
    (ceiling (n <<< 53 * 10 ^ k) .exact : ℚ) * 2 ^ (-53 : Int) ≤ n * 10 ^ k := by
  rw [ceiling, Nat.shiftLeft_eq]
  calc ((n * 2 ^ 53 * 10 ^ k : Nat) : ℚ) * 2 ^ (-53 : Int)
      = n * 10 ^ k * (2 ^ 53 * 2 ^ (-53 : Int)) := by
        push_cast
        ring
    _ ≤ n * 10 ^ k := by norm_num

variable (hn : n ≠ 0) (hk : k ≤ 2 ^ 11) (hbound : grown (n * 10 ^ k) < 2 ^ (1024 : Int))
include hn hk hbound

/-- A number with a power of ten is of a known size. -/
theorem sizeAtMost_ofScientific : SizeAtMost (grown (n * 10 ^ k)) (unpack Format.binary64
    (pack Format.binary64 (UnpackedFloat.ofScientific Format.binary64 n k))) := by
  rw [ofScientific_eq_round hn hk]
  exact sizeAtMost_round (by norm_num) (ceiling_shifted_le n k) hbound

/-- A power of two up to a number with a power of ten is one up to its double too. -/
theorem exists_le_ofScientific {b : Nat} (hb : 2 ^ b ≤ n * 10 ^ k) :
    ∃ s m e hm, unpack Format.binary64
        (pack Format.binary64 (UnpackedFloat.ofScientific Format.binary64 n k)) = .finite s m e hm ∧
      (2 : ℚ) ^ b ≤ m * 2 ^ e := by
  have hpos : n <<< 53 * 10 ^ k ≠ 0 := by
    rw [Nat.shiftLeft_eq]
    positivity
  have hbits : b + 53 ≤ (n <<< 53 * 10 ^ k).log2 := by
    rw [Nat.le_log2 hpos, Nat.shiftLeft_eq, pow_add, mul_right_comm]
    exact Nat.mul_le_mul_right _ hb
  have hpow : (2 : ℚ) ^ b ≤ 2 ^ (((n <<< 53 * 10 ^ k).log2 : Int) + -53) := by
    rw [← zpow_natCast]
    exact zpow_le_zpow_right₀ one_le_two (by omega)
  rw [ofScientific_eq_round hn hk]
  obtain ⟨m, e, hm, hunpack, hleading⟩ := exists_le_round (s := .positive * .positive) (by omega)
    (by omega) (ceiling_shifted_le n k) hbound
  exact ⟨_, m, e, hm, hunpack, hpow.trans hleading⟩

end Scientific

/-- A natural number of 64 bits is read as a double of its size, rounded at most twice. -/
theorem atMost_ofNat {n : Nat} (hn : n < 2 ^ 64) : AtMost (Float.ofNat n) (grown (grown n)) := by
  have hnonneg : (0 : ℚ) ≤ n := Nat.cast_nonneg n
  have hgrown : grown (n : ℚ) ≤ grown (grown n) := le_grown (hnonneg.trans (le_grown hnonneg))
  have hbound : grown (grown (n : ℚ)) < 2 ^ (1024 : Int) := by
    refine grown_grown_lt hnonneg ?_
    have hlt : n ≤ 2 ^ 65 := by omega
    exact_mod_cast hlt
  change AtMost (Float.ofScientific n false 0) _
  rw [Float.ofScientific]
  by_cases hsmall : n < 2 ^ 53 ∧ 0 ≤ 22
  · -- few bits: a product with one
    have hone : AtMost Float.exactlyRepresentablePowersOfTen[0] 1 := by
      have h : Within (2 ^ 52) (2 ^ 52) Float.exactlyRepresentablePowersOfTen[0] = true := by
        decide +kernel
      exact (atMost_of_within h).mono (by norm_num)
    have hproduct := (atMost_toFloat hsmall.1).mul hone (by rwa [mul_one])
    rw [mul_one] at hproduct
    rw [dif_pos hsmall]
    exact hproduct
  · -- many bits: one rounding
    have hround := sizeAtMost_ofScientific (n := n) (k := 0) (by omega) (by norm_num)
    rw [pow_zero, mul_one] at hround
    rw [dif_neg hsmall]
    exact (hround (hgrown.trans_lt hbound)).mono hgrown

end ErrorTaxonomy.Double
