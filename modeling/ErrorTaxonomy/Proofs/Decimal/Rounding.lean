import Mathlib

/-! # Rounding — how large a rounded double can be

A finite double is `mantissa · 2 ^ exponent` up to its sign, with a mantissa below `2 ^ 53` and an exponent
from `-1074` up to `971`. A result with a longer mantissa is shifted to its last place and rounded, which
adds at most one unit of that place (`rounded_shift_le`); packed, it is finite as long as this stays below
`2 ^ 1024` (`sizeAtMost_round`), and it keeps its leading bit (`exists_le_round`). -/

namespace ErrorTaxonomy.Double

open Float.Model (Format UnpackedFloat totalExponent)
open Float.Model.UnpackedFloat

/-! ## Sizes of unpacked doubles -/

/-- An unpacked double is finite and of size at most `r`. -/
def SizeAtMost (r : ℚ) : UnpackedFloat → Prop
  | .finite _ m e _ => (m : ℚ) * 2 ^ e ≤ r
  | .zero _ => 0 ≤ r
  | .infinity _ => False
  | .notANumber => False

/-- The exponent of an unpacked double is one that can be packed. -/
def InRange : UnpackedFloat → Prop
  | .finite _ _ e _ => -1074 ≤ e ∧ e ≤ 971
  | _ => True

/-- The mantissa of an unpacked double has 53 bits, or fewer with the least exponent. -/
def Regular : UnpackedFloat → Prop
  | .finite _ m e _ => m < 2 ^ 53 ∧ (-1074 ≤ e ∧ e ≤ 971) ∧ (e = -1074 ∨ 2 ^ 52 ≤ m)
  | _ => True

theorem size_nonneg (m : Nat) (e : Int) : (0 : ℚ) ≤ m * 2 ^ e := by positivity

/-- The leading bit of a mantissa. -/
theorem two_zpow_log2_le {m : Nat} (hm : m ≠ 0) : (2 : ℚ) ^ (m.log2 : Int) ≤ m := by
  rw [zpow_natCast]
  exact_mod_cast Nat.log2_self_le hm

/-- Dropping binary digits does not make a size larger. -/
theorem div_mul_zpow_le (m n : Nat) (e : Int) :
    ((m / 2 ^ n : Nat) : ℚ) * 2 ^ (e + n) ≤ m * 2 ^ e := by
  have hfloor : ((m / 2 ^ n : Nat) : ℚ) * 2 ^ n ≤ m := by
    exact_mod_cast Nat.div_mul_le_self m (2 ^ n)
  calc ((m / 2 ^ n : Nat) : ℚ) * 2 ^ (e + n) = (m / 2 ^ n : Nat) * 2 ^ n * 2 ^ e := by
        rw [zpow_add₀ two_ne_zero, zpow_natCast]
        ring
    _ ≤ m * 2 ^ e := mul_le_mul_of_nonneg_right hfloor (by positivity)

/-- What has a size is a zero or a finite number. -/
theorem SizeAtMost.zero_or_finite {r : ℚ} {u : UnpackedFloat} (h : SizeAtMost r u) :
    (∃ s, u = .zero s) ∨ ∃ s m e hm, u = .finite s m e hm ∧ (m : ℚ) * 2 ^ e ≤ r := by
  cases u with
  | finite s m e hm => exact .inr ⟨s, m, e, hm, rfl, h⟩
  | zero s => exact .inl ⟨s, rfl⟩
  | infinity s => exact h.elim
  | notANumber => exact h.elim

theorem SizeAtMost.nonneg {r : ℚ} {u : UnpackedFloat} (h : SizeAtMost r u) : 0 ≤ r := by
  obtain ⟨s, rfl⟩ | ⟨s, m, e, hm, rfl, hsize⟩ := h.zero_or_finite
  · exact h
  · exact (size_nonneg m e).trans hsize

theorem SizeAtMost.mono {r r' : ℚ} {u : UnpackedFloat} (h : SizeAtMost r u) (hr : r ≤ r') :
    SizeAtMost r' u := by
  obtain ⟨s, rfl⟩ | ⟨s, m, e, hm, rfl, hsize⟩ := h.zero_or_finite
  · exact le_trans h hr
  · exact hsize.trans hr

theorem SizeAtMost.isFinite {r : ℚ} {u : UnpackedFloat} (h : SizeAtMost r u) : u.isFinite = true := by
  obtain ⟨s, rfl⟩ | ⟨s, m, e, hm, rfl, -⟩ := h.zero_or_finite
  · rfl
  · rfl

/-! ## Packing -/

/-- A mantissa of 53 bits behind its leading bit. -/
theorem toNat_leadingBit (f : BitVec 52) : (1#1 ++ f).toNat = 2 ^ 52 + f.toNat := by
  rw [BitVec.toNat_append, ← Nat.shiftLeft_add_eq_or_of_lt f.isLt]
  rfl

/-- What is unpacked has a mantissa and an exponent of a double. -/
theorem regular_unpack (b : BitVec 64) : Regular (unpack Format.binary64 b) := by
  simp only [unpack]
  split_ifs with hinf hmantissa hzero hmantissa
  · trivial
  · trivial
  · trivial
  · -- the least exponent
    refine ⟨lt_of_lt_of_le (BitVec.isLt _) (by decide), ?_, .inl ?_⟩ <;>
      simp [hzero, Format.exponentBias]
  · have hfield : (@unpackExponent Format.binary64 b).toNat < 2 ^ 11 := BitVec.isLt _
    have hpos : (@unpackExponent Format.binary64 b).toNat ≠ 0 :=
      fun h => hzero (BitVec.eq_of_toNat_eq h)
    have hlast : (@unpackExponent Format.binary64 b).toNat ≠ 2 ^ 11 - 1 :=
      fun h => hinf (BitVec.eq_of_toNat_eq h)
    have hbits : (@unpackMantissa Format.binary64 b).toNat < 2 ^ 52 := BitVec.isLt _
    have hmantissa := toNat_leadingBit (@unpackMantissa Format.binary64 b)
    refine ⟨?_, ⟨?_, ?_⟩, .inr ?_⟩
    · omega
    · simp [Format.exponentBias]
      omega
    · simp [Format.exponentBias]
      omega
    · omega

/-- A packed double with the least exponent. -/
theorem sizeAtMost_unpack_least {r : ℚ} {s : Sign} {f : BitVec 52}
    (h : (f.toNat : ℚ) * 2 ^ (-1074 : Int) ≤ r) :
    SizeAtMost r (unpack Format.binary64 (packComponents Format.binary64 s 0#11 f)) := by
  have hlast : (0#11 : BitVec 11) ≠ -1#11 := by decide
  simp only [unpack, unpackMantissa_packComponents, unpackExponent_packComponents]
  rw [if_neg hlast, if_pos True.intro]
  split_ifs
  · exact (size_nonneg _ _).trans h
  · exact h

/-- A field that stands for one number is not the field of another. -/
theorem ofNat_ne {n : Nat} (hn : n < 2 ^ 11) {b : BitVec 11} (h : n ≠ b.toNat) :
    BitVec.ofNat 11 n ≠ b := by
  rintro rfl
  rw [BitVec.toNat_ofNat, Nat.mod_eq_of_lt hn] at h
  exact h rfl

/-- The exponent field of a packed double. -/
theorem biased_exponent (e : Int) :
    (e + Format.binary64.exponentBias + Format.binary64.mantissaBitsWithoutImplicit).toNat =
      (e + 1075).toNat := by
  simp [Format.exponentBias]
  omega

/-- A mantissa of 53 bits with an exponent in range is unpacked as it was packed. -/
theorem unpack_pack_full {s : Sign} {m : Nat} {e : Int} (hm : 0 < m) (hbits : m.log2 = 52)
    (hlow : -1074 ≤ e) (hhigh : e ≤ 971) :
    unpack Format.binary64 (pack Format.binary64 (.finite s m e hm)) = .finite s m e hm := by
  have hfits : ¬ 2 ^ 11 ≤ (e + 1075).toNat + 1 := by omega
  have hvalue : (BitVec.ofNat 11 (e + 1075).toNat).toNat = (e + 1075).toNat := by
    rw [BitVec.toNat_ofNat]
    omega
  -- the exponent field is neither the first nor the last one
  have hlast : BitVec.ofNat 11 (e + 1075).toNat ≠ -1#11 := by
    refine ofNat_ne (by omega) ?_
    have hfield : (-1#11).toNat = 2047 := rfl
    omega
  have hzero : BitVec.ofNat 11 (e + 1075).toNat ≠ 0#11 := by
    refine ofNat_ne (by omega) ?_
    have hfield : (0#11).toNat = 0 := rfl
    omega
  have hrange := (Nat.log2_eq_iff hm.ne').1 hbits
  have hmantissa : (1#1 ++ BitVec.ofNat 52 m).toNat = m := by
    rw [toNat_leadingBit, BitVec.toNat_ofNat]
    omega
  simp only [pack]
  rw [biased_exponent, if_neg hfits, if_pos (by rw [hbits]; rfl)]
  simp only [unpack, unpackMantissa_packComponents, unpackExponent_packComponents,
    unpackSign_packComponents, Sign.ofBitVec_toBitVec]
  rw [if_neg hlast, if_neg hzero]
  simp only [UnpackedFloat.finite.injEq, true_and]
  refine ⟨hmantissa, ?_⟩
  rw [hvalue]
  simp [Format.exponentBias]
  omega

/-- Packing does not make a double larger: an exponent in range is kept, and a mantissa with too few bits
for it is taken with the least exponent. -/
theorem sizeAtMost_unpack_pack {r : ℚ} {u : UnpackedFloat} (h : SizeAtMost r u) (hu : InRange u) :
    SizeAtMost r (unpack Format.binary64 (pack Format.binary64 u)) := by
  obtain ⟨s, rfl⟩ | ⟨s, m, e, hm, rfl, h⟩ := h.zero_or_finite
  · refine sizeAtMost_unpack_least (le_trans ?_ h.nonneg)
    simp
  · obtain ⟨hlow, hhigh⟩ := hu
    by_cases hbits : m.log2 = 52
    · rw [unpack_pack_full hm hbits hlow hhigh]
      exact h
    · -- the exponent field is the first one
      have hfits : ¬ 2 ^ 11 ≤
          (e + Format.binary64.exponentBias + Format.binary64.mantissaBitsWithoutImplicit).toNat + 1 := by
        rw [biased_exponent]
        omega
      have hshort : m.log2 + 1 ≠ Format.binary64.mantissaBits :=
        fun hfull => hbits (by simpa [Format.mantissaBits] using hfull)
      simp only [pack]
      rw [if_neg hfits, if_neg hshort]
      refine sizeAtMost_unpack_least (le_trans (mul_le_mul ?_ ?_ ?_ ?_) h)
      · rw [BitVec.toNat_ofNat]
        exact_mod_cast Nat.mod_le m _
      · exact zpow_le_zpow_right₀ one_le_two hlow
      · positivity
      · positivity

theorem isFinite_zero (s : Sign) :
    (unpack Format.binary64 (pack Format.binary64 (.zero s))).isFinite = true :=
  (sizeAtMost_unpack_pack (u := .zero s) (le_refl (0 : ℚ)) trivial).isFinite

/-! ## Rounding -/

/-- The exponent that a rounded result has at least. -/
theorem targetExponent_eq (m : Nat) (e : Int) :
    Format.binary64.targetExponent (totalExponent m e) = max (m.log2 + e - 52) (-1074) := by
  simp only [Format.targetExponent, totalExponent, Format.mantissaBits, Format.minExponent]
  omega

/-- Shifting drops binary digits. -/
theorem mantissa_shiftRight (em : ExtendedMantissa) (n : Nat) :
    (em >>> n).mantissa = em.mantissa / 2 ^ n := by
  change (Nat.repeat ExtendedMantissa.shiftRightOne n em).mantissa = _
  induction n with
  | zero => simp [Nat.repeat]
  | succ n ih =>
    rw [Nat.repeat, ExtendedMantissa.shiftRightOne, ih, Nat.div_div_eq_div_mul, Nat.pow_succ]

/-- Rounding takes a mantissa or the next one. -/
theorem roundedMantissa_le (em : ExtendedMantissa) : em.roundedMantissa ≤ em.mantissa + 1 := by
  obtain ⟨m, r, s⟩ := em
  cases r <;> cases s <;>
    simp [ExtendedMantissa.roundedMantissa, ExtendedMantissa.accuracy, Accuracy.roundToNearestEven]
  omega

/-- Rounding does not make a mantissa smaller. -/
theorem le_roundedMantissa (em : ExtendedMantissa) : em.mantissa ≤ em.roundedMantissa := by
  obtain ⟨m, r, s⟩ := em
  cases r <;> cases s <;>
    simp [ExtendedMantissa.roundedMantissa, ExtendedMantissa.accuracy, Accuracy.roundToNearestEven]

/-- A whole number that what a mantissa stands for does not exceed. -/
def ceiling (m : Nat) : Accuracy → Nat
  | .exact => m
  | .inexact _ => m + 1

theorem le_ceiling (m : Nat) (acc : Accuracy) : m ≤ ceiling m acc := by
  cases acc with
  | exact => exact le_refl m
  | inexact o => exact Nat.le_succ m

theorem ceiling_le (m : Nat) (acc : Accuracy) : ceiling m acc ≤ m + 1 := by
  cases acc with
  | exact => exact Nat.le_succ m
  | inexact o => exact le_refl (m + 1)

theorem mantissa_ofMantissaAndAccuracy (m : Nat) (acc : Accuracy) :
    (ExtendedMantissa.ofMantissaAndAccuracy m acc).mantissa = m := by
  cases acc with
  | exact => rfl
  | inexact o => cases o <;> rfl

theorem roundedMantissa_ofMantissaAndAccuracy_le (m : Nat) (acc : Accuracy) :
    (ExtendedMantissa.ofMantissaAndAccuracy m acc).roundedMantissa ≤ ceiling m acc := by
  cases acc with
  | exact => exact le_refl m
  | inexact o =>
    refine (roundedMantissa_le _).trans ?_
    rw [mantissa_ofMantissaAndAccuracy]
    exact le_refl _

/-- What **rounding** makes of a size at most: one unit of the last place more. -/
def grown (r : ℚ) : ℚ := r + r * 2 ^ (-52 : Int) + 2 ^ (-1074 : Int)

theorem le_grown {r : ℚ} (hr : 0 ≤ r) : r ≤ grown r := by
  have hrel : 0 ≤ r * 2 ^ (-52 : Int) := by positivity
  have habs : (0 : ℚ) ≤ 2 ^ (-1074 : Int) := by positivity
  rw [grown]
  linarith

/-- Rounding a size of one or more adds less than one part in `2 ^ 51`. -/
theorem grown_le {r : ℚ} (hr : 1 ≤ r) : grown r ≤ r * (1 + 2 ^ (-51 : Int)) := by
  have hleast : (2 : ℚ) ^ (-1074 : Int) ≤ r * 2 ^ (-52 : Int) :=
    calc (2 : ℚ) ^ (-1074 : Int) ≤ 1 * 2 ^ (-52 : Int) := by
          rw [one_mul]
          exact zpow_le_zpow_right₀ one_le_two (by norm_num)
      _ ≤ r * 2 ^ (-52 : Int) := mul_le_mul_of_nonneg_right hr (by positivity)
  have htwice : (2 : ℚ) ^ (-51 : Int) = 2 ^ (-52 : Int) + 2 ^ (-52 : Int) := by norm_num
  rw [grown, htwice]
  linarith

theorem grown_mono {r r' : ℚ} (h : r ≤ r') : grown r ≤ grown r' := by
  have hrel : r * 2 ^ (-52 : Int) ≤ r' * 2 ^ (-52 : Int) := mul_le_mul_of_nonneg_right h (by positivity)
  rw [grown, grown]
  linarith

/-- The last place of a result is small beside the result, unless it is the least place of all. -/
theorem lastPlace_le {m : Nat} {e : Int} {r : ℚ} (hr : (m : ℚ) * 2 ^ e ≤ r)
    (hshift : e < max (m.log2 + e - 52) (-1074)) :
    (2 : ℚ) ^ max (m.log2 + e - 52) (-1074) ≤ r * 2 ^ (-52 : Int) + 2 ^ (-1074 : Int) := by
  have hnonneg : 0 ≤ r := (size_nonneg m e).trans hr
  rcases le_total ((m.log2 : Int) + e - 52) (-1074) with hle | hle
  · rw [max_eq_right hle]
    exact le_add_of_nonneg_left (by positivity)
  · rw [max_eq_left hle] at hshift ⊢
    have hm : m ≠ 0 := by
      rintro rfl
      simp at hshift
      omega
    have hsplit : (2 : ℚ) ^ ((m.log2 : Int) + e - 52) =
        2 ^ (m.log2 : Int) * 2 ^ e * 2 ^ (-52 : Int) := by
      rw [← zpow_add₀ two_ne_zero, ← zpow_add₀ two_ne_zero]
      rfl
    rw [hsplit]
    have hrel : (2 : ℚ) ^ (m.log2 : Int) * 2 ^ e * 2 ^ (-52 : Int) ≤ r * 2 ^ (-52 : Int) :=
      mul_le_mul_of_nonneg_right
        ((mul_le_mul_of_nonneg_right (two_zpow_log2_le hm) (by positivity)).trans hr)
        (by positivity)
    exact hrel.trans (le_add_of_nonneg_right (by positivity))

/-- A mantissa that is shifted to its last place and rounded. -/
theorem rounded_shift_le {m : Nat} {e : Int} {r : ℚ} (acc : Accuracy)
    (hr : (ceiling m acc : ℚ) * 2 ^ e ≤ r) :
    ((shiftToTargetExponent Format.binary64 m e acc).1.roundedMantissa : ℚ) *
      2 ^ (shiftToTargetExponent Format.binary64 m e acc).2 ≤ grown r := by
  have hm : (m : ℚ) * 2 ^ e ≤ r :=
    (mul_le_mul_of_nonneg_right (by exact_mod_cast le_ceiling m acc) (by positivity)).trans hr
  have hnonneg : 0 ≤ r := (size_nonneg m e).trans hm
  simp only [shiftToTargetExponent, shiftToExponent, targetExponent_eq]
  rcases le_or_gt (max ((m.log2 : Int) + e - 52) (-1074)) e with hle | hlt
  · -- nothing is shifted out
    rw [Int.toNat_eq_zero.2 (by omega)]
    refine le_trans ?_ (hr.trans (le_grown hnonneg))
    refine mul_le_mul ?_ (by simp) (by positivity) (by positivity)
    exact_mod_cast roundedMantissa_ofMantissaAndAccuracy_le m acc
  · have hplace := lastPlace_le hm hlt
    set t : Int := max ((m.log2 : Int) + e - 52) (-1074)
    set n : Nat := (t - e).toNat with hn
    have hexponent : e + (n : Int) = t := by omega
    have hfloor := div_mul_zpow_le m n e
    rw [hexponent] at hfloor ⊢
    have hround : ((ExtendedMantissa.ofMantissaAndAccuracy m acc >>> n).roundedMantissa : ℚ) ≤
        (m / 2 ^ n : Nat) + 1 := by
      have h := roundedMantissa_le (ExtendedMantissa.ofMantissaAndAccuracy m acc >>> n)
      rw [mantissa_shiftRight, mantissa_ofMantissaAndAccuracy] at h
      exact_mod_cast h
    calc ((ExtendedMantissa.ofMantissaAndAccuracy m acc >>> n).roundedMantissa : ℚ) * 2 ^ t
        ≤ ((m / 2 ^ n : Nat) + 1) * 2 ^ t := mul_le_mul_of_nonneg_right hround (by positivity)
      _ = (m / 2 ^ n : Nat) * 2 ^ t + 2 ^ t := by ring
      _ ≤ m * 2 ^ e + 2 ^ t := by gcongr
      _ ≤ grown r := by
        rw [grown]
        linarith

/-- A size below `2 ^ 1024` has its leading bit below that. -/
theorem log2_add_lt {m : Nat} {e : Int} (hm : m ≠ 0) (h : (m : ℚ) * 2 ^ e < 2 ^ (1024 : Int)) :
    (m.log2 : Int) + e < 1024 := by
  have hpow : (2 : ℚ) ^ ((m.log2 : Int) + e) < 2 ^ (1024 : Int) := by
    rw [zpow_add₀ two_ne_zero]
    exact (mul_le_mul_of_nonneg_right (two_zpow_log2_le hm) (by positivity)).trans_lt h
  exact (zpow_lt_zpow_iff_right₀ one_lt_two).1 hpow

/-- Nothing is shifted below the least place. -/
theorem le_shift (m : Nat) (e : Int) (acc : Accuracy) :
    -1074 ≤ (shiftToTargetExponent Format.binary64 m e acc).2 := by
  simp only [shiftToTargetExponent, shiftToExponent, targetExponent_eq]
  omega

/-- The place to which a size below `2 ^ 1024` is shifted can be packed. -/
theorem shift_le {m : Nat} {e : Int} (acc : Accuracy) (he : e ≤ 971)
    (h : (m : ℚ) * 2 ^ e < 2 ^ (1024 : Int)) :
    (shiftToTargetExponent Format.binary64 m e acc).2 ≤ 971 := by
  simp only [shiftToTargetExponent, shiftToExponent, targetExponent_eq]
  by_cases hm : m = 0
  · subst hm
    simp
    omega
  · have hlog := log2_add_lt hm h
    omega

/-- **A rounded result** is finite and of a known size when the exact one stays below `2 ^ 1024`. -/
theorem sizeAtMost_round {s : Sign} {m : Nat} {e : Int} {acc : Accuracy} {r : ℚ} (he : e ≤ 971)
    (hr : (ceiling m acc : ℚ) * 2 ^ e ≤ r) (hbound : grown r < 2 ^ (1024 : Int)) :
    SizeAtMost (grown r) (unpack Format.binary64
      (pack Format.binary64 (roundWithAccuracy Format.binary64 s m e acc))) := by
  have hm : (m : ℚ) * 2 ^ e ≤ r :=
    (mul_le_mul_of_nonneg_right (by exact_mod_cast le_ceiling m acc) (by positivity)).trans hr
  have hnonneg : 0 ≤ r := (size_nonneg m e).trans hm
  have hfirst := rounded_shift_le acc hr
  have hplace := shift_le acc he (hm.trans_lt ((le_grown hnonneg).trans_lt hbound))
  set p := shiftToTargetExponent Format.binary64 m e acc with hp
  -- a mantissa that rounding made too long is shifted once more
  have hagain := shift_le .exact hplace (hfirst.trans_lt hbound)
  have hshifted :
      ((shiftToTargetExponent Format.binary64 p.1.roundedMantissa p.2 .exact).1.mantissa : ℚ) *
        2 ^ (shiftToTargetExponent Format.binary64 p.1.roundedMantissa p.2 .exact).2 ≤ grown r := by
    refine le_trans ?_ hfirst
    simp only [shiftToTargetExponent, shiftToExponent, mantissa_shiftRight,
      mantissa_ofMantissaAndAccuracy]
    exact div_mul_zpow_le _ _ _
  refine sizeAtMost_unpack_pack ?_ ?_
  · simp only [roundWithAccuracy, ← hp]
    split_ifs with hzero
    · exact hnonneg.trans (le_grown hnonneg)
    · exact hshifted
  · simp only [roundWithAccuracy, ← hp]
    split_ifs with hzero
    · trivial
    · exact ⟨le_shift _ _ _, hagain⟩

/-- The last place of a mantissa with 53 bits or more. -/
theorem shift_full {m : Nat} {e : Int} (acc : Accuracy) (hbits : 52 ≤ m.log2)
    (hlow : -1022 ≤ m.log2 + e) :
    (shiftToTargetExponent Format.binary64 m e acc).2 = m.log2 + e - 52 ∧
      (shiftToTargetExponent Format.binary64 m e acc).1.mantissa.log2 = 52 := by
  have hplaces : (max ((m.log2 : Int) + e - 52) (-1074) - e).toNat = m.log2 - 52 := by omega
  simp only [shiftToTargetExponent, shiftToExponent, targetExponent_eq, mantissa_shiftRight,
    mantissa_ofMantissaAndAccuracy, hplaces]
  refine ⟨by omega, ?_⟩
  rw [Nat.log2_eq_log_two, Nat.log_div_base_pow, ← Nat.log2_eq_log_two]
  omega

/-- **The leading bit** of a result is not lost by rounding it. -/
theorem exists_le_round {s : Sign} {m : Nat} {e : Int} {acc : Accuracy} {r : ℚ} (hbits : 52 ≤ m.log2)
    (hlow : -1022 ≤ m.log2 + e) (hr : (ceiling m acc : ℚ) * 2 ^ e ≤ r)
    (hbound : grown r < 2 ^ (1024 : Int)) :
    ∃ n f hn, unpack Format.binary64
        (pack Format.binary64 (roundWithAccuracy Format.binary64 s m e acc)) = .finite s n f hn ∧
      (2 : ℚ) ^ (m.log2 + e) ≤ n * 2 ^ f := by
  have hm : (m : ℚ) * 2 ^ e ≤ r :=
    (mul_le_mul_of_nonneg_right (by exact_mod_cast le_ceiling m acc) (by positivity)).trans hr
  have hnonneg : 0 ≤ r := (size_nonneg m e).trans hm
  have hpos : m ≠ 0 := by
    rintro rfl
    simp at hbits
  have hlog := log2_add_lt hpos (hm.trans_lt ((le_grown hnonneg).trans_lt hbound))
  obtain ⟨hplace, hfull⟩ := shift_full acc hbits hlow
  have hfirst := rounded_shift_le acc hr
  set p := shiftToTargetExponent Format.binary64 m e acc with hp
  -- the rounded mantissa has 53 bits, or one more and then it is shifted once more
  have hrounded : 52 ≤ p.1.roundedMantissa.log2 := by
    have hmantissa : p.1.mantissa ≠ 0 := fun h => by simp [h] at hfull
    have hleading := (Nat.log2_eq_iff hmantissa).1 hfull
    have hle := le_roundedMantissa p.1
    rw [Nat.le_log2 (by omega)]
    omega
  have hagain := shift_le .exact (by omega) (hfirst.trans_lt hbound)
  obtain ⟨hplace', hfull'⟩ := shift_full .exact hrounded (by omega : -1022 ≤ _ + p.2)
  set q := shiftToTargetExponent Format.binary64 p.1.roundedMantissa p.2 .exact with hq
  have hmantissa : q.1.mantissa ≠ 0 := fun h => by simp [h] at hfull'
  refine ⟨q.1.mantissa, q.2, Nat.pos_of_ne_zero hmantissa, ?_, ?_⟩
  · simp only [roundWithAccuracy, ← hp, ← hq]
    rw [dif_neg hmantissa]
    exact unpack_pack_full _ hfull' (by omega) hagain
  · calc (2 : ℚ) ^ ((m.log2 : Int) + e) = 2 ^ (52 : Int) * 2 ^ p.2 := by
          rw [← zpow_add₀ two_ne_zero, hplace]
          congr 1
          omega
      _ ≤ q.1.mantissa * 2 ^ q.2 := by
          refine mul_le_mul ?_ ?_ (by positivity) (by positivity)
          · have hleading := two_zpow_log2_le hmantissa
            rwa [hfull'] at hleading
          · exact zpow_le_zpow_right₀ one_le_two (by omega)

/-- A rounded result is an infinity unless it is finite. -/
theorem isFinite_of_not_isInf_round {s : Sign} {m : Nat} {e : Int} {acc : Accuracy}
    (h : (unpack Format.binary64
      (pack Format.binary64 (roundWithAccuracy Format.binary64 s m e acc))).isInf = false) :
    (unpack Format.binary64
      (pack Format.binary64 (roundWithAccuracy Format.binary64 s m e acc))).isFinite = true := by
  have hplaced : ∀ (m : Nat) (e : Int) (hm : 0 < m), -1074 ≤ e →
      (unpack Format.binary64 (pack Format.binary64 (.finite s m e hm))).isInf = false →
      (unpack Format.binary64 (pack Format.binary64 (.finite s m e hm))).isFinite = true := by
    intro m e hm hlow hinf
    by_cases hhigh : e ≤ 971
    · exact (sizeAtMost_unpack_pack (u := .finite s m e hm) (le_refl ((m : ℚ) * 2 ^ e))
        ⟨hlow, hhigh⟩).isFinite
    · -- an exponent that cannot be packed is packed as an infinity
      have hfield : 2 ^ 11 ≤ (e + Format.binary64.exponentBias +
          Format.binary64.mantissaBitsWithoutImplicit).toNat + 1 := by
        rw [biased_exponent]
        omega
      simp only [pack] at hinf
      rw [if_pos hfield] at hinf
      cases s <;> exact absurd hinf (by decide)
  revert h
  simp only [roundWithAccuracy]
  split_ifs with hzero
  · exact fun _ => isFinite_zero s
  · exact hplaced _ _ _ (le_shift _ _ _)

/-! ## Products and quotients -/

/-- The exponents of factors add up to one that can be packed, if the product stays below `2 ^ 1024`. -/
theorem add_exponents_le {m n : Nat} {e f : Int} {s t : Sign} {hm : 0 < m} {hn : 0 < n}
    (hx : Regular (.finite s m e hm)) (hy : Regular (.finite t n f hn))
    (h : ((m * n : Nat) : ℚ) * 2 ^ (e + f) < 2 ^ (1024 : Int)) : e + f ≤ 971 := by
  obtain ⟨-, ⟨-, he⟩, hfull | hfull⟩ := hx
  · have := hy.2.1
    omega
  · obtain ⟨-, ⟨-, hf⟩, hfull' | hfull'⟩ := hy
    · omega
    · -- both mantissas have 53 bits
      have hlog := log2_add_lt (Nat.mul_pos hm hn).ne' h
      have hbits : 104 ≤ (m * n).log2 := by
        rw [Nat.le_log2 (Nat.mul_pos hm hn).ne']
        calc 2 ^ 104 = 2 ^ 52 * 2 ^ 52 := by norm_num
          _ ≤ m * n := Nat.mul_le_mul hfull hfull'
      omega

section Quotients

variable {m n : Nat} {e f : Int} {q : ℚ}

/-- The last place of a quotient is small beside it, unless it is the least place of all. -/
theorem lastPlace_div_le (hm : 0 < m) (hn : 0 < n) (hq : (m : ℚ) * 2 ^ e ≤ q * (n * 2 ^ f)) :
    (2 : ℚ) ^ (((m.log2 : Int) + e) - (n.log2 + f) - 53) ≤ q * 2 ^ (-52 : Int) := by
  have hmlog := two_zpow_log2_le hm.ne'
  have hnlog : (n : ℚ) ≤ 2 ^ ((n.log2 : Int) + 1) := by
    have hlt : n < 2 ^ (n.log2 + 1) := Nat.lt_log2_self
    rw [← Nat.cast_succ, zpow_natCast]
    exact_mod_cast hlt.le
  have hpos : (0 : ℚ) < n * 2 ^ f := by positivity
  refine le_of_mul_le_mul_right ?_ hpos
  calc (2 : ℚ) ^ (((m.log2 : Int) + e) - (n.log2 + f) - 53) * (n * 2 ^ f)
      ≤ 2 ^ (((m.log2 : Int) + e) - (n.log2 + f) - 53) * (2 ^ ((n.log2 : Int) + 1) * 2 ^ f) :=
        mul_le_mul_of_nonneg_left (mul_le_mul_of_nonneg_right hnlog (by positivity)) (by positivity)
    _ = 2 ^ (m.log2 : Int) * 2 ^ e * 2 ^ (-52 : Int) := by
        rw [← zpow_add₀ two_ne_zero, ← zpow_add₀ two_ne_zero, ← zpow_add₀ two_ne_zero,
          ← zpow_add₀ two_ne_zero]
        congr 1
        omega
    _ ≤ q * (n * 2 ^ f) * 2 ^ (-52 : Int) :=
        mul_le_mul_of_nonneg_right
          ((mul_le_mul_of_nonneg_right hmlog (by positivity)).trans hq) (by positivity)
    _ = q * 2 ^ (-52 : Int) * (n * 2 ^ f) := by ring

/-- The last place of a quotient before it is rounded. -/
theorem exponent_divCore (m n : Nat) (e f : Int) : (divCore Format.binary64 m e n f).2.1 =
    min (e - f) (max (((m.log2 : Int) + e) - (n.log2 + f) - 53) (-1074)) := by
  simp only [divCore, Format.targetExponent, totalExponent, Format.mantissaBits, Format.minExponent]
  omega

/-- One unit of the last place of a quotient. -/
theorem zpow_exponent_divCore_le (hm : 0 < m) (hn : 0 < n)
    (hq : (m : ℚ) * 2 ^ e ≤ q * (n * 2 ^ f)) (hnonneg : 0 ≤ q) :
    (2 : ℚ) ^ (divCore Format.binary64 m e n f).2.1 ≤
      q * 2 ^ (-52 : Int) + 2 ^ (-1074 : Int) := by
  have hexponent := exponent_divCore m n e f
  rcases le_total (((m.log2 : Int) + e) - (n.log2 + f) - 53) (-1074) with hle | hle
  · exact (zpow_le_zpow_right₀ one_le_two (by omega)).trans (le_add_of_nonneg_left (by positivity))
  · have hmono : (2 : ℚ) ^ (divCore Format.binary64 m e n f).2.1 ≤
        2 ^ (((m.log2 : Int) + e) - (n.log2 + f) - 53) :=
      zpow_le_zpow_right₀ one_le_two (by omega)
    exact (hmono.trans (lastPlace_div_le hm hn hq)).trans (le_add_of_nonneg_right (by positivity))

/-- The digits of a quotient are rounded down. -/
theorem divCore_mul_le (hn : 0 < n) (hq : (m : ℚ) * 2 ^ e ≤ q * (n * 2 ^ f)) :
    ((divCore Format.binary64 m e n f).1 : ℚ) * 2 ^ (divCore Format.binary64 m e n f).2.1 ≤ q := by
  have hexponent := exponent_divCore m n e f
  have hquotient : (divCore Format.binary64 m e n f).1 =
      m * 2 ^ (e - f - (divCore Format.binary64 m e n f).2.1).toNat / n := by
    rw [← Nat.shiftLeft_eq]
    rfl
  rw [hquotient]
  set t : Int := (divCore Format.binary64 m e n f).2.1
  set k : Nat := (e - f - t).toNat with hk
  have hdiv : ((m * 2 ^ k / n : Nat) : ℚ) * n ≤ m * 2 ^ k := by
    exact_mod_cast Nat.div_mul_le_self (m * 2 ^ k) n
  have hexact : (2 : ℚ) ^ k * (2 ^ t * 2 ^ f) = 2 ^ e := by
    rw [← zpow_natCast, ← zpow_add₀ two_ne_zero, ← zpow_add₀ two_ne_zero]
    congr 1
    omega
  have hpos : (0 : ℚ) < n * 2 ^ f := by positivity
  refine le_of_mul_le_mul_right ?_ hpos
  calc ((m * 2 ^ k / n : Nat) : ℚ) * 2 ^ t * (n * 2 ^ f)
      = (m * 2 ^ k / n : Nat) * n * (2 ^ t * 2 ^ f) := by ring
    _ ≤ m * 2 ^ k * (2 ^ t * 2 ^ f) := mul_le_mul_of_nonneg_right hdiv (by positivity)
    _ = m * 2 ^ e := by rw [mul_assoc, hexact]
    _ ≤ q * (n * 2 ^ f) := hq

/-- The quotient that is rounded, with one more in its last place unless it is exact. -/
theorem ceiling_divCore_le (hm : 0 < m) (hn : 0 < n) (hq : (m : ℚ) * 2 ^ e ≤ q * (n * 2 ^ f)) :
    (ceiling (divCore Format.binary64 m e n f).1 (divCore Format.binary64 m e n f).2.2 : ℚ) *
      2 ^ (divCore Format.binary64 m e n f).2.1 ≤ grown q := by
  have hnonneg : 0 ≤ q := by
    have hpos : (0 : ℚ) < n * 2 ^ f := by positivity
    exact nonneg_of_mul_nonneg_left ((size_nonneg m e).trans hq) hpos
  have hlast := zpow_exponent_divCore_le hm hn hq hnonneg
  have hdigits := divCore_mul_le hn hq
  have hceiling := ceiling_le (divCore Format.binary64 m e n f).1 (divCore Format.binary64 m e n f).2.2
  set t : Int := (divCore Format.binary64 m e n f).2.1
  calc (ceiling (divCore Format.binary64 m e n f).1 (divCore Format.binary64 m e n f).2.2 : ℚ) *
        2 ^ t
      ≤ ((divCore Format.binary64 m e n f).1 + 1 : Nat) * 2 ^ t :=
        mul_le_mul_of_nonneg_right (by exact_mod_cast hceiling) (by positivity)
    _ = (divCore Format.binary64 m e n f).1 * 2 ^ t + 2 ^ t := by
        rw [Nat.cast_succ]
        ring
    _ ≤ q + (q * 2 ^ (-52 : Int) + 2 ^ (-1074 : Int)) := add_le_add hdigits hlast
    _ = grown q := (add_assoc _ _ _).symm

/-- The last place of a quotient below `2 ^ 1024` can be packed. -/
theorem exponent_divCore_le (hm : 0 < m) (hn : 0 < n) (hq : (m : ℚ) * 2 ^ e ≤ q * (n * 2 ^ f))
    (hbound : q < 2 ^ (1024 : Int)) : (divCore Format.binary64 m e n f).2.1 ≤ 971 := by
  have hlt : (2 : ℚ) ^ (((m.log2 : Int) + e) - (n.log2 + f) - 53) < 2 ^ (972 : Int) := by
    refine (lastPlace_div_le hm hn hq).trans_lt ?_
    have hsplit : (2 : ℚ) ^ (972 : Int) = 2 ^ (1024 : Int) * 2 ^ (-52 : Int) := by
      rw [← zpow_add₀ two_ne_zero]
      rfl
    rw [hsplit]
    exact mul_lt_mul_of_pos_right hbound (by positivity)
  have hplace := (zpow_lt_zpow_iff_right₀ (one_lt_two : (1 : ℚ) < 2)).1 hlt
  rw [exponent_divCore]
  omega

end Quotients

end ErrorTaxonomy.Double
