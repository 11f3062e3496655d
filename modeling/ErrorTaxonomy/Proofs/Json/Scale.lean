import ErrorTaxonomy.Json.Number
import ErrorTaxonomy.Proofs.Decimal.Double
import ErrorTaxonomy.Proofs.Decimal.Shortest

/-! # Scaling — which significands and powers of ten give a double

A numeral past the integers is the product or the quotient of a significand of 64 bits and a power of ten,
each rounded to a double. What this gives is finite (`isFinite_of_scaleTen?`), and it gives something
unless the numeral is too close to `2 ^ 1024` or beyond it (`exists_scaleTen?`). -/

namespace ErrorTaxonomy.Json

open Double
open Float.Model (Format UnpackedFloat)

/-! ## Safe sizes -/

/-- Decimals up to this one are read as doubles whatever their significand and their power of ten are. -/
def safeSize : ℚ := 179769313486231 * 10 ^ 294

/-- The powers of ten that are doubles are safe sizes. -/
theorem tenPower_le_safeSize {n : Nat} (hn : n ≤ 308) : (10 : ℚ) ^ n ≤ safeSize :=
  calc (10 : ℚ) ^ n ≤ 10 ^ 308 := pow_le_pow_right₀ (by norm_num) hn
    _ = 10 ^ 14 * 10 ^ 294 := by rw [← pow_add]
    _ ≤ safeSize := mul_le_mul_of_nonneg_right (by norm_num) (by positivity)

/-- A safe size stays below `2 ^ 1024` when it is rounded a few times. -/
theorem safeSize_lt : safeSize * (1 + 2 ^ (-51 : Int)) ^ 4 < 2 ^ (1024 : Int) := by
  have hunits : 179769313486231 * 10 ^ 294 * (2 ^ 51 + 1) ^ 4 < 2 ^ (1024 + 204) := by decide +kernel
  have hcast : (179769313486231 * 10 ^ 294 * (2 ^ 51 + 1) ^ 4 : ℚ) < 2 ^ (1024 : Int) * 2 ^ 204 := by
    have hpow : (2 : ℚ) ^ (1024 : Int) = 2 ^ 1024 := zpow_natCast 2 1024
    rw [hpow, ← pow_add]
    exact_mod_cast hunits
  have hfactor : (1 + 2 ^ (-51 : Int) : ℚ) ^ 4 = (2 ^ 51 + 1) ^ 4 / 2 ^ 204 := by
    rw [zpow_neg]
    norm_num
  rw [safeSize, hfactor, mul_div_assoc', div_lt_iff₀ (by positivity)]
  exact hcast

/-! ## Powers of ten -/

theorem within_tenPower :
    ∀ n ≤ 22, Within (10 ^ n * 2 ^ 52) (10 ^ n * 2 ^ 52) (tenPower n) = true := by
  decide +kernel

/-- The powers of ten with at most 22 zeros are exact. -/
theorem exists_unpack_tenPower {n : Nat} (hn : n ≤ 22) :
    ∃ s m e hm, (tenPower n).toModel.unpack = .finite s m e hm ∧ (m : ℚ) * 2 ^ e = 10 ^ n := by
  obtain ⟨s, m, e, hm, hx, hlow, hhigh⟩ := exists_finite_of_within (within_tenPower n hn)
  have hunits : ((10 ^ n * 2 ^ 52 : Nat) : ℚ) / 2 ^ 52 = 10 ^ n := by
    rw [Nat.cast_mul, Nat.cast_pow, Nat.cast_pow]
    exact mul_div_cancel_right₀ _ (by positivity)
  rw [hunits] at hlow hhigh
  exact ⟨s, m, e, hm, hx, le_antisymm hhigh hlow⟩

/-- The other ones are rounded once. -/
theorem unpack_tenPower {n : Nat} (hn : 22 < n) : (tenPower n).toModel.unpack =
    UnpackedFloat.unpack Format.binary64
      (UnpackedFloat.pack Format.binary64 (UnpackedFloat.ofScientific Format.binary64 1 n)) := by
  rw [tenPower, Float.ofScientific, dif_neg (by omega)]
  rfl

theorem grown_tenPower_le (n : Nat) : grown (10 ^ n) ≤ 10 ^ n * (1 + 2 ^ (-51 : Int)) :=
  grown_le (one_le_pow₀ (by norm_num))

/-- A power of ten that is a double stays below `2 ^ 1024` when it is rounded. -/
theorem grown_tenPower_lt {n : Nat} (hn : n ≤ 308) : grown (10 ^ n) < 2 ^ (1024 : Int) := by
  have hfactor : (1 : ℚ) ≤ 1 + 2 ^ (-51 : Int) := le_add_of_nonneg_right (by positivity)
  calc grown (10 ^ n) ≤ 10 ^ n * (1 + 2 ^ (-51 : Int)) := grown_tenPower_le n
    _ ≤ safeSize * (1 + 2 ^ (-51 : Int)) ^ 4 :=
      mul_le_mul (tenPower_le_safeSize hn) (le_self_pow₀ hfactor (by norm_num)) (by positivity)
        (by norm_num [safeSize])
    _ < 2 ^ (1024 : Int) := safeSize_lt

/-- Each power of ten that is a double is off by less than one part in `2 ^ 51`. -/
theorem atMost_tenPower {n : Nat} (hn : n ≤ 308) :
    AtMost (tenPower n) (10 ^ n * (1 + 2 ^ (-51 : Int))) := by
  rcases le_or_gt n 22 with hexact | hrounded
  · obtain ⟨s, m, e, hm, hx, hsize⟩ := exists_unpack_tenPower hexact
    rw [AtMost, hx]
    refine hsize.le.trans ?_
    exact le_mul_of_one_le_right (by positivity) (le_add_of_nonneg_right (by positivity))
  · have hround := sizeAtMost_ofScientific (n := 1) (k := n) one_ne_zero (by omega)
    rw [Nat.cast_one, one_mul] at hround
    rw [AtMost, unpack_tenPower hrounded]
    exact (hround (grown_tenPower_lt hn)).mono (grown_tenPower_le n)

/-- A power of ten that is not one is eight at least. -/
theorem atLeast_tenPower {n : Nat} (hpos : 1 ≤ n) (hn : n ≤ 308) : AtLeast (tenPower n) 8 := by
  have hten : 10 ≤ 10 ^ n := Nat.le_self_pow (by omega) 10
  rcases le_or_gt n 22 with hexact | hrounded
  · obtain ⟨s, m, e, hm, hx, hsize⟩ := exists_unpack_tenPower hexact
    have hleast : 8 ≤ 10 ^ n := by omega
    refine ⟨s, m, e, hm, hx, ?_⟩
    rw [hsize]
    exact_mod_cast hleast
  · have hround := exists_le_ofScientific (n := 1) (k := n) (b := 3) one_ne_zero (by omega)
    rw [Nat.cast_one, one_mul] at hround
    obtain ⟨s, m, e, hm, hx, hlow⟩ := hround (grown_tenPower_lt hn) (by omega)
    rw [← unpack_tenPower hrounded] at hx
    exact ⟨s, m, e, hm, hx, le_trans (by norm_num) hlow⟩

/-! ## Quotients -/

/-- Dividing once by a power of ten. -/
theorem atMost_div_tenPower {x : Float} {n : Nat} (hx : AtMost x (2 ^ 66)) (hpos : 1 ≤ n)
    (hn : n ≤ 308) : AtMost (x / tenPower n) (2 ^ 66) := by
  have hnonneg : (0 : ℚ) ≤ 2 ^ 66 / 8 := by positivity
  have hquotient := hx.div (atLeast_tenPower hpos hn) (by norm_num)
    (grown_grown_lt hnonneg (by norm_num))
  refine hquotient.mono ?_
  have hfirst := grown_le_two_mul hnonneg
  have hsecond := grown_le_two_mul (hnonneg.trans (le_grown hnonneg))
  norm_num at hfirst hsecond ⊢
  linarith

/-- **Dividing** by powers of ten keeps sizes of 64 bits, however many steps it takes. -/
theorem atMost_divideTen {x : Float} {n : Nat} (hx : AtMost x (2 ^ 66)) (hn : 1 ≤ n) :
    AtMost (divideTen x n) (2 ^ 66) := by
  induction n using Nat.strongRecOn generalizing x with
  | ind n ih =>
    rw [divideTen]
    split_ifs with hsmall hzero
    · exact atMost_div_tenPower hx hn hsmall
    · exact hx
    · exact ih (n - 308) (by omega) (atMost_div_tenPower hx (by norm_num) (le_refl 308)) (by omega)

/-! ## Significands -/

/-- The double of a significand. -/
theorem atMost_significand {s : Nat} (hs : s ≤ largest64) :
    AtMost (Float.ofNat s) ((max s 1 : Nat) * (1 + 2 ^ (-51 : Int)) * (1 + 2 ^ (-51 : Int))) := by
  have hone : (1 : ℚ) ≤ (max s 1 : Nat) := by exact_mod_cast le_max_right s 1
  have hfactor : (1 : ℚ) ≤ 1 + 2 ^ (-51 : Int) := le_add_of_nonneg_right (by positivity)
  have hmax : (s : ℚ) ≤ (max s 1 : Nat) := by exact_mod_cast le_max_left s 1
  have hlt : s < 2 ^ 64 := by
    simp only [largest64] at hs
    omega
  refine (atMost_ofNat hlt).mono ?_
  calc grown (grown s) ≤ grown ((max s 1 : Nat) * (1 + 2 ^ (-51 : Int))) :=
        grown_mono ((grown_mono hmax).trans (grown_le hone))
    _ ≤ _ := grown_le (one_le_mul_of_one_le_of_one_le hone hfactor)

/-! ## Scaled significands -/

/-- The double of a significand, coarsely. -/
theorem atMost_significand_coarse {s : Nat} (hs : s ≤ largest64) : AtMost (Float.ofNat s) (2 ^ 66) := by
  have hnonneg : (0 : ℚ) ≤ s := Nat.cast_nonneg s
  have hlt : s < 2 ^ 64 := by
    simp only [largest64] at hs
    omega
  have hsize : 4 * (s : ℚ) + 3 ≤ 2 ^ 66 := by
    have hle : 4 * s + 3 ≤ 2 ^ 66 := by omega
    exact_mod_cast hle
  have hfirst := grown_le_two_mul hnonneg
  have hsecond := grown_le_two_mul (hnonneg.trans (le_grown hnonneg))
  exact (atMost_ofNat hlt).mono (by linarith)

/-- **A double that a numeral gives is finite.** -/
theorem isFinite_of_scaleTen? {s : Nat} {k : Int} {x : Float} (hs : s ≤ largest64)
    (h : scaleTen? s k = some x) : x.isFinite = true := by
  have hsignificand := atMost_significand_coarse hs
  simp only [scaleTen?] at h
  split_ifs at h with hneg hlarge hzero hinf
  · cases h
    exact (atMost_divideTen hsignificand (by omega)).isFinite
  · cases h
    exact hsignificand.isFinite
  · cases h
    exact hsignificand.isFinite_mul (atMost_tenPower (by omega)) (by simpa using hinf)

/-- A product of a significand and a power of ten up to the safe size is no infinity. -/
theorem not_isInf_mul_tenPower {s n : Nat} (hs : s ≤ largest64) (hn : n ≤ 308)
    (h : (s : ℚ) * 10 ^ n ≤ safeSize) : (Float.ofNat s * tenPower n).isInf = false := by
  set c : ℚ := 1 + 2 ^ (-51 : Int) with hc
  have hc1 : 1 ≤ c := le_add_of_nonneg_right (by positivity)
  have hc0 : 0 ≤ c := zero_le_one.trans hc1
  have hmax : ((max s 1 : Nat) : ℚ) * 10 ^ n ≤ safeSize := by
    rcases le_total s 1 with hle | hle
    · rw [max_eq_right hle, Nat.cast_one, one_mul]
      exact tenPower_le_safeSize hn
    · rwa [max_eq_left hle]
  have hproduct : ((max s 1 : Nat) : ℚ) * c * c * (10 ^ n * c) ≤ safeSize * c ^ 3 :=
    calc ((max s 1 : Nat) : ℚ) * c * c * (10 ^ n * c) = (max s 1 : Nat) * 10 ^ n * c ^ 3 := by ring
      _ ≤ safeSize * c ^ 3 := mul_le_mul_of_nonneg_right hmax (by positivity)
  have hsafe : 1 ≤ safeSize * c ^ 3 := by
    refine one_le_mul_of_one_le_of_one_le ?_ (one_le_pow₀ hc1)
    exact one_le_mul_of_one_le_of_one_le (by norm_num) (one_le_pow₀ (by norm_num))
  have hbound : grown (((max s 1 : Nat) : ℚ) * c * c * (10 ^ n * c)) < 2 ^ (1024 : Int) :=
    calc grown (((max s 1 : Nat) : ℚ) * c * c * (10 ^ n * c)) ≤ grown (safeSize * c ^ 3) :=
          grown_mono hproduct
      _ ≤ safeSize * c ^ 3 * c := grown_le hsafe
      _ = safeSize * c ^ 4 := by ring
      _ < 2 ^ (1024 : Int) := safeSize_lt
  exact ((atMost_significand hs).mul (atMost_tenPower hn) hbound).not_isInf

/-- **Numerals up to the safe size are doubles.** -/
theorem exists_scaleTen? {s : Nat} {k : Int} (hs : s ≤ largest64) (h : (s : ℚ) * 10 ^ k ≤ safeSize) :
    ∃ x, scaleTen? s k = some x := by
  simp only [scaleTen?]
  split_ifs with hneg hlarge hzero hinf
  · exact ⟨_, rfl⟩
  · exact ⟨_, rfl⟩
  · -- a power of ten past the doubles is past the safe size already
    exfalso
    have hs1 : (1 : ℚ) ≤ s := by exact_mod_cast Nat.one_le_iff_ne_zero.2 hzero
    have hpow : (10 : ℚ) ^ (309 : Int) ≤ 10 ^ k := zpow_le_zpow_right₀ (by norm_num) (by omega)
    have hle : (10 : ℚ) ^ (309 : Int) ≤ safeSize :=
      calc (10 : ℚ) ^ (309 : Int) ≤ 1 * 10 ^ k := by rwa [one_mul]
        _ ≤ s * 10 ^ k := mul_le_mul_of_nonneg_right hs1 (by positivity)
        _ ≤ safeSize := h
    have hsplit : (10 : ℚ) ^ (309 : Int) = 10 ^ 15 * 10 ^ 294 := by
      rw [← pow_add]
      exact zpow_natCast 10 309
    rw [hsplit, safeSize] at hle
    have := le_of_mul_le_mul_right hle (by positivity)
    norm_num at this
  · obtain ⟨n, rfl⟩ : ∃ n : Nat, k = n := ⟨k.toNat, by omega⟩
    rw [not_isInf_mul_tenPower hs (by omega) (by exact_mod_cast h)] at hinf
    cases hinf
  · exact ⟨_, rfl⟩

/-! ## Shortest decimals -/

/-- The shortest decimals of the largest doubles are read as doubles. -/
theorem exists_scaleTen?_largest : ∀ i < 30,
    (Binary.shortest ⟨2 ^ 53 - 1 - i, 971, false⟩).1 ≤ largest64 ∧
      (scaleTen? (Binary.shortest ⟨2 ^ 53 - 1 - i, 971, false⟩).1
        (Binary.shortest ⟨2 ^ 53 - 1 - i, 971, false⟩).2).isSome = true := by
  decide +kernel

/-- A size is at most a natural number that bounds its mantissa and its power of two. -/
theorem mul_zpow_le {m u n c : Nat} {e : Int} (hm : m ≤ u) (he : e ≤ n) (hc : u * 2 ^ n ≤ c) :
    (m : ℚ) * 2 ^ e ≤ c := by
  calc (m : ℚ) * 2 ^ e ≤ (u : ℚ) * 2 ^ (n : Int) := by
        refine mul_le_mul (by exact_mod_cast hm) ?_ (by positivity) (by positivity)
        exact zpow_le_zpow_right₀ one_le_two he
    _ = (u * 2 ^ n : Nat) := by
        rw [zpow_natCast]
        norm_cast
    _ ≤ c := by exact_mod_cast hc

/-- All doubles but the largest ones have shortest decimals of a safe size. -/
theorem upperEnd_le_safeSize {b : Binary} (hb : b.Finite)
    (h : b.exponent < 971 ∨ b.mantissa ≤ 2 ^ 53 - 31) : b.upperEnd ≤ safeSize := by
  have hmantissa := hb.mantissa_lt
  have hsafe : safeSize = (179769313486231 * 10 ^ 294 : Nat) := by
    rw [safeSize, Nat.cast_mul, Nat.cast_pow, Nat.cast_ofNat, Nat.cast_ofNat]
  rw [Binary.upperEnd, hsafe]
  rcases h with hexponent | hsmall
  · exact mul_zpow_le (u := 2 ^ 55) (n := 968) (by omega) (by omega) (by decide +kernel)
  · have hexponent := hb.exponent_le
    exact mul_zpow_le (u := 2 ^ 55 - 122) (n := 969) (by omega) (by omega) (by decide +kernel)

/-- **Shortest decimals are read as doubles**: they are of a safe size, or else their digits fit and are read
as they stand. -/
theorem shortest_safe_or_exists {b : Binary} (hb : b.Finite) :
    (b.shortest.1 : ℚ) * 10 ^ b.shortest.2 ≤ safeSize ∨
      b.shortest.1 ≤ largest64 ∧ ∃ x, scaleTen? b.shortest.1 b.shortest.2 = some x := by
  by_cases h : b.exponent < 971 ∨ b.mantissa ≤ 2 ^ 53 - 31
  · exact .inl (b.shortest_le.trans (upperEnd_le_safeSize hb h))
  · -- one of the thirty largest doubles
    have hmantissa := hb.mantissa_lt
    have hexponent := hb.exponent_le
    have hnarrow : b.narrow = false := by
      by_contra hne
      have := hb.narrow_eq (by simpa using hne)
      omega
    obtain ⟨i, hi, hb'⟩ : ∃ i < 30, b = ⟨2 ^ 53 - 1 - i, 971, false⟩ := by
      refine ⟨2 ^ 53 - 1 - b.mantissa, by omega, ?_⟩
      obtain ⟨m, e, narrow⟩ := b
      simp only [Binary.mk.injEq]
      simp only at h hmantissa hexponent hnarrow
      exact ⟨by omega, by omega, hnarrow⟩
    rw [hb']
    obtain ⟨hfits, hsome⟩ := exists_scaleTen?_largest i hi
    exact .inr ⟨hfits, Option.isSome_iff_exists.1 hsome⟩

end ErrorTaxonomy.Json
