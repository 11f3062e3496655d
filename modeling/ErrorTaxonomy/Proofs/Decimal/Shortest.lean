import ErrorTaxonomy.Decimal.Shortest
import ErrorTaxonomy.Proofs.Decimal.Rounding

/-! # Shortest decimals — how far they can be from their double

A point of a decimal grid that reads back as a double is at most half a unit of the last binary place above
it (`gridPoint?_le`), and dropping zeros keeps its value. So the shortest decimal of a double is no larger
than the double and half a unit (`shortest_le`), and its power of ten is not far below that of the leading
digit (`le_shortest_exponent`). -/

namespace ErrorTaxonomy

open Float.Model (Format)
open Float.Model.UnpackedFloat

namespace Binary

/-- The largest real that reads back as a double: half a unit of the last place above it. -/
def upperEnd (b : Binary) : ℚ := ((4 * b.mantissa + 2 : Nat) : ℚ) * 2 ^ (b.exponent - 2)

/-- A fraction of `scaled` in its own denominator. -/
theorem scaled_fst (n : Nat) (e k : Int) :
    ((scaled n e k).1 : ℚ) = n * 2 ^ e * 10 ^ (-k) * (scaled n e k).2 := by
  have hpow : ∀ (base : Nat) (e : Int), base ≠ 0 →
      ((base ^ e.toNat : Nat) : ℚ) = (base : ℚ) ^ e * ((base ^ (-e).toNat : Nat) : ℚ) := by
    intro base e hbase
    rw [Nat.cast_pow, Nat.cast_pow, ← zpow_natCast, ← zpow_natCast,
      ← zpow_add₀ (Nat.cast_ne_zero.2 hbase)]
    congr 1
    omega
  have htwo := hpow 2 e two_ne_zero
  have hten := hpow 10 (-k) (by norm_num)
  rw [neg_neg] at hten
  have hnum : (scaled n e k).1 = n * 2 ^ e.toNat * 10 ^ (-k).toNat := rfl
  have hden : (scaled n e k).2 = 2 ^ (-e).toNat * 10 ^ k.toNat := rfl
  rw [hnum, hden, Nat.cast_mul, Nat.cast_mul, Nat.cast_mul, htwo, hten]
  push_cast
  ring

theorem scaled_snd_pos (n : Nat) (e k : Int) : 0 < (scaled n e k).2 :=
  Nat.mul_pos (Nat.pow_pos two_pos) (Nat.pow_pos (by norm_num))

/-- Of two points one of which at least fits, the one that is taken is the lower one or an upper one that
fits. -/
theorem eq_of_nearer {down up d : Nat} {downFits upFits : Bool} {P Q R : Prop} [Decidable P]
    [Decidable Q] [Decidable R] (h : (if downFits && upFits then
        if P then some down else if Q then some up else some (if R then down else up)
      else if downFits then some down else if upFits then some up else none) = some d) :
    d = down ∨ upFits = true ∧ d = up := by
  cases downFits <;> cases upFits <;> simp only [Bool.and_false, Bool.and_true, Bool.false_eq_true,
    if_false, if_true, reduceCtorEq, Option.some.injEq] at h
  · exact .inr ⟨rfl, h.symm⟩
  · exact .inl h.symm
  · split_ifs at h
    · exact .inl (Option.some.inj h).symm
    · exact .inr ⟨rfl, (Option.some.inj h).symm⟩
    · exact .inl (Option.some.inj h).symm
    · exact .inr ⟨rfl, (Option.some.inj h).symm⟩

/-- A grid point is the one below the double, or the one above it if that is not too far away. -/
theorem gridPoint?_mul_le {b : Binary} {k : Int} {d : Nat} (h : gridPoint? b k = some d) :
    d * (scaled (4 * b.mantissa) (b.exponent - 2) k).2 ≤
      (scaled (4 * b.mantissa) (b.exponent - 2) k).1 + (scaled 2 (b.exponent - 2) k).1 := by
  obtain rfl | ⟨hup, rfl⟩ := eq_of_nearer h
  · exact (Nat.div_mul_le_self _ _).trans (Nat.le_add_right _ _)
  · simp only [Bool.or_eq_true, decide_eq_true_eq, Bool.and_eq_true, beq_iff_eq] at hup
    obtain hlt | ⟨-, heq⟩ := hup
    · exact hlt.le
    · exact heq.le

/-- **A grid point** that reads back as a double does not pass its upper end. -/
theorem gridPoint?_le {b : Binary} {k : Int} {d : Nat} (h : gridPoint? b k = some d) :
    (d : ℚ) * 10 ^ k ≤ b.upperEnd := by
  have hunits := gridPoint?_mul_le h
  have hnum := scaled_fst (4 * b.mantissa) (b.exponent - 2) k
  have habove := scaled_fst 2 (b.exponent - 2) k
  have hden : (scaled 2 (b.exponent - 2) k).2 = (scaled (4 * b.mantissa) (b.exponent - 2) k).2 := rfl
  have hpos : (0 : ℚ) < (scaled (4 * b.mantissa) (b.exponent - 2) k).2 := by
    exact_mod_cast scaled_snd_pos _ _ _
  set den := (scaled (4 * b.mantissa) (b.exponent - 2) k).2
  have hcast : (d : ℚ) * den ≤ b.upperEnd * 10 ^ (-k) * den := by
    calc (d : ℚ) * den
        ≤ (scaled (4 * b.mantissa) (b.exponent - 2) k).1 + (scaled 2 (b.exponent - 2) k).1 := by
          exact_mod_cast hunits
      _ = b.upperEnd * 10 ^ (-k) * den := by
          rw [hnum, habove, hden, upperEnd]
          push_cast
          ring
  have hle := le_of_mul_le_mul_right hcast hpos
  calc (d : ℚ) * 10 ^ k
      ≤ b.upperEnd * 10 ^ (-k) * 10 ^ k := mul_le_mul_of_nonneg_right hle (by positivity)
    _ = b.upperEnd := by
      rw [mul_assoc, ← zpow_add₀ (by norm_num), neg_add_cancel, zpow_zero, mul_one]

theorem upperEnd_nonneg (b : Binary) : 0 ≤ b.upperEnd := by
  rw [upperEnd]
  positivity

/-- The digits that are found do not pass the upper end, and their grid is one of those that were tried. -/
theorem shortestFrom_le (b : Binary) (top : Int) (n : Nat) (k : Int) :
    ((b.shortestFrom top n k).1 : ℚ) * 10 ^ (b.shortestFrom top n k).2 ≤ b.upperEnd ∧
      k - n ≤ (b.shortestFrom top n k).2 := by
  induction n generalizing k with
  | zero =>
    rw [shortestFrom]
    cases h : gridPoint? b k with
    | none => exact ⟨by simpa using b.upperEnd_nonneg, by simp⟩
    | some d => exact ⟨gridPoint?_le h, by simp⟩
  | succ n ih =>
    rw [shortestFrom]
    split
    · next d h =>
      refine ⟨gridPoint?_le h, ?_⟩
      simp only
      omega
    · obtain ⟨hle, hgrid⟩ := ih (k - 1)
      exact ⟨hle, by omega⟩

/-- Dropping zeros keeps the value and makes the grid no finer. -/
theorem dropZeros_eq (n d : Nat) (k : Int) :
    ((dropZeros n d k).1 : ℚ) * 10 ^ (dropZeros n d k).2 = d * 10 ^ k ∧ k ≤ (dropZeros n d k).2 := by
  induction n generalizing d k with
  | zero => exact ⟨rfl, le_refl k⟩
  | succ n ih =>
    rw [dropZeros]
    split_ifs with hzero
    · obtain ⟨heq, hle⟩ := ih (d / 10) (k + 1)
      refine ⟨heq.trans ?_, by omega⟩
      have hten : d = 10 * (d / 10) := by omega
      have hcast : (d : ℚ) = 10 * (d / 10 : Nat) := by exact_mod_cast hten
      rw [hcast, zpow_add_one₀ (by norm_num)]
      ring
    · exact ⟨rfl, le_refl k⟩

/-- **The shortest decimal** of a double does not pass its upper end. -/
theorem shortest_le (b : Binary) : (b.shortest.1 : ℚ) * 10 ^ b.shortest.2 ≤ b.upperEnd := by
  obtain ⟨hvalue, -⟩ := dropZeros_eq 20 (b.shortestFrom b.leadingPower 17 b.leadingPower).1
    (b.shortestFrom b.leadingPower 17 b.leadingPower).2
  exact hvalue.le.trans (shortestFrom_le b b.leadingPower 17 b.leadingPower).1

/-- The leading digit of a double does not stand lower than that of the least one. -/
theorem le_leadingPower {b : Binary} (h : -1074 ≤ b.exponent) : -325 ≤ b.leadingPower := by
  simp only [leadingPower]
  split_ifs <;> omega

/-- The last digit of a shortest decimal stands at most 17 places lower than the leading digit. -/
theorem le_shortest_exponent {b : Binary} (h : -1074 ≤ b.exponent) : -342 ≤ b.shortest.2 := by
  have htop := le_leadingPower h
  have hgrid := (shortestFrom_le b b.leadingPower 17 b.leadingPower).2
  have hdrop := (dropZeros_eq 20 (b.shortestFrom b.leadingPower 17 b.leadingPower).1
    (b.shortestFrom b.leadingPower 17 b.leadingPower).2).2
  change -342 ≤ (dropZeros 20 (b.shortestFrom b.leadingPower 17 b.leadingPower).1
    (b.shortestFrom b.leadingPower 17 b.leadingPower).2).2
  omega

end Binary

/-! ## Doubles -/

/-- The exponent field of a finite double is not the last one. -/
theorem exponentField_lt {x : Float} (h : x.isFinite = true) :
    x.toBits.toNat / 2 ^ 52 % 2 ^ 11 < 2047 := by
  by_contra hge
  have hfield : @unpackExponent Format.binary64 x.toBits.toBitVec = -1#11 := by
    refine BitVec.eq_of_toNat_eq ?_
    have hvalue : (@unpackExponent Format.binary64 x.toBits.toBitVec).toNat =
        x.toBits.toNat / 2 ^ 52 % 2 ^ 11 := by
      rw [← Nat.shiftRight_eq_div_pow]
      exact BitVec.extractLsb_toNat ..
    have hlast : (-1#11).toNat = 2047 := rfl
    rw [hvalue, hlast]
    omega
  change (unpack Format.binary64 x.toBits.toBitVec).isFinite = true at h
  simp only [unpack] at h
  rw [if_pos hfield] at h
  split_ifs at h <;> cases h

/-- A size is that of a finite double. -/
structure Binary.Finite (b : Binary) : Prop where
  mantissa_lt : b.mantissa < 2 ^ 53
  le_exponent : -1074 ≤ b.exponent
  exponent_le : b.exponent ≤ 971
  narrow_eq : b.narrow = true → b.mantissa = 2 ^ 52

theorem Binary.finite_ofBits {size : Nat} (h : size / 2 ^ 52 % 2 ^ 11 < 2047) :
    (Binary.ofBits size).Finite := by
  have hfraction : size % 2 ^ 52 < 2 ^ 52 := Nat.mod_lt _ (by norm_num)
  simp only [Binary.ofBits, Nat.pow_eq]
  split_ifs with hleast
  · refine ⟨?_, ?_, ?_, ?_⟩ <;> simp only [Bool.false_eq_true, false_implies] <;> omega
  · refine ⟨?_, ?_, ?_, ?_⟩ <;> simp only [Bool.and_eq_true, beq_iff_eq, decide_eq_true_eq] <;> omega

/-- The size of a finite double from its bits. -/
theorem finite_ofBits_toBits {x : Float} (h : x.isFinite = true) :
    (Binary.ofBits (x.toBits.toNat % 2 ^ 63)).Finite := by
  have hfield := exponentField_lt h
  exact Binary.finite_ofBits (by omega)

/-- A finite double is written as zero or as the shortest decimal of its size. -/
theorem shortest_cases {x : Float} (h : x.isFinite = true) :
    (Decimal.shortest x).digits = 0 ∨ ∃ b : Binary, b.Finite ∧
      (Decimal.shortest x).digits = b.shortest.1 ∧ (Decimal.shortest x).exponent = b.shortest.2 := by
  rw [Decimal.shortest]
  simp only [Nat.pow_eq]
  split_ifs
  · exact .inl rfl
  · exact .inr ⟨_, finite_ofBits_toBits h, rfl, rfl⟩

end ErrorTaxonomy
