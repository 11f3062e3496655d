/-! # ASCII — letters and digits by their numbers

A property of an ASCII character is checked on the 128 of them (`forall_ascii`), and letters and digits
are known by the ranges of their numbers (`isAlphanum_iff`). -/

namespace ErrorTaxonomy.Text

/-- An ASCII character has a property when each of the 128 has it. -/
theorem forall_ascii {P : Char → Prop} (h : ∀ n < 0x80, P (Char.ofNat n)) {c : Char}
    (hc : c.toNat < 0x80) : P c := by
  simpa using h c.toNat hc

/-- A letter or digit lies in one of three ranges. -/
theorem isAlphanum_iff (c : Char) : c.isAlphanum = true ↔
    (0x30 ≤ c.toNat ∧ c.toNat ≤ 0x39) ∨ (0x41 ≤ c.toNat ∧ c.toNat ≤ 0x5A) ∨
      (0x61 ≤ c.toNat ∧ c.toNat ≤ 0x7A) := by
  -- letters of either case, then digits, each by the first and the last of them
  change ((decide (0x41 ≤ c.val ∧ c.val ≤ 0x5A) || (decide (0x61 ≤ c.val) && decide (c.val ≤ 0x7A))) ||
    (decide (0x30 ≤ c.val) && decide (c.val ≤ 0x39))) = true ↔ _
  simp only [Bool.or_eq_true, Bool.and_eq_true, decide_eq_true_eq, UInt32.le_iff_toNat_le]
  change ((0x41 ≤ c.toNat ∧ c.toNat ≤ 0x5A) ∨ (0x61 ≤ c.toNat ∧ c.toNat ≤ 0x7A)) ∨
    (0x30 ≤ c.toNat ∧ c.toNat ≤ 0x39) ↔ _
  omega

/-- A letter or digit is ASCII. -/
theorem ascii_of_isAlphanum {c : Char} (h : c.isAlphanum = true) : c.toNat < 0x80 := by
  rw [isAlphanum_iff] at h
  omega

end ErrorTaxonomy.Text
