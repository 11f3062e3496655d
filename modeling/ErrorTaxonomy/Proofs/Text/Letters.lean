import ErrorTaxonomy.Proofs.Text.Ascii
import ErrorTaxonomy.Text.Letters

/-! # Letter case — no character is of both cases

Two sets of code points, kept as boundary lists, are **apart** when no range of one meets a range of the
other. `Boundaries.apart` sees that in one walk along both lists, and so the tables of the two cases are
seen to share no character (`not_isLowercase_and_isUppercase`). -/

namespace ErrorTaxonomy.Text

namespace Boundaries

/-- Leaves out the ranges that end at or before `n`. -/
def startingAt (n : Nat) : Boundaries → Boundaries
  | a :: b :: bs => if a ≤ b ∧ b ≤ n then startingAt n bs else a :: b :: bs
  | bs => bs

/-- Whether no range of the first set meets a range of the second. -/
def apart : Boundaries → Boundaries → Bool
  | a :: b :: bs, cs =>
    match startingAt a cs with
    | [] => true
    | c :: cs' => decide (b ≤ c) && apart bs (c :: cs')
  | [_], _ => false
  | [], _ => true

/-- From `n` on nothing is missing when the ranges that end before are left out. -/
theorem contains_startingAt {n m : Nat} (h : n ≤ m) (bs : Boundaries) :
    (startingAt n bs).contains m = bs.contains m := by
  fun_induction startingAt n bs with
  | case1 a b bs hle ih =>
    have ha : a ≤ m := by omega
    have hb : b ≤ m := by omega
    simp [contains, ha, hb, ih]
  | case2 | case3 => rfl

/-- A member of a set is in its first range or in the others. -/
theorem contains_cons_cons {a b m : Nat} {bs : Boundaries}
    (h : contains (a :: b :: bs) m = true) : a ≤ m ∧ (m < b ∨ bs.contains m = true) := by
  simp only [contains, Bool.and_eq_true, decide_eq_true_eq, Bool.not_eq_true', Bool.and_eq_false_iff,
    decide_eq_false_iff_not, Bool.not_eq_false'] at h
  exact ⟨h.1, h.2.imp_left Nat.not_le.1⟩

/-- **Sets whose ranges are apart** have no common member. -/
theorem not_contains_of_apart {as bs : Boundaries} (h : apart as bs = true) {n : Nat}
    (ha : as.contains n = true) : bs.contains n = false := by
  fun_induction apart as bs with
  | case1 a b as bs hnil =>
    have hbs := contains_startingAt (contains_cons_cons ha).1 bs
    rw [hnil] at hbs
    exact hbs.symm
  | case2 a b as bs c cs hcs ih =>
    rw [Bool.and_eq_true, decide_eq_true_eq] at h
    obtain ⟨hle, hmem⟩ := contains_cons_cons ha
    rw [← contains_startingAt hle bs, hcs]
    obtain hlt | hmem := hmem
    · -- the other set goes on behind this range only
      have hc : ¬c ≤ n := by omega
      simp [contains, hc]
    · exact ih h.2 hmem
  | case3 => cases h
  | case4 => cases ha

end Boundaries

/-- **No character is of both cases.** -/
theorem not_isLowercase_and_isUppercase (c : Char) :
    ¬(isLowercase c = true ∧ isUppercase c = true) := by
  rintro ⟨hlower, hupper⟩
  by_cases hc : c.toNat < 0x80
  · rw [isLowercase_of_ascii hc] at hlower
    rw [isUppercase_of_ascii hc] at hupper
    exact forall_ascii (P := fun c => c.isLower = true → c.isUpper = true → False) (by decide) hc
      hlower hupper
  · rw [isLowercase, if_neg hc] at hlower
    rw [isUppercase, if_neg hc] at hupper
    have hapart : lowercaseTable.apart uppercaseTable = true := by decide +kernel
    rw [Boundaries.not_contains_of_apart hapart hlower] at hupper
    cases hupper

end ErrorTaxonomy.Text
