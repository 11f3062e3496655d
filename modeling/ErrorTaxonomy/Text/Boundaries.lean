/-! # Boundary lists — sets of code points as increasing lists of numbers

A set of code points is kept as the increasing list of the numbers at which membership **flips**: the
first starts a range, the second is one past its end, and so on. -/

namespace ErrorTaxonomy.Text

/-- The increasing list of code points at which membership flips. -/
abbrev Boundaries := List Nat

namespace Boundaries

/-- `n` is a member when the number of boundaries up to `n` is odd. -/
def contains : Boundaries → Nat → Bool
  | [], _ => false
  | b :: bs, n => decide (b ≤ n) && !contains bs n

@[simp] theorem contains_nil (n : Nat) : contains [] n = false := rfl

/-- A single range holds its start and excludes its end. -/
theorem contains_pair (a b n : Nat) : contains [a, b] n = true ↔ a ≤ n ∧ n < b := by
  simp [contains]

end Boundaries

end ErrorTaxonomy.Text
