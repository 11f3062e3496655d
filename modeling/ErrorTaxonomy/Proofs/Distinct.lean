import Mathlib.Data.List.Basic

/-! # Distinct items — a list without its repeats

The names of placeholders and of oneofs are listed once each, in order of first occurrence. Erasing
repeats keeps the head and goes on without it, so proofs about it follow `eraseDups_induct`. -/

namespace ErrorTaxonomy

/-- Induction along a list whose head is taken out of the rest. -/
@[elab_as_elim]
theorem eraseDups_induct {α : Type} [BEq α] {motive : List α → Prop} (nil : motive [])
    (cons : ∀ a as, motive (as.filter fun b => !b == a) → motive (a :: as)) (l : List α) :
    motive l := by
  induction hn : l.length using Nat.strongRecOn generalizing l with
  | ind n ih =>
    cases l with
    | nil => exact nil
    | cons a as =>
      have hlen : (as.filter fun b => !b == a).length < n := by
        have := List.length_filter_le (fun b => !b == a) as
        rw [List.length_cons] at hn
        omega
      exact cons a as (ih _ hlen _ rfl)

variable {α : Type} [BEq α] [LawfulBEq α]

/-- Without repeats every item stands once. -/
theorem nodup_eraseDups (l : List α) : l.eraseDups.Nodup := by
  induction l using eraseDups_induct with
  | nil => exact List.nodup_nil
  | cons a as ih =>
    rw [List.eraseDups_cons, List.nodup_cons, List.mem_eraseDups]
    exact ⟨by simp, ih⟩

/-- **In order of first occurrence**: of two items that are left, the earlier one stands before every
place where the later one stood. -/
theorem pairwise_eraseDups (l : List α) : l.eraseDups.Pairwise fun a b =>
    ∀ before after, l = before ++ b :: after → a ∈ before := by
  induction l using eraseDups_induct with
  | nil => exact .nil
  | cons a as ih =>
    rw [List.eraseDups_cons, List.pairwise_cons]
    constructor
    · -- the head stands before all that differ from it
      rintro b hb before after hsplit
      have hne : b ≠ a := by
        have hmem := List.mem_eraseDups.1 hb
        simpa using (List.mem_filter.1 hmem).2
      cases before with
      | nil => exact absurd (List.cons.inj hsplit).1.symm hne
      | cons c before => exact (List.cons.inj hsplit).1 ▸ List.mem_cons_self
    · refine ih.imp_of_mem fun {b c} _ hc hbefore before after hsplit => ?_
      have hne : (c == a) = false := by
        have hmem := List.mem_eraseDups.1 hc
        simpa using (List.mem_filter.1 hmem).2
      cases before with
      | nil =>
        obtain rfl := (List.cons.inj hsplit).1
        simp at hne
      | cons d before =>
        rw [List.cons_append, List.cons.injEq] at hsplit
        obtain ⟨rfl, hrest⟩ := hsplit
        have hmem : b ∈ before.filter fun x => !x == a := by
          apply hbefore _ (after.filter fun x => !x == a)
          rw [hrest, List.filter_append, List.filter_cons_of_pos (by simp [hne])]
        exact List.mem_cons_of_mem a (List.mem_filter.1 hmem).1

/-- One more item is new or is not. -/
theorem eraseDups_concat [DecidableEq α] (l : List α) (a : α) :
    (l ++ [a]).eraseDups = if a ∈ l then l.eraseDups else l.eraseDups ++ [a] := by
  have hone : [a].eraseDups = [a] := by
    rw [List.eraseDups_cons]
    rfl
  rw [List.eraseDups_append]
  by_cases h : a ∈ l
  · simp [List.removeAll, h]
  · simp [List.removeAll, h, hone]

/-- The first item with a property is the first without repeats too. -/
theorem find?_eraseDups (p : α → Bool) (l : List α) : l.eraseDups.find? p = l.find? p := by
  induction l using eraseDups_induct with
  | nil => rfl
  | cons a as ih =>
    rw [List.eraseDups_cons, List.find?_cons, List.find?_cons]
    cases ha : p a with
    | true => rfl
    | false =>
      -- an item with the property is not the head, so taking the head out does not matter
      have hsame : (fun b => decide ((!b == a) = true ∧ p b = true)) = p := by
        funext b
        by_cases hb : b = a
        · simp [hb, ha]
        · simp [hb]
      simp only [ih, List.find?_filter, hsame]

end ErrorTaxonomy
