import Mathlib.Data.List.TakeWhile
import ErrorTaxonomy.Proofs.Ident.Words

/-! # Runs — the part characters of a name, as far as they go

A name is read by its **maximal runs** of part characters. They are described without the splitting that
finds them: what is no part character is left out, and a run goes on to such a character or to the end
(`MaximalRuns`). A name has one list of maximal runs, and it is the one that is found
(`maximalRuns_iff`). So the words of a name hold its part characters, in order (`flatten_splitWords`), and
pieces that are joined by separators are found again (`runs_intercalate`). -/

namespace ErrorTaxonomy.Ident

/-! ## Maximal runs of a class -/

/-- The **maximal runs** of a class of characters in a text, in order: a character outside the class is
left out, and a run goes on to such a character or to the end. -/
inductive MaximalRuns (p : Char → Bool) : List Char → List (List Char) → Prop
  | nil : MaximalRuns p [] []
  | skip {c : Char} {s : List Char} {rs : List (List Char)} (outside : p c = false)
      (rest : MaximalRuns p s rs) : MaximalRuns p (c :: s) rs
  | run {r s : List Char} {rs : List (List Char)} (ne_nil : r ≠ []) (inside : ∀ c ∈ r, p c = true)
      (ends : ∀ c ∈ s.head?, p c = false) (rest : MaximalRuns p s rs) :
      MaximalRuns p (r ++ s) (r :: rs)

section Runs

variable {p : Char → Bool} {s : List Char} {rs rs' : List (List Char)}

/-- A run is read off the text as far as the class goes. -/
theorem takeWhile_run {r : List Char} (inside : ∀ c ∈ r, p c = true)
    (ends : ∀ c ∈ s.head?, p c = false) : (r ++ s).takeWhile p = r := by
  rw [List.takeWhile_append_of_pos inside]
  cases s with
  | nil => simp
  | cons c s => rw [List.takeWhile_cons_of_neg (by simp [ends c rfl]), List.append_nil]

/-- A text has one list of maximal runs. -/
theorem MaximalRuns.unique (h : MaximalRuns p s rs) (h' : MaximalRuns p s rs') : rs = rs' := by
  induction h generalizing rs' with
  | nil =>
    generalize hs : ([] : List Char) = s at h'
    cases h' with
    | nil => rfl
    | skip => cases hs
    | run ne_nil => simp [ne_nil] at hs
  | @skip c s rs outside _ ih =>
    generalize hs : c :: s = t at h'
    cases h' with
    | nil => cases hs
    | skip _ rest =>
      obtain ⟨rfl, rfl⟩ := List.cons.inj hs
      exact ih rest
    | @run r _ _ ne_nil inside =>
      -- a run begins with a character of the class
      cases r with
      | nil => exact absurd rfl ne_nil
      | cons d r =>
        obtain ⟨rfl, -⟩ := List.cons.inj hs
        simp [inside _ List.mem_cons_self] at outside
  | @run r s rs ne_nil inside ends _ ih =>
    generalize ht : r ++ s = t at h'
    cases h' with
    | nil => simp [ne_nil] at ht
    | skip outside =>
      cases r with
      | nil => exact absurd rfl ne_nil
      | cons d r =>
        obtain ⟨rfl, -⟩ := List.cons.inj ht
        simp [inside _ List.mem_cons_self] at outside
    | @run r' s' rs' _ inside' ends' rest =>
      have hr : r = r' := by
        rw [← takeWhile_run inside ends, ht, takeWhile_run inside' ends']
      subst hr
      rw [List.append_cancel_left_eq] at ht
      subst ht
      rw [ih rest]

/-- What stands in the runs is what the text has of the class. -/
theorem MaximalRuns.flatten_eq (h : MaximalRuns p s rs) : rs.flatten = s.filter p := by
  induction h with
  | nil => rfl
  | skip outside _ ih => rw [ih, List.filter_cons_of_neg (by simp [outside])]
  | run _ inside _ _ ih =>
    rw [List.flatten_cons, ih, List.filter_append, List.filter_eq_self.2 inside]

end Runs

/-! ## The runs of a name -/

variable {k : CharClasses}

/-- A separator ends the piece before it, and the runs are those before and behind. -/
theorem runs_append_cons (r s : List Char) {c : Char} (hc : k.isPart c = false) :
    runs k (r ++ c :: s) = runs k r ++ runs k s := by
  rw [runs, List.splitOnP_append_cons _ _ (by simp [hc]), List.filter_append]
  rfl

/-- Characters of the class alone are one run. -/
theorem runs_of_part {r : List Char} (hne : r ≠ []) (h : ∀ c ∈ r, k.isPart c = true) :
    runs k r = [r] := by
  rw [runs, List.splitOnP_eq_singleton fun c hc => by simp [h c hc]]
  simp [hne]

/-- **The runs of joined pieces** of the class are the pieces. -/
theorem runs_intercalate {sep : Char} (hsep : k.isPart sep = false) {rs : List (List Char)}
    (h : ∀ r ∈ rs, r ≠ [] ∧ ∀ c ∈ r, k.isPart c = true) : runs k ([sep].intercalate rs) = rs := by
  induction rs with
  | nil => rfl
  | cons r rs ih =>
    obtain ⟨hne, hpart⟩ := h r List.mem_cons_self
    cases rs with
    | nil => rw [List.intercalate_singleton, runs_of_part hne hpart]
    | cons r' rs =>
      have hrest := ih fun v hv => h v (List.mem_cons_of_mem r hv)
      rw [List.intercalate_cons_cons, List.append_assoc, List.singleton_append,
        runs_append_cons r _ hsep, runs_of_part hne hpart, hrest, List.singleton_append]

/-- **The runs of a name** are its maximal ones. -/
theorem maximalRuns_runs (k : CharClasses) (s : List Char) :
    MaximalRuns k.isPart s (runs k s) := by
  induction hn : s.length using Nat.strongRecOn generalizing s with
  | ind n ih =>
    subst hn
    -- the run that the text begins with, if it is not empty
    obtain ⟨r, t, hs, hr, ht⟩ : ∃ r t, s = r ++ t ∧ (∀ c ∈ r, k.isPart c = true) ∧
        ∀ c ∈ t.head?, k.isPart c = false :=
      ⟨s.takeWhile k.isPart, s.dropWhile k.isPart, List.takeWhile_append_dropWhile.symm,
        fun c hc => List.mem_takeWhile_imp hc, fun c hc => by
          have := List.head?_dropWhile_not k.isPart s
          simpa [Option.mem_def.1 hc] using this⟩
    subst hs
    cases t with
    | nil =>
      rw [List.append_nil]
      by_cases hne : r = []
      · subst hne
        exact .nil
      · rw [runs_of_part hne hr]
        simpa using MaximalRuns.run hne hr ht .nil
    | cons c t =>
      have hc := ht c rfl
      have hrest : MaximalRuns k.isPart (c :: t) (runs k t) :=
        .skip hc (ih t.length (by simp; omega) t rfl)
      rw [runs_append_cons r t hc]
      by_cases hne : r = []
      · subst hne
        exact hrest
      · rw [runs_of_part hne hr]
        exact .run hne hr ht hrest

/-- The runs of a name, and no other list, are its maximal ones. -/
theorem maximalRuns_iff (s : List Char) (rs : List (List Char)) :
    MaximalRuns k.isPart s rs ↔ rs = runs k s :=
  ⟨fun h => h.unique (maximalRuns_runs k s), fun h => h ▸ maximalRuns_runs k s⟩

/-- The words of a name hold what the name has of part characters. -/
theorem flatten_splitWords (k : CharClasses) (s : List Char) :
    (splitWords k s).flatten = s.filter k.isPart := by
  have hcut : ∀ rs : List (List Char), (rs.flatMap (cutRun k .start [])).flatten = rs.flatten := by
    intro rs
    induction rs with
    | nil => rfl
    | cons r rs ih => simp [flatten_cutRun, ih]
  rw [splitWords, hcut, (maximalRuns_runs k s).flatten_eq]

end ErrorTaxonomy.Ident
