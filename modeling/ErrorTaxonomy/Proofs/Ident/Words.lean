import ErrorTaxonomy.Ident.Words

/-! # Words — what the words of a name are made of

Cutting a name neither makes up characters nor leaves empty words: a word has characters
(`ne_nil_of_mem_splitWords`), and each of them is a part character of the name
(`part_of_mem_splitWords`). -/

namespace ErrorTaxonomy.Ident

/-- What stands between separators comes from the list and is no separator. -/
theorem mem_of_mem_splitOnP {α : Type} {p : α → Bool} {l w : List α} {a : α}
    (hw : w ∈ l.splitOnP p) (ha : a ∈ w) : a ∈ l ∧ p a = false := by
  induction l generalizing w with
  | nil =>
    rw [List.splitOnP_nil, List.mem_singleton] at hw
    simp [hw] at ha
  | cons b l ih =>
    rw [List.splitOnP_cons_eq_if_modifyHead] at hw
    split at hw
    · obtain rfl | hw := List.mem_cons.1 hw
      · cases ha
      · exact (ih hw ha).imp_left (List.mem_cons_of_mem b)
    · next hb =>
      -- `b` joins the first piece, and the other pieces are those of `l`
      obtain ⟨v, vs, hvs⟩ := List.exists_cons_of_ne_nil (List.splitOnP_ne_nil p l)
      rw [hvs, List.modifyHead_cons] at hw
      obtain rfl | hw := List.mem_cons.1 hw
      · obtain rfl | ha := List.mem_cons.1 ha
        · exact ⟨List.mem_cons_self, by simpa using hb⟩
        · exact (ih (hvs ▸ List.mem_cons_self) ha).imp_left (List.mem_cons_of_mem b)
      · exact (ih (hvs ▸ List.mem_cons_of_mem v hw) ha).imp_left (List.mem_cons_of_mem b)

variable {k : CharClasses} {s w : List Char}

/-- A run has characters. -/
theorem ne_nil_of_mem_runs {r : List Char} (h : r ∈ runs k s) : r ≠ [] := by
  rw [runs, List.mem_filter] at h
  simpa using h.2

/-- A run is made of part characters of the name. -/
theorem part_of_mem_runs {r : List Char} (h : r ∈ runs k s) {c : Char} (hc : c ∈ r) :
    c ∈ s ∧ k.isPart c = true := by
  rw [runs, List.mem_filter] at h
  simpa using mem_of_mem_splitOnP h.1 hc

/-- A run that is not empty is cut into words that are not empty. -/
theorem ne_nil_of_mem_cutRun {m : Mode} {open? r : List Char} (hne : open? ++ r ≠ [])
    (hw : w ∈ cutRun k m open? r) : w ≠ [] := by
  fun_induction cutRun k m open? r with
  | case1 => simp_all
  | case2 => simp_all
  | case3 m open? c d r m' h ih =>
    obtain rfl | hw := List.mem_cons.1 hw
    · simp
    · exact ih (by simp) hw
  | case4 m open? c d r m' h h' ih =>
    obtain hw | hw := List.mem_append.1 hw
    · -- the word before the last capital is written only when it has begun
      split at hw
      · cases hw
      · next hopen =>
        rw [List.mem_singleton] at hw
        simpa [hw] using hopen
    · exact ih (by simp) hw
  | case5 m open? c d r m' h h' ih => exact ih (by simp) hw

/-- **A word has characters.** -/
theorem ne_nil_of_mem_splitWords (h : w ∈ splitWords k s) : w ≠ [] := by
  obtain ⟨r, hr, hw⟩ := List.mem_flatMap.1 h
  exact ne_nil_of_mem_cutRun (by simpa using ne_nil_of_mem_runs hr) hw

/-- **A word is made of part characters of the name.** -/
theorem part_of_mem_splitWords (h : w ∈ splitWords k s) {c : Char} (hc : c ∈ w) :
    c ∈ s ∧ k.isPart c = true := by
  obtain ⟨r, hr, hw⟩ := List.mem_flatMap.1 h
  have hcr : c ∈ (cutRun k .start [] r).flatten := List.mem_flatten.2 ⟨w, hw, hc⟩
  rw [flatten_cutRun] at hcr
  exact part_of_mem_runs hr (by simpa using hcr)

end ErrorTaxonomy.Ident
