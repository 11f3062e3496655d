import Mathlib.Data.List.Induction
import Mathlib.Data.List.Nodup
import ErrorTaxonomy.Json.Basic
import ErrorTaxonomy.Proofs.Distinct

/-! # Members — what writing keys and values one by one leaves

Members are written one after the other, and a later member of one key replaces an earlier one. So the
value that is found is the last one written (`lookup_ofPairs`), and the keys are the distinct ones in
order of first occurrence (`map_fst_ofPairs`). Where the keys are distinct, the members may stand in any
order (`lookup_perm`). -/

namespace ErrorTaxonomy.Json

variable {α : Type}

/-! ## Values -/

/-- Writing a member leaves the others as they are. -/
theorem lookup_putMember_of_ne {j k : String} (h : j ≠ k) (v : α) (ms : List (String × α)) :
    (putMember k v ms).lookup j = ms.lookup j := by
  induction ms with
  | nil => rw [putMember, List.lookup_cons, beq_false_of_ne h]
  | cons m ms ih =>
    obtain ⟨k', v'⟩ := m
    rw [putMember]
    by_cases hk : k' = k
    · subst hk
      rw [if_pos rfl, List.lookup_cons, List.lookup_cons, beq_false_of_ne h]
    · rw [if_neg hk, List.lookup_cons, List.lookup_cons, ih]

/-- One more pair is written behind all others. -/
theorem ofPairs_concat (ps : List (String × α)) (p : String × α) :
    ofPairs (ps ++ [p]) = putMember p.1 p.2 (ofPairs ps) := by
  rw [ofPairs, List.foldl_append]
  rfl

/-- **The last value** of a key is the one that is found. -/
theorem lookup_ofPairs (k : String) (ps : List (String × α)) :
    (ofPairs ps).lookup k = ps.reverse.lookup k := by
  induction ps using List.reverseRecOn with
  | nil => rfl
  | append_singleton ps p ih =>
    obtain ⟨k', v⟩ := p
    rw [ofPairs_concat, List.reverse_concat, List.lookup_cons]
    by_cases h : k = k'
    · subst h
      rw [lookup_putMember_self, beq_self_eq_true]
    · rw [lookup_putMember_of_ne h, beq_false_of_ne h, ih]

/-- What is found has been written. -/
theorem mem_of_lookup_ofPairs {k : String} {v : α} {ps : List (String × α)}
    (h : (ofPairs ps).lookup k = some v) : (k, v) ∈ ps := by
  rw [lookup_ofPairs, List.lookup_eq_some_iff] at h
  obtain ⟨before, after, heq, -⟩ := h
  rw [← List.mem_reverse, heq]
  simp

/-- A member that was written, or one that was there. -/
theorem mem_of_mem_putMember {k : String} {a : α} {ms : List (String × α)} {m : String × α}
    (h : m ∈ putMember k a ms) : m = (k, a) ∨ m ∈ ms := by
  induction ms with
  | nil => exact .inl (List.mem_singleton.1 h)
  | cons n ms ih =>
    rw [putMember] at h
    split_ifs at h
    · obtain rfl | hm := List.mem_cons.1 h
      · exact .inl rfl
      · exact .inr (List.mem_cons_of_mem n hm)
    · obtain rfl | hm := List.mem_cons.1 h
      · exact .inr List.mem_cons_self
      · exact (ih hm).imp_right (List.mem_cons_of_mem n)

/-- Every member has been written. -/
theorem mem_of_mem_ofPairs {ps : List (String × α)} {m : String × α} (h : m ∈ ofPairs ps) :
    m ∈ ps := by
  induction ps using List.reverseRecOn with
  | nil => exact h
  | append_singleton ps p ih =>
    rw [ofPairs_concat] at h
    obtain rfl | hm := mem_of_mem_putMember h
    · exact List.mem_append_right ps (List.mem_singleton_self _)
    · exact List.mem_append_left [p] (ih hm)

/-! ## Keys -/

/-- Writing a member adds its key unless it is there. -/
theorem map_fst_putMember (k : String) (a : α) (ms : List (String × α)) :
    (putMember k a ms).map Prod.fst =
      if k ∈ ms.map Prod.fst then ms.map Prod.fst else ms.map Prod.fst ++ [k] := by
  induction ms with
  | nil => rfl
  | cons n ms ih =>
    rw [putMember]
    by_cases hk : n.1 = k
    · simp [hk]
    · have hne : k ≠ n.1 := fun h => hk h.symm
      rw [if_neg hk, List.map_cons, ih]
      by_cases hmem : k ∈ ms.map Prod.fst
      · rw [if_pos hmem, if_pos (by simp [hmem])]
        rfl
      · rw [if_neg hmem, if_neg (by simp [hne, hmem])]
        rfl

/-- **The keys** are the distinct ones that were written, in order of first occurrence. -/
theorem map_fst_ofPairs (ps : List (String × α)) :
    (ofPairs ps).map Prod.fst = (ps.map Prod.fst).eraseDups := by
  induction ps using List.reverseRecOn with
  | nil => rfl
  | append_singleton ps p ih =>
    rw [ofPairs_concat, map_fst_putMember, ih, List.map_append, List.map_singleton, eraseDups_concat]
    simp only [List.mem_eraseDups]

/-- No key stands twice. -/
theorem nodup_map_fst_ofPairs (ps : List (String × α)) : ((ofPairs ps).map Prod.fst).Nodup := by
  rw [map_fst_ofPairs]
  exact nodup_eraseDups _

/-- Writing members with distinct keys writes them as they are. -/
theorem ofPairs_of_nodup {ps : List (String × α)} (h : (ps.map Prod.fst).Nodup) :
    ofPairs ps = ps := by
  induction ps using List.reverseRecOn with
  | nil => rfl
  | append_singleton ps p ih =>
    rw [List.map_append, List.map_singleton, List.nodup_append] at h
    have hnew : p.1 ∉ ps.map Prod.fst := fun hp => h.2.2 p.1 hp p.1 (List.mem_singleton_self _) rfl
    rw [ofPairs_concat, ih h.1, putMember_of_not_mem _ hnew]

/-! ## Objects

The members of an object have distinct keys, so that what is found does not depend on their order. -/

section Objects

variable {ms : List (String × α)} {k : String} {v : α}

/-- What is found under a key stands there. -/
theorem lookup_eq_some_iff_mem (hms : (ms.map Prod.fst).Nodup) :
    ms.lookup k = some v ↔ (k, v) ∈ ms := by
  rw [List.lookup_eq_some_iff]
  constructor
  · rintro ⟨before, after, rfl, -⟩
    simp
  · intro h
    obtain ⟨before, after, rfl⟩ := List.append_of_mem h
    refine ⟨before, after, rfl, fun m hm => ?_⟩
    -- a member before with the same key would be a second one
    rw [List.map_append, List.map_cons, List.nodup_middle, List.nodup_cons] at hms
    simp only [bne_iff_ne]
    rintro rfl
    exact hms.1 (List.mem_append_left _ (List.mem_map.2 ⟨m, hm, rfl⟩))

/-- Nothing is found under a key that no member has. -/
theorem lookup_eq_none_iff_notMem : ms.lookup k = none ↔ k ∉ ms.map Prod.fst := by
  rw [List.lookup_eq_none_iff]
  simp only [bne_iff_ne, List.mem_map, not_exists, not_and]
  exact ⟨fun h m hm hk => h m hm hk.symm, fun h m hm hk => h m hm hk.symm⟩

/-- **The order** of the members does not matter. -/
theorem lookup_perm {ms' : List (String × α)} (hms : (ms.map Prod.fst).Nodup) (h : ms.Perm ms')
    (k : String) : ms.lookup k = ms'.lookup k := by
  have hms' : (ms'.map Prod.fst).Nodup := (h.map Prod.fst).nodup hms
  refine Option.ext fun v => ?_
  rw [lookup_eq_some_iff_mem hms, lookup_eq_some_iff_mem hms', h.mem_iff]

/-- A member is found wherever it stands, and no other one is when it is left out. -/
theorem lookup_middle {before after : List (String × α)}
    (hms : ((before ++ (k, v) :: after).map Prod.fst).Nodup) (j : String) :
    (before ++ (k, v) :: after).lookup j = if j = k then some v else (before ++ after).lookup j := by
  rw [lookup_perm hms List.perm_middle, List.lookup_cons]
  by_cases h : j = k
  · subst h
    rw [beq_self_eq_true, if_pos rfl]
  · rw [beq_false_of_ne h, if_neg h]

/-- The key of a member is found nowhere else. -/
theorem lookup_middle_self {before after : List (String × α)}
    (hms : ((before ++ (k, v) :: after).map Prod.fst).Nodup) : (before ++ after).lookup k = none := by
  rw [List.map_append, List.map_cons, List.nodup_middle, List.nodup_cons, ← List.map_append] at hms
  exact lookup_eq_none_iff_notMem.2 hms.1

end Objects

end ErrorTaxonomy.Json
