import Mathlib.Data.List.Forall2

/-! # Traversals — a list taken item by item until one fails

Units, messages and names are all worked off by `mapM` in `Except`. `mapM_eq_ok_iff` says what its
success means: every item succeeds, and the results stand in the order of the items. `mapM_eq_error_iff`
says what its failure means: the first item that fails gives the error. -/

namespace ErrorTaxonomy

variable {ε α β : Type} {f : α → Except ε β}

/-- Of two lists that are related item by item, each item of the first has one in the second. -/
theorem exists_mem_of_forall₂ {R : α → β → Prop} {as : List α} {bs : List β}
    (h : List.Forall₂ R as bs) {a : α} (ha : a ∈ as) : ∃ b ∈ bs, R a b := by
  induction h with
  | nil => simp at ha
  | cons hab _ ih =>
    obtain rfl | ha := List.mem_cons.1 ha
    · exact ⟨_, List.mem_cons_self, hab⟩
    · obtain ⟨b, hb, hR⟩ := ih ha
      exact ⟨b, List.mem_cons_of_mem _ hb, hR⟩

/-- What is no error is a result. -/
theorem exists_eq_ok_of_isOk {r : Except ε α} (h : r.isOk = true) : ∃ a, r = .ok a := by
  cases r with
  | error e => cases h
  | ok a => exact ⟨a, rfl⟩

/-- Rewording an error leaves results as they are. -/
theorem mapError_eq_ok_iff {ε' : Type} {w : ε → ε'} {r : Except ε α} {a : α} :
    r.mapError w = .ok a ↔ r = .ok a := by
  cases r <;> simp [Except.mapError]

/-- An error after rewording is an error reworded. -/
theorem mapError_eq_error_iff {ε' : Type} {w : ε → ε'} {r : Except ε α} {e' : ε'} :
    r.mapError w = .error e' ↔ ∃ e, r = .error e ∧ w e = e' := by
  cases r <;> simp [Except.mapError]

/-- A result that was changed comes from a result. -/
theorem map_eq_ok_iff {g : α → β} {r : Except ε α} {b : β} :
    r.map g = .ok b ↔ ∃ a, r = .ok a ∧ g a = b := by
  cases r <;> simp [Except.map]

/-- Changing a result leaves errors as they are. -/
theorem map_eq_error_iff {g : α → β} {r : Except ε α} {e : ε} :
    r.map g = .error e ↔ r = .error e := by
  cases r <;> simp [Except.map]

/-- Results that are the same as options are the same results. -/
theorem eq_ok_iff_of_toOption_eq {r r' : Except ε α} (h : r.toOption = r'.toOption) {a : α} :
    r = .ok a ↔ r' = .ok a := by
  cases r <;> cases r' <;> simp_all [Except.toOption]

/-- Two steps succeed when the first does and the second does after it. -/
theorem bind_eq_ok_iff {r : Except ε α} {b : β} :
    r >>= f = .ok b ↔ ∃ a, r = .ok a ∧ f a = .ok b := by
  cases r <;> simp [bind, Except.bind]

/-- The error of two steps is that of the first, or that of the second after it. -/
theorem bind_eq_error_iff {r : Except ε α} {e : ε} :
    r >>= f = .error e ↔ r = .error e ∨ ∃ a, r = .ok a ∧ f a = .error e := by
  cases r <;> simp [bind, Except.bind]

/-- A last step that only puts a result together gives that result. -/
theorem pure_eq_ok_iff {a b : α} : (pure a : Except ε α) = .ok b ↔ a = b :=
  ⟨Except.ok.inj, congrArg Except.ok⟩

/-- A last step that only puts a result together gives no error. -/
theorem pure_ne_error {a : α} {e : ε} : (pure a : Except ε α) ≠ .error e := nofun

/-- **A traversal succeeds** exactly when every item does, with the results in order. -/
theorem mapM_eq_ok_iff {as : List α} {bs : List β} :
    as.mapM f = .ok bs ↔ List.Forall₂ (fun a b => f a = .ok b) as bs := by
  induction as generalizing bs with
  | nil =>
    rw [List.mapM_nil, List.forall₂_nil_left_iff, pure_eq_ok_iff, eq_comm]
  | cons a as ih =>
    rw [List.mapM_cons, List.forall₂_cons_left_iff]
    cases ha : f a with
    | error e =>
      refine ⟨nofun, ?_⟩
      rintro ⟨b, _, hb, -⟩
      cases hb
    | ok b =>
      cases hrest : as.mapM f with
      | error e =>
        refine ⟨nofun, ?_⟩
        rintro ⟨_, bs, -, hbs, -⟩
        rw [ih.2 hbs] at hrest
        cases hrest
      | ok rest =>
        constructor
        · intro h
          exact ⟨b, rest, rfl, ih.1 hrest, (Except.ok.inj h).symm⟩
        · rintro ⟨b', rest', hb, hrest', rfl⟩
          cases hb
          rw [ih.2 hrest'] at hrest
          cases hrest
          rfl

/-- A traversal of two lists, one after the other, gives the results of both, one after the other. -/
theorem mapM_append_eq_ok_iff {as as' : List α} {bs : List β} :
    (as ++ as').mapM f = .ok bs ↔
      ∃ xs ys, as.mapM f = .ok xs ∧ as'.mapM f = .ok ys ∧ xs ++ ys = bs := by
  simp only [List.mapM_append, bind_eq_ok_iff, pure_eq_ok_iff, exists_and_left]

/-- An item of a traversal that succeeds has a result. -/
theorem exists_mem_of_mapM_eq_ok {as : List α} {bs : List β} (h : as.mapM f = .ok bs) {a : α}
    (ha : a ∈ as) : ∃ b ∈ bs, f a = .ok b :=
  exists_mem_of_forall₂ (mapM_eq_ok_iff.1 h) ha

/-- A result of a traversal that succeeds comes from an item. -/
theorem exists_mem_of_mem_results {as : List α} {bs : List β} (h : as.mapM f = .ok bs) {b : β}
    (hb : b ∈ bs) : ∃ a ∈ as, f a = .ok b :=
  exists_mem_of_forall₂ (mapM_eq_ok_iff.1 h).flip hb

/-- **A traversal fails** with the error of the first item that fails. -/
theorem mapM_eq_error_iff {as : List α} {e : ε} :
    as.mapM f = .error e ↔ ∃ before a after,
      as = before ++ a :: after ∧ (∀ b ∈ before, ∃ c, f b = .ok c) ∧ f a = .error e := by
  induction as with
  | nil =>
    rw [List.mapM_nil]
    refine ⟨nofun, ?_⟩
    rintro ⟨before, a, after, h, -⟩
    exact absurd h (by simp)
  | cons a as ih =>
    rw [List.mapM_cons]
    cases ha : f a with
    | error e' =>
      constructor
      · intro h
        obtain rfl := Except.error.inj h
        exact ⟨[], a, as, rfl, by simp, ha⟩
      · rintro ⟨before, b, after, h, hbefore, hb⟩
        -- the head fails, so no item that succeeds stands before the one that fails
        cases before with
        | nil =>
          obtain ⟨rfl, -⟩ := List.cons.inj h
          rw [ha] at hb
          obtain rfl := Except.error.inj hb
          rfl
        | cons c before =>
          obtain ⟨rfl, -⟩ := List.cons.inj h
          obtain ⟨c', hc⟩ := hbefore a List.mem_cons_self
          rw [ha] at hc
          cases hc
    | ok b =>
      have hrest : (do let b ← Except.ok b; let bs ← as.mapM f; pure (b :: bs)) = .error e ↔
          as.mapM f = .error e := by
        cases as.mapM f with
        | error e' => exact Iff.rfl
        | ok bs => exact ⟨nofun, nofun⟩
      rw [hrest, ih]
      constructor
      · rintro ⟨before, a', after, rfl, hbefore, ha'⟩
        exact ⟨a :: before, a', after, rfl, List.forall_mem_cons.2 ⟨⟨b, ha⟩, hbefore⟩, ha'⟩
      · rintro ⟨before, a', after, h, hbefore, ha'⟩
        cases before with
        | nil =>
          obtain ⟨rfl, -⟩ := List.cons.inj h
          rw [ha] at ha'
          cases ha'
        | cons c before =>
          obtain ⟨rfl, rfl⟩ := List.cons.inj h
          exact ⟨before, a', after, rfl, (List.forall_mem_cons.1 hbefore).2, ha'⟩

/-! ## Results in a row -/

/-- Results are collected when all of them are there. -/
theorem mapM_id_eq_ok_iff {rs : List (Except ε α)} {as : List α} :
    rs.mapM id = .ok as ↔ rs = as.map .ok := by
  rw [mapM_eq_ok_iff, ← List.forall₂_eq_eq_eq, List.forall₂_map_right_iff]
  rfl

/-- Results are not collected when there is an error among them, and the first is what is left. -/
theorem mapM_id_eq_error_iff {rs : List (Except ε α)} {e : ε} :
    rs.mapM id = .error e ↔ ∃ (as : List α) (after : List (Except ε α)),
      rs = as.map .ok ++ .error e :: after := by
  rw [mapM_eq_error_iff]
  constructor
  · rintro ⟨before, _, after, rfl, hbefore, rfl⟩
    obtain ⟨as, rfl⟩ : ∃ as : List α, before = as.map .ok := by
      induction before with
      | nil => exact ⟨[], rfl⟩
      | cons r before ih =>
        obtain ⟨⟨a, rfl⟩, hrest⟩ := List.forall_mem_cons.1 hbefore
        obtain ⟨as, rfl⟩ := ih hrest
        exact ⟨a :: as, rfl⟩
    exact ⟨as, after, rfl⟩
  · rintro ⟨as, after, rfl⟩
    exact ⟨_, _, after, rfl, List.forall_mem_map.2 fun a _ => ⟨a, rfl⟩, rfl⟩

/-! ## Failing -/

/-- A result **fails** when it is an error, whichever. -/
def Fails (r : Except ε α) : Prop := ∃ e, r = .error e

theorem fails_error (e : ε) : Fails (.error e : Except ε α) := ⟨e, rfl⟩

theorem not_fails_ok (a : α) : ¬ Fails (.ok a : Except ε α) := nofun

theorem not_fails_pure (a : α) : ¬ Fails (pure a : Except ε α) := nofun

/-- What does not fail is a result. -/
theorem not_fails_iff {r : Except ε α} : ¬ Fails r ↔ ∃ a, r = .ok a := by
  cases r with
  | error e => exact ⟨fun h => absurd (fails_error e) h, nofun⟩
  | ok a => exact ⟨fun _ => ⟨a, rfl⟩, fun _ => not_fails_ok a⟩

/-- Rewording an error changes nothing about failing. -/
theorem fails_mapError_iff {ε' : Type} {w : ε → ε'} {r : Except ε α} :
    Fails (r.mapError w) ↔ Fails r := by
  cases r with
  | error e => exact ⟨fun _ => fails_error e, fun _ => fails_error (w e)⟩
  | ok a => exact ⟨fun h => absurd h (not_fails_ok a), fun h => absurd h (not_fails_ok a)⟩

/-- Changing a result changes nothing about failing. -/
theorem fails_map_iff {g : α → β} {r : Except ε α} : Fails (r.map g) ↔ Fails r := by
  cases r with
  | error e => exact ⟨fun _ => fails_error e, fun _ => fails_error e⟩
  | ok a => exact ⟨fun h => absurd h (not_fails_ok (g a)), fun h => absurd h (not_fails_ok a)⟩

/-- Two steps fail when the first does or when the second does after it. -/
theorem fails_bind_iff {r : Except ε α} :
    Fails (r >>= f) ↔ Fails r ∨ ∃ a, r = .ok a ∧ Fails (f a) := by
  simp only [Fails, bind_eq_error_iff, exists_or]
  rw [exists_comm]
  simp only [exists_and_left]

/-- A traversal fails when some item does. -/
theorem fails_mapM_iff {as : List α} : Fails (as.mapM f) ↔ ∃ a ∈ as, Fails (f a) := by
  constructor
  · rintro ⟨e, h⟩
    obtain ⟨before, a, after, rfl, -, ha⟩ := mapM_eq_error_iff.1 h
    exact ⟨a, by simp, e, ha⟩
  · rintro ⟨a, ha, hfails⟩
    by_contra hok
    obtain ⟨bs, hbs⟩ := not_fails_iff.1 hok
    obtain ⟨b, -, hb⟩ := exists_mem_of_mapM_eq_ok hbs ha
    rw [hb] at hfails
    exact not_fails_ok b hfails

/-- A traversal succeeds when every item does. -/
theorem exists_mapM_eq_ok_iff {as : List α} :
    (∃ bs, as.mapM f = .ok bs) ↔ ∀ a ∈ as, ∃ b, f a = .ok b := by
  simp only [← not_fails_iff, fails_mapM_iff, not_exists, not_and]

end ErrorTaxonomy
