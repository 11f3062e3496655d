import ErrorTaxonomy.Load.Document
import ErrorTaxonomy.Proofs.Traversal

/-! # Lists of units — a list document decodes like its items

A document that is a list is decoded item by item, and a document that is a single unit is decoded as that
unit. So a list of units decodes exactly when each item does as a document of its own, and the error of a
list is that of its **first item that does not decode**, seen from one level up (`list_decodes_like_items`).
A unit is an object, whose own path is the root or starts with one of three keys; that is why the path in a
list is the path of the item behind its index. -/

namespace ErrorTaxonomy.Schema

open Json (Path Step)

variable {α : Type}

/-! ## Items -/

/-- A failure seen from one level up comes from a failure. -/
theorem within_eq_error_iff {s : Step} {r : Decoded α} {f : DecodeFailure} :
    within s r = .error f ↔ ∃ g, r = .error g ∧ g.within s = f := mapError_eq_error_iff

/-- A result seen from one level up is the result. -/
theorem within_eq_ok_iff {s : Step} {r : Decoded α} {a : α} : within s r = .ok a ↔ r = .ok a :=
  mapError_eq_ok_iff

/-- **Items decode** when each of them does. -/
theorem itemsFrom_eq_ok_iff {item : Json → Decoded α} {i : Nat} {vs : List Json} {as : List α} :
    itemsFrom item i vs = .ok as ↔ List.Forall₂ (fun v a => item v = .ok a) vs as := by
  induction vs generalizing i as with
  | nil =>
    rw [itemsFrom, List.forall₂_nil_left_iff, Except.ok.injEq, eq_comm]
  | cons v vs ih =>
    simp only [itemsFrom, bind_eq_ok_iff, within_eq_ok_iff, ih, List.forall₂_cons_left_iff]
    constructor
    · rintro ⟨a, ha, as, has, h⟩
      exact ⟨a, as, ha, has, (Except.ok.inj h).symm⟩
    · rintro ⟨a, as, ha, has, rfl⟩
      exact ⟨a, ha, as, has, rfl⟩

/-- **Items fail** with the failure of the first one that does, behind its index. -/
theorem itemsFrom_eq_error_iff {item : Json → Decoded α} {i : Nat} {vs : List Json}
    {f : DecodeFailure} :
    itemsFrom item i vs = .error f ↔ ∃ k v g, vs[k]? = some v ∧
      (∀ j < k, ∀ u, vs[j]? = some u → ∃ a, item u = .ok a) ∧
      item v = .error g ∧ f = g.within (.index (i + k)) := by
  induction vs generalizing i with
  | nil =>
    rw [itemsFrom]
    refine ⟨nofun, ?_⟩
    rintro ⟨k, v, g, hv, -⟩
    cases hv
  | cons v vs ih =>
    have hrest : ∀ (a : α) (f : DecodeFailure),
        (itemsFrom item (i + 1) vs >>= fun as => pure (a :: as)) = .error f ↔
          itemsFrom item (i + 1) vs = .error f := by
      intro a f
      rw [bind_eq_error_iff]
      refine ⟨fun h => h.resolve_right ?_, .inl⟩
      rintro ⟨as, -, h⟩
      cases h
    simp only [itemsFrom, bind_eq_error_iff, within_eq_error_iff, within_eq_ok_iff, hrest, ih]
    constructor
    · rintro (⟨g, hg, rfl⟩ | ⟨a, ha, k, u, g, hu, hbefore, hg, rfl⟩)
      · exact ⟨0, v, g, rfl, fun j hj => absurd hj (Nat.not_lt_zero j), hg, rfl⟩
      · refine ⟨k + 1, u, g, hu, ?_, hg, by rw [Nat.add_right_comm, Nat.add_assoc]⟩
        rintro (_ | j) hj w hw
        · obtain rfl := Option.some.inj hw
          exact ⟨a, ha⟩
        · exact hbefore j (Nat.lt_of_succ_lt_succ hj) w hw
    · rintro ⟨k, u, g, hu, hbefore, hg, rfl⟩
      cases k with
      | zero =>
        obtain rfl := Option.some.inj hu
        exact .inl ⟨g, hg, rfl⟩
      | succ k =>
        -- the first item is one of those before the item that fails
        obtain ⟨a, ha⟩ := hbefore 0 (Nat.succ_pos k) v rfl
        exact .inr ⟨a, ha, k, u, g, hu, fun j hj w hw => hbefore (j + 1) (Nat.succ_lt_succ hj) w hw, hg,
          by rw [Nat.add_right_comm, Nat.add_assoc]⟩

/-! ## Paths of units -/

/-- The keys of the members of a unit. -/
def unitKeys : List String := ["file", "package", "messages"]

/-- A path **starts in a unit** when it is the root or goes into a member of a unit. -/
def StartsInUnit (p : Path) : Prop := p = [] ∨ ∃ k ∈ unitKeys, ∃ rest, p = .key k :: rest

/-- A member that cannot be read is one of a unit. -/
theorem UnitDraft.startsInUnit_of_put {k : String} {v : Json} {d : UnitDraft} {f : DecodeFailure}
    (h : d.put (.key k) k v = .error f) : StartsInUnit f.path := by
  have hmember : ∀ {r : Decoded UnitDraft}, k ∈ unitKeys → within (.key k) r = .error f →
      StartsInUnit f.path := by
    intro r hk hr
    obtain ⟨g, -, rfl⟩ := within_eq_error_iff.1 hr
    exact .inr ⟨k, hk, g.path, rfl⟩
  unfold UnitDraft.put at h
  split at h
  · exact hmember (by decide) h
  · exact hmember (by decide) h
  · exact hmember (by decide) h
  · cases h

/-- Members that cannot be read fail at a member of a unit. -/
theorem startsInUnit_of_membersInto {ms : List (String × Json)} {d : UnitDraft} {f : DecodeFailure}
    (h : membersInto UnitDraft.put ms d = .error f) : StartsInUnit f.path := by
  induction ms generalizing d with
  | nil => cases h
  | cons m ms ih =>
    rw [membersInto, bind_eq_error_iff] at h
    obtain h | ⟨d', -, h⟩ := h
    · exact UnitDraft.startsInUnit_of_put h
    · exact ih h

/-- **A unit that is no list** fails at its root or in one of its members. -/
theorem startsInUnit_of_unit {v : Json} (hv : ∀ vs, v ≠ .arr vs) {f : DecodeFailure}
    (h : unit v = .error f) : StartsInUnit f.path := by
  cases v with
  | obj ms =>
    rw [unit, bind_eq_error_iff] at h
    obtain h | ⟨d, -, h⟩ := h
    · exact startsInUnit_of_membersInto h
    · -- the members are all read, so the file is missing
      obtain ⟨file, package, messages⟩ := d
      cases file with
      | none =>
        cases h
        exact .inl rfl
      | some file => cases h
  | arr vs => exact absurd rfl (hv vs)
  | null | bool b | num n | str s =>
    cases h
    exact .inl rfl

/-- **The text of a path in a list** is that of the path in the item, behind a dot unless it is the
root. -/
theorem StartsInUnit.render_index {p : Path} (h : StartsInUnit p) (i : Nat) :
    Path.render (.index i :: p) = if p.render = "." then s!"[{i}]" else s!"[{i}]." ++ p.render := by
  obtain rfl | ⟨k, hk, rest, rfl⟩ := h
  · rw [Path.render_nil, if_pos rfl, Path.render_index_cons]
    exact String.append_empty
  · -- no key of a unit starts with a dot
    have hroot : Path.render (.key k :: rest) ≠ "." := by
      intro h
      have hchars : k.toList ++ (Path.renderTail rest).toList = ['.'] := by
        rw [← String.toList_append]
        exact congrArg String.toList h
      revert hchars
      simp only [unitKeys, List.mem_cons, List.not_mem_nil, or_false] at hk
      obtain rfl | rfl | rfl := hk <;> simp
    rw [if_neg hroot, Path.render_index_cons]
    show s!"[{i}]" ++ ("." ++ k ++ Path.renderTail rest) = s!"[{i}]." ++ (k ++ Path.renderTail rest)
    have hdot : toString "]." = toString "]" ++ "." := rfl
    simp only [hdot, String.append_assoc]

/-! ## Documents -/

/-- A document that is no list is a single unit. -/
theorem units_of_not_list {v : Json} (hv : ∀ vs, v ≠ .arr vs) :
    units v = (unit v).map fun u => [u] := by
  cases v with
  | arr vs => exact absurd rfl (hv vs)
  | null | bool b | num n | str s | obj ms => rfl

section Documents

variable {origin : String} {v : Json} (hv : ∀ vs, v ≠ .arr vs)
include hv

/-- A document that is no list decodes when it is a unit. -/
theorem unitsOfJson_eq_ok_iff {us : List SchemaUnit} :
    Document.unitsOfJson origin v = .ok us ↔ ∃ u, unit v = .ok u ∧ us = [u] := by
  rw [Document.unitsOfJson, units_of_not_list hv, mapError_eq_ok_iff, map_eq_ok_iff]
  simp only [eq_comm]

/-- A document that is no list fails like the unit that it should be. -/
theorem unitsOfJson_eq_error_iff {e : LoadError} :
    Document.unitsOfJson origin v = .error e ↔
      ∃ f, unit v = .error f ∧ e = .undecodable origin f.path f.mismatch.message := by
  rw [Document.unitsOfJson, units_of_not_list hv, mapError_eq_error_iff]
  cases unit v with
  | error f =>
    simp only [Except.map, Except.error.injEq, eq_comm]
  | ok u => exact ⟨nofun, nofun⟩

end Documents

section Lists

variable {origin : String} {vs : List Json}

/-- The units of a list are those of its items. -/
theorem unitsOfJson_arr_eq_ok_iff {us : List SchemaUnit} :
    Document.unitsOfJson origin (.arr vs) = .ok us ↔
      List.Forall₂ (fun v u => unit v = .ok u) vs us := by
  rw [Document.unitsOfJson, mapError_eq_ok_iff, units, itemsFrom_eq_ok_iff]

/-- The error of a list is that of its first item that is no unit. -/
theorem unitsOfJson_arr_eq_error_iff {e : LoadError} :
    Document.unitsOfJson origin (.arr vs) = .error e ↔
      ∃ i v f, vs[i]? = some v ∧ (∀ j < i, ∀ u, vs[j]? = some u → ∃ a, unit u = .ok a) ∧
        unit v = .error f ∧ e = .undecodable origin (.index i :: f.path) f.mismatch.message := by
  simp only [Document.unitsOfJson, mapError_eq_error_iff, units, itemsFrom_eq_error_iff, Nat.zero_add]
  constructor
  · rintro ⟨_, ⟨i, v, f, hv, hbefore, hf, rfl⟩, rfl⟩
    exact ⟨i, v, f, hv, hbefore, hf, rfl⟩
  · rintro ⟨i, v, f, hv, hbefore, hf, rfl⟩
    exact ⟨_, ⟨i, v, f, hv, hbefore, hf, rfl⟩, rfl⟩

/-- Items that are units give, as documents of their own, the units of the list one by one. -/
theorem exists_forall₂_unitsOfJson_iff (hvs : ∀ v ∈ vs, ∀ ws, v ≠ .arr ws) {us : List SchemaUnit} :
    (∃ uss, List.Forall₂ (fun v us => Document.unitsOfJson origin v = .ok us) vs uss ∧
        us = uss.flatten) ↔
      List.Forall₂ (fun v u => unit v = .ok u) vs us := by
  induction vs generalizing us with
  | nil => simp
  | cons v vs ih =>
    obtain ⟨hv, hvs⟩ := List.forall_mem_cons.1 hvs
    simp only [List.forall₂_cons_left_iff, unitsOfJson_eq_ok_iff hv]
    constructor
    · rintro ⟨_, ⟨_, uss, ⟨u, hu, rfl⟩, huss, rfl⟩, rfl⟩
      exact ⟨u, uss.flatten, hu, (ih hvs).1 ⟨uss, huss, rfl⟩, rfl⟩
    · rintro ⟨u, us, hu, hus, rfl⟩
      obtain ⟨uss, huss, rfl⟩ := (ih hvs).2 hus
      exact ⟨[u] :: uss, ⟨[u], uss, ⟨u, hu, rfl⟩, huss, rfl⟩, rfl⟩

end Lists

/-- **A list document decodes like its items**, none of which is a list: to the units of all items in
order when each item decodes, and otherwise to the error of the first item that does not, with the path
in the item behind the index of the item. -/
theorem list_decodes_like_items (origin : String) (vs : List Json) (hvs : ∀ v ∈ vs, ∀ ws, v ≠ .arr ws) :
    ((∃ us, Document.unitsOfJson origin (.arr vs) = .ok us) ↔
      ∀ v ∈ vs, ∃ us, Document.unitsOfJson origin v = .ok us) ∧
    (∀ us, Document.unitsOfJson origin (.arr vs) = .ok us ↔
      ∃ uss, List.Forall₂ (fun v us => Document.unitsOfJson origin v = .ok us) vs uss ∧
        us = uss.flatten) ∧
    ∀ e, Document.unitsOfJson origin (.arr vs) = .error e ↔
      ∃ i v path reason, vs[i]? = some v ∧
        (∀ j < i, ∀ u, vs[j]? = some u → ∃ us, Document.unitsOfJson origin u = .ok us) ∧
        Document.unitsOfJson origin v = .error (.undecodable origin path reason) ∧
        e = .undecodable origin (.index i :: path) reason ∧
        Path.render (.index i :: path) =
          if path.render = "." then s!"[{i}]" else s!"[{i}]." ++ path.render := by
  have hok : ∀ us, Document.unitsOfJson origin (.arr vs) = .ok us ↔
      ∃ uss, List.Forall₂ (fun v us => Document.unitsOfJson origin v = .ok us) vs uss ∧
        us = uss.flatten := by
    intro us
    rw [unitsOfJson_arr_eq_ok_iff, exists_forall₂_unitsOfJson_iff hvs]
  refine ⟨?_, hok, ?_⟩
  · rw [← exists_mapM_eq_ok_iff]
    simp only [hok, mapM_eq_ok_iff]
    constructor
    · rintro ⟨us, uss, huss, -⟩
      exact ⟨uss, huss⟩
    · rintro ⟨uss, huss⟩
      exact ⟨uss.flatten, uss, huss, rfl⟩
  · intro e
    have hitem : ∀ {i : Nat} {v : Json}, vs[i]? = some v → ∀ ws, v ≠ .arr ws :=
      fun h => hvs _ (List.mem_of_getElem? h)
    have hunit : ∀ {u : Json}, (∀ ws, u ≠ .arr ws) →
        ((∃ a, unit u = .ok a) ↔ ∃ us, Document.unitsOfJson origin u = .ok us) := by
      intro u hu
      simp only [unitsOfJson_eq_ok_iff hu]
      exact ⟨fun ⟨a, ha⟩ => ⟨[a], a, ha, rfl⟩, fun ⟨_, a, ha, _⟩ => ⟨a, ha⟩⟩
    rw [unitsOfJson_arr_eq_error_iff]
    constructor
    · rintro ⟨i, v, f, hv, hbefore, hf, rfl⟩
      exact ⟨i, v, f.path, f.mismatch.message, hv,
        fun j hj u hu => (hunit (hitem hu)).1 (hbefore j hj u hu),
        (unitsOfJson_eq_error_iff (hitem hv)).2 ⟨f, hf, rfl⟩, rfl,
        (startsInUnit_of_unit (hitem hv) hf).render_index i⟩
    · rintro ⟨i, v, path, reason, hv, hbefore, herror, rfl, -⟩
      obtain ⟨f, hf, h⟩ := (unitsOfJson_eq_error_iff (hitem hv)).1 herror
      obtain ⟨-, rfl, rfl⟩ := LoadError.undecodable.inj h
      exact ⟨i, v, f, hv, fun j hj u hu => (hunit (hitem hu)).2 (hbefore j hj u hu), hf, rfl⟩

/-- A unit, a unit with a field of no known type, and a value that is no unit. -/
def mixedUnits : List Json := [
  .obj [("file", .str "a.proto")],
  .obj [("file", .str "b.proto"), ("messages", .arr [
    .obj [("name", .str "IoError"), ("fields", .arr [
      .obj [("name", .str "code"), ("type", .str "int33")]])]])],
  .null]

/-- The error of the mixed list is that of its second item. -/
theorem list_decodes_like_items_mixedUnits :
    (∀ v ∈ mixedUnits, ∀ ws, v ≠ .arr ws) ∧
      Document.unitsOfJson "units.json" (.arr mixedUnits) = .error (.undecodable "units.json"
        [.index 1, .key "messages", .index 0, .key "fields", .index 0, .key "type"]
        (Mismatch.unknownVariant "int33" typeNames).message) := by
  have hmixed : ∀ v ∈ mixedUnits, ∀ ws, v ≠ .arr ws := by
    simp [mixedUnits]
  have hfirst : ∀ j < 1, ∀ u, mixedUnits[j]? = some u →
      ∃ us, Document.unitsOfJson "units.json" u = .ok us := by
    intro j hj u hu
    obtain rfl : j = 0 := by omega
    obtain rfl := Option.some.inj hu
    exact ⟨[⟨"a.proto", "", []⟩], rfl⟩
  refine ⟨hmixed, ((list_decodes_like_items "units.json" mixedUnits hmixed).2.2 _).2
    ⟨1, _, _, _, rfl, hfirst, rfl, rfl, ?_⟩⟩
  decide

end ErrorTaxonomy.Schema
