import Mathlib.Data.List.Nodup
import ErrorTaxonomy.Proofs.Plan.Exact

/-! # Partition — the fields of a message by oneof, and the kind that follows

The unions of a message are its oneofs in order of first appearance (`ListsOneofs`, which determines the
list), each with all of its fields in declared order. So they **partition** the fields that name a oneof
(`perm_flatMap_membersOf`): no field is lost and none is in two unions. The kind of a message, and whether
its sum has fields outside the union, follow from the fields alone (`fields_partitioned`). -/

namespace ErrorTaxonomy

/-! ## Names of oneofs -/

/-- One oneof **appears before** another one: before every field of the second stands one of the
first. -/
def AppearsBefore (fs : List Field) (a b : String) : Prop :=
  ∀ before f after, fs = before ++ f :: after → f.oneof = some b → ∃ g ∈ before, g.oneof = some a

/-- Names **list the oneofs** of fields: all of them, each once, in order of first appearance. -/
structure ListsOneofs (fs : List Field) (names : List String) : Prop where
  mem_iff : ∀ name, name ∈ names ↔ ∃ f ∈ fs, f.oneof = some name
  nodup : names.Nodup
  ordered : names.Pairwise (AppearsBefore fs)

/-- The distinct names of oneofs list the oneofs. -/
theorem listsOneofs_oneofNames (fs : List Field) : ListsOneofs fs (oneofNames fs) where
  mem_iff name := by
    unfold oneofNames
    rw [List.mem_eraseDups, List.mem_filterMap]
  nodup := nodup_eraseDups _
  ordered := by
    refine (pairwise_eraseDups (fs.filterMap (·.oneof))).imp ?_
    intro a b hbefore before f after hfs hf
    -- the names of the fields before `f` are those before its own
    have hsplit : fs.filterMap (·.oneof) =
        before.filterMap (·.oneof) ++ b :: after.filterMap (·.oneof) := by
      rw [hfs, List.filterMap_append, List.filterMap_cons_some hf]
    exact List.mem_filterMap.1 (hbefore _ _ hsplit)

/-- Of two oneofs that appear before each other there is no field. -/
theorem oneof_ne_of_appearsBefore {fs : List Field} {a b : String} (hab : AppearsBefore fs a b)
    (hba : AppearsBefore fs b a) (before : List Field) (f : Field) (after : List Field)
    (hfs : fs = before ++ f :: after) : f.oneof ≠ some b := by
  -- a field of `b` would have an earlier one of `a` and that one an earlier one of `b`
  induction hn : before.length using Nat.strongRecOn generalizing before f after with
  | ind n ih =>
    intro hf
    obtain ⟨g, hg, hga⟩ := hab before f after hfs hf
    obtain ⟨xs, ys, rfl⟩ := List.append_of_mem hg
    obtain ⟨k, hk, hkb⟩ := hba xs g (ys ++ f :: after) (by simp [hfs]) hga
    obtain ⟨ws, zs, rfl⟩ := List.append_of_mem hk
    have hlen : ws.length < n := by
      simp at hn
      omega
    exact ih ws.length hlen ws k (zs ++ g :: (ys ++ f :: after)) (by simp [hfs]) rfl hkb

/-- **The list of the oneofs** of fields is determined by the fields. -/
theorem ListsOneofs.unique {fs : List Field} {names names' : List String}
    (h : ListsOneofs fs names) (h' : ListsOneofs fs names') : names = names' := by
  have hperm : names.Perm names' := by
    rw [List.perm_ext_iff_of_nodup h.nodup h'.nodup]
    intro name
    rw [h.mem_iff, h'.mem_iff]
  refine hperm.eq_of_pairwise ?_ h.ordered h'.ordered
  intro a b _ hb hab hba
  obtain ⟨f, hf, hname⟩ := (h'.mem_iff b).1 hb
  obtain ⟨before, after, hfs⟩ := List.append_of_mem hf
  exact absurd hname (oneof_ne_of_appearsBefore hab hba before f after hfs)

/-! ## Fields of unions -/

/-- Every member of a union names its oneof. -/
theorem mem_membersOf_iff {fs : List Field} {name : String} {f : Field} :
    f ∈ membersOf fs name ↔ f ∈ fs ∧ f.oneof = some name := by
  simp [membersOf]

/-- **The members of the unions** are the fields that name a oneof, each as often as it is declared. -/
theorem perm_flatMap_membersOf {fs : List Field} {names : List String} (hnd : names.Nodup)
    (hmem : ∀ f ∈ fs, ∀ name, f.oneof = some name → name ∈ names) :
    (names.flatMap (membersOf fs)).Perm (fs.filter (·.oneof.isSome)) := by
  induction fs with
  | nil =>
    have hnone : names.flatMap (membersOf []) = [] := List.flatMap_eq_nil_iff.2 fun _ _ => rfl
    rw [hnone, List.filter_nil]
  | cons f fs ih =>
    have hrest := ih fun g hg => hmem g (List.mem_cons_of_mem f hg)
    -- unions of other names have the members that they have without `f`
    have hother : ∀ others : List String, (∀ name ∈ others, f.oneof ≠ some name) →
        others.flatMap (membersOf (f :: fs)) = others.flatMap (membersOf fs) := by
      intro others hne
      refine List.flatMap_congr fun name hname => ?_
      simp [membersOf, hne name hname]
    cases h : f.oneof with
    | none =>
      rw [hother names (by simp [h]), List.filter_cons_of_neg (by simp [h])]
      exact hrest
    | some k =>
      obtain ⟨xs, ys, rfl⟩ := List.append_of_mem (hmem f List.mem_cons_self k h)
      rw [List.nodup_middle, List.nodup_cons, List.mem_append, not_or] at hnd
      obtain ⟨⟨hxs, hys⟩, -⟩ := hnd
      have hx := hother xs fun name hname heq => hxs (Option.some.inj (h.symm.trans heq) ▸ hname)
      have hy := hother ys fun name hname heq => hys (Option.some.inj (h.symm.trans heq) ▸ hname)
      have hk : membersOf (f :: fs) k = f :: membersOf fs k := by simp [membersOf, h]
      rw [List.flatMap_append, List.flatMap_cons] at hrest ⊢
      rw [hx, hy, hk, List.cons_append, List.filter_cons_of_pos (by simp [h])]
      exact List.perm_middle.trans (hrest.cons f)

/-- When all oneofs are one, its members are the fields that name a oneof. -/
theorem membersOf_eq_filter {fs : List Field} {name : String}
    (h : ∀ f ∈ fs, ∀ n, f.oneof = some n → n = name) :
    membersOf fs name = fs.filter (·.oneof.isSome) := by
  unfold membersOf
  apply List.filter_congr
  intro f hf
  cases honeof : f.oneof with
  | none => simp
  | some n => simp [h f hf n honeof]

/-- A union is one of a message when it has the name of a oneof and its members. -/
theorem mem_unions_iff (m : Message) (u : TaggedUnion) :
    u ∈ m.unions ↔ u.name ∈ oneofNames m.fields ∧ u.members = membersOf m.fields u.name := by
  rw [unions_eq, unionsOf, List.mem_map]
  constructor
  · rintro ⟨name, hname, rfl⟩
    exact ⟨hname, rfl⟩
  · rintro ⟨hname, hmembers⟩
    exact ⟨u.name, hname, by rw [← hmembers]⟩

/-! ## The kind of a message -/

/-- A message is a leaf when no field names a oneof. -/
theorem kind_eq_leaf_iff (m : Message) : m.kind = .ok .leaf ↔ ∀ f ∈ m.fields, f.oneof = none := by
  have hlists := listsOneofs_oneofNames m.fields
  have hnil : oneofNames m.fields = [] ↔ ∀ f ∈ m.fields, f.oneof = none := by
    rw [List.eq_nil_iff_forall_not_mem]
    simp only [hlists.mem_iff, not_exists, not_and]
    constructor
    · intro h f hf
      exact Option.eq_none_iff_forall_ne_some.2 fun name => h name f hf
    · intro h name f hf hname
      rw [h f hf] at hname
      cases hname
  rw [← hnil, kind_eq]
  rcases oneofNames m.fields with _ | ⟨_, _ | ⟨_, _⟩⟩ <;> simp

/-- A message is a sum when its fields name one oneof, with all fields that do. -/
theorem kind_eq_sum_iff (m : Message) (u : TaggedUnion) :
    m.kind = .ok (.sum u) ↔
      ListsOneofs m.fields [u.name] ∧ u.members = m.fields.filter (·.oneof.isSome) := by
  have hlists := listsOneofs_oneofNames m.fields
  -- the members of the only oneof are all fields that name one
  have hmembers : ∀ name, oneofNames m.fields = [name] →
      membersOf m.fields name = m.fields.filter (·.oneof.isSome) := by
    intro name hname
    apply membersOf_eq_filter
    intro f hf n hn
    have hmem := (hlists.mem_iff n).2 ⟨f, hf, hn⟩
    rw [hname, List.mem_singleton] at hmem
    exact hmem
  rw [kind_eq]
  constructor
  · intro h
    match ho : oneofNames m.fields with
    | [] => simp [ho] at h
    | _ :: _ :: _ => simp [ho] at h
    | [name] =>
      obtain rfl : ⟨name, membersOf m.fields name⟩ = u := by simpa [ho] using h
      exact ⟨ho ▸ hlists, hmembers name ho⟩
  · rintro ⟨hone, hall⟩
    have ho := hlists.unique hone
    rw [ho]
    simp only [hmembers u.name ho, ← hall]

/-- A message with several oneofs has no kind, and the error names all of them. -/
theorem kind_eq_error_iff (m : Message) (e : SchemaError) :
    m.kind = .error e ↔
      ∃ names, ListsOneofs m.fields names ∧ 2 ≤ names.length ∧ e = .multipleUnions m.name names := by
  have hlists := listsOneofs_oneofNames m.fields
  rw [kind_eq]
  constructor
  · intro h
    match ho : oneofNames m.fields with
    | [] => simp [ho] at h
    | [_] => simp [ho] at h
    | _ :: _ :: _ =>
      rw [ho] at h hlists
      exact ⟨_, hlists, by simp, (Except.error.inj h).symm⟩
  · rintro ⟨names, hnames, hlen, rfl⟩
    rw [hlists.unique hnames]
    rcases names with _ | ⟨_, _ | ⟨_, _⟩⟩
    · simp at hlen
    · simp at hlen
    · rfl

/-- A planned sum has other fields when some field is no member of its union. -/
theorem hasOtherFields_iff {c : Context} {m : Message} {p : SumPlan} (h : c.plan m = .ok (.sum p)) :
    p.hasOtherFields = true ↔ (membersOf m.fields p.union).length < m.fields.length := by
  unfold membersOf
  rw [(layout_of_plan_sum h).2.2, List.length_filter_lt_length_iff_exists, List.any_eq_true]
  simp only [ne_eq, decide_not, Bool.not_eq_true', decide_eq_false_iff_not, decide_eq_true_eq]

/-- **The fields are partitioned.** The unions of a message list its oneofs, each once and in order of first
appearance. The members of each are the fields of that name, in declared order, and at least one. So a
field with a oneof is in exactly one union and a field without is in none. A message is a leaf when no
field has a oneof, a sum when there is one oneof, with all fields that have it, and otherwise an error that
lists the oneofs. A planned sum has other fields when the message has more fields than the union members. -/
theorem fields_partitioned (m : Message) :
    ListsOneofs m.fields (m.unions.map (·.name)) ∧
    (∀ u ∈ m.unions, u.members = m.fields.filter (·.oneof = some u.name) ∧ u.members ≠ []) ∧
    (m.unions.flatMap (·.members)).Perm (m.fields.filter (·.oneof.isSome)) ∧
    (∀ f ∈ m.fields, ∀ name, f.oneof = some name →
      ∃ u ∈ m.unions, u.name = name ∧ f ∈ u.members ∧ ∀ v ∈ m.unions, f ∈ v.members → v = u) ∧
    (∀ f, f.oneof = none → ∀ u ∈ m.unions, f ∉ u.members) ∧
    (m.kind = .ok .leaf ↔ ∀ f ∈ m.fields, f.oneof = none) ∧
    (∀ u, m.kind = .ok (.sum u) ↔
      ListsOneofs m.fields [u.name] ∧ u.members = m.fields.filter (·.oneof.isSome)) ∧
    (∀ e, m.kind = .error e ↔ ∃ names, ListsOneofs m.fields names ∧ 2 ≤ names.length ∧
      e = .multipleUnions m.name names) ∧
    ∀ c p, Context.plan c m = .ok (.sum p) → ∃ u, m.kind = .ok (.sum u) ∧ p.union = u.name ∧
      (p.hasOtherFields = true ↔ u.members.length < m.fields.length) := by
  have hlists := listsOneofs_oneofNames m.fields
  refine ⟨?_, ?_, ?_, ?_, ?_, kind_eq_leaf_iff m, kind_eq_sum_iff m, kind_eq_error_iff m, ?_⟩
  · rw [unions_eq, map_name_unionsOf]
    exact hlists
  · intro u hu
    obtain ⟨hname, hmembers⟩ := (mem_unions_iff m u).1 hu
    obtain ⟨f, hf, honeof⟩ := (hlists.mem_iff _).1 hname
    refine ⟨hmembers, List.ne_nil_of_mem (a := f) ?_⟩
    rw [hmembers, mem_membersOf_iff]
    exact ⟨hf, honeof⟩
  · rw [unions_eq, unionsOf, List.flatMap_map]
    exact perm_flatMap_membersOf hlists.nodup fun f hf name hname =>
      (hlists.mem_iff name).2 ⟨f, hf, hname⟩
  · intro f hf name hname
    have hmem := (hlists.mem_iff name).2 ⟨f, hf, hname⟩
    refine ⟨⟨name, membersOf m.fields name⟩, (mem_unions_iff m _).2 ⟨hmem, rfl⟩, rfl,
      mem_membersOf_iff.2 ⟨hf, hname⟩, ?_⟩
    -- another union with this field has the name that the field gives
    intro v hv hfv
    have hmembers := ((mem_unions_iff m v).1 hv).2
    rw [hmembers, mem_membersOf_iff, hname, Option.some.injEq] at hfv
    obtain ⟨n, members⟩ := v
    simp only at hmembers hfv
    rw [hmembers, ← hfv.2]
  · intro f hf u hu hfu
    rw [((mem_unions_iff m u).1 hu).2, mem_membersOf_iff, hf] at hfu
    cases hfu.2
  · intro c p hp
    exact ⟨_, kind_of_plan_sum hp, rfl, hasOtherFields_iff hp⟩

end ErrorTaxonomy
