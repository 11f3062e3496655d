import ErrorTaxonomy.Plan.Classify
import ErrorTaxonomy.Proofs.Distinct

/-! # Unions — the fields of a message by oneof

`Message.unions` finds the union of each field or puts a new one at the end. `unions_eq` says what comes
out of it: one union for each distinct oneof name, in order of first appearance, with all fields of
that name. The kind of a message follows from the number of names alone (`kind_eq`). -/

namespace ErrorTaxonomy

/-- The distinct oneof names among fields, in order of first appearance. -/
def oneofNames (fs : List Field) : List String := (fs.filterMap (·.oneof)).eraseDups

/-- The fields that name a oneof, in declared order. -/
def membersOf (fs : List Field) (name : String) : List Field := fs.filter (·.oneof = some name)

/-! ## Adding a member -/

/-- The union with the field `f` as its last member when it has that name. -/
def TaggedUnion.addIf (name : String) (f : Field) (u : TaggedUnion) : TaggedUnion :=
  if u.name = name then ⟨u.name, u.members ++ [f]⟩ else u

/-- A member of a oneof without a union makes one. -/
theorem addMember_of_not_mem {name : String} {f : Field} {us : List TaggedUnion}
    (h : name ∉ us.map (·.name)) : Message.addMember name f us = us ++ [⟨name, [f]⟩] := by
  induction us with
  | nil => rfl
  | cons u us ih =>
    rw [List.map_cons, List.mem_cons, not_or] at h
    rw [Message.addMember, if_neg (Ne.symm h.1), ih h.2, List.cons_append]

/-- Unions of other names get no member. -/
theorem map_addIf_of_not_mem {name : String} {f : Field} {us : List TaggedUnion}
    (h : name ∉ us.map (·.name)) : us.map (TaggedUnion.addIf name f) = us := by
  induction us with
  | nil => rfl
  | cons u us ih =>
    rw [List.map_cons, List.mem_cons, not_or] at h
    rw [List.map_cons, TaggedUnion.addIf, if_neg (Ne.symm h.1), ih h.2]

/-- A member of a oneof with a union joins it. -/
theorem addMember_of_mem {name : String} {f : Field} {us : List TaggedUnion}
    (hnd : (us.map (·.name)).Nodup) (h : name ∈ us.map (·.name)) :
    Message.addMember name f us = us.map (TaggedUnion.addIf name f) := by
  induction us with
  | nil => simp at h
  | cons u us ih =>
    rw [List.map_cons, List.nodup_cons] at hnd
    rw [List.map_cons, List.mem_cons] at h
    rw [Message.addMember, List.map_cons, TaggedUnion.addIf]
    by_cases hu : u.name = name
    · -- the names are distinct, so no later union has this one
      have hrest : name ∉ us.map (·.name) := hu ▸ hnd.1
      rw [if_pos hu, if_pos hu, map_addIf_of_not_mem hrest]
    · rw [if_neg hu, if_neg hu, ih hnd.2 (h.resolve_left (Ne.symm hu))]

/-! ## The unions of a message -/

/-- The unions of fields: one for each oneof name. -/
def unionsOf (fs : List Field) : List TaggedUnion :=
  (oneofNames fs).map fun name => ⟨name, membersOf fs name⟩

/-- The unions are named after the oneofs. -/
theorem map_name_unionsOf (fs : List Field) : (unionsOf fs).map (·.name) = oneofNames fs := by
  rw [unionsOf, List.map_map]
  exact List.map_id' _

/-- One more field is a member of the oneof that it names. -/
theorem membersOf_concat (fs : List Field) (f : Field) (name : String) :
    membersOf (fs ++ [f]) name =
      membersOf fs name ++ if f.oneof = some name then [f] else [] := by
  rw [membersOf, membersOf, List.filter_append, List.filter_singleton]
  by_cases h : f.oneof = some name <;> simp [h]

/-- A name that no field names has no members. -/
theorem membersOf_eq_nil {fs : List Field} {name : String} (h : name ∉ oneofNames fs) :
    membersOf fs name = [] := by
  rw [oneofNames, List.mem_eraseDups] at h
  rw [membersOf, List.filter_eq_nil_iff]
  intro f hf hname
  exact h (List.mem_filterMap.2 ⟨f, hf, of_decide_eq_true hname⟩)

/-- A field outside of all oneofs changes no union. -/
theorem unionsOf_concat_of_none (fs : List Field) {f : Field} (h : f.oneof = none) :
    unionsOf (fs ++ [f]) = unionsOf fs := by
  have hnames : oneofNames (fs ++ [f]) = oneofNames fs := by
    rw [oneofNames, oneofNames, List.filterMap_append, List.filterMap_cons_none h]
    simp
  rw [unionsOf, unionsOf, hnames]
  refine List.map_congr_left fun name _ => ?_
  rw [membersOf_concat, h, if_neg (Option.some_ne_none name).symm, List.append_nil]

/-- A field of a oneof is added to the unions as their member. -/
theorem unionsOf_concat_of_some (fs : List Field) {f : Field} {name : String}
    (h : f.oneof = some name) :
    unionsOf (fs ++ [f]) = Message.addMember name f (unionsOf fs) := by
  have hnames : oneofNames (fs ++ [f]) =
      if name ∈ oneofNames fs then oneofNames fs else oneofNames fs ++ [name] := by
    rw [oneofNames, List.filterMap_append, List.filterMap_cons_some h, List.filterMap_nil,
      eraseDups_concat]
    simp only [oneofNames, List.mem_eraseDups]
  by_cases hmem : name ∈ oneofNames fs
  · have hnd : ((unionsOf fs).map (·.name)).Nodup := by
      rw [map_name_unionsOf]
      exact nodup_eraseDups _
    rw [addMember_of_mem hnd (by rwa [map_name_unionsOf]), unionsOf, hnames, if_pos hmem, unionsOf,
      List.map_map]
    refine List.map_congr_left fun n _ => ?_
    rw [membersOf_concat, h, Function.comp_apply, TaggedUnion.addIf]
    by_cases hn : n = name
    · rw [if_pos hn, if_pos (by rw [hn])]
    · rw [if_neg hn, if_neg (fun he => hn (Option.some.inj he).symm), List.append_nil]
  · -- the name is new, so the field is its only member and no other union changes
    rw [addMember_of_not_mem (by rwa [map_name_unionsOf]), unionsOf, hnames, if_neg hmem,
      List.map_append, List.map_singleton, membersOf_concat, h, if_pos rfl, membersOf_eq_nil hmem,
      List.nil_append, unionsOf]
    congr 1
    refine List.map_congr_left fun n hn => ?_
    have hne : some name ≠ some n := fun he => hmem (Option.some.inj he ▸ hn)
    rw [membersOf_concat, h, if_neg hne, List.append_nil]

/-- The invariant of the fold: after the fields `seen` the unions are those of `seen`. -/
theorem foldl_unionsOf (seen fs : List Field) :
    fs.foldl (fun us f => match f.oneof with
      | none => us
      | some name => Message.addMember name f us) (unionsOf seen) = unionsOf (seen ++ fs) := by
  induction fs generalizing seen with
  | nil => rw [List.foldl_nil, List.append_nil]
  | cons f fs ih =>
    rw [List.foldl_cons, ← List.singleton_append, ← List.append_assoc, ← ih]
    cases h : f.oneof with
    | none => rw [unionsOf_concat_of_none seen h]
    | some name => rw [unionsOf_concat_of_some seen h]

/-- **The unions** of a message: one for each oneof name, with every field of that name. -/
theorem unions_eq (m : Message) : m.unions = unionsOf m.fields :=
  foldl_unionsOf [] m.fields

/-- **The kind** of a message follows from the number of its oneofs. -/
theorem kind_eq (m : Message) :
    m.kind = match oneofNames m.fields with
      | [] => .ok .leaf
      | [name] => .ok (.sum ⟨name, membersOf m.fields name⟩)
      | names => .error (.multipleUnions m.name names) := by
  have hnames := map_name_unionsOf m.fields
  rw [Message.kind, unions_eq]
  match h : oneofNames m.fields with
  | [] => rw [unionsOf, h]; rfl
  | [name] => rw [unionsOf, h]; rfl
  | name :: other :: names =>
    rw [h] at hnames
    rw [unionsOf, h] at hnames ⊢
    simp only [List.map_cons] at hnames ⊢
    rw [List.map_map]
    congr 4
    exact List.map_id' _

end ErrorTaxonomy
