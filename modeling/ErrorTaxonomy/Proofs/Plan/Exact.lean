import ErrorTaxonomy.Proofs.Plan.Rules

/-! # Exact planning — one rule decides

Planning a message runs through its checks one after the other. Each rule has a lemma that says when it
applies and what comes of it (`plan_of_oneofs` to `plan_of_not_hasTwo`); `Context.Decides` lists them:

* **`plan_decides`** — what planning gives is what a rule says.
* **`plan_exact`** — each outcome is reached exactly when its rule applies and none before it does; a
  leaf plan has the accessors and the cause that its format says, and every error names the message. -/

namespace ErrorTaxonomy

variable {c : Context} {m : Message}

/-! ## Stages of a leaf -/

/-- The fields found for known names have these names. -/
theorem map_name_filterMap_field? {names : List String}
    (h : ∀ n ∈ names, ∃ f ∈ m.fields, f.name = n) :
    (names.filterMap m.field?).map (·.name) = names := by
  induction names with
  | nil => rfl
  | cons n names ih =>
    have hknown : (m.field? n).isSome := by
      rw [← Option.not_isNone, Bool.not_eq_true', ← Bool.not_eq_true, Message.isNone_field?_iff]
      obtain ⟨f, hf, hname⟩ := h n List.mem_cons_self
      exact fun hall => hall f hf hname
    -- which of several fields of one name is found does not matter for the name
    obtain ⟨f, hf⟩ := Option.isSome_iff_exists.1 hknown
    rw [List.filterMap_cons_some hf, List.map_cons, Message.name_of_field? hf,
      ih fun k hk => h k (List.mem_cons_of_mem n hk)]

/-- The first unknown placeholder of a format is the error of compiling it. -/
theorem compileFormat_of_firstUnknown {format name : String} (h : m.FirstUnknown format name) :
    c.compileFormat m format = .error (.unknownField m.name name c.options.displayKey) := by
  rw [Context.compileFormat, Template.compile_eq, (m.find?_unknown_eq_some_iff format name).2 h]

/-- A format without unknown placeholders compiles, with an accessor for every occurrence. -/
theorem compileFormat_of_knowsAll {format : String} (h : m.KnowsAll format) :
    ∃ t, c.compileFormat m format = .ok t ∧
      t.accessors.map (·.field) = (Template.occurrences format).map (·.name) := by
  rw [Context.compileFormat, Template.compile_eq, (m.find?_unknown_eq_none_iff format).2 h]
  refine ⟨_, rfl, ?_⟩
  rw [Template.map_accessors, List.map_map, Template.occurrences, Template.map_name_occurrencesFrom]
  exact map_name_filterMap_field? h

/-- A format knows all of its placeholders or has a first unknown one. -/
theorem knowsAll_or_firstUnknown (m : Message) (format : String) :
    m.KnowsAll format ∨ ∃ name, m.FirstUnknown format name := by
  cases h : (Template.placeholders format).find? fun n => (m.field? n).isNone with
  | none => exact .inl ((m.find?_unknown_eq_none_iff format).1 h)
  | some name => exact .inr ⟨name, (m.find?_unknown_eq_some_iff format name).1 h⟩

/-- A **leaf plan fits** a message with that format: it stands for the message, with an accessor for
every occurrence, and its cause is the field that could be one. -/
structure LeafPlan.Fits (p : LeafPlan) (c : Context) (m : Message) (format : String) : Prop where
  message : p.message = m.name
  path : p.path = c.ownPath m
  accessors : p.format.accessors.map (·.field) = (Template.occurrences format).map (·.name)
  cause : ∀ n, p.cause = some n ↔ ∃ f ∈ m.fields, c.IsCause format f ∧ f.name = n

/-- A **sum plan fits** a message: it stands for the message, with the members of its union. -/
structure SumPlan.Fits (p : SumPlan) (c : Context) (m : Message) : Prop where
  message : p.message = m.name
  path : p.path = c.ownPath m
  members : p.members = (membersOf m.fields p.union).map c.member

/-! ## Rules -/

/-- **Several oneofs** are an error that names them. -/
theorem plan_of_oneofs (c : Context) (h : 2 ≤ (oneofNames m.fields).length) :
    c.plan m = .error (.multipleUnions m.name (oneofNames m.fields)) := by
  rw [Context.plan, kind_eq]
  match ho : oneofNames m.fields with
  | [] => simp [ho] at h
  | [_] => simp [ho] at h
  | _ :: _ :: _ => rfl

/-- A message with one oneof is planned as a sum. -/
theorem plan_of_oneof (c : Context) {u : String} (h : oneofNames m.fields = [u]) :
    c.plan m = (c.planSum m ⟨u, membersOf m.fields u⟩).map .sum := by
  rw [Context.plan, kind_eq, h]

/-- A message without a oneof is planned as a leaf. -/
theorem plan_of_no_oneof (c : Context) (h : oneofNames m.fields = []) :
    c.plan m = (c.planLeaf m).map .leaf := by
  rw [Context.plan, kind_eq, h]

/-- A **shared constructor** is an error of the union. -/
theorem plan_of_shares {u : String} (h : oneofNames m.fields = [u])
    (hs : c.SharesConstructor (membersOf m.fields u)) :
    ∃ t fields, c.plan m = .error (.duplicateConstructor m.name u t fields) := by
  rw [plan_of_oneof c h, Context.planSum]
  cases hd : duplicate? ((membersOf m.fields u).map c.member) with
  | none => exact absurd hs ((duplicate?_eq_none_iff c _).1 hd)
  | some dup => exact ⟨dup.1.name, dup.2, rfl⟩

/-- **Constructors of their own** make a sum. -/
theorem plan_of_not_shares {u : String} (h : oneofNames m.fields = [u])
    (hs : ¬ c.SharesConstructor (membersOf m.fields u)) :
    ∃ p, c.plan m = .ok (.sum p) ∧ p.union = u ∧ p.Fits c m := by
  rw [plan_of_oneof c h, Context.planSum, (duplicate?_eq_none_iff c _).2 hs]
  exact ⟨_, rfl, rfl, rfl, rfl, rfl⟩

/-- A **missing format** is an error of the display key. -/
theorem plan_of_not_hasFormat (h : oneofNames m.fields = [])
    (hf : ¬ ∃ format, m.HasFormat c.options.displayKey format) :
    c.plan m = .error (.missingFormat m.name c.options.displayKey) := by
  rw [plan_of_no_oneof c h, Context.planLeaf, (m.annotation?_eq_none_iff _).2 hf]
  rfl

/-- The **first unknown placeholder** is an error. -/
theorem plan_of_firstUnknown {format name : String} (h : oneofNames m.fields = [])
    (hf : m.HasFormat c.options.displayKey format) (hu : m.FirstUnknown format name) :
    c.plan m = .error (.unknownField m.name name c.options.displayKey) := by
  rw [plan_of_no_oneof c h, Context.planLeaf, (m.annotation?_eq_some_iff _ format).2 hf]
  simp only [compileFormat_of_firstUnknown hu]
  rfl

/-- **Two possible causes** are an error. -/
theorem plan_of_hasTwo {format : String} (h : oneofNames m.fields = [])
    (hf : m.HasFormat c.options.displayKey format) (hk : m.KnowsAll format)
    (hc : HasTwo (c.IsCause format) m.fields) :
    ∃ names, c.plan m = .error (.ambiguousCause m.name names) := by
  obtain ⟨t, ht, -⟩ := compileFormat_of_knowsAll (c := c) hk
  obtain ⟨names, hcause⟩ := resolveCause_of_hasTwo hc
  rw [plan_of_no_oneof c h, Context.planLeaf, (m.annotation?_eq_some_iff _ format).2 hf]
  simp only [ht, hcause]
  exact ⟨names, rfl⟩

/-- **At most one possible cause** makes a leaf. -/
theorem plan_of_not_hasTwo {format : String} (h : oneofNames m.fields = [])
    (hf : m.HasFormat c.options.displayKey format) (hk : m.KnowsAll format)
    (hc : ¬ HasTwo (c.IsCause format) m.fields) :
    ∃ p, c.plan m = .ok (.leaf p) ∧ p.Fits c m format := by
  obtain ⟨t, ht, hfields⟩ := compileFormat_of_knowsAll (c := c) hk
  obtain ⟨cause, hcause, hiff⟩ := resolveCause_of_not_hasTwo hc
  rw [plan_of_no_oneof c h, Context.planLeaf, (m.annotation?_eq_some_iff _ format).2 hf]
  simp only [ht, hcause]
  refine ⟨_, rfl, rfl, rfl, hfields, fun n => ?_⟩
  simp only [Option.map_eq_some_iff, hiff, and_assoc]

/-! ## Outcomes -/

/-- The **rules** of planning: what each asks of a message and what comes of it. -/
inductive Context.Decides (c : Context) (m : Message) : Except SchemaError ErrorPlan → Prop
  /-- There are several oneofs. -/
  | multipleUnions (h : 2 ≤ (oneofNames m.fields).length) :
      c.Decides m (.error (.multipleUnions m.name (oneofNames m.fields)))
  /-- Two members of the only oneof have one constructor. -/
  | duplicateConstructor {u : String} (t : String) (fields : List String)
      (h : oneofNames m.fields = [u]) (hs : c.SharesConstructor (membersOf m.fields u)) :
      c.Decides m (.error (.duplicateConstructor m.name u t fields))
  /-- The members of the only oneof have constructors of their own. -/
  | sum (p : SumPlan) (h : oneofNames m.fields = [p.union])
      (hs : ¬ c.SharesConstructor (membersOf m.fields p.union)) (hp : p.Fits c m) :
      c.Decides m (.ok (.sum p))
  /-- There is no oneof and no format. -/
  | missingFormat (h : oneofNames m.fields = [])
      (hf : ¬ ∃ format, m.HasFormat c.options.displayKey format) :
      c.Decides m (.error (.missingFormat m.name c.options.displayKey))
  /-- The format has a placeholder that is not the name of a field. -/
  | unknownField {format name : String} (h : oneofNames m.fields = [])
      (hf : m.HasFormat c.options.displayKey format) (hu : m.FirstUnknown format name) :
      c.Decides m (.error (.unknownField m.name name c.options.displayKey))
  /-- The format mentions two possible causes. -/
  | ambiguousCause {format : String} (names : List String) (h : oneofNames m.fields = [])
      (hf : m.HasFormat c.options.displayKey format) (hk : m.KnowsAll format)
      (hc : HasTwo (c.IsCause format) m.fields) :
      c.Decides m (.error (.ambiguousCause m.name names))
  /-- The format mentions one possible cause or none. -/
  | leaf {format : String} (p : LeafPlan) (h : oneofNames m.fields = [])
      (hf : m.HasFormat c.options.displayKey format) (hk : m.KnowsAll format)
      (hc : ¬ HasTwo (c.IsCause format) m.fields) (hp : p.Fits c m format) :
      c.Decides m (.ok (.leaf p))

/-- The union of a message with one oneof decides. -/
theorem plan_decides_of_oneof (c : Context) {u : String} (h : oneofNames m.fields = [u]) :
    c.Decides m (c.plan m) := by
  by_cases hs : c.SharesConstructor (membersOf m.fields u)
  · obtain ⟨t, fields, hplan⟩ := plan_of_shares h hs
    rw [hplan]
    exact .duplicateConstructor t fields h hs
  · obtain ⟨p, hplan, rfl, hp⟩ := plan_of_not_shares h hs
    rw [hplan]
    exact .sum p h hs hp

/-- The format of a message without a oneof decides. -/
theorem plan_decides_of_no_oneof (c : Context) (h : oneofNames m.fields = []) :
    c.Decides m (c.plan m) := by
  by_cases hf : ∃ format, m.HasFormat c.options.displayKey format
  · obtain ⟨format, hf⟩ := hf
    obtain hk | ⟨name, hu⟩ := knowsAll_or_firstUnknown m format
    · by_cases hc : HasTwo (c.IsCause format) m.fields
      · obtain ⟨names, hplan⟩ := plan_of_hasTwo h hf hk hc
        rw [hplan]
        exact .ambiguousCause names h hf hk hc
      · obtain ⟨p, hplan, hp⟩ := plan_of_not_hasTwo h hf hk hc
        rw [hplan]
        exact .leaf p h hf hk hc hp
    · rw [plan_of_firstUnknown h hf hu]
      exact .unknownField h hf hu
  · rw [plan_of_not_hasFormat h hf]
    exact .missingFormat h hf

/-- **What planning gives is what a rule says.** -/
theorem plan_decides (c : Context) (m : Message) : c.Decides m (c.plan m) := by
  match h : oneofNames m.fields with
  | [] => exact plan_decides_of_no_oneof c h
  | [_] => exact plan_decides_of_oneof c h
  | _ :: _ :: _ =>
    have hlen : 2 ≤ (oneofNames m.fields).length := by simp [h]
    rw [plan_of_oneofs c hlen]
    exact .multipleUnions hlen

/-- The plan of a leaf error fits its format. -/
theorem fits_of_plan_leaf {p : LeafPlan} (h : c.plan m = .ok (.leaf p)) :
    ∃ format, m.HasFormat c.options.displayKey format ∧ p.Fits c m format := by
  have hd := plan_decides c m
  rw [h] at hd
  cases hd with
  | leaf _ _ hf _ _ hp => exact ⟨_, hf, hp⟩

/-- The plan of a sum error fits its message. -/
theorem fits_of_plan_sum {p : SumPlan} (h : c.plan m = .ok (.sum p)) : p.Fits c m := by
  have hd := plan_decides c m
  rw [h] at hd
  cases hd with
  | sum _ _ _ hp => exact hp

/-- A message that is planned as a sum has the kind of a sum. -/
theorem kind_of_plan_sum {p : SumPlan} (h : c.plan m = .ok (.sum p)) :
    m.kind = .ok (.sum ⟨p.union, membersOf m.fields p.union⟩) := by
  have hd := plan_decides c m
  rw [h] at hd
  cases hd with
  | sum _ ho _ _ => rw [kind_eq, ho]

/-- The layout of a sum plan is made of the names around its message and of its union. -/
theorem layout_of_plan_sum {p : SumPlan} (h : c.plan m = .ok (.sum p)) :
    p.unionField = Ident.fieldIdent p.union ∧
      p.unionType = c.parents.map Ident.fieldIdent ++
        [Ident.fieldIdent m.name, Ident.typeIdent p.union] ∧
      p.hasOtherFields = m.fields.any (·.oneof ≠ some p.union) := by
  rw [Context.plan, kind_of_plan_sum h] at h
  simp only [Context.planSum] at h
  split at h
  · cases h
  · simp only [Except.map, Except.ok.injEq, ErrorPlan.sum.injEq] at h
    have hfield := congrArg SumPlan.unionField h
    have htype := congrArg SumPlan.unionType h
    have hrest := congrArg SumPlan.hasOtherFields h
    dsimp only at hfield htype hrest
    exact ⟨hfield.symm, htype.symm, hrest.symm⟩

/-- A message has one format at most. -/
theorem Message.HasFormat.unique {key a b : String} (ha : m.HasFormat key a)
    (hb : m.HasFormat key b) : a = b :=
  Option.some.inj (ha.1.symm.trans hb.1)

/-- **Exact planning.** Several oneofs are an error. With one oneof, a shared constructor is an error and
anything else a sum plan. Without a oneof, in this order: a missing format is an error, the first
unknown placeholder is one, two possible causes are one, and anything else is a leaf plan, with an
accessor for every occurrence and the only possible cause. Every error names the message. -/
theorem plan_exact (c : Context) (m : Message) :
    (c.plan m = .error (.multipleUnions m.name (oneofNames m.fields)) ↔
      2 ≤ (oneofNames m.fields).length) ∧
    (∀ u, (∃ t fields, c.plan m = .error (.duplicateConstructor m.name u t fields)) ↔
      oneofNames m.fields = [u] ∧ c.SharesConstructor (membersOf m.fields u)) ∧
    (∀ u, (∃ p, c.plan m = .ok (.sum p) ∧ p.union = u) ↔
      oneofNames m.fields = [u] ∧ ¬ c.SharesConstructor (membersOf m.fields u)) ∧
    (c.plan m = .error (.missingFormat m.name c.options.displayKey) ↔
      oneofNames m.fields = [] ∧ ¬ ∃ format, m.HasFormat c.options.displayKey format) ∧
    (∀ name, c.plan m = .error (.unknownField m.name name c.options.displayKey) ↔
      oneofNames m.fields = [] ∧ ∃ format, m.HasFormat c.options.displayKey format ∧
        m.FirstUnknown format name) ∧
    ((∃ names, c.plan m = .error (.ambiguousCause m.name names)) ↔
      oneofNames m.fields = [] ∧ ∃ format, m.HasFormat c.options.displayKey format ∧
        m.KnowsAll format ∧ HasTwo (c.IsCause format) m.fields) ∧
    ((∃ p, c.plan m = .ok (.leaf p)) ↔
      oneofNames m.fields = [] ∧ ∃ format, m.HasFormat c.options.displayKey format ∧
        m.KnowsAll format ∧ ¬ HasTwo (c.IsCause format) m.fields) ∧
    (∀ p, c.plan m = .ok (.leaf p) → ∀ format, m.HasFormat c.options.displayKey format →
      p.Fits c m format) ∧
    ∀ e, c.plan m = .error e → e.message = m.name := by
  have hd := plan_decides c m
  refine ⟨⟨fun hr => ?_, plan_of_oneofs c⟩, fun u => ⟨?_, fun h => plan_of_shares h.1 h.2⟩,
    fun u => ⟨?_, fun h => ?_⟩,
    ⟨fun hr => ?_, fun h => plan_of_not_hasFormat h.1 h.2⟩, fun name => ⟨fun hr => ?_, ?_⟩,
    ⟨?_, ?_⟩, ⟨?_, ?_⟩, fun p hr format hf => ?_, fun e hr => ?_⟩
  · rw [hr] at hd
    cases hd with
    | multipleUnions h => exact h
  · rintro ⟨t, fields, hr⟩
    rw [hr] at hd
    cases hd with
    | duplicateConstructor _ _ h hs => exact ⟨h, hs⟩
  · rintro ⟨p, hr, rfl⟩
    rw [hr] at hd
    cases hd with
    | sum _ h hs => exact ⟨h, hs⟩
  · obtain ⟨p, hplan, hu, -⟩ := plan_of_not_shares h.1 h.2
    exact ⟨p, hplan, hu⟩
  · rw [hr] at hd
    cases hd with
    | missingFormat h hf => exact ⟨h, hf⟩
  · rw [hr] at hd
    cases hd with
    | unknownField h hf hu => exact ⟨h, _, hf, hu⟩
  · rintro ⟨h, format, hf, hu⟩
    exact plan_of_firstUnknown h hf hu
  · rintro ⟨names, hr⟩
    rw [hr] at hd
    cases hd with
    | ambiguousCause _ h hf hk hc => exact ⟨h, _, hf, hk, hc⟩
  · rintro ⟨h, format, hf, hk, hc⟩
    exact plan_of_hasTwo h hf hk hc
  · rintro ⟨p, hr⟩
    rw [hr] at hd
    cases hd with
    | leaf _ h hf hk hc => exact ⟨h, _, hf, hk, hc⟩
  · rintro ⟨h, format, hf, hk, hc⟩
    obtain ⟨p, hplan, -⟩ := plan_of_not_hasTwo h hf hk hc
    exact ⟨p, hplan⟩
  · rw [hr] at hd
    cases hd with
    | leaf _ _ hf' _ _ hp =>
      rw [hf.unique hf']
      exact hp
  · rw [hr] at hd
    cases hd <;> rfl

end ErrorTaxonomy
