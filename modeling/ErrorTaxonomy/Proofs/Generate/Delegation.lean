import ErrorTaxonomy.Proofs.Generate.Run

/-! # Delegation — fields that are shown by the impl of their own type

A placeholder of a message field either shows the field as a developer sees it or **delegates** to the
`Display` impl of the type of the field. The planner decides this by the name of the type alone, whether
or not the message behind it can be planned. After a run that succeeds each such decision is sound
(`delegations_backed`): the type stands in one of the units, that unit has planned it in its own place,
and the artifact of the unit holds the impl. -/

namespace ErrorTaxonomy

/-! ## Accessors that delegate -/

/-- The expression of an accessor **delegates** to the `Display` impl of the type of its field. -/
def Accessor.Delegates (a : Accessor) : Prop :=
  a.expr = "self." ++ Ident.fieldIdent a.field ++
    ".as_ref().map_or(&\"\" as &dyn ::std::fmt::Display, |v| v as &dyn ::std::fmt::Display)"

/-- The first character of a text stays the first when more follows. -/
theorem head?_toList_append {s : String} {c : Char} (h : s.toList.head? = some c) (t : String) :
    (s ++ t).toList.head? = some c := by
  rw [String.toList_append, List.head?_append, h, Option.some_or]

/-- An expression that begins with a field is shown by itself, by its text or by its own impl. -/
theorem Access.of_head?_expr {a : Access} {ident : String}
    (h : (a.expr ident).toList.head? = some 's') :
    a = .display ∨ a = .optionalText ∨ ∃ unset, a = .value unset := by
  cases a with
  | display => exact .inl rfl
  | optionalText => exact .inr (.inl rfl)
  | value unset => exact .inr (.inr ⟨unset, rfl⟩)
  | debug =>
    have hcolon : (Access.debug.expr ident).toList.head? = some ':' :=
      head?_toList_append (head?_toList_append (by decide) _) _
    rw [h] at hcolon
    exact absurd hcolon (by decide)
  | bytes unset =>
    have hcolon : ((Access.bytes unset).expr ident).toList.head? = some ':' := by
      cases unset <;> exact head?_toList_append (head?_toList_append (by decide) _) _
    rw [h] at hcolon
    exact absurd hcolon (by decide)
  | enumName path unset =>
    have hm : ((Access.enumName path unset).expr ident).toList.head? = some 'm' := by
      change (enumNameExpr _ _).toList.head? = _
      unfold enumNameExpr
      simp only [String.append_assoc]
      exact head?_toList_append (by decide) _
    rw [h] at hm
    exact absurd hm (by decide)

/-- An accessor delegates exactly when its field is shown by its own impl. -/
theorem Accessor.delegates_iff (a : Accessor) : a.Delegates ↔ a.access = .display := by
  obtain ⟨field, access⟩ := a
  constructor
  · intro h
    have hself : (access.expr (Ident.fieldIdent field)).toList.head? = some 's' :=
      (congrArg (·.toList.head?) h).trans
        (head?_toList_append (head?_toList_append (by decide) _) _)
    -- what begins alike goes on differently behind the identifier
    obtain rfl | rfl | ⟨unset, rfl⟩ := Access.of_head?_expr hself
    · rfl
    · change ("self." ++ _) ++ _ = ("self." ++ _) ++ _ at h
      rw [String.append_right_inj] at h
      exact absurd h (by decide)
    · change ("self." ++ _) ++ _ = ("self." ++ _) ++ _ at h
      rw [String.append_right_inj] at h
      cases unset <;> exact absurd h (by decide)
  · intro h
    cases h
    rw [Delegates]
    change ("self." ++ _) ++ _ ++ _ = _
    rw [String.append_assoc]
    rfl

/-! ## The fields of accessors -/

section Fields

variable {c : Context} {m : Message}

/-- The accessors of a compiled format are those of the fields that its placeholders name. -/
theorem accessors_of_compileFormat {format : String} {t : Template Accessor}
    (h : c.compileFormat m format = .ok t) :
    t.accessors = ((Template.placeholders format).filterMap m.field?).map c.accessor := by
  rw [Context.compileFormat, Template.compile_eq] at h
  cases hf : (Template.placeholders format).find? fun n => (m.field? n).isNone with
  | some name =>
    rw [hf] at h
    cases h
  | none =>
    rw [hf] at h
    obtain rfl := Except.ok.inj h
    rfl

/-- A leaf plan holds a compiled format of its message. -/
theorem compileFormat_of_plan_leaf {p : LeafPlan} (h : c.plan m = .ok (.leaf p)) :
    ∃ format, c.compileFormat m format = .ok p.format := by
  have hd := plan_decides c m
  rw [h] at hd
  cases hd with
  | @leaf format _ ho hf hk hc =>
    obtain ⟨t, ht, -⟩ := compileFormat_of_knowsAll (c := c) hk
    obtain ⟨cause, hcause, -⟩ := resolveCause_of_not_hasTwo hc
    rw [plan_of_no_oneof c ho, Context.planLeaf, (m.annotation?_eq_some_iff _ format).2 hf] at h
    simp only [ht, hcause] at h
    cases h
    exact ⟨format, ht⟩

/-- Every accessor of a leaf plan is that of the field of its name. -/
theorem exists_field_of_accessor {p : LeafPlan} (h : c.plan m = .ok (.leaf p)) {a : Accessor}
    (ha : a ∈ p.format.accessors) : ∃ f, m.field? a.field = some f ∧ a = c.accessor f := by
  obtain ⟨format, hformat⟩ := compileFormat_of_plan_leaf h
  rw [accessors_of_compileFormat hformat] at ha
  obtain ⟨f, hf, rfl⟩ := List.mem_map.1 ha
  obtain ⟨name, -, hname⟩ := List.mem_filterMap.1 hf
  obtain rfl := Message.name_of_field? hname
  exact ⟨f, hname, rfl⟩

/-- A field is shown by the impl of its type when it holds at most one message and the type renders. -/
theorem access_eq_display_iff (f : Field) :
    c.access f = .display ↔ ∃ t, f.messageType? = some t ∧ c.renders t = true := by
  rw [Context.access, Field.messageType?]
  cases f.type with
  | scalar t => cases t <;> cases f.label <;> simp
  | enum name => cases f.label <;> simp
  | message name =>
    cases f.label with
    | repeated => simp
    | singular | optional => cases h : c.renders name <;> simp [h]

/-- A type renders when its name resolves to a message that qualifies. -/
theorem renders_iff (t : String) :
    c.renders t = true ↔
      ∃ e, c.index.resolve? t c.package = some e ∧ c.options.qualifies e.message = true := by
  rw [Context.renders, Option.any_eq_true]

end Fields

/-! ## The impl of the type -/

/-- The line that opens the `Display` impl of a type. -/
def displayHead (path : Ident.ItemPath) : String :=
  "impl ::std::fmt::Display for " ++ path.render ++ " \x7b\n"

/-- The text of a plan opens the `Display` impl of its type. -/
theorem exists_planText_eq (plan : ErrorPlan) : ∃ rest,
    Emit.planText plan = "\n" ++ displayHead plan.path ++ rest := by
  obtain ⟨display, source, rest, hitems⟩ := exists_items_eq plan
  rw [Emit.planText, hitems, Emit.itemsCode, List.flatMap_cons, Emit.itemCode, List.cons_append,
    Code.renderAll_cons, List.cons_append, Code.renderAll_cons, Code.render, Code.render]
  have hindent : Code.indent 0 = "" := rfl
  unfold displayHead
  simp only [hindent, String.empty_append, String.append_assoc]
  exact ⟨_, rfl⟩

/-- A run **shows** the message of an entry by a plan: the unit of the entry has this plan of exactly the
message, under its own path, and the artifact of the unit holds the whole text of the plan, which begins
with the `Display` impl of that path. -/
structure IndexEntry.ShownBy (e : IndexEntry) (ix : SchemaIndex) (o : Options) (arts : List Artifact)
    (plan : ErrorPlan) : Prop where
  planned : Placed.plan e.unit ix o ⟨e.parents, e.message⟩ = .ok plan
  listed : ∃ up, e.unit.plan ix o = .ok up ∧ plan ∈ up.plans
  message : plan.message = e.message.name
  path : plan.path = e.path
  written : ∃ art ∈ arts, art.name = o.artifactName e.unit ∧
    ∃ before after, art.content = before ++ Emit.planText plan ++ after
  display : ∃ body rest, plan.items = .display e.path.render body :: rest
  opens : ∃ rest, Emit.planText plan = "\n" ++ displayHead e.path ++ rest

/-- A run **shows** the message of an entry when it does so by some plan. -/
def IndexEntry.Shown (e : IndexEntry) (ix : SchemaIndex) (o : Options) (arts : List Artifact) : Prop :=
  ∃ plan, e.ShownBy ix o arts plan

section Delegations

variable {o : Options} {us : List SchemaUnit} {arts : List Artifact}

/-- A run that succeeds shows every message that qualifies. -/
theorem shown_of_standsIn (h : (Generator.mk o .passthrough).generate us = .ok arts)
    {e : IndexEntry} (he : e.StandsIn us) (hq : o.qualifies e.message = true) :
    e.Shown (.build us) o arts := by
  obtain ⟨plans, hunit, hart, plan, hmem, hok⟩ := exists_plan_of_standsIn h he hq
  have hpath : plan.path = e.path := by
    rw [path_of_plan hok]
    rfl
  -- whatever the plan is, its first item is the impl that the accessor asks for
  obtain ⟨body, source, rest, hitems⟩ := exists_items_eq plan
  refine ⟨plan, ?_⟩
  constructor
  · exact hok
  · exact ⟨_, hunit, hmem⟩
  · exact message_of_plan hok
  · exact hpath
  · exact ⟨_, hart, rfl, exists_artifactText_eq e.unit hmem⟩
  · exact ⟨body, _, hpath ▸ hitems⟩
  · exact hpath ▸ exists_planText_eq plan

/-- **Delegations are backed.** After a run that succeeds, take an accessor of a leaf plan of a unit
that delegates to the `Display` impl of its field's type. The type of the field resolves from the
package of the unit to a message that stands in one of the units, and the run shows this message. -/
theorem delegations_backed (h : (Generator.mk o .passthrough).generate us = .ok arts) :
    ∀ u ∈ us, ∀ up, u.plan (.build us) o = .ok up → ∀ plan, .leaf plan ∈ up.plans →
      ∀ a ∈ plan.format.accessors, a.Delegates →
        ∃ p ∈ u.errors o, Placed.plan u (.build us) o p = .ok (.leaf plan) ∧
          ∃ f t e, p.message.field? a.field = some f ∧ f.messageType? = some t ∧
            (SchemaIndex.build us).resolve? t u.package = some e ∧ e.StandsIn us ∧
            e.Shown (.build us) o arts := by
  intro u _ up hup plan hplan a ha hdelegates
  obtain ⟨plans, hplans, rfl⟩ := plan_unit_eq_ok_iff.1 hup
  obtain ⟨p, hp, hok⟩ := exists_mem_of_mem_results hplans hplan
  obtain ⟨f, hf, hfa⟩ := exists_field_of_accessor hok ha
  have hdisplay : (p.context u (.build us) o).access f = .display := by
    rw [Accessor.delegates_iff, hfa] at hdelegates
    exact hdelegates
  obtain ⟨t, ht, hrenders⟩ := (access_eq_display_iff f).1 hdisplay
  obtain ⟨e, he, hq⟩ := (renders_iff t).1 hrenders
  -- an entry of the index may replace others of its name, but it stands in a unit of the run itself
  have hstands := standsIn_of_resolve? he
  exact ⟨p, hp, hok, f, t, e, hf, ht, he, hstands, shown_of_standsIn h hstands hq⟩

/-- A unit with an error that is nested in another message. -/
def storageUnit : SchemaUnit := ⟨"storage.proto", "example.storage", [
  ⟨"Store", [], [], [⟨"MissingError", [⟨"key", .scalar .string, .singular, none⟩],
    [("errors.display", "missing: \x7bkey\x7d")], [], false⟩], false⟩]⟩

/-- A unit with an error that shows the nested error of the other unit. -/
def lookupUnit : SchemaUnit := ⟨"lookup.proto", "example.lookup", [
  ⟨"LookupError", [⟨"cause", .message ".example.storage.Store.MissingError", .optional, none⟩],
    [("errors.display", "lookup: \x7bcause\x7d")], [], false⟩]⟩

/-- The plan of the error that shows the other one. -/
def lookupPlan : LeafPlan :=
  ⟨"LookupError", ⟨0, ["LookupError"]⟩, ⟨[.text "lookup: ", .slot], [⟨"cause", .display⟩]⟩,
    some "cause"⟩

/-- A run over both units succeeds and backs the delegation from one to the other. -/
theorem delegations_backed_lookupUnit :
    ∃ arts, (Generator.mk {} .passthrough).generate [storageUnit, lookupUnit] = .ok arts ∧
      Accessor.Delegates ⟨"cause", .display⟩ ∧
      ∃ p ∈ lookupUnit.errors {},
        Placed.plan lookupUnit (.build [storageUnit, lookupUnit]) {} p = .ok (.leaf lookupPlan) ∧
        ∃ f t e, p.message.field? "cause" = some f ∧ f.messageType? = some t ∧
          (SchemaIndex.build [storageUnit, lookupUnit]).resolve? t "example.lookup" = some e ∧
          e.StandsIn [storageUnit, lookupUnit] ∧
          e.Shown (.build [storageUnit, lookupUnit]) {} arts := by
  obtain ⟨arts, h⟩ : ∃ arts,
      (Generator.mk {} .passthrough).generate [storageUnit, lookupUnit] = .ok arts :=
    exists_eq_ok_of_isOk (by decide)
  have hplan : lookupUnit.plan (.build [storageUnit, lookupUnit]) {} =
      .ok ⟨"lookup.proto", "example.lookup", [.leaf lookupPlan]⟩ := by rfl
  have hdelegates : Accessor.Delegates ⟨"cause", .display⟩ := (Accessor.delegates_iff _).2 rfl
  exact ⟨arts, h, hdelegates, delegations_backed h lookupUnit (by simp) _ hplan lookupPlan (by simp)
    ⟨"cause", .display⟩ (by simp [lookupPlan]) hdelegates⟩

end Delegations

end ErrorTaxonomy
