import ErrorTaxonomy.Proofs.Emit.Header
import ErrorTaxonomy.Proofs.Generate.Path
import ErrorTaxonomy.Proofs.Ident.Legal

/-! # Names in the code — schema names become identifiers only

The impl blocks of an error are written from its items. The types, fields, variants and functions in them
are named after the package, the messages, the fields and the oneofs of the schema, and after the names of
types, which need not be declared anywhere. When all these names are spellable, **each of them stands in
the code as an identifier**, or as a path of identifiers (`Context.SpellableAt.legal_items`). The header
above the code repeats the file and the package as they are: it is comments as long as neither has a line
feed, and what follows a line feed is not commented out (`package_writes_item`). -/

namespace ErrorTaxonomy

/-! ## Items -/

/-- The text of a **path** of identifiers, which may go up first. -/
def IsPathText (s : String) : Prop :=
  ∃ ns, s = String.intercalate "::" ns ∧ ∀ n ∈ ns, n = "super" ∨ Ident.IsIdentifier n

/-- The names in a pattern are identifiers. -/
structure VariantPattern.Legal (v : VariantPattern) : Prop where
  unionType : ∀ n ∈ v.unionType, Ident.IsIdentifier n
  variant : Ident.IsIdentifier v.variant

/-- An expression is that of an **access** to an identifier, with a path of identifiers when it names an
enum. -/
def IsAccessText (e : String) : Prop :=
  ∃ (a : Access) (ident : String), e = a.expr ident ∧ Ident.IsIdentifier ident ∧
    ∀ path unset, a = .enumName path unset → IsPathText path.render

/-- The names in a way to show an error are identifiers. -/
def DisplayBody.Legal : DisplayBody → Prop
  | .text _ => True
  | .format _ args => ∀ e ∈ args, IsAccessText e
  | .dispatch union arms _ => Ident.IsIdentifier union ∧ ∀ v ∈ arms, v.Legal

/-- The names in the choice of a wrapped error are identifiers. -/
def SourceBody.Legal : SourceBody → Prop
  | .none => True
  | .field ident => Ident.IsIdentifier ident
  | .dispatch union arms => Ident.IsIdentifier union ∧ ∀ v ∈ arms, v.Legal

/-- The names in a constructor are identifiers. -/
structure Constructor.Legal (f : Constructor) : Prop where
  name : Ident.IsIdentifier f.name
  argument : IsPathText f.argument
  field : Ident.IsIdentifier f.field
  variant : f.variant.Legal

/-- **The names in an item** are identifiers and paths of identifiers. -/
def Item.Legal : Item → Prop
  | .display type body => IsPathText type ∧ body.Legal
  | .source type body => IsPathText type ∧ body.Legal
  | .constructors type functions => IsPathText type ∧ ∀ f ∈ functions, f.Legal
  | .conversion member sum function =>
    IsPathText member ∧ IsPathText sum ∧ Ident.IsIdentifier function

/-! ## Names of a schema -/

/-- The name of a type that is no scalar. -/
def FieldType.name? : FieldType → Option String
  | .scalar _ => none
  | .enum name => some name
  | .message name => some name

/-- The names in a field: its own, that of its oneof and the segments of that of its type. -/
def Field.names (f : Field) : List String :=
  f.name :: (f.oneof.toList ++ f.type.name?.toList.flatMap fun t => Text.dotted (Text.withoutDot t))

/-- The **names** in a unit: the segments of its package, and for each message its name, those of the
messages around it and those in its fields. -/
def SchemaUnit.names (u : SchemaUnit) : List String :=
  Ident.packageSegments u.package ++
    u.placed.flatMap fun p => p.parents ++ p.message.name :: p.message.fields.flatMap Field.names

/-- The names around a message of a unit, and its own, are names in the unit. -/
theorem SchemaUnit.mem_names_of_home {u : SchemaUnit} {p : Placed} (hp : p ∈ u.placed) {s : String}
    (hs : s ∈ Ident.packageSegments u.package ++ (p.parents ++ [p.message.name])) : s ∈ u.names := by
  rw [names, List.mem_append]
  refine (List.mem_append.1 hs).imp_right fun hs => List.mem_flatMap.2 ⟨p, hp, ?_⟩
  rw [List.mem_append, List.mem_singleton] at hs
  rw [List.mem_append, List.mem_cons]
  exact hs.imp_right .inl

/-- The names in the fields of a message of a unit are names in the unit. -/
theorem SchemaUnit.mem_names_of_field {u : SchemaUnit} {p : Placed} (hp : p ∈ u.placed) {f : Field}
    (hf : f ∈ p.message.fields) {s : String} (hs : s ∈ f.names) : s ∈ u.names := by
  refine List.mem_append_right _ (List.mem_flatMap.2 ⟨p, hp, List.mem_append_right _ ?_⟩)
  exact List.mem_cons_of_mem _ (List.mem_flatMap.2 ⟨f, hf, hs⟩)

/-- A message stands where all names are **spellable**: those around it, those in its fields, and those in
the units of the index. -/
structure Context.SpellableAt (c : Context) (us : List SchemaUnit) (m : Message) : Prop where
  index : c.index = .build us
  units : ∀ u ∈ us, ∀ s ∈ u.names, Ident.Spellable s
  home : ∀ s ∈ Ident.packageSegments c.package ++ (c.parents ++ [m.name]), Ident.Spellable s
  fields : ∀ f ∈ m.fields, ∀ s ∈ f.names, Ident.Spellable s

/-! ## Paths -/

/-- The path of a type with spellable names is one of identifiers. -/
theorem isPathText_typePath {home package : String} {parents : List String} {name : String}
    (h : ∀ s ∈ Ident.packageSegments package ++ (parents ++ [name]), Ident.Spellable s) :
    IsPathText (Ident.typePath home package parents name).render :=
  ⟨_, rfl, fun _ => Ident.isIdentifier_of_mem_segments h⟩

/-- A spellable name is not empty. -/
theorem Ident.Spellable.ne_empty {s : String} (h : Spellable s) : s ≠ "" := by
  rintro rfl
  obtain ⟨c, hc, -⟩ := h.alphanum
  cases hc

/-- **The guessed path** of a type with spellable segments is one of identifiers. -/
theorem Context.isPathText_guessPath (c : Context) {t : String}
    (h : ∀ s ∈ Text.dotted (Text.withoutDot t), Ident.Spellable s) :
    IsPathText (c.guessPath t).2.render ∧ Ident.Spellable (c.guessPath t).1 := by
  obtain ⟨package, parents, last, hsegments, hguess⟩ := c.guessPath_spec fun s hs => (h s hs).ne_empty
  rw [← hsegments] at h
  rw [hguess]
  exact ⟨isPathText_typePath h, h last (by simp)⟩

section Plans

variable {c : Context} {us : List SchemaUnit} {m : Message} (hc : c.SpellableAt us m)
include hc

/-- **The path of a type** with spellable segments is one of identifiers, whether the index knows it or
not. -/
theorem Context.SpellableAt.isPathText_typeOf {t : String}
    (h : ∀ s ∈ Text.dotted (Text.withoutDot t), Ident.Spellable s) :
    IsPathText (c.typeOf t).2.render ∧ Ident.Spellable (c.typeOf t).1 := by
  rw [Context.typeOf]
  cases hresolve : c.index.resolve? t c.package with
  | none => exact c.isPathText_guessPath h
  | some e =>
    rw [hc.index] at hresolve
    obtain ⟨hunit, hplaced⟩ := standsIn_of_resolve? hresolve
    have hhome : ∀ s ∈ Ident.packageSegments e.unit.package ++ (e.parents ++ [e.message.name]),
        Ident.Spellable s := fun s hs =>
      hc.units e.unit hunit s (SchemaUnit.mem_names_of_home hplaced hs)
    exact ⟨isPathText_typePath hhome, hhome e.message.name (by simp)⟩

/-- The path of the message itself is one of identifiers. -/
theorem Context.SpellableAt.isPathText_ownPath : IsPathText (c.ownPath m).render :=
  isPathText_typePath hc.home

/-- The identifier of a field. -/
theorem Context.SpellableAt.isIdentifier_field {f : Field} (hf : f ∈ m.fields) :
    Ident.IsIdentifier (Ident.fieldIdent f.name) :=
  (hc.fields f hf f.name List.mem_cons_self).isIdentifier_fieldIdent

/-- The segments of the type of a field. -/
theorem Context.SpellableAt.spellable_type {f : Field} (hf : f ∈ m.fields) {t : String}
    (ht : f.type.name? = some t) : ∀ s ∈ Text.dotted (Text.withoutDot t), Ident.Spellable s := by
  intro s hs
  refine hc.fields f hf s (List.mem_cons_of_mem _ (List.mem_append_right _ ?_))
  rw [ht]
  exact List.mem_flatMap.2 ⟨t, by simp, hs⟩

/-! ## Leaf errors -/

omit hc in
/-- Only the values of an enum are shown through a path, and it is that of the enum. -/
theorem Context.eq_guessPath_of_access {f : Field} {path : Ident.ItemPath} {unset : Bool}
    (h : c.access f = .enumName path unset) : ∃ t, f.type.name? = some t ∧
      path = (c.guessPath t).2 := by
  rw [Context.access] at h
  cases htype : f.type with
  | scalar t =>
    rw [htype] at h
    cases t <;> cases hlabel : f.label <;> simp [hlabel] at h
  | enum t =>
    rw [htype] at h
    refine ⟨t, rfl, ?_⟩
    cases hlabel : f.label <;> simp_all
  | message t =>
    rw [htype] at h
    cases hlabel : f.label <;> cases hrenders : c.renders t <;> simp [hlabel, hrenders] at h

/-- The expression for a field is an access to its identifier. -/
theorem Context.SpellableAt.isAccessText_accessor {f : Field} (hf : f ∈ m.fields) :
    IsAccessText (c.accessor f).expr := by
  refine ⟨c.access f, Ident.fieldIdent f.name, rfl, hc.isIdentifier_field hf, fun path unset h => ?_⟩
  obtain ⟨t, ht, rfl⟩ := Context.eq_guessPath_of_access h
  exact (c.isPathText_guessPath (hc.spellable_type hf ht)).1

/-- **The items of a leaf** hold identifiers only. -/
theorem Context.SpellableAt.legal_items_leaf {p : LeafPlan} (h : c.plan m = .ok (.leaf p)) :
    ∀ i ∈ p.items, i.Legal := by
  obtain ⟨format, -, hfits⟩ := fits_of_plan_leaf h
  have hpath : IsPathText p.path.render := hfits.path ▸ hc.isPathText_ownPath
  have hdisplay : p.displayBody.Legal := by
    cases htext : p.format.literalText? with
    | some s =>
      rw [LeafPlan.displayBody, htext]
      trivial
    | none =>
      rw [LeafPlan.displayBody, htext]
      intro e he
      obtain ⟨a, ha, rfl⟩ := List.mem_map.1 he
      obtain ⟨f, hf, rfl⟩ := exists_field_of_accessor h ha
      exact hc.isAccessText_accessor (List.mem_of_find?_eq_some hf)
  have hsource : p.sourceBody.Legal := by
    cases hcause : p.cause with
    | none =>
      rw [LeafPlan.sourceBody, hcause]
      trivial
    | some n =>
      rw [LeafPlan.sourceBody, hcause]
      obtain ⟨f, hf, -, rfl⟩ := (hfits.cause n).1 hcause
      exact hc.isIdentifier_field hf
  intro i hi
  rw [LeafPlan.items, List.mem_cons, List.mem_singleton] at hi
  obtain rfl | rfl := hi
  · exact ⟨hpath, hdisplay⟩
  · exact ⟨hpath, hsource⟩

/-! ## Sum errors -/

omit hc in
/-- A sum plan is laid out by the only oneof of its message. -/
theorem union_of_plan_sum {p : SumPlan} (h : c.plan m = .ok (.sum p)) :
    (∃ f ∈ m.fields, f.oneof = some p.union) ∧ p.unionField = Ident.fieldIdent p.union ∧
      p.unionType =
        c.parents.map Ident.fieldIdent ++ [Ident.fieldIdent m.name, Ident.typeIdent p.union] := by
  have hunion : p.union ∈ oneofNames m.fields := by
    have hd := plan_decides c m
    rw [h] at hd
    cases hd with
    | sum _ ho => simp [ho]
  rw [oneofNames, List.mem_eraseDups, List.mem_filterMap] at hunion
  obtain ⟨hfield, htype, -⟩ := layout_of_plan_sum h
  exact ⟨hunion, hfield, htype⟩

/-- The members of a sum that are messages have types and constructors of identifiers. -/
theorem Context.SpellableAt.legal_member {p : SumPlan} (h : c.plan m = .ok (.sum p)) {x : SumMember}
    (hx : x ∈ p.members) : Ident.IsIdentifier x.variant ∧ ∀ t, x.type? = some t →
      IsPathText t.path.render ∧ Ident.IsIdentifier t.constructor := by
  rw [(fits_of_plan_sum h).members] at hx
  obtain ⟨f, hf, rfl⟩ := List.mem_map.1 hx
  have hfield : f ∈ m.fields := (List.mem_filter.1 hf).1
  simp only [Context.member]
  refine ⟨(hc.fields f hfield f.name List.mem_cons_self).isIdentifier_typeIdent, fun t ht => ?_⟩
  obtain ⟨name, hname, rfl⟩ := Option.map_eq_some_iff.1 ht
  have htype : f.type.name? = some name := by
    rw [((messageType?_eq_some_iff f name).1 hname).1]
    rfl
  obtain ⟨hpath, hspellable⟩ := hc.isPathText_typeOf (hc.spellable_type hfield htype)
  exact ⟨hpath, hspellable.isIdentifier_constructor⟩

/-- The oneof of a sum is a field, and its type stands in the module of the message. -/
theorem Context.SpellableAt.legal_union {p : SumPlan} (h : c.plan m = .ok (.sum p)) :
    Ident.IsIdentifier p.unionField ∧ ∀ n ∈ p.unionType, Ident.IsIdentifier n := by
  obtain ⟨⟨f, hf, honeof⟩, hfield, htype⟩ := union_of_plan_sum h
  have hunion : Ident.Spellable p.union :=
    hc.fields f hf p.union (by simp [Field.names, honeof])
  rw [hfield, htype]
  refine ⟨hunion.isIdentifier_fieldIdent, fun n hn => ?_⟩
  obtain hn | hn := List.mem_append.1 hn
  · obtain ⟨s, hs, rfl⟩ := List.mem_map.1 hn
    exact (hc.home s (by simp [hs])).isIdentifier_fieldIdent
  · rw [List.mem_cons, List.mem_singleton] at hn
    obtain hn | hn := hn
    · rw [hn]
      exact (hc.home m.name (by simp)).isIdentifier_fieldIdent
    · rw [hn]
      exact hunion.isIdentifier_typeIdent

/-- **The items of a sum** hold identifiers only. -/
theorem Context.SpellableAt.legal_items_sum {p : SumPlan} (h : c.plan m = .ok (.sum p)) :
    ∀ i ∈ p.items, i.Legal := by
  have hpath : IsPathText p.path.render := (fits_of_plan_sum h).path ▸ hc.isPathText_ownPath
  obtain ⟨hfield, htype⟩ := hc.legal_union h
  have htyped : ∀ x ∈ p.typed, (p.pattern x.1).Legal ∧ IsPathText x.2.path.render ∧
      Ident.IsIdentifier x.2.constructor := by
    intro x hx
    obtain ⟨y, hy, hsome⟩ := List.mem_filterMap.1 hx
    obtain ⟨t, ht, rfl⟩ := Option.map_eq_some_iff.1 hsome
    obtain ⟨hvariant, hmember⟩ := hc.legal_member h hy
    exact ⟨⟨htype, hvariant⟩, hmember t ht⟩
  have harms : ∀ v ∈ p.typed.map (fun x => p.pattern x.1), v.Legal := by
    intro v hv
    obtain ⟨x, hx, rfl⟩ := List.mem_map.1 hv
    exact (htyped x hx).1
  have hhead : ∀ i ∈ [Item.display p.path.render
        (.dispatch p.unionField (p.typed.map fun x => p.pattern x.1) unknownError),
      .source p.path.render (.dispatch p.unionField (p.typed.map fun x => p.pattern x.1))],
      i.Legal := by
    intro i hi
    rw [List.mem_cons, List.mem_singleton] at hi
    obtain rfl | rfl := hi
    · exact ⟨hpath, hfield, harms⟩
    · exact ⟨hpath, hfield, harms⟩
  intro i hi
  obtain hi | hi := List.mem_append.1 hi
  · exact hhead i hi
  · split at hi
    · cases hi
    · obtain rfl | hi := List.mem_cons.1 hi
      · refine ⟨hpath, fun f hf => ?_⟩
        obtain ⟨x, hx, rfl⟩ := List.mem_map.1 hf
        obtain ⟨hpattern, hmember, hconstructor⟩ := htyped x hx
        exact ⟨hconstructor, hmember, hfield, hpattern⟩
      · obtain ⟨x, hx, rfl⟩ := List.mem_map.1 hi
        obtain ⟨-, hmember, hconstructor⟩ := htyped x hx
        exact ⟨hmember, hpath, hconstructor⟩

/-- **The items of a plan** hold identifiers only. -/
theorem Context.SpellableAt.legal_items {plan : ErrorPlan} (h : c.plan m = .ok plan) :
    ∀ i ∈ plan.items, i.Legal := by
  cases plan with
  | leaf p => exact hc.legal_items_leaf h
  | sum p => exact hc.legal_items_sum h

end Plans

/-! ## Artifacts -/

section Runs

variable {us : List SchemaUnit} {u : SchemaUnit} {o : Options}

/-- Every error of a unit stands where all names are spellable. -/
theorem spellableAt_of_placed (hus : ∀ u ∈ us, ∀ s ∈ u.names, Ident.Spellable s) (hu : u ∈ us)
    {p : Placed} (hp : p ∈ u.placed) :
    (p.context u (.build us) o).SpellableAt us p.message where
  index := rfl
  units := hus
  home s hs := hus u hu s (SchemaUnit.mem_names_of_home hp hs)
  fields _ hf s hs := hus u hu s (SchemaUnit.mem_names_of_field hp hf hs)

/-- **The plans of a unit** hold identifiers only. -/
theorem legal_of_plan_unit (hus : ∀ u ∈ us, ∀ s ∈ u.names, Ident.Spellable s) (hu : u ∈ us)
    {up : UnitPlan} (h : u.plan (.build us) o = .ok up) :
    ∀ plan ∈ up.plans, ∀ i ∈ plan.items, i.Legal := by
  obtain ⟨plans, hplans, rfl⟩ := plan_unit_eq_ok_iff.1 h
  intro plan hplan
  obtain ⟨p, hp, hok⟩ := exists_mem_of_mem_results hplans hplan
  exact (spellableAt_of_placed hus hu (List.mem_filter.1 hp).1).legal_items hok

/-- An artifact of a run without post-processing is the text of the plans of a unit. -/
theorem exists_plans_of_mem_artifacts {arts : List Artifact}
    (h : (Generator.mk o .passthrough).generate us = .ok arts) {a : Artifact} (ha : a ∈ arts) :
    ∃ u ∈ us, ∃ up, u.plan (.build us) o = .ok up ∧ a.content = Emit.artifactText u up.plans := by
  obtain ⟨results, hends, rfl⟩ := Generator.generate_eq_ok_iff.1 h
  obtain ⟨r, hr, hsome⟩ := List.mem_filterMap.1 ha
  obtain ⟨u, hu, hend⟩ := exists_mem_of_forall₂ hends.flip hr
  obtain rfl : r = some a := hsome
  generalize hok : Except.ok (some a) = result at hend
  cases hend with
  | unplanned => cases hok
  | refused => cases hok
  | empty => cases hok
  | @written plans content plan _ process =>
    cases hok
    obtain rfl := Except.ok.inj process
    exact ⟨u, hu, _, plan, rfl⟩

end Runs

/-- **Schema names become identifiers.** Every field or module and every type or variant of a spellable
name has an identifier. When all names of the units of a run are spellable, each artifact is a header and
the text of plans whose items hold identifiers and paths of identifiers only. Its first lines are those of
the header, and they are comments exactly when the further lines of the file and the package of the unit
are, as when there are none. -/
theorem names_become_identifiers (o : Options) (us : List SchemaUnit) :
    (∀ s, Ident.Spellable s →
      Ident.IsIdentifier (Ident.fieldIdent s) ∧ Ident.IsIdentifier (Ident.typeIdent s)) ∧
    ∀ arts, (Generator.mk o .passthrough).generate us = .ok arts →
      (∀ u ∈ us, ∀ s ∈ u.names, Ident.Spellable s) →
      ∀ a ∈ arts, ∃ u ∈ us, ∃ plans : List ErrorPlan,
        a.content = Emit.header u ++ String.join (plans.map Emit.planText) ∧
        (∀ plan ∈ plans, ∀ i ∈ plan.items, i.Legal) ∧
        Code.linesOf a.content.toList = Emit.headerLines u ++
          Code.linesOf (String.join (plans.map Emit.planText)).toList ∧
        ((∀ l ∈ Emit.headerLines u, Emit.IsComment l) ↔
          ∀ l ∈ Emit.furtherLines u.file ++ Emit.furtherLines u.package, Emit.IsComment l) ∧
        ('\n' ∉ u.file.toList → '\n' ∉ u.package.toList →
          Emit.furtherLines u.file ++ Emit.furtherLines u.package = []) := by
  refine ⟨fun s h => ⟨h.isIdentifier_fieldIdent, h.isIdentifier_typeIdent⟩, ?_⟩
  intro arts hgenerate hus a ha
  obtain ⟨u, hu, up, hplan, hcontent⟩ := exists_plans_of_mem_artifacts hgenerate ha
  refine ⟨u, hu, up.plans, hcontent, legal_of_plan_unit hus hu hplan, ?_, Emit.header_comments_iff u, ?_⟩
  · rw [hcontent, Emit.artifactText, Emit.linesOf_header]
  · -- without line feeds there is only the line behind each mark
    intro hfile hpackage
    rw [Emit.furtherLines_of_notMem hfile, Emit.furtherLines_of_notMem hpackage, List.append_nil]

/-- A unit of names that are no identifiers: with blanks, quotes and brackets, with a digit in front, and
keywords. -/
def oddUnit : SchemaUnit := ⟨"odd.proto", "my-pkg.crate", [
  ⟨"2 type's Error", [⟨"self", .scalar .string, .singular, none⟩,
    ⟨"as", .enum ".other pkg.\"Kind\"", .optional, none⟩],
    [("errors.display", "\x7bself\x7d: \x7bas\x7d")], [], false⟩,
  ⟨"Any(Error", [⟨"in;", .message "my-pkg.crate.2 type's Error", .singular, some "struct"⟩], [], [],
    false⟩]⟩

/-- A message of the odd unit has identifiers, and so have all names in its artifact, whose header is
comments. -/
theorem names_become_identifiers_oddUnit :
    (Ident.Spellable "2 type's Error" ∧ Ident.IsIdentifier (Ident.fieldIdent "2 type's Error") ∧
      Ident.IsIdentifier (Ident.typeIdent "2 type's Error")) ∧
    (∀ u ∈ [oddUnit], ∀ s ∈ u.names, Ident.Spellable s) ∧
    '\n' ∉ oddUnit.file.toList ∧ '\n' ∉ oddUnit.package.toList ∧
    ∃ a, (Generator.mk {} .passthrough).generate [oddUnit] = .ok [a] ∧
      ∃ plans : List ErrorPlan,
        a.content = Emit.header oddUnit ++ String.join (plans.map Emit.planText) ∧
        (∀ plan ∈ plans, ∀ i ∈ plan.items, i.Legal) ∧
        Code.linesOf a.content.toList = Emit.headerLines oddUnit ++
          Code.linesOf (String.join (plans.map Emit.planText)).toList ∧
        ∀ l ∈ Emit.headerLines oddUnit, Emit.IsComment l := by
  have hname : Ident.Spellable "2 type's Error" := by decide
  have hnames : ∀ u ∈ [oddUnit], ∀ s ∈ u.names, Ident.Spellable s := by decide
  have hfile : '\n' ∉ oddUnit.file.toList := by decide
  have hpackage : '\n' ∉ oddUnit.package.toList := by decide
  obtain ⟨a, ha⟩ : ∃ a, (Generator.mk {} .passthrough).generate [oddUnit] = .ok [a] := ⟨_, rfl⟩
  obtain ⟨hident, hartifacts⟩ := names_become_identifiers {} [oddUnit]
  obtain ⟨u, hu, plans, hcontent, hlegal, hlines, hcomments, hfurther⟩ :=
    hartifacts [a] ha hnames a List.mem_cons_self
  obtain rfl := List.mem_singleton.1 hu
  have hnone := hfurther hfile hpackage
  refine ⟨⟨hname, hident _ hname⟩, hnames, hfile, hpackage, a, ha, plans, hcontent, hlegal, hlines, ?_⟩
  rw [hcomments, hnone]
  exact List.forall_mem_nil _

/-- A unit whose package goes on with a function behind a line feed. -/
def brokenPackage : SchemaUnit := ⟨"app.proto", "app\nfn evil() \x7b\x7d", [
  ⟨"AppError", [], [("errors.display", "x")], [], false⟩]⟩

/-- **A package writes an item.** All names of the unit are spellable, and the function of its package is a
line of the artifact, which is no comment. -/
theorem package_writes_item :
    (∀ u ∈ [brokenPackage], ∀ s ∈ u.names, Ident.Spellable s) ∧
    ∃ a, (Generator.mk {} .passthrough).generate [brokenPackage] = .ok [a] ∧
      "fn evil() \x7b\x7d".toList ∈ Code.linesOf a.content.toList ∧
      ¬ Emit.IsComment "fn evil() \x7b\x7d".toList := by
  obtain ⟨a, ha⟩ : ∃ a, (Generator.mk {} .passthrough).generate [brokenPackage] = .ok [a] :=
    ⟨_, rfl⟩
  obtain ⟨u, hu, up, -, hcontent⟩ := exists_plans_of_mem_artifacts ha List.mem_cons_self
  obtain rfl := List.mem_singleton.1 hu
  have hline : "fn evil() \x7b\x7d".toList ∈ Emit.headerLines brokenPackage := by decide
  refine ⟨by decide, a, ha, ?_, by decide⟩
  rw [hcontent, Emit.artifactText, Emit.linesOf_header]
  exact List.mem_append_left _ hline

end ErrorTaxonomy
