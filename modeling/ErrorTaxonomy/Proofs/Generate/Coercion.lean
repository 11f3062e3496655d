import ErrorTaxonomy.Proofs.Generate.Run

/-! # Coercions — which types generated code takes for errors

The code of a leaf error returns its cause as an error, and the code of a sum error delegates to each
member that is a message. Neither has a fallback for a type that is no error. What holds of the types
in these two places after a run that succeeds:

* **`coercions_backed`** — the type of a cause resolves to a message with a format of its own; the type
  of a member resolves or is reported; and the run has the impls of every such message that qualifies.
* **`coerced_not_renders`** — more does not hold, since neither place asks whether the message
  qualifies. -/

namespace ErrorTaxonomy

/-! ## Types without impls -/

/-- The types that the code of a message takes for errors: that of the cause of a leaf, and those of the
members of a sum. -/
def Context.coerced (c : Context) (m : Message) : List String :=
  match c.plan m with
  | .error _ => []
  | .ok (.leaf p) =>
    m.fields.filterMap fun f => if p.cause = some f.name then f.messageType? else none
  | .ok (.sum p) => (membersOf m.fields p.union).filterMap Field.messageType?

/-- A unit with three errors: the cause of the first and the member of the second are a message that
does not qualify, and the member of the third is a message of no unit. -/
def foreignUnit : SchemaUnit := ⟨"app.proto", "app", [
  ⟨"Details", [], [("errors.display", "details")], [], false⟩,
  ⟨"ReadError", [⟨"cause", .message "app.Details", .singular, none⟩],
    [("errors.display", "failed: \x7bcause\x7d")], [], false⟩,
  ⟨"PlainError", [⟨"details", .message "app.Details", .singular, some "kind"⟩], [], [], false⟩,
  ⟨"AppError", [⟨"lost", .message "other.LostError", .singular, some "kind"⟩], [], [], false⟩]⟩

/-- A run over the unit succeeds, although each of its errors takes for an error what is none. -/
theorem coerced_not_renders :
    (∃ arts, (Generator.mk {} .passthrough).generate [foreignUnit] = .ok arts) ∧
    (foreignUnit.errors {}).map (·.message.name) = ["ReadError", "PlainError", "AppError"] ∧
    ∀ p ∈ foreignUnit.errors {},
      ∃ t ∈ (p.context foreignUnit (.build [foreignUnit]) {}).coerced p.message,
        (p.context foreignUnit (.build [foreignUnit]) {}).renders t = false :=
  ⟨exists_eq_ok_of_isOk (by decide), by decide, by decide⟩

/-! ## Types with impls -/

/-- A type resolves to an entry, and the artifacts hold its impls when its message qualifies. -/
structure Context.Backs (c : Context) (arts : List Artifact) (t : String) (e : IndexEntry) : Prop where
  resolves : c.index.resolve? t c.package = some e
  emits : c.options.qualifies e.message = true → Emits c.index c.options arts e

/-- The type of the **cause** of a leaf plan resolves to a message with a format of its own. -/
def Context.CauseBacked (c : Context) (arts : List Artifact) (m : Message) : Prop :=
  ∀ plan name, c.plan m = .ok (.leaf plan) → plan.cause = some name →
    ∃ f ∈ m.fields, f.name = name ∧ ∃ t e format, f.messageType? = some t ∧ c.Backs arts t e ∧
      e.message.HasFormat c.options.displayKey format

/-- The type of every **member** of a sum plan that is a message resolves or is reported. -/
def Context.MembersBacked (c : Context) (arts : List Artifact) (events : List Event) (m : Message) :
    Prop :=
  ∀ plan, c.plan m = .ok (.sum plan) → ∀ mem ∈ plan.members, ∀ type, mem.type? = some type →
    ∃ f ∈ m.fields, mem = c.member f ∧ ∃ t, f.messageType? = some t ∧
      ((∃ e, c.Backs arts t e) ∨
        c.index.resolve? t c.package = none ∧ .unresolvedMember t ∈ events)

section Coercions

variable {o : Options} {us : List SchemaUnit} {arts : List Artifact} {u : SchemaUnit} {p : Placed}

/-- What a type resolves to backs it after a run that succeeds. -/
theorem backs_of_resolve? (h : (Generator.mk o .passthrough).generate us = .ok arts) {t : String}
    {e : IndexEntry} (he : (SchemaIndex.build us).resolve? t u.package = some e) :
    (p.context u (.build us) o).Backs arts t e :=
  ⟨he, emits_of_standsIn h (standsIn_of_resolve? he)⟩

/-- A member of a sum whose type is in no unit is reported by the run. -/
theorem unresolvedMember_mem_events (h : (Generator.mk o .passthrough).generate us = .ok arts)
    (hu : u ∈ us) (hp : p ∈ u.errors o) {plan : SumPlan}
    (hplan : (p.context u (.build us) o).plan p.message = .ok (.sum plan)) {f : Field}
    (hf : f ∈ membersOf p.message.fields plan.union) {t : String} (ht : f.messageType? = some t)
    (hnone : (SchemaIndex.build us).resolve? t u.package = none) :
    .unresolvedMember t ∈ (Generator.mk o .passthrough).events (.build us) u := by
  obtain ⟨plans, hunit, -⟩ := exists_plans_of_generate h hu
  obtain ⟨_, hplans, -⟩ := plan_unit_eq_ok_iff.1 hunit
  have hevents := planEvents_subset hplans hp
  refine List.mem_append_left _ (hevents ?_)
  rw [Context.planEvents, kind_of_plan_sum hplan]
  refine List.mem_filterMap.2 ⟨f, hf, ?_⟩
  rw [ht, Option.bind_some, if_pos]
  exact Option.isNone_iff_eq_none.2 hnone

/-- **Coercions are backed.** After a run that succeeds, the type of the cause of every leaf plan resolves
to a message with a format of its own, and the type of every member of a sum plan that is a message
resolves or is reported. What such a type resolves to has its impls in the artifacts of the run when
it qualifies. -/
theorem coercions_backed (h : (Generator.mk o .passthrough).generate us = .ok arts) :
    ∀ u ∈ us, ∀ p ∈ u.errors o,
      (p.context u (.build us) o).CauseBacked arts p.message ∧
      (p.context u (.build us) o).MembersBacked arts
        ((Generator.mk o .passthrough).events (.build us) u) p.message := by
  intro u hu p hp
  constructor
  · intro plan name hplan hname
    obtain ⟨_, -, hfits⟩ := fits_of_plan_leaf hplan
    obtain ⟨f, hf, hcause, hfname⟩ := (hfits.cause name).1 hname
    obtain ⟨t, e, format, htype, he, hformat⟩ := hcause.hasFormat
    have ht := (messageType?_eq_some_iff f t).2 ⟨htype, hcause.single⟩
    exact ⟨f, hf, hfname, t, e, format, ht, backs_of_resolve? h he, hformat⟩
  · intro plan hplan mem hmem type htype
    rw [(fits_of_plan_sum hplan).members] at hmem
    obtain ⟨f, hf, rfl⟩ := List.mem_map.1 hmem
    obtain ⟨t, ht, -⟩ := Option.map_eq_some_iff.1 htype
    refine ⟨f, (List.mem_filter.1 hf).1, rfl, t, ht, ?_⟩
    -- nothing asks whether the message qualifies: a member that resolves is taken as it is
    cases he : (SchemaIndex.build us).resolve? t u.package with
    | some e => exact .inl ⟨e, backs_of_resolve? h he⟩
    | none => exact .inr ⟨he, unresolvedMember_mem_events h hu hp hplan hf ht he⟩

/-- A unit with a leaf error, one that wraps it and a sum over both of them. -/
def layeredUnit : SchemaUnit := ⟨"app.proto", "app", [
  ⟨"NotFoundError", [⟨"entity", .scalar .string, .singular, none⟩],
    [("errors.display", "not found: {entity}")], [], false⟩,
  ⟨"IOError", [⟨"cause", .message "app.NotFoundError", .singular, none⟩],
    [("errors.display", "could not read: {cause}")], [], false⟩,
  ⟨"AppError", [⟨"io", .message "app.IOError", .singular, some "kind"⟩,
    ⟨"lost", .message ".app.NotFoundError", .singular, some "kind"⟩], [], [], false⟩]⟩

/-- A run over the layered unit succeeds and backs its coercions. -/
theorem coercions_backed_layeredUnit :
    ∃ arts, (Generator.mk {} .passthrough).generate [layeredUnit] = .ok arts ∧
      ∀ p ∈ layeredUnit.errors {},
        (p.context layeredUnit (.build [layeredUnit]) {}).CauseBacked arts p.message ∧
        (p.context layeredUnit (.build [layeredUnit]) {}).MembersBacked arts
          ((Generator.mk {} .passthrough).events (.build [layeredUnit]) layeredUnit) p.message := by
  obtain ⟨arts, h⟩ : ∃ arts, (Generator.mk {} .passthrough).generate [layeredUnit] = .ok arts :=
    exists_eq_ok_of_isOk (by decide)
  exact ⟨arts, h, coercions_backed h layeredUnit (List.mem_singleton_self layeredUnit)⟩

end Coercions

end ErrorTaxonomy
