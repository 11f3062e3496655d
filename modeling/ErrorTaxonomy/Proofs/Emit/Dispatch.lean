import Mathlib.Data.List.Nodup
import ErrorTaxonomy.Proofs.Emit.Impls
import ErrorTaxonomy.Proofs.Generate.Conversion

/-! # Dispatch — what the impl blocks of a sum error do

The text of a sum plan is read as impl blocks (`readImpls?_planText`): two matches over the union with the
same patterns, and for every member that is a message a function that makes an error of it and a
conversion that calls this function. A **match** is evaluated arm by arm, and the first pattern that takes
what its field holds decides. So the four lists of the text stay in step (`sum_dispatches`): an error that is
made by one of the functions shows and wraps its payload, and every other error has the fallback.
-/

namespace ErrorTaxonomy

namespace Emitted

open Text (between?)

/-! ## Evaluation -/

section Evaluation

variable {α : Type}

/-- What the fields of an error **hold**: nothing, or a variant with its payload. -/
abbrev Held (α : Type) := String → Option (String × α)

/-- Whether a pattern takes what a field holds. -/
def Pattern.takes : Pattern → Option (String × α) → Bool
  | .rest, _ => true
  | .variant path, some (v, _) => path = v
  | .variant _, none => false

/-- The payload that a pattern binds. -/
def Pattern.bound? : Pattern → Option (String × α) → Option α
  | .variant _, some (_, a) => some a
  | _, _ => none

/-- The position of the **first** arm that takes what the field holds. -/
def Match.chosen? (m : Match) (e : Held α) : Option Nat :=
  m.arms.findIdx? fun a => a.pattern.takes (e m.field)

/-- The body of the arm that is chosen and the payload that it binds. -/
def Match.run? (m : Match) (e : Held α) : Option (String × Option α) := do
  let i ← m.chosen? e
  let a ← m.arms[i]?
  return (a.body, a.pattern.bound? (e m.field))

/-- The text in a call that writes a literal. -/
def written? (body : String) : Option String :=
  match (between? "f.write_str(" ")" body).bind fun s => Text.readLiteral? s.toList with
  | some (text, []) => some (String.ofList text)
  | _ => none

/-- What an error **shows**, where `shows` says what a payload does. -/
def Match.shown? (m : Match) (shows : α → String) (e : Held α) : Option String :=
  (m.run? e).bind fun r =>
    if r.1 = "::std::fmt::Display::fmt(v, f)" then r.2.map shows else written? r.1

/-- Which payload an error **wraps**, if any. -/
def Match.wrapped? (m : Match) (e : Held α) : Option (Option α) :=
  (m.run? e).bind fun r =>
    if r.1 = "::std::option::Option::Some(v as &(dyn ::std::error::Error + 'static))" then
      r.2.map some
    else if r.1 = "::std::option::Option::None" then some none
    else none

/-- The error that a function **makes** of a payload. -/
def Maker.made (f : Maker) (a : α) : Held α :=
  fun field => if field = f.field then some (f.variant, a) else none

section Union

variable {field body last : String} {variants : List String} {e : Held α}

/-- A variant that is listed chooses its own arm. -/
theorem chosen?_unionMatch (hvariants : variants.Nodup) {i : Nat} {v : String} {a : α}
    (hv : variants[i]? = some v) (he : e field = some (v, a)) :
    (unionMatch field body last variants).chosen? e = some i := by
  obtain ⟨hi, hget⟩ := List.getElem?_eq_some_iff.1 hv
  have hfirst : variants.findIdx? (fun w => (Pattern.variant w).takes (some (v, a))) = some i := by
    rw [List.findIdx?_eq_some_iff_getElem]
    refine ⟨hi, by simp [Pattern.takes, hget], fun j hj => ?_⟩
    -- the arms before are those of other variants
    have hne : variants[j] ≠ v := by
      rw [← hget, Ne, hvariants.getElem_inj_iff]
      omega
    simpa [Pattern.takes] using hne
  show List.findIdx? (fun arm : Arm => arm.pattern.takes (e field)) (_ ++ _) = some i
  rw [he, List.findIdx?_append, List.findIdx?_map]
  exact congrArg (Option.or · _) hfirst

/-- The arm of a variant that is chosen binds the payload. -/
theorem run?_unionMatch (hvariants : variants.Nodup) {i : Nat} {v : String} {a : α}
    (hv : variants[i]? = some v) (he : e field = some (v, a)) :
    (unionMatch field body last variants).run? e = some (body, some a) := by
  obtain ⟨hi, hget⟩ := List.getElem?_eq_some_iff.1 hv
  have harm : (unionMatch field body last variants).arms[i]? = some ⟨.variant v, body⟩ := by
    unfold unionMatch
    rw [List.getElem?_append_left (by simpa using hi), List.getElem?_map, hv]
    rfl
  unfold Match.run?
  rw [chosen?_unionMatch hvariants hv he]
  simp only [Option.bind_eq_bind, Option.bind_some, harm]
  show some (body, Pattern.bound? (.variant v) (e field)) = _
  rw [he]
  rfl

/-- What is no listed variant is left to the last arm. -/
theorem run?_unionMatch_rest (he : ∀ v a, e field = some (v, a) → v ∉ variants) :
    (unionMatch field body last variants).run? e = some (last, none) := by
  have hnone : variants.findIdx? (fun w => (Pattern.variant w).takes (e field)) = none := by
    rw [List.findIdx?_eq_none_iff]
    intro w hw
    cases hheld : e field with
    | none => rfl
    | some va =>
      obtain ⟨v, a⟩ := va
      have hne : w ≠ v := fun heq => he v a hheld (heq ▸ hw)
      simpa [Pattern.takes] using hne
  have hchosen : (unionMatch field body last variants).chosen? e = some variants.length := by
    show List.findIdx? (fun arm : Arm => arm.pattern.takes (e field)) (_ ++ _) = _
    rw [List.findIdx?_append, List.findIdx?_map]
    show Option.or (variants.findIdx? fun w => (Pattern.variant w).takes (e field)) _ = _
    rw [hnone, List.length_map]
    simp [Pattern.takes]
  unfold Match.run?
  rw [hchosen]
  simp [unionMatch, Pattern.bound?]

end Union

end Evaluation

end Emitted

/-! ## Sum plans -/

open Emitted

namespace SumPlan

variable (p : SumPlan)

/-- The path of the variant of a member. -/
def variantPath (x : SumMember) : String := (p.pattern x).path

/-- The variants of the members that are messages. -/
def typedVariants : List String := p.typed.map fun x => p.variantPath x.1

/-- The match of the display function: a message shows itself. -/
def displayMatch : Match :=
  unionMatch p.unionField "::std::fmt::Display::fmt(v, f)" "f.write_str(\"unknown error\")"
    p.typedVariants

/-- The match of the source function: a message is the wrapped error. -/
def sourceMatch : Match :=
  unionMatch p.unionField
    "::std::option::Option::Some(v as &(dyn ::std::error::Error + 'static))"
    "::std::option::Option::None" p.typedVariants

/-- The functions that make a sum error, one for each member that is a message. -/
def makers : List Maker :=
  p.typed.map fun x =>
    ⟨x.2.constructor, x.2.path.render, p.unionField, p.variantPath x.1, p.hasOtherFields⟩

/-- The **impl blocks** of a sum error: the two matches and, where there are members to make it of, the
functions and a conversion for each of them. -/
def impls : List Impl :=
  .display p.path.render p.displayMatch :: .source p.path.render p.sourceMatch ::
    if p.typed = [] then []
    else .makers p.path.render p.makers ::
      p.makers.map fun f => .conversion f.argument p.path.render f.name

/-- A message among the members has its type. -/
theorem mem_typed_iff {x : SumMember × MemberType} :
    x ∈ p.typed ↔ x.1 ∈ p.members ∧ x.1.type? = some x.2 := by
  obtain ⟨y, t⟩ := x
  unfold typed
  rw [List.mem_filterMap]
  constructor
  · rintro ⟨z, hz, hsome⟩
    obtain ⟨s, hs, heq⟩ := Option.map_eq_some_iff.1 hsome
    obtain ⟨rfl, rfl⟩ := Prod.mk.inj heq
    exact ⟨hz, hs⟩
  · rintro ⟨hy, ht⟩
    exact ⟨y, hy, by rw [show y.type? = some t from ht]; rfl⟩

/-- The members with types are the messages among the members, in order. -/
theorem map_fst_typed : p.typed.map (·.1) = p.members.filter (·.type?.isSome) := by
  unfold typed
  rw [List.map_filterMap, ← List.filterMap_eq_filter]
  congr 1
  funext x
  cases hx : x.type? <;> simp [hx, Option.guard]

/-- Members with one path have one variant. -/
theorem variantPath_inj {x y : SumMember} :
    p.variantPath x = p.variantPath y ↔ x.variant = y.variant := by
  unfold variantPath VariantPattern.path pattern
  exact String.append_right_inj _

/-- The variants of messages are those of the members that are messages. -/
theorem typedVariants_eq :
    p.typedVariants = (p.members.filter (·.type?.isSome)).map p.variantPath := by
  rw [← map_fst_typed, List.map_map]
  rfl

section Distinct

variable {p} (hdistinct : (p.members.map (·.variant)).Nodup)
include hdistinct

/-- Distinct variants have distinct paths. -/
theorem nodup_typedVariants : p.typedVariants.Nodup := by
  have hmembers : p.members.Nodup := hdistinct.of_map
  rw [typedVariants_eq]
  refine (hmembers.filter _).map_on fun x hx y hy heq => ?_
  exact List.inj_on_of_nodup_map hdistinct (List.mem_filter.1 hx).1 (List.mem_filter.1 hy).1
    (p.variantPath_inj.1 heq)

/-- Among distinct variants, that of a member that is no message is not one of a message. -/
theorem variantPath_notMem_typedVariants {x : SumMember} (hx : x ∈ p.members)
    (htype : x.type? = none) : p.variantPath x ∉ p.typedVariants := by
  rw [typedVariants_eq]
  intro hmem
  obtain ⟨y, hy, heq⟩ := List.mem_map.1 hmem
  obtain ⟨hymem, hsome⟩ := List.mem_filter.1 hy
  obtain rfl := List.inj_on_of_nodup_map hdistinct hymem hx (p.variantPath_inj.1 heq)
  simp [htype] at hsome

variable {α : Type} (shows : α → String)

/-- An error that is **made** by a function chooses the arm of this function in both matches, shows its
payload and wraps it. -/
theorem dispatch_made {i : Nat} {f : Maker} (hf : p.makers[i]? = some f) (a : α) :
    p.displayMatch.chosen? (f.made a) = some i ∧ p.sourceMatch.chosen? (f.made a) = some i ∧
      p.displayMatch.shown? shows (f.made a) = some (shows a) ∧
      p.sourceMatch.wrapped? (f.made a) = some (some a) := by
  unfold makers at hf
  rw [List.getElem?_map] at hf
  obtain ⟨x, hx, rfl⟩ := Option.map_eq_some_iff.1 hf
  have hvariant : p.typedVariants[i]? = some (p.variantPath x.1) := by
    unfold typedVariants
    rw [List.getElem?_map, hx]
    rfl
  have hnodup := nodup_typedVariants hdistinct
  -- the function fills the field of the union, with the variant of its own member
  have hheld : Maker.made ⟨x.2.constructor, x.2.path.render, p.unionField, p.variantPath x.1,
      p.hasOtherFields⟩ a p.unionField = some (p.variantPath x.1, a) := if_pos rfl
  refine ⟨chosen?_unionMatch hnodup hvariant hheld, chosen?_unionMatch hnodup hvariant hheld, ?_, ?_⟩
  · unfold Match.shown? displayMatch
    rw [run?_unionMatch hnodup hvariant hheld]
    rfl
  · unfold Match.wrapped? sourceMatch
    rw [run?_unionMatch hnodup hvariant hheld]
    rfl

/-- An error whose union is **not set**, or holds a member that is no message, shows the fallback and
wraps nothing. -/
theorem dispatch_rest {e : Held α} (he : e p.unionField = none ∨
      ∃ x ∈ p.members, x.type? = none ∧ ∃ a, e p.unionField = some (p.variantPath x, a)) :
    p.displayMatch.shown? shows e = some "unknown error" ∧ p.sourceMatch.wrapped? e = some none := by
  have hrest : ∀ v a, e p.unionField = some (v, a) → v ∉ p.typedVariants := by
    intro v a hv
    rcases he with hnone | ⟨x, hx, htype, b, hb⟩
    · rw [hnone] at hv
      cases hv
    · rw [hb] at hv
      obtain ⟨rfl, -⟩ := Prod.mk.inj (Option.some.inj hv)
      exact variantPath_notMem_typedVariants hdistinct hx htype
  have hwritten : written? "f.write_str(\"unknown error\")" = some "unknown error" := by decide
  have hne : "f.write_str(\"unknown error\")" ≠ "::std::fmt::Display::fmt(v, f)" := by decide
  constructor
  · unfold Match.shown? displayMatch
    rw [run?_unionMatch_rest hrest, Option.bind_some, if_neg hne, hwritten]
  · unfold Match.wrapped? sourceMatch
    rw [run?_unionMatch_rest hrest]
    rfl

end Distinct

/-- The text of a sum is that of its messages: other members leave no trace in it. -/
theorem planText_filter :
    Emit.planText (.sum { p with members := p.members.filter (·.type?.isSome) }) =
      Emit.planText (.sum p) := by
  have htyped : typed { p with members := p.members.filter (·.type?.isSome) } = p.typed := by
    unfold typed
    rw [List.filterMap_filter]
    congr 1
    funext x
    cases x.type? <;> rfl
  have hitems : items { p with members := p.members.filter (·.type?.isSome) } = p.items := by
    unfold items
    rw [htyped]
    rfl
  exact congrArg (fun is => Code.renderAll 0 (Emit.itemsCode is)) hitems

end SumPlan

section Plans

variable {c : Context} {m : Message} {p : SumPlan} (h : c.plan m = .ok (.sum p))
include h

/-- The type of a sum is a spelled path. -/
theorem pathSpelled_of_plan_sum : Ident.PathSpelled p.path.render := by
  rw [(fits_of_plan_sum h).path]
  exact Ident.pathSpelled_typePath c.package c.package c.parents m.name

/-- The field of a union is spelled. -/
theorem spelled_unionField : Ident.Spelled p.unionField := by
  rw [(layout_of_plan_sum h).1]
  exact Ident.spelled_fieldIdent p.union

/-- The variant of a member is a spelled path. -/
theorem pathSpelled_variantPath {x : SumMember} (hx : x ∈ p.members) :
    Ident.PathSpelled (p.variantPath x) := by
  obtain ⟨-, htype, -⟩ := layout_of_plan_sum h
  have hvariant : Ident.Spelled x.variant := by
    rw [(fits_of_plan_sum h).members] at hx
    obtain ⟨f, -, rfl⟩ := List.mem_map.1 hx
    dsimp only [Context.member]
    exact Ident.spelled_typeIdent f.name
  have hunion : Ident.PathSpelled (String.intercalate "::" p.unionType) := by
    rw [htype]
    refine Ident.pathSpelled_intercalate fun n hn => ?_
    simp only [List.mem_append, List.mem_map, List.mem_cons, List.not_mem_nil, or_false] at hn
    rcases hn with ⟨s, -, hn⟩ | hn | hn
    · rw [← hn]
      exact Ident.spelled_fieldIdent s
    · rw [hn]
      exact Ident.spelled_fieldIdent m.name
    · rw [hn]
      exact Ident.spelled_typeIdent p.union
  have hcolons : Ident.PathSpelled "::" := by decide
  exact (hunion.append hcolons).append hvariant.path

/-- The type and the constructor of a member are spelled. -/
theorem spelled_of_mem_typed {x : SumMember × MemberType} (hx : x ∈ p.typed) :
    Ident.PathSpelled x.2.path.render ∧ Ident.Spelled x.2.constructor := by
  obtain ⟨hmem, htype⟩ := p.mem_typed_iff.1 hx
  rw [(fits_of_plan_sum h).members] at hmem
  obtain ⟨f, -, hf⟩ := List.mem_map.1 hmem
  rw [← hf] at htype
  obtain ⟨t, -, ht⟩ := Option.map_eq_some_iff.1 htype
  obtain ⟨package, parents, hpath⟩ := exists_typeOf_eq c t
  rw [← ht]
  have hfrom : Ident.Spelled "from_" := by decide
  refine ⟨?_, hfrom.append (Ident.spelled_snakeCase _)⟩
  show Ident.PathSpelled (c.typeOf t).2.render
  rw [hpath]
  exact Ident.pathSpelled_typePath c.package package parents (c.typeOf t).1

/-- The functions of a sum have names of their own. -/
theorem nodup_name_makers : (p.makers.map (·.name)).Nodup := by
  have hnodup := nodup_constructors (not_shares_of_plan_sum h)
  rw [← (fits_of_plan_sum h).members] at hnodup
  have hnames : p.makers.map (·.name) = p.members.filterMap SumMember.constructor? := by
    unfold SumPlan.makers SumPlan.typed
    rw [List.map_map, List.map_filterMap]
    congr 1
    funext x
    show (x.type?.map _).map _ = x.type?.map _
    rw [Option.map_map]
    rfl
  rw [hnames]
  exact hnodup

/-- The constructors of a sum read as its functions. -/
theorem readsAs_makers_of_plan_sum :
    ReadsAs (.constructors p.path.render (p.typed.map fun x => p.constructor x.1 x.2))
      (.makers p.path.render p.makers) := by
  have hspelled : ∀ f ∈ p.typed.map (fun x => p.constructor x.1 x.2), Ident.Spelled f.name ∧
      Ident.PathSpelled f.argument ∧ Ident.Spelled f.field ∧ Ident.PathSpelled f.variant.path := by
    intro f hf
    obtain ⟨x, hx, rfl⟩ := List.mem_map.1 hf
    obtain ⟨hpath, hname⟩ := spelled_of_mem_typed h hx
    exact ⟨hname, hpath, spelled_unionField h,
      pathSpelled_variantPath h (p.mem_typed_iff.1 hx).1⟩
  have hmakers := readsAs_makers (pathSpelled_of_plan_sum h) hspelled
  rw [List.map_map] at hmakers
  exact hmakers

/-- The conversions of a sum read as conversions that call its functions. -/
theorem forall₂_readsAs_conversions : List.Forall₂ ReadsAs
    (p.typed.map fun x => .conversion x.2.path.render p.path.render x.2.constructor)
    (p.makers.map fun f => .conversion f.argument p.path.render f.name) := by
  unfold SumPlan.makers
  rw [List.map_map, List.forall₂_map_left_iff, List.forall₂_map_right_iff, List.forall₂_same]
  intro x hx
  obtain ⟨hpath, hname⟩ := spelled_of_mem_typed h hx
  exact readsAs_conversion hpath (pathSpelled_of_plan_sum h) hname

/-- The items of a sum read as its impl blocks. -/
theorem forall₂_readsAs_items : List.Forall₂ ReadsAs p.items p.impls := by
  have htype := pathSpelled_of_plan_sum h
  have hfield := spelled_unionField h
  have harms : ∀ v ∈ p.typed.map (fun x => p.pattern x.1), Ident.PathSpelled v.path := by
    intro v hv
    obtain ⟨x, hx, rfl⟩ := List.mem_map.1 hv
    exact pathSpelled_variantPath h (p.mem_typed_iff.1 hx).1
  have hpaths : (p.typed.map fun x => p.pattern x.1).map VariantPattern.path = p.typedVariants :=
    List.map_map
  have hfallback : Emit.writeText unknownError = "f.write_str(\"unknown error\")" := by decide
  have hdisplay := readsAs_display unknownError htype hfield harms
  have hsource := readsAs_source htype hfield harms
  rw [hpaths] at hdisplay hsource
  rw [hfallback] at hdisplay
  refine .cons hdisplay (.cons hsource ?_)
  -- behind the two matches there are functions and conversions, or nothing
  have hmakers := readsAs_makers_of_plan_sum h
  have hconversions := forall₂_readsAs_conversions h
  cases htyped : p.typed with
  | nil => exact .nil
  | cons x xs =>
    rw [if_neg (List.cons_ne_nil x xs)]
    rw [htyped] at hmakers hconversions
    exact .cons hmakers hconversions

/-- **The text of a sum** is read as its impl blocks. -/
theorem readImpls?_planText : readImpls? (Emit.planText (.sum p)) = some p.impls :=
  readImpls?_itemsCode (forall₂_readsAs_items h)

/-- **Sum dispatch.** The text of a sum plan reads as its impl blocks: a display match and a source match
with the same patterns, one for each member that is a message and in the order of the members, and with one
last arm for everything else; where there are messages, a function for each of them that makes the variant of
its pattern, and a conversion for each that calls the function by its name, which no other function has. When
the variants are distinct, an error made by a function chooses its arm, shows the payload and wraps it, and an
error without a member, or with one that is no message, shows the fallback and wraps nothing. Members that
are no messages leave no trace in the text. -/
theorem sum_dispatches :
    readImpls? (Emit.planText (.sum p)) = some p.impls ∧
    (p.makers.map (·.name)).Nodup ∧
    ((p.members.map (·.variant)).Nodup → ∀ {α : Type} (shows : α → String),
      (∀ i f, p.makers[i]? = some f → ∀ a : α,
        p.displayMatch.chosen? (f.made a) = some i ∧ p.sourceMatch.chosen? (f.made a) = some i ∧
        p.displayMatch.shown? shows (f.made a) = some (shows a) ∧
        p.sourceMatch.wrapped? (f.made a) = some (some a)) ∧
      ∀ e : Held α, (e p.unionField = none ∨
          ∃ x ∈ p.members, x.type? = none ∧ ∃ a, e p.unionField = some (p.variantPath x, a)) →
        p.displayMatch.shown? shows e = some "unknown error" ∧ p.sourceMatch.wrapped? e = some none) ∧
    Emit.planText (.sum { p with members := p.members.filter (·.type?.isSome) }) =
      Emit.planText (.sum p) := by
  refine ⟨readImpls?_planText h, nodup_name_makers h, fun hdistinct α shows => ⟨?_, ?_⟩,
    p.planText_filter⟩
  · intro i f hf a
    exact SumPlan.dispatch_made hdistinct shows hf a
  · intro e he
    exact SumPlan.dispatch_rest hdistinct shows he

end Plans

/-- A sum over a text and two messages, with a field outside of it. -/
def mixedError : Message := ⟨"NetError",
  ⟨"code", .scalar .int32, .singular, none⟩ :: plainMembers, [], [], false⟩

/-- The plan of that sum. -/
def mixedPlan : SumPlan :=
  ⟨"NetError", ⟨0, ["NetError"]⟩, "kind", "kind", ["net_error", "Kind"], true, [
    ⟨"note", "Note", none⟩,
    ⟨"lost", "Lost", some ⟨"LostError", ⟨0, ["LostError"]⟩, "from_lost_error"⟩⟩,
    ⟨"first", "First", some ⟨"net.TimeoutError", ⟨0, ["TimeoutError"]⟩, "from_timeout_error"⟩⟩]⟩

/-- The text of the mixed sum reads as two matches, two functions and two conversions; the second function
fills the second arm, and a note has the fallback. -/
theorem sum_dispatches_mixedError :
    netContext.plan mixedError = .ok (.sum mixedPlan) ∧
    (mixedPlan.members.map (·.variant)).Nodup ∧
    (∃ display source, readImpls? (Emit.planText (.sum mixedPlan)) = some [
      .display "NetError" display, .source "NetError" source,
      .makers "NetError" [
        ⟨"from_lost_error", "LostError", "kind", "net_error::Kind::Lost", true⟩,
        ⟨"from_timeout_error", "TimeoutError", "kind", "net_error::Kind::First", true⟩],
      .conversion "LostError" "NetError" "from_lost_error",
      .conversion "TimeoutError" "NetError" "from_timeout_error"]) ∧
    mixedPlan.displayMatch.chosen? (Maker.made
      ⟨"from_timeout_error", "TimeoutError", "kind", "net_error::Kind::First", true⟩ 7) = some 1 ∧
    mixedPlan.displayMatch.shown? (fun n : Nat => n.repr)
      (fun _ => some ("net_error::Kind::Note", 7)) = some "unknown error" := by
  have hplan : netContext.plan mixedError = .ok (.sum mixedPlan) := by decide
  have hdistinct : (mixedPlan.members.map (·.variant)).Nodup := by decide
  obtain ⟨hread, -, hdispatch, -⟩ := sum_dispatches hplan
  obtain ⟨hmade, hrest⟩ := hdispatch hdistinct fun n : Nat => n.repr
  exact ⟨hplan, hdistinct, ⟨_, _, hread⟩, (hmade 1 _ rfl 7).1,
    (hrest _ (.inr ⟨_, List.mem_cons_self, rfl, 7, rfl⟩)).1⟩

end ErrorTaxonomy
