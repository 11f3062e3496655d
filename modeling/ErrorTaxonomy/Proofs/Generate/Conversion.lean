import ErrorTaxonomy.Proofs.Generate.Coercion
import ErrorTaxonomy.Proofs.Ident.CamelCase
import ErrorTaxonomy.Proofs.Ident.Path
import ErrorTaxonomy.Proofs.Plan.Constructors

/-! # Conversions — the types that a sum converts from

A sum has a conversion from the type of every member that is a message. The planner tells members apart by
their constructors, which are in snake case, while the conversions go by paths, which end in camel case.
For **plain** names the one determines the other, so constructors of their own keep the conversions
apart (`conversions_apart`). Other names have no such guard, and a member may refer back to the sum
(`conversions_overlap`). -/

namespace ErrorTaxonomy

namespace Context

/-- The item that a path denotes when it is read in the package of a message. -/
def itemOf (c : Context) (p : Ident.ItemPath) : Option (List String) :=
  Ident.follow (Ident.moduleOf c.package) p.render

/-- Two paths are **apart** when they denote items, and these are different. -/
def Apart (c : Context) (p q : Ident.ItemPath) : Prop :=
  ∃ i j, c.itemOf p = some i ∧ c.itemOf q = some j ∧ i ≠ j

/-- The type of a member **refers back** to the sum: it stands in the module of the sum and has the
constructor that the name of the sum gives. -/
structure RefersBack (c : Context) (m : Message) (t : String) : Prop where
  constructor : (c.memberType t).constructor = "from_" ++ Ident.snakeCase m.name
  module : ∃ i j, c.itemOf (c.memberType t).path = some i ∧ c.itemOf (c.ownPath m) = some j ∧
    i.dropLast = j.dropLast

end Context

section Conversions

variable {c : Context} {m : Message}

/-! ## The items of types -/

/-- The path of a type is that of its simple name in some package. -/
theorem exists_typeOf_eq (c : Context) (t : String) : ∃ package parents,
    (c.typeOf t).2 = Ident.typePath c.package package parents (c.typeOf t).1 := by
  rw [Context.typeOf]
  cases c.index.resolve? t c.package with
  | some e => exact ⟨_, _, rfl⟩
  | none =>
    dsimp only
    rw [Context.guessPath]
    exact ⟨_, _, rfl⟩

/-- The type of a member denotes an item that is named after it. -/
theorem exists_itemOf_memberType (c : Context) (t : String) : ∃ module,
    c.itemOf (c.memberType t).path = some (module ++ [Ident.typeIdent (c.typeOf t).1]) := by
  obtain ⟨package, parents, hpath⟩ := exists_typeOf_eq c t
  have hmember : (c.memberType t).path = (c.typeOf t).2 := rfl
  rw [Context.itemOf, hmember, hpath, Ident.follow_typePath]
  exact ⟨_, rfl⟩

/-- The sum denotes an item that is named after it. -/
theorem exists_itemOf_ownPath (c : Context) (m : Message) : ∃ module,
    c.itemOf (c.ownPath m) = some (module ++ [Ident.typeIdent m.name]) :=
  ⟨_, Ident.follow_typePath c.package c.package c.parents m.name⟩

/-! ## Members -/

/-- The members of a sum plan share no constructor. -/
theorem not_shares_of_plan_sum {p : SumPlan} (h : c.plan m = .ok (.sum p)) :
    ¬ c.SharesConstructor (membersOf m.fields p.union) := by
  have hd := plan_decides c m
  rw [h] at hd
  cases hd with
  | sum _ _ hs _ => exact hs

/-- Types with different constructors are apart when their names are plain. -/
theorem apart_of_constructor_ne {s t : String} (hs : Ident.Plain (c.typeOf s).1)
    (ht : Ident.Plain (c.typeOf t).1)
    (hne : (c.memberType s).constructor ≠ (c.memberType t).constructor) :
    c.Apart (c.memberType s).path (c.memberType t).path := by
  obtain ⟨i, hi⟩ := exists_itemOf_memberType c s
  obtain ⟨j, hj⟩ := exists_itemOf_memberType c t
  refine ⟨_, _, hi, hj, fun heq => hne ?_⟩
  have htype := (List.append_inj' heq (by simp)).2
  have hsnake := Ident.snakeCase_eq_of_typeIdent_eq hs ht (List.singleton_inj.1 htype)
  rw [constructor_memberType, constructor_memberType, hsnake]

/-- A plain type is apart from a plain sum or refers back to it. -/
theorem apart_or_refersBack {t : String} (ht : Ident.Plain (c.typeOf t).1)
    (hm : Ident.Plain m.name) :
    c.Apart (c.memberType t).path (c.ownPath m) ∨ c.RefersBack m t := by
  obtain ⟨i, hi⟩ := exists_itemOf_memberType c t
  obtain ⟨j, hj⟩ := exists_itemOf_ownPath c m
  by_cases heq : i ++ [Ident.typeIdent (c.typeOf t).1] = j ++ [Ident.typeIdent m.name]
  · have htype := (List.append_inj' heq (by simp)).2
    have hsnake := Ident.snakeCase_eq_of_typeIdent_eq ht hm (List.singleton_inj.1 htype)
    refine .inr ⟨?_, _, _, hi, hj, by rw [heq]⟩
    rw [constructor_memberType, hsnake]
  · exact .inl ⟨_, _, hi, hj, heq⟩

/-! ## Sums -/

/-- **Conversions are apart.** The members of a sum plan that are messages have constructors of their
own. Where the names of two such types are plain, the paths that the sum converts from denote different
items; and where the name of the sum is plain too, such a path denotes another item than the sum, or
the type refers back to the sum. -/
theorem conversions_apart {p : SumPlan} (h : c.plan m = .ok (.sum p)) :
    p.members = (membersOf m.fields p.union).map c.member ∧
    ((membersOf m.fields p.union).Pairwise fun f g => ∀ s t,
      f.messageType? = some s → g.messageType? = some t →
        (c.memberType s).constructor ≠ (c.memberType t).constructor ∧
        (Ident.Plain (c.typeOf s).1 → Ident.Plain (c.typeOf t).1 →
          c.Apart (c.memberType s).path (c.memberType t).path)) ∧
    ∀ f ∈ membersOf m.fields p.union, ∀ t, f.messageType? = some t →
      Ident.Plain (c.typeOf t).1 → Ident.Plain m.name →
        c.Apart (c.memberType t).path p.path ∨ c.RefersBack m t := by
  have hfits := fits_of_plan_sum h
  have hne := pairwise_constructor_ne (not_shares_of_plan_sum h)
  refine ⟨hfits.members, hne.imp fun hfg s t hs ht => ?_, fun f _ t _ hplain hm => ?_⟩
  · exact ⟨hfg s t hs ht, fun hs' ht' => apart_of_constructor_ne hs' ht' (hfg s t hs ht)⟩
  · rw [hfits.path]
    exact apart_or_refersBack hplain hm

end Conversions

/-- The sum of the layered unit. -/
def layeredError : Message := ⟨"AppError", [
  ⟨"io", .message "app.IOError", .singular, some "kind"⟩,
  ⟨"lost", .message ".app.NotFoundError", .singular, some "kind"⟩], [], [], false⟩

/-- The plan of that sum. -/
def layeredPlan : SumPlan :=
  ⟨"AppError", ⟨0, ["AppError"]⟩, "kind", "kind", ["app_error", "Kind"], false, [
    ⟨"io", "Io", some ⟨"app.IOError", ⟨0, ["IoError"]⟩, "from_io_error"⟩⟩,
    ⟨"lost", "Lost", some ⟨"app.NotFoundError", ⟨0, ["NotFoundError"]⟩, "from_not_found_error"⟩⟩]⟩

/-- The place of that sum. -/
def layeredContext : Context := ⟨.build [layeredUnit], "app", [], {}⟩

/-- The two conversions of the layered sum are apart from each other, and from the sum. -/
theorem conversions_apart_layeredError :
    layeredContext.plan layeredError = .ok (.sum layeredPlan) ∧
      (layeredContext.Apart (layeredContext.memberType "app.IOError").path
        (layeredContext.memberType ".app.NotFoundError").path) ∧
      layeredContext.Apart (layeredContext.memberType "app.IOError").path layeredPlan.path ∧
      layeredContext.Apart (layeredContext.memberType ".app.NotFoundError").path layeredPlan.path := by
  have hplan : layeredContext.plan layeredError = .ok (.sum layeredPlan) := by decide
  have hio : Ident.Plain (layeredContext.typeOf "app.IOError").1 := by
    have hname : (layeredContext.typeOf "app.IOError").1 = "IOError" := by decide
    rw [hname]
    decide
  have hlost : Ident.Plain (layeredContext.typeOf ".app.NotFoundError").1 := by
    have hname : (layeredContext.typeOf ".app.NotFoundError").1 = "NotFoundError" := by decide
    rw [hname]
    decide
  have hsum : Ident.Plain layeredError.name := by decide
  obtain ⟨-, hpairs, hown⟩ := conversions_apart hplan
  have hpair := List.rel_of_pairwise_cons hpairs (List.mem_singleton_self _)
    "app.IOError" ".app.NotFoundError" rfl rfl
  have hio' := hown _ List.mem_cons_self "app.IOError" rfl hio hsum
  have hlost' := hown _ (List.mem_cons_of_mem _ (List.mem_singleton_self _)) ".app.NotFoundError" rfl
    hlost hsum
  -- neither type has the constructor of the sum
  exact ⟨hplan, hpair.2 hio hlost, hio'.resolve_right fun h => absurd h.constructor (by decide),
    hlost'.resolve_right fun h => absurd h.constructor (by decide)⟩

/-- A sum over two types whose names differ in words only, and over itself. -/
def overlapError : Message := ⟨"AppError", [
  ⟨"first", .message "app.Io1", .singular, some "kind"⟩,
  ⟨"second", .message "app.Io_1", .singular, some "kind"⟩,
  ⟨"again", .message "app.AppError", .singular, some "kind"⟩], [], [], false⟩

/-- The unit of that sum. -/
def overlapUnit : SchemaUnit := ⟨"app.proto", "app", [
  ⟨"Io1", [], [], [], false⟩, ⟨"Io_1", [], [], [], false⟩, overlapError]⟩

/-- **Conversions overlap** where names are not plain, and where a member refers back to the sum: the
first two members of this plan denote one item, and the last one denotes the sum itself. -/
theorem conversions_overlap : ∃ p,
    Context.plan ⟨.build [overlapUnit], "app", [], {}⟩ overlapError = .ok (.sum p) ∧
      p.members.filterMap (fun f => f.type?.map fun t =>
          Ident.follow (Ident.moduleOf "app") t.path.render) =
        [some ["app", "Io1"], some ["app", "Io1"], some ["app", "AppError"]] ∧
      Ident.follow (Ident.moduleOf "app") p.path.render = some ["app", "AppError"] :=
  ⟨_, rfl, by decide, by decide⟩

end ErrorTaxonomy
