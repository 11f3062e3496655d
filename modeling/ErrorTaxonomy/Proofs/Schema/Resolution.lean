import Mathlib.Data.List.Nodup
import ErrorTaxonomy.Proofs.Schema.Address
import ErrorTaxonomy.Proofs.Schema.Snapshot

/-! # Resolution — the declaration that a type name stands for

The messages of a list of units are **declared** at addresses that begin with the position of the unit, so
that a later address is that of a later unit, or of a later message of one unit. The index keeps of every
full name the message that is declared **last**: a type name stands for the last declaration of that full
name or, if there is none and the name has no leading dot, for the last declaration of the name inside the
package where it is written (**`names_resolve_to_last_declaration`**). -/

namespace ErrorTaxonomy

variable {us : List SchemaUnit}

/-! ## Declarations -/

/-- An entry is **declared at** an address: in the unit at the first position, at the rest of it. -/
def DeclaredAt (us : List SchemaUnit) : List Nat → IndexEntry → Prop :=
  BelowItems us fun u a e => e.unit = u ∧ u.StandsAt a ⟨e.parents, e.message⟩

/-- Units **declare** a full name when it is that of one of their messages. -/
def Declares (us : List SchemaUnit) (name : String) : Prop :=
  ∃ a e, DeclaredAt us a e ∧ e.fullName = name

/-- The **last declaration** of a full name: no message of that name is declared at a later address. -/
def LastDeclaration (us : List SchemaUnit) (name : String) (e : IndexEntry) : Prop :=
  ∃ a, DeclaredAt us a e ∧ e.fullName = name ∧
    ∀ b e', DeclaredAt us b e' → e'.fullName = name → b ≤ a

/-- **What units declare** is enumerated unit by unit. -/
theorem enumerates_declared (us : List SchemaUnit) :
    Enumerates (DeclaredAt us) (us.flatMap SchemaUnit.declared) := by
  apply enumerates_flatMap
  intro u _
  apply ((enumerates_placed u).map fun p => (⟨u, p.parents, p.message⟩ : IndexEntry)).congr
  intro a e
  constructor
  · rintro ⟨p, hp, rfl⟩
    exact ⟨rfl, hp⟩
  · rintro ⟨rfl, hp⟩
    exact ⟨_, hp, rfl⟩

/-- Searching from the end finds the last declaration. -/
theorem lastDeclared?_eq_some_iff {name : String} {e : IndexEntry} :
    lastDeclared? us name = some e ↔ LastDeclaration us name e := by
  rw [lastDeclared?, (enumerates_declared us).find?_reverse_eq_some_iff]
  simp only [decide_eq_true_eq, LastDeclaration]

/-- Searching finds nothing when the name is not declared. -/
theorem lastDeclared?_eq_none_iff {name : String} :
    lastDeclared? us name = none ↔ ¬ Declares us name := by
  rw [lastDeclared?, List.find?_eq_none]
  simp only [List.mem_reverse, (enumerates_declared us).mem_iff, decide_eq_true_eq, Declares]
  constructor
  · rintro h ⟨a, e, he, hname⟩
    exact h e ⟨a, he⟩ hname
  · rintro h e ⟨a, he⟩ hname
    exact h ⟨a, e, he, hname⟩

/-- Messages stand at one address when they have one full name, if no full name is listed twice. -/
theorem address_eq_of_nodup
    (h : ((us.flatMap SchemaUnit.declared).map IndexEntry.fullName).Nodup) (a b : List Nat)
    (e e' : IndexEntry) (he : DeclaredAt us a e) (he' : DeclaredAt us b e')
    (hname : e.fullName = e'.fullName) : a = b := by
  obtain ⟨ps, hps, -, hmem⟩ := enumerates_declared us
  rw [← hps, List.map_map] at h
  have hpair : (a, e) = (b, e') :=
    List.inj_on_of_nodup_map h ((hmem a e).2 he) ((hmem b e').2 he') hname
  exact (Prod.mk.inj hpair).1

/-- A message is the last declaration of its full name when no other has that name. -/
theorem lastDeclaration_of_distinct
    (h : ∀ a b e e', DeclaredAt us a e → DeclaredAt us b e' → e.fullName = e'.fullName → a = b)
    {a : List Nat} {e : IndexEntry} (he : DeclaredAt us a e) : LastDeclaration us e.fullName e := by
  refine ⟨a, he, rfl, fun b e' he' hname => ?_⟩
  exact le_of_eq (h b a e' e he' he hname)

/-! ## Type names -/

/-- A type name is looked for as a full name first and inside the package next. -/
theorem resolve?_build (us : List SchemaUnit) (t package : String) :
    (SchemaIndex.build us).resolve? t package = (lastDeclared? us (Text.withoutDot t)).or
      (if package = "" ∨ Text.startsWith "." t then none
        else lastDeclared? us (package ++ "." ++ Text.withoutDot t)) := by
  rw [SchemaIndex.resolve?, lookup_build, lookup_build]
  cases lastDeclared? us (Text.withoutDot t) <;> rfl

/-- What a type name resolves to. -/
theorem resolve?_build_eq_some_iff {t package : String} {e : IndexEntry} :
    (SchemaIndex.build us).resolve? t package = some e ↔
      LastDeclaration us (Text.withoutDot t) e ∨
        ¬ Declares us (Text.withoutDot t) ∧ Text.startsWith "." t = false ∧ package ≠ "" ∧
          LastDeclaration us (package ++ "." ++ Text.withoutDot t) e := by
  rw [resolve?_build, Option.or_eq_some_iff, lastDeclared?_eq_some_iff, lastDeclared?_eq_none_iff]
  by_cases h : package = "" ∨ Text.startsWith "." t = true
  · -- nothing but the full name counts
    rw [if_pos h]
    simp only [reduceCtorEq, and_false, or_false, iff_self_or]
    rintro ⟨-, hdot, hpackage, -⟩
    rcases h with h | h
    · exact absurd h hpackage
    · rw [hdot] at h
      cases h
  · rw [if_neg h, lastDeclared?_eq_some_iff]
    rw [not_or, Bool.not_eq_true] at h
    simp only [h, ne_eq, not_false_eq_true, true_and]

/-- When a type name resolves to nothing. -/
theorem resolve?_build_eq_none_iff {t package : String} :
    (SchemaIndex.build us).resolve? t package = none ↔
      ¬ Declares us (Text.withoutDot t) ∧ (Text.startsWith "." t = true ∨ package = "" ∨
        ¬ Declares us (package ++ "." ++ Text.withoutDot t)) := by
  rw [resolve?_build, Option.or_eq_none_iff, lastDeclared?_eq_none_iff]
  by_cases h : package = "" ∨ Text.startsWith "." t = true
  · rw [if_pos h]
    rcases h with h | h <;> simp [h]
  · rw [if_neg h, lastDeclared?_eq_none_iff]
    rw [not_or, Bool.not_eq_true] at h
    simp [h]

/-- A name without a leading dot stays as it is. -/
theorem withoutDot_of_not_startsWith {t : String} (h : Text.startsWith "." t = false) :
    Text.withoutDot t = t := by
  rw [Text.startsWith, Option.isSome_eq_false_iff, Option.isNone_iff_eq_none] at h
  rw [Text.withoutDot, h, Option.getD_none]

/-- The keys of an index are the full names that its units declare, each once. -/
theorem mem_map_fst_build {name : String} :
    name ∈ (SchemaIndex.build us).entries.map Prod.fst ↔ Declares us name := by
  rw [SchemaIndex.build, Json.map_fst_ofPairs, List.mem_eraseDups, funext unitEntries_eq,
    ← List.map_flatMap, List.map_map, List.mem_map]
  simp only [(enumerates_declared us).mem_iff, Declares, Function.comp_apply]
  constructor
  · rintro ⟨e, ⟨a, he⟩, hname⟩
    exact ⟨a, e, he, hname⟩
  · rintro ⟨a, e, he, hname⟩
    exact ⟨e, ⟨a, he⟩, hname⟩

/-- **The last declaration wins.** A type name resolves to the last declaration of it as a full name,
without its leading dot. If there is none, a name without a leading dot resolves to the last declaration
of it inside a package that is not the root; other names resolve to nothing. So when no two messages have
one full name, each message whose name does not begin with a dot resolves to itself, with its unit and the
names around it, in every package. The size of the index is the number of full names. -/
theorem names_resolve_to_last_declaration (us : List SchemaUnit) :
    (∀ t package e, (SchemaIndex.build us).resolve? t package = some e ↔
      LastDeclaration us (Text.withoutDot t) e ∨
        ¬ Declares us (Text.withoutDot t) ∧ Text.startsWith "." t = false ∧ package ≠ "" ∧
          LastDeclaration us (package ++ "." ++ Text.withoutDot t) e) ∧
    (∀ t package, (SchemaIndex.build us).resolve? t package = none ↔
      ¬ Declares us (Text.withoutDot t) ∧ (Text.startsWith "." t = true ∨ package = "" ∨
        ¬ Declares us (package ++ "." ++ Text.withoutDot t))) ∧
    ((∀ a b e e', DeclaredAt us a e → DeclaredAt us b e' → e.fullName = e'.fullName → a = b) →
      ∀ a e, DeclaredAt us a e → Text.startsWith "." e.fullName = false →
        ∀ package, (SchemaIndex.build us).resolve? e.fullName package = some e) ∧
    ∃ names : List String, names.Nodup ∧ (∀ name, name ∈ names ↔ Declares us name) ∧
      (SchemaIndex.build us).size = names.length := by
  refine ⟨fun t package e => resolve?_build_eq_some_iff,
    fun t package => resolve?_build_eq_none_iff, fun hdistinct a e he hdot package => ?_, ?_⟩
  · rw [resolve?_build_eq_some_iff, withoutDot_of_not_startsWith hdot]
    exact .inl (lastDeclaration_of_distinct hdistinct he)
  · refine ⟨(SchemaIndex.build us).entries.map Prod.fst, Json.nodup_map_fst_ofPairs _,
      fun name => mem_map_fst_build, ?_⟩
    rw [SchemaIndex.size, List.length_map]

/-- A message that is nested in another one. -/
def innerMessage : Message := ⟨"Inner", [], [], [], false⟩

/-- A unit with a nested message. -/
def nestingUnit : SchemaUnit := ⟨"a.proto", "app", [⟨"Outer", [], [], [innerMessage], false⟩]⟩

/-- A unit that declares the full name of that message in a package named after the message around it. -/
def shadowingUnit : SchemaUnit := ⟨"b.proto", "app.Outer", [innerMessage]⟩

/-- Alone, the nested message resolves to itself in every package; a later unit takes its name over, in
whatever way it is spelled. -/
theorem names_resolve_to_last_declaration_shadowed :
    (∀ package, (SchemaIndex.build [nestingUnit]).resolve? "app.Outer.Inner" package =
      some ⟨nestingUnit, ["Outer"], innerMessage⟩) ∧
    LastDeclaration [nestingUnit, shadowingUnit] "app.Outer.Inner" ⟨shadowingUnit, [], innerMessage⟩ ∧
    (SchemaIndex.build [nestingUnit, shadowingUnit]).resolve? "Outer.Inner" "app" =
      some ⟨shadowingUnit, [], innerMessage⟩ := by
  have hat : DeclaredAt [nestingUnit] [0, 0, 0] ⟨nestingUnit, ["Outer"], innerMessage⟩ :=
    .intro rfl ⟨rfl, .intro rfl (.nested rfl (.self innerMessage))⟩
  have hself := (names_resolve_to_last_declaration [nestingUnit]).2.2.1
    (address_eq_of_nodup (by decide)) _ _ hat (by decide)
  have hfull : (SchemaIndex.build [nestingUnit, shadowingUnit]).resolve? ".app.Outer.Inner" "" =
      some ⟨shadowingUnit, [], innerMessage⟩ := rfl
  have hlast := ((names_resolve_to_last_declaration _).1 _ _ _).1 hfull
  exact ⟨hself, hlast.resolve_right fun h => absurd h.2.1 (by decide), rfl⟩

end ErrorTaxonomy
