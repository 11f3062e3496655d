import ErrorTaxonomy.Proofs.Schema.Index
import ErrorTaxonomy.Proofs.Schema.Package

/-! # Snapshots — what an index says about its units

Units are one **snapshot** when they have the same packages and when, of every full name, the message
declared last is the same. The index finds exactly that message (`lookup_build`), so two lists of units
that are one snapshot have indexes that **agree**: they resolve a type name to the same message
(`SchemaIndex.Agrees.resolve?`) and split it at the same package (`SchemaIndex.Agrees.splitPackage?`).
-/

namespace ErrorTaxonomy

/-! ## The last declaration -/

/-- The full name of the message of an entry. -/
def IndexEntry.fullName (e : IndexEntry) : String :=
  ErrorTaxonomy.fullName e.unit.package e.parents e.message.name

/-- The messages that a unit **declares**, depth first. -/
def SchemaUnit.declared (u : SchemaUnit) : List IndexEntry :=
  u.placed.map fun p => ⟨u, p.parents, p.message⟩

/-- The last message of units, in order, that has that full name. -/
def lastDeclared? (us : List SchemaUnit) (name : String) : Option IndexEntry :=
  (us.flatMap SchemaUnit.declared).reverse.find? (·.fullName = name)

/-- Looking up in a list of named items is finding an item of that name. -/
theorem lookup_map_eq_find? {α : Type} (f : α → String) (k : String) (l : List α) :
    (l.map fun a => (f a, a)).lookup k = l.find? (f · = k) := by
  induction l with
  | nil => rfl
  | cons a l ih =>
    rw [List.map_cons, List.lookup_cons, List.find?_cons, ih]
    by_cases h : f a = k
    · simp [h]
    · simp [h, beq_false_of_ne (Ne.symm h)]

/-- The entries of a unit are its declarations under their full names. -/
theorem unitEntries_eq (u : SchemaUnit) :
    SchemaIndex.unitEntries u = u.declared.map fun e => (e.fullName, e) := by
  rw [SchemaIndex.unitEntries, SchemaUnit.declared, List.map_map]
  rfl

/-- **The index finds the last declaration** of a full name. -/
theorem lookup_build (us : List SchemaUnit) (name : String) :
    (SchemaIndex.build us).entries.lookup name = lastDeclared? us name := by
  rw [SchemaIndex.build, Json.lookup_ofPairs, lastDeclared?, funext unitEntries_eq,
    ← List.map_flatMap, ← List.map_reverse, lookup_map_eq_find?]

/-- More units in front give way to those behind them. -/
theorem lastDeclared?_append (us vs : List SchemaUnit) (name : String) :
    lastDeclared? (us ++ vs) name = (lastDeclared? vs name).or (lastDeclared? us name) := by
  rw [lastDeclared?, List.flatMap_append, List.reverse_append, List.find?_append]
  rfl

/-- The first unit gives way to all others. -/
theorem lastDeclared?_cons (u : SchemaUnit) (us : List SchemaUnit) (name : String) :
    lastDeclared? (u :: us) name = (lastDeclared? us name).or (lastDeclared? [u] name) :=
  lastDeclared?_append [u] us name

/-! ## Snapshots -/

/-- Two entries stand for the **same message**: its contents, its package and the names around it. -/
structure IndexEntry.Same (e e' : IndexEntry) : Prop where
  message : e.message = e'.message
  package : e.unit.package = e'.unit.package
  parents : e.parents = e'.parents

/-- Two lists of units are **one snapshot**: they have the same packages, and the last message of every
full name is the same in both or is in neither. -/
structure SameSnapshot (us vs : List SchemaUnit) : Prop where
  packages : ∀ p, p ≠ "" → ((∃ u ∈ us, u.package = p) ↔ ∃ v ∈ vs, v.package = p)
  last : ∀ name, Option.Rel IndexEntry.Same (lastDeclared? us name) (lastDeclared? vs name)

/-- What is equal is the same. -/
theorem rel_same_of_eq {a b : Option IndexEntry} (h : a = b) : Option.Rel IndexEntry.Same a b := by
  subst h
  cases a with
  | none => exact .none
  | some e => exact .some ⟨rfl, rfl, rfl⟩

/-- No message of one unit has the full name of a message of the other. -/
def SchemaUnit.SharesNoName (u v : SchemaUnit) : Prop :=
  ∀ e ∈ u.declared, ∀ e' ∈ v.declared, e.fullName ≠ e'.fullName

/-- Sharing no name goes both ways. -/
theorem SchemaUnit.SharesNoName.symm {u v : SchemaUnit} (h : u.SharesNoName v) :
    v.SharesNoName u := fun e he e' he' heq => h e' he' e he heq.symm

/-- Two units that share no name do not both declare a name. -/
theorem SchemaUnit.SharesNoName.last {u v : SchemaUnit} (h : u.SharesNoName v) (name : String) :
    lastDeclared? [u] name = none ∨ lastDeclared? [v] name = none := by
  cases hu : lastDeclared? [u] name with
  | none => exact .inl rfl
  | some e =>
    refine .inr (List.find?_eq_none.2 fun e' he' => ?_)
    have he : e ∈ u.declared := by simpa using List.mem_of_find?_eq_some hu
    have hname : e.fullName = name := by simpa using List.find?_some hu
    have hne := h e he e' (by simpa using he')
    simpa [← hname] using hne.symm

/-- **The order of units** that share no names does not matter for what they declare. -/
theorem lastDeclared?_perm {us vs : List SchemaUnit} (h : us.Perm vs)
    (hus : us.Pairwise SchemaUnit.SharesNoName) (name : String) :
    lastDeclared? us name = lastDeclared? vs name := by
  induction h with
  | nil => rfl
  | cons u _ ih =>
    rw [lastDeclared?_cons, ih hus.tail, ← lastDeclared?_cons]
  | swap v u us =>
    -- of the two units only one can declare the name
    have hnone := (List.rel_of_pairwise_cons hus List.mem_cons_self).last name
    rw [lastDeclared?_cons, lastDeclared?_cons v us, lastDeclared?_cons v (u :: us),
      lastDeclared?_cons u us, Option.or_assoc, Option.or_assoc]
    obtain hu | hv := hnone
    · rw [hu, Option.or_none, Option.none_or]
    · rw [hv, Option.or_none, Option.none_or]
  | trans h₁ _ ih₁ ih₂ =>
    have hmid := (h₁.pairwise_iff fun h => h.symm).1 hus
    exact (ih₁ hus).trans (ih₂ hmid)

/-- Units that share no names are one snapshot in any order. -/
theorem sameSnapshot_of_perm {us vs : List SchemaUnit} (h : us.Perm vs)
    (hus : us.Pairwise SchemaUnit.SharesNoName) : SameSnapshot us vs where
  packages p _ := by simp only [h.mem_iff]
  last name := rel_same_of_eq (lastDeclared?_perm h hus name)

/-- Units that are there twice are one snapshot with themselves. -/
theorem sameSnapshot_append_self (us : List SchemaUnit) : SameSnapshot (us ++ us) us where
  packages p _ := by simp only [List.mem_append, or_self]
  last name := rel_same_of_eq (by rw [lastDeclared?_append, Option.or_self])

/-! ## Indexes -/

namespace SchemaIndex

/-- Two indexes **agree** on packages and on the message of every full name. -/
structure Agrees (ix jx : SchemaIndex) : Prop where
  packages : ∀ p, p ∈ ix.packages ↔ p ∈ jx.packages
  entries : ∀ name, Option.Rel IndexEntry.Same (ix.entries.lookup name) (jx.entries.lookup name)

/-- **One snapshot has one index.** -/
theorem agrees_of_sameSnapshot {us vs : List SchemaUnit} (h : SameSnapshot us vs) :
    (build us).Agrees (build vs) where
  packages p := by
    simp only [mem_packages_build, LoadsPackage]
    exact and_congr_right (h.packages p)
  entries name := by
    rw [lookup_build, lookup_build]
    exact h.last name

namespace Agrees

variable {ix jx : SchemaIndex} (h : ix.Agrees jx)
include h

/-- Indexes that agree resolve a type name to the same message. -/
theorem resolve? (t package : String) :
    Option.Rel IndexEntry.Same (ix.resolve? t package) (jx.resolve? t package) := by
  rw [SchemaIndex.resolve?, SchemaIndex.resolve?]
  have hfull := h.entries (Text.withoutDot t)
  generalize ix.entries.lookup (Text.withoutDot t) = a at hfull ⊢
  generalize jx.entries.lookup (Text.withoutDot t) = b at hfull ⊢
  cases hfull with
  | some hsame => exact .some hsame
  | none =>
    -- what is no full name is looked for inside the package
    dsimp only
    split
    · exact .none
    · exact h.entries _

/-- Indexes that agree ask the same of the message that a type name resolves to. -/
theorem any_resolve? (t package : String) (q : Message → Bool) :
    (ix.resolve? t package).any (q ·.message) = (jx.resolve? t package).any (q ·.message) := by
  have hr := h.resolve? t package
  generalize ix.resolve? t package = a at hr ⊢
  generalize jx.resolve? t package = b at hr ⊢
  cases hr with
  | none => rfl
  | some hsame => rw [Option.any_some, Option.any_some, hsame.message]

/-- Indexes that agree split a type name at the same package. -/
theorem splitPackage? (t : String) : ix.splitPackage? t = jx.splitPackage? t :=
  splitPackage?_congr h.packages t

end Agrees
end SchemaIndex

end ErrorTaxonomy
