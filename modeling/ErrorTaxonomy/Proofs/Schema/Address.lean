import Mathlib.Data.List.Forall2
import Mathlib.Data.List.Lex
import ErrorTaxonomy.Schema.Basic

/-! # Addresses — where the messages of a unit stand

The **address** of a message is the position of each message on the way down to it. In lexicographic order
a message comes before the messages nested in it, and these come before its next sibling. A list
**enumerates** what stands at addresses when it lists all of it in this order:

* **`enumerates_flatMap`** — what stands below the items of a list is enumerated item by item.
* **`Enumerates.exists_split_iff`** — what stands before an item stands at lower addresses.
* **`Enumerates.find?_reverse_eq_some_iff`** — searched from its end, an enumeration gives what stands at
  the last address.
* **`enumerates_placed`** — the messages of a unit are enumerated, each with the names on its way. -/

namespace ErrorTaxonomy

/-! ## Enumerations -/

section Enumerations

variable {α β : Type} {R S : List Nat → α → Prop} {l : List α}

/-- A list **enumerates** what stands at addresses: all of it, by increasing addresses. -/
def Enumerates (R : List Nat → α → Prop) (l : List α) : Prop :=
  ∃ ps : List (List Nat × α), ps.map Prod.snd = l ∧ ps.Pairwise (fun p q => p.1 < q.1) ∧
    ∀ a x, (a, x) ∈ ps ↔ R a x

/-- What stands **below** the items of a list: at `i :: a` stands what the item at position `i` has
at `a`. -/
inductive BelowItems (ys : List β) (R : β → List Nat → α → Prop) : List Nat → α → Prop
  | intro {i : Nat} {y : β} {a : List Nat} {x : α} (hy : ys[i]? = some y) (hx : R y a x) :
      BelowItems ys R (i :: a) x

/-- An enumeration lists what stands at some address. -/
theorem Enumerates.mem_iff (h : Enumerates R l) (x : α) : x ∈ l ↔ ∃ a, R a x := by
  obtain ⟨ps, rfl, -, hmem⟩ := h
  simp [← hmem]

/-- Other words for the same places. -/
theorem Enumerates.congr (h : Enumerates R l) (hRS : ∀ a x, R a x ↔ S a x) : Enumerates S l := by
  obtain ⟨ps, hl, hlt, hmem⟩ := h
  exact ⟨ps, hl, hlt, fun a x => (hmem a x).trans (hRS a x)⟩

/-- Items may be changed where they stand. -/
theorem Enumerates.map (h : Enumerates R l) (f : α → β) :
    Enumerates (fun a y => ∃ x, R a x ∧ f x = y) (l.map f) := by
  obtain ⟨ps, rfl, hlt, hmem⟩ := h
  refine ⟨ps.map fun p => (p.1, f p.2), ?_, ?_, fun a y => ?_⟩
  · rw [List.map_map, List.map_map]
    rfl
  · exact List.pairwise_map.2 hlt
  · simp only [← hmem, List.mem_map, Prod.exists, Prod.mk.injEq]
    constructor
    · rintro ⟨_, x, hx, rfl, rfl⟩
      exact ⟨x, hx, rfl⟩
    · rintro ⟨x, hx, rfl⟩
      exact ⟨a, x, hx, rfl, rfl⟩

/-- Items may be left out. -/
theorem Enumerates.filter (h : Enumerates R l) (p : α → Bool) :
    Enumerates (fun a x => R a x ∧ p x = true) (l.filter p) := by
  obtain ⟨ps, rfl, hlt, hmem⟩ := h
  refine ⟨ps.filter fun q => p q.2, ?_, hlt.sublist List.filter_sublist, ?_⟩
  · rw [List.filter_map]
    rfl
  · intro a x
    simp only [List.mem_filter, hmem]

/-- Items may be replaced by what is related to them, when that is one thing at most. -/
theorem Enumerates.forall₂ (h : Enumerates R l) {S : α → β → Prop} (hS : Relator.RightUnique S)
    {l' : List β} (hl' : List.Forall₂ S l l') : Enumerates (fun a y => ∃ x, R a x ∧ S x y) l' := by
  obtain ⟨ps, rfl, hlt, hmem⟩ := h
  rw [List.forall₂_map_left_iff] at hl'
  simp only [← hmem]
  clear hmem
  -- the addresses stay, and every pair that is left comes from one that was there
  induction hl' with
  | nil => exact ⟨[], rfl, .nil, by simp⟩
  | @cons p y ps ys hpy _ ih =>
    obtain ⟨a, x⟩ := p
    rw [List.pairwise_cons] at hlt
    obtain ⟨qs, rfl, hqlt, hqmem⟩ := ih hlt.2
    refine ⟨(a, y) :: qs, rfl, List.pairwise_cons.2 ⟨?_, hqlt⟩, ?_⟩
    · rintro ⟨b, z⟩ hz
      obtain ⟨w, hw, -⟩ := (hqmem b z).1 hz
      exact hlt.1 (b, w) hw
    · intro b z
      rw [List.mem_cons, hqmem]
      constructor
      · rintro (heq | ⟨w, hw, hwz⟩)
        · cases heq
          exact ⟨x, List.mem_cons_self, hpy⟩
        · exact ⟨w, List.mem_cons_of_mem _ hw, hwz⟩
      · rintro ⟨w, hw, hwz⟩
        obtain heq | hw := List.mem_cons.1 hw
        · cases heq
          exact .inl (by rw [hS hwz hpy])
        · exact .inr ⟨w, hw, hwz⟩

/-- An item at the empty address comes first. -/
theorem Enumerates.cons (h : Enumerates R l) (hroot : ∀ x, ¬ R [] x) (x : α) :
    Enumerates (fun a y => a = [] ∧ y = x ∨ R a y) (x :: l) := by
  obtain ⟨ps, rfl, hlt, hmem⟩ := h
  refine ⟨([], x) :: ps, rfl, List.pairwise_cons.2 ⟨fun p hp => ?_, hlt⟩, fun a y => ?_⟩
  · obtain ⟨a, y⟩ := p
    cases a with
    | nil => exact absurd ((hmem [] y).1 hp) (hroot y)
    | cons i a => exact List.nil_lt_cons i a
  · rw [List.mem_cons, Prod.mk.injEq, hmem]

/-- What stands below the items behind the first `k` is enumerated item by item. -/
theorem enumerates_flatMap_from {R : β → List Nat → α → Prop} {f : β → List α} {ys : List β}
    (h : ∀ y ∈ ys, Enumerates (R y) (f y)) (k : Nat) :
    Enumerates (fun a x => ∃ i b y, a = (k + i) :: b ∧ ys[i]? = some y ∧ R y b x) (ys.flatMap f) := by
  induction ys generalizing k with
  | nil => exact ⟨[], rfl, .nil, by simp⟩
  | cons y ys ih =>
    obtain ⟨ps, hps, hplt, hpmem⟩ := h y List.mem_cons_self
    obtain ⟨qs, hqs, hqlt, hqmem⟩ := ih (fun z hz => h z (List.mem_cons_of_mem y hz)) (k + 1)
    refine ⟨ps.map (fun p => (k :: p.1, p.2)) ++ qs, ?_, List.pairwise_append.2 ⟨?_, hqlt, ?_⟩,
      fun a x => ?_⟩
    · rw [List.map_append, List.map_map, hqs, List.flatMap_cons, ← hps]
      rfl
    · exact List.pairwise_map.2 (hplt.imp fun hlt => List.cons_lt_cons_iff.2 (.inr ⟨rfl, hlt⟩))
    · -- the addresses below the head begin with `k` and the others with more
      rintro _ hp q hq
      obtain ⟨p, -, rfl⟩ := List.mem_map.1 hp
      obtain ⟨i, b, z, hq, -⟩ := (hqmem q.1 q.2).1 hq
      rw [hq]
      exact List.cons_lt_cons_iff.2 (.inl (by omega))
    · rw [List.mem_append, hqmem, List.mem_map]
      constructor
      · rintro (⟨⟨b, z⟩, hp, heq⟩ | ⟨i, b, z, rfl, hz, hx⟩)
        · obtain ⟨rfl, rfl⟩ := Prod.mk.inj heq
          exact ⟨0, b, y, rfl, rfl, (hpmem b z).1 hp⟩
        · exact ⟨i + 1, b, z, by rw [Nat.add_assoc, Nat.add_comm 1 i], hz, hx⟩
      · rintro ⟨i, b, z, rfl, hz, hx⟩
        cases i with
        | zero =>
          obtain rfl := Option.some.inj hz
          exact .inl ⟨(b, x), (hpmem b x).2 hx, rfl⟩
        | succ i => exact .inr ⟨i, b, z, by rw [Nat.add_assoc, Nat.add_comm 1 i], hz, hx⟩

/-- **What stands below the items** of a list is enumerated item by item. -/
theorem enumerates_flatMap {R : β → List Nat → α → Prop} {f : β → List α} {ys : List β}
    (h : ∀ y ∈ ys, Enumerates (R y) (f y)) : Enumerates (BelowItems ys R) (ys.flatMap f) := by
  refine (enumerates_flatMap_from h 0).congr fun a x => ?_
  constructor
  · rintro ⟨i, b, y, rfl, hy, hx⟩
    rw [Nat.zero_add]
    exact .intro hy hx
  · rintro ⟨hy, hx⟩
    exact ⟨_, _, _, by rw [Nat.zero_add], hy, hx⟩

/-- **What stands before an item** of an enumeration stands at lower addresses. -/
theorem Enumerates.exists_split_iff (h : Enumerates R l) (P : α → Prop) (x : α) :
    (∃ before after, l = before ++ x :: after ∧ ∀ y ∈ before, P y) ↔
      ∃ a, R a x ∧ ∀ b y, R b y → b < a → P y := by
  obtain ⟨ps, rfl, hlt, hmem⟩ := h
  constructor
  · rintro ⟨before, after, hsplit, hbefore⟩
    obtain ⟨qs, rest, rfl, rfl, hrest⟩ := List.map_eq_append_iff.1 hsplit
    obtain ⟨⟨a, y⟩, rs, rfl, rfl, -⟩ := List.map_eq_cons_iff.1 hrest
    refine ⟨a, (hmem a y).1 (by simp), ?_⟩
    intro b z hz hba
    obtain hq | hr := List.mem_append.1 ((hmem b z).2 hz)
    · exact hbefore z (List.mem_map_of_mem hq)
    · -- the item itself and those behind it stand at no lower address
      have hle : a ≤ b := by
        obtain heq | hr := List.mem_cons.1 hr
        · cases heq
          exact le_refl a
        · exact le_of_lt (List.rel_of_pairwise_cons (List.pairwise_append.1 hlt).2.1 hr)
      exact absurd hba (not_lt_of_ge hle)
  · rintro ⟨a, hx, hbefore⟩
    obtain ⟨qs, rs, rfl⟩ := List.append_of_mem ((hmem a x).2 hx)
    refine ⟨qs.map Prod.snd, rs.map Prod.snd, by simp, ?_⟩
    intro y hy
    obtain ⟨⟨b, z⟩, hq, rfl⟩ := List.mem_map.1 hy
    refine hbefore b z ((hmem b z).1 (by simp [hq])) ?_
    exact (List.pairwise_append.1 hlt).2.2 (b, z) hq (a, x) List.mem_cons_self

/-- **Searched from its end**, an enumeration gives what stands at the last address. -/
theorem Enumerates.find?_reverse_eq_some_iff (h : Enumerates R l) (p : α → Bool) (x : α) :
    l.reverse.find? p = some x ↔
      ∃ a, R a x ∧ p x = true ∧ ∀ b y, R b y → p y = true → b ≤ a := by
  obtain ⟨ps, rfl, hlt, hmem⟩ := h
  rw [List.find?_eq_some_iff_append]
  constructor
  · rintro ⟨hx, after, before, hsplit, hafter⟩
    rw [List.reverse_eq_iff, List.reverse_append, List.reverse_cons, List.append_assoc,
      List.singleton_append, List.map_eq_append_iff] at hsplit
    obtain ⟨qs, _, rfl, -, hcons⟩ := hsplit
    obtain ⟨⟨a, y⟩, rs, rfl, rfl, hrs⟩ := List.map_eq_cons_iff.1 hcons
    refine ⟨a, (hmem a y).1 (by simp), hx, fun b z hz hpz => ?_⟩
    obtain hq | hr := List.mem_append.1 ((hmem b z).2 hz)
    · exact le_of_lt ((List.pairwise_append.1 hlt).2.2 _ hq _ List.mem_cons_self)
    · obtain heq | hr := List.mem_cons.1 hr
      · obtain ⟨rfl, -⟩ := Prod.mk.inj heq
        exact le_refl b
      · -- what stands behind the item that is found is not searched for
        have hz' : z ∈ after := by
          rw [← List.mem_reverse, ← hrs]
          exact List.mem_map_of_mem hr
        have hnot := hafter z hz'
        rw [hpz] at hnot
        cases hnot
  · rintro ⟨a, hx, hp, hlast⟩
    obtain ⟨qs, rs, rfl⟩ := List.append_of_mem ((hmem a x).2 hx)
    refine ⟨hp, (rs.map Prod.snd).reverse, (qs.map Prod.snd).reverse, by simp, fun y hy => ?_⟩
    obtain ⟨⟨b, z⟩, hr, rfl⟩ := List.mem_map.1 (List.mem_reverse.1 hy)
    -- an item behind the last one with the property does not have it
    cases hpz : p z with
    | false => rfl
    | true =>
      have hle := hlast b z ((hmem b z).1 (by simp [hr])) hpz
      have hbehind := List.rel_of_pairwise_cons (List.pairwise_append.1 hlt).2.1 hr
      exact absurd hbehind (not_lt_of_ge hle)

end Enumerations

/-! ## Messages -/

/-- **Induction over messages**: what passes from the nested messages to a message holds of all. -/
@[elab_as_elim]
theorem Message.induct {P : Message → Prop} (h : ∀ m : Message, (∀ n ∈ m.nested, P n) → P m)
    (m : Message) : P m :=
  -- the other motive is that of a list of messages
  @Message.rec P (fun ms => ∀ n ∈ ms, P n) (fun _ _ _ _ _ hn => h ⟨_, _, _, _, _⟩ hn)
    nofun (fun _ _ hm hms => List.forall_mem_cons.2 ⟨hm, hms⟩) m

/-- A message **stands at** an address below another one, or is that one: at each step down the address
has the position among the nested messages, and the parents have the name of the message above. -/
inductive Message.StandsAt : Message → List Nat → Placed → Prop
  | self (m : Message) : m.StandsAt [] ⟨[], m⟩
  | nested {m n x : Message} {i : Nat} {a : List Nat} {parents : List String}
      (hn : m.nested[i]? = some n) (hx : n.StandsAt a ⟨parents, x⟩) :
      m.StandsAt (i :: a) ⟨m.name :: parents, x⟩

/-- A message of a unit **stands at** the address that begins with the position of the outermost message
around it. -/
def SchemaUnit.StandsAt (u : SchemaUnit) : List Nat → Placed → Prop :=
  BelowItems u.messages Message.StandsAt

/-- The messages of a forest are those of its trees. -/
theorem Message.placedAllIn_eq (ps : List String) (ms : List Message) :
    Message.placedAllIn ps ms = ms.flatMap (Message.placedIn ps) := by
  induction ms with
  | nil => rw [Message.placedAllIn_nil, List.flatMap_nil]
  | cons m ms ih => rw [Message.placedAllIn_cons, ih, List.flatMap_cons]

/-- The invariant of the walk: below `ps` it enumerates a message and what is nested in it, with `ps`
before the names on the way. -/
theorem enumerates_placedIn (m : Message) (ps : List String) :
    Enumerates (fun a p => ∃ parents, m.StandsAt a ⟨parents, p.message⟩ ∧ p.parents = ps ++ parents)
      (m.placedIn ps) := by
  induction m using Message.induct generalizing ps with
  | h m ih =>
    rw [Message.placedIn_eq, Message.placedAllIn_eq]
    -- the message comes first, at the empty address, and then what is nested in it
    have hnested := enumerates_flatMap fun n hn => ih n hn (ps ++ [m.name])
    refine (hnested.cons (fun _ => nofun) ⟨ps, m⟩).congr fun a p => ?_
    constructor
    · rintro (⟨rfl, rfl⟩ | ⟨hn, parents, hx, hp⟩)
      · exact ⟨[], .self m, (List.append_nil ps).symm⟩
      · exact ⟨m.name :: parents, .nested hn hx, by rw [hp, List.append_assoc]; rfl⟩
    · rintro ⟨parents, hx, hp⟩
      obtain ⟨qs, x⟩ := p
      cases hx with
      | self => exact .inl ⟨rfl, by rw [← List.append_nil ps, ← hp]⟩
      | nested hn hx => exact .inr (.intro hn ⟨_, hx, by rw [hp, List.append_assoc]; rfl⟩)

/-- **The messages of a unit** are enumerated, each with the names of the messages around it. -/
theorem enumerates_placed (u : SchemaUnit) : Enumerates u.StandsAt u.placed := by
  rw [SchemaUnit.placed, Message.placedAllIn_eq]
  refine enumerates_flatMap fun m _ => (enumerates_placedIn m []).congr fun a p => ?_
  obtain ⟨qs, x⟩ := p
  simp

end ErrorTaxonomy
