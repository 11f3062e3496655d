import ErrorTaxonomy.Json.Printer

/-! # Trees — induction over JSON values, and changing their numbers

A tree is built up from leaves by lists and objects (`Tree.induct`). Changing its numbers changes each item
and each member alone, and its text is that of the tree with another way to write numbers
(`chars_map`). -/

namespace ErrorTaxonomy.Json

variable {ν μ : Type}

/-- **Induction over trees**: what passes from the items to a list, and from the values of the members to
an object, holds of all trees if it holds of the leaves. -/
@[elab_as_elim]
theorem Tree.induct {P : Tree ν → Prop} (null : P .null) (bool : ∀ b, P (.bool b))
    (num : ∀ n, P (.num n)) (str : ∀ s, P (.str s)) (arr : ∀ ts, (∀ t ∈ ts, P t) → P (.arr ts))
    (obj : ∀ ms : List (String × Tree ν), (∀ m ∈ ms, P m.2) → P (.obj ms)) (t : Tree ν) : P t :=
  -- the other motives are those of items, of members and of one member
  @Tree.rec ν P (fun ts => ∀ t ∈ ts, P t) (fun ms => ∀ m ∈ ms, P m.2) (fun m => P m.2)
    null bool num str arr obj nofun (fun _ _ ht hts => List.forall_mem_cons.2 ⟨ht, hts⟩)
    nofun (fun _ _ hm hms => List.forall_mem_cons.2 ⟨hm, hms⟩) (fun _ _ ht => ht) t

/-! ## Changing numbers -/

/-- The items of a list are changed one by one. -/
theorem mapItems_eq (f : ν → μ) (ts : List (Tree ν)) : Tree.mapItems f ts = ts.map (Tree.map f) := by
  induction ts with
  | nil => rfl
  | cons t ts ih => rw [Tree.mapItems, ih, List.map_cons]

/-- The values of an object are changed one by one. -/
theorem mapMembers_eq (f : ν → μ) (ms : List (String × Tree ν)) :
    Tree.mapMembers f ms = ms.map fun m => (m.1, m.2.map f) := by
  induction ms with
  | nil => rfl
  | cons m ms ih => rw [Tree.mapMembers, ih, List.map_cons]

/-- A tree whose numbers are left as they are is the tree. -/
theorem map_id (t : Tree ν) : t.map id = t := by
  induction t using Tree.induct with
  | null | bool b | num n | str s => rfl
  | arr ts ih =>
    rw [Tree.map, mapItems_eq, List.map_congr_left ih, List.map_id']
  | obj ms ih =>
    have hmembers : ∀ m ∈ ms, (m.1, m.2.map id) = m := fun m hm => by rw [ih m hm]
    rw [Tree.map, mapMembers_eq, List.map_congr_left hmembers, List.map_id']

/-- The style that writes numbers as what they are changed to. -/
def Style.comap (style : Style μ) (f : ν → μ) : Style ν := ⟨style.number ∘ f, style.character⟩

section Text

variable (style : Style μ) (f : ν → μ)

theorem itemChars_map {ts : List (Tree ν)}
    (h : ∀ t ∈ ts, (t.map f).chars style = t.chars (style.comap f)) :
    Tree.itemChars style (ts.map (Tree.map f)) = Tree.itemChars (style.comap f) ts := by
  induction ts with
  | nil => rfl
  | cons t ts ih =>
    rw [List.map_cons, Tree.itemChars, Tree.itemChars, h t List.mem_cons_self,
      ih fun u hu => h u (List.mem_cons_of_mem t hu)]

theorem memberChars_map {ms : List (String × Tree ν)}
    (h : ∀ m ∈ ms, (m.2.map f).chars style = m.2.chars (style.comap f)) :
    Tree.memberChars style (ms.map fun m => (m.1, m.2.map f)) =
      Tree.memberChars (style.comap f) ms := by
  induction ms with
  | nil => rfl
  | cons m ms ih =>
    rw [List.map_cons, Tree.memberChars, Tree.memberChars, h m List.mem_cons_self,
      ih fun n hn => h n (List.mem_cons_of_mem m hn)]
    rfl

/-- **The text** of a tree whose numbers were changed is its text in the style that changes them. -/
theorem chars_map (t : Tree ν) : (t.map f).chars style = t.chars (style.comap f) := by
  induction t using Tree.induct with
  | null => rfl
  | bool b => cases b <;> rfl
  | num n => rfl
  | str s => rfl
  | arr ts ih =>
    rw [Tree.map, mapItems_eq]
    cases ts with
    | nil => rfl
    | cons t ts =>
      rw [List.map_cons, Tree.chars, Tree.chars, ih t List.mem_cons_self,
        itemChars_map style f fun u hu => ih u (List.mem_cons_of_mem t hu)]
  | obj ms ih =>
    rw [Tree.map, mapMembers_eq]
    cases ms with
    | nil => rfl
    | cons m ms =>
      rw [List.map_cons, Tree.chars, Tree.chars, ih m List.mem_cons_self,
        memberChars_map style f fun n hn => ih n (List.mem_cons_of_mem m hn)]
      rfl

end Text

end ErrorTaxonomy.Json
