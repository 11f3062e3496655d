import Mathlib.Data.List.SplitBy
import ErrorTaxonomy.Proofs.Ident.ReadBack

/-! # Camel case — when the words of a name can be read off its type

The words of a type run together, and only their capitals show where one ends. A name is **plain** when
they show it everywhere: it is ASCII, and no word after the first begins with a digit. The snake case of
a plain name is then determined by the identifier of its type (`snakeCase_eq_of_typeIdent_eq`). Names
that are not plain may have one type and different words, as `Io1` and `Io_1` do. -/

namespace ErrorTaxonomy.Ident

/-- A name is **plain**: it is ASCII, and no word after the first begins with a digit. -/
structure Plain (s : String) : Prop where
  ascii : ∀ c ∈ s.toList, c.toNat < 0x80
  letters : ∀ w ∈ (words s.toList).tail, ∀ c ∈ w.head?, c.isDigit = false

/-- Whether a name is plain. -/
def isPlain (s : String) : Bool :=
  s.toList.all (fun c => decide (c.toNat < 0x80)) &&
    (words s.toList).tail.all fun w => w.head?.all fun c => !c.isDigit

/-- Being plain is computed from the characters and the words of a name. -/
theorem isPlain_iff (s : String) : isPlain s = true ↔ Plain s := by
  rw [isPlain, Bool.and_eq_true, List.all_eq_true, List.all_eq_true]
  simp only [decide_eq_true_eq, Option.all_eq_true, Bool.not_eq_true']
  exact ⟨fun h => ⟨h.1, h.2⟩, fun h => ⟨h.ascii, h.letters⟩⟩

instance (s : String) : Decidable (Plain s) := decidable_of_iff _ (isPlain_iff s)

/-! ## Cutting before capitals -/

/-- Items are in a chain when each is related to all that are not the first. -/
theorem isChain_of_forall_mem_tail {α : Type} {r : α → α → Prop} {l : List α}
    (h : ∀ a ∈ l, ∀ b ∈ l.tail, r a b) : l.IsChain r := by
  induction l with
  | nil => exact .nil
  | cons a l ih =>
    cases l with
    | nil => exact .singleton a
    | cons b l =>
      refine .cons_cons (h a List.mem_cons_self b List.mem_cons_self) (ih fun x hx y hy => ?_)
      exact h x (List.mem_cons_of_mem a hx) y (List.mem_cons_of_mem b hy)

/-- **The capitalized words** of a plain name are found again before each capital. -/
theorem Plain.splitBy_upperCamelCase {s : String} (h : Plain s) :
    (upperCamelCase s).toList.splitBy (fun _ d => !d.isUpper) = camelWords s := by
  have hword : ∀ w ∈ words s.toList, IsAsciiWord w := fun w => isAsciiWord_of_mem_words h.ascii
  have hne : ∀ v ∈ camelWords s, v ≠ [] := fun v hv => (isAsciiWord_of_mem_camelWords h.ascii hv).1
  rw [toList_upperCamelCase]
  refine List.splitBy_flatten (fun hnil => hne [] hnil rfl) (fun v hv => ?_) ?_
  · -- inside a word there is no capital after the first character
    obtain ⟨w, hw, rfl⟩ := List.mem_map.1 hv
    obtain ⟨c, v, rfl, hcap⟩ := (hword w hw).exists_capitalize_eq
    rw [hcap]
    refine isChain_of_forall_mem_tail fun _ _ d hd => ?_
    obtain ⟨e, he, rfl⟩ := List.mem_map.1 hd
    rw [Text.isUpper_toLower ((hword _ hw).2 e (List.mem_cons_of_mem c he)).1, Bool.not_false]
  · -- every word after the first begins with a capital
    refine isChain_of_forall_mem_tail fun v hv v' hv' => ?_
    refine ⟨hne v hv, hne v' (List.mem_of_mem_tail hv'), ?_⟩
    rw [camelWords, ← List.map_tail] at hv'
    obtain ⟨w, hw, rfl⟩ := List.mem_map.1 hv'
    have hascii := hword w (List.mem_of_mem_tail hw)
    obtain ⟨c, u, rfl, hcap⟩ := hascii.exists_capitalize_eq
    obtain ⟨hc, halpha⟩ := hascii.2 c List.mem_cons_self
    simp only [hcap, List.head_cons, Text.isUpper_toUpper hc halpha (h.letters _ hw c rfl),
      Bool.not_true]

/-- **The type of a plain name determines its snake case.** -/
theorem snakeCase_eq_of_typeIdent_eq {s t : String} (hs : Plain s) (ht : Plain t)
    (h : typeIdent s = typeIdent t) : snakeCase s = snakeCase t := by
  have hcamel : upperCamelCase s = upperCamelCase t :=
    legalize_inj (isSpelling_upperCamelCase hs.ascii) (isSpelling_upperCamelCase ht.ascii) h
  have hwords : camelWords s = camelWords t := by
    rw [← hs.splitBy_upperCamelCase, hcamel, ht.splitBy_upperCamelCase]
  apply String.toList_injective
  rw [toList_snakeCase, toList_snakeCase, lowerWords_eq_map_camelWords hs.ascii,
    lowerWords_eq_map_camelWords ht.ascii, hwords]

end ErrorTaxonomy.Ident
