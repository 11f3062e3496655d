import Mathlib.Tactic.SplitIfs
import ErrorTaxonomy.Ident.Path
import ErrorTaxonomy.Proofs.Ident.Words
import ErrorTaxonomy.Proofs.Text.CaseMap

/-! # Spellings — the characters of an identifier and the words that it is not

An identifier is made of word characters, underscores and the mark of a raw identifier (`spelled_fieldIdent`,
`spelled_typeIdent`), so a path of identifiers can be cut at its separators again and told from the text
around it (`pathSpelled_typePath`). It is never the keyword that leaves a module (`fieldIdent_ne_super`,
`typeIdent_ne_super`). -/

namespace ErrorTaxonomy.Ident

/-! ## Characters -/

/-- A character of an **identifier**. -/
def IsIdentChar (c : Char) : Prop := Text.IsWordChar c ∨ c = '_' ∨ c = '#'

instance : DecidablePred IsIdentChar := fun _ => inferInstanceAs (Decidable (_ ∨ _))

/-- A text is **spelled** with characters of identifiers only. -/
def Spelled (s : String) : Prop := ∀ c ∈ s.toList, IsIdentChar c

instance : DecidablePred Spelled := fun s => List.decidableBAll IsIdentChar s.toList

/-- A text is spelled with characters of identifiers and colons only, as a **path** is. -/
def PathSpelled (s : String) : Prop := ∀ c ∈ s.toList, IsIdentChar c ∨ c = ':'

instance : DecidablePred PathSpelled := fun s =>
  List.decidableBAll (fun c => IsIdentChar c ∨ c = ':') s.toList

/-- No other character stands in a spelled text. -/
theorem Spelled.notMem {s : String} (h : Spelled s) {c : Char} (hc : ¬ IsIdentChar c) :
    c ∉ s.toList := fun hmem => hc (h c hmem)

/-- No other character stands in a spelled path. -/
theorem PathSpelled.notMem {s : String} (h : PathSpelled s) {c : Char}
    (hc : ¬ (IsIdentChar c ∨ c = ':')) : c ∉ s.toList := fun hmem => hc (h c hmem)

/-- A spelled path has no line feed. -/
theorem PathSpelled.newline_notMem {s : String} (h : PathSpelled s) : '\n' ∉ s.toList :=
  h.notMem (by decide)

/-- A spelled path has no blank. -/
theorem PathSpelled.blank_notMem {s : String} (h : PathSpelled s) : ' ' ∉ s.toList :=
  h.notMem (by decide)

/-- Spelled texts in a row are spelled. -/
theorem Spelled.append {s t : String} (hs : Spelled s) (ht : Spelled t) : Spelled (s ++ t) := by
  intro c hc
  rw [String.toList_append, List.mem_append] at hc
  exact hc.elim (hs c) (ht c)

/-- Spelled paths in a row are spelled. -/
theorem PathSpelled.append {s t : String} (hs : PathSpelled s) (ht : PathSpelled t) :
    PathSpelled (s ++ t) := by
  intro c hc
  rw [String.toList_append, List.mem_append] at hc
  exact hc.elim (hs c) (ht c)

/-- A spelled text is a spelled path. -/
theorem Spelled.path {s : String} (h : Spelled s) : PathSpelled s := fun c hc => .inl (h c hc)

/-- What stands in joined lists stands in one of them or between them. -/
theorem mem_of_mem_intercalate {α : Type} {sep : List α} {ws : List (List α)} {a : α}
    (h : a ∈ sep.intercalate ws) : a ∈ sep ∨ ∃ w ∈ ws, a ∈ w := by
  induction ws with
  | nil => simp at h
  | cons w ws ih =>
    cases ws with
    | nil => exact .inr ⟨w, List.mem_cons_self, by simpa using h⟩
    | cons v ws =>
      rw [List.intercalate_cons_cons, List.mem_append, List.mem_append] at h
      obtain (h | h) | h := h
      · exact .inr ⟨w, List.mem_cons_self, h⟩
      · exact .inl h
      · exact (ih h).imp_right fun ⟨x, hx, ha⟩ => ⟨x, List.mem_cons_of_mem w hx, ha⟩

/-- The snake case of a name is spelled. -/
theorem spelled_snakeCase (s : String) : Spelled (snakeCase s) := by
  intro c hc
  rw [snakeCase, String.toList_ofList] at hc
  rcases mem_of_mem_intercalate hc with hc | ⟨w, hw, hc⟩
  · exact .inr (.inl (List.mem_singleton.1 hc))
  · obtain ⟨v, hv, rfl⟩ := List.mem_map.1 hw
    exact .inl (Text.isWordChar_of_mem_lowerWord (fun d hd => (part_of_mem_splitWords hv hd).2) hc)

/-- The upper camel case of a name is spelled. -/
theorem spelled_upperCamelCase (s : String) : Spelled (upperCamelCase s) := by
  intro c hc
  rw [upperCamelCase, String.toList_ofList, List.mem_flatMap] at hc
  obtain ⟨w, hw, hc⟩ := hc
  exact .inl (Text.isWordChar_of_mem_capitalize (fun d hd => (part_of_mem_splitWords hw hd).2) hc)

/-- Making a spelling legal keeps it spelled. -/
theorem Spelled.legalize {s : String} (h : Spelled s) : Spelled (legalize s) := by
  have hunderscore : Spelled "_" := by decide
  have hraw : Spelled "r#" := by decide
  unfold Ident.legalize
  split_ifs
  · exact h.append hunderscore
  · exact hraw.append h
  · exact hunderscore.append h
  · exact h

/-- **A field or module** has a spelled identifier. -/
theorem spelled_fieldIdent (s : String) : Spelled (fieldIdent s) := (spelled_snakeCase s).legalize

/-- **A type or variant** has a spelled identifier. -/
theorem spelled_typeIdent (s : String) : Spelled (typeIdent s) := (spelled_upperCamelCase s).legalize

/-- A field or module has no colon in its identifier. -/
theorem colon_notMem_fieldIdent (s : String) : ':' ∉ (fieldIdent s).toList :=
  (spelled_fieldIdent s).notMem (by decide)

/-- A type has no colon in its identifier. -/
theorem colon_notMem_typeIdent (s : String) : ':' ∉ (typeIdent s).toList :=
  (spelled_typeIdent s).notMem (by decide)

/-! ## Paths -/

/-- A path of spelled segments is spelled. -/
theorem pathSpelled_intercalate {ns : List String} (h : ∀ n ∈ ns, Spelled n) :
    PathSpelled (String.intercalate "::" ns) := by
  intro c hc
  rw [String.toList_intercalate] at hc
  rcases mem_of_mem_intercalate hc with hc | ⟨w, hw, hc⟩
  · have hcolons : PathSpelled "::" := by decide
    exact hcolons c hc
  · obtain ⟨n, hn, rfl⟩ := List.mem_map.1 hw
    exact .inl (h n hn c hc)

/-- **The path of a type** is spelled. -/
theorem pathSpelled_typePath (home package : String) (parents : List String) (name : String) :
    PathSpelled (typePath home package parents name).render := by
  have hsuper : Spelled "super" := by decide
  refine pathSpelled_intercalate fun n hn => ?_
  unfold typePath ItemPath.segments at hn
  simp only [List.mem_append, List.mem_map, List.mem_singleton] at hn
  rcases hn with hn | (⟨s, -, rfl⟩ | ⟨s, -, rfl⟩) | rfl
  · rwa [List.eq_of_mem_replicate hn]
  · exact spelled_fieldIdent s
  · exact spelled_fieldIdent s
  · exact spelled_typeIdent name

/-! ## Keywords -/

/-- A legal spelling does not leave a module. -/
theorem legalize_ne_super (s : String) : legalize s ≠ "super" := by
  rw [legalize]
  split_ifs with hun hraw hnum
  · -- what cannot be raw gets another last character
    intro h
    have hlast := congrArg (·.toList.getLast?) h
    simp at hlast
  · intro h
    have hhead := congrArg (·.toList.head?) h
    simp at hhead
  · intro h
    have hhead := congrArg (·.toList.head?) h
    simp at hhead
  · rintro rfl
    exact hun (by decide)

/-- **A field or module** does not leave a module. -/
theorem fieldIdent_ne_super (s : String) : fieldIdent s ≠ "super" := legalize_ne_super _

/-- **A type** does not leave a module. -/
theorem typeIdent_ne_super (s : String) : typeIdent s ≠ "super" := legalize_ne_super _

end ErrorTaxonomy.Ident
