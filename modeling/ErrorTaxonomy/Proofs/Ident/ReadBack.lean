import ErrorTaxonomy.Proofs.Ident.AsciiWords

/-! # Reading back — the spelling behind an identifier

What makes a spelling legal is marked on it: a raw identifier has a `#`, and the other marks are
underscores at an end, where no spelling has one. So the spelling can be **read back**
(`spellingOf_legalize`), and identifiers are the same exactly when their spellings are
(`idents_eq_iff`). -/

namespace ErrorTaxonomy.Ident

/-! ## The reader -/

/-- The pieces of a text between its underscores. -/
def pieces (l : List Char) : List (List Char) := (l.splitOn '_').filter fun w => !w.isEmpty

/-- The **spelling** that an identifier is read as: what stands behind the mark of a raw identifier, and
the pieces of any other one with an underscore between any two. -/
def spellingOf (i : String) : String :=
  if '#' ∈ i.toList then String.ofList (i.toList.drop 2)
  else String.ofList (['_'].intercalate (pieces i.toList))

@[simp] theorem pieces_nil : pieces [] = [] := rfl

/-- An underscore ends a piece. -/
theorem pieces_append_cons (l r : List Char) : pieces (l ++ '_' :: r) = pieces l ++ pieces r := by
  rw [pieces, List.splitOn_append_cons_self, List.filter_append]
  rfl

/-- The pieces of joined ASCII words are the words. -/
theorem pieces_intercalate {ws : List (List Char)} (h : ∀ w ∈ ws, IsAsciiWord w) :
    pieces (['_'].intercalate ws) = ws := by
  by_cases hnil : ws = []
  · subst hnil
    rfl
  · have hunderscore : ∀ w ∈ ws, '_' ∉ w := fun w hw hmem =>
      absurd ((h w hw).2 '_' hmem).2 (by decide)
    rw [pieces, List.splitOn_intercalate '_' hunderscore hnil, List.filter_eq_self]
    exact fun w hw => by simpa using (h w hw).1

/-- What has the pieces of a spelling, and no mark of a raw identifier, is read as that spelling. -/
theorem IsSpelling.spellingOf_eq {s i : String} (hs : IsSpelling s) (hhash : '#' ∉ i.toList)
    (h : pieces i.toList = pieces s.toList) : spellingOf i = s := by
  obtain ⟨ws, hws, hjoin⟩ := hs
  rw [spellingOf, if_neg hhash, h, hjoin, pieces_intercalate hws, ← hjoin, String.ofList_toList]

/-- **An identifier gives its spelling back.** -/
theorem spellingOf_legalize {s : String} (hs : IsSpelling s) : spellingOf (legalize s) = s := by
  have hhash : '#' ∉ s.toList := fun hmem =>
    (hs.isAlphanum_or_eq hmem).elim (fun h => absurd h (by decide)) (fun h => absurd h (by decide))
  have hunderscore : "_".toList = ['_'] := rfl
  rw [legalize]
  split_ifs with hun hraw hnum
  · -- an underscore behind
    refine hs.spellingOf_eq (by simpa using hhash) ?_
    rw [String.toList_append, hunderscore, pieces_append_cons, pieces_nil, List.append_nil]
  · have hmark : '#' ∈ ("r#" ++ s).toList := by simp
    rw [spellingOf, if_pos hmark, String.toList_append]
    exact String.ofList_toList
  · -- an underscore in front
    refine hs.spellingOf_eq (by simpa using hhash) ?_
    rw [String.toList_append, hunderscore]
    exact pieces_append_cons [] s.toList
  · exact hs.spellingOf_eq hhash rfl

/-! ## Identifiers -/

/-- Spellings with one identifier are one spelling. -/
theorem legalize_inj {s t : String} (hs : IsSpelling s) (ht : IsSpelling t)
    (h : legalize s = legalize t) : s = t := by
  rw [← spellingOf_legalize hs, h, spellingOf_legalize ht]

/-- Spellings have one identifier exactly when they are the same. -/
theorem legalize_eq_iff {s t : String} (hs : IsSpelling s) (ht : IsSpelling t) :
    legalize s = legalize t ↔ s = t :=
  ⟨legalize_inj hs ht, congrArg legalize⟩

/-- **Identifiers are the same exactly when their spellings are.** Of ASCII names, two fields or modules
have one identifier when their snake cases are the same, two types or variants when their upper camel
cases are, and a field and a type when the snake case of the one is the upper camel case of the other. -/
theorem idents_eq_iff {s t : String} (hs : ∀ c ∈ s.toList, c.toNat < 0x80)
    (ht : ∀ c ∈ t.toList, c.toNat < 0x80) :
    (fieldIdent s = fieldIdent t ↔ snakeCase s = snakeCase t) ∧
      (typeIdent s = typeIdent t ↔ upperCamelCase s = upperCamelCase t) ∧
      (fieldIdent s = typeIdent t ↔ snakeCase s = upperCamelCase t) :=
  ⟨legalize_eq_iff (isSpelling_snakeCase hs) (isSpelling_snakeCase ht),
    legalize_eq_iff (isSpelling_upperCamelCase hs) (isSpelling_upperCamelCase ht),
    legalize_eq_iff (isSpelling_snakeCase hs) (isSpelling_upperCamelCase ht)⟩

/-- A keyword without a raw form, in two casings: one field, and one type with another identifier. -/
theorem idents_eq_iff_self :
    ((∀ c ∈ "self".toList, c.toNat < 0x80) ∧ ∀ c ∈ "SELF_".toList, c.toNat < 0x80) ∧
      fieldIdent "self" = fieldIdent "SELF_" ∧ typeIdent "self" = typeIdent "SELF_" ∧
      fieldIdent "self" ≠ typeIdent "SELF_" := by
  have hs : ∀ c ∈ "self".toList, c.toNat < 0x80 := by simp
  have ht : ∀ c ∈ "SELF_".toList, c.toNat < 0x80 := by simp
  obtain ⟨hfield, htype, hcross⟩ := idents_eq_iff hs ht
  refine ⟨⟨hs, ht⟩, hfield.2 ?_, htype.2 ?_, mt hcross.1 ?_⟩
  · decide +kernel
  · decide +kernel
  · decide +kernel

end ErrorTaxonomy.Ident
