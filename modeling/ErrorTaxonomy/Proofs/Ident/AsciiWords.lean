import ErrorTaxonomy.Proofs.Ident.Spelling

/-! # ASCII words — what the spellings of an ASCII name are made of

The words of an ASCII name are made of ASCII letters and digits, and a change of case keeps them so
(`IsAsciiWord.lowerWord`, `IsAsciiWord.capitalize`). Snake case puts one underscore between any two of
them and camel case runs them together, so both give a **spelling** (`isSpelling_snakeCase`,
`isSpelling_upperCamelCase`). -/

namespace ErrorTaxonomy.Ident

/-! ## Words -/

/-- A word of ASCII letters and digits. -/
def IsAsciiWord (w : List Char) : Prop :=
  w ≠ [] ∧ ∀ c ∈ w, c.toNat < 0x80 ∧ c.isAlphanum = true

/-- A word is ASCII. -/
theorem IsAsciiWord.ascii {w : List Char} (h : IsAsciiWord w) : ∀ c ∈ w, c.toNat < 0x80 :=
  fun c hc => (h.2 c hc).1

/-- The words of an ASCII name are ASCII words. -/
theorem isAsciiWord_of_mem_words {s : String} (h : ∀ c ∈ s.toList, c.toNat < 0x80)
    {w : List Char} (hw : w ∈ words s.toList) : IsAsciiWord w := by
  refine ⟨ne_nil_of_mem_splitWords hw, fun c hc => ?_⟩
  obtain ⟨hin, hpart⟩ := part_of_mem_splitWords hw hc
  have hascii := h c hin
  have hpart' : Text.isAlphanumeric c = true := hpart
  rw [Text.isAlphanumeric_of_ascii hascii] at hpart'
  exact ⟨hascii, hpart'⟩

/-- A letter or digit is still one in the other case. -/
theorem isAlphanum_toUpper_and_toLower {c : Char} (h : c.isAlphanum = true) :
    c.toUpper.isAlphanum = true ∧ c.toLower.isAlphanum = true :=
  Text.forall_ascii (P := fun c => c.isAlphanum = true →
    c.toUpper.isAlphanum = true ∧ c.toLower.isAlphanum = true) (by decide)
    (Text.ascii_of_isAlphanum h) h

/-- Letters and digits are a word. -/
theorem isAsciiWord_of_isAlphanum {w : List Char} (hne : w ≠ [])
    (h : ∀ c ∈ w, c.isAlphanum = true) : IsAsciiWord w :=
  ⟨hne, fun c hc => ⟨Text.ascii_of_isAlphanum (h c hc), h c hc⟩⟩

/-- An ASCII word is capitalized in its first character and lowered in all others. -/
theorem IsAsciiWord.exists_capitalize_eq {w : List Char} (h : IsAsciiWord w) : ∃ c v, w = c :: v ∧
    Text.capitalize w = c.toUpper :: v.map Char.toLower := by
  obtain ⟨c, v, rfl⟩ := List.exists_cons_of_ne_nil h.1
  exact ⟨c, v, rfl, Text.capitalize_of_ascii h.ascii⟩

/-- A capitalized ASCII word is an ASCII word. -/
theorem IsAsciiWord.capitalize {w : List Char} (h : IsAsciiWord w) :
    IsAsciiWord (Text.capitalize w) := by
  obtain ⟨c, v, rfl, hcap⟩ := h.exists_capitalize_eq
  rw [hcap]
  refine isAsciiWord_of_isAlphanum (List.cons_ne_nil _ _) fun d hd => ?_
  obtain rfl | hd := List.mem_cons.1 hd
  · exact (isAlphanum_toUpper_and_toLower (h.2 c List.mem_cons_self).2).1
  · obtain ⟨e, he, rfl⟩ := List.mem_map.1 hd
    exact (isAlphanum_toUpper_and_toLower (h.2 e (List.mem_cons_of_mem c he)).2).2

/-- A lowered ASCII word is an ASCII word. -/
theorem IsAsciiWord.lowerWord {w : List Char} (h : IsAsciiWord w) :
    IsAsciiWord (Text.lowerWord w) := by
  rw [Text.lowerWord_of_ascii h.ascii]
  refine isAsciiWord_of_isAlphanum (by simpa using h.1) fun d hd => ?_
  obtain ⟨c, hc, rfl⟩ := List.mem_map.1 hd
  exact (isAlphanum_toUpper_and_toLower (h.2 c hc).2).2

/-! ## Spellings -/

/-- A **spelling**: ASCII words with one underscore between any two. No underscore stands at an end of it
or next to another one. -/
def IsSpelling (s : String) : Prop :=
  ∃ ws, (∀ w ∈ ws, IsAsciiWord w) ∧ s.toList = ['_'].intercalate ws

/-- A spelling is made of letters, digits and underscores. -/
theorem IsSpelling.isAlphanum_or_eq {s : String} (h : IsSpelling s) {c : Char} (hc : c ∈ s.toList) :
    c.isAlphanum = true ∨ c = '_' := by
  obtain ⟨ws, hws, hs⟩ := h
  rw [hs] at hc
  obtain hc | ⟨w, hw, hcw⟩ := mem_of_mem_intercalate hc
  · exact .inr (List.mem_singleton.1 hc)
  · exact .inl ((hws w hw).2 c hcw).2

/-- A spelling is ASCII. -/
theorem IsSpelling.ascii {s : String} (h : IsSpelling s) : ∀ c ∈ s.toList, c.toNat < 0x80 := by
  intro c hc
  obtain halphanum | rfl := h.isAlphanum_or_eq hc
  · exact Text.ascii_of_isAlphanum halphanum
  · decide

/-- The lowered words of a name. -/
def lowerWords (s : String) : List (List Char) := (words s.toList).map Text.lowerWord

/-- The snake case of a name joins its lowered words. -/
theorem toList_snakeCase (s : String) : (snakeCase s).toList = ['_'].intercalate (lowerWords s) := by
  rw [snakeCase, String.toList_ofList, lowerWords]

/-- The capitalized words of a name. -/
def camelWords (s : String) : List (List Char) := (words s.toList).map Text.capitalize

/-- The upper camel case of a name runs its capitalized words together. -/
theorem toList_upperCamelCase (s : String) : (upperCamelCase s).toList = (camelWords s).flatten := by
  rw [upperCamelCase, String.toList_ofList, camelWords, List.flatMap_def]

section Ascii

variable {s : String} (h : ∀ c ∈ s.toList, c.toNat < 0x80)
include h

/-- The lowered words of an ASCII name are ASCII words. -/
theorem isAsciiWord_of_mem_lowerWords {v : List Char} (hv : v ∈ lowerWords s) : IsAsciiWord v := by
  obtain ⟨w, hw, rfl⟩ := List.mem_map.1 hv
  exact (isAsciiWord_of_mem_words h hw).lowerWord

/-- **The snake case** of an ASCII name is a spelling. -/
theorem isSpelling_snakeCase : IsSpelling (snakeCase s) :=
  ⟨lowerWords s, fun _ => isAsciiWord_of_mem_lowerWords h, toList_snakeCase s⟩

/-- The capitalized words of an ASCII name are ASCII words. -/
theorem isAsciiWord_of_mem_camelWords {v : List Char} (hv : v ∈ camelWords s) : IsAsciiWord v := by
  obtain ⟨w, hw, rfl⟩ := List.mem_map.1 hv
  exact (isAsciiWord_of_mem_words h hw).capitalize

/-- The capitalized words are the lowered ones with a capital. -/
theorem camelWords_eq_map_lowerWords : camelWords s = (lowerWords s).map Text.capitalize := by
  have hcap : ∀ w ∈ words s.toList, Text.capitalize w = Text.capitalize (Text.lowerWord w) :=
    fun w hw => (Text.capitalize_lowerWord (isAsciiWord_of_mem_words h hw).ascii).symm
  rw [camelWords, lowerWords, List.map_map]
  exact List.map_congr_left hcap

/-- The lowered words are the capitalized ones without their capitals. -/
theorem lowerWords_eq_map_camelWords : lowerWords s = (camelWords s).map (·.map Char.toLower) := by
  have hlower : ∀ w ∈ words s.toList, Text.lowerWord w = (Text.capitalize w).map Char.toLower :=
    fun w hw => (Text.map_toLower_capitalize (isAsciiWord_of_mem_words h hw).ascii).symm
  rw [camelWords, lowerWords, List.map_map]
  exact List.map_congr_left hlower

/-- The upper camel case of an ASCII name is made of ASCII letters and digits. -/
theorem isAlphanum_upperCamelCase : ∀ c ∈ (upperCamelCase s).toList, c.isAlphanum = true := by
  rw [toList_upperCamelCase]
  intro c hc
  obtain ⟨v, hv, hcv⟩ := List.mem_flatten.1 hc
  exact ((isAsciiWord_of_mem_camelWords h hv).2 c hcv).2

/-- **The upper camel case** of an ASCII name is a spelling, of one word at most. -/
theorem isSpelling_upperCamelCase : IsSpelling (upperCamelCase s) := by
  by_cases hnil : (upperCamelCase s).toList = []
  · exact ⟨[], by simp, by simpa using hnil⟩
  · have hword := isAsciiWord_of_isAlphanum hnil (isAlphanum_upperCamelCase h)
    exact ⟨[(upperCamelCase s).toList], by simpa using hword, by simp⟩

end Ascii

end ErrorTaxonomy.Ident
