import ErrorTaxonomy.Ident.Path
import ErrorTaxonomy.Proofs.Ident.AsciiWords
import ErrorTaxonomy.Proofs.Ident.Runs

/-! # Legal names — what is made of a schema name is an identifier

The target language has two forms of identifiers: a word that is no keyword, and a keyword with the mark
of a raw identifier in front. A schema name is **spellable** when it is ASCII and has a letter or digit.
Each name that is made of a spellable one is an identifier, whatever else stands in it
(`Spellable.isIdentifier_fieldIdent`, `Spellable.isIdentifier_typeIdent`), and a path of such names goes
through identifiers only (`isIdentifier_of_mem_segments`). -/

namespace ErrorTaxonomy.Ident

/-! ## Identifiers of the target language -/

/-- The strict keywords. -/
def strictKeywords : List String := [
  "as", "async", "await", "break", "const", "continue", "crate", "dyn", "else", "enum", "extern",
  "false", "fn", "for", "if", "impl", "in", "let", "loop", "match", "mod", "move", "mut", "pub", "ref",
  "return", "self", "Self", "static", "struct", "super", "trait", "true", "type", "unsafe", "use",
  "where", "while"]

/-- The keywords that are reserved for later. -/
def reservedKeywords : List String := [
  "abstract", "become", "box", "do", "final", "gen", "macro", "override", "priv", "try", "typeof",
  "unsized", "virtual", "yield"]

/-- The keywords of paths, which are never written raw. -/
def pathKeywords : List String := ["crate", "self", "super", "Self"]

/-- Whether a word is a keyword. -/
def IsKeyword (s : String) : Prop := s ∈ strictKeywords ∨ s ∈ reservedKeywords

instance : DecidablePred IsKeyword := fun _ => inferInstanceAs (Decidable (_ ∨ _))

/-- An **identifier** of the target language. -/
inductive IsIdentifier : String → Prop
  /-- A keyword, written raw. -/
  | raw {k : String} (keyword : IsKeyword k) (may : k ∉ pathKeywords) : IsIdentifier ("r#" ++ k)
  /-- A word of letters, digits and underscores that does not start with a digit. -/
  | word {s : String} (chars : ∀ c ∈ s.toList, c.isAlphanum = true ∨ c = '_')
      (first : ∃ c ∈ s.toList.head?, c.isAlpha = true ∨ c = '_') (ne_underscore : s ≠ "_")
      (not_keyword : ¬IsKeyword s) : IsIdentifier s

/-- Every keyword is made legal, by an underscore or the mark of a raw identifier. -/
theorem mem_of_isKeyword {s : String} (h : IsKeyword s) : s ∈ unrawable ∨ s ∈ rawable := by
  have hstrict : ∀ k ∈ strictKeywords, k ∈ unrawable ∨ k ∈ rawable := by decide
  have hreserved : ∀ k ∈ reservedKeywords, k ∈ unrawable ∨ k ∈ rawable := by decide
  exact h.elim (hstrict s) (hreserved s)

/-- What is written raw is a keyword that may be. -/
theorem isKeyword_of_mem_rawable {s : String} (h : s ∈ rawable) : IsKeyword s ∧ s ∉ pathKeywords := by
  have hall : ∀ k ∈ rawable, IsKeyword k ∧ k ∉ pathKeywords := by decide
  exact hall s h

/-- No keyword has an underscore. -/
theorem underscore_notMem_of_isKeyword {s : String} (h : IsKeyword s) : '_' ∉ s.toList := by
  have hstrict : ∀ k ∈ strictKeywords, '_' ∉ k.toList := by decide
  have hreserved : ∀ k ∈ reservedKeywords, '_' ∉ k.toList := by decide
  exact h.elim (hstrict s) (hreserved s)

/-- A word with an underscore that starts as an identifier is one, unless it is the lone underscore. -/
theorem isIdentifier_of_underscore {s : String} {c : Char} {r : List Char} (hs : s.toList = c :: r)
    (hchars : ∀ d ∈ c :: r, d.isAlphanum = true ∨ d = '_') (hfirst : c.isAlpha = true ∨ c = '_')
    (hne : r ≠ []) (hunderscore : '_' ∈ c :: r) : IsIdentifier s := by
  refine .word (by rwa [hs]) ⟨c, by rw [hs]; rfl, hfirst⟩ (fun heq => ?_) (fun hkeyword => ?_)
  · rw [heq] at hs
    exact hne (List.cons.inj hs).2.symm
  · exact underscore_notMem_of_isKeyword hkeyword (hs ▸ hunderscore)

/-- What cannot be written raw is a word of its own with an underscore behind it. -/
theorem isIdentifier_append_underscore {s : String} (h : s ∈ unrawable)
    (hchars : ∀ c ∈ s.toList, c.isAlphanum = true ∨ c = '_') : IsIdentifier (s ++ "_") := by
  have hall : ∀ k ∈ unrawable, (k.toList.head?.any fun c => c.isAlpha || c == '_') = true := by decide
  obtain ⟨c, hc, hfirst⟩ := (Option.any_eq_true _ _).1 (hall s h)
  obtain ⟨r, hr⟩ := List.head?_eq_some_iff.1 hc
  have hlist : (s ++ "_").toList = c :: (r ++ ['_']) := by
    rw [String.toList_append, hr]
    rfl
  refine isIdentifier_of_underscore hlist (fun d hd => ?_) (by simpa using hfirst) (by simp) (by simp)
  rw [← List.cons_append, ← hr, List.mem_append, List.mem_singleton] at hd
  exact hd.elim (hchars d) .inr

/-- **A word is made an identifier**, when it has characters. -/
theorem isIdentifier_legalize {s : String} (hne : s ≠ "")
    (hchars : ∀ c ∈ s.toList, c.isAlphanum = true ∨ c = '_') : IsIdentifier (legalize s) := by
  rw [legalize]
  split_ifs with hun hraw hnum
  · exact isIdentifier_append_underscore hun hchars
  · obtain ⟨hkeyword, hmay⟩ := isKeyword_of_mem_rawable hraw
    exact .raw hkeyword hmay
  · have hlist : ("_" ++ s).toList = '_' :: s.toList := String.toList_append
    refine isIdentifier_of_underscore hlist (fun c hc => ?_) (.inr rfl) ?_ List.mem_cons_self
    · obtain rfl | hc := List.mem_cons.1 hc
      · exact .inr rfl
      · exact hchars c hc
    · exact mt String.toList_eq_nil_iff.1 hne
  · refine .word hchars ?_ (fun heq => hun (by rw [heq]; decide)) ?_
    · obtain ⟨c, r, hs⟩ := List.exists_cons_of_ne_nil (mt String.toList_eq_nil_iff.1 hne)
      refine ⟨c, by rw [hs]; rfl, ?_⟩
      -- the first character is no number, so no digit
      obtain halphanum | rfl := hchars c (by rw [hs]; exact List.mem_cons_self)
      · have hdigit : c.isDigit = false := by
          rw [← Text.isNumeric_of_ascii (Text.ascii_of_isAlphanum halphanum)]
          simpa [startsWithNumber, hs] using hnum
        rw [Char.isAlphanum, hdigit, Bool.or_false] at halphanum
        exact .inl halphanum
      · exact .inr rfl
    · exact fun hkeyword => (mem_of_isKeyword hkeyword).elim hun hraw

/-! ## Spellable names -/

/-- A name is **spellable**: it is ASCII and has a letter or digit. -/
structure Spellable (s : String) : Prop where
  ascii : ∀ c ∈ s.toList, c.toNat < 0x80
  alphanum : ∃ c ∈ s.toList, c.isAlphanum = true

/-- Whether a name is spellable. -/
def isSpellable (s : String) : Bool :=
  s.toList.all (fun c => decide (c.toNat < 0x80)) && s.toList.any Char.isAlphanum

/-- Being spellable is computed from the characters of a name. -/
theorem isSpellable_iff (s : String) : isSpellable s = true ↔ Spellable s := by
  rw [isSpellable, Bool.and_eq_true, List.all_eq_true, List.any_eq_true]
  simp only [decide_eq_true_eq]
  exact ⟨fun h => ⟨h.1, h.2⟩, fun h => ⟨h.ascii, h.alphanum⟩⟩

instance : DecidablePred Spellable := fun s => decidable_of_iff _ (isSpellable_iff s)

section Spellable

variable {s : String} (h : Spellable s)
include h

/-- A spellable name has words. -/
theorem Spellable.words_ne_nil : words s.toList ≠ [] := by
  obtain ⟨c, hc, halphanum⟩ := h.alphanum
  have hpart : c ∈ s.toList.filter Text.isAlphanumeric := by
    rw [List.mem_filter, Text.isAlphanumeric_of_ascii (h.ascii c hc)]
    exact ⟨hc, halphanum⟩
  intro hnil
  have hflat : (words s.toList).flatten = s.toList.filter Text.isAlphanumeric :=
    flatten_splitWords .unicode s.toList
  rw [← hflat, hnil] at hpart
  cases hpart

/-- The snake case of a spellable name has characters. -/
theorem Spellable.snakeCase_ne_empty : snakeCase s ≠ "" := by
  intro hempty
  obtain ⟨w, ws, hws⟩ := List.exists_cons_of_ne_nil h.words_ne_nil
  have hword : Text.lowerWord w ≠ [] :=
    (isAsciiWord_of_mem_words h.ascii (hws ▸ List.mem_cons_self)).lowerWord.1
  have hnil : (snakeCase s).toList = [] := String.toList_eq_nil_iff.2 hempty
  rw [snakeCase, String.toList_ofList, hws, List.map_cons] at hnil
  cases ws with
  | nil =>
    rw [List.map_nil, List.intercalate_singleton] at hnil
    exact hword hnil
  | cons v ws => simp [List.intercalate_cons_cons] at hnil

/-- The upper camel case of a spellable name has characters. -/
theorem Spellable.upperCamelCase_ne_empty : upperCamelCase s ≠ "" := by
  intro hempty
  obtain ⟨w, ws, hws⟩ := List.exists_cons_of_ne_nil h.words_ne_nil
  have hword : Text.capitalize w ≠ [] :=
    (isAsciiWord_of_mem_words h.ascii (hws ▸ List.mem_cons_self)).capitalize.1
  have hnil : (upperCamelCase s).toList = [] := String.toList_eq_nil_iff.2 hempty
  rw [toList_upperCamelCase, camelWords, hws, List.map_cons, List.flatten_cons,
    List.append_eq_nil_iff] at hnil
  exact hword hnil.1

/-- **A field or module** of a spellable name has an identifier. -/
theorem Spellable.isIdentifier_fieldIdent : IsIdentifier (fieldIdent s) :=
  isIdentifier_legalize h.snakeCase_ne_empty fun _ => (isSpelling_snakeCase h.ascii).isAlphanum_or_eq

/-- **A type or variant** of a spellable name has an identifier. -/
theorem Spellable.isIdentifier_typeIdent : IsIdentifier (typeIdent s) :=
  isIdentifier_legalize h.upperCamelCase_ne_empty fun _ =>
    (isSpelling_upperCamelCase h.ascii).isAlphanum_or_eq

/-- A function that is named after a spellable name has an identifier. -/
theorem Spellable.isIdentifier_constructor : IsIdentifier ("from_" ++ snakeCase s) := by
  have hlist : ("from_" ++ snakeCase s).toList =
      'f' :: ("rom_".toList ++ (snakeCase s).toList) := String.toList_append
  refine isIdentifier_of_underscore hlist (fun c hc => ?_) (by decide) (by simp) (by simp)
  rw [← List.cons_append, List.mem_append] at hc
  obtain hc | hc := hc
  · have hall : ('f' :: "rom_".toList).all (fun c => c.isAlphanum || c == '_') = true := by decide
    simpa using List.all_eq_true.1 hall c hc
  · exact (isSpelling_snakeCase h.ascii).isAlphanum_or_eq hc

end Spellable

/-- **A path of spellable names** goes up and then through identifiers. -/
theorem isIdentifier_of_mem_segments {home package : String} {parents : List String} {name : String}
    (h : ∀ p ∈ packageSegments package ++ (parents ++ [name]), Spellable p) {n : String}
    (hn : n ∈ (typePath home package parents name).segments) : n = "super" ∨ IsIdentifier n := by
  rw [ItemPath.segments, List.mem_append] at hn
  obtain hn | hn := hn
  · exact .inl (List.mem_replicate.1 hn).2
  · refine .inr ?_
    rw [typePath, List.mem_append, List.mem_append, List.mem_singleton] at hn
    obtain (hn | hn) | hn := hn
    · obtain ⟨p, hp, rfl⟩ := List.mem_map.1 hn
      exact (h p (List.mem_append_left _ (List.mem_of_mem_drop hp))).isIdentifier_fieldIdent
    · obtain ⟨p, hp, rfl⟩ := List.mem_map.1 hn
      exact (h p (by simp [hp])).isIdentifier_fieldIdent
    · rw [hn]
      exact (h name (by simp)).isIdentifier_typeIdent

end ErrorTaxonomy.Ident
