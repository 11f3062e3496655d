import ErrorTaxonomy.Proofs.Ident.Cuts
import ErrorTaxonomy.Proofs.Ident.ReadBack

/-! # Snake case — one spelling for all names with the same words

A run is cut before capitals only. So **lowered** words, joined by separators, are cut where they were
joined and nowhere else (`splitWords_intercalate`), and the snake case of an ASCII name, which joins its
lowered words, has them as its words (`words_snakeCase`). Whatever a name becomes by way of its lowered
words, its snake case becomes too:

* **`snakeCase_eq_iff`** — names have one snake case exactly when they have the same lowered words.
* **`snakeCase_canonical`** — snake case is a fixed point, and it determines the upper camel case.

The converse fails: words that run together do not show every cut, as those of `Io_1` do not. -/

namespace ErrorTaxonomy.Ident

/-! ## Joined words -/

/-- A word is **lowered**: it has characters, all of them part characters and none of them a capital. -/
structure IsLowered (k : CharClasses) (w : List Char) : Prop where
  ne_nil : w ≠ []
  part : ∀ c ∈ w, k.isPart c = true
  not_upper : ∀ c ∈ w, k.isUpper c = false

section Joined

variable {k : CharClasses} (hk : k.CasesApart)
include hk

/-- A run without capitals is one word. -/
theorem IsLowered.cutRun_eq {w : List Char} (h : IsLowered k w) : cutRun k .start [] w = [w] := by
  -- every cut stands before a capital
  have huncut : ∀ before c after, w = before ++ c :: after → before ≠ [] →
      ¬CutsBetween k before c after := by
    rintro before c after rfl - ⟨hupper, -⟩
    rw [h.not_upper c (by simp)] at hupper
    cases hupper
  exact (isCutting_cutRun hk h.ne_nil).unique (.single h.ne_nil huncut)

/-- **Joined words are cut where they were joined**, and nowhere else. -/
theorem splitWords_intercalate {sep : Char} (hsep : k.isPart sep = false) {ws : List (List Char)}
    (h : ∀ w ∈ ws, IsLowered k w) : splitWords k ([sep].intercalate ws) = ws := by
  -- the runs are the words, and each run is cut into itself
  have hruns : runs k ([sep].intercalate ws) = ws :=
    runs_intercalate hsep fun w hw => ⟨(h w hw).ne_nil, (h w hw).part⟩
  have hcuts : ws.map (cutRun k .start []) = ws.map fun w => [w] :=
    List.map_congr_left fun w hw => (h w hw).cutRun_eq hk
  calc splitWords k ([sep].intercalate ws)
      = (ws.map (cutRun k .start [])).flatten := by rw [splitWords, hruns, List.flatMap_def]
    _ = (ws.map fun w => [w]).flatten := by rw [hcuts]
    _ = ws := by rw [← List.flatMap_def, List.flatMap_singleton']

end Joined

/-! ## The words of a snake case -/

/-- A lowered ASCII word has no capital of any script. -/
theorem IsAsciiWord.isLowered_lowerWord {w : List Char} (h : IsAsciiWord w) :
    IsLowered .unicode (Text.lowerWord w) where
  ne_nil := h.lowerWord.1
  part c hc := by
    obtain ⟨hascii, halphanum⟩ := h.lowerWord.2 c hc
    exact (Text.isAlphanumeric_of_ascii hascii).trans halphanum
  not_upper c hc := by
    have hascii := h.lowerWord.ascii c hc
    rw [Text.lowerWord_of_ascii h.ascii] at hc
    obtain ⟨d, hd, rfl⟩ := List.mem_map.1 hc
    exact (Text.isUppercase_of_ascii hascii).trans (Text.isUpper_toLower (h.ascii d hd))

section Ascii

variable {s t : String} (hs : ∀ c ∈ s.toList, c.toNat < 0x80)
include hs

/-- The lowered words of an ASCII name, character by character. -/
theorem lowerWords_of_ascii : lowerWords s = (words s.toList).map (·.map Char.toLower) :=
  List.map_congr_left fun _ hw => Text.lowerWord_of_ascii (isAsciiWord_of_mem_words hs hw).ascii

/-- **The words of the snake case** are the lowered words. -/
theorem words_snakeCase : words (snakeCase s).toList = lowerWords s := by
  rw [toList_snakeCase]
  -- an underscore is a separator, so the spelling is cut at each of them
  refine splitWords_intercalate casesApart_unicode (by decide) fun v hv => ?_
  obtain ⟨w, hw, rfl⟩ := List.mem_map.1 hv
  exact (isAsciiWord_of_mem_words hs hw).isLowered_lowerWord

/-- The words of the snake case are lowered already. -/
theorem lowerWords_snakeCase : lowerWords (snakeCase s) = lowerWords s := by
  have hlower : ∀ w ∈ words s.toList, Text.lowerWord (Text.lowerWord w) = Text.lowerWord w :=
    fun w hw => Text.lowerWord_lowerWord (isAsciiWord_of_mem_words hs hw).ascii
  rw [lowerWords, words_snakeCase hs, lowerWords, List.map_map]
  exact List.map_congr_left hlower

variable (ht : ∀ c ∈ t.toList, c.toNat < 0x80)
include ht

/-- **Names have one snake case** exactly when they have the same lowered words. -/
theorem snakeCase_eq_iff : snakeCase s = snakeCase t ↔ lowerWords s = lowerWords t := by
  constructor
  · intro h
    rw [← words_snakeCase hs, h, words_snakeCase ht]
  · intro h
    apply String.toList_injective
    rw [toList_snakeCase, toList_snakeCase, h]

/-- Names with the same lowered words have one upper camel case. -/
theorem upperCamelCase_eq_of_lowerWords_eq (h : lowerWords s = lowerWords t) :
    upperCamelCase s = upperCamelCase t := by
  apply String.toList_injective
  rw [toList_upperCamelCase, toList_upperCamelCase, camelWords_eq_map_lowerWords hs,
    camelWords_eq_map_lowerWords ht, h]

end Ascii

/-- **Snake case is a canonical form** of ASCII names. Its words are the words of the name, lowered, so it
is its own snake case and has the upper camel case of the name. Two names have one snake case exactly when
their words are the same but for capitals, and then they have one upper camel case: a constructor, a field
or a module that is named after both comes with one type. -/
theorem snakeCase_canonical {s : String} (hs : ∀ c ∈ s.toList, c.toNat < 0x80) :
    words (snakeCase s).toList = (words s.toList).map (·.map Char.toLower) ∧
      snakeCase (snakeCase s) = snakeCase s ∧
      upperCamelCase (snakeCase s) = upperCamelCase s ∧
      ∀ t : String, (∀ c ∈ t.toList, c.toNat < 0x80) →
        (snakeCase s = snakeCase t ↔ (words s.toList).map (·.map Char.toLower) =
          (words t.toList).map (·.map Char.toLower)) ∧
        (snakeCase s = snakeCase t → upperCamelCase s = upperCamelCase t) ∧
        ("from_" ++ snakeCase s = "from_" ++ snakeCase t → typeIdent s = typeIdent t) ∧
        (fieldIdent s = fieldIdent t → typeIdent s = typeIdent t) := by
  have hsnake : ∀ c ∈ (snakeCase s).toList, c.toNat < 0x80 := (isSpelling_snakeCase hs).ascii
  have hlower : lowerWords (snakeCase s) = lowerWords s := lowerWords_snakeCase hs
  refine ⟨(words_snakeCase hs).trans (lowerWords_of_ascii hs), (snakeCase_eq_iff hsnake hs).2 hlower,
    upperCamelCase_eq_of_lowerWords_eq hsnake hs hlower, fun t ht => ?_⟩
  have hcamel : snakeCase s = snakeCase t → upperCamelCase s = upperCamelCase t := fun h =>
    upperCamelCase_eq_of_lowerWords_eq hs ht ((snakeCase_eq_iff hs ht).1 h)
  refine ⟨?_, hcamel, fun h => ?_, fun h => ?_⟩
  · rw [snakeCase_eq_iff hs ht, lowerWords_of_ascii hs, lowerWords_of_ascii ht]
  · exact congrArg legalize (hcamel ((String.append_right_inj "from_").1 h))
  · -- keywords are escaped apart from every other spelling
    have hsnakes : snakeCase s = snakeCase t :=
      legalize_inj (isSpelling_snakeCase hs) (isSpelling_snakeCase ht) h
    exact congrArg legalize (hcamel hsnakes)

/-- Digits, an acronym and separators at both ends: two names with one module and one type. -/
theorem snakeCase_canonical_acronym :
    ((∀ c ∈ "HTTP2ServerV1Error".toList, c.toNat < 0x80) ∧
      ∀ c ∈ "_http2--server_v1Error.".toList, c.toNat < 0x80) ∧
    snakeCase "HTTP2ServerV1Error" = "http2_server_v1_error" ∧
    words (snakeCase "HTTP2ServerV1Error").toList =
      ["http2", "server", "v1", "error"].map String.toList ∧
    snakeCase (snakeCase "HTTP2ServerV1Error") = snakeCase "HTTP2ServerV1Error" ∧
    upperCamelCase (snakeCase "HTTP2ServerV1Error") = upperCamelCase "HTTP2ServerV1Error" ∧
    fieldIdent "HTTP2ServerV1Error" = fieldIdent "_http2--server_v1Error." ∧
    typeIdent "HTTP2ServerV1Error" = typeIdent "_http2--server_v1Error." := by
  have hs : ∀ c ∈ "HTTP2ServerV1Error".toList, c.toNat < 0x80 := by simp
  have ht : ∀ c ∈ "_http2--server_v1Error.".toList, c.toNat < 0x80 := by simp
  have hsnake : snakeCase "HTTP2ServerV1Error" = "http2_server_v1_error" := by decide
  have hsame : snakeCase "HTTP2ServerV1Error" = snakeCase "_http2--server_v1Error." := by decide
  have hfield : fieldIdent "HTTP2ServerV1Error" = fieldIdent "_http2--server_v1Error." :=
    congrArg legalize hsame
  obtain ⟨hwords, hfixed, hcamel, hothers⟩ := snakeCase_canonical hs
  obtain ⟨-, -, -, htype⟩ := hothers "_http2--server_v1Error." ht
  exact ⟨⟨hs, ht⟩, hsnake, hwords.trans (by decide), hfixed, hcamel, hfield, htype hfield⟩

/-- One upper camel case does not make one snake case. -/
example : upperCamelCase "Io1" = upperCamelCase "Io_1" ∧ snakeCase "Io1" ≠ snakeCase "Io_1" := by
  decide

end ErrorTaxonomy.Ident
