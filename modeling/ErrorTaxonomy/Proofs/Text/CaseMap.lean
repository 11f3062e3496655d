import ErrorTaxonomy.Proofs.Text.Ascii
import ErrorTaxonomy.Text.Alphanumeric
import ErrorTaxonomy.Text.CaseMap

/-! # Case mapping — what a change of case keeps

A change of case makes **word characters** of letters and numbers of any script: in ASCII there is nothing
but letters and digits among them (`isWordChar_of_mem_lowerWord`, `isWordChar_of_mem_capitalize`). On
ASCII a word is mapped character by character, its capital is forgotten when it is lowered again
(`map_toLower_capitalize`), and its lowered form has the same capital (`capitalize_lowerWord`). -/

namespace ErrorTaxonomy.Text

/-! ## Word characters -/

/-- A **word character** is a letter or digit of ASCII, or any character beyond ASCII. -/
def IsWordChar (c : Char) : Prop := c.toNat < 0x80 → c.isAlphanum = true

instance : DecidablePred IsWordChar := fun c =>
  inferInstanceAs (Decidable (c.toNat < 0x80 → c.isAlphanum = true))

/-- Whether a block maps to word characters: it stays beyond ASCII and off the surrogates, or it maps a
single character to one. -/
def CaseShift.keepsWords (b : CaseShift) : Bool :=
  let first := (b.first : Int) + b.shift
  let last := (b.last : Int) + b.shift
  (decide (0x80 ≤ first)
      && (decide (last < 0xD800) || (decide (0xDFFF < first) && decide (last < 0x110000))))
    || (b.first == b.last && decide (IsWordChar (Char.ofNat first.toNat)))

/-- A character that a block covers is mapped to a word character. -/
theorem isWordChar_of_covers {b : CaseShift} (hb : b.keepsWords = true) {n : Nat}
    (hn : b.covers n = true) : IsWordChar (Char.ofNat (n + b.shift).toNat) := by
  unfold CaseShift.covers at hn
  unfold CaseShift.keepsWords at hb
  simp only [Bool.and_eq_true, Bool.or_eq_true, decide_eq_true_eq, beq_iff_eq] at hn hb
  obtain ⟨⟨hfirst, hlast⟩, -⟩ := hn
  rcases hb with ⟨hlow, hvalid⟩ | ⟨hsingle, hword⟩
  · intro hascii
    have hchar : (n + b.shift).toNat.isValidChar := by
      unfold Nat.isValidChar
      omega
    -- a valid number is that of its character, and this one lies beyond ASCII
    rw [Char.ofNat, dif_pos hchar] at hascii
    change (n + b.shift).toNat < 0x80 at hascii
    omega
  · have hsame : n = b.first := by omega
    rw [hsame]
    exact hword

/-- Blocks and expansions to word characters map word characters to word characters. -/
theorem isWordChar_of_mem_mapCase {expansions : List (Nat × List Nat)} {shifts : List CaseShift}
    (hexp : ∀ e ∈ expansions, ∀ n ∈ e.2, IsWordChar (Char.ofNat n))
    (hshift : ∀ b ∈ shifts, b.keepsWords = true) {c d : Char} (hc : IsWordChar c)
    (hd : d ∈ mapCase expansions shifts c) : IsWordChar d := by
  unfold mapCase at hd
  split at hd
  · next cs hcs =>
    rw [List.lookup_eq_some_iff] at hcs
    obtain ⟨before, after, rfl, -⟩ := hcs
    obtain ⟨n, hn, rfl⟩ := List.mem_map.1 hd
    exact hexp (c.toNat, cs) (by simp) n hn
  · split at hd
    · next b hb =>
      have hcovers : b.covers c.toNat = true := by simpa using List.find?_some hb
      rw [List.mem_singleton.1 hd]
      exact isWordChar_of_covers (hshift b (List.mem_of_find?_eq_some hb)) hcovers
    · rwa [List.mem_singleton.1 hd]

/-- A letter or number is a word character. -/
theorem isWordChar_of_isAlphanumeric {c : Char} (h : isAlphanumeric c = true) : IsWordChar c := by
  intro hascii
  rwa [isAlphanumeric_of_ascii hascii] at h

/-- The lower case of a word character has word characters only. -/
theorem isWordChar_of_mem_lowerChar {c d : Char} (hc : IsWordChar c) (hd : d ∈ lowerChar c) :
    IsWordChar d := by
  unfold lowerChar at hd
  split at hd
  · next hascii =>
    rw [List.mem_singleton.1 hd]
    exact forall_ascii (P := fun c => IsWordChar c → IsWordChar c.toLower) (by decide) hascii hc
  · exact isWordChar_of_mem_mapCase (by decide) (by decide +kernel) hc hd

/-- The upper case of a word character has word characters only. -/
theorem isWordChar_of_mem_upperChar {c d : Char} (hc : IsWordChar c) (hd : d ∈ upperChar c) :
    IsWordChar d := by
  unfold upperChar at hd
  split at hd
  · next hascii =>
    rw [List.mem_singleton.1 hd]
    exact forall_ascii (P := fun c => IsWordChar c → IsWordChar c.toUpper) (by decide) hascii hc
  · exact isWordChar_of_mem_mapCase (by decide +kernel) (by decide +kernel) hc hd

/-- What follows in a lowered word is made of word characters too. -/
theorem isWordChar_of_mem_lowerAfter {before w : List Char} (h : ∀ c ∈ w, IsWordChar c) {d : Char}
    (hd : d ∈ lowerAfter before w) : IsWordChar d := by
  induction w generalizing before with
  | nil => simp [lowerAfter] at hd
  | cons c w ih =>
    rw [lowerAfter, List.mem_append] at hd
    rcases hd with hd | hd
    · -- both forms of the small sigma are letters beyond ASCII
      split at hd
      · split at hd <;> rw [List.mem_singleton.1 hd] <;> decide
      · exact isWordChar_of_mem_lowerChar (h c List.mem_cons_self) hd
    · exact ih (fun e he => h e (List.mem_cons_of_mem c he)) hd

/-- **A lowered word** is made of word characters. -/
theorem isWordChar_of_mem_lowerWord {w : List Char} (h : ∀ c ∈ w, isAlphanumeric c = true) {d : Char}
    (hd : d ∈ lowerWord w) : IsWordChar d :=
  isWordChar_of_mem_lowerAfter (fun c hc => isWordChar_of_isAlphanumeric (h c hc)) hd

/-- **A capitalized word** is made of word characters. -/
theorem isWordChar_of_mem_capitalize {w : List Char} (h : ∀ c ∈ w, isAlphanumeric c = true) {d : Char}
    (hd : d ∈ capitalize w) : IsWordChar d := by
  have hw : ∀ c ∈ w, IsWordChar c := fun c hc => isWordChar_of_isAlphanumeric (h c hc)
  cases w with
  | nil => simp at hd
  | cons c w =>
    rw [capitalize, List.mem_append, List.mem_flatMap] at hd
    rcases hd with hd | ⟨e, he, hd⟩
    · exact isWordChar_of_mem_upperChar (hw c List.mem_cons_self) hd
    · exact isWordChar_of_mem_lowerChar (hw e (List.mem_cons_of_mem c he)) hd

/-! ## ASCII -/

section Ascii

variable {w : List Char} (h : ∀ c ∈ w, c.toNat < 0x80)
include h

/-- An ASCII text is lowered character by character. -/
theorem lowerAfter_of_ascii (before : List Char) : lowerAfter before w = w.map Char.toLower := by
  induction w generalizing before with
  | nil => rfl
  | cons c w ih =>
    have hc := h c List.mem_cons_self
    have hsigma : c ≠ 'Σ' := by
      rintro rfl
      exact absurd hc (by decide)
    rw [lowerAfter, if_neg hsigma, lowerChar_of_ascii hc,
      ih fun d hd => h d (List.mem_cons_of_mem c hd)]
    rfl

/-- **An ASCII word is lowered** character by character. -/
theorem lowerWord_of_ascii : lowerWord w = w.map Char.toLower := lowerAfter_of_ascii h []

end Ascii

/-- **An ASCII word is capitalized** character by character. -/
theorem capitalize_of_ascii {c : Char} {w : List Char} (h : ∀ d ∈ c :: w, d.toNat < 0x80) :
    capitalize (c :: w) = c.toUpper :: w.map Char.toLower := by
  have hw : ∀ d ∈ w, lowerChar d = [d.toLower] := fun d hd =>
    lowerChar_of_ascii (h d (List.mem_cons_of_mem c hd))
  rw [capitalize, upperChar_of_ascii (h c List.mem_cons_self), List.map_eq_flatMap, List.flatMap_def,
    List.flatMap_def, List.map_congr_left hw, List.singleton_append]

/-- The capital of a character is forgotten when it is lowered. -/
theorem toLower_toUpper {c : Char} (h : c.toNat < 0x80) : c.toUpper.toLower = c.toLower :=
  forall_ascii (P := fun c => c.toUpper.toLower = c.toLower) (by decide) h

/-- Lowering twice is lowering. -/
theorem toLower_toLower {c : Char} (h : c.toNat < 0x80) : c.toLower.toLower = c.toLower :=
  forall_ascii (P := fun c => c.toLower.toLower = c.toLower) (by decide) h

/-- A lowered character has the capital that it had before. -/
theorem toUpper_toLower {c : Char} (h : c.toNat < 0x80) : c.toLower.toUpper = c.toUpper :=
  forall_ascii (P := fun c => c.toLower.toUpper = c.toUpper) (by decide) h

/-- A lowered character is still ASCII. -/
theorem ascii_toLower {c : Char} (h : c.toNat < 0x80) : c.toLower.toNat < 0x80 :=
  forall_ascii (P := fun c => c.toLower.toNat < 0x80) (by decide) h

/-- A lowered character is no capital. -/
theorem isUpper_toLower {c : Char} (h : c.toNat < 0x80) : c.toLower.isUpper = false :=
  forall_ascii (P := fun c => c.toLower.isUpper = false) (by decide) h

/-- A letter has a capital. -/
theorem isUpper_toUpper {c : Char} (h : c.toNat < 0x80) (halpha : c.isAlphanum = true)
    (hdigit : c.isDigit = false) : c.toUpper.isUpper = true :=
  forall_ascii (P := fun c => c.isAlphanum = true → c.isDigit = false → c.toUpper.isUpper = true)
    (by decide) h halpha hdigit

section Lowered

variable {w : List Char}

/-- Lowering twice is lowering, character by character. -/
theorem map_toLower_map_toLower (h : ∀ c ∈ w, c.toNat < 0x80) :
    (w.map Char.toLower).map Char.toLower = w.map Char.toLower := by
  rw [List.map_map]
  exact List.map_congr_left fun c hc => toLower_toLower (h c hc)

/-- **Capitals are forgotten** when a word is lowered again. -/
theorem map_toLower_capitalize (h : ∀ c ∈ w, c.toNat < 0x80) :
    (capitalize w).map Char.toLower = lowerWord w := by
  rw [lowerWord_of_ascii h]
  cases w with
  | nil => rfl
  | cons c w =>
    have hw : ∀ d ∈ w, d.toNat < 0x80 := fun d hd => h d (List.mem_cons_of_mem c hd)
    rw [capitalize_of_ascii h, List.map_cons, toLower_toUpper (h c List.mem_cons_self),
      map_toLower_map_toLower hw, List.map_cons]

/-- A lowered word is still ASCII. -/
theorem ascii_of_mem_lowerWord (h : ∀ c ∈ w, c.toNat < 0x80) : ∀ c ∈ lowerWord w, c.toNat < 0x80 := by
  rw [lowerWord_of_ascii h]
  intro c hc
  obtain ⟨d, hd, rfl⟩ := List.mem_map.1 hc
  exact ascii_toLower (h d hd)

/-- A lowered word is not changed when it is lowered again. -/
theorem lowerWord_lowerWord (h : ∀ c ∈ w, c.toNat < 0x80) :
    lowerWord (lowerWord w) = lowerWord w := by
  rw [lowerWord_of_ascii (ascii_of_mem_lowerWord h), lowerWord_of_ascii h, map_toLower_map_toLower h]

/-- **A lowered word is capitalized** as the word itself is. -/
theorem capitalize_lowerWord (h : ∀ c ∈ w, c.toNat < 0x80) :
    capitalize (lowerWord w) = capitalize w := by
  have hlower := ascii_of_mem_lowerWord h
  rw [lowerWord_of_ascii h] at hlower ⊢
  cases w with
  | nil => rfl
  | cons c w =>
    have hw : ∀ d ∈ w, d.toNat < 0x80 := fun d hd => h d (List.mem_cons_of_mem c hd)
    rw [List.map_cons] at hlower ⊢
    rw [capitalize_of_ascii hlower, capitalize_of_ascii h, toUpper_toLower (h c List.mem_cons_self),
      map_toLower_map_toLower hw]

end Lowered

end ErrorTaxonomy.Text
