import ErrorTaxonomy.Text.Affix

/-! # Cutting a text — affixes, brackets and separators

Ways to take a text apart: what stands in front of a known end (`beforeSuffix?_eq_some_iff`), what stands
between a known beginning and a known end (`between?`), and the two sides of the first separator
(`cut?`). A text that was put together from these pieces is taken apart into them again. -/

namespace ErrorTaxonomy.Text

/-- Taking an end off leaves what stands in front of it. -/
theorem beforeSuffix?_eq_some_iff {p s r : String} : beforeSuffix? p s = some r ↔ s = r ++ p := by
  unfold beforeSuffix?
  simp only [Option.map_eq_some_iff, afterChars?_eq_some_iff]
  constructor
  · rintro ⟨l, h, rfl⟩
    apply String.toList_inj.1
    -- both texts are read backwards, so what is left is turned round again
    rw [String.toList_append, String.toList_ofList, ← List.reverse_inj, h]
    simp
  · rintro rfl
    exact ⟨r.toList.reverse, by rw [String.toList_append, List.reverse_append], by simp⟩

/-- A text ends with another when something stands in front of that one. -/
theorem endsWith_iff {p s : String} : endsWith p s = true ↔ ∃ r, s = r ++ p := by
  unfold endsWith
  rw [Option.isSome_iff_exists]
  simp only [beforeSuffix?_eq_some_iff]

/-- What stands **between** `p` at the start of `s` and `q` at its end. -/
def between? (p q s : String) : Option String := (afterPrefix? p s).bind (beforeSuffix? q)

/-- What stands between two texts is what was put there. -/
theorem between?_eq_some_iff {p q s r : String} : between? p q s = some r ↔ s = p ++ (r ++ q) := by
  unfold between?
  simp only [Option.bind_eq_some_iff, afterPrefix?_eq_some_iff, beforeSuffix?_eq_some_iff]
  constructor
  · rintro ⟨t, rfl, rfl⟩
    rfl
  · rintro rfl
    exact ⟨r ++ q, rfl, rfl⟩

/-- The characters before and after the first `c`. -/
def cutChars? (c : Char) : List Char → Option (List Char × List Char)
  | [] => none
  | d :: s => if d = c then some ([], s) else (cutChars? c s).map fun r => (d :: r.1, r.2)

/-- The texts before and after the first `c` in `s`. -/
def cut? (c : Char) (s : String) : Option (String × String) :=
  (cutChars? c s.toList).map fun r => (String.ofList r.1, String.ofList r.2)

/-- Characters are cut at the first separator. -/
theorem cutChars?_append {c : Char} {w : List Char} (h : c ∉ w) (s : List Char) :
    cutChars? c (w ++ c :: s) = some (w, s) := by
  induction w with
  | nil => simp [cutChars?]
  | cons d w ih =>
    have hd : d ≠ c := fun he => h (he ▸ List.mem_cons_self)
    rw [List.cons_append, cutChars?, if_neg hd, ih fun hw => h (List.mem_cons_of_mem d hw)]
    rfl

/-- Without a separator there is no cut. -/
theorem cutChars?_eq_none {c : Char} {w : List Char} (h : c ∉ w) : cutChars? c w = none := by
  induction w with
  | nil => rfl
  | cons d w ih =>
    have hd : d ≠ c := fun he => h (he ▸ List.mem_cons_self)
    rw [cutChars?, if_neg hd, ih fun hw => h (List.mem_cons_of_mem d hw)]
    rfl

/-- **A text is cut** at the first separator. -/
theorem cut?_append {c : Char} {w : String} (h : c ∉ w.toList) {s t : String}
    (hs : s.toList = c :: t.toList) : cut? c (w ++ s) = some (w, t) := by
  unfold cut?
  rw [String.toList_append, hs, cutChars?_append h]
  simp

/-- A text without a separator is not cut. -/
theorem cut?_eq_none {c : Char} {w : String} (h : c ∉ w.toList) : cut? c w = none := by
  unfold cut?
  rw [cutChars?_eq_none h]
  rfl

end ErrorTaxonomy.Text
