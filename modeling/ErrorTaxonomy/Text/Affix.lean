/-! # Affixes — taking a known beginning or end off a text

`afterPrefix? p s` is what follows `p` in `s`, when `s` starts with it, and `beforeSuffix? p s` what
stands before `p`, when `s` ends with it. -/

namespace ErrorTaxonomy.Text

/-- What follows the characters `p` at the start of `s`. -/
def afterChars? : List Char → List Char → Option (List Char)
  | [], s => some s
  | _ :: _, [] => none
  | a :: p, b :: s => if a = b then afterChars? p s else none

/-- What follows the text `p` at the start of `s`. -/
def afterPrefix? (p s : String) : Option String :=
  (afterChars? p.toList s.toList).map String.ofList

/-- What stands before the text `p` at the end of `s`. -/
def beforeSuffix? (p s : String) : Option String :=
  (afterChars? p.toList.reverse s.toList.reverse).map fun r => String.ofList r.reverse

/-- Whether `s` ends with `p`. -/
def endsWith (p s : String) : Bool := (beforeSuffix? p s).isSome

/-- Whether `s` starts with `p`. -/
def startsWith (p s : String) : Bool := (afterPrefix? p s).isSome

/-- Taking a beginning off leaves the rest. -/
theorem afterChars?_eq_some_iff {p s r : List Char} : afterChars? p s = some r ↔ s = p ++ r := by
  fun_induction afterChars? p s with
  | case1 s => simp [eq_comm]
  | case2 a p => simp
  | case3 p a s ih => simp [ih]
  | case4 a p b s h => simp [Ne.symm h]

theorem afterPrefix?_eq_some_iff {p s r : String} : afterPrefix? p s = some r ↔ s = p ++ r := by
  simp only [afterPrefix?, Option.map_eq_some_iff, afterChars?_eq_some_iff]
  constructor
  · rintro ⟨l, h, rfl⟩
    apply String.toList_inj.1
    simp [h]
  · rintro rfl
    exact ⟨r.toList, by simp, by simp⟩

/-- A dotted name without its leading dot, if it has one. -/
def withoutDot (s : String) : String := (afterPrefix? "." s).getD s

/-- The segments of a dotted name, empty ones included. -/
def dotted (s : String) : List String := (s.toList.splitOn '.').map String.ofList

end ErrorTaxonomy.Text
