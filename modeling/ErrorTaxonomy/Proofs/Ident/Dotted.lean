import ErrorTaxonomy.Ident.Path
import ErrorTaxonomy.Proofs.Ident.Words
import ErrorTaxonomy.Text.Affix

/-! # Dotted names — names and packages by their segments

The segments of names that are joined by a dot are those of the one and then those of the other
(`dotted_append`). The segments of a package are the same but for the empty ones, so segments that are
not empty, joined to a package, are its segments again (`packageSegments_intercalate`). -/

namespace ErrorTaxonomy

namespace Text

/-- A name has segments. -/
theorem dotted_ne_nil (s : String) : dotted s ≠ [] := by
  rw [dotted, Ne, List.map_eq_nil_iff]
  exact List.splitOn_ne_nil '.' s.toList

/-- **Joined names** have the segments of both. -/
theorem dotted_append (s t : String) : dotted (s ++ "." ++ t) = dotted s ++ dotted t := by
  have hdot : ".".toList = ['.'] := rfl
  rw [dotted, String.toList_append, String.toList_append, hdot, List.append_assoc,
    List.singleton_append, List.splitOn_append_cons_self, List.map_append]
  rfl

/-- A name without dots is its only segment. -/
theorem dotted_of_notMem {s : String} (h : '.' ∉ s.toList) : dotted s = [s] := by
  rw [dotted, List.splitOn_eq_singleton h, List.map_singleton, String.ofList_toList]

/-- A segment has no dots. -/
theorem dot_notMem_of_mem_dotted {s t : String} (h : t ∈ dotted s) : '.' ∉ t.toList := by
  obtain ⟨w, hw, rfl⟩ := List.mem_map.1 h
  rw [String.toList_ofList]
  intro hdot
  simpa using (Ident.mem_of_mem_splitOnP hw hdot).2

/-- A name that begins with a segment does not begin with a dot. -/
theorem withoutDot_eq_self {s : String} (h : ∀ t ∈ dotted s, t ≠ "") : withoutDot s = s := by
  cases hr : afterPrefix? "." s with
  | none => rw [withoutDot, hr, Option.getD_none]
  | some r =>
    obtain rfl := afterPrefix?_eq_some_iff.1 hr
    have hempty : "" ∈ dotted ("" ++ "." ++ r) := by
      rw [dotted_append]
      exact List.mem_append_left _ (by decide)
    exact absurd rfl (h "" (by simpa using hempty))

end Text

namespace Ident

/-- The segments of a package are those of its name that are not empty. -/
theorem packageSegments_eq_filter (package : String) :
    packageSegments package = (Text.dotted package).filter (· ≠ "") := by
  rw [packageSegments, Text.dotted, List.filter_map]
  congr 2
  funext w
  cases w with
  | nil => rfl
  | cons c w => simp

/-- A package whose segments are not empty has all of them. -/
theorem packageSegments_eq_dotted {package : String} (h : ∀ s ∈ Text.dotted package, s ≠ "") :
    packageSegments package = Text.dotted package := by
  rw [packageSegments_eq_filter, List.filter_eq_self]
  simpa using h

/-- **Segments joined to a package** are its segments. -/
theorem packageSegments_intercalate {ss : List String} (h : ∀ s ∈ ss, s ≠ "" ∧ '.' ∉ s.toList) :
    packageSegments (String.intercalate "." ss) = ss := by
  cases ss with
  | nil => decide
  | cons s ss =>
    have hdotted : Text.dotted (String.intercalate "." (s :: ss)) = s :: ss := by
      have hdot : ".".toList = ['.'] := rfl
      rw [Text.dotted, String.toList_intercalate, hdot, List.splitOn_intercalate, List.map_map]
      · simp
      · simpa using fun t ht => (h t ht).2
      · simp
    rw [packageSegments_eq_dotted, hdotted]
    rw [hdotted]
    exact fun t ht => (h t ht).1

end Ident

end ErrorTaxonomy
