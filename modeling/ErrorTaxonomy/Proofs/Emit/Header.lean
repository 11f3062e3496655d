import ErrorTaxonomy.Emit.SourceText
import ErrorTaxonomy.Proofs.Emit.Layout

/-! # Headers — what stands above the code of an artifact

The header of an artifact repeats the file and the package of its unit as they are, each behind the mark of
a comment. What its lines are is computed in `Emit.linesOf_header`: in a file or package with line feeds
only the first line is behind the mark, and the others **stand in the artifact as they are**, be they
comments or code (`Emit.header_comments_iff`). -/

namespace ErrorTaxonomy

/-! ## Lines -/

/-- A line feed ends the last line of the text before it. -/
theorem Code.linesOf_append_lineFeed (s t : List Char) :
    linesOf (s ++ '\n' :: t) = s.splitOn '\n' ++ linesOf t := by
  induction s with
  | nil =>
    rw [List.nil_append, linesOf, if_pos rfl, List.splitOn_nil]
    rfl
  | cons c s ih =>
    rw [List.cons_append, linesOf, List.splitOn_cons_eq_if_modifyHead]
    by_cases hc : c = '\n'
    · rw [if_pos hc, if_pos (by simpa using hc), ih]
      rfl
    · rw [if_neg hc, if_neg (by simpa using hc), ih]
      obtain ⟨l, ls, hls⟩ := List.exists_cons_of_ne_nil (List.splitOn_ne_nil '\n' s)
      rw [hls]
      rfl

/-- What stands in front of a text without a line feed goes to its first line. -/
theorem splitOn_append_of_notMem {w : List Char} (h : '\n' ∉ w) (s : List Char) :
    (w ++ s).splitOn '\n' = (s.splitOn '\n').modifyHead (w ++ ·) := by
  obtain ⟨l, ls, hls⟩ := List.exists_cons_of_ne_nil (List.splitOn_ne_nil '\n' s)
  induction w with
  | nil =>
    rw [List.nil_append, hls]
    rfl
  | cons c w ih =>
    have hc : ¬ (c == '\n') = true := by
      rw [beq_iff_eq]
      exact fun he => h (he ▸ List.mem_cons_self)
    rw [List.cons_append, List.splitOn_cons_eq_if_modifyHead, if_neg hc,
      ih fun hw => h (List.mem_cons_of_mem c hw), hls]
    rfl

namespace Emit

/-- The lines of a text, the first of them **behind a mark**. -/
def marked (mark s : String) : List (List Char) :=
  (s.toList.splitOn '\n').modifyHead (mark.toList ++ ·)

/-- The first line of a header. -/
def generatedLine : String := "// Code generated by " ++ toolName ++ ". DO NOT EDIT."

/-- The **lines of the header** of a unit. -/
def headerLines (u : SchemaUnit) : List (List Char) :=
  generatedLine.toList :: marked "// source: " u.file ++
    if u.package = "" then [] else marked "// package: " u.package

/-- A text behind a mark has the lines of the text, the first behind the mark. -/
theorem linesOf_marked {mark : String} (h : '\n' ∉ mark.toList) (s : String) (t : List Char) :
    Code.linesOf ((mark ++ s ++ "\n").toList ++ t) = marked mark s ++ Code.linesOf t := by
  have htext : (mark ++ s ++ "\n").toList ++ t = (mark.toList ++ s.toList) ++ '\n' :: t := by
    simp
  rw [htext, Code.linesOf_append_lineFeed, splitOn_append_of_notMem h, marked]

/-- **Below a header** a text goes on after these lines, whatever the file and the package of the unit
are. -/
theorem linesOf_header (u : SchemaUnit) (text : String) :
    Code.linesOf (header u ++ text).toList = headerLines u ++ Code.linesOf text.toList := by
  have hpackage : Code.linesOf
      ((if u.package = "" then "" else "// package: " ++ u.package ++ "\n").toList ++ text.toList) =
        (if u.package = "" then [] else marked "// package: " u.package) ++
          Code.linesOf text.toList := by
    by_cases hnone : u.package = ""
    · rw [if_pos hnone, if_pos hnone]
      rfl
    · rw [if_neg hnone, if_neg hnone, linesOf_marked (by decide)]
  have htext : (header u ++ text).toList =
      generatedLine.toList ++ '\n' :: (("// source: " ++ u.file ++ "\n").toList ++
        ((if u.package = "" then "" else "// package: " ++ u.package ++ "\n").toList ++
          text.toList)) := by
    -- the end of the first line and the mark of the second are one text in the header
    have hbreak : ". DO NOT EDIT.\n// source: " = ". DO NOT EDIT." ++ "\n" ++ "// source: " := by rfl
    have hfeed : "\n".toList = ['\n'] := by rfl
    unfold header generatedLine
    rw [hbreak]
    simp only [String.toList_append, hfeed, List.append_assoc, List.cons_append, List.nil_append]
  rw [htext, Code.linesOf_append (by decide), linesOf_marked (by decide), hpackage, headerLines,
    List.cons_append, List.cons_append, List.append_assoc]

/-! ## Comments -/

/-- A line is a **comment**. -/
def IsComment (l : List Char) : Prop := "//".toList <+: l

instance (l : List Char) : Decidable (IsComment l) := inferInstanceAs (Decidable (_ <+: l))

/-- The lines of a text **below its first**. -/
def furtherLines (s : String) : List (List Char) := (s.toList.splitOn '\n').tail

/-- A text without line feeds has no further lines. -/
theorem furtherLines_of_notMem {s : String} (h : '\n' ∉ s.toList) : furtherLines s = [] := by
  rw [furtherLines, List.splitOn_eq_singleton h, List.tail_cons]

/-- Behind the mark of a comment a text is comments only when its further lines are. -/
theorem comments_marked_iff {mark : String} (h : IsComment mark.toList) (s : String) :
    (∀ l ∈ marked mark s, IsComment l) ↔ ∀ l ∈ furtherLines s, IsComment l := by
  obtain ⟨first, rest, hlines⟩ := List.exists_cons_of_ne_nil (List.splitOn_ne_nil '\n' s.toList)
  rw [marked, furtherLines, hlines, List.modifyHead_cons, List.tail_cons, List.forall_mem_cons]
  exact and_iff_right (h.trans (List.prefix_append _ _))

/-- **A header is comments only** exactly when the further lines of the file and the package are. -/
theorem header_comments_iff (u : SchemaUnit) : (∀ l ∈ headerLines u, IsComment l) ↔
    ∀ l ∈ furtherLines u.file ++ furtherLines u.package, IsComment l := by
  have hpackage : (∀ l ∈ if u.package = "" then [] else marked "// package: " u.package, IsComment l) ↔
      ∀ l ∈ furtherLines u.package, IsComment l := by
    by_cases hnone : u.package = ""
    · -- a package that is not there has no line in the header, and no further lines either
      rw [if_pos hnone, hnone]
      exact Iff.rfl
    · rw [if_neg hnone, comments_marked_iff (by decide)]
  rw [headerLines, List.cons_append, List.forall_mem_cons, List.forall_mem_append, List.forall_mem_append,
    comments_marked_iff (by decide), hpackage]
  exact and_iff_right (by decide)

end Emit
end ErrorTaxonomy
