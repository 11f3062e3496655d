import ErrorTaxonomy.Emit.SourceText
import ErrorTaxonomy.Proofs.Template.FormatString
import ErrorTaxonomy.Proofs.Text.Literal

/-! # Render literals — what the literal in a display function means

The display function of a leaf error holds one string literal. Two encoders are stacked in it: braces
are doubled and slots become empty pairs of braces, and the result is quoted, where a code point
between braces must not be taken for an argument. `displayCode_means_template` undoes both. -/

namespace ErrorTaxonomy

/-! ## Literals -/

/-- `written` is **one string literal** of the text, on one line, whatever follows it. -/
structure Text.IsLiteralOf (written text : List Char) : Prop where
  /-- The first quote inside that is not escaped is the last character. -/
  closed : ∃ body, written = '"' :: (body ++ ['"']) ∧
    untilQuote? false (body ++ ['"']) = some (body, [])
  oneLine : ∀ c ∈ written, ¬IsBreak c
  reads : ∀ rest, readLiteral? (written ++ rest) = some (text, rest)

/-- A quoted text is a literal of the text, whichever characters it spells out. -/
theorem Text.isLiteralOf_quoteBy (spelledOut : Char → Bool) (s : String) :
    IsLiteralOf (quoteBy spelledOut s).toList s.toList where
  closed := ⟨escape spelledOut s.toList, by simp [quoteBy], untilQuote?_escape spelledOut s.toList []⟩
  oneLine c hc := by
    rw [quoteBy, String.toList_ofList, List.cons_append, List.mem_cons, List.mem_append,
      List.mem_singleton] at hc
    intro hbreak
    rcases hc with rfl | hc | rfl
    · exact absurd hbreak (by simp [IsBreak])
    · exact not_mem_escape_of_isBreak spelledOut s.toList hbreak hc
    · exact absurd hbreak (by simp [IsBreak])
  reads := readLiteral?_quoteBy spelledOut s

namespace Template

variable {α : Type}

/-! ## Plain templates -/

/-- The text of a segment; a slot has none. -/
def Segment.plainText : Segment → String
  | .text s => s
  | .slot => ""

/-- Segments have a plain text when none of them is a slot: their texts in a row. -/
theorem textOf?_eq (segs : List Segment) :
    textOf? segs =
      if segs.countP (· = .slot) = 0 then some (String.join (segs.map Segment.plainText))
      else none := by
  induction segs with
  | nil => rfl
  | cons seg segs ih =>
    cases seg with
    | text s =>
      have hcount : (Segment.text s :: segs).countP (· = .slot) = segs.countP (· = .slot) := by simp
      rw [textOf?, ih, hcount]
      split
      · rw [Option.map_some, List.map_cons, String.join_cons]
        rfl
      · rfl
    | slot =>
      have hcount : (Segment.slot :: segs).countP (· = .slot) ≠ 0 := by simp
      rw [textOf?, if_neg hcount]

/-! ## Templates with slots -/

/-- A format string **means** a template: it parses without an error, takes its arguments in order
and by nothing else, one for each slot, and filled with their values it is the filled template. -/
def MeansTemplate (format : List Char) (t : Template α) : Prop :=
  ∃ parts, parseFormat? format = some parts ∧
    (∀ spec, FormatPart.special spec ∉ parts) ∧
    parts.count .next = t.slotCount ∧
    ∀ values : List String, fillParts? parts values =
      if values.length = t.slotCount then some (t.fill values).toList else none

/-- The format string of a template means it. -/
theorem meansTemplate_formatString (t : Template α) : MeansTemplate t.formatString.toList t :=
  ⟨partsOf t.segments, parseFormat?_formatString t,
    fun spec => special_not_mem_partsOf spec t.segments, count_next_partsOf t.segments,
    fillParts?_partsOf t.segments⟩

end Template

/-! ## The display function of a leaf error -/

/-- **What the render literal means.** The display function of a leaf error is one call with one
literal, well formed whichever characters are spelled out. Without slots the call writes the texts of
the template; with slots it formats, and the content of the literal means the template. -/
theorem displayCode_means_template (p : LeafPlan) :
    ∃ content : String,
      (∀ spelledOut, Text.IsLiteralOf (Text.quoteBy spelledOut content).toList content.toList) ∧
      if p.format.slotCount = 0 then
        Emit.displayCode p.displayBody = .line ("f.write_str(" ++ Text.quote content ++ ")") ∧
          content = String.join (p.format.segments.map Template.Segment.plainText)
      else
        Emit.displayCode p.displayBody =
            .line ("::std::write!(f, " ++ Text.quote content ++ ", " ++
              String.intercalate ", " (p.format.accessors.map Accessor.expr) ++ ")") ∧
          Template.MeansTemplate content.toList p.format := by
  have htext := Template.textOf?_eq p.format.segments
  rw [← Template.literalText?, ← Template.slotCount] at htext
  by_cases h : p.format.slotCount = 0
  · rw [if_pos h] at htext
    refine ⟨String.join (p.format.segments.map Template.Segment.plainText),
      fun spelledOut => Text.isLiteralOf_quoteBy spelledOut _, ?_⟩
    rw [if_pos h, LeafPlan.displayBody, htext]
    exact ⟨rfl, rfl⟩
  · rw [if_neg h] at htext
    refine ⟨p.format.formatString, fun spelledOut => Text.isLiteralOf_quoteBy spelledOut _, ?_⟩
    rw [if_neg h, LeafPlan.displayBody, htext]
    exact ⟨rfl, Template.meansTemplate_formatString p.format⟩

end ErrorTaxonomy
