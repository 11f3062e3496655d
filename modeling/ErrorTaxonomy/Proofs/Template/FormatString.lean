import ErrorTaxonomy.Template.Basic

/-! # Format strings — reading a format string back

A reader of the format strings of the target language: a doubled brace is a brace, an empty pair of
braces takes the next argument, any other pair is a **special** argument (a name, a number, a format of
its own), and a brace alone is an error. The format string of a template reads as the template:
`parseFormat?_formatString` gives its parts, and `fillParts?_partsOf` fills them exactly when there is
one value for each slot. -/

namespace ErrorTaxonomy.Template

/-! ## The reader -/

/-- A part of a format string. -/
inductive FormatPart where
  | char (c : Char)
  /-- The next argument. -/
  | next
  /-- An argument that is written with something between its braces. -/
  | special (spec : List Char)
  deriving Repr, DecidableEq

/-- Where a reader stands in a format string. -/
inductive FormatState where
  | text
  /-- After an opening brace. -/
  | opened
  /-- After a closing brace that closes nothing. -/
  | closed
  /-- Inside an argument, after these characters in reverse. -/
  | argument (spec : List Char)
  deriving Repr, DecidableEq

/-- Reads the parts of a format string. -/
def parseFormatFrom : FormatState → List Char → Option (List FormatPart)
  | .text, [] => some []
  | _, [] => none
  | .text, c :: s =>
    if c = '\x7b' then parseFormatFrom .opened s
    else if c = '\x7d' then parseFormatFrom .closed s
    else (parseFormatFrom .text s).map (.char c :: ·)
  | .opened, c :: s =>
    if c = '\x7b' then (parseFormatFrom .text s).map (.char '\x7b' :: ·)
    else if c = '\x7d' then (parseFormatFrom .text s).map (.next :: ·)
    else parseFormatFrom (.argument [c]) s
  | .closed, c :: s =>
    if c = '\x7d' then (parseFormatFrom .text s).map (.char '\x7d' :: ·) else none
  | .argument spec, c :: s =>
    if c = '\x7d' then (parseFormatFrom .text s).map (.special spec.reverse :: ·)
    else if c = '\x7b' then none
    else parseFormatFrom (.argument (c :: spec)) s

/-- Reads a **format string**. -/
def parseFormat? (s : List Char) : Option (List FormatPart) := parseFormatFrom .text s

/-- The text of parts with values for their arguments; every argument takes one value and every value
has to be taken. -/
def fillParts? : List FormatPart → List String → Option (List Char)
  | [], [] => some []
  | [], _ :: _ => none
  | .char c :: ps, vs => (fillParts? ps vs).map (c :: ·)
  | .next :: ps, v :: vs => (fillParts? ps vs).map (v.toList ++ ·)
  | .next :: _, [] => none
  | .special _ :: _, _ => none

/-! ## The parts of a template -/

/-- The parts that a segment reads as. -/
def Segment.parts : Segment → List FormatPart
  | .text s => s.toList.map .char
  | .slot => [.next]

/-- The parts that segments read as. -/
def partsOf (segs : List Segment) : List FormatPart := segs.flatMap Segment.parts

@[simp] theorem partsOf_nil : partsOf [] = [] := rfl

@[simp] theorem partsOf_text (s : String) (segs : List Segment) :
    partsOf (.text s :: segs) = s.toList.map .char ++ partsOf segs := rfl

@[simp] theorem partsOf_slot (segs : List Segment) :
    partsOf (.slot :: segs) = .next :: partsOf segs := rfl

/-- A text whose braces are doubled reads as its characters. -/
theorem parseFormatFrom_doubleBraces (s rest : List Char) :
    parseFormatFrom .text (doubleBraces s ++ rest) =
      (parseFormatFrom .text rest).map (s.map FormatPart.char ++ ·) := by
  induction s with
  | nil => simp [doubleBraces]
  | cons c s ih =>
    have hcons : parseFormatFrom .text (doubleBraces (c :: s) ++ rest) =
        (parseFormatFrom .text (doubleBraces s ++ rest)).map (.char c :: ·) := by
      rw [doubleBraces, List.flatMap_cons, List.append_assoc, ← doubleBraces]
      by_cases hopen : c = '\x7b'
      · subst hopen
        rfl
      by_cases hclose : c = '\x7d'
      · subst hclose
        rfl
      · have hplain : ¬(c = '\x7b' ∨ c = '\x7d') := fun h => h.elim hopen hclose
        rw [if_neg hplain, List.singleton_append, parseFormatFrom, if_neg hopen, if_neg hclose]
    rw [hcons, ih, Option.map_map]
    rfl

/-- A format string of segments reads as their parts. -/
theorem parseFormatFrom_segments (segs : List Segment) :
    parseFormatFrom .text (segs.flatMap Segment.format) = some (partsOf segs) := by
  induction segs with
  | nil => rfl
  | cons seg segs ih =>
    rw [List.flatMap_cons]
    cases seg with
    | text s =>
      rw [Segment.format, parseFormatFrom_doubleBraces, ih]
      rfl
    | slot =>
      have hslot : ∀ rest, parseFormatFrom .text (Segment.format .slot ++ rest) =
          (parseFormatFrom .text rest).map (.next :: ·) := fun _ => rfl
      rw [hslot, ih]
      rfl

variable {α : Type}

/-- The format string of a template **parses**, into the parts of its segments. -/
theorem parseFormat?_formatString (t : Template α) :
    parseFormat? t.formatString.toList = some (partsOf t.segments) := by
  rw [formatString, String.toList_ofList, parseFormat?, parseFormatFrom_segments]

/-- A template has **no special** arguments. -/
theorem special_not_mem_partsOf (spec : List Char) (segs : List Segment) :
    FormatPart.special spec ∉ partsOf segs := by
  induction segs with
  | nil => simp
  | cons seg segs ih =>
    cases seg with
    | text s => simp [ih]
    | slot => simp [ih]

/-- A template has one argument for **each slot**. -/
theorem count_next_partsOf (segs : List Segment) :
    (partsOf segs).count .next = segs.countP (· = .slot) := by
  induction segs with
  | nil => rfl
  | cons seg segs ih =>
    cases seg with
    | text s =>
      have hs : (s.toList.map FormatPart.char).count .next = 0 := by
        rw [List.count_eq_zero]
        simp
      rw [partsOf_text, List.count_append, hs, ih]
      simp
    | slot =>
      rw [partsOf_slot, List.count_cons_self, ih]
      simp

/-- Characters in front of parts stand in front of the text that they make. -/
theorem fillParts?_chars (s : List Char) (ps : List FormatPart) (vs : List String) :
    fillParts? (s.map .char ++ ps) vs = (fillParts? ps vs).map (s ++ ·) := by
  induction s with
  | nil => simp
  | cons c s ih =>
    rw [List.map_cons, List.cons_append, fillParts?, ih, Option.map_map]
    rfl

/-- The parts of segments take exactly one value for each slot and **fill** as the segments do. -/
theorem fillParts?_partsOf (segs : List Segment) (vs : List String) :
    fillParts? (partsOf segs) vs =
      if vs.length = segs.countP (· = .slot) then some (fillSegments segs vs).toList else none := by
  induction segs generalizing vs with
  | nil =>
    cases vs with
    | nil => rfl
    | cons v vs => rfl
  | cons seg segs ih =>
    cases seg with
    | text s =>
      have hcount : (Segment.text s :: segs).countP (· = .slot) = segs.countP (· = .slot) := by simp
      rw [partsOf_text, fillParts?_chars, ih, fillSegments, hcount, String.toList_append]
      split
      · rfl
      · rfl
    | slot =>
      have hcount : (Segment.slot :: segs).countP (· = .slot) = segs.countP (· = .slot) + 1 := by simp
      rw [partsOf_slot, hcount]
      cases vs with
      | nil => rw [fillParts?, if_neg (by simp)]
      | cons v vs =>
        rw [fillParts?, ih, fillSegments, List.length_cons, String.toList_append]
        by_cases h : vs.length = segs.countP (· = .slot)
        · rw [if_pos h, if_pos (by omega)]
          rfl
        · rw [if_neg h, if_neg (by omega)]
          rfl

end ErrorTaxonomy.Template
