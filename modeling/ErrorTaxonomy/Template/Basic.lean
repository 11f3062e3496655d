import ErrorTaxonomy.Template.Placeholder

/-! # Templates — display formats with positional slots

A **template** is a list of texts and slots, with one accessor for each slot. `compile` makes one of a
display format: it looks up every distinct name once and then goes from occurrence to occurrence with a
**cursor**, the byte position up to which the format has been used. The text between the cursor and the
next occurrence becomes a segment unless it is empty. -/

namespace ErrorTaxonomy

/-- A part of a template. -/
inductive Segment where
  | text (s : String)
  | slot
  deriving Repr, DecidableEq

/-- A list of texts and slots, with the accessors of the slots in order. -/
structure Template (α : Type) where
  segments : List Segment
  accessors : List α
  deriving Repr, DecidableEq

namespace Template

/-- A placeholder that names nothing. -/
structure UnknownField where
  name : String
  deriving Repr, DecidableEq

/-- The accessor of a placeholder. -/
def access {α : Type} (lookup : String → Option α) (name : String) : Except UnknownField α :=
  match lookup name with
  | some a => .ok a
  | none => .error ⟨name⟩

/-- Distinct names with their accessors; the first name that `lookup` does not know is the error. -/
def resolveNames {α : Type} (lookup : String → Option α) (names : List String) :
    Except UnknownField (List (String × α)) :=
  names.mapM fun name => (access lookup name).map (name, ·)

/-- The text between two byte positions of a format as a segment; there is none between equal ones. -/
def gap (source : List Char) (start stop : Nat) : List Segment :=
  if start < stop then [.text (String.ofList (Text.slice source start stop))] else []

/-- Cuts a format at occurrences, from byte `cursor` on. -/
def cutFrom {α : Type} (resolved : List (String × α)) (source : List Char) :
    Nat → List Occurrence → Except UnknownField (Template α)
  | cursor, [] => .ok ⟨gap source cursor (Text.byteCount source), []⟩
  | cursor, o :: os =>
    match resolved.lookup o.name with
    | none => .error ⟨o.name⟩
    | some a => (cutFrom resolved source o.stop os).map fun t =>
      ⟨gap source cursor o.start ++ .slot :: t.segments, a :: t.accessors⟩

/-- **Compiles** a display format; the first placeholder that `lookup` does not know is the error. -/
def compile {α : Type} (lookup : String → Option α) (source : String) :
    Except UnknownField (Template α) :=
  match resolveNames lookup (names source) with
  | .error e => .error e
  | .ok resolved => cutFrom resolved source.toList 0 (occurrences source)

variable {α β : Type}

/-- The number of slots. -/
def slotCount (t : Template α) : Nat := t.segments.countP (· = .slot)

/-- Writes a brace of a text twice. -/
def doubleBraces (s : List Char) : List Char :=
  s.flatMap fun c => if c = '\x7b' ∨ c = '\x7d' then [c, c] else [c]

/-- The characters of a segment in a format string. -/
def Segment.format : Segment → List Char
  | .text s => doubleBraces s.toList
  | .slot => ['\x7b', '\x7d']

/-- The template as a **format string**: an empty pair of braces for each slot, and braces of the text
doubled. -/
def formatString (t : Template α) : String :=
  String.ofList (t.segments.flatMap Segment.format)

/-- The text of segments without a slot. -/
def textOf? : List Segment → Option String
  | [] => some ""
  | .text s :: segs => (textOf? segs).map (s ++ ·)
  | .slot :: _ => none

/-- The plain text of a template without slots. -/
def literalText? (t : Template α) : Option String := textOf? t.segments

/-- Fills slots with values in order; a slot without a value is left out. -/
def fillSegments : List Segment → List String → String
  | [], _ => ""
  | .text s :: segs, vs => s ++ fillSegments segs vs
  | .slot :: segs, v :: vs => v ++ fillSegments segs vs
  | .slot :: segs, [] => fillSegments segs []

/-- **Fills** the slots with values in order. -/
def fill (t : Template α) (values : List String) : String := fillSegments t.segments values

/-- Changes every accessor. -/
def map (f : α → β) (t : Template α) : Template β := ⟨t.segments, t.accessors.map f⟩

@[simp] theorem map_segments (f : α → β) (t : Template α) : (t.map f).segments = t.segments := rfl

@[simp] theorem map_accessors (f : α → β) (t : Template α) :
    (t.map f).accessors = t.accessors.map f := rfl

@[simp] theorem slotCount_map (f : α → β) (t : Template α) : (t.map f).slotCount = t.slotCount := rfl

@[simp] theorem formatString_map (f : α → β) (t : Template α) :
    (t.map f).formatString = t.formatString := rfl

@[simp] theorem literalText?_map (f : α → β) (t : Template α) :
    (t.map f).literalText? = t.literalText? := rfl

end Template
end ErrorTaxonomy
