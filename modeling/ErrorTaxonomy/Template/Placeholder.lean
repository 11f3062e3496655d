import ErrorTaxonomy.Text.Utf8

/-! # Placeholders — the `name` between braces of a display format

A placeholder is a non-empty run of ASCII letters, digits and underscores between an opening and a
closing brace; every other character, stray braces too, is plain text. `pieces` cuts a format into
characters and placeholders from left to right. -/

namespace ErrorTaxonomy.Template

/-- A character of a placeholder's name. -/
def isNameChar (c : Char) : Bool := c.isAlphanum || c = '_'

/-- A part of a display format: a plain character or a placeholder. -/
inductive Piece where
  | char (c : Char)
  | field (name : List Char)
  deriving Repr, DecidableEq

/-- The name of the placeholder whose opening brace stands right before `s`, if there is one. -/
def name? (s : List Char) : Option (List Char) :=
  let name := s.takeWhile isNameChar
  if name ≠ [] ∧ (s.dropWhile isNameChar).head? = some '\x7d' then some name else none

/-- The pieces of a format whose next `skip` characters belong to a placeholder already read. -/
def piecesFrom : Nat → List Char → List Piece
  | _, [] => []
  | skip + 1, _ :: s => piecesFrom skip s
  | 0, c :: s =>
    if c = '\x7b' then
      match name? s with
      | some name => .field name :: piecesFrom (name.length + 1) s
      | none => .char c :: piecesFrom 0 s
    else .char c :: piecesFrom 0 s

/-- The **pieces** of a format. -/
def pieces (s : List Char) : List Piece := piecesFrom 0 s

/-- The characters of a piece in the format. -/
def Piece.source : Piece → List Char
  | .char c => [c]
  | .field name => '\x7b' :: name ++ ['\x7d']

/-- The number of bytes of a piece in the format. -/
def Piece.byteSize (p : Piece) : Nat := Text.byteCount p.source

@[simp] theorem piecesFrom_nil (n : Nat) : piecesFrom n [] = [] := by cases n <;> rfl

/-- Skipping is dropping. -/
theorem piecesFrom_eq_drop (n : Nat) (s : List Char) : piecesFrom n s = pieces (s.drop n) := by
  induction n generalizing s with
  | zero => rfl
  | succ n ih =>
    cases s with
    | nil => simp [pieces]
    | cons c s => simp [piecesFrom, ih]

/-- A placeholder's name is followed by its closing brace. -/
theorem eq_of_name? {s name : List Char} (h : name? s = some name) :
    s = name ++ '\x7d' :: s.drop (name.length + 1) := by
  simp only [name?] at h
  split at h
  · next hc =>
    obtain rfl := Option.some.inj h
    have hd := hc.2
    cases ht : s.dropWhile isNameChar with
    | nil => simp [ht] at hd
    | cons d t =>
      obtain rfl : d = '\x7d' := by simpa [ht] using hd
      have hs : s = s.takeWhile isNameChar ++ '\x7d' :: t := by
        rw [← ht]; exact List.takeWhile_append_dropWhile.symm
      generalize s.takeWhile isNameChar = w at hs ⊢
      subst hs
      simp
  · simp at h

/-- The pieces of a format spell it. -/
theorem flatMap_source_pieces (s : List Char) : (pieces s).flatMap Piece.source = s := by
  induction hn : s.length using Nat.strongRecOn generalizing s with
  | ind n ih =>
    cases s with
    | nil => rfl
    | cons c r =>
      have step : ∀ t : List Char, t.length ≤ r.length → (pieces t).flatMap Piece.source = t :=
        fun t ht => ih t.length (by simp at hn; omega) t rfl
      simp only [pieces, piecesFrom]
      split
      · next hc =>
        subst hc
        split
        · next name hname =>
          rw [piecesFrom_eq_drop, List.flatMap_cons, step _ (by simp)]
          conv => rhs; rw [eq_of_name? hname]
          simp [Piece.source]
        · have := step r (Nat.le_refl _)
          simp only [pieces] at this
          simp [Piece.source, this]
      · have := step r (Nat.le_refl _)
        simp only [pieces] at this
        simp [Piece.source, this]

/-! ## Occurrences -/

/-- A placeholder and the byte range of the whole of it in the format. -/
structure Occurrence where
  name : String
  start : Nat
  stop : Nat
  deriving Repr, DecidableEq

/-- The occurrences among pieces that start at byte `offset`. -/
def occurrencesFrom : Nat → List Piece → List Occurrence
  | _, [] => []
  | offset, p :: ps =>
    let next := offset + p.byteSize
    match p with
    | .char _ => occurrencesFrom next ps
    | .field name => ⟨String.ofList name, offset, next⟩ :: occurrencesFrom next ps

/-- Every placeholder of a format, left to right, repeats included. -/
def occurrences (source : String) : List Occurrence := occurrencesFrom 0 (pieces source.toList)

/-- The name of a piece that is a placeholder. -/
def Piece.fieldName? : Piece → Option String
  | .char _ => none
  | .field name => some (String.ofList name)

/-- The names of the placeholders among pieces. -/
def fieldNames (ps : List Piece) : List String := ps.filterMap Piece.fieldName?

/-- The names of the placeholders of a format, repeats included. -/
def placeholders (source : String) : List String := fieldNames (pieces source.toList)

/-- The distinct placeholder names in order of first occurrence. -/
def names (source : String) : List String := (placeholders source).eraseDups

/-- Whether a format has a placeholder of that name. -/
def mentions (source name : String) : Bool := (placeholders source).contains name

/-- The characters that stand for a piece once the names that `lookup` knows are replaced. -/
def Piece.replaced (lookup : String → Option String) : Piece → List Char
  | .char c => [c]
  | .field name =>
    ((lookup (String.ofList name)).map String.toList).getD (Piece.source (.field name))

/-- Replaces each placeholder whose name `lookup` knows, **directly** in the format. -/
def substitute (lookup : String → Option String) (source : String) : String :=
  String.ofList ((pieces source.toList).flatMap (Piece.replaced lookup))

@[simp] theorem fieldNames_nil : fieldNames [] = [] := rfl

@[simp] theorem fieldNames_char (c : Char) (ps : List Piece) :
    fieldNames (.char c :: ps) = fieldNames ps := rfl

@[simp] theorem fieldNames_field (name : List Char) (ps : List Piece) :
    fieldNames (.field name :: ps) = String.ofList name :: fieldNames ps := rfl

end ErrorTaxonomy.Template
