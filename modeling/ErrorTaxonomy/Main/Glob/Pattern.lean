/-! # Patterns — path names with wildcards

In a name, `?` stands for one character, `*` for any text, `[ab-d]` for one of the characters and
`[!ab-d]` for one of all others; a name `**` stands for a whole **subtree**. A bracket may hold a closing
bracket as its first character. A pattern is read twice, as a whole and name by name, so that a bracket
must close before the next slash. -/

namespace ErrorTaxonomy.Glob

/-- The characters between two characters, both included. -/
structure Range where
  low : Char
  high : Char
  deriving Repr, DecidableEq

/-- A part of a name in a pattern. -/
inductive Token where
  | char (c : Char)
  | anyChar
  | anyText
  | subtree
  | within (ranges : List Range)
  | without (ranges : List Range)
  deriving Repr, DecidableEq

/-- What is wrong with a pattern. -/
inductive Fault where
  /-- More than two stars in a row. -/
  | wildcards
  /-- Two stars that are not a whole component. -/
  | recursive
  /-- A bracket that opens no character class. -/
  | range
  deriving Repr, DecidableEq

/-- The wording of a fault. -/
def Fault.text : Fault → String
  | .wildcards => "wildcards are either regular `*` or recursive `**`"
  | .recursive => "recursive wildcards must form a single path component"
  | .range => "invalid range pattern"

/-- What is wrong with a pattern and after how many characters. -/
structure Malformed where
  position : Nat
  fault : Fault
  deriving Repr, DecidableEq

/-- The wording of what is wrong with a pattern. -/
def Malformed.text (m : Malformed) : String :=
  s!"Pattern syntax error near position {m.position}: " ++ m.fault.text

/-! ## Reading -/

/-- The ranges between brackets. A hyphen between two characters makes a range. -/
def ranges : List Char → List Range
  | a :: '-' :: b :: r => ⟨a, b⟩ :: ranges r
  | a :: r => ⟨a, a⟩ :: ranges r
  | [] => []

/-- The characters up to a closing bracket, and what follows it. -/
def closing? : List Char → Option (List Char × List Char)
  | [] => none
  | ']' :: r => some ([], r)
  | c :: r => (closing? r).map fun p => (c :: p.1, p.2)

/-- What follows a closing bracket is shorter. -/
theorem length_lt_of_closing? {s m r : List Char} (h : closing? s = some (m, r)) :
    r.length < s.length := by
  induction s generalizing m with
  | nil => cases h
  | cons c s ih =>
    unfold closing? at h
    split at h
    · cases h
    · rename_i e
      obtain ⟨rfl, rfl⟩ := e
      cases h
      simp
    · rename_i e
      cases e
      obtain ⟨p, hp, he⟩ := Option.map_eq_some_iff.1 h
      cases he
      have := ih hp
      simp only [List.length_cons]
      omega

/-- Reads the tokens of a pattern from character `i` on; `fresh` tells whether a name starts there. -/
def tokensFrom (i : Nat) (fresh : Bool) : List Char → Except Malformed (List Token)
  | [] => .ok []
  | '?' :: r => (tokensFrom (i + 1) false r).map (.anyChar :: ·)
  | '*' :: '*' :: '*' :: _ => .error ⟨i + 2, .wildcards⟩
  | ['*', '*'] => if fresh then .ok [.subtree] else .error ⟨i - 1, .recursive⟩
  | '*' :: '*' :: c :: r =>
    if fresh then
      if c = '/' then (tokensFrom (i + 3) true r).map (.subtree :: ·)
      else .error ⟨i + 2, .recursive⟩
    else .error ⟨i - 1, .recursive⟩
  | '*' :: r => (tokensFrom (i + 1) false r).map (.anyText :: ·)
  | ['['] => .error ⟨i, .range⟩
  | ['[', _] => .error ⟨i, .range⟩
  | '[' :: '!' :: c :: r =>
    match _h : closing? r with
    | some (m, t) =>
      (tokensFrom (i + m.length + 4) false t).map (.without (ranges (c :: m)) :: ·)
    | none => .error ⟨i, .range⟩
  | '[' :: c :: r =>
    match _h : closing? r with
    | some (m, t) =>
      (tokensFrom (i + m.length + 3) false t).map (.within (ranges (c :: m)) :: ·)
    | none => .error ⟨i, .range⟩
  | c :: r => (tokensFrom (i + 1) (c = '/') r).map (.char c :: ·)
termination_by s => s.length
decreasing_by
  all_goals simp only [List.length_cons]
  all_goals try have := length_lt_of_closing? _h
  all_goals omega

/-- The tokens of a pattern. -/
def tokens (s : List Char) : Except Malformed (List Token) := tokensFrom 0 true s

/-- One name of a pattern. -/
inductive Component where
  | subtree
  | name (tokens : List Token)
  deriving Repr, DecidableEq

/-- Reads one name of a pattern. -/
def Component.read (s : List Char) : Except Malformed Component :=
  (tokens s).map fun ts => if ts = [.subtree] then .subtree else .name ts

/-- A **pattern**: whether it starts at the root, its names, and whether only directories match. -/
structure Pattern where
  absolute : Bool
  components : List Component
  directory : Bool
  deriving Repr, DecidableEq

/-- The texts between slashes, without an empty one at the end. -/
def names (s : List Char) : List (List Char) :=
  let ns := s.splitOn '/'
  if ns.getLast? = some [] then ns.dropLast else ns

/-- Reads a pattern. -/
def Pattern.read (p : String) : Except Malformed Pattern := do
  let s := p.toList
  let _ ← tokens s
  let absolute := s.head? = some '/'
  let components ← (names (if absolute then s.drop 1 else s)).mapM Component.read
  pure ⟨absolute, components, s.getLast? = some '/'⟩

/-! ## Matching -/

/-- Whether a token stands for a character. -/
def Token.admits (c : Char) : Token → Bool
  | .char d => c = d
  | .anyChar => true
  | .anyText => true
  | .subtree => true
  | .within rs => rs.any fun r => r.low ≤ c ∧ c ≤ r.high
  | .without rs => !rs.any fun r => r.low ≤ c ∧ c ≤ r.high

/-- Whether a property holds of some end of a text. -/
def someTail (p : List Char → Bool) : List Char → Bool
  | [] => p []
  | c :: s => p (c :: s) || someTail p s

/-- Whether a name **matches** the tokens of a pattern. -/
def matchesName : List Token → List Char → Bool
  | [], s => s.isEmpty
  | .anyText :: ts, s => someTail (matchesName ts) s
  | .subtree :: ts, s => someTail (matchesName ts) s
  | _ :: _, [] => false
  | t :: ts, c :: s => t.admits c && matchesName ts s

/-- The name that tokens without wildcards spell. -/
def literal? : List Token → Option (List Char)
  | [] => some []
  | .char c :: ts => (literal? ts).map (c :: ·)
  | _ :: _ => none

/-- Some end of a text has a property exactly when the text splits at one. -/
theorem someTail_iff {p : List Char → Bool} {s : List Char} :
    someTail p s ↔ ∃ u v, s = u ++ v ∧ p v := by
  induction s with
  | nil =>
    constructor
    · exact fun h => ⟨[], [], rfl, h⟩
    · rintro ⟨u, v, e, h⟩
      obtain ⟨rfl, rfl⟩ := List.append_eq_nil_iff.1 e.symm
      exact h
  | cons c s ih =>
    simp only [someTail, Bool.or_eq_true, ih]
    constructor
    · rintro (h | ⟨u, v, rfl, h⟩)
      · exact ⟨[], c :: s, rfl, h⟩
      · exact ⟨c :: u, v, rfl, h⟩
    · rintro ⟨u, v, e, h⟩
      cases u with
      | nil => exact .inl (by simpa [e] using h)
      | cons d u =>
        simp only [List.cons_append, List.cons.injEq] at e
        exact .inr ⟨u, v, e.2, h⟩

end ErrorTaxonomy.Glob
