import ErrorTaxonomy.Main.Query.Builtin
import ErrorTaxonomy.Main.Query.Token

/-! # Reading filters

A filter is a sequence of atoms with operators between them. From loose to tight the operators are the
pipe and the binding of a variable, the comma, the assignments, the alternative, disjunction,
conjunction, equality, order, sums, products and remainders. Pipes, bindings, assignments and
alternatives group to the right, all others to the left. An atom may be lenient and go on as a path, whose
parts may be lenient in turn. -/

namespace ErrorTaxonomy.Query

/-- An operator between two terms. -/
inductive Operator where
  | pipe
  | bind (name : String)
  | both
  | assign
  | update
  | updateArith (op : Arith)
  | updateOtherwise
  | otherwise
  | or
  | and
  | compare (op : Comparison)
  | arith (op : Arith)
  deriving Repr, DecidableEq

namespace Operator

/-- How tight an operator binds. -/
def level : Operator → Nat
  | .pipe => 0
  | .bind _ => 0
  | .both => 1
  | .assign => 2
  | .update => 2
  | .updateArith _ => 2
  | .updateOtherwise => 2
  | .otherwise => 3
  | .or => 4
  | .and => 5
  | .compare .eq => 6
  | .compare .ne => 6
  | .compare _ => 7
  | .arith .add => 8
  | .arith .sub => 8
  | .arith .mul => 9
  | .arith .div => 9
  | .arith .rem => 10

/-- Whether operators of this level group to the right. -/
def toRight (op : Operator) : Bool := op.level = 0 || op.level = 2 || op.level = 3

/-- The term of an operator and its operands. -/
def term (l : Term) : Operator → Term → Term
  | .pipe, r => .pipe l r
  | .bind name, r => .bind l name r
  | .both, r => .both l r
  | .assign, r => .assign l r
  | .update, r => .update l r
  | .updateArith op, r => .updateArith op l r
  | .updateOtherwise, r => .updateOtherwise l r
  | .otherwise, r => .otherwise l r
  | .or, r => .logic true l r
  | .and, r => .logic false l r
  | .compare op, r => .compare op l r
  | .arith op, r => .arith op l r

/-- The operator of a symbol. -/
def ofSymbol? : String → Option Operator
  | "|" => some .pipe
  | "," => some .both
  | "=" => some .assign
  | "|=" => some .update
  | "+=" => some (.updateArith .add)
  | "-=" => some (.updateArith .sub)
  | "*=" => some (.updateArith .mul)
  | "/=" => some (.updateArith .div)
  | "%=" => some (.updateArith .rem)
  | "//=" => some .updateOtherwise
  | "//" => some .otherwise
  | "==" => some (.compare .eq)
  | "!=" => some (.compare .ne)
  | "<" => some (.compare .lt)
  | "<=" => some (.compare .le)
  | ">" => some (.compare .gt)
  | ">=" => some (.compare .ge)
  | "+" => some (.arith .add)
  | "-" => some (.arith .sub)
  | "*" => some (.arith .mul)
  | "/" => some (.arith .div)
  | "%" => some (.arith .rem)
  | _ => none

/-- Closes the operators on a stack that bind tighter than an operator of that level, which stands
behind the term. -/
def close (next : Operator) : List (Term × Operator) → Term → List (Term × Operator) × Term
  | [], t => ([], t)
  | (l, op) :: stack, t =>
    if next.level < op.level ∨ (next.level = op.level ∧ ¬op.toRight) then
      close next stack (op.term l t)
    else ((l, op) :: stack, t)

/-- Closes all operators on a stack. -/
def closeAll (stack : List (Term × Operator)) (t : Term) : Term :=
  stack.foldl (fun t p => p.2.term p.1 t) t

/-- Groups a term and what follows it by how tight the operators bind. -/
def group (stack : List (Term × Operator)) (t : Term) : List (Operator × Term) → Term
  | [] => closeAll stack t
  | (op, r) :: rest =>
    let (stack, l) := close op stack t
    group ((l, op) :: stack) r rest

end Operator

/-- The words that start an atom of their own and so name no filter. -/
def reserved : List String := ["def", "if", "try", "label", "break", "reduce", "foreach"]

/-- Whether a filter starts with a word that is a directive there. -/
def startsDirective : List Token → Bool
  | .word name :: _ => ["module", "import", "include"].contains name
  | _ => false

/-- Reads an operator; a comma is none where it separates. -/
def readOperator (comma : Bool) : List Token → Option (Operator × List Token)
  | .word "or" :: ts => some (.or, ts)
  | .word "and" :: ts => some (.and, ts)
  | .word "as" :: .variable name :: .symbol "|" :: ts => some (.bind name, ts)
  -- between the members of an object a comma is no operator
  | .symbol "," :: ts => if comma then some (.both, ts) else none
  | .symbol s :: ts => (Operator.ofSymbol? s).map (·, ts)
  | _ => none

/-- Reads question marks. -/
def readLenient : List Token → Bool × List Token
  | .symbol "?" :: ts => (true, (readLenient ts).2)
  | ts => (false, ts)

/-- The path through a member. -/
def memberPart (name : String) (lenient : Bool) : Part := .index (.constant (.str name)) lenient

/-- A term that goes on as a path. -/
def pathTerm (head : Term) : List Part → Term
  | [] => head
  | ps => .path head ps

/-- A lenient term gives its outputs up to the first error, any other all. -/
def lenientTerm (lenient : Bool) (t : Term) : Term :=
  if lenient then .attempt t Builtin.empty else t

mutual

/-- Reads a sequence of atoms and operators. -/
def readTerm : (fuel : Nat) → (comma : Bool) → List Token → Option (Term × List Token)
  | 0, _, _ => none
  | fuel + 1, comma, ts => do
    let (t, ts) ← readAtom fuel ts
    let (rest, ts) ← readRest fuel comma ts
    pure (Operator.group [] t rest, ts)

/-- Reads operators, each with the atom behind it. -/
def readRest : (fuel : Nat) → (comma : Bool) → List Token →
    Option (List (Operator × Term) × List Token)
  | 0, _, _ => none
  | fuel + 1, comma, ts =>
    match readOperator comma ts with
    | none => some ([], ts)
    | some (op, ts) => do
      let (t, ts) ← readAtom fuel ts
      let (rest, ts) ← readRest fuel comma ts
      pure ((op, t) :: rest, ts)

/-- Reads an atom with the path behind it. -/
def readAtom : (fuel : Nat) → List Token → Option (Term × List Token)
  | 0, _ => none
  | fuel + 1, ts => do
    let (t, ts) ← readHead fuel ts
    let (lenient, ts) := readLenient ts
    let (parts, ts) ← readParts fuel ts
    pure (pathTerm (lenientTerm lenient t) parts, ts)

/-- Reads an atom without its path. -/
def readHead : (fuel : Nat) → List Token → Option (Term × List Token)
  | 0, _ => none
  | fuel + 1, ts =>
    match ts with
    | .symbol "-" :: ts => do
      let (t, ts) ← readAtom fuel ts
      pure (.negate t, ts)
    | .symbol ".." :: ts => some (.apply .withParts [], ts)
    -- a path through members of the input; its first part is read as all others are
    | .field s :: ts => some (.self, .field s :: ts)
    | .symbol "." :: .text s :: ts => some (.self, .symbol "." :: .text s :: ts)
    | .symbol "." :: ts => some (.self, ts)
    | .text s :: ts => some (.constant (.str s), ts)
    | .numeral s :: ts => some (.constant (.num (.ofText s)), ts)
    | .variable name :: ts => some (.variable name, ts)
    | .symbol "(" :: ts => do
      let (t, ts) ← readTerm fuel true ts
      match ts with
      | .symbol ")" :: ts => pure (t, ts)
      | _ => none
    | .symbol "[" :: .symbol "]" :: ts => some (.constant (.arr []), ts)
    | .symbol "[" :: ts => do
      let (t, ts) ← readTerm fuel true ts
      match ts with
      | .symbol "]" :: ts => pure (.collect t, ts)
      | _ => none
    | .symbol "\x7b" :: .symbol "\x7d" :: ts => some (.constant (.obj []), ts)
    | .symbol "\x7b" :: ts => do
      let (m, ts) ← readMember fuel ts
      readMembers fuel m ts
    | .word "if" :: ts => readBranch fuel ts
    | .word "try" :: ts => do
      let (t, ts) ← readAtom fuel ts
      match ts with
      | .word "catch" :: ts => do
        let (h, ts) ← readAtom fuel ts
        pure (.attempt t h, ts)
      | _ => pure (.attempt t Builtin.empty, ts)
    | .word name :: .symbol "(" :: ts =>
      if reserved.contains name then none
      else do
        let (args, ts) ← readArguments fuel ts
        pure (Builtin.call name args, ts)
    | .word name :: ts =>
      if reserved.contains name then none else some (Builtin.call name [], ts)
    | _ => none

/-- Reads a condition and its branches after `if` or `elif`. -/
def readBranch : (fuel : Nat) → List Token → Option (Term × List Token)
  | 0, _ => none
  | fuel + 1, ts => do
    let (c, ts) ← readTerm fuel true ts
    match ts with
    | .word "then" :: ts => do
      let (t, ts) ← readTerm fuel true ts
      match ts with
      | .word "end" :: ts => pure (.branch c t .self, ts)
      | .word "elif" :: ts => do
        let (e, ts) ← readBranch fuel ts
        pure (.branch c t e, ts)
      | .word "else" :: ts => do
        let (e, ts) ← readTerm fuel true ts
        match ts with
        | .word "end" :: ts => pure (.branch c t e, ts)
        | _ => none
      | _ => none
    | _ => none

/-- Reads arguments and the closing parenthesis. -/
def readArguments : (fuel : Nat) → List Token → Option (List Term × List Token)
  | 0, _ => none
  | fuel + 1, ts => do
    let (t, ts) ← readTerm fuel true ts
    match ts with
    | .symbol ")" :: ts => pure ([t], ts)
    | .symbol ";" :: ts => do
      let (args, ts) ← readArguments fuel ts
      pure (t :: args, ts)
    | _ => none

/-- Reads the parts of a path. -/
def readParts : (fuel : Nat) → List Token → Option (List Part × List Token)
  | 0, _ => none
  | fuel + 1, ts =>
    match ts with
    | .field s :: ts => do
      let (lenient, ts) := readLenient ts
      let (ps, ts) ← readParts fuel ts
      pure (memberPart s lenient :: ps, ts)
    | .symbol "." :: .text s :: ts => do
      let (lenient, ts) := readLenient ts
      let (ps, ts) ← readParts fuel ts
      pure (memberPart s lenient :: ps, ts)
    | .symbol "[" :: ts => do
      let (p, ts) ← readBracket fuel ts
      let (ps, ts) ← readParts fuel ts
      pure (p :: ps, ts)
    | ts => some ([], ts)

/-- Reads a part after its opening bracket. -/
def readBracket : (fuel : Nat) → List Token → Option (Part × List Token)
  | 0, _ => none
  | fuel + 1, ts =>
    match ts with
    | .symbol "]" :: ts =>
      let (lenient, ts) := readLenient ts
      some (.each lenient, ts)
    | .symbol ":" :: ts => do
      let (high, ts) ← readTerm fuel true ts
      match ts with
      | .symbol "]" :: ts =>
        let (lenient, ts) := readLenient ts
        pure (.sliceUpTo high lenient, ts)
      | _ => none
    | ts => do
      let (low, ts) ← readTerm fuel true ts
      match ts with
      | .symbol "]" :: ts =>
        let (lenient, ts) := readLenient ts
        pure (.index low lenient, ts)
      | .symbol ":" :: .symbol "]" :: ts =>
        let (lenient, ts) := readLenient ts
        pure (.sliceFrom low lenient, ts)
      | .symbol ":" :: ts => do
        let (high, ts) ← readTerm fuel true ts
        match ts with
        | .symbol "]" :: ts =>
          let (lenient, ts) := readLenient ts
          pure (.slice low high lenient, ts)
        | _ => none
      | _ => none

/-- Reads a member of an object. A key without a value stands for the member of the input under it, a
variable for its value under its name. -/
def readMember : (fuel : Nat) → List Token → Option (Term × List Token)
  | 0, _ => none
  | fuel + 1, ts =>
    match ts with
    | .word s :: .symbol ":" :: ts => readValue fuel (.constant (.str s)) ts
    | .text s :: .symbol ":" :: ts => readValue fuel (.constant (.str s)) ts
    | .variable s :: .symbol ":" :: ts => readValue fuel (.variable s) ts
    | .symbol "(" :: ts => do
      let (key, ts) ← readTerm fuel true ts
      match ts with
      | .symbol ")" :: .symbol ":" :: ts => readValue fuel key ts
      | _ => none
    | .word s :: ts => some (.member (.constant (.str s)) (.path .self [memberPart s false]), ts)
    | .text s :: ts => some (.member (.constant (.str s)) (.path .self [memberPart s false]), ts)
    | .variable s :: ts =>
      some (.member (.constant (.str (String.ofList (s.toList.drop 1)))) (.variable s), ts)
    | _ => none

/-- Reads the value of a member; a comma ends it. -/
def readValue : (fuel : Nat) → (key : Term) → List Token → Option (Term × List Token)
  | 0, _, _ => none
  | fuel + 1, key, ts => do
    let (v, ts) ← readTerm fuel false ts
    pure (.member key v, ts)

/-- Reads the members after the first, and the closing brace; a comma may stand before it. -/
def readMembers : (fuel : Nat) → (first : Term) → List Token → Option (Term × List Token)
  | 0, _, _ => none
  | fuel + 1, first, ts =>
    match ts with
    | .symbol "\x7d" :: ts => some (first, ts)
    | .symbol "," :: .symbol "\x7d" :: ts => some (first, ts)
    | .symbol "," :: ts => do
      let (m, ts) ← readMember fuel ts
      readMembers fuel (.arith .add first m) ts
    | _ => none

end

/-- Reads a **filter**. Between two tokens less than a dozen readers start. -/
def readFilter (s : String) : Option Term := do
  let tokens ← Token.read s
  if startsDirective tokens then none
  else
    match ← readTerm (12 * tokens.length + 12) true tokens with
    | (t, []) => some t
    | _ => none

end ErrorTaxonomy.Query
