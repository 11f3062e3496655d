import ErrorTaxonomy.Main.Query.Value

/-! # Arithmetic — the operators of queries

Integers are computed modulo `2 ^ 64` and keep to the range of 64 bits; a quotient is always a double.
Sums join strings, arrays and objects, and null adds nothing. Differences remove items, products repeat
strings and merge objects, quotients split strings. An error is a value that says what could not be
done. -/

namespace ErrorTaxonomy.Query

/-- The operators of arithmetic. -/
inductive Arith where
  | add
  | sub
  | mul
  | div
  | rem
  deriving Repr, DecidableEq

/-- The operators of comparison. -/
inductive Comparison where
  | eq
  | ne
  | lt
  | le
  | gt
  | ge
  deriving Repr, DecidableEq

/-- An error with a text. -/
def failure {α : Type} (s : String) : Except Value α := .error (.str s)

/-- The error of a value that is not of the type asked for. -/
def wrongType {α : Type} (v : Value) (type : String) : Except Value α :=
  failure ("cannot use " ++ v.text ++ " as " ++ type)

/-- The error of a value that has no such part. -/
def badIndex {α : Type} (v i : Value) : Except Value α :=
  failure ("cannot index " ++ v.text ++ " with " ++ i.text)

namespace Arith

/-- The sign of an operator. -/
def sign : Arith → String
  | .add => "+"
  | .sub => "-"
  | .mul => "*"
  | .div => "/"
  | .rem => "%"

/-- The error of operands that do not go together. -/
def mismatched (op : Arith) (v w : Value) : Except Value Value :=
  failure ("cannot calculate " ++ v.text ++ " " ++ op.sign ++ " " ++ w.text)

/-- The remainder of doubles, with the sign of the dividend. -/
def remainder (x y : Float) : Float :=
  if x.isNaN || y.isNaN || x.isInf || y == 0.0 then 0.0 / 0.0
  else if y.isInf then x
  else
    let size (z : Float) : Binary := Binary.ofBits (z.toBits.toNat % Nat.pow 2 63)
    let a := size x
    let b := size y
    let e := min a.exponent b.exponent
    let r := a.mantissa * Nat.pow 2 (a.exponent - e).toNat %
      (b.mantissa * Nat.pow 2 (b.exponent - e).toNat)
    let z := (Float.ofNat r).scaleB e
    if x < 0.0 then -z else z

/-- Computes with doubles. -/
def onFloats : Arith → Float → Float → Float
  | .add, x, y => x + y
  | .sub, x, y => x - y
  | .mul, x, y => x * y
  | .div, x, y => x / y
  | .rem, x, y => remainder x y

/-- Computes with integers; a quotient is no integer. -/
def onInts? (op : Arith) (m n : Int) : Option Int :=
  match op with
  | .add => some (m + n)
  | .sub => some (m - n)
  | .mul => some (m * n)
  | .div => none
  | .rem => some (m.tmod n)

/-- Computes with numbers. -/
def onNumerals (op : Arith) (m n : Numeral) : Numeral :=
  let floats := Numeral.real (op.onFloats m.toFloat n.toFloat)
  match m, n with
  | .int a, .int b => ((op.onInts? a b).map Numeral.wrap).getD floats
  | _, _ => floats

/-- The pieces of a text between separators; an empty separator stands between all characters. -/
def pieces (s sep : String) : List Value :=
  if s = "" then []
  else if sep = "" then s.toList.map fun c => .str (String.ofList [c])
  else (s.splitOn sep).map .str

/-- A text several times in a row, or null when it is not even once. -/
def repeated (s : String) (n : Int) : Value :=
  if 0 < n then .str (String.ofList (List.replicate n.toNat s.toList).flatten) else .null

end Arith

mutual

/-- Merges a value into one that stands under the same key. -/
def mergeInto (old : Option Value) : Value → Value
  | .obj ms =>
    match old with
    | some (.obj base) => .obj (mergeMembers base ms)
    | _ => .obj ms
  | v => v

/-- Merges members into members, objects under the same key included. -/
def mergeMembers (base : List (String × Value)) : List (String × Value) → List (String × Value)
  | [] => base
  | (k, v) :: ms => mergeMembers (Json.putMember k (mergeInto (base.lookup k) v) base) ms

end

/-- **Computes** with two values. -/
def Arith.run (op : Arith) (v w : Value) : Except Value Value :=
  match op, v, w with
  | .add, .null, w => .ok w
  | .add, v, .null => .ok v
  | .add, .str s, .str t => .ok (.str (s ++ t))
  | .add, .arr a, .arr b => .ok (.arr (a ++ b))
  | .add, .obj a, .obj b => .ok (.obj (b.foldl (fun ms p => Json.putMember p.1 p.2 ms) a))
  | .sub, .arr a, .arr b => .ok (.arr (a.filter fun x => !b.any (Value.same x)))
  | .mul, .str s, .num (.int n) => .ok (repeated s n)
  | .mul, .num (.int n), .str s => .ok (repeated s n)
  | .mul, .obj a, .obj b => .ok (.obj (mergeMembers a b))
  | .div, .str s, .str t => .ok (.arr (pieces s t))
  | .rem, .num (.int m), .num (.int 0) => mismatched .rem (.num (.int m)) (.num (.int 0))
  | op, .num m, .num n => .ok (.num (op.onNumerals m n))
  | op, v, w => mismatched op v w

/-- The value with the other sign. -/
def negate : Value → Except Value Value
  | .num (.int n) => .ok (.num (Arith.onNumerals .sub (.int 0) (.int n)))
  | .num n => .ok (.num (.real (-n.toFloat)))
  | v => wrongType v "number"

/-- **Compares** two values by an operator. -/
def Comparison.run (op : Comparison) (v w : Value) : Bool :=
  match op, v.compare w with
  | .eq, o => o == .eq
  | .ne, o => o != .eq
  | .lt, o => o == .lt
  | .le, o => o != .gt
  | .gt, o => o == .gt
  | .ge, o => o != .lt

end ErrorTaxonomy.Query
