import ErrorTaxonomy.Query.Engine

/-! # Values — what filters work on

A value is a JSON tree whose numbers are integers of 64 bits, doubles, or numerals that are **kept as
they are written** until something computes with them. Values are totally compared: null, booleans,
numbers, strings, arrays and objects come in this order, arrays item by item, objects first by their
sorted keys and then by the values under them. A number that is none is less than every number, itself
included, so that such numbers change places when they are sorted. -/

namespace ErrorTaxonomy.Query

/-- A number of a query. -/
inductive Numeral where
  | int (n : Int)
  | real (x : Float)
  | written (s : String)
  deriving Inhabited

/-- A **value** of a query. -/
abbrev Value := Json.Tree Numeral

namespace Numeral

/-- Integers that are computed with as such. -/
def fits (n : Int) : Prop := -0x8000000000000000 ≤ n ∧ n < 0x8000000000000000

instance (n : Int) : Decidable (fits n) := inferInstanceAs (Decidable (_ ∧ _))

/-- The integer of 64 bits that is congruent to `n` modulo `2 ^ 64`. -/
def wrap (n : Int) : Numeral := .int (n.bmod 0x10000000000000000)

/-- **Queries** write computed doubles positionally from `1e-4` up to below `1e16` and do not sign a
positive exponent. -/
def style : Decimal.Style := ⟨-4, 16, false⟩

/-- The text of a number; a double that is not finite is written as null. -/
def text : Numeral → String
  | .int n => toString n
  | .real x => if x.isFinite then (Decimal.shortest x).render style else "null"
  | .written s => s

/-- The number of a numeral. -/
def ofText (s : String) : Numeral :=
  let digits := s.toList
  if digits.all Char.isDigit then
    let n : Int := Decimal.ofDigits digits
    if fits n then .int n else .written s
  else .written s

/-- The number of a document. -/
def ofNumber : Json.Number → Numeral
  | .int n => if fits n then .int n else .written (toString n)
  | .real x => .written (Json.realText x)

/-- The decimal that a numeral spells. -/
def decimal (s : String) : Decimal :=
  let cs := s.toList
  let negative := cs.head? = some '-'
  let cs := if negative then cs.drop 1 else cs
  let whole := cs.takeWhile Char.isDigit
  let cs := cs.dropWhile Char.isDigit
  let fraction := if cs.head? = some '.' then (cs.drop 1).takeWhile Char.isDigit else []
  let mark := (cs.dropWhile fun c => c ≠ 'e' ∧ c ≠ 'E').drop 1
  let power : Int := Decimal.ofDigits (mark.filter Char.isDigit)
  let exponent := if mark.head? = some '-' then -power else power
  ⟨negative, Decimal.ofDigits (whole ++ fraction), exponent - fraction.length⟩

/-- The double of a number. -/
def toFloat : Numeral → Float
  | .int n => if n < 0 then -(Float.ofNat n.natAbs) else Float.ofNat n.natAbs
  | .real x => x
  | .written s => (decimal s).toFloat

/-- Compares doubles; one that is no number is less than all. -/
def compareFloats (x y : Float) : Ordering :=
  -- so that it comes first in a sorted array
  if x.isNaN then .lt
  else if y.isNaN then .gt
  else if x < y then .lt
  else if x == y then .eq
  else .gt

/-- Compares numbers. -/
protected def compare : Numeral → Numeral → Ordering
  | .int m, .int n => Ord.compare m n
  | m, n => compareFloats m.toFloat n.toFloat

end Numeral

namespace Value

/-- An integer. -/
def ofInt (n : Int) : Value := .num (.int n)

/-- A length. -/
def ofNat (n : Nat) : Value := ofInt n

/-- The value of a JSON document. -/
def ofJson (v : Json) : Value := v.map Numeral.ofNumber

/-- The style of **values**. -/
def style : Json.Style Numeral := ⟨Numeral.text, stringChar⟩

/-- The text of a value. -/
def text (v : Value) : String := v.render style

/-- The values that count as true: all but null and false. -/
def truthy : Value → Bool
  | .null => false
  | .bool b => b
  | _ => true

/-- The name of the type of a value. -/
def typeName : Value → String
  | .null => "null"
  | .bool _ => "boolean"
  | .num _ => "number"
  | .str _ => "string"
  | .arr _ => "array"
  | .obj _ => "object"

/-! ## Order -/

/-- The members in the order of their keys. -/
def sortMembers (ms : List (String × Value)) : List (String × Value) :=
  ms.mergeSort fun a b => !decide (b.1 < a.1)

mutual

/-- The value with all members in the order of their keys. -/
def ordered : Value → Value
  | .arr vs => .arr (orderedItems vs)
  | .obj ms => .obj (sortMembers (orderedMembers ms))
  | v => v

/-- The items with all members in the order of their keys. -/
def orderedItems : List Value → List Value
  | [] => []
  | v :: vs => ordered v :: orderedItems vs

/-- The members with all members of their values in the order of their keys. -/
def orderedMembers : List (String × Value) → List (String × Value)
  | [] => []
  | (k, v) :: ms => (k, ordered v) :: orderedMembers ms

end

/-- The rank of the type of a value. -/
def rank : Value → Nat
  | .null => 0
  | .bool _ => 1
  | .num _ => 2
  | .str _ => 3
  | .arr _ => 4
  | .obj _ => 5

/-- Compares lists of keys. -/
def compareKeys : List (String × Value) → List (String × Value) → Ordering
  | [], [] => .eq
  | [], _ :: _ => .lt
  | _ :: _, [] => .gt
  | a :: l, b :: m => (Ord.compare a.1 b.1).then (compareKeys l m)

mutual

/-- Compares values whose members are in the order of their keys. -/
def compareOrdered : Value → Value → Ordering
  | .bool a, .bool b => Ord.compare a b
  | .num a, .num b => a.compare b
  | .str a, .str b => Ord.compare a b
  | .arr a, .arr b => compareItems a b
  | .obj a, .obj b => (compareKeys a b).then (compareMembers a b)
  | a, b => Ord.compare a.rank b.rank

/-- Compares arrays item by item. -/
def compareItems : List Value → List Value → Ordering
  | [], [] => .eq
  | [], _ :: _ => .lt
  | _ :: _, [] => .gt
  | a :: l, b :: m => (compareOrdered a b).then (compareItems l m)

/-- Compares the values of members one by one. -/
def compareMembers : List (String × Value) → List (String × Value) → Ordering
  | [], [] => .eq
  | [], _ :: _ => .lt
  | _ :: _, [] => .gt
  | (_, a) :: l, (_, b) :: m => (compareOrdered a b).then (compareMembers l m)

end

/-- **Compares** values. -/
protected def compare (v w : Value) : Ordering := compareOrdered v.ordered w.ordered

/-- Whether two values are equal; the order of members does not matter. -/
def same (v w : Value) : Bool := v.compare w == .eq

/-- Puts an item into a list whose greatest item comes first: behind all that it is less than. -/
def place {α : Type} (less : α → α → Bool) (x : α) : List α → List α
  | [] => [x]
  | y :: ys => if less x y then y :: place less x ys else x :: y :: ys

/-- **Sorts** a list; of two items neither of which is less, the earlier one stays the earlier. -/
def sortBy {α : Type} (less : α → α → Bool) (xs : List α) : List α :=
  (xs.foldl (fun sorted x => place less x sorted) []).reverse

/-- Sorts by keys that are lists of values. -/
def sortByKeys (vs : List (List Value × Value)) : List (List Value × Value) :=
  let keyed := vs.map fun p => (orderedItems p.1, p)
  (sortBy (fun a b => compareItems a.1 b.1 == .lt) keyed).map Prod.snd

/-- Placing an item keeps all items. -/
theorem place_perm {α : Type} (less : α → α → Bool) (x : α) (ys : List α) :
    (place less x ys).Perm (x :: ys) := by
  induction ys with
  | nil => exact .refl _
  | cons y ys ih =>
    unfold place
    split
    · exact (ih.cons y).trans (.swap x y ys)
    · exact .refl _

/-- Sorting keeps all items. -/
theorem sortBy_perm {α : Type} (less : α → α → Bool) (xs : List α) : (sortBy less xs).Perm xs := by
  have h (xs sorted : List α) :
      (xs.foldl (fun sorted x => place less x sorted) sorted).Perm (xs ++ sorted) := by
    induction xs generalizing sorted with
    | nil => exact .refl _
    | cons x xs ih =>
      exact (ih _).trans ((List.Perm.append_left xs (place_perm less x sorted)).trans
        List.perm_middle)
  exact (List.reverse_perm _).trans (by simpa using h xs [])

/-! ## Parts -/

mutual

/-- The value itself and everything in it, each before its parts. -/
def withParts : Value → List Value
  | .arr vs => .arr vs :: itemParts vs
  | .obj ms => .obj ms :: memberParts ms
  | v => [v]

/-- The items and everything in them. -/
def itemParts : List Value → List Value
  | [] => []
  | v :: vs => withParts v ++ itemParts vs

/-- The values of members and everything in them. -/
def memberParts : List (String × Value) → List Value
  | [] => []
  | (_, v) :: ms => withParts v ++ memberParts ms

end

end Value
end ErrorTaxonomy.Query
