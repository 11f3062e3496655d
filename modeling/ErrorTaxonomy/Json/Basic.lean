/-! # JSON values — trees whose objects keep the order of their members

`Tree ν` is a JSON value over a type `ν` of numbers: documents have integers and doubles, a query has
numerals besides. An object is a list of members in order; `putMember` writes a member where its key
already stands and at the end otherwise, so that a repeated key has its **last value at its first
position**; `eraseMember` fills the gap with the last member. -/

namespace ErrorTaxonomy
namespace Json

/-- A JSON value over numbers `ν`. -/
inductive Tree (ν : Type) where
  | null
  | bool (b : Bool)
  | num (n : ν)
  | str (s : String)
  | arr (items : List (Tree ν))
  | obj (members : List (String × Tree ν))
  deriving Inhabited

/-- A number of a document: an integer of 64 bits, signed or not, or a double. -/
inductive Number where
  | int (n : Int)
  | real (x : Float)
  deriving Inhabited

/-- Integers that a document keeps as integers. -/
def Number.fits (n : Int) : Prop := -0x8000000000000000 ≤ n ∧ n < 0x10000000000000000

instance (n : Int) : Decidable (Number.fits n) := inferInstanceAs (Decidable (_ ∧ _))

/-! ## Members -/

/-- Writes a member: in place when the key is there, at the end otherwise. -/
def putMember {α : Type} (k : String) (v : α) : List (String × α) → List (String × α)
  | [] => [(k, v)]
  | (k', v') :: ms => if k' = k then (k, v) :: ms else (k', v') :: putMember k v ms

/-- The members that a sequence of keys and values writes. -/
def ofPairs {α : Type} (ps : List (String × α)) : List (String × α) :=
  ps.foldl (fun ms p => putMember p.1 p.2 ms) []

/-- Removes the member with key `k`; the last member takes its place. -/
def eraseMember {α : Type} (k : String) : List (String × α) → List (String × α)
  | [] => []
  | (k', v) :: ms =>
    if k' = k then ms.getLast?.toList ++ ms.dropLast else (k', v) :: eraseMember k ms

@[simp] theorem putMember_nil {α : Type} (k : String) (v : α) : putMember k v [] = [(k, v)] := rfl

/-- Writing a member makes it the one that is found. -/
theorem lookup_putMember_self {α : Type} (k : String) (v : α) (ms : List (String × α)) :
    (putMember k v ms).lookup k = some v := by
  induction ms with
  | nil => simp [putMember]
  | cons m ms ih =>
    obtain ⟨k', v'⟩ := m
    by_cases h : k' = k
    · simp [putMember, h]
    · have h' : (k == k') = false := by simpa using fun e => h e.symm
      simp [putMember, h, List.lookup_cons, h', ih]

/-- A key that is not there is added at the end. -/
theorem putMember_of_not_mem {α : Type} {k : String} (v : α) {ms : List (String × α)}
    (h : k ∉ ms.map Prod.fst) : putMember k v ms = ms ++ [(k, v)] := by
  induction ms with
  | nil => rfl
  | cons m ms ih =>
    obtain ⟨k', v'⟩ := m
    simp only [List.map_cons, List.mem_cons, not_or] at h
    simp [putMember, Ne.symm h.1, ih h.2]

/-- A key that is not there leaves the members as they are. -/
theorem eraseMember_of_not_mem {α : Type} {k : String} {ms : List (String × α)}
    (h : k ∉ ms.map Prod.fst) : eraseMember k ms = ms := by
  induction ms with
  | nil => rfl
  | cons m ms ih =>
    obtain ⟨k', v'⟩ := m
    simp only [List.map_cons, List.mem_cons, not_or] at h
    simp [eraseMember, Ne.symm h.1, ih h.2]

/-! ## Trees -/

namespace Tree

/-- The value of member `k`, when the tree is an object that has one. -/
def get? {ν : Type} (k : String) : Tree ν → Option (Tree ν)
  | .obj ms => ms.lookup k
  | _ => none

mutual

/-- Changes every number of a tree. -/
def map {ν μ : Type} (f : ν → μ) : Tree ν → Tree μ
  | .null => .null
  | .bool b => .bool b
  | .num n => .num (f n)
  | .str s => .str s
  | .arr items => .arr (mapItems f items)
  | .obj members => .obj (mapMembers f members)

/-- Changes every number of a list of trees. -/
def mapItems {ν μ : Type} (f : ν → μ) : List (Tree ν) → List (Tree μ)
  | [] => []
  | t :: ts => map f t :: mapItems f ts

/-- Changes every number of the members of an object. -/
def mapMembers {ν μ : Type} (f : ν → μ) : List (String × Tree ν) → List (String × Tree μ)
  | [] => []
  | (k, t) :: ms => (k, map f t) :: mapMembers f ms

end

end Tree
end Json

/-- A **JSON value** as a document holds it. -/
abbrev Json := Json.Tree Json.Number

namespace Json

/-- A text that may be absent. -/
def ofOption : Option String → Json
  | none => .null
  | some s => .str s

/-- A list of texts. -/
def ofStrings (ss : List String) : Json := .arr (ss.map .str)

/-- A natural number. -/
def ofNat (n : Nat) : Json := .num (.int n)

end Json
end ErrorTaxonomy
