import ErrorTaxonomy.Main.Query.Function

/-! # Steps — parts of values, read and changed

A step is a part of a path whose indices have been computed. A negative index counts from the end.
Reading a part that is missing gives null; changing one puts it there in an object and fails in an
array. A change that gives nothing removes the part. -/

namespace ErrorTaxonomy.Query

/-- What a step goes to. -/
inductive Target where
  | each
  | index (i : Value)
  | slice (low high : Option Value)

/-- One **step** of a path. -/
structure Step where
  target : Target
  lenient : Bool

/-- The place of an index in a list of that length. -/
def placeOf (i : Int) (length : Nat) : Option Nat :=
  let j := if i < 0 then i + length else i
  if 0 ≤ j ∧ j < length then some j.toNat else none

/-- The place of a bound in a list of that length. -/
def boundOf (default length : Nat) : Option Value → Except Value Nat
  | none => .ok default
  | some (.num (.int i)) =>
    .ok (if i < 0 then (i + length).toNat else min i.toNat length)
  | some v => wrongType v "integer"

/-- Where a slice of a list of that length starts and how long it is. -/
def extentOf (low high : Option Value) (length : Nat) : Except Value (Nat × Nat) := do
  let start ← boundOf 0 length low
  let stop ← boundOf length length high
  pure (start, stop - start)

namespace Target

/-- The parts of a value that a step goes to. -/
def read (v : Value) : Target → Except Value (List Value)
  | .each => valuesOf v
  | .index i =>
    match v, i with
    | .arr vs, .num (.int n) => .ok [((placeOf n vs.length).bind (vs[·]?)).getD .null]
    | .obj ms, .str k => .ok [(ms.lookup k).getD .null]
    | _, _ => badIndex v i
  | .slice low high =>
    match v with
    | .arr vs => do
      let (start, count) ← extentOf low high vs.length
      pure [.arr ((vs.drop start).take count)]
    | .str s => do
      let (start, count) ← extentOf low high s.length
      pure [.str (String.ofList ((s.toList.drop start).take count))]
    | _ => wrongType v "rangeable (array or string)"

/-- The first output, if there is one. -/
def firstOutput (s : Stream) : Except Value (Option Value) :=
  match s with
  | [] => .ok none
  | .ok v :: _ => .ok (some v)
  | .error e :: _ => .error e

/-- Changes each member of an object to the first output of `f`, or removes it. -/
def changeMembers (f : Value → Stream) (ms : List (String × Value)) :
    Except Value (List (String × Value)) := do
  let changed ← ms.mapM fun p => do pure (p.1, ← firstOutput (f p.2))
  pure (changed.filterMap fun p => p.2.map (p.1, ·))

/-- The outcome of a change that does not apply to a value: a lenient step leaves the value as it is. -/
def refuse (lenient : Bool) (v : Value) (error : Except Value Value) : Except Value Value :=
  if lenient then .ok v else error

/-- The part of a value that a step goes to, **changed** by `f`. -/
def change (lenient : Bool) (f : Value → Stream) (v : Value) : Target → Except Value Value
  | .each =>
    match v with
    -- an item may become several items, a member only one
    | .arr vs => do pure (.arr (← (vs.mapM fun w => (f w).toValues)).flatten)
    | .obj ms => do pure (.obj (← changeMembers f ms))
    | _ => refuse lenient v (wrongType v "iterable (array or object)")
  | .index i =>
    match v, i with
    | .obj ms, .str k => do
      match ← firstOutput (f ((ms.lookup k).getD .null)) with
      | some w => pure (.obj (Json.putMember k w ms))
      | none => pure (.obj (Json.eraseMember k ms))
    | .arr vs, .num (.int n) =>
      match placeOf n vs.length with
      | none => refuse lenient v (failure ("index " ++ Value.text i ++ " out of bounds"))
      | some j => do
        match ← firstOutput (f ((vs[j]?).getD .null)) with
        | some w => pure (.arr (vs.set j w))
        | none => pure (.arr (vs.eraseIdx j))
    | .arr _, _ => refuse lenient v (wrongType i "integer")
    | _, _ => refuse lenient v (badIndex v i)
  | .slice low high =>
    match v with
    | .arr vs =>
      match extentOf low high vs.length with
      | .error e => refuse lenient v (.error e)
      | .ok (start, count) => do
        let inner ← match ← firstOutput (f (.arr ((vs.drop start).take count))) with
          | some w => itemsOf w
          | none => pure []
        pure (.arr (vs.take start ++ inner ++ vs.drop (start + count)))
    | _ => refuse lenient v (wrongType v "array")

end Target

namespace Step

/-- The parts that a step goes to; a lenient step leaves errors out. -/
def read (s : Step) (v : Value) : Stream :=
  match s.target.read v with
  | .ok vs => vs.map .ok
  | .error e => if s.lenient then [] else [.error e]

/-- The parts that several steps go to. -/
def readAll : List Step → Value → Stream
  | [], v => [.ok v]
  | s :: ss, v => (s.read v).andThen (readAll ss)

/-- Changes the parts that several steps go to. -/
def changeAll (f : Value → Stream) : List Step → Value → Except Value Value
  | [], v => .ok v
  | [s], v => s.target.change s.lenient f v
  | s :: s' :: ss, v => s.target.change s.lenient (fun w => [changeAll f (s' :: ss) w]) v

end Step
end ErrorTaxonomy.Query
