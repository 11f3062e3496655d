import ErrorTaxonomy.Main.Query.Term
import ErrorTaxonomy.Text.Affix

/-! # Functions — the operations on values that have names

A function takes a value and argument values and gives a stream; all but a few give one output. -/

namespace ErrorTaxonomy.Query

/-- The outputs of a term, errors among them. -/
abbrev Stream := List (Except Value Value)

namespace Stream

/-- Runs a term on each output; errors stay. -/
def andThen (s : Stream) (f : Value → Stream) : Stream :=
  s.flatMap fun r =>
    match r with
    | .ok v => f v
    | .error e => [.error e]

/-- Combines each output of one stream with each output of another; the later stream runs through
first. -/
def cross {α β γ : Type} (f : α → β → Except Value γ) (ls : List (Except Value α))
    (rs : List (Except Value β)) : List (Except Value γ) :=
  ls.flatMap fun l => rs.map fun r => do f (← l) (← r)

/-- The outputs up to the first error, and then what a handler gives for it. -/
def rescue (handler : Value → Stream) : Stream → Stream
  | [] => []
  | .ok v :: s => .ok v :: rescue handler s
  | .error e :: _ => handler e

/-- The outputs, or the first error. -/
def toValues (s : Stream) : Except Value (List Value) := s.mapM id

@[simp] theorem andThen_nil (f : Value → Stream) : andThen [] f = [] := rfl

@[simp] theorem andThen_ok (v : Value) (s : Stream) (f : Value → Stream) :
    andThen (.ok v :: s) f = f v ++ andThen s f := rfl

@[simp] theorem rescue_nil (handler : Value → Stream) : rescue handler [] = [] := rfl

@[simp] theorem rescue_ok (handler : Value → Stream) (v : Value) (s : Stream) :
    rescue handler (.ok v :: s) = .ok v :: rescue handler s := rfl

@[simp] theorem rescue_error (handler : Value → Stream) (e : Value) (s : Stream) :
    rescue handler (.error e :: s) = handler e := rfl

end Stream

/-! ## Arrays and objects -/

/-- The items of an array or the values of an object. -/
def valuesOf : Value → Except Value (List Value)
  | .arr vs => .ok vs
  | .obj ms => .ok (ms.map Prod.snd)
  | v => wrongType v "iterable (array or object)"

/-- The items of an array. -/
def itemsOf : Value → Except Value (List Value)
  | .arr vs => .ok vs
  | v => wrongType v "array"

/-- The indices of an array or the keys of an object, each with its value. -/
def entriesOf : Value → Except Value (List (Value × Value))
  | .arr vs => .ok (vs.zipIdx.map fun p => (Value.ofNat p.2, p.1))
  | .obj ms => .ok (ms.map fun p => (.str p.1, p.2))
  | v => wrongType v "iterable (array or object)"

/-- An object with the entries of an array. -/
def objectOf (v : Value) : Except Value Value := do
  let ms ← (← itemsOf v).mapM fun entry =>
    match entry.get? "key" with
    | some (.str k) => pure (k, (entry.get? "value").getD .null)
    | _ => wrongType entry "object"
  pure (.obj (Json.ofPairs ms))

/-- The sum of the items of an array or of the values of an object. -/
def sum (v : Value) : Except Value Value := do
  (← valuesOf v).foldlM Arith.add.run .null

/-- The number of characters, items or members; of a number, its size. -/
def lengthOf : Value → Except Value Value
  | .null => .ok (Value.ofNat 0)
  | .bool b => failure ((if b then "true" else "false") ++ " has no length")
  | .num (.int n) => .ok (.num (.wrap n.natAbs))
  | .num n => .ok (.num (.real n.toFloat.abs))
  | .str s => .ok (Value.ofNat s.length)
  | .arr vs => .ok (Value.ofNat vs.length)
  | .obj ms => .ok (Value.ofNat ms.length)

/-- Whether an array has an item at an index, or an object a member with a key. -/
def hasPart (v i : Value) : Except Value Bool :=
  match v, i with
  | .arr vs, .num (.int n) => if 0 ≤ n then .ok (n.toNat < vs.length) else badIndex v i
  | .obj ms, .str k => .ok (ms.lookup k).isSome
  | _, _ => badIndex v i

/-- Integers from one up to below another one, by steps of a third. -/
def rangeOf : List Value → Except Value (List Value)
  | [.num (.int n)] => .ok ((List.range n.toNat).map Value.ofNat)
  | [.num (.int m), .num (.int n)] =>
    .ok ((List.range (n - m).toNat).map fun i : Nat => Value.ofInt (m + i))
  | v :: _ => wrongType v "integer"
  | [] => .ok []

/-! ## Texts -/

/-- A text that is asked for. -/
def textOf : Value → Except Value String
  | .str s => .ok s
  | v => wrongType v "string"

/-- Whether a text starts or ends with another one. -/
def affixed (test : String → String → Bool) (v affix : Value) : Except Value Value := do
  let s ← textOf v
  let p ← textOf affix
  pure (.bool (test p s))

/-- A text without a start or end, if it has it. -/
def stripped (strip? : String → String → Option String) (v affix : Value) : Value :=
  match v, affix with
  | .str s, .str p => .str ((strip? p s).getD s)
  | _, _ => v

/-- A text as it is, any other value as JSON text. -/
def asText : Value → Value
  | .str s => .str s
  | v => .str (Value.text v)

/-- The sum of the texts of the parts of a value, with a value between any two of them. -/
def joined (v sep : Value) : Except Value Value := do
  match (← valuesOf v).map asText with
  | [] => pure (.str "")
  | t :: ts => ts.foldlM (fun sum u => do Arith.add.run (← Arith.add.run sum sep) u) t

/-! ## Sorting by keys -/

/-- Puts neighbours with the same key together. -/
def groups : List (List Value × Value) → List (List Value × List Value)
  | [] => []
  | (k, v) :: rest =>
    match groups rest with
    | [] => [(k, [v])]
    | (k', vs) :: gs =>
      if Value.same (.arr k) (.arr k') then (k, v :: vs) :: gs else (k, [v]) :: (k', vs) :: gs

/-- Arranges the items of an array by their keys. -/
def Keyed.run (f : Keyed) (keyed : List (List Value × Value)) : Value :=
  let sorted := Value.sortByKeys keyed
  match f with
  | .sort => .arr (sorted.map Prod.snd)
  | .group => .arr ((groups sorted).map fun g => .arr g.2)
  | .unique => .arr ((groups sorted).filterMap fun g => g.2.head?)

/-- **Runs** a function. -/
def Function.run (f : Function) (v : Value) (args : List Value) : Stream :=
  let arg := args.headD .null
  match f with
  | .empty => []
  | .error => [.error v]
  | .length => [lengthOf v]
  | .keys => [do
      let keys := (← entriesOf v).map Prod.fst
      pure (.arr (keys.mergeSort fun a b => Value.compare a b != .gt))]
  | .keysUnsorted => [do pure (.arr ((← entriesOf v).map Prod.fst))]
  | .has => [do pure (.bool (← hasPart v arg))]
  | .add => [sum v]
  | .sort => [do pure (Keyed.sort.run ((← itemsOf v).map fun w => ([w], w)))]
  | .reverse => [do pure (.arr (← itemsOf v).reverse)]
  | .join => [joined v arg]
  | .toText => [.ok (asText v)]
  | .toJsonText => [.ok (.str (Value.text v))]
  | .toEntries => [do
      pure (.arr ((← entriesOf v).map fun p => .obj [("key", p.1), ("value", p.2)]))]
  | .fromEntries => [objectOf v]
  | .startsWith => [affixed Text.startsWith v arg]
  | .endsWith => [affixed Text.endsWith v arg]
  | .withoutStart => [.ok (stripped Text.afterPrefix? v arg)]
  | .withoutEnd => [.ok (stripped Text.beforeSuffix? v arg)]
  | .split => [do pure (.arr (Arith.pieces (← textOf v) (← textOf arg)))]
  | .typeName => [.ok (.str (Value.typeName v))]
  | .not => [.ok (.bool !(Value.truthy v))]
  | .withParts => (Value.withParts v).map .ok
  | .range =>
    match rangeOf args with
    | .ok vs => vs.map .ok
    | .error e => [.error e]

end ErrorTaxonomy.Query
