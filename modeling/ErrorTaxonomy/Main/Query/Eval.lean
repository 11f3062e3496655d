import ErrorTaxonomy.Main.Query.Step

/-! # Evaluating terms — streams of values, and changes through paths

`Term.run` gives the outputs of a term on a value. `Term.change` treats a term as a path into a value
and changes what it leads to; only terms that pass parts of their input on can be changed through. Both
go by the structure of the term, so every filter comes to an end. -/

namespace ErrorTaxonomy.Query

/-- The variables that are bound, the latest first. -/
abbrev Bindings := List (String × Value)

/-- The error of a name that nothing defines. -/
def undefinedError (name : String) : Except Value Value := failure (name ++ " is undefined")

/-- The error of a term that does not lead into a value. -/
def noPath (v : Value) : Stream := [failure ("invalid path expression with input " ++ v.text)]

/-- Changes a value for one output after another. -/
def changeFor (outputs : Stream) (v : Value) (f : Value → Value → Stream) : Stream :=
  outputs.foldl
    (fun s r => match r with
      | .ok x => s.andThen (f x)
      | .error e => s.andThen fun _ => [.error e])
    [.ok v]

/-- Whether an alternative keeps an output: errors, and values that count as true. -/
def passes : Except Value Value → Bool
  | .ok w => Value.truthy w
  | .error _ => true

/-- The items of an array with all outputs of a key. To sort less than two items takes no keys. -/
def keyedItems (f : Keyed) (key : Value → Stream) (v : Value) :
    Except Value (List (List Value × Value)) := do
  let items ← itemsOf v
  if f = .sort ∧ items.length < 2 then pure (items.map ([], ·))
  else items.mapM fun w => do pure (← (key w).toValues, w)

mutual

/-- The **outputs** of a term. -/
def Term.run (env : Bindings) (v : Value) : Term → Stream
  | .self => [.ok v]
  | .constant c => [.ok c]
  | .variable name => [((env.lookup name).map .ok).getD (undefinedError name)]
  | .collect t => [(t.run env v).toValues.map .arr]
  | .member k w =>
    Stream.cross (fun key value => do pure (.obj [(← textOf key, value)]))
      (k.run env v) (w.run env v)
  | .negate t => (t.run env v).andThen fun w => [negate w]
  | .path head parts =>
    -- indices are computed on the input, not on what the head gives
    let steps := stepsOf env v parts
    (head.run env v).andThen fun w =>
      steps.flatMap fun r =>
        match r with
        | .ok ss => Step.readAll ss w
        | .error e => [.error e]
  | .pipe l r => (l.run env v).andThen fun w => r.run env w
  | .bind l name r => (l.run env v).andThen fun w => r.run ((name, w) :: env) v
  | .both l r => l.run env v ++ r.run env v
  | .branch c t e =>
    (c.run env v).andThen fun b => if Value.truthy b then t.run env v else e.run env v
  | .attempt t h => (t.run env v).rescue fun e => h.run env e
  | .otherwise l r =>
    -- errors of the left side keep the right side from being asked
    match (l.run env v).filter passes with
    | [] => r.run env v
    | s => s
  | .logic stop l r =>
    (l.run env v).andThen fun b =>
      if Value.truthy b = stop then [.ok (.bool stop)]
      else (r.run env v).andThen fun c => [.ok (.bool (Value.truthy c))]
  | .arith op l r => Stream.cross op.run (l.run env v) (r.run env v)
  | .compare op l r =>
    Stream.cross (fun a b => .ok (.bool (op.run a b))) (l.run env v) (r.run env v)
  | .assign l r => (r.run env v).andThen fun w => l.change env (fun _ => [.ok w]) v
  | .update l r => l.change env (fun w => r.run env w) v
  | .updateArith op l r =>
    (r.run env v).andThen fun w => l.change env (fun old => [op.run old w]) v
  | .updateOtherwise l r =>
    -- each output of `r` starts from the value as it was
    (r.run env v).andThen fun w =>
      l.change env (fun old => [.ok (if Value.truthy old then old else w)]) v
  | .apply f args =>
    (argumentsOf env v args).flatMap fun r =>
      match r with
      | .ok ws => f.run v ws
      | .error e => [.error e]
  | .keyed f key =>
    match keyedItems f (fun w => key.run env w) v with
    | .ok items => [.ok (f.run items)]
    | .error e => [.error e]
  | .firstOf t => (t.run env v).take 1
  | .unknown name _ => [undefinedError name]

/-- What a term leads to in a value, **changed** by `f`. -/
def Term.change (env : Bindings) (f : Value → Stream) (v : Value) : Term → Stream
  | .self => f v
  | .path head parts =>
    let steps := stepsOf env v parts
    head.change env
      (fun w => [steps.foldlM (fun w r => do (Step.changeAll f (← r) w)) w]) v
  | .pipe l r => l.change env (fun w => r.change env f w) v
  | .bind l name r =>
    changeFor (l.run env v) v fun x w => r.change ((name, x) :: env) f w
  | .both l r => (l.change env f v).andThen fun w => r.change env f w
  | .branch c t e =>
    changeFor (c.run env v) v fun b w =>
      if Value.truthy b then t.change env f w else e.change env f w
  | .otherwise l r =>
    if (l.run env v).any passes then l.change env f v else r.change env f v
  | .apply .empty _ => [.ok v]
  | .apply .error _ => [.error v]
  | _ => noPath v

/-- The argument values of a function, one list for each choice of outputs. -/
def argumentsOf (env : Bindings) (v : Value) : List Term → List (Except Value (List Value))
  | [] => [.ok []]
  | t :: ts =>
    Stream.cross (fun w ws => .ok (w :: ws)) (t.run env v) (argumentsOf env v ts)

/-- The steps of a path, one list for each choice of indices. -/
def stepsOf (env : Bindings) (v : Value) : List Part → List (Except Value (List Step))
  | [] => [.ok []]
  | p :: ps => Stream.cross (fun s ss => .ok (s :: ss)) (stepOf env v p) (stepsOf env v ps)

/-- The steps of a part, one for each choice of indices. -/
def stepOf (env : Bindings) (v : Value) : Part → List (Except Value Step)
  | .each lenient => [.ok ⟨.each, lenient⟩]
  | .index i lenient => (i.run env v).map fun r => do pure ⟨.index (← r), lenient⟩
  | .sliceFrom low lenient =>
    (low.run env v).map fun r => do pure ⟨.slice (some (← r)) none, lenient⟩
  | .sliceUpTo high lenient =>
    (high.run env v).map fun r => do pure ⟨.slice none (some (← r)), lenient⟩
  | .slice low high lenient =>
    Stream.cross (fun a b => .ok ⟨.slice (some a) (some b), lenient⟩)
      (low.run env v) (high.run env v)

end

end ErrorTaxonomy.Query
