import ErrorTaxonomy.Text.Alphanumeric
import ErrorTaxonomy.Text.CaseMap

/-! # Words — the parts of a name

A name is cut into words at every character that is neither a letter nor a number, and inside a run of
such characters where the **case** changes: after the lower-case letter of `fooBar`, and before the
last capital of `IOError`. The cutter takes its character classes as a parameter. -/

namespace ErrorTaxonomy.Ident

/-- The **character classes** that decide where a name is cut. -/
structure CharClasses where
  isPart : Char → Bool
  isLower : Char → Bool
  isUpper : Char → Bool

/-- The classes of Unicode. -/
def CharClasses.unicode : CharClasses :=
  ⟨Text.isAlphanumeric, Text.isLowercase, Text.isUppercase⟩

/-- The case of the last letter that had one, since the word began or a capital followed it. -/
inductive Mode where
  | start
  | lower
  | upper
  deriving Repr, DecidableEq

/-- The mode after `c`; a character without case does not change it. -/
def Mode.after (k : CharClasses) (m : Mode) (c : Char) : Mode :=
  if k.isLower c then .lower else if k.isUpper c then .upper else m

/-- The maximal runs of part characters. -/
def runs (k : CharClasses) (s : List Char) : List (List Char) :=
  (s.splitOnP fun c => !k.isPart c).filter fun r => !r.isEmpty

/-- Cuts a run into words. `open?` is the word being read, in reverse. -/
def cutRun (k : CharClasses) : Mode → List Char → List Char → List (List Char)
  | _, open?, [] => [open?.reverse]
  | _, open?, [c] => [(c :: open?).reverse]
  | m, open?, c :: d :: r =>
    let m' := m.after k c
    -- a small letter ends the word when a capital follows
    if m' = .lower ∧ k.isUpper d then
      (c :: open?).reverse :: cutRun k .start [] (d :: r)
    -- the last of several capitals belongs to the next word already
    else if m = .upper ∧ k.isUpper c ∧ k.isLower d then
      (if open? = [] then [] else [open?.reverse]) ++ cutRun k m' [c] (d :: r)
    else
      cutRun k m' (c :: open?) (d :: r)

/-- The words of a name under given character classes. -/
def splitWords (k : CharClasses) (s : List Char) : List (List Char) :=
  (runs k s).flatMap (cutRun k .start [])

/-- The **words** of a name. -/
def words (s : List Char) : List (List Char) := splitWords .unicode s

@[simp] theorem cutRun_singleton (k : CharClasses) (m : Mode) (w : List Char) (c : Char) :
    cutRun k m w [c] = [(c :: w).reverse] := rfl

/-- Nothing of a run is lost or added. -/
theorem flatten_cutRun (k : CharClasses) (m : Mode) (w r : List Char) :
    (cutRun k m w r).flatten = w.reverse ++ r := by
  fun_induction cutRun k m w r with
  | case1 | case2 => simp
  | case3 m w c d r m' h ih => simp [ih]
  | case4 m w c d r m' h h' ih =>
    split
    · next e => subst e; simpa using ih
    · simp [ih]
  | case5 m w c d r m' h h' ih => simp [ih]

end ErrorTaxonomy.Ident
