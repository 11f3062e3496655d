import Mathlib.Data.List.Forall2
import Mathlib.Data.List.Induction
import ErrorTaxonomy.Proofs.Ident.Runs
import ErrorTaxonomy.Proofs.Text.Bytes
import ErrorTaxonomy.Proofs.Text.Letters

/-! # Cuts — where a run is cut into words

A run is cut between two of its characters by a **rule** about what stands on either side
(`CutsBetween`). Cutting by a rule has one result (`IsCutting.unique`), and the reader of a run gives it:

* **`Reading.isCutting`** — the invariant of the reader. Its mode is the case of the last cased character
  read, except right after a cut before a capital, where that capital is still to set it.
* **`slicesTo_cutSpans`** — the reader that keeps byte positions in place of characters takes slices that
  exist, and they are the words.
* **`splitWords_iff`** — the words of a name, from its maximal runs and the rule. -/

namespace ErrorTaxonomy.Ident

/-! ## Cutting by a rule -/

/-- The first of the pieces make up the text `before`, so that a cut lies behind it. -/
def CutBehind (ws : List (List Char)) (before : List Char) : Prop :=
  ∃ us vs, ws = us ++ vs ∧ us.flatten = before

/-- The pieces **cut** a text by a rule: they have characters, they make up the text, and between the
characters `before` and the character behind them there is a cut exactly when the rule says so. -/
structure IsCutting (cut : List Char → Char → List Char → Prop) (r : List Char)
    (ws : List (List Char)) : Prop where
  flatten_eq : ws.flatten = r
  ne_nil : ∀ w ∈ ws, w ≠ []
  cut_iff : ∀ before c after, r = before ++ c :: after → before ≠ [] →
    (CutBehind ws before ↔ cut before c after)

section Cutting

variable {cut : List Char → Char → List Char → Prop} {w r : List Char} {ws ws' : List (List Char)}

/-- Behind the first piece the cuts are those of the others. -/
theorem cutBehind_cons_iff (hne : w ≠ []) (t : List Char) :
    CutBehind (w :: ws) (w ++ t) ↔ CutBehind ws t := by
  constructor
  · rintro ⟨us, vs, hws, hflat⟩
    cases us with
    | nil => simp [hne] at hflat
    | cons u us =>
      obtain ⟨rfl, rfl⟩ := List.cons.inj hws
      exact ⟨us, vs, rfl, by simpa using hflat⟩
  · rintro ⟨us, vs, rfl, rfl⟩
    exact ⟨w :: us, vs, rfl, rfl⟩

/-- No cut lies inside the first piece. -/
theorem not_cutBehind_of_lt {before : List Char} (hne : before ≠ [])
    (hlt : before.length < w.length) : ¬CutBehind (w :: ws) before := by
  rintro ⟨us, vs, hws, rfl⟩
  cases us with
  | nil => exact hne rfl
  | cons u us =>
    obtain ⟨rfl, -⟩ := List.cons.inj hws
    rw [List.flatten_cons, List.length_append] at hlt
    omega

/-- A text without a cut is one piece. -/
theorem IsCutting.single (hne : w ≠ [])
    (h : ∀ before c after, w = before ++ c :: after → before ≠ [] → ¬cut before c after) :
    IsCutting cut w [w] where
  flatten_eq := by simp
  ne_nil := by simpa using hne
  cut_iff before c after hw hbefore := by
    have hlt : before.length < w.length := by simp [hw]
    exact iff_of_false (not_cutBehind_of_lt hbefore hlt) (h before c after hw hbefore)

/-- The first cut, with the cuts of what stands behind it. -/
theorem IsCutting.cons {c : Char} {s : List Char} (hne : w ≠ [])
    (hinside : ∀ before d after, w = before ++ d :: after → before ≠ [] →
      ¬cut before d (after ++ c :: s))
    (hcut : cut w c s) (h : IsCutting (fun before => cut (w ++ before)) (c :: s) ws) :
    IsCutting cut (w ++ c :: s) (w :: ws) where
  flatten_eq := by rw [List.flatten_cons, h.flatten_eq]
  ne_nil := by simpa [hne] using h.ne_nil
  cut_iff before d after hr hbefore := by
    obtain ⟨t, rfl, ht⟩ | ⟨t, hw, ht⟩ := List.append_eq_append_iff.1 hr
    · rw [cutBehind_cons_iff hne]
      by_cases htnil : t = []
      · -- the cut at the end of the first piece
        subst htnil
        obtain ⟨rfl, rfl⟩ := List.cons.inj ht
        exact iff_of_true ⟨[], ws, rfl, rfl⟩ (by simpa using hcut)
      · exact h.cut_iff t d after ht htnil
    · cases t with
      | nil =>
        rw [List.append_nil] at hw
        obtain ⟨rfl, rfl⟩ := List.cons.inj ht
        subst hw
        exact iff_of_true ⟨[w], ws, rfl, by simp⟩ hcut
      | cons e t =>
        obtain ⟨rfl, rfl⟩ := List.cons.inj ht
        have hlt : before.length < w.length := by simp [hw]
        exact iff_of_false (not_cutBehind_of_lt hbefore hlt) (hinside before d t hw hbefore)

/-- What stands behind the first piece is cut into the others. -/
theorem IsCutting.tail (h : IsCutting cut r (w :: ws)) :
    IsCutting (fun before => cut (w ++ before)) ws.flatten ws where
  flatten_eq := rfl
  ne_nil v hv := h.ne_nil v (List.mem_cons_of_mem w hv)
  cut_iff before c after hflat hbefore := by
    have hr : r = (w ++ before) ++ c :: after := by
      rw [← h.flatten_eq, List.flatten_cons, hflat, List.append_assoc]
    rw [← cutBehind_cons_iff (h.ne_nil w List.mem_cons_self)]
    exact h.cut_iff (w ++ before) c after hr (by simp [hbefore])

/-- The first piece is not longer than that of another cutting. -/
theorem IsCutting.length_le {v : List Char} {vs : List (List Char)} (h : IsCutting cut r (w :: ws))
    (h' : IsCutting cut r (v :: vs)) : v.length ≤ w.length := by
  by_contra hlt
  rw [Nat.not_le] at hlt
  have hsame : w ++ ws.flatten = v ++ vs.flatten := h.flatten_eq.trans h'.flatten_eq.symm
  obtain ⟨t, hv, hws⟩ | ⟨t, hw, -⟩ := List.append_eq_append_iff.1 hsame
  · cases t with
    | nil => simp [hv] at hlt
    | cons c t =>
      -- the text is cut behind the shorter piece, so the longer one is cut too
      have hne := h.ne_nil w List.mem_cons_self
      have hr : r = w ++ c :: (t ++ vs.flatten) := by
        rw [← h'.flatten_eq, List.flatten_cons, hv]
        simp
      have hcut := (h.cut_iff w c _ hr hne).1 ⟨[w], ws, rfl, by simp⟩
      exact not_cutBehind_of_lt hne hlt ((h'.cut_iff w c _ hr hne).2 hcut)
  · rw [hw, List.length_append] at hlt
    omega

/-- **Cutting by a rule has one result.** -/
theorem IsCutting.unique (h : IsCutting cut r ws) (h' : IsCutting cut r ws') : ws = ws' := by
  induction ws generalizing cut r ws' with
  | nil =>
    have hr : ws'.flatten = [] := h'.flatten_eq.trans h.flatten_eq.symm
    cases ws' with
    | nil => rfl
    | cons v vs => simp [h'.ne_nil v List.mem_cons_self] at hr
  | cons w ws ih =>
    have hsame : ws'.flatten = w ++ ws.flatten := h'.flatten_eq.trans h.flatten_eq.symm
    cases ws' with
    | nil => simp [h.ne_nil w List.mem_cons_self] at hsame
    | cons v vs =>
      have hlength : v.length = w.length := Nat.le_antisymm (h.length_le h') (h'.length_le h)
      obtain ⟨rfl, hrest⟩ := List.append_inj hsame hlength
      have htail := h'.tail
      rw [hrest] at htail
      rw [ih h.tail htail]

end Cutting

/-! ## The rule of a run -/

/-- The last character of a text that has a case. -/
def lastCased? (k : CharClasses) (s : List Char) : Option Char :=
  (s.filter fun c => k.isLower c || k.isUpper c).getLast?

/-- **The rule**: a run is cut before a capital when the last cased character before it is a small
letter, or is a capital too and a small letter follows at once. -/
def CutsBetween (k : CharClasses) (before : List Char) (c : Char) (after : List Char) : Prop :=
  k.isUpper c = true ∧ ∃ d ∈ lastCased? k before, k.isLower d = true ∨
    k.isUpper d = true ∧ ∃ e ∈ after.head?, k.isLower e = true

/-- No character is of **both cases**. -/
def CharClasses.CasesApart (k : CharClasses) : Prop :=
  ∀ c, ¬(k.isLower c = true ∧ k.isUpper c = true)

/-- The cases of Unicode are apart. -/
theorem casesApart_unicode : CharClasses.unicode.CasesApart := Text.not_isLowercase_and_isUppercase

/-- The mode after a text that no cut resets. -/
def modeOf (k : CharClasses) (s : List Char) : Mode := s.foldl (Mode.after k) .start

@[simp] theorem modeOf_concat (k : CharClasses) (s : List Char) (c : Char) :
    modeOf k (s ++ [c]) = (modeOf k s).after k c := by
  rw [modeOf, List.foldl_append]
  rfl

section Rule

variable {k : CharClasses} (hk : k.CasesApart)
include hk

/-- A capital sets the mode. -/
theorem after_of_isUpper {c : Char} (hc : k.isUpper c = true) (m : Mode) : m.after k c = .upper := by
  have hlower : ¬k.isLower c = true := fun hlower => hk c ⟨hlower, hc⟩
  rw [Mode.after, if_neg hlower, if_pos hc]

/-- **The mode is the case** of the last cased character. -/
theorem modeOf_eq_iff (s : List Char) :
    (modeOf k s = .lower ↔ ∃ d ∈ lastCased? k s, k.isLower d = true) ∧
      (modeOf k s = .upper ↔ ∃ d ∈ lastCased? k s, k.isUpper d = true) := by
  induction s using List.reverseRecOn with
  | nil => simp [modeOf, lastCased?]
  | append_singleton s c ih =>
    have hapart := hk c
    rw [modeOf_concat, Mode.after, lastCased?, List.filter_append]
    by_cases hlower : k.isLower c = true
    · have hupper : k.isUpper c = false := by simpa [hlower] using hapart
      simp [hlower, hupper]
    · by_cases hupper : k.isUpper c = true
      · simp [hlower, hupper]
      · -- a character without case leaves both as they are
        rw [if_neg hlower, if_neg hupper, List.filter_cons_of_neg (by simp [hlower, hupper])]
        simpa [lastCased?] using ih

/-- The rule, by the mode of the text before the capital. -/
theorem cutsBetween_iff (before : List Char) (c : Char) (after : List Char) :
    CutsBetween k before c after ↔ k.isUpper c = true ∧ (modeOf k before = .lower ∨
      modeOf k before = .upper ∧ ∃ e ∈ after.head?, k.isLower e = true) := by
  obtain ⟨hlower, hupper⟩ := modeOf_eq_iff hk before
  rw [CutsBetween, hlower, hupper]
  constructor
  · rintro ⟨hc, d, hd, hlow | ⟨hup, he⟩⟩
    · exact ⟨hc, .inl ⟨d, hd, hlow⟩⟩
    · exact ⟨hc, .inr ⟨⟨d, hd, hup⟩, he⟩⟩
  · rintro ⟨hc, ⟨d, hd, hlow⟩ | ⟨⟨d, hd, hup⟩, he⟩⟩
    · exact ⟨hc, d, hd, .inl hlow⟩
    · exact ⟨hc, d, hd, .inr ⟨hup, he⟩⟩

end Rule

/-! ## The reader of a run -/

/-- The state in which the reader stands before the last characters `c :: r` of a run: the closed words
make up `done`, and `open?` is the word being read, in reverse. -/
structure Reading (k : CharClasses) (m : Mode) (done open? : List Char) (c : Char)
    (r : List Char) : Prop where
  inside : ∀ before d after, open?.reverse = before ++ d :: after → before ≠ [] →
    ¬CutsBetween k (done ++ before) d (after ++ c :: r)
  mode : m = if open? = [] then .start else modeOf k (done ++ open?.reverse)
  pending : open? ≠ [] → k.isUpper c = true → m ≠ .lower
  fresh : open? = [] → done = [] ∨ k.isUpper c = true

section Reader

variable {k : CharClasses} {m : Mode} {done open? r : List Char} {c d : Char}

/-- A step that closes the word with `c`. -/
theorem Reading.cutBehind (done open? : List Char) (c : Char) (hd : k.isUpper d = true) :
    Reading k .start (done ++ (c :: open?).reverse) [] d r where
  inside := by simp
  mode := by simp
  pending := by simp
  fresh _ := .inr hd

variable (hk : k.CasesApart)
include hk

/-- Reading `c` gives the mode of the text up to it, also right after a cut. -/
theorem Reading.after_eq (h : Reading k m done open? c r) :
    m.after k c = modeOf k (done ++ (c :: open?).reverse) := by
  rw [List.reverse_cons, ← List.append_assoc, modeOf_concat]
  have hmode := h.mode
  split at hmode
  · next hopen =>
    subst hopen
    obtain rfl | hc := h.fresh rfl
    · rw [hmode]
      rfl
    · rw [after_of_isUpper hk hc, after_of_isUpper hk hc]
  · rw [hmode]

/-- A word is cut before `c` when `c` is the last of several capitals, and in no other case. -/
theorem Reading.cuts_iff (h : Reading k m done open? c r) (hopen : open? ≠ []) :
    CutsBetween k (done ++ open?.reverse) c r ↔
      m = .upper ∧ k.isUpper c = true ∧ ∃ e ∈ r.head?, k.isLower e = true := by
  have hmode : m = modeOf k (done ++ open?.reverse) := by rw [h.mode, if_neg hopen]
  rw [cutsBetween_iff hk, ← hmode]
  constructor
  · rintro ⟨hc, hlower | ⟨hupper, he⟩⟩
    · exact absurd hlower (h.pending hopen hc)
    · exact ⟨hupper, hc, he⟩
  · rintro ⟨hupper, hc, he⟩
    exact ⟨hc, .inr ⟨hupper, he⟩⟩

/-- The word being read takes `c` in without a cut. -/
theorem Reading.inside_cons (h : Reading k m done open? c r)
    (hcut : ¬(m = .upper ∧ k.isUpper c = true ∧ ∃ e ∈ r.head?, k.isLower e = true)) :
    ∀ before e after, (c :: open?).reverse = before ++ e :: after → before ≠ [] →
      ¬CutsBetween k (done ++ before) e (after ++ r) := by
  intro before e after hword hbefore
  rw [List.reverse_cons] at hword
  obtain rfl | ⟨after, a, rfl⟩ := List.eq_nil_or_concat after
  · -- the boundary before `c`
    obtain ⟨rfl, he⟩ := List.append_inj' hword rfl
    obtain rfl := List.singleton_inj.1 he
    rw [List.nil_append, h.cuts_iff hk (by simpa using hbefore)]
    exact hcut
  · rw [List.concat_eq_append, ← List.cons_append, ← List.append_assoc] at hword
    obtain ⟨hword, ha⟩ := List.append_inj' hword rfl
    obtain rfl := List.singleton_inj.1 ha
    simpa using h.inside before e after (List.append_cancel_right hword) hbefore

/-- A step that closes no word. -/
theorem Reading.goOn (h : Reading k m done open? c (d :: r))
    (hcase : ¬(m.after k c = .lower ∧ k.isUpper d = true))
    (hlast : ¬(m = .upper ∧ k.isUpper c = true ∧ k.isLower d = true)) :
    Reading k (m.after k c) done (c :: open?) d r where
  inside := h.inside_cons hk (by simpa using hlast)
  mode := by simpa using h.after_eq hk
  pending _ hd hlower := hcase ⟨hlower, hd⟩
  fresh := by simp

/-- A step that closes the word before the capital `c`. -/
theorem Reading.cutBefore (h : Reading k m done open? c (d :: r)) (hc : k.isUpper c = true) :
    Reading k (m.after k c) (done ++ open?.reverse) [c] d r where
  inside before e after hword hbefore := by
    rw [List.reverse_singleton, List.singleton_eq_append_iff] at hword
    simp [hbefore] at hword
  mode := by simpa using h.after_eq hk
  pending _ _ := by simp [after_of_isUpper hk hc]
  fresh := by simp

/-- **The reader cuts by the rule**, from every state in which it can stand. -/
theorem Reading.isCutting (h : Reading k m done open? c r) :
    IsCutting (fun before => CutsBetween k (done ++ before)) (open?.reverse ++ c :: r)
      (cutRun k m open? (c :: r)) := by
  induction r generalizing m done open? c with
  | nil =>
    have hword := h.inside_cons hk (by simp)
    rw [cutRun_singleton, ← List.reverse_cons]
    exact .single (by simp) (by simpa using hword)
  | cons d r ih =>
    simp only [cutRun]
    split
    · next hcase =>
      -- a small letter ends the word when a capital follows
      obtain ⟨hlower, hd⟩ := hcase
      have hc : k.isUpper c ≠ true := fun hc => by
        rw [after_of_isUpper hk hc] at hlower
        cases hlower
      have hcut : CutsBetween k (done ++ (c :: open?).reverse) d r := by
        rw [cutsBetween_iff hk, ← h.after_eq hk]
        exact ⟨hd, .inl hlower⟩
      have hinside := h.inside_cons hk fun hlast => hc hlast.2.1
      have happend : open?.reverse ++ c :: d :: r = (c :: open?).reverse ++ d :: r := by simp
      rw [happend]
      refine .cons (by simp) hinside hcut ?_
      simpa only [List.append_assoc, List.reverse_nil, List.nil_append] using
        ih (.cutBehind done open? c hd)
    · next hcase =>
      split
      · next hlast =>
        -- the last of several capitals belongs to the next word already
        have hopen : open? ≠ [] := by
          rintro rfl
          have hstart := h.mode
          rw [if_pos rfl, hlast.1] at hstart
          cases hstart
        have hcut : CutsBetween k (done ++ open?.reverse) c (d :: r) :=
          (h.cuts_iff hk hopen).2 ⟨hlast.1, hlast.2.1, d, rfl, hlast.2.2⟩
        rw [if_neg hopen, List.singleton_append]
        refine .cons (by simpa using hopen) h.inside hcut ?_
        simpa only [List.append_assoc, List.reverse_singleton, List.singleton_append] using
          ih (h.cutBefore hk hlast.2.1)
      · next hlast => simpa using ih (h.goOn hk hcase hlast)

/-- **A run is cut by the rule.** -/
theorem isCutting_cutRun (hne : r ≠ []) : IsCutting (CutsBetween k) r (cutRun k .start [] r) := by
  obtain ⟨c, r, rfl⟩ := List.exists_cons_of_ne_nil hne
  have hstart : Reading k .start [] [] c r := ⟨by simp, by simp, by simp, fun _ => .inl rfl⟩
  simpa using hstart.isCutting hk

end Reader

/-! ## Slices -/

/-- The **byte ranges** of the words of a run. The reader keeps the byte `start` at which the word being
read begins and the byte `pos` at which it stands itself. -/
def cutSpans (k : CharClasses) : Mode → Nat → Nat → List Char → List (Nat × Nat)
  | _, start, pos, [] => [(start, pos)]
  | _, start, pos, [c] => [(start, pos + c.utf8Size)]
  | m, start, pos, c :: d :: r =>
    let m' := m.after k c
    let next := pos + c.utf8Size
    if m' = .lower ∧ k.isUpper d then (start, next) :: cutSpans k .start next next (d :: r)
    else if m = .upper ∧ k.isUpper c ∧ k.isLower d then
      (if start < pos then [(start, pos)] else []) ++ cutSpans k m' pos next (d :: r)
    else cutSpans k m' start next (d :: r)

/-- A range of bytes is a **slice** of a run: it is not empty, lies in the run and is cut between
characters, and `w` are the characters in it. -/
structure IsSlice (run : List Char) (span : Nat × Nat) (w : List Char) : Prop where
  lt : span.1 < span.2
  le : span.2 ≤ Text.byteCount run
  start_valid : String.Pos.Raw.IsValid (String.ofList run) ⟨span.1⟩
  stop_valid : String.Pos.Raw.IsValid (String.ofList run) ⟨span.2⟩
  slice_eq : Text.slice run span.1 span.2 = w

/-- Characters are a slice between the byte counts of those before them and of those up to their end. -/
theorem IsSlice.between (before after : List Char) {w : List Char} (hne : w ≠ []) :
    IsSlice (before ++ (w ++ after)) (Text.byteCount before, Text.byteCount (before ++ w)) w where
  lt := by
    have hpos : 0 < Text.byteCount w := Text.byteCount_pos hne
    simpa using hpos
  le := by simp only [Text.byteCount_append]; omega
  start_valid := Text.isValid_byteCount before (w ++ after)
  stop_valid := List.append_assoc before w after ▸ Text.isValid_byteCount (before ++ w) after
  slice_eq := Text.slice_append before w after

/-- From every state, the ranges that the reader takes by positions are the words that it takes by
characters. -/
theorem slicesTo_cutSpans (k : CharClasses) (m : Mode) (before open? : List Char) (c : Char)
    (r : List Char) :
    List.Forall₂ (IsSlice (before ++ (open?.reverse ++ c :: r)))
      (cutSpans k m (Text.byteCount before) (Text.byteCount (before ++ open?.reverse)) (c :: r))
      (cutRun k m open? (c :: r)) := by
  induction r generalizing m before open? c with
  | nil =>
    have hlast := IsSlice.between before [] (w := (c :: open?).reverse) (by simp)
    simpa [cutSpans, Nat.add_assoc] using hlast
  | cons d r ih =>
    have hnext : Text.byteCount (before ++ open?.reverse) + c.utf8Size =
        Text.byteCount (before ++ (c :: open?).reverse) := by simp [Nat.add_assoc]
    have happend : open?.reverse ++ c :: d :: r = (c :: open?).reverse ++ d :: r := by simp
    simp only [cutSpans, cutRun, hnext]
    split
    · -- the word ends with `c`
      have hword := IsSlice.between before (d :: r) (w := (c :: open?).reverse) (by simp)
      have hrest := ih .start (before ++ (c :: open?).reverse) [] d
      rw [happend]
      exact .cons hword (by simpa using hrest)
    · split
      · -- the word, if it has begun, ends before `c`
        have hrest := ih (m.after k c) (before ++ open?.reverse) [c] d
        rw [List.append_assoc, List.append_assoc, List.reverse_singleton, List.singleton_append,
          ← List.reverse_cons] at hrest
        by_cases hopen : open? = []
        · subst hopen
          simpa using hrest
        · have hpos : 0 < Text.byteCount open?.reverse := Text.byteCount_pos (by simpa using hopen)
          have hword := IsSlice.between before (c :: d :: r) (w := open?.reverse) (by simpa using hopen)
          rw [if_neg hopen, if_pos (by rw [Text.byteCount_append]; omega)]
          exact .cons hword (by simpa using hrest)
      · have hrest := ih (m.after k c) before (c :: open?) d
        rwa [happend]

/-! ## The words of a name -/

/-- **The words of a name** are what the rule cuts its maximal runs into. -/
theorem splitWords_iff {k : CharClasses} (hk : k.CasesApart) (s : List Char) (ws : List (List Char)) :
    ws = splitWords k s ↔ ∃ rs wss, MaximalRuns k.isPart s rs ∧
      List.Forall₂ (IsCutting (CutsBetween k)) rs wss ∧ ws = wss.flatten := by
  have hcuts : List.Forall₂ (IsCutting (CutsBetween k)) (runs k s)
      ((runs k s).map (cutRun k .start [])) := by
    rw [List.forall₂_map_right_iff, List.forall₂_same]
    exact fun r hr => isCutting_cutRun hk (ne_nil_of_mem_runs hr)
  rw [splitWords, List.flatMap_def]
  constructor
  · rintro rfl
    exact ⟨runs k s, _, maximalRuns_runs k s, hcuts, rfl⟩
  · rintro ⟨rs, wss, hruns, hcuts', rfl⟩
    obtain rfl := (maximalRuns_iff s rs).1 hruns
    have hunique : Relator.RightUnique (IsCutting (CutsBetween k)) := fun _ _ _ h h' => h.unique h'
    rw [List.right_unique_forall₂' hunique hcuts' hcuts]

/-- **A name is cut exactly where it should be.** Its words are those into which the rule cuts its maximal
runs, and no other list is. They have characters and hold what the name has of part characters. By byte
positions, the words of a run are slices of it that lie in it and are cut between characters. -/
theorem splitWords_exact {k : CharClasses} (hk : k.CasesApart) (s : List Char) :
    (∀ ws, ws = splitWords k s ↔ ∃ rs wss, MaximalRuns k.isPart s rs ∧
        List.Forall₂ (IsCutting (CutsBetween k)) rs wss ∧ ws = wss.flatten) ∧
      (∀ w ∈ splitWords k s, w ≠ []) ∧
      (splitWords k s).flatten = s.filter k.isPart ∧
      ∀ r ∈ runs k s,
        List.Forall₂ (IsSlice r) (cutSpans k .start 0 0 r) (cutRun k .start [] r) := by
  refine ⟨splitWords_iff hk s, fun w => ne_nil_of_mem_splitWords, flatten_splitWords k s, ?_⟩
  intro r hr
  obtain ⟨c, r, rfl⟩ := List.exists_cons_of_ne_nil (ne_nil_of_mem_runs hr)
  exact slicesTo_cutSpans k .start [] [] c r

/-- Acronyms, digits that carry the case on, a final capital and letters of two bytes. -/
theorem splitWords_exact_acronyms : CharClasses.unicode.CasesApart ∧
    words "HTTPServer2ErrorV1_naïveÉtatX".toList =
      ["HTTP", "Server2", "Error", "V1", "naïve", "État", "X"].map String.toList ∧
    ∃ rs wss, MaximalRuns CharClasses.unicode.isPart "HTTPServer2ErrorV1_naïveÉtatX".toList rs ∧
      List.Forall₂ (IsCutting (CutsBetween .unicode)) rs wss ∧
      words "HTTPServer2ErrorV1_naïveÉtatX".toList = wss.flatten :=
  ⟨casesApart_unicode, by decide +kernel, ((splitWords_exact casesApart_unicode _).1 _).1 rfl⟩

end ErrorTaxonomy.Ident
