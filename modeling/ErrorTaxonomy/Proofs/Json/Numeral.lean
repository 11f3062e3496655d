import ErrorTaxonomy.Proofs.Decimal.Layout
import ErrorTaxonomy.Proofs.Json.Reread
import ErrorTaxonomy.Proofs.Json.Scale

/-! # Numerals — numbers that are read, written and read again

A numeral gives an integer of 64 bits or a finite double (`proper_of_numeral`). The text of such a number is
read again: that of an integer as the integer, that of a double as the double of the digits that fit, which
is never out of range (`exists_spells`). -/

namespace ErrorTaxonomy.Json

open Double (isFinite_neg)

/-! ## What numerals give -/

/-- A number is **proper** when it is an integer of 64 bits or a finite double. -/
def Number.Proper : Number → Prop
  | .int n => Number.fits n
  | .real x => x.isFinite = true

/-- All that a reading can give is proper. -/
def GivesProper (r : Except Failure (Number × List Char)) : Prop :=
  ∀ n rest, r = .ok (n, rest) → n.Proper

section Proper

variable {negative : Bool} {s : Nat}

theorem givesProper_error (f : Failure) : GivesProper (.error f) := nofun

theorem givesProper_ok {n : Number} (h : n.Proper) (rest : List Char) : GivesProper (.ok (n, rest)) := by
  rintro _ _ ⟨⟩
  exact h

theorem proper_real {x : Float} (hx : x.isFinite = true) :
    (Number.real (if negative then -x else x)).Proper := by
  cases negative with
  | false => exact hx
  | true => exact isFinite_neg hx

theorem givesProper_realOf (hs : s ≤ largest64) (k : Int) (rest : List Char) :
    GivesProper (realOf negative s k rest) := by
  rw [realOf]
  split
  · next x hx => exact givesProper_ok (proper_real (isFinite_of_scaleTen? hs hx)) rest
  · exact givesProper_error _

theorem proper_integerOf (hs : s ≤ largest64) : (integerOf negative s).Proper := by
  simp only [largest64] at hs
  rw [integerOf]
  split_ifs with hnegative hreal
  · exact isFinite_neg (atMost_significand_coarse hs).isFinite
  · rw [Number.Proper, Number.fits]
    omega
  · rw [Number.Proper, Number.fits]
    omega

theorem givesProper_exponentDigits (hs : s ≤ largest64) (start : Int) (up : Bool) (n : Nat)
    (t : List Char) : GivesProper (exponentDigits negative s start up n t) := by
  induction t generalizing n with
  | nil => exact givesProper_realOf hs _ _
  | cons c t ih =>
    rw [exponentDigits]
    simp only
    split
    · split
      · exact ih _
      · split
        · exact givesProper_error _
        · -- a tiny number is a zero
          refine givesProper_ok ?_ _
          cases negative with
          | false => exact (by decide +kernel : (0.0 : Float).isFinite = true)
          | true => exact (by decide +kernel : (-0.0 : Float).isFinite = true)
    · exact givesProper_realOf hs _ _

theorem givesProper_exponentPart (hs : s ≤ largest64) (start : Int) (t : List Char) :
    GivesProper (exponentPart negative s start t) := by
  rw [exponentPart.eq_def]
  simp only
  split
  · exact givesProper_error _
  · split_ifs
    · exact givesProper_exponentDigits hs _ _ _ _
    · exact givesProper_error _

theorem givesProper_exponentOrEnd (hs : s ≤ largest64) (k : Int) (t : List Char) :
    GivesProper (exponentOrEnd negative s k t) := by
  rw [exponentOrEnd.eq_def]
  split
  · exact givesProper_exponentPart hs _ _
  · exact givesProper_exponentPart hs _ _
  · exact givesProper_realOf hs _ _

theorem givesProper_fractionDigits (hs : s ≤ largest64) (start : Int) (seen : Nat) (t : List Char) :
    GivesProper (fractionDigits negative s start seen t) := by
  induction t generalizing s seen with
  | nil =>
    rw [fractionDigits]
    split_ifs
    · exact givesProper_error _
    · exact givesProper_realOf hs _ _
  | cons c t ih =>
    rw [fractionDigits]
    simp only
    split_ifs with hdigit hfits hseen
    · exact ih hfits _
    · exact givesProper_exponentOrEnd hs _ _
    · exact givesProper_error _
    · exact givesProper_exponentOrEnd hs _ _

theorem givesProper_longInteger (hs : s ≤ largest64) (k : Nat) (t : List Char) :
    GivesProper (longInteger negative s k t) := by
  induction t generalizing k with
  | nil => exact givesProper_realOf hs _ _
  | cons c t ih =>
    rw [longInteger.eq_def]
    split
    · exact givesProper_fractionDigits hs _ _ _
    · next heq =>
      cases heq
      split_ifs
      · exact ih _
      · exact givesProper_exponentOrEnd hs _ _
    · exact givesProper_realOf hs _ _

theorem givesProper_integerEnd (hs : s ≤ largest64) (t : List Char) :
    GivesProper (integerEnd negative s t) := by
  rw [integerEnd.eq_def]
  split
  · exact givesProper_fractionDigits hs _ _ _
  · exact givesProper_exponentPart hs _ _
  · exact givesProper_exponentPart hs _ _
  · exact givesProper_ok (proper_integerOf hs) _

theorem givesProper_integerDigits (hs : s ≤ largest64) (t : List Char) :
    GivesProper (integerDigits negative s t) := by
  induction t generalizing s with
  | nil => exact givesProper_ok (proper_integerOf hs) _
  | cons c t ih =>
    rw [integerDigits]
    simp only
    split_ifs with hdigit hfits
    · exact ih hfits
    · exact givesProper_longInteger hs _ _
    · exact givesProper_integerEnd hs _

theorem digit_le {c : Char} (h : c.isDigit = true) : c.toNat - '0'.toNat ≤ 9 := by
  have hnine : c.toNat ≤ '9'.toNat := by
    simp only [Char.isDigit, Bool.and_eq_true, decide_eq_true_eq] at h
    exact h.2
  have hnine' : '9'.toNat = 57 := rfl
  have hzero : '0'.toNat = 48 := rfl
  omega

/-- **Numerals give proper numbers.** -/
theorem proper_of_numeral {t rest : List Char} {n : Number} (h : numeral negative t = .ok (n, rest)) :
    n.Proper := by
  have hgives : GivesProper (numeral negative t) := by
    rw [numeral.eq_def]
    split
    · exact givesProper_error _
    · split_ifs
      · exact givesProper_error _
      · exact givesProper_integerEnd (Nat.zero_le _) _
    · next c r _ =>
      split_ifs with hdigit
      · exact givesProper_integerDigits ((digit_le hdigit).trans (by decide)) _
      · exact givesProper_error _
  exact hgives n rest h

end Proper

/-! ## Digits -/

/-- A text does not start with a digit. -/
def NoDigit : List Char → Prop
  | [] => True
  | c :: _ => c.isDigit = false

theorem NoDigit.not_isDigit {c : Char} {s : List Char} (h : NoDigit (c :: s)) : ¬ c.isDigit = true := by
  intro hc
  rw [NoDigit, hc] at h
  cases h

theorem EndsNumeral.noDigit {s : List Char} (h : EndsNumeral s) : NoDigit s := by
  cases s with
  | nil => trivial
  | cons c s => exact h.1

section Digits

variable {negative : Bool} {n : Nat} {ds rest : List Char}

/-- Reading digits makes a number no smaller. -/
theorem le_ofDigitChars (n : Nat) (ds : List Char) : n ≤ Nat.ofDigitChars 10 ds n := by
  rw [Nat.ofDigitChars_eq_ofDigitChars_zero]
  exact (Nat.le_mul_of_pos_left n (Nat.pow_pos (by norm_num))).trans (Nat.le_add_right _ _)

theorem skipDigits_append (hds : ∀ c ∈ ds, c.isDigit = true) (hrest : NoDigit rest) :
    skipDigits (ds ++ rest) = rest := by
  rw [skipDigits, List.dropWhile_append_of_pos hds]
  cases rest with
  | nil => rfl
  | cons c rest => exact List.dropWhile_cons_of_neg hrest.not_isDigit

/-- Digits of an integer that fit are read one after the other. -/
theorem integerDigits_append (hds : ∀ c ∈ ds, c.isDigit = true)
    (hfits : Nat.ofDigitChars 10 ds n ≤ largest64) :
    integerDigits negative n (ds ++ rest) =
      integerDigits negative (Nat.ofDigitChars 10 ds n) rest := by
  induction ds generalizing n with
  | nil => rfl
  | cons c ds ih =>
    rw [Nat.ofDigitChars_cons] at hfits ⊢
    have hnext : n * 10 + (c.toNat - '0'.toNat) = 10 * n + (c.toNat - '0'.toNat) := by omega
    rw [List.cons_append, integerDigits, if_pos (hds c List.mem_cons_self)]
    simp only [hnext]
    rw [if_pos ((le_ofDigitChars _ ds).trans hfits)]
    exact ih (fun d hd => hds d (List.mem_cons_of_mem c hd)) hfits

/-- Digits of an exponent that fit are read one after the other. -/
theorem exponentDigits_append {s : Nat} {start : Int} {up : Bool} (hds : ∀ c ∈ ds, c.isDigit = true)
    (hfits : Nat.ofDigitChars 10 ds n ≤ largestExponent) (hrest : NoDigit rest) :
    exponentDigits negative s start up n (ds ++ rest) =
      realOf negative s (if up then start + Nat.ofDigitChars 10 ds n
        else start - Nat.ofDigitChars 10 ds n) rest := by
  induction ds generalizing n with
  | nil =>
    cases rest with
    | nil => rfl
    | cons c rest =>
      rw [List.nil_append, exponentDigits, if_neg hrest.not_isDigit]
      rfl
  | cons c ds ih =>
    rw [Nat.ofDigitChars_cons] at hfits ⊢
    have hnext : n * 10 + (c.toNat - '0'.toNat) = 10 * n + (c.toNat - '0'.toNat) := by omega
    rw [List.cons_append, exponentDigits, if_pos (hds c List.mem_cons_self)]
    simp only [hnext]
    rw [if_pos ((le_ofDigitChars _ ds).trans hfits)]
    exact ih (fun d hd => hds d (List.mem_cons_of_mem c hd)) hfits

/-- A digit of a fraction is read if it fits; otherwise it is passed over with all digits after it. -/
theorem fractionDigits_cons {s : Nat} {start : Int} {seen : Nat} {c : Char} (hc : c.isDigit = true) :
    fractionDigits negative s start seen (c :: rest) =
      if 10 * s + (c.toNat - '0'.toNat) ≤ largest64 then
        fractionDigits negative (10 * s + (c.toNat - '0'.toNat)) start (seen + 1) rest
      else exponentOrEnd negative s (start - seen) (skipDigits rest) := by
  have hnext : s * 10 + (c.toNat - '0'.toNat) = 10 * s + (c.toNat - '0'.toNat) := by omega
  rw [fractionDigits, if_pos hc]
  simp only [hnext]

/-- What is read of the digits of a fraction: `used` of them, which are those that fit. -/
theorem exists_fractionDigits_append (negative : Bool) {s : Nat} (start : Int) (seen : Nat)
    (hs : s ≤ largest64) (hds : ∀ c ∈ ds, c.isDigit = true) (hsome : ds ≠ [] ∨ 0 < seen) :
    ∃ s' used, s' ≤ largest64 ∧ used ≤ ds.length ∧
      s' * 10 ^ (ds.length - used) ≤ Nat.ofDigitChars 10 ds s ∧
      (Nat.ofDigitChars 10 ds s ≤ largest64 → s' = Nat.ofDigitChars 10 ds s ∧ used = ds.length) ∧
      ∀ rest, NoDigit rest → fractionDigits negative s start seen (ds ++ rest) =
        exponentOrEnd negative s' (start - (seen + used : Nat)) rest := by
  induction ds generalizing s seen with
  | nil =>
    have hseen : 0 < seen := hsome.resolve_left (fun h => h rfl)
    refine ⟨s, 0, hs, le_refl 0, ?_, fun _ => ⟨rfl, rfl⟩, fun rest hrest => ?_⟩
    · simp
    · cases rest with
      | nil =>
        rw [List.nil_append, fractionDigits, if_neg hseen.ne']
        rfl
      | cons c rest =>
        rw [List.nil_append, fractionDigits, if_neg hrest.not_isDigit, if_neg hseen.ne']
        rfl
  | cons c ds ih =>
    have htail : ∀ d ∈ ds, d.isDigit = true := fun d hd => hds d (List.mem_cons_of_mem c hd)
    simp only [List.cons_append, fractionDigits_cons (hds c List.mem_cons_self),
      Nat.ofDigitChars_cons, List.length_cons]
    by_cases hfits : 10 * s + (c.toNat - '0'.toNat) ≤ largest64
    · obtain ⟨s', used, hs', hused, hvalue, hexact, hrest⟩ := ih (seen + 1) hfits htail
        (.inr (Nat.succ_pos seen))
      refine ⟨s', used + 1, hs', by omega, ?_, ?_, ?_⟩
      · rwa [Nat.add_sub_add_right]
      · intro h
        obtain ⟨rfl, rfl⟩ := hexact h
        exact ⟨rfl, rfl⟩
      · intro rest hnoDigit
        rw [if_pos hfits, hrest rest hnoDigit]
        congr 2
        omega
    · refine ⟨s, 0, hs, Nat.zero_le _, ?_, ?_, ?_⟩
      · rw [Nat.sub_zero, Nat.ofDigitChars_eq_ofDigitChars_zero, Nat.pow_succ]
        calc s * (10 ^ ds.length * 10) = 10 ^ ds.length * (10 * s) := by ring
          _ ≤ 10 ^ ds.length * (10 * s + (c.toNat - '0'.toNat)) :=
            Nat.mul_le_mul_left _ (Nat.le_add_right _ _)
          _ ≤ _ := Nat.le_add_right _ _
      · intro h
        exact absurd ((le_ofDigitChars _ ds).trans h) hfits
      · intro rest hnoDigit
        rw [if_neg hfits, skipDigits_append htail hnoDigit]
        rfl

/-- Digits stand for a number below the next power of ten. -/
theorem ofDigitChars_lt (hds : ∀ c ∈ ds, c.isDigit = true) (n : Nat) :
    Nat.ofDigitChars 10 ds n < (n + 1) * 10 ^ ds.length := by
  induction ds generalizing n with
  | nil => simp
  | cons c ds ih =>
    have hdigit := digit_le (hds c List.mem_cons_self)
    rw [Nat.ofDigitChars_cons, List.length_cons, Nat.pow_succ]
    calc Nat.ofDigitChars 10 ds (10 * n + (c.toNat - '0'.toNat))
        < (10 * n + (c.toNat - '0'.toNat) + 1) * 10 ^ ds.length :=
          ih (fun d hd => hds d (List.mem_cons_of_mem c hd)) _
      _ ≤ (n + 1) * 10 * 10 ^ ds.length := Nat.mul_le_mul_right _ (by omega)
      _ = (n + 1) * (10 ^ ds.length * 10) := by ring

/-- Sixteen digits fit. -/
theorem ofDigitChars_le_largest64 (hds : ∀ c ∈ ds, c.isDigit = true) (hlength : ds.length ≤ 16) :
    Nat.ofDigitChars 10 ds 0 ≤ largest64 := by
  have hlt := ofDigitChars_lt hds 0
  have hpow : 10 ^ ds.length ≤ 10 ^ 16 := Nat.pow_le_pow_right (by norm_num) hlength
  simp only [largest64]
  omega

/-- The digits of a positive number do not start with a zero. -/
theorem exists_toDigits_eq_cons (hn : 0 < n) :
    ∃ c ds, Nat.toDigits 10 n = c :: ds ∧ c ≠ '0' := by
  induction n using Nat.strongRecOn with
  | ind n ih =>
    rw [Nat.toDigits_eq_if (by norm_num)]
    split_ifs with hsmall
    · exact ⟨_, [], rfl, fun h => hn.ne' (Nat.digitChar_eq_zero.1 h)⟩
    · obtain ⟨c, ds, hds, hc⟩ := ih (n / 10) (by omega) (by omega)
      exact ⟨c, ds ++ [(n % 10).digitChar], by rw [hds, List.cons_append], hc⟩

theorem isDigit_of_mem_toDigits {c : Char} (h : c ∈ Nat.toDigits 10 n) : c.isDigit = true :=
  Nat.isDigit_of_mem_toDigits (by norm_num) (le_refl 10) h

/-- **The digits of a positive number**: they stand for the number, and the first is not a zero. -/
theorem exists_digits (hn : n ≠ 0) : ∃ c ds, Nat.toDigits 10 n = c :: ds ∧ c ≠ '0' ∧
    (∀ d ∈ c :: ds, d.isDigit = true) ∧ Nat.ofDigitChars 10 (c :: ds) 0 = n := by
  obtain ⟨c, ds, hds, hc⟩ := exists_toDigits_eq_cons (Nat.pos_of_ne_zero hn)
  refine ⟨c, ds, hds, hc, fun d hd => isDigit_of_mem_toDigits (hds ▸ hd), ?_⟩
  rw [← hds, Nat.ofDigitChars_ten_toDigits]

end Digits

/-! ## Integers -/

section Integers

variable {negative : Bool} {n : Nat} {rest : List Char}

/-- A numeral that starts with digits, of which the first is not a zero. -/
theorem numeral_append (negative : Bool) (rest : List Char) {c : Char} {ds : List Char} (hc : c ≠ '0')
    (hds : ∀ d ∈ c :: ds, d.isDigit = true) (hfits : Nat.ofDigitChars 10 (c :: ds) 0 ≤ largest64) :
    numeral negative (c :: ds ++ rest) =
      integerDigits negative (Nat.ofDigitChars 10 (c :: ds) 0) rest := by
  rw [Nat.ofDigitChars_cons] at hfits ⊢
  rw [List.cons_append, numeral]
  · rw [if_pos (hds c List.mem_cons_self)]
    simp only [Nat.mul_zero, Nat.zero_add] at hfits ⊢
    exact integerDigits_append (fun d hd => hds d (List.mem_cons_of_mem c hd)) hfits
  · exact fun _ _ h => absurd h hc

theorem integerEnd_of_endsNumeral (hrest : EndsNumeral rest) :
    integerEnd negative n rest = .ok (integerOf negative n, rest) := by
  cases rest with
  | nil => rfl
  | cons c rest =>
    obtain ⟨-, hpoint, hlower, hupper⟩ := hrest
    rw [integerEnd.eq_def]
    split
    · next h => exact absurd (List.cons.inj h).1 hpoint
    · next h => exact absurd (List.cons.inj h).1 hlower
    · next h => exact absurd (List.cons.inj h).1 hupper
    · rfl

theorem integerDigits_of_noDigit (hrest : NoDigit rest) :
    integerDigits negative n rest = integerEnd negative n rest := by
  cases rest with
  | nil => rfl
  | cons c rest => rw [integerDigits, if_neg hrest.not_isDigit]

/-- A zero is a numeral of its own. -/
theorem numeral_zero (hrest : EndsNumeral rest) :
    numeral negative ('0' :: rest) = .ok (integerOf negative 0, rest) := by
  cases rest with
  | nil => rfl
  | cons c rest =>
    have hc : ¬ c.isDigit = true := hrest.noDigit.not_isDigit
    rw [numeral, if_neg hc, integerEnd_of_endsNumeral hrest]

/-- The digits of a natural number are read as the number. -/
theorem numeral_toDigits (hn : n ≤ largest64) (hrest : EndsNumeral rest) :
    numeral negative (Nat.toDigits 10 n ++ rest) = .ok (integerOf negative n, rest) := by
  rcases Nat.eq_zero_or_pos n with rfl | hpos
  · exact numeral_zero hrest
  · obtain ⟨c, ds, hds, hc, hall, hvalue⟩ := exists_digits hpos.ne'
    rw [hds, numeral_append negative rest hc hall (by rwa [hvalue]), hvalue,
      integerDigits_of_noDigit hrest.noDigit, integerEnd_of_endsNumeral hrest]

/-- **Integers** are read back as they are. -/
theorem spells_int {n : Int} (h : Number.fits n) : Spells (toString n).toList (.int n) := by
  obtain ⟨hlow, hhigh⟩ := h
  rw [Decimal.toList_toString_int]
  split_ifs with hnonneg
  · have hfits : n.toNat ≤ largest64 := by
      simp only [largest64]
      omega
    have hvalue : integerOf false n.toNat = .int n := by
      simp only [integerOf, Bool.false_eq_true, if_false, Int.toNat_of_nonneg hnonneg]
    obtain ⟨c, ds, hds⟩ := List.exists_cons_of_ne_nil (Nat.toDigits_ne_nil (n := n.toNat) (b := 10))
    rw [hds]
    refine .positive (isDigit_of_mem_toDigits (hds ▸ List.mem_cons_self)) fun rest hrest => ?_
    rw [← hds, numeral_toDigits hfits hrest, hvalue]
  · refine .negative fun rest hrest => ?_
    have hfits : (-n).toNat ≤ largest64 := by
      simp only [largest64]
      omega
    have hinteger : ¬ ((-n).toNat = 0 ∨ 0x8000000000000000 < (-n).toNat) := by omega
    have hvalue : integerOf true (-n).toNat = .int n := by
      rw [integerOf, if_pos rfl, if_neg hinteger]
      congr 1
      omega
    rw [numeral_toDigits hfits hrest, hvalue]

end Integers

/-! ## Doubles -/

section Doubles

variable {negative : Bool} {s : Nat} {k : Int} {rest : List Char}

/-- A text is read as the double of a significand and a power of ten wherever its numeral ends. -/
def ReadsReal (negative : Bool) (cs : List Char) (s : Nat) (k : Int) : Prop :=
  ∀ rest, EndsNumeral rest → numeral negative (cs ++ rest) = realOf negative s k rest

theorem exponentOrEnd_of_endsNumeral (hrest : EndsNumeral rest) :
    exponentOrEnd negative s k rest = realOf negative s k rest := by
  cases rest with
  | nil => rfl
  | cons c rest =>
    obtain ⟨-, -, hlower, hupper⟩ := hrest
    rw [exponentOrEnd.eq_def]
    split
    · next h => exact absurd (List.cons.inj h).1 hlower
    · next h => exact absurd (List.cons.inj h).1 hupper
    · rfl

/-- The digits of an exponent are read as the number that they were written from. -/
theorem exists_exponentDigits_toDigits {start : Int} {n : Nat} (up : Bool) (hn : n ≤ largestExponent)
    (hrest : NoDigit rest) : ∃ c ds, Nat.toDigits 10 n = c :: ds ∧ c.isDigit = true ∧
      exponentDigits negative s start up (c.toNat - '0'.toNat) (ds ++ rest) =
        realOf negative s (if up then start + n else start - n) rest := by
  have hvalue : Nat.ofDigitChars 10 (Nat.toDigits 10 n) 0 = n := Nat.ofDigitChars_ten_toDigits
  have hall : ∀ d ∈ Nat.toDigits 10 n, d.isDigit = true := fun d hd => isDigit_of_mem_toDigits hd
  obtain ⟨c, ds, hds⟩ := List.exists_cons_of_ne_nil (Nat.toDigits_ne_nil (n := n) (b := 10))
  rw [hds] at hvalue hall
  rw [Nat.ofDigitChars_cons, Nat.mul_zero, Nat.zero_add] at hvalue
  refine ⟨c, ds, hds, hall c List.mem_cons_self, ?_⟩
  rw [exponentDigits_append (fun d hd => hall d (List.mem_cons_of_mem c hd)) (by rwa [hvalue]) hrest,
    hvalue]

/-- An exponent with its sign is read as the number that it was written from. -/
theorem exponentPart_append {start top : Int} (hlow : -(largestExponent : Int) ≤ top)
    (hhigh : top ≤ largestExponent) (hrest : NoDigit rest) :
    exponentPart negative s start (Decimal.exponentChars true top ++ rest) =
      realOf negative s (start + top) rest := by
  have hplus : ∀ c r, c.isDigit = true → exponentPart negative s start ('+' :: c :: r) =
      exponentDigits negative s start true (c.toNat - '0'.toNat) r := fun c r hc => if_pos hc
  have hminus : ∀ c r, c.isDigit = true → exponentPart negative s start ('-' :: c :: r) =
      exponentDigits negative s start false (c.toNat - '0'.toNat) r := fun c r hc => if_pos hc
  rw [Decimal.exponentChars]
  by_cases hnonneg : 0 ≤ top
  · obtain ⟨c, ds, hds, hc, hread⟩ := exists_exponentDigits_toDigits true
      (show top.toNat ≤ largestExponent by omega) hrest
    rw [if_pos hnonneg, if_pos rfl, hds, List.cons_append, List.cons_append, hplus c _ hc, hread,
      if_pos rfl, Int.toNat_of_nonneg hnonneg]
  · obtain ⟨c, ds, hds, hc, hread⟩ := exists_exponentDigits_toDigits false
      (show (-top).toNat ≤ largestExponent by omega) hrest
    rw [if_neg hnonneg, hds, List.cons_append, List.cons_append, hminus c _ hc, hread,
      if_neg Bool.false_ne_true, Int.toNat_of_nonneg (by omega), sub_neg_eq_add]

/-! ### Layouts -/

variable {c : Char} {whole fraction : List Char}

/-- Whole digits, a point and more digits. -/
theorem exists_readsReal_point (negative : Bool) (hc : c ≠ '0')
    (hwhole : ∀ d ∈ c :: whole, d.isDigit = true) (hlength : (c :: whole).length ≤ 16)
    (hfraction : ∀ d ∈ fraction, d.isDigit = true) (hsome : fraction ≠ []) :
    ∃ s k, s ≤ largest64 ∧ k ≤ 0 ∧ ReadsReal negative (c :: whole ++ '.' :: fraction) s k := by
  have hfits := ofDigitChars_le_largest64 hwhole hlength
  obtain ⟨s, used, hs, -, -, -, hread⟩ :=
    exists_fractionDigits_append negative 0 0 hfits hfraction (.inl hsome)
  refine ⟨s, 0 - (0 + used : Nat), hs, by omega, fun rest hrest => ?_⟩
  have hpoint : NoDigit ('.' :: (fraction ++ rest)) := rfl
  rw [List.append_assoc, numeral_append negative _ hc hwhole hfits, List.cons_append,
    integerDigits_of_noDigit hpoint, integerEnd, hread rest hrest.noDigit,
    exponentOrEnd_of_endsNumeral hrest]

/-- A zero, a point and digits. -/
theorem exists_readsReal_zeroPoint (negative : Bool) (hfraction : ∀ d ∈ fraction, d.isDigit = true)
    (hsome : fraction ≠ []) :
    ∃ s k, s ≤ largest64 ∧ k ≤ 0 ∧ ReadsReal negative ('0' :: '.' :: fraction) s k := by
  obtain ⟨s, used, hs, -, -, -, hread⟩ :=
    exists_fractionDigits_append negative 0 0 (Nat.zero_le largest64) hfraction (.inl hsome)
  refine ⟨s, 0 - (0 + used : Nat), hs, by omega, fun rest hrest => ?_⟩
  have hpoint : ¬ ('.').isDigit = true := by decide
  rw [List.cons_append, List.cons_append, numeral, if_neg hpoint, integerEnd,
    hread rest hrest.noDigit, exponentOrEnd_of_endsNumeral hrest]

/-- One digit and an exponent. -/
theorem readsReal_exponent (negative : Bool) {top : Int} (hc : c ≠ '0') (hdigit : c.isDigit = true)
    (hlow : -(largestExponent : Int) ≤ top) (hhigh : top ≤ largestExponent) :
    ReadsReal negative (c :: 'e' :: Decimal.exponentChars true top) (Nat.ofDigitChars 10 [c] 0)
      top := by
  intro rest hrest
  have hall : ∀ d ∈ [c], d.isDigit = true := fun d hd => List.mem_singleton.1 hd ▸ hdigit
  have hfits : Nat.ofDigitChars 10 [c] 0 ≤ largest64 := ofDigitChars_le_largest64 hall (by simp)
  have hletter : NoDigit ('e' :: (Decimal.exponentChars true top ++ rest)) := rfl
  have hread := numeral_append negative ('e' :: (Decimal.exponentChars true top ++ rest)) hc hall hfits
  rw [List.singleton_append] at hread
  rw [List.cons_append, List.cons_append, hread, integerDigits_of_noDigit hletter, integerEnd,
    exponentPart_append hlow hhigh hrest.noDigit, zero_add]

/-- One digit, a point, more digits and an exponent. -/
theorem exists_readsReal_pointExponent (negative : Bool) {top : Int} (hc : c ≠ '0')
    (hall : ∀ d ∈ c :: fraction, d.isDigit = true) (hsome : fraction ≠ [])
    (hlow : -(largestExponent : Int) ≤ top) (hhigh : top ≤ largestExponent) :
    ∃ s used, s ≤ largest64 ∧ used ≤ fraction.length ∧
      s * 10 ^ (fraction.length - used) ≤ Nat.ofDigitChars 10 (c :: fraction) 0 ∧
      (Nat.ofDigitChars 10 (c :: fraction) 0 ≤ largest64 →
        s = Nat.ofDigitChars 10 (c :: fraction) 0 ∧ used = fraction.length) ∧
      ReadsReal negative (c :: '.' :: fraction ++ 'e' :: Decimal.exponentChars true top) s
        (top - used) := by
  have hfirst : ∀ d ∈ [c], d.isDigit = true :=
    fun d hd => hall d (List.mem_singleton.1 hd ▸ List.mem_cons_self)
  have hfits : Nat.ofDigitChars 10 [c] 0 ≤ largest64 := ofDigitChars_le_largest64 hfirst (by simp)
  obtain ⟨s, used, hs, hused, hvalue, hexact, hread⟩ :=
    exists_fractionDigits_append negative 0 0 hfits
      (fun d hd => hall d (List.mem_cons_of_mem c hd)) (.inl hsome)
  have hdigits : Nat.ofDigitChars 10 fraction (Nat.ofDigitChars 10 [c] 0) =
      Nat.ofDigitChars 10 (c :: fraction) 0 := rfl
  rw [hdigits] at hvalue hexact
  refine ⟨s, used, hs, hused, hvalue, hexact, fun rest hrest => ?_⟩
  have hpoint : NoDigit ('.' :: (fraction ++ 'e' :: (Decimal.exponentChars true top ++ rest))) := rfl
  have hletter : NoDigit ('e' :: (Decimal.exponentChars true top ++ rest)) := rfl
  have hnumeral := numeral_append negative
    ('.' :: (fraction ++ 'e' :: (Decimal.exponentChars true top ++ rest))) hc hfirst hfits
  rw [List.singleton_append] at hnumeral
  have htext : c :: '.' :: fraction ++ 'e' :: Decimal.exponentChars true top ++ rest =
      c :: '.' :: (fraction ++ 'e' :: (Decimal.exponentChars true top ++ rest)) := by simp
  rw [htext, hnumeral, integerDigits_of_noDigit hpoint, integerEnd, hread _ hletter, exponentOrEnd,
    exponentPart_append hlow hhigh hrest.noDigit]
  congr 1
  omega

/-- What is read of a decimal has no more value than the decimal, and the same digits if they fit; or else it
has no power of ten at all. -/
def Approaches (d : Decimal) (s : Nat) (k : Int) : Prop :=
  k ≤ 0 ∨ (s : ℚ) * 10 ^ k ≤ d.digits * 10 ^ d.exponent ∧
    (d.digits ≤ largest64 → s = d.digits ∧ k = d.exponent)

/-- Without an exponent a decimal is written with a point, so what is read has no power of ten. -/
theorem exists_readsReal_positional (negative : Bool) {d : Decimal} (hdigits : d.digits ≠ 0)
    (hpositional : documentStyle.least ≤ d.top ∧ d.top < documentStyle.bound) :
    ∃ s k, s ≤ largest64 ∧ k ≤ 0 ∧ ReadsReal negative (d.sizeChars documentStyle) s k := by
  obtain ⟨c, ds, hds, hc, hall, -⟩ := exists_digits hdigits
  have htop : d.top = ds.length + d.exponent := by
    rw [Decimal.top, hds, List.length_cons]
    omega
  have hbound : d.top < 16 := hpositional.2
  have hzeros : ∀ n x, x ∈ List.replicate n '0' → x.isDigit = true := by
    intro n x hx
    rw [List.eq_of_mem_replicate hx]
    rfl
  rw [Decimal.sizeChars]
  simp only [hds]
  rw [if_pos hpositional]
  split_ifs with hwhole hmiddle
  · -- zeros after the digits
    have hlength : (c :: (ds ++ List.replicate d.exponent.toNat '0')).length ≤ 16 := by
      simp only [List.length_cons, List.length_append, List.length_replicate]
      omega
    have hdigit : ∀ x ∈ c :: (ds ++ List.replicate d.exponent.toNat '0'), x.isDigit = true := by
      intro x hx
      rw [← List.cons_append, List.mem_append] at hx
      exact hx.elim (hall x) (hzeros _ x)
    have hzero : ∀ x ∈ ['0'], x.isDigit = true := fun x hx => List.mem_singleton.1 hx ▸ rfl
    exact exists_readsReal_point negative hc hdigit hlength hzero (List.cons_ne_nil _ _)
  · -- a point among the digits
    have htaken : (c :: ds).take (d.top.toNat + 1) = c :: ds.take d.top.toNat := List.take_succ_cons
    have hdropped : (c :: ds).drop (d.top.toNat + 1) = ds.drop d.top.toNat := List.drop_succ_cons
    rw [htaken, hdropped]
    have hlength : (c :: ds.take d.top.toNat).length ≤ 16 := by
      have htake := List.length_take_le d.top.toNat ds
      simp only [List.length_cons]
      omega
    have hsome : ds.drop d.top.toNat ≠ [] := by
      rw [Ne, List.drop_eq_nil_iff]
      omega
    have hbefore : ∀ x ∈ c :: ds.take d.top.toNat, x.isDigit = true := fun x hx =>
      hall x (List.mem_of_mem_take (htaken ▸ hx))
    have hafter : ∀ x ∈ ds.drop d.top.toNat, x.isDigit = true := fun x hx =>
      hall x (List.mem_cons_of_mem c (List.mem_of_mem_drop hx))
    exact exists_readsReal_point negative hc hbefore hlength hafter hsome
  · -- zeros before the digits
    have hdigit : ∀ x ∈ List.replicate (-1 - d.top).toNat '0' ++ c :: ds, x.isDigit = true :=
      fun x hx => (List.mem_append.1 hx).elim (hzeros _ x) (hall x)
    exact exists_readsReal_zeroPoint negative hdigit (by simp)

/-- With an exponent a decimal is written as its leading digit and the others behind a point, of which those
that fit are read. -/
theorem exists_readsReal_exponential (negative : Bool) {d : Decimal} (hdigits : d.digits ≠ 0)
    (hpositional : ¬ (documentStyle.least ≤ d.top ∧ d.top < documentStyle.bound))
    (hlow : -(largestExponent : Int) ≤ d.top) (hhigh : d.top ≤ largestExponent) :
    ∃ s k, s ≤ largest64 ∧ Approaches d s k ∧
      ReadsReal negative (d.sizeChars documentStyle) s k := by
  obtain ⟨c, ds, hds, hc, hall, hvalue⟩ := exists_digits hdigits
  have htop : d.top = ds.length + d.exponent := by
    rw [Decimal.top, hds, List.length_cons]
    omega
  rw [Decimal.sizeChars]
  simp only [hds]
  rw [if_neg hpositional]
  split_ifs with hone
  · -- one digit and an exponent
    obtain rfl : ds = [] := by simpa using hone
    have hexponent : d.top = d.exponent := by simpa using htop
    have hfits : d.digits ≤ largest64 := hvalue ▸ ofDigitChars_le_largest64 hall (by simp)
    have hread := readsReal_exponent negative hc (hall c List.mem_cons_self) hlow hhigh
    rw [hvalue, hexponent] at hread
    refine ⟨d.digits, d.exponent, hfits, .inr ⟨le_refl _, fun _ => ⟨rfl, rfl⟩⟩, ?_⟩
    rw [hexponent]
    exact hread
  · -- more digits and an exponent
    have hsome : ds ≠ [] := by simpa using hone
    obtain ⟨s, used, hs, hused, hle, hexact, hread⟩ :=
      exists_readsReal_pointExponent negative hc hall hsome hlow hhigh
    rw [hvalue] at hle hexact
    refine ⟨s, d.top - used, hs, .inr ⟨?_, fun h => ?_⟩, hread⟩
    · have hplace : d.top - used = (ds.length - used : Nat) + d.exponent := by omega
      rw [hplace, zpow_add₀ (by norm_num), zpow_natCast, ← mul_assoc]
      refine mul_le_mul_of_nonneg_right ?_ (by positivity)
      exact_mod_cast hle
    · obtain ⟨rfl, rfl⟩ := hexact h
      exact ⟨rfl, by omega⟩

/-- **A decimal that is written is read** as a significand of 64 bits and a power of ten. -/
theorem exists_readsReal_sizeChars (negative : Bool) {d : Decimal} (hdigits : d.digits ≠ 0)
    (hlow : -(largestExponent : Int) ≤ d.top) (hhigh : d.top ≤ largestExponent) :
    ∃ s k, s ≤ largest64 ∧ Approaches d s k ∧
      ReadsReal negative (d.sizeChars documentStyle) s k := by
  by_cases hpositional : documentStyle.least ≤ d.top ∧ d.top < documentStyle.bound
  · obtain ⟨s, k, hs, hk, hread⟩ := exists_readsReal_positional negative hdigits hpositional
    exact ⟨s, k, hs, .inl hk, hread⟩
  · exact exists_readsReal_exponential negative hdigits hpositional hlow hhigh

/-- A written decimal starts with a digit after its sign. -/
theorem exists_sizeChars_eq_cons (style : Decimal.Style) {d : Decimal} (hdigits : d.digits ≠ 0) :
    ∃ c r, d.sizeChars style = c :: r ∧ c.isDigit = true := by
  obtain ⟨c, ds, hds, -, hall, -⟩ := exists_digits hdigits
  have hc := hall c List.mem_cons_self
  rw [Decimal.sizeChars]
  simp only [hds]
  split_ifs
  · exact ⟨c, _, rfl, hc⟩
  · exact ⟨c, _, rfl, hc⟩
  · exact ⟨'0', _, rfl, rfl⟩
  · exact ⟨c, _, rfl, hc⟩
  · exact ⟨c, _, rfl, hc⟩

/-! ### Texts of doubles -/

/-- A significand without a power of ten is read as a double. -/
theorem exists_scaleTen?_of_nonpos (hs : s ≤ largest64) (hk : k ≤ 0) : ∃ x, scaleTen? s k = some x := by
  refine exists_scaleTen? hs ?_
  have hpow : (10 : ℚ) ^ k ≤ 1 := zpow_le_one_of_nonpos₀ (by norm_num) hk
  have hsize : (s : ℚ) ≤ 10 ^ 20 := by
    have hle : s ≤ 10 ^ 20 := hs.trans (by decide)
    exact_mod_cast hle
  calc (s : ℚ) * 10 ^ k ≤ 10 ^ 20 * 1 := mul_le_mul hsize hpow (by positivity) (by positivity)
    _ ≤ 1 * 10 ^ 294 := by
      rw [mul_one, one_mul]
      exact pow_le_pow_right₀ (by norm_num) (by norm_num)
    _ ≤ safeSize := mul_le_mul_of_nonneg_right (by norm_num) (by positivity)

/-- A number is at least the power of ten of its leading digit. -/
theorem ten_pow_length_toDigits_le {n : Nat} (hn : n ≠ 0) :
    10 ^ ((Nat.toDigits 10 n).length - 1) ≤ n := by
  have hpos : 0 < (Nat.toDigits 10 n).length := Nat.length_toDigits_pos
  by_cases hone : (Nat.toDigits 10 n).length - 1 = 0
  · rw [hone]
    exact Nat.pos_of_ne_zero hn
  · rw [← not_lt, ← Nat.length_toDigits_le_iff (by norm_num) (Nat.pos_of_ne_zero hone)]
    omega

/-- The leading digit of a double stands at most at the 309th place. -/
theorem top_le {d : Decimal} {b : Binary} (hb : b.Finite) (hdigits : d.digits ≠ 0)
    (hle : (d.digits : ℚ) * 10 ^ d.exponent ≤ b.upperEnd) : d.top ≤ 309 := by
  have hlength := ten_pow_length_toDigits_le hdigits
  have hplace : d.top = ((Nat.toDigits 10 d.digits).length - 1 : Nat) + d.exponent := by
    have hpos : 0 < (Nat.toDigits 10 d.digits).length := Nat.length_toDigits_pos
    rw [Decimal.top]
    omega
  have hupper : b.upperEnd ≤ (10 ^ 309 : Nat) := by
    have hmantissa := hb.mantissa_lt
    have hexponent := hb.exponent_le
    exact mul_zpow_le (u := 2 ^ 55) (n := 969) (by omega) (by omega) (by decide +kernel)
  have hten : ((10 ^ 309 : Nat) : ℚ) = 10 ^ (309 : Int) := by
    rw [Nat.cast_pow, Nat.cast_ofNat]
    exact (zpow_natCast 10 309).symm
  rw [hten] at hupper
  have hpow : (10 : ℚ) ^ d.top ≤ 10 ^ (309 : Int) := by
    rw [hplace, zpow_add₀ (by norm_num), zpow_natCast]
    refine le_trans (mul_le_mul_of_nonneg_right ?_ (by positivity)) (hle.trans hupper)
    exact_mod_cast hlength
  exact (zpow_le_zpow_iff_right₀ (by norm_num)).1 hpow

/-- The text of a finite double without its sign is read as a double. -/
theorem exists_readsReal_shortest (negative : Bool) {x : Float} (hx : x.isFinite = true) :
    ∃ s k, (∃ y, scaleTen? s k = some y) ∧ ReadsReal negative
      (if (Decimal.shortest x).digits = 0 then ['0', '.', '0']
        else (Decimal.shortest x).sizeChars documentStyle) s k := by
  have hcases := shortest_cases hx
  generalize Decimal.shortest x = d at hcases ⊢
  by_cases hzero : d.digits = 0
  · rw [if_pos hzero]
    have hdigit : ∀ c ∈ ['0'], c.isDigit = true := fun c hc => List.mem_singleton.1 hc ▸ rfl
    obtain ⟨s, k, hs, hk, hread⟩ :=
      exists_readsReal_zeroPoint negative hdigit (List.cons_ne_nil _ _)
    exact ⟨s, k, exists_scaleTen?_of_nonpos hs hk, hread⟩
  · rw [if_neg hzero]
    obtain ⟨b, hb, hdigits, hexponent⟩ := hcases.resolve_left hzero
    have hle : (d.digits : ℚ) * 10 ^ d.exponent ≤ b.upperEnd := by
      rw [hdigits, hexponent]
      exact b.shortest_le
    have hlow : -(largestExponent : Int) ≤ d.top := by
      have hgrid := Binary.le_shortest_exponent hb.le_exponent
      simp only [Decimal.top, largestExponent]
      omega
    have hhigh : d.top ≤ largestExponent := by
      have htop := top_le hb hzero hle
      simp only [largestExponent]
      omega
    obtain ⟨s, k, hs, happroaches, hread⟩ := exists_readsReal_sizeChars negative hzero hlow hhigh
    refine ⟨s, k, ?_, hread⟩
    obtain hk | ⟨hvalue, hexact⟩ := happroaches
    · exact exists_scaleTen?_of_nonpos hs hk
    · rw [hdigits, hexponent] at hvalue hexact
      obtain hsafe | ⟨hfits, hsome⟩ := shortest_safe_or_exists hb
      · exact exists_scaleTen? hs (hvalue.trans hsafe)
      · obtain ⟨rfl, rfl⟩ := hexact hfits
        exact hsome

/-- **Finite doubles** are read back as doubles. -/
theorem exists_spells_real {x : Float} (hx : x.isFinite = true) :
    ∃ y, Spells (realText x).toList (.real y) := by
  have hreal : ∀ {negative : Bool} {s : Nat} {k : Int} {y : Float} (rest : List Char),
      scaleTen? s k = some y →
      realOf negative s k rest = .ok (.real (if negative then -y else y), rest) := by
    intro negative s k y rest hy
    rw [realOf, hy]
  rw [realText, if_pos hx, Decimal.toList_render]
  cases hsign : (Decimal.shortest x).negative with
  | true =>
    obtain ⟨s, k, ⟨y, hy⟩, hread⟩ := exists_readsReal_shortest true hx
    refine ⟨-y, .negative fun rest hrest => ?_⟩
    exact (hread rest hrest).trans (hreal rest hy)
  | false =>
    obtain ⟨s, k, ⟨y, hy⟩, hread⟩ := exists_readsReal_shortest false hx
    obtain ⟨c, r, hchars, hc⟩ : ∃ c r, (if (Decimal.shortest x).digits = 0 then ['0', '.', '0']
        else (Decimal.shortest x).sizeChars documentStyle) = c :: r ∧ c.isDigit = true := by
      split_ifs with hzero
      · exact ⟨'0', _, rfl, rfl⟩
      · exact exists_sizeChars_eq_cons documentStyle hzero
    rw [hchars] at hread ⊢
    refine ⟨y, .positive hc fun rest hrest => ?_⟩
    exact (hread rest hrest).trans (hreal rest hy)

end Doubles

/-- **Proper numbers are read back** as numbers: their texts are numerals that are in range. -/
theorem exists_spells {n : Number} (h : n.Proper) : ∃ m, Spells n.text.toList m := by
  cases n with
  | int n => exact ⟨.int n, spells_int h⟩
  | real x =>
    obtain ⟨y, hy⟩ := exists_spells_real h
    exact ⟨.real y, hy⟩

end ErrorTaxonomy.Json
