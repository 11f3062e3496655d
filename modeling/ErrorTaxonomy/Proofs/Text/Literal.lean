import ErrorTaxonomy.Json.Parser
import ErrorTaxonomy.Text.Quoted

/-! # String literals — reading a quoted text back

A reader of string literals of the target language, written from its grammar: short escapes, bytes,
code points between braces and line continuations. It takes one character at a time, so that it does
not depend on how a text was escaped. The main statements are `readLiteral?_quoteBy`, that a quoted text
reads as the text, `untilQuote?_escape`, that no quote before the last one ends it, and
`not_mem_escape_of_isBreak`, that it holds no line break, whichever characters are spelled out. -/

namespace ErrorTaxonomy.Text

/-! ## The reader -/

/-- Where a reader stands in a literal. -/
inductive LiteralState where
  /-- Between characters; after a line continuation white space is skipped. -/
  | text (skipping : Bool)
  /-- After a backslash. -/
  | escape
  /-- After the letter of a byte escape. -/
  | byte
  /-- After the first digit of a byte. -/
  | byteDigit (high : Nat)
  /-- After the letter of a code point escape. -/
  | codePoint
  /-- Between the braces of a code point, after that many digits of that value. -/
  | digits (count value : Nat)
  deriving Repr, DecidableEq

/-- The character of an escape of one letter. -/
def escapeLetter? (c : Char) : Option Char :=
  if c = 'n' then some '\n'
  else if c = 'r' then some '\r'
  else if c = 't' then some '\t'
  else if c = '0' then some '\x00'
  else if c = '\\' ∨ c = '"' ∨ c = '\'' then some c
  else none

/-- Puts a character in front of what was read. -/
def consRead (c : Char) (r : List Char × List Char) : List Char × List Char := (c :: r.1, r.2)

/-- Reads up to the closing quote: the text, and what stands after the quote. -/
def readFrom : LiteralState → List Char → Option (List Char × List Char)
  | _, [] => none
  | .text skipping, c :: s =>
    if skipping ∧ (c = ' ' ∨ c = '\t' ∨ c = '\n' ∨ c = '\r') then readFrom (.text true) s
    else if c = '"' then some ([], s)
    else if c = '\\' then readFrom .escape s
    -- a carriage return has to be escaped
    else if c = '\r' then none
    else (readFrom (.text false) s).map (consRead c)
  | .escape, c :: s =>
    if c = 'x' then readFrom .byte s
    else if c = 'u' then readFrom .codePoint s
    else if c = '\n' then readFrom (.text true) s
    else match escapeLetter? c with
      | some d => (readFrom (.text false) s).map (consRead d)
      | none => none
  | .byte, c :: s =>
    match Json.hexDigit? c with
    | some d => if d < 8 then readFrom (.byteDigit d) s else none
    | none => none
  | .byteDigit high, c :: s =>
    match Json.hexDigit? c with
    | some d => (readFrom (.text false) s).map (consRead (Char.ofNat (16 * high + d)))
    | none => none
  | .codePoint, c :: s => if c = '\x7b' then readFrom (.digits 0 0) s else none
  | .digits count value, c :: s =>
    if c = '\x7d' then
      if 0 < count ∧ value.isValidChar then
        (readFrom (.text false) s).map (consRead (Char.ofNat value))
      else none
    else if c = '_' then if 0 < count then readFrom (.digits count value) s else none
    else match Json.hexDigit? c with
      | some d => if count < 6 then readFrom (.digits (count + 1) (16 * value + d)) s else none
      | none => none

/-- Reads a **literal** from its opening quote on: its text, and what stands after it. -/
def readLiteral? : List Char → Option (List Char × List Char)
  | '"' :: s => readFrom (.text false) s
  | _ => none

/-- What stands before and after the first quote that is **not escaped**; `escaped` tells whether a
backslash stands right before. -/
def untilQuote? : (escaped : Bool) → List Char → Option (List Char × List Char)
  | _, [] => none
  | true, c :: s => (untilQuote? false s).map (consRead c)
  | false, c :: s =>
    if c = '"' then some ([], s) else (untilQuote? (c = '\\') s).map (consRead c)

/-- A line feed or a carriage return. -/
def IsBreak (c : Char) : Prop := c = '\n' ∨ c = '\r'

/-! ## Steps of the reader -/

section Steps

variable {c : Char} {s : List Char}

/-- A quote ends the literal. -/
theorem readFrom_quote : readFrom (.text false) ('"' :: s) = some ([], s) := rfl

/-- A character without a meaning of its own stands for itself. -/
theorem readFrom_plain (hquote : c ≠ '"') (hslash : c ≠ '\\') (hreturn : c ≠ '\r') :
    readFrom (.text false) (c :: s) = (readFrom (.text false) s).map (consRead c) := by
  rw [readFrom, if_neg (by simp), if_neg hquote, if_neg hslash, if_neg hreturn]

/-- A short escape stands for its character. -/
theorem readFrom_short {d : Char} (hbyte : d ≠ 'x') (hpoint : d ≠ 'u') (hfeed : d ≠ '\n')
    (hd : escapeLetter? d = some c) :
    readFrom (.text false) ('\\' :: d :: s) = (readFrom (.text false) s).map (consRead c) := by
  change readFrom .escape (d :: s) = _
  rw [readFrom, if_neg hbyte, if_neg hpoint, if_neg hfeed, hd]

/-- The brace after the letter of a code point opens its digits. -/
theorem readFrom_openBrace :
    readFrom (.text false) ('\\' :: 'u' :: '\x7b' :: s) = readFrom (.digits 0 0) s := rfl

/-- A digit between the braces adds to the value. -/
theorem readFrom_digit {count value d : Nat} (hbrace : c ≠ '\x7d') (hunderscore : c ≠ '_')
    (hd : Json.hexDigit? c = some d) (hcount : count < 6) :
    readFrom (.digits count value) (c :: s) = readFrom (.digits (count + 1) (16 * value + d)) s := by
  rw [readFrom, if_neg hbrace, if_neg hunderscore, hd]
  simp only [if_pos hcount]

/-- The closing brace gives the character with the value of the digits. -/
theorem readFrom_closeBrace {count value : Nat} (hcount : 0 < count) (hvalue : value.isValidChar) :
    readFrom (.digits count value) ('\x7d' :: s) =
      (readFrom (.text false) s).map (consRead (Char.ofNat value)) := by
  rw [readFrom, if_pos rfl, if_pos ⟨hcount, hvalue⟩]

end Steps

/-! ## Hexadecimal digits -/

/-- A written hexadecimal digit reads as the digit. -/
theorem hexDigit?_digitChar {d : Nat} (h : d < 16) : Json.hexDigit? d.digitChar = some d := by
  revert d
  decide

/-- The digits of a number in hexadecimal are written digits. -/
theorem exists_of_mem_toDigits {n : Nat} {c : Char} (h : c ∈ Nat.toDigits 16 n) :
    ∃ d, d < 16 ∧ c = d.digitChar := by
  induction n using Nat.strongRecOn with
  | ind n ih =>
    rw [Nat.toDigits_eq_if (by decide)] at h
    split at h
    · next hn => exact ⟨n, hn, List.mem_singleton.1 h⟩
    · rcases List.mem_append.1 h with h | h
      · exact ih (n / 16) (by omega) h
      · exact ⟨n % 16, by omega, List.mem_singleton.1 h⟩

/-- No written digit has a meaning of its own in a literal. -/
theorem digitChar_ne {d : Nat} (h : d < 16) :
    d.digitChar ≠ '"' ∧ d.digitChar ≠ '\\' ∧ d.digitChar ≠ '\n' ∧ d.digitChar ≠ '\r' ∧
      d.digitChar ≠ '\x7d' ∧ d.digitChar ≠ '_' := by
  revert d
  decide

/-- A digit between the braces adds to the value. -/
theorem readFrom_digits_digitChar {d count value : Nat} (hd : d < 16) (hc : count < 6)
    (s : List Char) :
    readFrom (.digits count value) (d.digitChar :: s) =
      readFrom (.digits (count + 1) (16 * value + d)) s := by
  obtain ⟨-, -, -, -, hbrace, hunderscore⟩ := digitChar_ne hd
  exact readFrom_digit hbrace hunderscore (hexDigit?_digitChar hd) hc

/-- Reading the digits of a number of at most six gives the number. -/
theorem readFrom_toDigits {n : Nat} (h : (Nat.toDigits 16 n).length ≤ 6) (s : List Char) :
    readFrom (.digits 0 0) (Nat.toDigits 16 n ++ s) =
      readFrom (.digits (Nat.toDigits 16 n).length n) s := by
  induction n using Nat.strongRecOn generalizing s with
  | ind n ih =>
    rw [Nat.toDigits_eq_if (by decide)] at h ⊢
    by_cases hn : n < 16
    · simp only [if_pos hn]
      rw [List.singleton_append, readFrom_digits_digitChar hn (by decide)]
      simp
    · simp only [if_neg hn, List.length_append, List.length_singleton] at h ⊢
      have hmod : n % 16 < 16 := Nat.mod_lt n (by decide)
      have hdiv : 16 * (n / 16) + n % 16 = n := Nat.div_add_mod n 16
      rw [List.append_assoc, List.singleton_append, ih (n / 16) (by omega) (by omega),
        readFrom_digits_digitChar hmod (by omega), hdiv]

/-- The code point of a character has at most six digits. -/
theorem length_toDigits_toNat_le (c : Char) : (Nat.toDigits 16 c.toNat).length ≤ 6 := by
  rw [Nat.length_toDigits_le_iff (by decide) (by decide)]
  have hc : c.toNat.isValidChar := c.valid
  rcases hc with hc | ⟨-, hc⟩
  · exact Nat.lt_trans hc (by decide)
  · exact Nat.lt_trans hc (by decide)

/-! ## The written form of one character -/

/-- A character is written as a short escape, by its code point or as itself. -/
theorem escapeChar_cases (p : Char → Bool) (c : Char) :
    (∃ d, escapeChar p c = ['\\', d] ∧ escapeLetter? d = some c ∧ d ≠ 'x' ∧ d ≠ 'u' ∧ ¬IsBreak d) ∨
      escapeChar p c = codePointEscape c ∨
      (escapeChar p c = [c] ∧ c ≠ '"' ∧ c ≠ '\\' ∧ ¬IsBreak c) := by
  rw [escapeChar]
  by_cases h0 : c = '\x00'
  · exact .inl ⟨'0', by simp [h0, escapeLetter?, IsBreak]⟩
  by_cases ht : c = '\t'
  · exact .inl ⟨'t', by simp [ht, escapeLetter?, IsBreak]⟩
  by_cases hr : c = '\r'
  · exact .inl ⟨'r', by simp [hr, escapeLetter?, IsBreak]⟩
  by_cases hn : c = '\n'
  · exact .inl ⟨'n', by simp [hn, escapeLetter?, IsBreak]⟩
  rw [if_neg h0, if_neg ht, if_neg hr, if_neg hn]
  by_cases hq : c = '"' ∨ c = '\\'
  · refine .inl ⟨c, if_pos hq, ?_⟩
    rcases hq with rfl | rfl
    · simp [escapeLetter?, IsBreak]
    · simp [escapeLetter?, IsBreak]
  rw [if_neg hq]
  by_cases hp : p c = true
  · exact .inr (.inl (if_pos hp))
  · refine .inr (.inr ⟨if_neg hp, fun h => hq (.inl h), fun h => hq (.inr h), ?_⟩)
    rintro (h | h)
    · exact hn h
    · exact hr h

/-- What follows the letter of a code point escape has no quote, no backslash and no break. -/
theorem of_mem_codePoint {c x : Char} (h : x ∈ '\x7b' :: (Nat.toDigits 16 c.toNat ++ ['\x7d'])) :
    x ≠ '"' ∧ x ≠ '\\' ∧ ¬IsBreak x := by
  rw [List.mem_cons, List.mem_append, List.mem_singleton] at h
  rcases h with rfl | h | rfl
  · simp [IsBreak]
  · obtain ⟨d, hd, rfl⟩ := exists_of_mem_toDigits h
    obtain ⟨hq, hb, hn, hr, -⟩ := digitChar_ne hd
    exact ⟨hq, hb, fun h => h.elim hn hr⟩
  · simp [IsBreak]

/-! ## Reading an escaped text -/

/-- The written form of a code point reads as the character. -/
theorem readFrom_codePointEscape (c : Char) (s : List Char) :
    readFrom (.text false) (codePointEscape c ++ s) =
      (readFrom (.text false) s).map (consRead c) := by
  have hvalid : c.toNat.isValidChar := c.valid
  have hpos : 0 < (Nat.toDigits 16 c.toNat).length := Nat.length_toDigits_pos
  have htext : codePointEscape c ++ s =
      '\\' :: 'u' :: '\x7b' :: (Nat.toDigits 16 c.toNat ++ '\x7d' :: s) := by simp [codePointEscape]
  rw [htext, readFrom_openBrace, readFrom_toDigits (length_toDigits_toNat_le c),
    readFrom_closeBrace hpos hvalid, Char.ofNat_toNat]

/-- **One step of reading.** The written form of a character reads as the character. -/
theorem readFrom_escapeChar (p : Char → Bool) (c : Char) (s : List Char) :
    readFrom (.text false) (escapeChar p c ++ s) =
      (readFrom (.text false) s).map (consRead c) := by
  obtain ⟨d, he, hd, hx, hu, hbreak⟩ | he | ⟨he, hq, hb, hbreak⟩ := escapeChar_cases p c
  · have hn : d ≠ '\n' := fun h => hbreak (.inl h)
    rw [he]
    exact readFrom_short hx hu hn hd
  · rw [he]
    exact readFrom_codePointEscape c s
  · have hr : c ≠ '\r' := fun h => hbreak (.inr h)
    rw [he]
    exact readFrom_plain hq hb hr

/-- An escaped text before a quote reads as the text. -/
theorem readFrom_escape (p : Char → Bool) (s rest : List Char) :
    readFrom (.text false) (escape p s ++ '"' :: rest) = some (s, rest) := by
  induction s with
  | nil => exact readFrom_quote
  | cons c s ih =>
    rw [escape_cons, List.append_assoc, readFrom_escapeChar, ih]
    rfl

/-- **A quoted text reads as the text**, whichever characters it spells out. -/
theorem readLiteral?_quoteBy (p : Char → Bool) (s : String) (rest : List Char) :
    readLiteral? ((quoteBy p s).toList ++ rest) = some (s.toList, rest) := by
  simp [quoteBy, readLiteral?, readFrom_escape]

/-! ## The end of a literal -/

/-- Characters that are neither quotes nor backslashes are passed over. -/
theorem untilQuote?_append {w : List Char} (h : ∀ c ∈ w, c ≠ '"' ∧ c ≠ '\\') (s : List Char) :
    untilQuote? false (w ++ s) = (untilQuote? false s).map fun r => (w ++ r.1, r.2) := by
  induction w with
  | nil => simp
  | cons c w ih =>
    obtain ⟨hq, hb⟩ := h c List.mem_cons_self
    rw [List.cons_append, untilQuote?, if_neg hq, decide_eq_false hb,
      ih fun x hx => h x (List.mem_cons_of_mem c hx), Option.map_map]
    rfl

/-- The written form of a character is passed over. -/
theorem untilQuote?_escapeChar (p : Char → Bool) (c : Char) (s : List Char) :
    untilQuote? false (escapeChar p c ++ s) =
      (untilQuote? false s).map fun r => (escapeChar p c ++ r.1, r.2) := by
  obtain ⟨d, he, -⟩ | he | ⟨he, hq, hb, -⟩ := escapeChar_cases p c
  · rw [he]
    simp [untilQuote?, consRead, Function.comp_def]
  · have hplain : ∀ x ∈ '\x7b' :: (Nat.toDigits 16 c.toNat ++ ['\x7d']), x ≠ '"' ∧ x ≠ '\\' :=
      fun x hx => ⟨(of_mem_codePoint hx).1, (of_mem_codePoint hx).2.1⟩
    rw [he, codePointEscape, List.cons_append, List.cons_append, untilQuote?, if_neg (by decide),
      decide_eq_true rfl, untilQuote?, untilQuote?_append hplain, Option.map_map, Option.map_map]
    rfl
  · rw [he]
    exact untilQuote?_append (fun x hx => by rw [List.mem_singleton.1 hx]; exact ⟨hq, hb⟩) s

/-- The first quote after an escaped text that is not escaped itself is the one that **closes** it. -/
theorem untilQuote?_escape (p : Char → Bool) (s rest : List Char) :
    untilQuote? false (escape p s ++ '"' :: rest) = some (escape p s, rest) := by
  induction s with
  | nil => simp [untilQuote?]
  | cons c s ih =>
    rw [escape_cons, List.append_assoc, untilQuote?_escapeChar, ih]
    rfl

/-- An escaped text is written **on one line**. -/
theorem not_mem_escape_of_isBreak (p : Char → Bool) (s : List Char) {x : Char} (hx : IsBreak x) :
    x ∉ escape p s := by
  intro h
  obtain ⟨c, -, hc⟩ := List.mem_flatMap.1 h
  obtain ⟨d, he, -, -, -, hd⟩ | he | ⟨he, -, -, hbreak⟩ := escapeChar_cases p c
  · rw [he] at hc
    rcases List.mem_cons.1 hc with rfl | hc
    · exact absurd hx (by simp [IsBreak])
    · rw [List.mem_singleton.1 hc] at hx
      exact hd hx
  · rw [he, codePointEscape] at hc
    rcases List.mem_cons.1 hc with rfl | hc
    · exact absurd hx (by simp [IsBreak])
    rcases List.mem_cons.1 hc with rfl | hc
    · exact absurd hx (by simp [IsBreak])
    · exact (of_mem_codePoint hc).2.2 hx
  · rw [he, List.mem_singleton] at hc
    exact hbreak (hc ▸ hx)

end ErrorTaxonomy.Text
