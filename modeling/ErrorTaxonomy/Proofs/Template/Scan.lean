import Mathlib.Data.List.TakeWhile
import ErrorTaxonomy.Proofs.Distinct
import ErrorTaxonomy.Proofs.Template.Compile
import ErrorTaxonomy.Proofs.Text.Ascii
import ErrorTaxonomy.Proofs.Text.Bytes

/-! # Scanning — the placeholders of a format are the byte ranges that spell one

A placeholder is described by the bytes of the format alone: an opening brace, one or more bytes of a
name and a closing brace (`Occurrence.IsIn`). The scan goes from left to right and never looks back, so
three facts are needed to see that it lists **exactly** these ranges:

* **`isIn_iff_spelled`** — a range of bytes that spells a placeholder lies on whole characters, whatever
  stands around it.
* **`mem_occurrencesFrom_iff`** — no placeholder begins inside another one, since neither a name nor the
  brace behind it opens one, and an opening brace that begins no placeholder hides none.
* **`pairwise_occurrencesFrom`** — the occurrences follow one another.

Since no two such ranges overlap, leftmost, longest and without overlap is no choice at all: whatever
matches from left to right finds the same list (`finds_occurrences`, `Finds.unique`). -/

namespace ErrorTaxonomy.Template

/-! ## Ranges of bytes -/

/-- A byte of a placeholder's name: a digit, a letter or an underscore of ASCII. -/
def isNameByte (b : UInt8) : Bool :=
  (decide (0x30 ≤ b) && decide (b ≤ 0x39)) || (decide (0x41 ≤ b) && decide (b ≤ 0x5A)) ||
    (decide (0x61 ≤ b) && decide (b ≤ 0x7A)) || b == 0x5F

/-- The bytes of a format from `start` up to `stop` **spell the placeholder** of that name. -/
structure Occurrence.IsIn (o : Occurrence) (source : String) : Prop where
  opening : (Text.encodeUtf8 source)[o.start]? = some 0x7B
  closing : (Text.encodeUtf8 source)[o.stop - 1]? = some 0x7D
  nonempty : o.start + 1 < o.stop - 1
  inner : ∀ i, o.start < i → i < o.stop - 1 →
    ∃ b, (Text.encodeUtf8 source)[i]? = some b ∧ isNameByte b = true
  name_eq : Text.encodeUtf8 o.name =
    ((Text.encodeUtf8 source).drop (o.start + 1)).take (o.stop - 1 - (o.start + 1))

/-- The bytes of a name lie in three ranges or are the underscore. -/
theorem isNameByte_iff (b : UInt8) : isNameByte b = true ↔
    ((0x30 ≤ b.toNat ∧ b.toNat ≤ 0x39) ∨ (0x41 ≤ b.toNat ∧ b.toNat ≤ 0x5A) ∨
      (0x61 ≤ b.toNat ∧ b.toNat ≤ 0x7A)) ∨ b.toNat = 0x5F := by
  simp only [isNameByte, Bool.or_eq_true, Bool.and_eq_true, decide_eq_true_eq, beq_iff_eq,
    UInt8.le_iff_toNat_le, ← UInt8.toNat_inj, UInt8.reduceToNat]
  omega

/-- The characters of a name lie in three ranges or are the underscore. -/
theorem isNameChar_iff (c : Char) : isNameChar c = true ↔
    ((0x30 ≤ c.toNat ∧ c.toNat ≤ 0x39) ∨ (0x41 ≤ c.toNat ∧ c.toNat ≤ 0x5A) ∨
      (0x61 ≤ c.toNat ∧ c.toNat ≤ 0x7A)) ∨ c.toNat = 0x5F := by
  have hunderscore : c = '_' ↔ c.toNat = 0x5F := Char.toNat_inj.symm
  rw [isNameChar, Bool.or_eq_true, Text.isAlphanum_iff, decide_eq_true_eq, hunderscore]

/-- A byte of a name is ASCII. -/
theorem ascii_of_isNameByte {b : UInt8} (h : isNameByte b = true) : b.toNat < 0x80 := by
  rw [isNameByte_iff] at h
  omega

/-- A character of a name is ASCII. -/
theorem ascii_of_isNameChar {c : Char} (h : isNameChar c = true) : c.toNat < 0x80 := by
  rw [isNameChar_iff] at h
  omega

/-- Names are made of the same characters and bytes. -/
theorem isNameChar_iff_isNameByte {c : Char} {b : UInt8} (h : c.toNat = b.toNat) :
    isNameChar c = true ↔ isNameByte b = true := by
  rw [isNameChar_iff, isNameByte_iff, h]

/-- An item of a list stands right behind those before it. -/
theorem drop_eq_cons_of_getElem? {α : Type} {l : List α} {i : Nat} {a : α} (h : l[i]? = some a) :
    l.drop i = a :: l.drop (i + 1) := by
  obtain ⟨hi, rfl⟩ := List.getElem?_eq_some_iff.1 h
  exact List.drop_eq_getElem_cons hi

/-- Two items of a list cut it in what stands before, between and behind them. -/
theorem eq_append_of_getElem? {α : Type} {l : List α} {i j : Nat} {a b : α} (ha : l[i]? = some a)
    (hb : l[j]? = some b) (hij : i < j) :
    l = l.take i ++ a :: ((l.drop (i + 1)).take (j - (i + 1)) ++ b :: l.drop (j + 1)) := by
  have hj : i + 1 + (j - (i + 1)) = j := by omega
  have hrest : (l.drop (i + 1)).drop (j - (i + 1)) = b :: l.drop (j + 1) := by
    rw [List.drop_drop, hj, drop_eq_cons_of_getElem? hb]
  rw [← hrest, List.take_append_drop, ← drop_eq_cons_of_getElem? ha, List.take_append_drop]

/-- A range that spells a placeholder cuts the bytes of the format in what stands before it, the bytes of
its name between two braces, and what stands behind it. -/
theorem exists_split_of_isIn {o : Occurrence} {source : String} (h : o.IsIn source) :
    ∃ before inner after, Text.encodeUtf8 source = before ++ 0x7B :: (inner ++ 0x7D :: after) ∧
      inner ≠ [] ∧ (∀ b ∈ inner, isNameByte b = true) ∧ Text.encodeUtf8 o.name = inner ∧
      o.start = before.length ∧ o.stop = before.length + (inner.length + 2) := by
  have hlt := h.nonempty
  obtain ⟨hstart, -⟩ := List.getElem?_eq_some_iff.1 h.opening
  obtain ⟨hstop, -⟩ := List.getElem?_eq_some_iff.1 h.closing
  refine ⟨_, _, _, eq_append_of_getElem? h.opening h.closing (by omega), ?_, ?_, h.name_eq, ?_, ?_⟩
  · apply List.ne_nil_of_length_pos
    rw [List.length_take, List.length_drop]
    omega
  · intro b hb
    obtain ⟨i, hi, rfl⟩ := List.mem_iff_getElem.1 hb
    rw [List.length_take, List.length_drop] at hi
    obtain ⟨b, hb, hname⟩ := h.inner (o.start + 1 + i) (by omega) (by omega)
    obtain ⟨hi', rfl⟩ := List.getElem?_eq_some_iff.1 hb
    simpa using hname
  · rw [List.length_take]
    omega
  · rw [List.length_take, List.length_take, List.length_drop]
    omega

/-- Bytes of a name between two braces are a range that spells a placeholder. -/
theorem isIn_of_split {o : Occurrence} {source : String} {before inner after : Text.Bytes}
    (h : Text.encodeUtf8 source = before ++ 0x7B :: (inner ++ 0x7D :: after)) (hne : inner ≠ [])
    (hinner : ∀ b ∈ inner, isNameByte b = true) (hname : Text.encodeUtf8 o.name = inner)
    (hstart : o.start = before.length) (hstop : o.stop = before.length + (inner.length + 2)) :
    o.IsIn source := by
  have hpos : 0 < inner.length := List.length_pos_of_ne_nil hne
  have hdrop : (Text.encodeUtf8 source).drop (o.start + 1) = inner ++ 0x7D :: after := by
    rw [h, hstart, List.drop_append, List.drop_eq_nil_of_le (by omega)]
    simp
  have hbehind : ∀ i, (Text.encodeUtf8 source)[o.start + 1 + i]? = (inner ++ 0x7D :: after)[i]? := by
    intro i
    rw [← hdrop, List.getElem?_drop]
  have hsize : o.stop - 1 - (o.start + 1) = inner.length := by omega
  constructor
  · rw [h, hstart]
    simp
  · have hlast : o.stop - 1 = o.start + 1 + inner.length := by omega
    rw [hlast, hbehind]
    simp
  · omega
  · intro i hi hlast
    obtain ⟨j, rfl⟩ : ∃ j, i = o.start + 1 + j := ⟨i - (o.start + 1), by omega⟩
    have hj : j < inner.length := by omega
    refine ⟨inner[j], ?_, hinner _ (List.getElem_mem hj)⟩
    rw [hbehind, List.getElem?_append_left hj, List.getElem?_eq_getElem hj]
  · rw [hdrop, hsize, hname]
    simp

/-! ## Ranges of characters -/

/-- The characters `s`, which start at byte `offset`, **spell** the placeholder: its text stands between
two others. -/
def Occurrence.Spelled (s : List Char) (offset : Nat) (o : Occurrence) : Prop :=
  ∃ pre name post, s = pre ++ (Piece.source (.field name) ++ post) ∧ name ≠ [] ∧
    (∀ c ∈ name, isNameChar c = true) ∧
    o = ⟨String.ofList name, offset + Text.byteCount pre,
      offset + Text.byteCount pre + Piece.byteSize (.field name)⟩

/-- The bytes of a placeholder are those of its name between two braces. -/
theorem bytesOf_source_field (name : List Char) :
    Text.bytesOf (Piece.source (.field name)) = 0x7B :: (Text.bytesOf name ++ [0x7D]) := by
  have hopen : String.utf8EncodeChar '\x7b' = [0x7B] := by decide
  have hclose : String.utf8EncodeChar '\x7d' = [0x7D] := by decide
  rw [Piece.source, List.cons_append, Text.bytesOf_cons, Text.bytesOf_append, Text.bytesOf_cons,
    Text.bytesOf_nil, hopen, hclose]
  rfl

/-- A placeholder has two bytes more than its name. -/
theorem byteSize_field (name : List Char) :
    Piece.byteSize (.field name) = (Text.bytesOf name).length + 2 := by
  rw [Piece.byteSize, ← Text.length_bytesOf, bytesOf_source_field]
  simp

/-- The bytes of a name's characters are bytes of a name. -/
theorem isNameByte_of_mem_bytesOf {name : List Char} (h : ∀ c ∈ name, isNameChar c = true)
    {b : UInt8} (hb : b ∈ Text.bytesOf name) : isNameByte b = true := by
  obtain ⟨c, hc, hbc⟩ := List.mem_flatMap.1 hb
  have hascii := ascii_of_isNameChar (h c hc)
  rw [Text.utf8EncodeChar_of_ascii hascii, List.mem_singleton] at hbc
  have hnat : c.toNat = b.toNat := by
    rw [hbc, UInt8.toNat_ofNat']
    omega
  exact (isNameChar_iff_isNameByte hnat).1 (h c hc)

/-- Characters with the numbers of a name's bytes are characters of a name. -/
theorem isNameChar_of_map_toNat_eq {name : List Char} {bs : Text.Bytes}
    (h : name.map Char.toNat = bs.map UInt8.toNat) (hbs : ∀ b ∈ bs, isNameByte b = true) :
    ∀ c ∈ name, isNameChar c = true := by
  intro c hc
  have hmem : c.toNat ∈ bs.map UInt8.toNat := h ▸ List.mem_map_of_mem hc
  obtain ⟨b, hb, hnat⟩ := List.mem_map.1 hmem
  exact (isNameChar_iff_isNameByte hnat.symm).2 (hbs b hb)

/-- **Bytes and characters spell the same placeholders.** -/
theorem isIn_iff_spelled (o : Occurrence) (source : String) :
    o.IsIn source ↔ o.Spelled source.toList 0 := by
  constructor
  · intro h
    obtain ⟨before, inner, after, hsplit, hne, hinner, hname, hstart, hstop⟩ :=
      exists_split_of_isIn h
    rw [Text.encodeUtf8_eq_bytesOf] at hsplit
    -- each mark is ASCII, so it is a whole character: the brace, the name, the brace behind it
    obtain ⟨pre, c, rest, hs, hc, hpre, hrest⟩ :=
      Text.exists_char_of_bytesOf_eq (b := 0x7B) (by decide) hsplit
    obtain ⟨name, rest, rfl, hnat, hbytes, hclose⟩ :=
      Text.exists_chars_of_bytesOf_eq (fun b hb => ascii_of_isNameByte (hinner b hb)) hrest
    rw [← List.nil_append (0x7D :: after)] at hclose
    obtain ⟨between, d, post, rfl, hd, hbetween, -⟩ :=
      Text.exists_char_of_bytesOf_eq (b := 0x7D) (by decide) hclose
    obtain rfl := Text.eq_nil_of_bytesOf_eq_nil hbetween
    obtain rfl : c = '\x7b' := Char.toNat_inj.1 hc
    obtain rfl : d = '\x7d' := Char.toNat_inj.1 hd
    have hnameChars : o.name = String.ofList name := by
      apply Text.encodeUtf8_injective
      rw [hname, ← hbytes, Text.encodeUtf8_eq_bytesOf, String.toList_ofList]
    refine ⟨pre, name, post, by simp [hs, Piece.source], ?_,
      isNameChar_of_map_toNat_eq hnat hinner, ?_⟩
    · rintro rfl
      exact hne hbytes.symm
    · have hi : o.start = 0 + Text.byteCount pre := by
        rw [hstart, ← hpre, Text.length_bytesOf, Nat.zero_add]
      have hj : o.stop = 0 + Text.byteCount pre + Piece.byteSize (.field name) := by
        rw [byteSize_field, hbytes, ← hi, hstop, hstart]
      rw [← hj, ← hi, ← hnameChars]
  · rintro ⟨pre, name, post, hs, hne, hname, rfl⟩
    have hsplit : Text.encodeUtf8 source =
        Text.bytesOf pre ++ 0x7B :: (Text.bytesOf name ++ 0x7D :: Text.bytesOf post) := by
      rw [Text.encodeUtf8_eq_bytesOf, hs, Text.bytesOf_append, Text.bytesOf_append,
        bytesOf_source_field]
      simp
    refine isIn_of_split hsplit ?_ (fun b hb => isNameByte_of_mem_bytesOf hname hb) ?_ ?_ ?_
    · exact fun h => hne (Text.eq_nil_of_bytesOf_eq_nil h)
    · rw [Text.encodeUtf8_eq_bytesOf, String.toList_ofList]
    · simp
    · simp [byteSize_field]

/-! ## The scan -/

/-- A placeholder's name is read up to its closing brace. -/
theorem name?_append {name : List Char} (hne : name ≠ []) (h : ∀ c ∈ name, isNameChar c = true)
    (rest : List Char) : name? (name ++ '\x7d' :: rest) = some name := by
  have hclose : isNameChar '\x7d' = false := by decide
  have htake : (name ++ '\x7d' :: rest).takeWhile isNameChar = name := by
    rw [List.takeWhile_append_of_pos h, List.takeWhile_cons, hclose]
    simp
  have hdrop : (name ++ '\x7d' :: rest).dropWhile isNameChar = '\x7d' :: rest := by
    rw [List.dropWhile_append_of_pos h, List.dropWhile_cons, hclose]
    simp
  rw [name?, htake, hdrop]
  exact if_pos ⟨hne, rfl⟩

/-- A name that is read has characters, all of them characters of a name. -/
theorem isNameChar_of_name? {s name : List Char} (h : name? s = some name) :
    name ≠ [] ∧ ∀ c ∈ name, isNameChar c = true := by
  simp only [name?] at h
  split at h
  · next hc =>
    obtain rfl := Option.some.inj h
    exact ⟨hc.1, fun c hc => List.mem_takeWhile_imp hc⟩
  · cases h

/-- A placeholder at the start of a format is its first piece. -/
theorem pieces_field {name : List Char} (hne : name ≠ []) (h : ∀ c ∈ name, isNameChar c = true)
    (rest : List Char) :
    pieces (Piece.source (.field name) ++ rest) = .field name :: pieces rest := by
  have hsource : Piece.source (.field name) ++ rest = '\x7b' :: (name ++ '\x7d' :: rest) := by
    simp [Piece.source]
  rw [hsource, pieces, piecesFrom, if_pos rfl, name?_append hne h]
  dsimp only
  rw [piecesFrom_eq_drop, List.drop_append, List.drop_eq_nil_of_le (by omega)]
  simp

/-- Any other character at the start of a format is a piece by itself. -/
theorem pieces_char {c : Char} {rest : List Char} (h : c = '\x7b' → name? rest = none) :
    pieces (c :: rest) = .char c :: pieces rest := by
  rw [pieces, piecesFrom]
  split
  · next hc =>
    rw [h hc]
    rfl
  · rfl

/-- Induction along the pieces of a format: it begins with a placeholder or with a character that begins
none. -/
@[elab_as_elim]
theorem pieces_induct {motive : List Char → Prop} (nil : motive [])
    (char : ∀ c rest, (c = '\x7b' → name? rest = none) → motive rest → motive (c :: rest))
    (field : ∀ name rest, name ≠ [] → (∀ c ∈ name, isNameChar c = true) → motive rest →
      motive (Piece.source (.field name) ++ rest)) (s : List Char) : motive s := by
  induction hn : s.length using Nat.strongRecOn generalizing s with
  | ind n ih =>
    subst hn
    cases s with
    | nil => exact nil
    | cons c rest =>
      by_cases hfield : c = '\x7b' ∧ (name? rest).isSome
      · obtain ⟨rfl, hsome⟩ := hfield
        obtain ⟨name, hname⟩ := Option.isSome_iff_exists.1 hsome
        obtain ⟨hne, hchars⟩ := isNameChar_of_name? hname
        have hsource : '\x7b' :: rest =
            Piece.source (.field name) ++ rest.drop (name.length + 1) := by
          conv => lhs; rw [eq_of_name? hname]
          simp [Piece.source]
        rw [hsource]
        refine field name _ hne hchars (ih _ ?_ _ rfl)
        simp only [List.length_drop, List.length_cons]
        omega
      · refine char c rest (fun hc => ?_) (ih _ (by simp) _ rfl)
        rw [not_and, Bool.not_eq_true, Option.isSome_eq_false_iff, Option.isNone_iff_eq_none] at hfield
        exact hfield hc

/-- Behind a character that begins no placeholder the same placeholders are spelled. -/
theorem spelled_cons_iff {c : Char} {rest : List Char} (h : c = '\x7b' → name? rest = none)
    (offset : Nat) (o : Occurrence) :
    o.Spelled (c :: rest) offset ↔ o.Spelled rest (offset + Piece.byteSize (.char c)) := by
  have hsize : Piece.byteSize (.char c) = c.utf8Size := by simp [Piece.byteSize, Piece.source]
  constructor
  · rintro ⟨pre, name, post, hs, hne, hname, ho⟩
    cases pre with
    | nil =>
      -- the character would open a placeholder
      simp only [Piece.source, List.nil_append, List.cons_append, List.append_assoc,
        List.cons.injEq] at hs
      have hnone := h hs.1
      rw [hs.2, name?_append hne hname] at hnone
      cases hnone
    | cons d pre =>
      obtain ⟨rfl, hrest⟩ := List.cons.inj hs
      refine ⟨pre, name, post, hrest, hne, hname, ?_⟩
      simp only [ho, Text.byteCount_cons, hsize, Nat.add_assoc]
  · rintro ⟨pre, name, post, rfl, hne, hname, rfl⟩
    refine ⟨c :: pre, name, post, rfl, hne, hname, ?_⟩
    simp only [Text.byteCount_cons, hsize, Nat.add_assoc]

/-- A placeholder holds an opening brace at its start only. -/
theorem brace_notMem {name : List Char} (h : ∀ c ∈ name, isNameChar c = true) :
    '\x7b' ∉ name ++ ['\x7d'] := by
  rw [List.mem_append, List.mem_singleton, not_or]
  exact ⟨fun hmem => absurd (h _ hmem) (by decide), by decide⟩

/-- **No placeholder begins inside another one**: a format that begins with a placeholder spells this one
and those behind it. -/
theorem spelled_field_iff {name : List Char} (hne : name ≠ [])
    (h : ∀ c ∈ name, isNameChar c = true) (rest : List Char) (offset : Nat) (o : Occurrence) :
    o.Spelled (Piece.source (.field name) ++ rest) offset ↔
      o = ⟨String.ofList name, offset, offset + Piece.byteSize (.field name)⟩ ∨
        o.Spelled rest (offset + Piece.byteSize (.field name)) := by
  constructor
  · rintro ⟨pre, name', post, hs, hne', hname', ho⟩
    cases pre with
    | nil =>
      have hsame : name? (name ++ '\x7d' :: rest) = name? (name' ++ '\x7d' :: post) := by
        congr 1
        simpa [Piece.source] using hs
      rw [name?_append hne h, name?_append hne' hname', Option.some.injEq] at hsame
      subst hsame
      exact .inl (by simpa using ho)
    | cons d pre =>
      -- the other one opens behind the brace of this one
      simp only [Piece.source, List.cons_append, List.cons.injEq] at hs
      obtain ⟨rfl, hs⟩ := hs
      have hbehind : ∃ pre', pre = name ++ ['\x7d'] ++ pre' ∧
          rest = pre' ++ (Piece.source (.field name') ++ post) := by
        obtain ⟨t, ht, hrest⟩ | ⟨t, ht, hrest⟩ := List.append_eq_append_iff.1 hs
        · exact ⟨t, ht, by simpa [Piece.source] using hrest⟩
        · cases t with
          | nil => exact ⟨[], by simpa using ht.symm, by simpa [Piece.source] using hrest.symm⟩
          | cons e t =>
            obtain ⟨rfl, -⟩ := List.cons.inj hrest
            have hmem : '\x7b' ∈ name ++ ['\x7d'] := by simp [ht]
            exact absurd hmem (brace_notMem h)
      obtain ⟨pre', rfl, hrest⟩ := hbehind
      refine .inr ⟨pre', name', post, hrest, hne', hname', ?_⟩
      rw [ho]
      simp [Piece.byteSize, Piece.source, Nat.add_assoc]
  · rintro (rfl | ⟨pre, name', post, rfl, hne', hname', rfl⟩)
    · exact ⟨[], name, rest, rfl, hne, h, by simp⟩
    · refine ⟨Piece.source (.field name) ++ pre, name', post, by simp, hne', hname', ?_⟩
      simp [Piece.byteSize, Nat.add_assoc]

/-- **The scan lists what is spelled**: nothing else, and none is missed. -/
theorem mem_occurrencesFrom_iff (s : List Char) (offset : Nat) (o : Occurrence) :
    o ∈ occurrencesFrom offset (pieces s) ↔ o.Spelled s offset := by
  induction s using pieces_induct generalizing offset with
  | nil =>
    constructor
    · intro h
      cases h
    · rintro ⟨pre, name, post, hs, -⟩
      simp [Piece.source] at hs
  | char c rest h ih => rw [pieces_char h, occurrencesFrom, ih, spelled_cons_iff h]
  | field name rest hne h ih =>
    rw [pieces_field hne h, occurrencesFrom, List.mem_cons, ih, spelled_field_iff hne h]

/-- **The occurrences follow one another**, from the byte at which the pieces start. -/
theorem pairwise_occurrencesFrom (offset : Nat) (ps : List Piece) :
    (occurrencesFrom offset ps).Pairwise (fun o o' => o.stop ≤ o'.start) ∧
      ∀ o ∈ occurrencesFrom offset ps, offset ≤ o.start := by
  induction ps generalizing offset with
  | nil => exact ⟨.nil, by simp [occurrencesFrom]⟩
  | cons p ps ih =>
    obtain ⟨hpairs, hstart⟩ := ih (offset + p.byteSize)
    cases p with
    | char c => exact ⟨hpairs, fun o ho => Nat.le_trans (Nat.le_add_right _ _) (hstart o ho)⟩
    | field name =>
      refine ⟨.cons hstart hpairs, fun o ho => ?_⟩
      obtain rfl | ho := List.mem_cons.1 ho
      · exact Nat.le_refl _
      · exact Nat.le_trans (Nat.le_add_right _ _) (hstart o ho)

/-! ## The placeholders of a format -/

/-- The scan lists exactly the ranges of bytes that spell a placeholder. -/
theorem mem_occurrences_iff (source : String) (o : Occurrence) :
    o ∈ occurrences source ↔ o.IsIn source := by
  rw [occurrences, mem_occurrencesFrom_iff, isIn_iff_spelled]

/-- A range that spells a placeholder is not empty, lies in the format and is cut between characters. -/
theorem Occurrence.IsIn.valid {o : Occurrence} {source : String} (h : o.IsIn source) :
    o.start < o.stop ∧ o.stop ≤ source.utf8ByteSize ∧
      String.Pos.Raw.IsValid source ⟨o.start⟩ ∧ String.Pos.Raw.IsValid source ⟨o.stop⟩ := by
  rw [isIn_iff_spelled] at h
  obtain ⟨pre, name, post, hs, -, -, rfl⟩ := h
  have hsource : source = String.ofList (pre ++ (Piece.source (.field name) ++ post)) := by
    rw [← hs, String.ofList_toList]
  have hstart := Text.isValid_byteCount pre (Piece.source (.field name) ++ post)
  have hstop := Text.isValid_byteCount (pre ++ Piece.source (.field name)) post
  rw [List.append_assoc, ← hsource, Text.byteCount_append] at hstop
  rw [← hsource] at hstart
  simp only [Nat.zero_add]
  refine ⟨?_, ?_, hstart, hstop⟩
  · rw [byteSize_field]
    omega
  · rw [Text.utf8ByteSize_eq, hs, Text.byteCount_append, Text.byteCount_append, Piece.byteSize]
    omega

/-! ### Matching from left to right -/

/-- What a **matcher that goes from left to right** finds from byte `n` on: the leftmost range that spells
a placeholder, the longest of those that start there, and then what it finds behind that range. -/
inductive Finds (source : String) : Nat → List Occurrence → Prop
  | nothing {n : Nat} (none_left : ∀ o : Occurrence, o.IsIn source → o.start < n) :
      Finds source n []
  | next {n : Nat} {o : Occurrence} {os : List Occurrence} (isIn : o.IsIn source)
      (start_le : n ≤ o.start)
      (leftmost : ∀ o' : Occurrence, o'.IsIn source → n ≤ o'.start → o.start ≤ o'.start)
      (longest : ∀ o' : Occurrence, o'.IsIn source → o'.start = o.start → o'.stop ≤ o.stop)
      (rest : Finds source o.stop os) : Finds source n (o :: os)

/-- A range spells one name. -/
theorem Occurrence.IsIn.unique {o o' : Occurrence} {source : String} (h : o.IsIn source)
    (h' : o'.IsIn source) (hstart : o.start = o'.start) (hstop : o.stop = o'.stop) : o = o' := by
  have hname := h.name_eq
  rw [hstart, hstop, ← h'.name_eq] at hname
  cases o
  cases o'
  simp only [Occurrence.mk.injEq]
  exact ⟨Text.encodeUtf8_injective hname, hstart, hstop⟩

/-- A matcher from left to right finds one list. -/
theorem Finds.unique {source : String} {n : Nat} {os os' : List Occurrence} (h : Finds source n os)
    (h' : Finds source n os') : os = os' := by
  induction h generalizing os' with
  | nothing none_left =>
    cases h' with
    | nothing => rfl
    | next isIn start_le => exact absurd start_le (Nat.not_le.2 (none_left _ isIn))
  | next isIn start_le leftmost longest _ ih =>
    cases h' with
    | nothing none_left => exact absurd start_le (Nat.not_le.2 (none_left _ isIn))
    | next isIn' start_le' leftmost' longest' rest' =>
      have hstart := Nat.le_antisymm (leftmost _ isIn' start_le') (leftmost' _ isIn start_le)
      have hstop := Nat.le_antisymm (longest' _ isIn hstart) (longest _ isIn' hstart.symm)
      obtain rfl := isIn.unique isIn' hstart hstop
      rw [ih rest']

/-- All ranges that spell a placeholder, when they follow one another, are what a matcher finds. -/
theorem finds_of_mem_iff {source : String} {n : Nat} {os : List Occurrence}
    (hmem : ∀ o, o ∈ os ↔ o.IsIn source ∧ n ≤ o.start)
    (hpairs : os.Pairwise fun o o' => o.stop ≤ o'.start) : Finds source n os := by
  induction os generalizing n with
  | nil =>
    refine .nothing fun o ho => Nat.not_le.1 fun hle => ?_
    exact absurd ((hmem o).2 ⟨ho, hle⟩) List.not_mem_nil
  | cons o os ih =>
    obtain ⟨hbehind, hrest⟩ := List.pairwise_cons.1 hpairs
    obtain ⟨hin, hstart⟩ := (hmem o).1 List.mem_cons_self
    have hlt := hin.valid.1
    refine .next hin hstart (fun o' ho' hle => ?_) (fun o' ho' heq => ?_) (ih (fun o' => ?_) hrest)
    · obtain rfl | ho' := List.mem_cons.1 ((hmem o').2 ⟨ho', hle⟩)
      · exact Nat.le_refl _
      · exact Nat.le_trans (Nat.le_of_lt hlt) (hbehind o' ho')
    · obtain rfl | ho' := List.mem_cons.1 ((hmem o').2 ⟨ho', heq ▸ hstart⟩)
      · exact Nat.le_refl _
      · -- one behind the end of `o` does not start where `o` does
        have := hbehind o' ho'
        omega
    · constructor
      · intro ho'
        exact ⟨((hmem o').1 (List.mem_cons_of_mem o ho')).1, hbehind o' ho'⟩
      · rintro ⟨ho', hle⟩
        obtain rfl | ho' := List.mem_cons.1 ((hmem o').2 ⟨ho', by omega⟩)
        · omega
        · exact ho'

/-- **The scan is matching from left to right.** -/
theorem finds_occurrences (source : String) : Finds source 0 (occurrences source) := by
  refine finds_of_mem_iff (fun o => ?_) (pairwise_occurrencesFrom 0 _).1
  rw [mem_occurrences_iff]
  exact ⟨fun h => ⟨h, Nat.zero_le _⟩, fun h => h.1⟩

/-! ### Names -/

/-- The placeholders are the names of the occurrences. -/
theorem placeholders_eq (source : String) :
    placeholders source = (occurrences source).map (·.name) :=
  (map_name_occurrencesFrom 0 _).symm

/-- A format has a placeholder of a name when a range of its bytes spells one. -/
theorem mem_placeholders_iff (source name : String) :
    name ∈ placeholders source ↔ ∃ o : Occurrence, o.IsIn source ∧ o.name = name := by
  rw [placeholders_eq, List.mem_map]
  simp only [mem_occurrences_iff]

/-- **First occurrences.** Of two distinct names in the list, the earlier one is spelled before every
range that spells the later one. -/
theorem pairwise_names (source : String) : (names source).Pairwise fun name later =>
    ∀ o : Occurrence, o.IsIn source → o.name = later →
      ∃ o' : Occurrence, o'.IsIn source ∧ o'.name = name ∧ o'.stop ≤ o.start := by
  refine (pairwise_eraseDups (placeholders source)).imp fun {name later} hfirst o ho hname => ?_
  obtain ⟨before, after, hsplit⟩ := List.append_of_mem ((mem_occurrences_iff source o).2 ho)
  have hmem : name ∈ before.map (·.name) := by
    apply hfirst (before.map (·.name)) (after.map (·.name))
    rw [placeholders_eq, hsplit, List.map_append, List.map_cons, hname]
  obtain ⟨o', ho', rfl⟩ := List.mem_map.1 hmem
  have hin : o' ∈ occurrences source := by simp [hsplit, ho']
  have hpairs := (pairwise_occurrencesFrom 0 (pieces source.toList)).1
  rw [← occurrences, hsplit, List.pairwise_append] at hpairs
  exact ⟨o', (mem_occurrences_iff source o').1 hin, rfl, hpairs.2.2 o' ho' o List.mem_cons_self⟩

/-- **The scan finds exactly the placeholders.** The occurrences of a format are what a matcher from left
to right finds. They are all the ranges of its bytes that spell a placeholder, with its name, each once and
in increasing order; they are disjoint, lie in the format and are cut between characters. The names are the
distinct ones among them in order of first occurrence, and a name is mentioned when a range spells it. -/
theorem occurrences_exact (source : String) :
    (∀ os, Finds source 0 os ↔ os = occurrences source) ∧
      (∀ o, o ∈ occurrences source ↔ o.IsIn source) ∧
      (occurrences source).Pairwise (fun o o' => o.start < o'.start ∧ o.stop ≤ o'.start) ∧
      (∀ o ∈ occurrences source, o.start < o.stop ∧ o.stop ≤ source.utf8ByteSize ∧
        String.Pos.Raw.IsValid source ⟨o.start⟩ ∧ String.Pos.Raw.IsValid source ⟨o.stop⟩) ∧
      ((names source).Nodup ∧
        (∀ name, name ∈ names source ↔ ∃ o : Occurrence, o.IsIn source ∧ o.name = name) ∧
        (names source).Pairwise fun name later => ∀ o : Occurrence, o.IsIn source → o.name = later →
          ∃ o' : Occurrence, o'.IsIn source ∧ o'.name = name ∧ o'.stop ≤ o.start) ∧
      ∀ name, mentions source name = true ↔ ∃ o : Occurrence, o.IsIn source ∧ o.name = name := by
  have hvalid : ∀ o ∈ occurrences source, _ := fun o ho =>
    ((mem_occurrences_iff source o).1 ho).valid
  refine ⟨fun os => ⟨fun h => h.unique (finds_occurrences source), ?_⟩, mem_occurrences_iff source, ?_,
    hvalid, ⟨nodup_eraseDups _, ?_, pairwise_names source⟩, ?_⟩
  · rintro rfl
    exact finds_occurrences source
  · have hpairs := (pairwise_occurrencesFrom 0 (pieces source.toList)).1
    refine hpairs.imp_of_mem fun {o o'} ho _ hle => ⟨?_, hle⟩
    exact Nat.lt_of_lt_of_le (hvalid o ho).1 hle
  · intro name
    rw [names, List.mem_eraseDups, mem_placeholders_iff]
  · intro name
    rw [mentions, List.contains_iff_mem, mem_placeholders_iff]

/-- Stray braces, a name with other characters and text of two bytes stand around two placeholders. -/
example : occurrences "\x7b\x7bok\x7d\x7d é\x7ba-b\x7d\x7b_1\x7d" =
    [⟨"ok", 1, 5⟩, ⟨"_1", 14, 18⟩] := by decide

end ErrorTaxonomy.Template
