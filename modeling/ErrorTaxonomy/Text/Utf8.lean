/-! # UTF-8 — bytes as text

`decodeUtf8?` reads bytes that are well-formed throughout. `decodeUtf8Lossy` reads any bytes: each
**ill-formed stretch**, the longest start of a sequence that its next byte does not continue, becomes
one replacement character. -/

namespace ErrorTaxonomy.Text

/-- A sequence of bytes. -/
abbrev Bytes := List UInt8

/-- The number of bytes of characters. -/
def byteCount (s : List Char) : Nat := s.foldr (fun c n => c.utf8Size + n) 0

@[simp] theorem byteCount_nil : byteCount [] = 0 := rfl

@[simp] theorem byteCount_cons (c : Char) (s : List Char) :
    byteCount (c :: s) = c.utf8Size + byteCount s := rfl

@[simp] theorem byteCount_append (s t : List Char) :
    byteCount (s ++ t) = byteCount s + byteCount t := by
  induction s with
  | nil => simp
  | cons c s ih => simp [ih, Nat.add_assoc]

/-- The characters that start at byte `n` or later. -/
def dropBytes : Nat → List Char → List Char
  | _, [] => []
  | n, c :: s => if n = 0 then c :: s else dropBytes (n - c.utf8Size) s

/-- The characters that start before byte `n`. -/
def takeBytes : Nat → List Char → List Char
  | _, [] => []
  | n, c :: s => if n = 0 then [] else c :: takeBytes (n - c.utf8Size) s

/-- The characters **between** two byte positions. -/
def slice (s : List Char) (start stop : Nat) : List Char :=
  takeBytes (stop - start) (dropBytes start s)

@[simp] theorem dropBytes_zero (s : List Char) : dropBytes 0 s = s := by cases s <;> rfl

@[simp] theorem takeBytes_zero (s : List Char) : takeBytes 0 s = [] := by cases s <;> rfl

/-- A beginning is dropped by its number of bytes. -/
theorem dropBytes_append (s t : List Char) : dropBytes (byteCount s) (s ++ t) = t := by
  induction s with
  | nil => exact dropBytes_zero t
  | cons c s ih =>
    have hc : 0 < c.utf8Size := c.utf8Size_pos
    have hne : c.utf8Size + byteCount s ≠ 0 := by omega
    rw [byteCount_cons, List.cons_append, dropBytes, if_neg hne, Nat.add_sub_cancel_left, ih]

/-- A beginning is taken by its number of bytes. -/
theorem takeBytes_append (s t : List Char) : takeBytes (byteCount s) (s ++ t) = s := by
  induction s with
  | nil => exact takeBytes_zero t
  | cons c s ih =>
    have hc : 0 < c.utf8Size := c.utf8Size_pos
    have hne : c.utf8Size + byteCount s ≠ 0 := by omega
    rw [byteCount_cons, List.cons_append, takeBytes, if_neg hne, Nat.add_sub_cancel_left, ih]

/-- What stands between two texts lies between the byte positions where it starts and ends. -/
theorem slice_append (s t r : List Char) :
    slice (s ++ (t ++ r)) (byteCount s) (byteCount (s ++ t)) = t := by
  rw [slice, dropBytes_append, byteCount_append, Nat.add_sub_cancel_left, takeBytes_append]

/-- The bytes of a text. -/
def encodeUtf8 (s : String) : Bytes := s.toUTF8.toList

/-- The text of bytes that are well-formed UTF-8. -/
def decodeUtf8? (bs : Bytes) : Option String := String.fromUTF8? ⟨bs.toArray⟩

/-- A sequence whose first bytes have been read: the value so far, the bounds of the next byte and
the number of bytes after that one. -/
structure Utf8Partial where
  value : Nat
  low : Nat
  high : Nat
  left : Nat

/-- What one byte at the start of a sequence opens. -/
inductive Utf8Start
  | char (c : Char)
  | sequence (p : Utf8Partial)
  | bad

/-- Classifies the first byte of a sequence; the bounds of the second byte shut out overlong forms,
surrogates and values past the last code point. -/
def Utf8Start.ofByte (b : UInt8) : Utf8Start :=
  let n := b.toNat
  if n < 0x80 then .char (Char.ofNat n)
  else if n < 0xC2 then .bad
  else if n < 0xE0 then .sequence ⟨n - 0xC0, 0x80, 0xBF, 0⟩
  else if n < 0xF0 then
    .sequence ⟨n - 0xE0, if n = 0xE0 then 0xA0 else 0x80, if n = 0xED then 0x9F else 0xBF, 1⟩
  else if n < 0xF5 then
    .sequence ⟨n - 0xF0, if n = 0xF0 then 0x90 else 0x80, if n = 0xF4 then 0x8F else 0xBF, 2⟩
  else .bad

/-- The character that stands for an ill-formed stretch. -/
def replacement : Char := '\ufffd'

/-- Reads bytes after the sequence `open?` whose end is still to come. -/
def decodeLossyFrom : Option Utf8Partial → Bytes → List Char
  | none, [] => []
  | some _, [] => [replacement]
  | none, b :: r =>
    match Utf8Start.ofByte b with
    | .char c => c :: decodeLossyFrom none r
    | .sequence p => decodeLossyFrom (some p) r
    | .bad => replacement :: decodeLossyFrom none r
  | some p, b :: r =>
    if p.low ≤ b.toNat ∧ b.toNat ≤ p.high then
      let value := p.value * 64 + (b.toNat - 0x80)
      match p.left with
      | 0 => Char.ofNat value :: decodeLossyFrom none r
      | left + 1 => decodeLossyFrom (some ⟨value, 0x80, 0xBF, left⟩) r
    else
      -- the sequence breaks off before `b`, which starts another one
      match Utf8Start.ofByte b with
      | .char c => replacement :: c :: decodeLossyFrom none r
      | .sequence q => replacement :: decodeLossyFrom (some q) r
      | .bad => replacement :: replacement :: decodeLossyFrom none r

/-- The text of any bytes, with each ill-formed stretch replaced. -/
def decodeUtf8Lossy (bs : Bytes) : String := String.ofList (decodeLossyFrom none bs)

@[simp] theorem decodeLossyFrom_nil : decodeLossyFrom none [] = [] := rfl

end ErrorTaxonomy.Text
