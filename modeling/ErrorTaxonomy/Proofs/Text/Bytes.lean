import ErrorTaxonomy.Proofs.Text.Utf8

/-! # Bytes — where the characters of a text stand among its bytes

The bytes of a text are those of its characters, one character after the other. A byte of the ASCII range
is a **whole character**, whatever stands around it (`exists_char_of_bytesOf_eq`), so what is found among
the bytes of a text by ASCII marks is found among its characters at the same place
(`exists_chars_of_bytesOf_eq`), and every place between two characters is a valid position
(`isValid_byteCount`). -/

namespace ErrorTaxonomy.Text

/-! ## The bytes of characters -/

/-- The bytes of characters. -/
def bytesOf (s : List Char) : Bytes := s.flatMap String.utf8EncodeChar

@[simp] theorem bytesOf_nil : bytesOf [] = [] := rfl

@[simp] theorem bytesOf_cons (c : Char) (s : List Char) :
    bytesOf (c :: s) = String.utf8EncodeChar c ++ bytesOf s := rfl

@[simp] theorem bytesOf_append (s t : List Char) : bytesOf (s ++ t) = bytesOf s ++ bytesOf t :=
  List.flatMap_append

/-- Characters have as many bytes as they are counted with. -/
@[simp] theorem length_bytesOf (s : List Char) : (bytesOf s).length = byteCount s := by
  induction s with
  | nil => rfl
  | cons c s ih => rw [bytesOf_cons, List.length_append, String.length_utf8EncodeChar, ih,
      byteCount_cons]

/-- The bytes of a text are those of its characters. -/
theorem encodeUtf8_eq_bytesOf (s : String) : encodeUtf8 s = bytesOf s.toList := by
  have hbytes : s.toUTF8 = s.toList.utf8Encode := by
    rw [← String.toByteArray_ofList, String.ofList_toList]
    rfl
  rw [encodeUtf8_eq, hbytes, List.utf8Encode, List.toList_data_toByteArray]
  rfl

/-- Characters have bytes. -/
theorem byteCount_pos {s : List Char} (hne : s ≠ []) : 0 < byteCount s := by
  obtain ⟨c, s, rfl⟩ := List.exists_cons_of_ne_nil hne
  exact Nat.add_pos_left c.utf8Size_pos _

/-- Only no characters have no bytes. -/
theorem eq_nil_of_bytesOf_eq_nil {s : List Char} (h : bytesOf s = []) : s = [] := by
  refine Decidable.byContradiction fun hne => ?_
  have hpos := byteCount_pos hne
  rw [← length_bytesOf, h] at hpos
  exact Nat.lt_irrefl 0 hpos

/-! ## ASCII bytes -/

/-- An ASCII character is one byte. -/
theorem utf8EncodeChar_of_ascii {c : Char} (h : c.toNat < 0x80) :
    String.utf8EncodeChar c = [UInt8.ofNat c.toNat] := by
  have hle : c.val.toNat ≤ 0x7F := by
    change c.toNat ≤ 0x7F
    omega
  rw [String.utf8EncodeChar]
  exact if_pos hle

/-- An ASCII byte is among the bytes of one character only, the one with its number. -/
theorem toNat_eq_of_mem_utf8EncodeChar {c : Char} {b : UInt8} (hb : b ∈ String.utf8EncodeChar c)
    (hascii : b.toNat < 0x80) : c.toNat = b.toNat := by
  have hofNat : ∀ n : Nat, (UInt8.ofNat n).toNat = n % 256 := fun n => UInt8.toNat_ofNat'
  change c.val.toNat = b.toNat
  rw [String.utf8EncodeChar] at hb
  -- the bytes of every longer form are at least 0x80
  split at hb
  · next hle =>
    obtain rfl := List.mem_singleton.1 hb
    rw [hofNat]
    omega
  · exfalso
    split at hb
    · simp only [List.mem_cons, List.not_mem_nil, or_false] at hb
      obtain rfl | rfl := hb <;> rw [hofNat] at hascii <;> omega
    · split at hb
      · simp only [List.mem_cons, List.not_mem_nil, or_false] at hb
        obtain rfl | rfl | rfl := hb <;> rw [hofNat] at hascii <;> omega
      · simp only [List.mem_cons, List.not_mem_nil, or_false] at hb
        obtain rfl | rfl | rfl | rfl := hb <;> rw [hofNat] at hascii <;> omega

/-- The bytes of a character that hold an ASCII byte are that byte. -/
theorem utf8EncodeChar_eq_singleton_of_mem {c : Char} {b : UInt8}
    (hb : b ∈ String.utf8EncodeChar c) (hascii : b.toNat < 0x80) :
    String.utf8EncodeChar c = [b] := by
  have hc := toNat_eq_of_mem_utf8EncodeChar hb hascii
  rw [utf8EncodeChar_of_ascii (hc ▸ hascii), hc, UInt8.ofNat_toNat]

/-- **An ASCII byte is a whole character.** Where one stands among the bytes of a text, the character
with its number stands among the characters, with the bytes before it before it and those after it after
it. -/
theorem exists_char_of_bytesOf_eq {s : List Char} {before after : Bytes} {b : UInt8}
    (hascii : b.toNat < 0x80) (h : bytesOf s = before ++ b :: after) :
    ∃ pre c post, s = pre ++ c :: post ∧ c.toNat = b.toNat ∧ bytesOf pre = before ∧
      bytesOf post = after := by
  induction s generalizing before with
  | nil => simp at h
  | cons c s ih =>
    rw [bytesOf_cons] at h
    by_cases hb : b ∈ String.utf8EncodeChar c ∧ before = []
    · obtain ⟨hb, rfl⟩ := hb
      rw [utf8EncodeChar_eq_singleton_of_mem hb hascii, List.singleton_append, List.nil_append,
        List.cons.injEq] at h
      exact ⟨[], c, s, rfl, toNat_eq_of_mem_utf8EncodeChar hb hascii, rfl, h.2⟩
    · -- otherwise the character is used up before the byte
      have hrest : ∃ before', before = String.utf8EncodeChar c ++ before' ∧
          bytesOf s = before' ++ b :: after := by
        obtain ⟨t, ht, hs⟩ | ⟨t, ht, hs⟩ := List.append_eq_append_iff.1 h
        · exact ⟨t, ht, hs⟩
        · cases t with
          | nil => exact ⟨[], by simpa using ht.symm, by simpa using hs.symm⟩
          | cons d t =>
            obtain ⟨rfl, -⟩ := List.cons.inj hs
            have hmem : b ∈ String.utf8EncodeChar c := by simp [ht]
            have hone := utf8EncodeChar_eq_singleton_of_mem hmem hascii
            have hnil : before = [] := by
              have hlength := congrArg List.length (hone.symm.trans ht)
              simp only [List.length_cons, List.length_append, List.length_nil] at hlength
              exact List.eq_nil_of_length_eq_zero (by omega)
            exact absurd ⟨hmem, hnil⟩ hb
      obtain ⟨before', rfl, hs⟩ := hrest
      obtain ⟨pre, d, post, rfl, hd, rfl, rfl⟩ := ih hs
      exact ⟨c :: pre, d, post, rfl, hd, rfl, rfl⟩

/-- **A stretch of ASCII bytes** at the start of a text is made of as many characters, with the same
numbers. -/
theorem exists_chars_of_bytesOf_eq {s : List Char} {bs after : Bytes}
    (hascii : ∀ b ∈ bs, b.toNat < 0x80) (h : bytesOf s = bs ++ after) :
    ∃ mid post, s = mid ++ post ∧ mid.map Char.toNat = bs.map UInt8.toNat ∧ bytesOf mid = bs ∧
      bytesOf post = after := by
  induction bs generalizing s with
  | nil => exact ⟨[], s, rfl, rfl, rfl, h⟩
  | cons b bs ih =>
    have hb : bytesOf s = [] ++ b :: (bs ++ after) := h
    obtain ⟨pre, c, post, rfl, hc, hpre, hpost⟩ :=
      exists_char_of_bytesOf_eq (hascii b List.mem_cons_self) hb
    obtain rfl := eq_nil_of_bytesOf_eq_nil hpre
    obtain ⟨mid, post, rfl, hmid, hbs, hafter⟩ :=
      ih (fun d hd => hascii d (List.mem_cons_of_mem b hd)) hpost
    have hone : String.utf8EncodeChar c = [b] := by
      rw [utf8EncodeChar_of_ascii (hc ▸ hascii b List.mem_cons_self), hc, UInt8.ofNat_toNat]
    refine ⟨c :: mid, post, rfl, ?_, ?_, hafter⟩
    · rw [List.map_cons, List.map_cons, hc, hmid]
    · rw [bytesOf_cons, hone, hbs, List.singleton_append]

/-! ## Positions -/

/-- A text has as many bytes as its characters. -/
theorem utf8ByteSize_eq (s : String) : s.utf8ByteSize = byteCount s.toList := by
  rw [← length_bytesOf, ← encodeUtf8_eq_bytesOf, encodeUtf8_eq]
  rfl

/-- **Between two characters** every position is valid. -/
theorem isValid_byteCount (pre post : List Char) :
    String.Pos.Raw.IsValid (String.ofList (pre ++ post)) ⟨byteCount pre⟩ := by
  rw [String.Pos.Raw.isValid_iff_exists_append]
  refine ⟨String.ofList pre, String.ofList post, String.ofList_append, ?_⟩
  rw [String.Pos.Raw.ext_iff, String.byteIdx_rawEndPos, utf8ByteSize_eq, String.toList_ofList]

end ErrorTaxonomy.Text
