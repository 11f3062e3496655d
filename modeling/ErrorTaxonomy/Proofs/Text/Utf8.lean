import ErrorTaxonomy.Text.Utf8

/-! # UTF-8 round trip — the bytes of a text give the text back -/

namespace ErrorTaxonomy.Text

/-- Listing bytes from a position on puts them behind those listed before. -/
theorem toList_loop_eq (bs : ByteArray) (i : Nat) (r : List UInt8) :
    ByteArray.toList.loop bs i r = r.reverse ++ bs.data.toList.drop i := by
  fun_induction ByteArray.toList.loop bs i r with
  | case1 i r hlt ih =>
    have hi : i < bs.data.toList.length := by simpa using hlt
    have hget : bs.get! i = bs.data.toList[i] := by
      rw [Array.getElem_toList]
      exact getElem!_pos bs.data i hlt
    rw [ih, List.drop_eq_getElem_cons hi, hget, List.reverse_cons, List.append_assoc,
      List.singleton_append]
  | case2 i r hge =>
    have hend : bs.data.toList.length ≤ i := by simpa using hge
    rw [List.drop_eq_nil_of_le hend, List.append_nil]

/-- The bytes of a text, listed, are those it is stored with. -/
theorem encodeUtf8_eq (s : String) : encodeUtf8 s = s.toUTF8.data.toList := by
  rw [encodeUtf8, ByteArray.toList, toList_loop_eq, List.reverse_nil, List.nil_append,
    List.drop_zero]

/-- **Round trip.** The bytes of a text are well-formed and read as the text. -/
theorem decodeUtf8?_encodeUtf8 (s : String) : decodeUtf8? (encodeUtf8 s) = some s := by
  have hbytes : (⟨(encodeUtf8 s).toArray⟩ : ByteArray) = s.toUTF8 := by
    rw [encodeUtf8_eq]
  rw [decodeUtf8?, hbytes]
  exact dif_pos s.isValidUTF8

/-- Texts with the same bytes are the same. -/
theorem encodeUtf8_injective : Function.Injective encodeUtf8 := by
  intro s t h
  have hsome := congrArg decodeUtf8? h
  rw [decodeUtf8?_encodeUtf8, decodeUtf8?_encodeUtf8] at hsome
  exact Option.some.inj hsome

end ErrorTaxonomy.Text
