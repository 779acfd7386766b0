import CodeAtlas.Text.Utf8

/-!
The bytes of a text: those of its characters, one after another. A text is known by its bytes.
-/
namespace CodeAtlas.Text

theorem toList_loop (bytes : ByteArray) (i : Nat) (front : List UInt8) :
    ByteArray.toList.loop bytes i front = front.reverse ++ bytes.data.toList.drop i := by
  induction i, front using ByteArray.toList.loop.induct bytes with
  | case1 i front inside ih =>
    have byte : bytes.get! i = bytes.data[i] := getElem!_pos bytes.data i inside
    have next : bytes.data.toList.drop i = bytes.data[i] :: bytes.data.toList.drop (i + 1) :=
      List.drop_eq_getElem_cons inside
    rw [ByteArray.toList.loop, if_pos inside, ih, byte, next]
    simp
  | case2 i front past =>
    have none : bytes.data.toList.drop i = [] := List.drop_eq_nil_of_le (Nat.le_of_not_lt past)
    rw [ByteArray.toList.loop, if_neg past, none, List.append_nil]

theorem utf8_eq (s : String) : utf8 s = s.toByteArray.data.toList := by
  rw [utf8, ByteArray.toList, toList_loop]
  rfl

theorem utf8_injective {s t : String} (same : utf8 s = utf8 t) : s = t := by
  rw [utf8_eq, utf8_eq] at same
  exact String.toByteArray_inj.mp (ByteArray.ext (Array.toList_inj.mp same))

theorem utf8_flatMap (s : String) : utf8 s = s.toList.flatMap String.utf8EncodeChar := by
  rw [utf8_eq, ← String.utf8Encode_toList, List.utf8Encode, List.toList_data_toByteArray]

theorem utf8_nil : utf8 (String.ofList []) = [] := by
  rw [utf8_flatMap, String.toList_ofList, List.flatMap_nil]

theorem utf8_single (c : Char) : utf8 (String.ofList [c]) = String.utf8EncodeChar c := by
  rw [utf8_flatMap, String.toList_ofList, List.flatMap_singleton]

theorem utf8_cons (c : Char) (cs : List Char) :
    utf8 (String.ofList (c :: cs)) = String.utf8EncodeChar c ++ utf8 (String.ofList cs) := by
  rw [utf8_flatMap, utf8_flatMap, String.toList_ofList, String.toList_ofList, List.flatMap_cons]

theorem length_utf8EncodeChar_pos (c : Char) : 0 < (String.utf8EncodeChar c).length := by
  rw [String.length_utf8EncodeChar]
  exact c.utf8Size_pos

end CodeAtlas.Text
