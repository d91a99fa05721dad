/-! Texts are read back from their bytes, as an array or as a list. -/

namespace ControlPlane.Text

/-- The bytes that are left of an array are listed after those listed before. -/
theorem toList_loop {bytes : ByteArray} {place left : Nat} (whole : place + left = bytes.size)
    (before : List UInt8) :
    ByteArray.toList.loop bytes place before = before.reverse ++ bytes.data.toList.drop place := by
  have size : bytes.data.toList.length = bytes.size := rfl
  -- The induction is on how many bytes are left, with any listed before.
  induction left generalizing place before with
  | zero =>
    rw [ByteArray.toList.loop, if_neg (by omega), List.drop_of_length_le (by omega),
      List.append_nil]
  | succ left ih =>
    have inside : place < bytes.data.toList.length := by omega
    have byte : bytes.get! place = bytes.data.toList[place] := by
      rw [ByteArray.get!, getElem!_pos bytes.data place inside, Array.getElem_toList]
    -- One more byte is listed, in front of those that are reversed.
    rw [ByteArray.toList.loop, if_pos (by omega), ih (by omega), byte, List.reverse_cons,
      List.append_assoc, List.singleton_append, ← List.drop_eq_getElem_cons inside]

/-- An array of bytes is made again of their list. -/
@[simp] theorem mk_toList (bytes : ByteArray) : (⟨bytes.toList.toArray⟩ : ByteArray) = bytes := by
  -- At the start nothing is listed and all bytes are left.
  rw [ByteArray.toList, toList_loop (Nat.zero_add _), List.drop_zero, List.reverse_nil,
    List.nil_append, Array.toArray_toList]

/-- A text is read back from its bytes. -/
@[simp] theorem fromUTF8?_toByteArray (text : String) :
    String.fromUTF8? text.toByteArray = some text := by
  rw [String.fromUTF8?, dif_pos text.isValidUTF8]
  rfl

end ControlPlane.Text
