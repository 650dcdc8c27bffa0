import CensusNode.Bytes

/-!
The UTF-8 bytes of a text stand for that text.
-/

namespace CensusNode

theorem to_byte_array_utf8_bytes (text : String) :
    (utf8Bytes text).toByteArray = text.toByteArray := by
  rw [utf8Bytes, ← List.utf8Encode, String.utf8Encode_toList]

theorem from_utf8_to_byte_array (text : String) :
    String.fromUTF8? text.toByteArray = some text := by
  rw [String.fromUTF8?, dif_pos text.isValidUTF8]
  rfl

@[simp]
theorem text_of_utf8_bytes (text : String) : textOfUtf8? (utf8Bytes text) = some text := by
  rw [textOfUtf8?, to_byte_array_utf8_bytes, from_utf8_to_byte_array]

theorem utf8_bytes_length (text : String) : (utf8Bytes text).length = text.utf8ByteSize := by
  have sizes := congrArg ByteArray.size (to_byte_array_utf8_bytes text)
  rwa [List.size_toByteArray, String.size_toByteArray] at sizes

/-- A character has at most four bytes. -/
theorem utf8_byte_size_of_list_le (chars : List Char) :
    (String.ofList chars).utf8ByteSize ≤ 4 * chars.length := by
  rw [← utf8_bytes_length, utf8Bytes, String.toList_ofList]
  induction chars with
  | nil => exact Nat.le_refl 0
  | cons char rest induction =>
      have short : (String.utf8EncodeChar char).length ≤ 4 := by
        rw [String.length_utf8EncodeChar]
        exact char.utf8Size_le_four
      rw [List.flatMap_cons, List.length_append, List.length_cons]
      omega

theorem size_append_le {first second : String} {left right : Nat}
    (firstFits : first.utf8ByteSize ≤ left) (secondFits : second.utf8ByteSize ≤ right) :
    (first ++ second).utf8ByteSize ≤ left + right := by
  rw [String.utf8ByteSize_append]
  exact Nat.add_le_add firstFits secondFits

end CensusNode
