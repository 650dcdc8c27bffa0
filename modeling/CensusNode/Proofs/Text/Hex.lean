import CensusNode.Proofs.Text.Utf8Bytes
import CensusNode.Text.Hex

/-!
Hexadecimal text. Bytes are read back from the digits that are written for them, and from the same
digits in another case and after marks. The bytes that are decoded from a text are fewer than those
of the text itself, however many marks it starts with.
-/

namespace CensusNode.Hex

theorem decode_pairs_length_le {position : Nat} {digits bytes : Bytes}
    (decoded : decodePairs position digits = .ok bytes) : bytes.length ≤ digits.length := by
  fun_induction decodePairs position digits generalizing bytes with
  | case1 => cases decoded
  | case2 => cases decoded
  | case3 position high low rest upper isHigh lower isLow found isRest induction =>
      rw [← Except.ok.inj decoded, List.length_cons, List.length_cons, List.length_cons]
      have shorter := induction isRest
      omega
  | case4 => cases decoded
  | case5 =>
      rw [← Except.ok.inj decoded]
      exact Nat.zero_le _

theorem drop_marks_suffix (chars : List Char) : dropMarks chars <:+ chars := by
  fun_induction dropMarks chars with
  | case1 rest induction =>
      have shorter := (List.suffix_cons 'x' rest).trans (List.suffix_cons '0' ('x' :: rest))
      exact induction.trans shorter
  | case2 => exact List.suffix_refl _

theorem decode_marked_length_le {text : String} {bytes : Bytes}
    (decoded : decodeMarked text = .ok bytes) : bytes.length ≤ text.utf8ByteSize := by
  rw [decodeMarked, decode] at decoded
  split at decoded
  · cases decoded
  · have shorter := decode_pairs_length_le decoded
    obtain ⟨marks, same⟩ := drop_marks_suffix text.toList
    have split : text.toList.flatMap String.utf8EncodeChar =
        marks.flatMap String.utf8EncodeChar ++
          (dropMarks text.toList).flatMap String.utf8EncodeChar := by
      rw [← List.flatMap_append, same]
    rw [utf8Bytes, String.toList_ofList] at shorter
    rw [← utf8_bytes_length, utf8Bytes, split, List.length_append]
    exact Nat.le_trans shorter (Nat.le_add_left _ _)

/-- A text shows the digits of a printed one, each of them in either case and all of them after any
number of marks. -/
def Spells (printed text : String) : Prop :=
  ∃ marks digits, text.toList = (List.replicate marks ['0', 'x']).flatten ++ digits ∧
    digits.map Char.toLower = printed.toList

theorem eq_or_upper {char lower : Char} (same : char.toLower = lower) :
    char = lower ∨ char.isUpper = true ∧ char = Char.ofNat (lower.toNat - 32) := by
  unfold Char.toLower at same
  split at same
  · rename_i upper
    have last : char.val.toNat ≤ 90 := UInt32.le_iff_toNat_le.mp upper.2
    have code : lower.toNat - 32 = char.toNat := by
      rw [← same]
      change (char.val + 32).toNat - 32 = char.val.toNat
      rw [UInt32.toNat_add]
      change (char.val.toNat + 32) % 4294967296 - 32 = char.val.toNat
      omega
    rw [code, Char.ofNat_toNat]
    exact Or.inr ⟨decide_eq_true upper, rfl⟩
  · exact Or.inl same

/-- A digit of either case is a single byte, which stands for its value, and it is no mark. -/
theorem digit_spec {value : Nat} (small : value < 16) {char : Char}
    (spelt : char.toLower = digit value) :
    ∃ byte, String.utf8EncodeChar char = [byte] ∧ digitValue? byte = some value ∧ char ≠ 'x' := by
  -- The check goes through the list, for characters could be gone through as well.
  have all : ∀ value : Fin 16,
      [digit value.val, Char.ofNat ((digit value.val).toNat - 32)].all (fun char =>
        decide (char = digit value.val ∨ char.isUpper = true →
          (String.utf8EncodeChar char).length = 1 ∧
          (String.utf8EncodeChar char).head?.bind digitValue? = some value.val ∧
          char ≠ 'x')) = true := by
    decide
  have either : char ∈ [digit value, Char.ofNat ((digit value).toNat - 32)] ∧
      (char = digit value ∨ char.isUpper = true) := by
    rcases eq_or_upper spelt with same | ⟨upper, same⟩
    · exact ⟨by simp [same], Or.inl same⟩
    · exact ⟨by simp [← same], Or.inr upper⟩
  obtain ⟨single, stands, noMark⟩ :=
    of_decide_eq_true (List.all_eq_true.mp (all ⟨value, small⟩) char either.1) either.2
  obtain ⟨byte, isByte⟩ := List.length_eq_one_iff.mp single
  rw [isByte] at stands
  exact ⟨byte, isByte, stands, noMark⟩

theorem high_digit_lt (byte : UInt8) : byte.toNat / 16 < 16 :=
  Nat.div_lt_of_lt_mul byte.toNat_lt

theorem low_digit_lt (byte : UInt8) : byte.toNat % 16 < 16 :=
  Nat.mod_lt _ (by decide)

theorem digit_lower {value : Nat} (small : value < 16) : (digit value).toLower = digit value := by
  have all : ∀ value : Fin 16, (digit value.val).toLower = digit value.val := by decide
  exact all ⟨value, small⟩

theorem digits_lower (bytes : Bytes) :
    (bytes.flatMap byteDigits).map Char.toLower = bytes.flatMap byteDigits := by
  rw [List.map_flatMap]
  congr 1
  funext byte
  simp only [byteDigits, List.map_cons, List.map_nil, digit_lower (high_digit_lt byte),
    digit_lower (low_digit_lt byte)]

theorem spells_self (bytes : Bytes) : Spells (encode bytes) (encode bytes) := by
  refine ⟨0, bytes.flatMap byteDigits, ?_, ?_⟩
  · rw [encode, String.toList_ofList, List.replicate_zero, List.flatten_nil, List.nil_append]
  · rw [encode, String.toList_ofList, digits_lower]

def capitals (marks : Nat) (bytes : Bytes) : String :=
  String.ofList ((List.replicate marks ['0', 'x']).flatten ++
    (bytes.flatMap byteDigits).map Char.toUpper)

theorem spells_capitals (marks : Nat) (bytes : Bytes) :
    Spells (encode bytes) (capitals marks bytes) := by
  refine ⟨marks, (bytes.flatMap byteDigits).map Char.toUpper, ?_, ?_⟩
  · rw [capitals, String.toList_ofList]
  · have lowered : ∀ value : Fin 16, (digit value.val).toUpper.toLower = digit value.val := by decide
    rw [encode, String.toList_ofList, List.map_map, List.map_flatMap]
    congr 1
    funext byte
    simp only [byteDigits, List.map_cons, List.map_nil, Function.comp_apply,
      lowered ⟨_, high_digit_lt byte⟩, lowered ⟨_, low_digit_lt byte⟩]

theorem drop_marks_of_no_mark {chars : List Char} (none : 'x' ∉ chars) :
    dropMarks chars = chars := by
  fun_cases dropMarks chars with
  | case1 rest => simp at none
  | case2 => rfl

theorem drop_marks_marked (marks : Nat) (chars : List Char) :
    dropMarks ((List.replicate marks ['0', 'x']).flatten ++ chars) = dropMarks chars := by
  induction marks with
  | zero => rfl
  | succ marks induction =>
      rw [List.replicate_succ, List.flatten_cons, List.append_assoc]
      exact induction

/-- Digits of either case are read as the bytes they stand for, and there is no mark among them. -/
theorem decode_pairs_digits {bytes : Bytes} {digits : List Char}
    (spelt : digits.map Char.toLower = bytes.flatMap byteDigits) (position : Nat) :
    decodePairs position (digits.flatMap String.utf8EncodeChar) = .ok bytes ∧
      (digits.flatMap String.utf8EncodeChar).length = 2 * bytes.length ∧ 'x' ∉ digits := by
  induction bytes generalizing digits position with
  | nil =>
      cases List.map_eq_nil_iff.mp spelt
      exact ⟨rfl, rfl, List.not_mem_nil⟩
  | cons byte rest induction =>
      obtain ⟨first, others, isDigits, isFirst, areOthers⟩ := List.map_eq_cons_iff.mp spelt
      obtain ⟨second, later, isOthers, isSecond, areLater⟩ := List.map_eq_cons_iff.mp areOthers
      obtain ⟨high, isHigh, upper, noMark⟩ := digit_spec (high_digit_lt byte) isFirst
      obtain ⟨low, isLow, lower, noMarkLow⟩ := digit_spec (low_digit_lt byte) isSecond
      obtain ⟨read, length, unmarked⟩ := induction areLater (position + 2)
      have joined : 16 * (byte.toNat / 16) + byte.toNat % 16 = byte.toNat := Nat.div_add_mod _ _
      rw [isDigits, isOthers]
      simp only [List.flatMap_cons, isHigh, isLow, List.cons_append, List.nil_append]
      refine ⟨?_, ?_, ?_⟩
      · simp only [decodePairs, upper, lower, read, joined, UInt8.ofNat_toNat]
      · simp only [List.length_cons, length]
        omega
      · simp only [List.mem_cons, not_or]
        exact ⟨noMark.symm, noMarkLow.symm, unmarked⟩

theorem decode_marked_of_spells {bytes : Bytes} {text : String}
    (spells : Spells (encode bytes) text) : decodeMarked text = .ok bytes := by
  obtain ⟨marks, digits, isText, spelt⟩ := spells
  rw [encode, String.toList_ofList] at spelt
  obtain ⟨read, length, unmarked⟩ := decode_pairs_digits spelt 0
  rw [decodeMarked, isText, drop_marks_marked, drop_marks_of_no_mark unmarked, decode, utf8Bytes,
    String.toList_ofList, length]
  simp only [Nat.mul_mod_right, Nat.zero_ne_one, if_false]
  exact read

end CensusNode.Hex
