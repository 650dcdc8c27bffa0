import CensusNode.Proofs.Text.Hex
import Mathlib.Data.List.TakeWhile

/-!
Which texts are hexadecimal. What follows the marks of a text is read as the bytes its digits stand
for when it has an even number of bytes and all of them are digits; otherwise its length counts
first, and then the first byte that is no digit. Characters of several bytes have none that is a
digit, so that bytes and characters tell the same texts apart.
-/

namespace CensusNode.Hex

def numerals : List Char := "0123456789abcdef".toList

def isDigit (char : Char) : Bool := numerals.contains char.toLower

def numeral (char : Char) : Nat := numerals.idxOf char.toLower

def bytesOf : List Char → Bytes
  | high :: low :: rest => UInt8.ofNat (16 * numeral high + numeral low) :: bytesOf rest
  | _ => []

def charOf (byte : UInt8) : Char := Char.ofNat byte.toNat

def isDigitByte (byte : UInt8) : Bool := isDigit (charOf byte)

/-- A check of all bytes, by the numbers below 256. -/
theorem forall_byte (property : UInt8 → Prop)
    (all : ∀ code : Fin 256, property (UInt8.ofNat code.val)) (byte : UInt8) : property byte := by
  have found := all ⟨byte.toNat, byte.toNat_lt⟩
  rwa [UInt8.ofNat_toNat] at found

theorem digit_value_eq (byte : UInt8) :
    digitValue? byte = if isDigitByte byte then some (numeral (charOf byte)) else none :=
  forall_byte (fun byte =>
    digitValue? byte = if isDigitByte byte then some (numeral (charOf byte)) else none)
    (by decide +kernel) byte

theorem digit_value_eq_none {byte : UInt8} (unread : digitValue? byte = none) :
    isDigitByte byte = false := by
  rw [digit_value_eq] at unread
  simpa using unread

theorem digit_value_eq_some {byte : UInt8} {value : Nat} (read : digitValue? byte = some value) :
    isDigitByte byte = true ∧ numeral (charOf byte) = value := by
  rw [digit_value_eq] at read
  simpa using read

theorem digit_byte_lt {byte : UInt8} (digit : isDigitByte byte = true) : byte.toNat < 128 :=
  forall_byte (fun byte => isDigitByte byte = true → byte.toNat < 128)
    (by decide +kernel) byte digit

theorem numeral_lt {char : Char} (isDigit : isDigit char = true) : numeral char < 16 :=
  List.idxOf_lt_length_iff.mpr (List.contains_iff_mem.mp isDigit)

/-- A digit is a single byte, and any other character has a byte that is no digit. -/
theorem digit_of_byte {char : Char} (single : char.val.toNat ≤ 127) :
    ∃ byte, String.utf8EncodeChar char = [byte] ∧ charOf byte = char := by
  have narrow : char.utf8Size = 1 :=
    Char.utf8Size_eq_one_iff.mpr (UInt32.le_iff_toNat_le.mpr single)
  refine ⟨char.val.toUInt8, String.utf8EncodeChar_eq_singleton narrow, ?_⟩
  have same : char.val.toUInt8.toNat = char.toNat := by
    rw [UInt32.toNat_toUInt8]
    exact Nat.mod_eq_of_lt (by omega)
  rw [charOf, same, Char.ofNat_toNat]

theorem byte_of_wide {char : Char} (wide : 127 < char.val.toNat) :
    UInt8.ofNat (char.val.toNat % 64 + 128) ∈ String.utf8EncodeChar char := by
  unfold String.utf8EncodeChar
  extract_lets code
  rw [if_neg (Nat.not_le.mpr wide)]
  split
  · simp [code]
  · split <;> simp [code]

theorem no_digit_of_wide {char : Char} (wide : 127 < char.val.toNat) : isDigit char = false := by
  have notUpper : ¬('A'.val ≤ char.val ∧ char.val ≤ 'Z'.val) := by
    rintro ⟨-, below⟩
    have small : char.val.toNat ≤ 90 := UInt32.le_iff_toNat_le.mp below
    omega
  have kept : char.toLower = char := by
    unfold Char.toLower
    exact dif_neg notUpper
  have all : (numerals.all fun numeral => decide (numeral.val.toNat ≤ 127)) = true := by decide
  rw [isDigit, kept, ← Bool.not_eq_true, List.contains_iff_mem]
  intro member
  have small := of_decide_eq_true (List.all_eq_true.mp all char member)
  omega

/-- A character is a digit when all of its bytes are digits. -/
theorem all_digit_bytes (char : Char) :
    (String.utf8EncodeChar char).all isDigitByte = isDigit char := by
  rcases Nat.lt_or_ge 127 char.val.toNat with wide | narrow
  · rw [no_digit_of_wide wide, ← Bool.not_eq_true, List.all_eq_true]
    intro all
    have small := digit_byte_lt (all _ (byte_of_wide wide))
    rw [UInt8.toNat_ofNat'] at small
    omega
  · obtain ⟨byte, isByte, same⟩ := digit_of_byte narrow
    rw [isByte, List.all_cons, List.all_nil, Bool.and_true, isDigitByte, same]

theorem all_digits_utf8 (chars : List Char) :
    (chars.flatMap String.utf8EncodeChar).all isDigitByte = chars.all isDigit := by
  rw [List.all_flatMap]
  congr 1
  funext char
  exact all_digit_bytes char

theorem bytes_of_digits {chars : List Char} (digits : chars.all isDigit = true) :
    (chars.flatMap String.utf8EncodeChar).map charOf = chars := by
  induction chars with
  | nil => rfl
  | cons char rest induction =>
      rw [List.all_cons, Bool.and_eq_true] at digits
      have narrow : char.val.toNat ≤ 127 := by
        rw [← Nat.not_lt]
        intro wide
        rw [no_digit_of_wide wide] at digits
        exact Bool.false_ne_true digits.1
      obtain ⟨byte, isByte, same⟩ := digit_of_byte narrow
      rw [List.flatMap_cons, isByte, List.singleton_append, List.map_cons, same,
        induction digits.2]

/-- An even number of bytes is read as pairs of digits, or the first one that is no digit is
named. -/
theorem decode_pairs_eq {bytes : Bytes} (even : bytes.length % 2 = 0) (position : Nat) :
    decodePairs position bytes =
      match bytes.dropWhile isDigitByte with
      | [] => .ok (bytesOf (bytes.map charOf))
      | bad :: _ =>
          .error (.badDigit bad (position + (bytes.takeWhile isDigitByte).length)) := by
  fun_induction decodePairs position bytes with
  | case1 position high low rest unread =>
      simp only [List.dropWhile_cons, List.takeWhile_cons, digit_value_eq_none unread,
        Bool.false_eq_true, if_false, List.length_nil, Nat.add_zero]
  | case2 position high low rest upper unread read =>
      simp only [List.dropWhile_cons, List.takeWhile_cons, (digit_value_eq_some read).1,
        digit_value_eq_none unread, Bool.false_eq_true, if_true, if_false, List.length_cons,
        List.length_nil, Nat.zero_add]
  | case3 position high low rest upper lower readLow read bytes isRest induction =>
      obtain ⟨isHigh, isUpper⟩ := digit_value_eq_some read
      obtain ⟨isLow, isLower⟩ := digit_value_eq_some readLow
      have others := induction (by simp only [List.length_cons] at even; omega)
      rw [isRest] at others
      simp only [List.dropWhile_cons, isHigh, isLow, if_true]
      cases left : rest.dropWhile isDigitByte with
      | nil =>
          rw [left] at others
          rw [Except.ok.inj others, ← isUpper, ← isLower]
          rfl
      | cons bad back =>
          rw [left] at others
          cases others
  | case4 position high low rest upper lower readLow read fault isRest induction =>
      have isHigh := (digit_value_eq_some read).1
      have isLow := (digit_value_eq_some readLow).1
      have others := induction (by simp only [List.length_cons] at even; omega)
      rw [isRest] at others
      simp only [List.dropWhile_cons, List.takeWhile_cons, isHigh, isLow, if_true]
      cases left : rest.dropWhile isDigitByte with
      | nil =>
          rw [left] at others
          cases others
      | cons bad back =>
          rw [left] at others
          simp only at others
          rw [others, List.length_cons, List.length_cons, Nat.add_right_comm position 2]
          rfl
  | case5 bytes position short =>
      rcases bytes with _ | ⟨high, _ | ⟨low, rest⟩⟩
      · rfl
      · cases even
      · exact absurd rfl (short high low rest)

theorem digit_numeral {char : Char} (isDigit : isDigit char = true) :
    digit (numeral char) = char.toLower := by
  have all : ∀ value : Fin numerals.length, digit value.val = numerals[value.val] := by decide
  have below : numerals.idxOf char.toLower < numerals.length :=
    List.idxOf_lt_length_iff.mpr (List.contains_iff_mem.mp isDigit)
  exact (all ⟨_, below⟩).trans (List.getElem_idxOf below)

theorem written_bytes_of {chars : List Char} (digits : chars.all isDigit = true)
    (even : chars.length % 2 = 0) :
    (bytesOf chars).flatMap byteDigits = chars.map Char.toLower := by
  fun_induction bytesOf chars with
  | case1 high low rest induction =>
      simp only [List.all_cons, Bool.and_eq_true] at digits
      obtain ⟨isHigh, isLow, others⟩ := digits
      have upper := numeral_lt isHigh
      have lower := numeral_lt isLow
      have byte : (UInt8.ofNat (16 * numeral high + numeral low)).toNat =
          16 * numeral high + numeral low := by
        rw [UInt8.toNat_ofNat']
        omega
      have quotient : (16 * numeral high + numeral low) / 16 = numeral high := by omega
      have remainder : (16 * numeral high + numeral low) % 16 = numeral low := by omega
      simp only [List.length_cons] at even
      rw [List.flatMap_cons, byteDigits, byte, quotient, remainder, digit_numeral isHigh,
        digit_numeral isLow, induction others (by omega)]
      rfl
  | case2 chars short =>
      rcases chars with _ | ⟨high, _ | ⟨low, rest⟩⟩
      · rfl
      · cases even
      · exact absurd rfl (short high low rest)

theorem bytes_of_length {chars : List Char} : (bytesOf chars).length = chars.length / 2 := by
  fun_induction bytesOf chars with
  | case1 high low rest induction =>
      simp only [List.length_cons, induction]
      omega
  | case2 chars short =>
      rcases chars with _ | ⟨high, _ | ⟨low, rest⟩⟩
      · rfl
      · simp
      · exact absurd rfl (short high low rest)

/-- A text is a number of marks and a rest that does not start with one. -/
structure Marked (text : String) (rest : List Char) : Prop where
  marks : ∃ count, text.toList = (List.replicate count ['0', 'x']).flatten ++ rest
  unmarked : ¬['0', 'x'] <+: rest

theorem drop_marks_of_unmarked {chars : List Char} (unmarked : ¬['0', 'x'] <+: chars) :
    dropMarks chars = chars := by
  fun_cases dropMarks chars with
  | case1 rest => exact absurd (List.prefix_append ['0', 'x'] rest) unmarked
  | case2 => rfl

theorem unmarked_of_digits {chars : List Char} (digits : ∀ char ∈ chars, isDigit char = true) :
    ¬['0', 'x'] <+: chars := by
  intro starts
  have mark : isDigit 'x' = true := digits 'x' (starts.subset (by simp))
  revert mark
  decide

theorem marked_drop_marks (text : String) : Marked text (dropMarks text.toList) := by
  generalize isText : text.toList = chars
  constructor
  · rw [isText]
    clear isText
    fun_induction dropMarks chars with
    | case1 rest induction =>
        obtain ⟨count, same⟩ := induction
        refine ⟨count + 1, ?_⟩
        rw [List.replicate_succ, List.flatten_cons, List.append_assoc, ← same]
        rfl
    | case2 chars => exact ⟨0, rfl⟩
  · clear isText
    fun_induction dropMarks chars with
    | case1 rest induction => exact induction
    | case2 chars different =>
        rintro ⟨rest, same⟩
        exact different rest same.symm

theorem Marked.rest_eq {text : String} {rest : List Char} (marked : Marked text rest) :
    dropMarks text.toList = rest := by
  obtain ⟨⟨count, isText⟩, unmarked⟩ := marked
  rw [isText, drop_marks_marked, drop_marks_of_unmarked unmarked]

theorem utf8_bytes_of_list (chars : List Char) :
    utf8Bytes (String.ofList chars) = chars.flatMap String.utf8EncodeChar := by
  rw [utf8Bytes, String.toList_ofList]

theorem drop_digits_eq_nil_iff (chars : List Char) :
    (utf8Bytes (String.ofList chars)).dropWhile isDigitByte = [] ↔ chars.all isDigit = true := by
  rw [utf8_bytes_of_list, List.dropWhile_eq_nil_iff, ← all_digits_utf8, List.all_eq_true]

theorem bad_of_drop_digits {bytes back : Bytes} {bad : UInt8}
    (left : bytes.dropWhile isDigitByte = bad :: back) :
    bad ∈ bytes ∧ isDigitByte bad = false := by
  have some_left : bytes.dropWhile isDigitByte ≠ [] := by
    rw [left]
    exact List.cons_ne_nil bad back
  have isBad := List.head_dropWhile_not isDigitByte some_left
  simp only [left, List.head_cons] at isBad
  refine ⟨(List.dropWhile_sublist isDigitByte).mem ?_, isBad⟩
  rw [left]
  exact List.mem_cons_self

/-- What follows the marks is read as digits, or refused for its length or for its first byte that
is no digit. -/
theorem Marked.decode_eq {text : String} {rest : List Char} (marked : Marked text rest) :
    decodeMarked text =
      if (utf8Bytes (String.ofList rest)).length % 2 = 1 then .error .oddLength
      else
        match (utf8Bytes (String.ofList rest)).dropWhile isDigitByte with
        | [] => .ok (bytesOf rest)
        | bad :: _ => .error (.badDigit bad
            ((utf8Bytes (String.ofList rest)).takeWhile isDigitByte).length) := by
  rw [decodeMarked, marked.rest_eq, decode]
  split
  · rfl
  · rename_i even
    rw [decode_pairs_eq (by omega)]
    split
    · rename_i left
      have digits := (drop_digits_eq_nil_iff rest).mp left
      rw [utf8_bytes_of_list, bytes_of_digits digits]
    · rw [Nat.zero_add]

end CensusNode.Hex
