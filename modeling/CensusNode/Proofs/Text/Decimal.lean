import CensusNode.Proofs.Text.Utf8Bytes
import CensusNode.Text.Decimal
import Mathlib.Algebra.Group.Nat.Defs
import Mathlib.Data.List.Induction

/-!
Decimal digits and their value. The digits of a number, filled up with zeros or not, are ASCII
digits, and reading them onto a number already read shifts that number and adds theirs. The texts
that are read as a number are its digits, filled up with zeros, with or without a plus sign.
-/

namespace CensusNode.Decimal

def isDigit (char : Char) : Bool := (digitValue? char).isSome

def onto (number : Nat) (chars : List Char) : Nat :=
  chars.foldl (fun number char => 10 * number + (digitValue? char).getD 0) number

theorem digit_value_digit {value : Nat} (small : value < 10) :
    digitValue? (digit value) = some value := by
  have all : ∀ value : Fin 10, digitValue? (digit value.val) = some value.val := by decide
  exact all ⟨value, small⟩

theorem is_digit_digit {value : Nat} (small : value < 10) : isDigit (digit value) = true := by
  rw [isDigit, digit_value_digit small]
  rfl

theorem digits_of_lt {number : Nat} (small : number < 10) : digits number = [digit number] := by
  rw [digits, if_pos small]

theorem digits_of_le {number : Nat} (large : 10 ≤ number) :
    digits number = digits (number / 10) ++ [digit (number % 10)] := by
  rw [digits, if_neg (by omega)]

theorem is_digit_of_mem_digits {number : Nat} {char : Char} (member : char ∈ digits number) :
    isDigit char = true := by
  induction number using Nat.strongRecOn with
  | ind number induction =>
      by_cases small : number < 10
      · rw [digits_of_lt small, List.mem_singleton] at member
        rw [member, is_digit_digit small]
      · rw [digits_of_le (by omega), List.mem_append, List.mem_singleton] at member
        rcases member with earlier | last
        · exact induction (number / 10) (by omega) earlier
        · rw [last, is_digit_digit (by omega)]

theorem digits_length_pos (number : Nat) : 0 < (digits number).length := by
  by_cases small : number < 10
  · simp [digits_of_lt small]
  · simp [digits_of_le (Nat.le_of_not_lt small)]

theorem onto_append (number : Nat) (first second : List Char) :
    onto number (first ++ second) = onto (onto number first) second := by
  rw [onto, List.foldl_append]
  rfl

theorem onto_digit (number : Nat) {value : Nat} (small : value < 10) :
    onto number [digit value] = 10 * number + value := by
  simp [onto, digit_value_digit small]

theorem onto_digits (number value : Nat) :
    onto number (digits value) = number * 10 ^ (digits value).length + value := by
  induction value using Nat.strongRecOn with
  | ind value induction =>
      by_cases small : value < 10
      · rw [digits_of_lt small, onto_digit number small, List.length_singleton]
        omega
      · have here := induction (value / 10) (by omega)
        rw [digits_of_le (by omega), onto_append, here, onto_digit _ (by omega), List.length_append,
          List.length_singleton, Nat.pow_succ, ← Nat.mul_assoc]
        omega

theorem onto_zeros (number count : Nat) :
    onto number (List.replicate count '0') = number * 10 ^ count := by
  induction count generalizing number with
  | zero => simp [onto]
  | succ count induction =>
      have step : onto number (List.replicate (count + 1) '0') =
          onto (10 * number) (List.replicate count '0') := rfl
      rw [step, induction, Nat.pow_succ, Nat.mul_comm 10, Nat.mul_assoc, Nat.mul_comm 10]

theorem digits_length_le {width number : Nat} (positive : 0 < width)
    (fits : number < 10 ^ width) : (digits number).length ≤ width := by
  induction width generalizing number with
  | zero => omega
  | succ width induction =>
      by_cases small : number < 10
      · rw [digits_of_lt small, List.length_singleton]
        omega
      · have smaller : number / 10 < 10 ^ width := by
          rw [Nat.pow_succ] at fits
          omega
        have some_left : 0 < width := by
          apply Nat.pos_of_ne_zero
          intro none_left
          rw [none_left] at smaller
          omega
        have shorter := induction some_left smaller
        rw [digits_of_le (by omega), List.length_append, List.length_singleton]
        omega

theorem padded_length {width number : Nat} (positive : 0 < width) (fits : number < 10 ^ width) :
    (padded width number).length = width := by
  have short := digits_length_le positive fits
  rw [padded, List.length_append, List.length_replicate]
  omega

theorem padded_length_le {width limit number : Nat} (wide : width ≤ limit) (positive : 0 < limit)
    (fits : number < 10 ^ limit) : (padded width number).length ≤ limit := by
  have short := digits_length_le positive fits
  rw [padded, List.length_append, List.length_replicate]
  omega

theorem is_digit_of_mem_padded {width number : Nat} {char : Char}
    (member : char ∈ padded width number) : isDigit char = true := by
  rw [padded, List.mem_append] at member
  rcases member with zero | digit
  · rw [List.eq_of_mem_replicate zero]
    rfl
  · exact is_digit_of_mem_digits digit

theorem onto_padded (number width value : Nat) :
    onto number (padded width value) = number * 10 ^ (padded width value).length + value := by
  rw [padded, onto_append, onto_zeros, onto_digits, List.length_append, List.length_replicate,
    Nat.pow_add, Nat.mul_assoc]

theorem padded_length_pos (width number : Nat) : 0 < (padded width number).length := by
  have some_digit := digits_length_pos number
  rw [padded, List.length_append]
  omega

theorem le_onto (number : Nat) (chars : List Char) : number ≤ onto number chars := by
  induction chars generalizing number with
  | nil => exact Nat.le_refl number
  | cons char rest induction =>
      exact Nat.le_trans (by omega) (induction (10 * number + (digitValue? char).getD 0))

theorem decode_digits_onto {limit : Nat} (chars : List Char)
    (allDigits : ∀ char ∈ chars, isDigit char = true) (number : Nat)
    (within : onto number chars ≤ limit) :
    decodeDigits limit number chars = .ok (onto number chars) := by
  induction chars generalizing number with
  | nil => rfl
  | cons char rest induction =>
      obtain ⟨value, isValue⟩ := Option.isSome_iff_exists.mp (allDigits char List.mem_cons_self)
      have step : onto number (char :: rest) = onto (10 * number + value) rest := by
        simp [onto, isValue]
      have small := le_onto (10 * number + value) rest
      rw [step] at within ⊢
      simp only [decodeDigits, isValue]
      rw [if_neg (by omega)]
      exact induction (fun other member => allDigits other (List.mem_cons_of_mem _ member)) _ within

theorem eq_digit_of_value {char : Char} {value : Nat} (isValue : digitValue? char = some value) :
    value < 10 ∧ char = digit value := by
  rw [digitValue?, Option.ite_none_right_eq_some] at isValue
  obtain ⟨range, offset⟩ := isValue
  have number : 48 + value = char.toNat := by
    rw [← Option.some.inj offset]
    omega
  refine ⟨by omega, ?_⟩
  rw [digit, number, Char.ofNat_toNat]

/-- What is read is the value of digits, and is within the limit if anything was read at all. -/
theorem of_decode_digits {limit result : Nat} {chars : List Char} (number : Nat)
    (read : decodeDigits limit number chars = .ok result) :
    (∀ char ∈ chars, isDigit char = true) ∧ onto number chars = result ∧
      (chars ≠ [] → result ≤ limit) := by
  induction chars generalizing number with
  | nil =>
      rw [decodeDigits] at read
      exact ⟨by simp, Except.ok.inj read, fun some_left => absurd rfl some_left⟩
  | cons char rest induction =>
      rw [decodeDigits] at read
      cases isValue : digitValue? char with
      | none =>
          rw [isValue] at read
          cases read
      | some value =>
          simp only [isValue] at read
          by_cases above : limit < 10 * number + value
          · rw [if_pos above] at read
            cases read
          · rw [if_neg above] at read
            obtain ⟨allDigits, isResult, within⟩ := induction _ read
            have step : onto number (char :: rest) = onto (10 * number + value) rest := by
              simp [onto, isValue]
            refine ⟨?_, step.trans isResult, fun _ => ?_⟩
            · rw [List.forall_mem_cons]
              exact ⟨Option.isSome_iff_exists.mpr ⟨value, isValue⟩, allDigits⟩
            · by_cases last : rest = []
              · rw [last] at isResult
                rw [← isResult]
                exact Nat.le_of_not_lt above
              · exact within last

theorem zeros_digits_eq_padded (zeros number : Nat) :
    List.replicate zeros '0' ++ digits number = padded (zeros + (digits number).length) number := by
  rw [padded, Nat.add_sub_cancel]

/-- Digits are those of their value, filled up with zeros. The induction takes the last digit off:
the digits before it have a value of zero, and are zeros, or are the leading ones of the number. -/
theorem exists_eq_padded {chars : List Char} (some_digit : chars ≠ [])
    (allDigits : ∀ char ∈ chars, isDigit char = true) :
    ∃ width, chars = padded width (onto 0 chars) := by
  suffices zeros : ∃ zeros, chars = List.replicate zeros '0' ++ digits (onto 0 chars) by
    obtain ⟨zeros, split⟩ := zeros
    exact ⟨_, split.trans (zeros_digits_eq_padded zeros _)⟩
  induction chars using List.reverseRecOn with
  | nil => exact absurd rfl some_digit
  | append_singleton front last induction =>
      have isLast := allDigits last (List.mem_append_right _ (List.mem_singleton_self last))
      obtain ⟨value, isValue⟩ := Option.isSome_iff_exists.mp isLast
      obtain ⟨small, rfl⟩ := eq_digit_of_value isValue
      rw [onto_append, onto_digit _ small]
      by_cases none_before : front = []
      · refine ⟨0, ?_⟩
        rw [none_before, onto, List.foldl_nil, Nat.mul_zero, Nat.zero_add, digits_of_lt small]
        rfl
      · obtain ⟨zeros, before⟩ := induction none_before
          fun char member => allDigits char (List.mem_append_left _ member)
        generalize onto 0 front = number at before ⊢
        rw [before]
        by_cases zero : number = 0
        · refine ⟨zeros + 1, ?_⟩
          rw [zero, Nat.mul_zero, Nat.zero_add, digits_of_lt small, digits_of_lt (by decide),
            List.replicate_succ']
          rfl
        · refine ⟨zeros, ?_⟩
          have leading : (10 * number + value) / 10 = number := by omega
          have final : (10 * number + value) % 10 = value := by omega
          rw [@digits_of_le (10 * number + value) (by omega), leading, final, List.append_assoc]

theorem eq_zero_of_head_digits {number : Nat} (leading : (digits number).head? = some '0') :
    number = 0 := by
  induction number using Nat.strongRecOn with
  | ind number induction =>
      by_cases small : number < 10
      · rw [digits_of_lt small, List.head?_cons, Option.some.injEq] at leading
        have value := digit_value_digit small
        rw [leading] at value
        exact (Option.some.inj value).symm
      · have some_digit := List.ne_nil_of_length_pos (digits_length_pos (number / 10))
        rw [digits_of_le (by omega), List.head?_append,
          List.head?_eq_some_head some_digit, Option.some_or,
          ← List.head?_eq_some_head some_digit] at leading
        have above := induction (number / 10) (by omega) leading
        omega

theorem decode_digits_eq_ok_iff {limit number : Nat} {chars : List Char} (some_char : chars ≠ []) :
    decodeDigits limit 0 chars = .ok number ↔
      number ≤ limit ∧ ∃ width, chars = padded width number := by
  constructor
  · intro read
    obtain ⟨allDigits, isNumber, within⟩ := of_decode_digits 0 read
    obtain ⟨width, split⟩ := exists_eq_padded some_char allDigits
    rw [isNumber] at split
    exact ⟨within some_char, width, split⟩
  · rintro ⟨within, width, rfl⟩
    have value : onto 0 (padded width number) = number := by
      rw [onto_padded, Nat.zero_mul, Nat.zero_add]
    rw [decode_digits_onto _ (fun _ => is_digit_of_mem_padded) 0 (by rwa [value]), value]

theorem decode_of_unsigned {limit : Nat} {text : String} (some_char : text.toList ≠ [])
    (unsigned : text.toList.head? ≠ some '+') :
    decode limit text = decodeDigits limit 0 text.toList := by
  rw [decode]
  split
  · contradiction
  · simp_all
  · simp_all
  · rfl

theorem decode_of_signed {limit : Nat} {text : String} {rest : List Char}
    (signed : text.toList = '+' :: rest) (some_char : rest ≠ []) :
    decode limit text = decodeDigits limit 0 rest := by
  rw [decode, signed]
  split <;> simp_all

/-- The texts of a number are its digits, filled up with zeros, after a plus sign or none. -/
theorem decode_eq_ok_iff {limit number : Nat} {text : String} :
    decode limit text = .ok number ↔ number ≤ limit ∧ ∃ sign width, (sign = [] ∨ sign = ['+']) ∧
      text.toList = sign ++ padded width number := by
  constructor
  · intro read
    by_cases none_left : text.toList = []
    · rw [decode, none_left] at read
      cases read
    · by_cases signed : text.toList.head? = some '+'
      · obtain ⟨rest, chars⟩ := List.head?_eq_some_iff.mp signed
        by_cases alone : rest = []
        · rw [decode, chars, alone] at read
          cases read
        · rw [decode_of_signed chars alone, decode_digits_eq_ok_iff alone] at read
          obtain ⟨within, width, split⟩ := read
          exact ⟨within, ['+'], width, Or.inr rfl, by rw [chars, split, List.singleton_append]⟩
      · rw [decode_of_unsigned none_left signed, decode_digits_eq_ok_iff none_left] at read
        obtain ⟨within, width, split⟩ := read
        exact ⟨within, [], width, Or.inl rfl, split⟩
  · rintro ⟨within, sign, width, isSign, chars⟩
    have some_digit := List.ne_nil_of_length_pos (padded_length_pos width number)
    have read := (decode_digits_eq_ok_iff some_digit).mpr ⟨within, width, rfl⟩
    rcases isSign with unsigned | signed
    · rw [unsigned, List.nil_append] at chars
      rw [decode_of_unsigned, chars, read]
      · rwa [chars]
      · rw [chars]
        intro isPlus
        have isDigit := is_digit_of_mem_padded (List.mem_of_mem_head? (Option.mem_def.mpr isPlus))
        exact absurd isDigit (by decide)
    · rw [signed, List.singleton_append] at chars
      rw [decode_of_signed chars some_digit, read]

theorem decode_encode {limit number : Nat} (within : number ≤ limit) :
    decode limit (encode number) = .ok number := by
  have plain : (encode number).toList = [] ++ padded 0 number := by
    rw [encode, String.toList_ofList, padded, Nat.zero_sub, List.replicate_zero]
    rfl
  exact decode_eq_ok_iff.mpr ⟨within, [], 0, Or.inl rfl, plain⟩

theorem encode_injective {number other : Nat} (same : encode number = encode other) :
    number = other := by
  have first := decode_encode (Nat.le_max_left number other)
  have second := decode_encode (Nat.le_max_right number other)
  rw [same, second] at first
  exact (Except.ok.inj first).symm

theorem encode_size_le (number : Nat) (fits : number < 2 ^ 64) :
    (encode number).utf8ByteSize ≤ 80 := by
  have short : (digits number).length ≤ 20 := digits_length_le (by decide) (by omega)
  have bytes := utf8_byte_size_of_list_le (digits number)
  rw [encode]
  omega

end CensusNode.Decimal
