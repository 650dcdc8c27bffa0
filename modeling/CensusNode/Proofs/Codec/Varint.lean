import CensusNode.Codec.Varint
import Mathlib.Algebra.Group.Nat.Defs

/-!
Variable-length numbers are read back. A number that fits into a width is the value of its written
form there, and the reader leaves what follows.
-/

namespace CensusNode.Varint

/-- The number from which on values do not fit into a width. -/
def Width.capacity (width : Width) : Nat := (width.lastLimit + 1) * 128 ^ (width.bytes - 1)

theorem encode_of_lt {number : Nat} (small : number < 128) :
    encode number = [UInt8.ofNat number] := by
  rw [encode, if_pos small]

theorem encode_of_le {number : Nat} (large : 128 ≤ number) :
    encode number = UInt8.ofNat (number % 128 + 128) :: encode (number / 128) := by
  rw [encode, if_neg (by omega)]

theorem to_nat_final_byte {number : Nat} (small : number < 128) :
    (UInt8.ofNat number).toNat = number := by
  rw [UInt8.toNat_ofNat']
  omega

theorem to_nat_continued_byte (number : Nat) :
    (UInt8.ofNat (number % 128 + 128)).toNat = number % 128 + 128 := by
  rw [UInt8.toNat_ofNat']
  omega

/-- A number is read back from its written form where bytes and limit suffice for it. Each byte
but the last takes seven bits off the number and one byte off the allowance. -/
theorem decode_within_encode {lastLimit : Nat} (limited : lastLimit < 128) (rest : Bytes)
    (remaining number : Nat) (fits : number < (lastLimit + 1) * 128 ^ remaining) :
    decodeWithin lastLimit (remaining + 1) (encode number ++ rest) = .ok (number, rest) := by
  induction remaining generalizing number with
  | zero =>
      have small : number < 128 := by omega
      rw [encode_of_lt small]
      simp only [List.cons_append, List.nil_append, decodeWithin, to_nat_final_byte small]
      rw [if_pos small, if_neg (by omega)]
  | succ remaining induction =>
      by_cases small : number < 128
      · rw [encode_of_lt small]
        simp only [List.cons_append, List.nil_append, decodeWithin, to_nat_final_byte small]
        rw [if_pos small, if_neg (by omega)]
      · have smaller : number / 128 < (lastLimit + 1) * 128 ^ remaining := by
          rw [Nat.pow_succ] at fits
          exact Nat.div_lt_of_lt_mul (by rw [Nat.mul_comm 128, Nat.mul_assoc]; exact fits)
        rw [encode_of_le (by omega), List.cons_append, decodeWithin, to_nat_continued_byte,
          if_neg (by omega), induction _ smaller]
        simp only [Except.ok.injEq, Prod.mk.injEq, and_true]
        omega

/-- A width that allows at least one byte, with a last one of seven bits. -/
structure Width.Sound (width : Width) : Prop where
  bytes_pos : 0 < width.bytes
  last_limit_lt : width.lastLimit < 128

theorem decode_encode {width : Width} (sound : width.Sound) {number : Nat}
    (fits : number < width.capacity) (rest : Bytes) :
    decode width (encode number ++ rest) = .ok (number, rest) := by
  have bytes : width.bytes = width.bytes - 1 + 1 := by
    have := sound.bytes_pos
    omega
  rw [decode, bytes]
  exact decode_within_encode sound.last_limit_lt rest (width.bytes - 1) number fits

theorem word16_sound : Width.word16.Sound := ⟨by decide, by decide⟩

theorem word32_sound : Width.word32.Sound := ⟨by decide, by decide⟩

theorem word64_sound : Width.word64.Sound := ⟨by decide, by decide⟩

theorem word16_capacity : Width.word16.capacity = 2 ^ 16 := by decide

theorem word32_capacity : Width.word32.capacity = 2 ^ 32 := by decide

theorem word64_capacity : Width.word64.capacity = 2 ^ 64 := by decide

end CensusNode.Varint
