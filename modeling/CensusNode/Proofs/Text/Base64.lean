import CensusNode.Text.Base64

/-!
Base64 text is read back to the bytes it was written for. Groups of three bytes are groups of four
characters on both sides, so the proofs go by the groups. A text that is cut is refused, or stands
for fewer of the bytes: the characters that are left say nothing else.
-/

namespace CensusNode.Base64

theorem symbol_value_symbol {value : Nat} (small : value < 64) :
    symbolValue? (symbol value) = some value := by
  have all : ∀ value : Fin 64, symbolValue? (symbol value.val) = some value.val := by decide
  exact all ⟨value, small⟩

theorem of_nat_eq {number : Nat} {byte : UInt8} (same : number = byte.toNat) :
    UInt8.ofNat number = byte := by
  rw [same, UInt8.ofNat_toNat]

theorem decode_chars_encode_chars (bytes : Bytes) :
    decodeChars? (encodeChars bytes) = some bytes := by
  match bytes with
  | [] => rfl
  | [a] =>
      have bound := a.toNat_lt
      have byte : UInt8.ofNat (a.toNat / 4 * 4 + a.toNat % 4 * 16 / 16) = a :=
        of_nat_eq (by omega)
      simp only [encodeChars, decodeChars?]
      rw [symbol_value_symbol (by omega), symbol_value_symbol (by omega)]
      simp only [bind, Option.bind]
      rw [if_pos (by omega), byte]
  | [a, b] =>
      have aBound := a.toNat_lt
      have bBound := b.toNat_lt
      have first : UInt8.ofNat (a.toNat / 4 * 4 + (a.toNat % 4 * 16 + b.toNat / 16) / 16) = a :=
        of_nat_eq (by omega)
      have second : UInt8.ofNat
          ((a.toNat % 4 * 16 + b.toNat / 16) % 16 * 16 + b.toNat % 16 * 4 / 4) = b :=
        of_nat_eq (by omega)
      simp only [encodeChars, decodeChars?]
      rw [symbol_value_symbol (by omega), symbol_value_symbol (by omega),
        symbol_value_symbol (by omega)]
      simp only [bind, Option.bind]
      rw [if_pos (by omega), first, second]
  | a :: b :: c :: rest =>
      have aBound := a.toNat_lt
      have bBound := b.toNat_lt
      have cBound := c.toNat_lt
      have first : UInt8.ofNat (a.toNat / 4 * 4 + (a.toNat % 4 * 16 + b.toNat / 16) / 16) = a :=
        of_nat_eq (by omega)
      have second : UInt8.ofNat ((a.toNat % 4 * 16 + b.toNat / 16) % 16 * 16 +
          (b.toNat % 16 * 4 + c.toNat / 64) / 4) = b :=
        of_nat_eq (by omega)
      have third : UInt8.ofNat ((b.toNat % 16 * 4 + c.toNat / 64) % 4 * 64 + c.toNat % 64) = c :=
        of_nat_eq (by omega)
      simp only [encodeChars, decodeChars?]
      rw [symbol_value_symbol (by omega), symbol_value_symbol (by omega),
        symbol_value_symbol (by omega), symbol_value_symbol (by omega),
        decode_chars_encode_chars rest]
      simp only [bind, Option.bind]
      rw [first, second, third]

theorem decode_encode (bytes : Bytes) : decode? (encode bytes) = some bytes := by
  rw [decode?, encode, String.toList_ofList, decode_chars_encode_chars]

theorem decode_two_eq_some {first second : Char} {bytes : Bytes}
    (found : decodeChars? [first, second] = some bytes) :
    ∃ p q, symbolValue? first = some p ∧ symbolValue? second = some q ∧
      [UInt8.ofNat (p * 4 + q / 16)] = bytes := by
  simp only [decodeChars?, Option.bind_eq_bind, Option.bind_eq_some_iff,
    Option.ite_none_right_eq_some, Option.some.injEq] at found
  obtain ⟨p, isP, q, isQ, -, same⟩ := found
  exact ⟨p, q, isP, isQ, same⟩

theorem decode_three_eq_some {first second third : Char} {bytes : Bytes}
    (found : decodeChars? [first, second, third] = some bytes) :
    ∃ p q r, symbolValue? first = some p ∧ symbolValue? second = some q ∧
      symbolValue? third = some r ∧
      [UInt8.ofNat (p * 4 + q / 16), UInt8.ofNat (q % 16 * 16 + r / 4)] = bytes := by
  simp only [decodeChars?, Option.bind_eq_bind, Option.bind_eq_some_iff,
    Option.ite_none_right_eq_some, Option.some.injEq] at found
  obtain ⟨p, isP, q, isQ, r, isR, -, same⟩ := found
  exact ⟨p, q, r, isP, isQ, isR, same⟩

theorem decode_four_eq_some {first second third fourth : Char} {rest : List Char} {bytes : Bytes}
    (found : decodeChars? (first :: second :: third :: fourth :: rest) = some bytes) :
    ∃ p q r s later, symbolValue? first = some p ∧ symbolValue? second = some q ∧
      symbolValue? third = some r ∧ symbolValue? fourth = some s ∧
      decodeChars? rest = some later ∧
      UInt8.ofNat (p * 4 + q / 16) :: UInt8.ofNat (q % 16 * 16 + r / 4) ::
        UInt8.ofNat (r % 4 * 64 + s) :: later = bytes := by
  simp only [decodeChars?, Option.bind_eq_bind, Option.bind_eq_some_iff, Option.some.injEq] at found
  obtain ⟨p, isP, q, isQ, r, isR, s, isS, later, isLater, same⟩ := found
  exact ⟨p, q, r, s, later, isP, isQ, isR, isS, isLater, same⟩

theorem ne_nil_of_decode_chars {chars : List Char} {bytes : Bytes} (nonempty : chars ≠ [])
    (found : decodeChars? chars = some bytes) : bytes ≠ [] := by
  match chars with
  | [] => exact absurd rfl nonempty
  | [_] => cases found
  | [_, _] =>
      obtain ⟨p, q, -, -, rfl⟩ := decode_two_eq_some found
      exact List.cons_ne_nil _ _
  | [_, _, _] =>
      obtain ⟨p, q, r, -, -, -, rfl⟩ := decode_three_eq_some found
      exact List.cons_ne_nil _ _
  | _ :: _ :: _ :: _ :: _ =>
      obtain ⟨p, q, r, s, later, -, -, -, -, -, rfl⟩ := decode_four_eq_some found
      exact List.cons_ne_nil _ _

/-- What a readable beginning of a readable text stands for lacks bytes of the whole. The characters
that complete its last group leave the bytes that this group already stands for as they are. -/
theorem decode_chars_cut {front back : List Char} {early bytes : Bytes} (missing : back ≠ [])
    (whole : decodeChars? (front ++ back) = some bytes)
    (found : decodeChars? front = some early) :
    ∃ lost, lost ≠ [] ∧ early ++ lost = bytes := by
  match front with
  | [] =>
      cases found
      exact ⟨bytes, ne_nil_of_decode_chars missing whole, rfl⟩
  | [_] => cases found
  | [first, second] =>
      obtain ⟨p, q, isP, isQ, rfl⟩ := decode_two_eq_some found
      match back with
      | [] => exact absurd rfl missing
      | [third] =>
          obtain ⟨p', q', r, isP', isQ', -, rfl⟩ := decode_three_eq_some whole
          cases isP.symm.trans isP'
          cases isQ.symm.trans isQ'
          exact ⟨_, List.cons_ne_nil _ _, rfl⟩
      | third :: fourth :: more =>
          obtain ⟨p', q', r, s, later, isP', isQ', -, -, -, rfl⟩ := decode_four_eq_some whole
          cases isP.symm.trans isP'
          cases isQ.symm.trans isQ'
          exact ⟨_, List.cons_ne_nil _ _, rfl⟩
  | [first, second, third] =>
      obtain ⟨p, q, r, isP, isQ, isR, rfl⟩ := decode_three_eq_some found
      match back with
      | [] => exact absurd rfl missing
      | fourth :: more =>
          obtain ⟨p', q', r', s, later, isP', isQ', isR', -, -, rfl⟩ := decode_four_eq_some whole
          cases isP.symm.trans isP'
          cases isQ.symm.trans isQ'
          cases isR.symm.trans isR'
          exact ⟨_, List.cons_ne_nil _ _, rfl⟩
  | first :: second :: third :: fourth :: rest =>
      obtain ⟨p, q, r, s, later, isP, isQ, isR, isS, isLater, rfl⟩ := decode_four_eq_some found
      obtain ⟨p', q', r', s', all, isP', isQ', isR', isS', isAll, rfl⟩ := decode_four_eq_some whole
      cases isP.symm.trans isP'
      cases isQ.symm.trans isQ'
      cases isR.symm.trans isR'
      cases isS.symm.trans isS'
      obtain ⟨lost, lacking, same⟩ := decode_chars_cut missing isAll isLater
      refine ⟨lost, lacking, ?_⟩
      simp only [List.cons_append, same]

theorem decode_cut {bytes early : Bytes} {front back : String} (missing : back ≠ "")
    (whole : front ++ back = encode bytes) (found : decode? front = some early) :
    ∃ lost, lost ≠ [] ∧ early ++ lost = bytes := by
  have lacking : back.toList ≠ [] := by
    intro none
    exact missing (String.toList_inj.mp none)
  refine decode_chars_cut lacking ?_ found
  rw [← String.toList_append, whole]
  exact decode_encode bytes

end CensusNode.Base64
