import CensusNode.Proofs.Text.Decimal
import CensusNode.Proofs.Text.Utf8Bytes
import CensusNode.Proofs.Time.Calendar
import CensusNode.Time.Timestamp

/-!
The text of an instant stands for that instant. Each component is read back from its written form
in front of what follows it, and the components of an instant resolve to the instant.
-/

namespace CensusNode.Timestamp

open Decimal (isDigit onto padded)

def EndsNumber (rest : List Char) : Prop := ∀ char ∈ rest.head?, isDigit char = false

theorem ends_number_cons {char : Char} (rest : List Char) (foreign : isDigit char = false) :
    EndsNumber (char :: rest) := by
  intro first isFirst
  rw [List.head?_cons, Option.mem_some] at isFirst
  rwa [← isFirst]

theorem digit_value_eq_none {char : Char} (foreign : isDigit char = false) :
    Decimal.digitValue? char = none := by
  rwa [isDigit, Option.isSome_eq_false_iff, Option.isNone_iff_eq_none] at foreign

theorem digits_onto_stop (width number : Nat) {rest : List Char} (ends : EndsNumber rest) :
    digitsOnto width number rest = (number, rest) := by
  cases width with
  | zero => rfl
  | succ width =>
      cases rest with
      | nil => rfl
      | cons char rest =>
          have foreign : isDigit char = false := ends char rfl
          simp only [digitsOnto, digit_value_eq_none foreign]

theorem digits_onto_append (extra : Nat) (rest chars : List Char)
    (allDigits : ∀ char ∈ chars, isDigit char = true) (number : Nat) :
    digitsOnto (chars.length + extra) number (chars ++ rest) =
      digitsOnto extra (onto number chars) rest := by
  induction chars generalizing number with
  | nil => rw [List.length_nil, Nat.zero_add]; rfl
  | cons char chars induction =>
      obtain ⟨value, isValue⟩ := Option.isSome_iff_exists.mp (allDigits char List.mem_cons_self)
      have step : onto number (char :: chars) = onto (10 * number + value) chars := by
        simp [onto, isValue]
      have shift : (char :: chars).length + extra = chars.length + extra + 1 := by
        rw [List.length_cons]
        omega
      rw [step, shift, List.cons_append, digitsOnto, isValue]
      exact induction (fun other member => allDigits other (List.mem_cons_of_mem _ member)) _

/-- Digits are read up to what ends the number, or as far as the width goes. -/
theorem digits_append {width : Nat} {chars rest : List Char} (nonempty : 0 < chars.length)
    (allDigits : ∀ char ∈ chars, isDigit char = true) (fits : chars.length ≤ width)
    (ends : chars.length = width ∨ EndsNumber rest) :
    digits width (chars ++ rest) = .ok (onto 0 chars, rest) := by
  match chars with
  | [] => simp at nonempty
  | char :: chars =>
      obtain ⟨value, isValue⟩ := Option.isSome_iff_exists.mp (allDigits char List.mem_cons_self)
      rw [List.length_cons] at fits ends
      have width_eq : width - 1 = chars.length + (width - 1 - chars.length) := by omega
      have step : onto 0 (char :: chars) = onto value chars := by simp [onto, isValue]
      have stop : digitsOnto (width - 1 - chars.length) (onto value chars) rest =
          (onto value chars, rest) := by
        rcases ends with exact_width | ends
        · have nothing : width - 1 - chars.length = 0 := by omega
          rw [nothing]
          rfl
        · exact digits_onto_stop _ _ ends
      rw [List.cons_append, digits, isValue]
      simp only
      rw [width_eq, digits_onto_append _ _ _
        (fun other member => allDigits other (List.mem_cons_of_mem _ member)), stop, step]

theorem digits_padded {width limit number : Nat} (rest : List Char)
    (fits : (padded width number).length ≤ limit)
    (ends : (padded width number).length = limit ∨ EndsNumber rest) :
    digits limit (padded width number ++ rest) = .ok (number, rest) := by
  have value : onto 0 (padded width number) = number := by
    rw [Decimal.onto_padded, Nat.zero_mul, Nat.zero_add]
  rw [digits_append (Decimal.padded_length_pos width number)
    (fun _ => Decimal.is_digit_of_mem_padded) fits ends, value]

theorem not_blank_of_is_digit {char : Char} (digit : isDigit char = true) :
    Text.isBlank char = false := by
  unfold isDigit Decimal.digitValue? at digit
  split at digit
  · simp only [Text.isBlank, Bool.or_eq_false_iff, Bool.and_eq_false_iff, decide_eq_false_iff_not,
      beq_eq_false_iff_ne]
    omega
  · simp at digit

theorem skip_blanks_cons {char : Char} (rest : List Char) (visible : Text.isBlank char = false) :
    skipBlanks (char :: rest) = char :: rest := by
  rw [skipBlanks, List.dropWhile_cons_of_neg (by rw [visible]; decide)]

theorem padded_eq_cons (width number : Nat) :
    ∃ char chars, padded width number = char :: chars ∧ isDigit char = true := by
  obtain ⟨char, chars, starts⟩ :=
    List.exists_cons_of_length_pos (Decimal.padded_length_pos width number)
  have member : char ∈ padded width number := by
    rw [starts]
    exact List.mem_cons_self
  exact ⟨char, chars, starts, Decimal.is_digit_of_mem_padded member⟩

theorem skip_blanks_padded (width number : Nat) (rest : List Char) :
    skipBlanks (padded width number ++ rest) = padded width number ++ rest := by
  obtain ⟨char, chars, starts, digit⟩ := padded_eq_cons width number
  rw [starts]
  exact skip_blanks_cons _ (not_blank_of_is_digit digit)

theorem two_digits_padded {low high number : Nat} (rest : List Char) (least : low ≤ number)
    (greatest : number ≤ high) (small : number < 100) :
    twoDigits low high (padded 2 number ++ rest) = .ok (number, rest) := by
  have length : (padded 2 number).length = 2 := Decimal.padded_length (by decide) small
  rw [twoDigits, skip_blanks_padded, digits_padded rest (by omega) (Or.inl length)]
  simp only [bind, Except.bind]
  rw [if_pos ⟨least, greatest⟩]

theorem literal_cons (expected : Char) (rest : List Char) :
    literal expected (expected :: rest) = .ok ((), rest) := by
  rw [literal, if_pos rfl]

/-- A year is read back, whichever of its three forms it takes. -/
theorem year_number_year_chars {year : Int} (least : -2147483648 ≤ year)
    (greatest : year ≤ 2147483647) {rest : List Char} (ends : EndsNumber rest) :
    yearNumber (yearChars year ++ rest) = .ok (year, rest) := by
  have signed (number : Nat) : digits (padded 4 number ++ rest).length (padded 4 number ++ rest) =
      .ok (number, rest) :=
    digits_padded rest (by rw [List.length_append]; omega) (Or.inr ends)
  unfold yearChars
  split
  · have length : (padded 4 year.toNat).length = 4 :=
      Decimal.padded_length (by decide) (by omega)
    have unsigned : digits 4 (padded 4 year.toNat ++ rest) = .ok (year.toNat, rest) :=
      digits_padded rest (by omega) (Or.inl length)
    have value : (year.toNat : Int) = year := by omega
    obtain ⟨char, chars, starts, digit⟩ := padded_eq_cons 4 year.toNat
    rw [yearNumber, skip_blanks_padded]
    rw [starts, List.cons_append] at unsigned ⊢
    simp only
    split
    · rename_i minus
      rw [List.cons.injEq] at minus
      rw [minus.1] at digit
      exact absurd digit (by decide)
    · rename_i plus
      rw [List.cons.injEq] at plus
      rw [plus.1] at digit
      exact absurd digit (by decide)
    · rw [unsigned]
      simp only [bind, Except.bind]
      rw [if_pos (by omega), value]
  · split
    · have value : -((-year).toNat : Int) = year := by omega
      rw [yearNumber, List.cons_append, skip_blanks_cons _ (by decide)]
      simp only [signed, bind, Except.bind]
      rw [if_pos (by omega), value]
    · have value : (year.toNat : Int) = year := by omega
      rw [yearNumber, List.cons_append, skip_blanks_cons _ (by decide)]
      simp only [signed, bind, Except.bind]
      rw [if_pos (by omega), value]

theorem ends_number_zone : EndsNumber ['Z'] := ends_number_cons [] (by decide)

theorem drop_while_zone :
    ['Z'].dropWhile (fun char => (Decimal.digitValue? char).isSome) = ['Z'] := by decide

theorem fraction_padded {width number : Nat} (positive : 0 < width) (short : width ≤ 9)
    (fits : number < 10 ^ width) :
    fraction ('.' :: padded width number ++ ['Z']) = .ok (number * 10 ^ (9 - width), ['Z']) := by
  have length : (padded width number).length = width := Decimal.padded_length positive fits
  have read : digits 9 (padded width number ++ ['Z']) = .ok (number, ['Z']) :=
    digits_padded ['Z'] (by omega) (Or.inr ends_number_zone)
  have used : (padded width number ++ ['Z']).length - ['Z'].length = width := by
    rw [List.length_append, length, Nat.add_sub_cancel]
  rw [List.cons_append, fraction, read]
  simp only [bind, Except.bind]
  rw [used, drop_while_zone]
  rfl

theorem fraction_fraction_chars {nanos : Nat} (fits : nanos < 1000000000) :
    fraction (fractionChars nanos ++ ['Z']) = .ok (nanos, ['Z']) := by
  unfold fractionChars
  split
  · have zero : nanos = 0 := by assumption
    rw [zero]
    rfl
  · split
    · rw [fraction_padded (by decide) (by decide) (by omega)]
      simp only [Except.ok.injEq, Prod.mk.injEq, and_true]
      omega
    · split
      · rw [fraction_padded (by decide) (by decide) (by omega)]
        simp only [Except.ok.injEq, Prod.mk.injEq, and_true]
        omega
      · rw [fraction_padded (by decide) (by decide) (by omega)]
        simp only [Except.ok.injEq, Prod.mk.injEq, and_true]
        omega

theorem offset_zone : offset (skipBlanks ['Z']) = .ok (0, []) := rfl

theorem year_bounds (instant : Instant) :
    -262143 ≤ (Calendar.Date.ofDayNumber (instant.seconds / 86400)).year ∧
      (Calendar.Date.ofDayNumber (instant.seconds / 86400)).year ≤ 262142 := by
  have earliest := instant.earliest_le
  have latest := instant.le_latest
  exact Calendar.Date.of_day_number_year_bounds (by omega) (by omega)

theorem resolve_instant (instant : Instant) {daySeconds : Nat}
    (sameTime : (daySeconds : Int) = instant.seconds % 86400) :
    resolve (Calendar.Date.ofDayNumber (instant.seconds / 86400)) daySeconds instant.nanos 0 =
      .ok instant := by
  have years := year_bounds instant
  have seconds : instant.seconds / 86400 * 86400 + (daySeconds : Int) - 0 = instant.seconds := by
    omega
  unfold resolve
  rw [if_neg, if_neg (by decide), Calendar.Date.day_number_of_day_number, seconds,
    Instant.of_eq_some]
  simp only [Calendar.Date.of_day_number_is_valid, Bool.not_true, Bool.false_or, Bool.or_eq_true,
    decide_eq_true_eq]
  omega

theorem skip_dash (rest : List Char) : skipBlanks ('-' :: rest) = '-' :: rest :=
  skip_blanks_cons rest (by decide)

theorem skip_colon (rest : List Char) : skipBlanks (':' :: rest) = ':' :: rest :=
  skip_blanks_cons rest (by decide)

/-- The number of the second tells a leap second from the last second of its minute. -/
theorem resolve_second (instant : Instant) {daySeconds : Nat}
    (sameTime : (daySeconds : Int) = instant.seconds % 86400) :
    (if daySeconds % 60 + instant.nanos / 1000000000 = 60 then
      resolve (Calendar.Date.ofDayNumber (instant.seconds / 86400))
        (daySeconds / 3600 * 3600 + daySeconds / 60 % 60 * 60 + 59)
        (instant.nanos % 1000000000 + 1000000000) 0
    else
      resolve (Calendar.Date.ofDayNumber (instant.seconds / 86400))
        (daySeconds / 3600 * 3600 + daySeconds / 60 % 60 * 60 +
          (daySeconds % 60 + instant.nanos / 1000000000))
        (instant.nanos % 1000000000) 0) = .ok instant := by
  have resolved := resolve_instant instant sameTime
  have bound := instant.nanos_lt
  have last := instant.leap_second
  split
  · have time : daySeconds / 3600 * 3600 + daySeconds / 60 % 60 * 60 + 59 = daySeconds := by omega
    have nanos : instant.nanos % 1000000000 + 1000000000 = instant.nanos := by omega
    rw [time, nanos, resolved]
  · have none_left : instant.nanos / 1000000000 = 0 := by omega
    have time : daySeconds / 3600 * 3600 + daySeconds / 60 % 60 * 60 + (daySeconds % 60 + 0) =
        daySeconds := by omega
    have nanos : instant.nanos % 1000000000 = instant.nanos := by omega
    rw [none_left, time, nanos, resolved]

theorem decode_chars_encode_chars (instant : Instant) :
    decodeChars (encodeChars instant) = .ok instant := by
  have years := year_bounds instant
  have month := Calendar.Date.of_day_number_spec (instant.seconds / 86400)
  have day := Calendar.Date.of_day_number_day_le (instant.seconds / 86400)
  have leap := instant.leap_second
  have nanosBound := instant.nanos_lt
  have sameTime : ((instant.seconds % 86400).toNat : Int) = instant.seconds % 86400 := by omega
  have resolved := resolve_second instant sameTime
  have timeBound : (instant.seconds % 86400).toNat < 86400 := by omega
  unfold encodeChars decodeChars
  generalize (instant.seconds % 86400).toNat = time at sameTime timeBound resolved
  generalize Calendar.Date.ofDayNumber (instant.seconds / 86400) = date at years month day resolved
  simp only [List.append_assoc, List.cons_append]
  rw [year_number_year_chars (by omega) (by omega) (ends_number_cons _ (by decide))]
  simp only [bind, Except.bind]
  rw [skip_dash, literal_cons]
  simp only
  rw [two_digits_padded _ month.1 month.2.1 (by omega)]
  simp only
  rw [skip_dash, literal_cons]
  simp only
  rw [two_digits_padded _ month.2.2.1 day (by omega)]
  simp only [dateEnd]
  rw [if_pos (by decide)]
  simp only
  rw [two_digits_padded _ (Nat.zero_le _) (by omega) (by omega)]
  simp only
  rw [skip_colon, literal_cons]
  simp only
  rw [two_digits_padded _ (Nat.zero_le _) (by omega) (by omega)]
  simp only
  rw [skip_colon, literal_cons]
  simp only
  rw [two_digits_padded _ (Nat.zero_le _) (by omega) (by omega)]
  simp only
  rw [fraction_fraction_chars (by omega)]
  simp only [offset_zone]
  rw [if_neg (by decide)]
  exact resolved

theorem decode_encode (instant : Instant) : decode (encode instant) = .ok instant := by
  rw [decode, encode, String.toList_ofList, decode_chars_encode_chars]

theorem fraction_chars_length_le {nanos : Nat} (fits : nanos < 1000000000) :
    (fractionChars nanos).length ≤ 10 := by
  have short {width number : Nat} (narrow : width ≤ 9) (fits : number < 10 ^ 9) :
      ('.' :: padded width number).length ≤ 10 :=
    Nat.succ_le_succ (Decimal.padded_length_le narrow (by decide) fits)
  unfold fractionChars
  split
  · exact Nat.zero_le 10
  · split
    · exact short (by decide) (by omega)
    · split
      · exact short (by decide) (by omega)
      · exact short (by decide) fits

theorem year_chars_length_le {year : Int} (least : -262143 ≤ year) (greatest : year ≤ 262142) :
    (yearChars year).length ≤ 7 := by
  have short (number : Nat) (fits : number < 10 ^ 6) : (padded 4 number).length ≤ 6 :=
    Decimal.padded_length_le (by decide) (by decide) fits
  unfold yearChars
  split
  · exact Nat.le_succ_of_le (short _ (by omega))
  · split
    · exact Nat.succ_le_succ (short _ (by omega))
    · exact Nat.succ_le_succ (short _ (by omega))

theorem encode_chars_length_le (instant : Instant) : (encodeChars instant).length ≤ 33 := by
  have years := year_bounds instant
  have month := Calendar.Date.of_day_number_spec (instant.seconds / 86400)
  have day := Calendar.Date.of_day_number_day_le (instant.seconds / 86400)
  have nanosBound := instant.nanos_lt
  have yearLength := year_chars_length_le years.1 years.2
  have fractionLength : (fractionChars (instant.nanos % 1000000000)).length ≤ 10 :=
    fraction_chars_length_le (by omega)
  have two {number : Nat} (fits : number < 10 ^ 2) : (padded 2 number).length = 2 :=
    Decimal.padded_length (by decide) fits
  unfold encodeChars
  simp only [List.length_append, List.length_cons, List.length_nil]
  rw [two (by omega), two (by omega), two (by omega), two (by omega), two (by omega)]
  omega

theorem encode_utf8_byte_size_lt (instant : Instant) :
    (encode instant).utf8ByteSize < 2 ^ 64 := by
  have short := encode_chars_length_le instant
  have bytes := utf8_byte_size_of_list_le (encodeChars instant)
  rw [encode]
  omega

end CensusNode.Timestamp
