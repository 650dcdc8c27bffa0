import CensusNode.Proofs.Text.Decimal
import CensusNode.Time.DurationText

/-!
The text of a duration is read back as that duration. A text is written as amounts of units between
blanks; reading adds up the amounts, which come to the seconds and nanoseconds that were taken apart,
so that no sum on the way leaves the range of durations.
-/

namespace CensusNode.DurationText

def Names (name : String) (unit : TimeUnit) : Prop :=
  TimeUnit.ofName? name = some unit ∧ name.toList.all isUnitLetter = true ∧ name.toList ≠ []

instance (name : String) (unit : TimeUnit) : Decidable (Names name unit) :=
  inferInstanceAs (Decidable (_ ∧ _ ∧ _))

structure Amount where
  number : Nat
  name : String
  unit : TimeUnit
  names : Names name unit := by decide

namespace Amount

def seconds (amount : Amount) : Nat := amount.number * amount.unit.seconds

def nanos (amount : Amount) : Nat := amount.number * amount.unit.nanos

def text (amount : Amount) : String := Decimal.encode amount.number ++ amount.name

def plural (number : Nat) (name : String) (unit : TimeUnit) (one : Names name unit := by decide)
    (several : Names (name ++ "s") unit := by decide) : Amount where
  number
  name := if 1 < number then name ++ "s" else name
  unit
  names := by split <;> assumption

end Amount

def secondsOf : List Amount → Nat
  | [] => 0
  | amount :: rest => amount.seconds + secondsOf rest

def nanosOf : List Amount → Nat
  | [] => 0
  | amount :: rest => amount.nanos + nanosOf rest

def amounts (duration : Duration) : List Amount :=
  let inYear := duration.seconds % 31557600
  let inMonth := inYear % 2630016
  let inDay := inMonth % 86400
  [.plural (duration.seconds / 31557600) "year" .year,
   .plural (inYear / 2630016) "month" .month,
   .plural (inMonth / 86400) "day" .day,
   { number := inDay / 3600, name := "h", unit := .hour },
   { number := inDay % 3600 / 60, name := "m", unit := .minute },
   { number := inDay % 60, name := "s", unit := .second },
   { number := duration.nanos / 1000000, name := "ms", unit := .millisecond },
   { number := duration.nanos / 1000 % 1000, name := "us", unit := .microsecond },
   { number := duration.nanos % 1000, name := "ns", unit := .nanosecond }]

def written (duration : Duration) : List Amount :=
  (amounts duration).filter fun amount => amount.number ≠ 0

theorem parts_of_amounts (all : List Amount) :
    all.flatMap (fun amount => part amount.number amount.name) =
      (all.filter fun amount => amount.number ≠ 0).map Amount.text := by
  induction all with
  | nil => rfl
  | cons amount rest induction =>
      rw [List.flatMap_cons, List.filter_cons, induction, part]
      by_cases zero : amount.number = 0 <;> simp [zero, Amount.text]

theorem parts_eq (duration : Duration) : parts duration = (written duration).map Amount.text := by
  rw [written, ← parts_of_amounts]
  simp [parts, amounts, pluralPart, Amount.plural]

/-- Amounts of zero count for nothing. -/
theorem sums_of_nonzero (all : List Amount) :
    secondsOf (all.filter fun amount => amount.number ≠ 0) = secondsOf all ∧
      nanosOf (all.filter fun amount => amount.number ≠ 0) = nanosOf all := by
  induction all with
  | nil => exact ⟨rfl, rfl⟩
  | cons amount rest induction =>
      rw [List.filter_cons]
      by_cases zero : amount.number = 0
      · simpa [zero, secondsOf, nanosOf, Amount.seconds, Amount.nanos] using induction
      · simpa [zero, secondsOf, nanosOf] using induction

theorem seconds_of_written (duration : Duration) :
    secondsOf (written duration) = duration.seconds := by
  rw [written, (sums_of_nonzero _).1, amounts]
  simp only [secondsOf, Amount.seconds, Amount.plural, TimeUnit.seconds]
  omega

theorem nanos_of_written (duration : Duration) :
    nanosOf (written duration) = duration.nanos := by
  rw [written, (sums_of_nonzero _).2, amounts]
  simp only [nanosOf, Amount.nanos, Amount.plural, TimeUnit.nanos]
  omega

variable {total : Duration} {result : Except Fault Duration}

theorem bounded_of_lt {number : Nat} (small : number < wordLimit) :
    bounded number = .ok number := by
  rw [bounded, if_pos small]

theorem unit_letter_spec {char : Char} (letter : isUnitLetter char = true) :
    Decimal.digitValue? char = none ∧ Text.isBlank char = false := by
  have ranges : (97 ≤ char.toNat ∧ char.toNat ≤ 122) ∨ (65 ≤ char.toNat ∧ char.toNat ≤ 90) ∨
      char.toNat = 181 := by
    simp only [isUnitLetter, Bool.or_eq_true, Bool.and_eq_true, decide_eq_true_eq] at letter
    rcases letter with (lower | upper) | micro
    · exact Or.inl lower
    · exact Or.inr (Or.inl upper)
    · rw [micro]
      exact Or.inr (Or.inr rfl)
  constructor
  · rw [Decimal.digitValue?, if_neg (by omega)]
  · simp only [Text.isBlank, Bool.or_eq_false_iff, Bool.and_eq_false_iff, decide_eq_false_iff_not,
      beq_eq_false_iff_ne]
    omega

/-- What follows leads to a result from a phase, wherever in a text it stands. -/
def Yields (total : Duration) (phase : Phase) (chars : List Char)
    (result : Except Fault Duration) : Prop :=
  ∀ offset, decodeChars total phase offset chars = result

/-- One character leads from a phase to the next. -/
theorem yields_cons {phase next : Phase} {char : Char} {rest : List Char}
    (stepped : ∀ offset, step total phase offset char = .ok (total, next))
    (later : Yields total next rest result) : Yields total phase (char :: rest) result := by
  intro offset
  rw [decodeChars, stepped offset]
  exact later _

theorem yields_digits {number : Nat} (chars : List Char)
    (allDigits : ∀ char ∈ chars, Decimal.isDigit char = true)
    (within : Decimal.onto number chars < wordLimit) {rest : List Char}
    (later : Yields total (.whole (Decimal.onto number chars)) rest result) :
    Yields total (.whole number) (chars ++ rest) result := by
  induction chars generalizing number with
  | nil => exact later
  | cons char chars induction =>
      obtain ⟨value, isValue⟩ := Option.isSome_iff_exists.mp (allDigits char List.mem_cons_self)
      have next : Decimal.onto number (char :: chars) = Decimal.onto (10 * number + value) chars := by
        simp [Decimal.onto, isValue]
      rw [next] at within later
      have small := Nat.lt_of_le_of_lt (Decimal.le_onto (10 * number + value) chars) within
      apply yields_cons _
        (induction (fun other member => allDigits other (List.mem_cons_of_mem _ member)) within later)
      intro offset
      simp only [step, isValue, bounded_of_lt small]
      rfl

theorem yields_number {number : Nat} (small : number < wordLimit) {rest : List Char}
    (later : Yields total (.whole number) rest result) (since : Nat) :
    Yields total (.gap since) (Decimal.digits number ++ rest) result := by
  obtain ⟨first, others, digits⟩ :=
    List.exists_cons_of_length_pos (Decimal.digits_length_pos number)
  have allDigits : ∀ char ∈ first :: others, Decimal.isDigit char = true := by
    rw [← digits]
    exact fun _ => Decimal.is_digit_of_mem_digits
  obtain ⟨value, isValue⟩ := Option.isSome_iff_exists.mp (allDigits first List.mem_cons_self)
  have whole : Decimal.onto value others = number := by
    have read := Decimal.onto_digits 0 number
    rw [digits, Nat.zero_mul, Nat.zero_add] at read
    rw [← read]
    simp [Decimal.onto, isValue]
  rw [digits]
  have onward : Yields total (.whole value) (others ++ rest) result := by
    apply yields_digits others
    · exact fun char member => allDigits char (List.mem_cons_of_mem _ member)
    · rwa [whole]
    · rwa [whole]
  apply yields_cons _ onward
  intro offset
  simp only [step, isValue]

theorem yields_letters {number : Nat} (chars gathered : List Char)
    (letters : chars.all isUnitLetter = true) {rest : List Char}
    (later : Yields total (.unit number none (chars.reverse ++ gathered)) rest result) :
    Yields total (.unit number none gathered) (chars ++ rest) result := by
  induction chars generalizing gathered with
  | nil => exact later
  | cons char chars induction =>
      rw [List.all_cons, Bool.and_eq_true] at letters
      obtain ⟨noDigit, noBlank⟩ := unit_letter_spec letters.1
      rw [List.reverse_cons, List.append_assoc] at later
      apply yields_cons _ (induction (char :: gathered) letters.2 later)
      intro offset
      simp [step, noDigit, noBlank, letters.1]

theorem yields_name {number : Nat} {name : String} {unit : TimeUnit} (names : Names name unit)
    {rest : List Char}
    (later : Yields total (.unit number none name.toList.reverse) rest result) :
    Yields total (.whole number) (name.toList ++ rest) result := by
  obtain ⟨-, letters, nonempty⟩ := names
  obtain ⟨first, others, chars⟩ := List.exists_cons_of_ne_nil nonempty
  rw [chars, List.all_cons, Bool.and_eq_true] at letters
  obtain ⟨noDigit, noBlank⟩ := unit_letter_spec letters.1
  rw [chars, List.reverse_cons] at later
  rw [chars]
  apply yields_cons _ (yields_letters others [first] letters.2 later)
  intro offset
  simp [step, noDigit, noBlank, letters.1]

theorem unit_pos (unit : TimeUnit) : 0 < unit.seconds ∨ 0 < unit.nanos := by
  cases unit <;> decide

theorem number_le (amount : Amount) :
    amount.number ≤ amount.seconds ∨ amount.number ≤ amount.nanos := by
  rcases unit_pos amount.unit with seconds | nanos
  · exact Or.inl (Nat.le_mul_of_pos_right _ seconds)
  · exact Or.inr (Nat.le_mul_of_pos_right _ nanos)

/-- A number of units is added to a total as long as a duration holds the sum. -/
theorem amount_added (amount : Amount) {whole : Duration}
    (seconds : total.seconds + amount.seconds ≤ whole.seconds)
    (nanos : total.nanos + amount.nanos ≤ whole.nanos) :
    amount.number < wordLimit ∧ ∃ sum, addPart total amount.number none amount.name = .ok sum ∧
      sum.seconds = total.seconds + amount.seconds ∧ sum.nanos = total.nanos + amount.nanos := by
  have secondsLt : total.seconds + amount.seconds < wordLimit :=
    Nat.lt_of_le_of_lt seconds whole.seconds_lt
  have nanosLt : total.nanos + amount.nanos < 1000000000 :=
    Nat.lt_of_le_of_lt nanos whole.nanos_lt
  have inRange : amount.seconds < wordLimit ∧ amount.nanos < wordLimit ∧
      total.nanos + amount.nanos < wordLimit := by
    simp only [wordLimit] at *
    omega
  have carry : (total.nanos + amount.nanos) / 1000000000 = 0 ∧
      (total.nanos + amount.nanos) % 1000000000 = total.nanos + amount.nanos := by
    omega
  have sum : total.add? amount.seconds amount.nanos =
      some ⟨total.seconds + amount.seconds, total.nanos + amount.nanos, secondsLt, nanosLt⟩ := by
    simp only [Duration.add?, Duration.of?, carry, Nat.add_zero]
    rw [dif_pos ⟨secondsLt, nanosLt⟩]
  constructor
  · rcases number_le amount with bound | bound
    · exact Nat.lt_of_le_of_lt bound inRange.1
    · exact Nat.lt_of_le_of_lt bound inRange.2.1
  · exists ⟨total.seconds + amount.seconds, total.nanos + amount.nanos, secondsLt, nanosLt⟩
    apply And.intro _ ⟨rfl, rfl⟩
    simp only [addPart, amount.names.1]
    rw [← Amount.seconds, ← Amount.nanos, bounded_of_lt inRange.1, bounded_of_lt inRange.2.1]
    change (do let total ← addAmount total amount.seconds amount.nanos; .ok total) = _
    rw [addAmount, bounded_of_lt inRange.2.2, bounded_of_lt secondsLt]
    simp only [sum]
    rfl

/-- One amount after what comes before it leads to the unit that is to be added. -/
theorem yields_amount {amount : Amount} (small : amount.number < wordLimit) {rest : List Char}
    (later : Yields total (.unit amount.number none amount.name.toList.reverse) rest result)
    (since : Nat) : Yields total (.gap since) (amount.text.toList ++ rest) result := by
  rw [Amount.text, String.toList_append, Decimal.encode, String.toList_ofList, List.append_assoc]
  exact yields_number small (yields_name amount.names later) since

theorem yields_blank {sum : Duration} {number : Nat} {name : String}
    (added : addPart total number none name = .ok sum) {rest : List Char}
    (later : ∀ since, Yields sum (.gap since) rest result) :
    Yields total (.unit number none name.toList.reverse) (' ' :: rest) result := by
  intro offset
  have stepped : step total (.unit number none name.toList.reverse) offset ' ' =
      .ok (sum, .gap (offset + 1)) := by
    have blank : Decimal.digitValue? ' ' = none ∧ Text.isBlank ' ' = true := by decide
    simp only [step, blank, List.reverse_reverse, String.ofList_toList, added]
    rfl
  rw [decodeChars, stepped]
  exact later _ _

/-- Amounts between blanks are added up, when they come to the whole with the total before them. -/
theorem yields_amounts (first : Amount) (rest : List Amount) {whole : Duration} (since : Nat)
    (seconds : total.seconds + secondsOf (first :: rest) = whole.seconds)
    (nanos : total.nanos + nanosOf (first :: rest) = whole.nanos) :
    Yields total (.gap since) (String.intercalate " " ((first :: rest).map Amount.text)).toList
      (.ok whole) := by
  induction rest generalizing first total since with
  | nil =>
      rw [secondsOf] at seconds
      rw [nanosOf] at nanos
      obtain ⟨small, sum, added, sumSeconds, sumNanos⟩ :=
        amount_added first (Nat.le_of_eq seconds) (Nat.le_of_eq nanos)
      rw [List.map_singleton, String.intercalate_singleton, ← List.append_nil first.text.toList]
      apply yields_amount small
      intro offset
      rw [decodeChars, finish, List.reverse_reverse, String.ofList_toList, added, Except.ok.injEq,
        Duration.mk.injEq]
      exact ⟨sumSeconds.trans seconds, sumNanos.trans nanos⟩
  | cons second rest induction =>
      rw [secondsOf, ← Nat.add_assoc] at seconds
      rw [nanosOf, ← Nat.add_assoc] at nanos
      obtain ⟨small, sum, added, sumSeconds, sumNanos⟩ :=
        amount_added first (Nat.le.intro seconds) (Nat.le.intro nanos)
      rw [← sumSeconds] at seconds
      rw [← sumNanos] at nanos
      rw [List.map_cons, List.map_cons, String.intercalate_cons_cons, String.toList_append,
        String.toList_append, List.append_assoc]
      exact yields_amount small
        (yields_blank added fun since => induction second since seconds nanos) since

theorem decode_encode (duration : Duration) : decode (encode duration) = .ok duration := by
  rw [encode]
  split
  case isTrue zero =>
    cases duration
    cases zero.1
    cases zero.2
    rfl
  case isFalse nonzero =>
    have seconds := seconds_of_written duration
    have nanos := nanos_of_written duration
    rw [parts_eq]
    cases shape : written duration with
    | nil =>
        rw [shape] at seconds nanos
        exact absurd ⟨seconds.symm, nanos.symm⟩ nonzero
    | cons first rest =>
        rw [shape] at seconds nanos
        have read : Yields Duration.zero (.gap 0)
            (String.intercalate " " ((first :: rest).map Amount.text)).toList (.ok duration) :=
          yields_amounts first rest 0 ((Nat.zero_add _).trans seconds)
            ((Nat.zero_add _).trans nanos)
        -- A lone zero is a text of its own, but no part is written without its unit.
        have notZero : String.intercalate " " ((first :: rest).map Amount.text) ≠ "0" := by
          intro alone
          rw [alone] at read
          cases read 0
        rw [decode, if_neg notZero]
        exact read 0

/-- The longest duration needs all nine parts. -/
example : encode ⟨18446744073709551615, 999999999, by decide, by decide⟩ =
    "584542046090years 7months 15days 17h 5m 3s 999ms 999us 999ns" := by
  decide +kernel

theorem Names.size_le {name : String} {unit : TimeUnit} (names : Names name unit) :
    name.utf8ByteSize ≤ 7 := by
  have all : ∀ entry ∈ unitNames, ∀ name ∈ entry.2, name.utf8ByteSize ≤ 7 := by decide
  obtain ⟨entry, found, -⟩ := Option.map_eq_some_iff.mp names.1
  have listed : entry.2.contains name = true := by
    simpa using List.find?_some found
  exact all entry (List.mem_of_find?_eq_some found) name (List.contains_iff_mem.mp listed)

theorem text_size_le {amount : Amount} (small : amount.number < wordLimit) :
    amount.text.utf8ByteSize ≤ 87 :=
  size_append_le (Decimal.encode_size_le amount.number small) amount.names.size_le

theorem texts_size_le (all : List Amount) (seconds : secondsOf all < wordLimit)
    (nanos : nanosOf all < wordLimit) :
    (String.intercalate " " (all.map Amount.text)).utf8ByteSize ≤ 88 * all.length := by
  induction all with
  | nil => decide
  | cons first rest induction =>
      rw [secondsOf] at seconds
      rw [nanosOf] at nanos
      have small : first.number < wordLimit := by
        rcases number_le first with bound | bound <;> omega
      have here := text_size_le small
      have later := induction (by omega) (by omega)
      cases rest with
      | nil =>
          rw [List.map_singleton, String.intercalate_singleton, List.length_singleton]
          omega
      | cons second rest =>
          rw [List.map_cons, List.map_cons, String.intercalate_cons_cons, List.length_cons]
          have both := size_append_le (size_append_le here (Nat.le_refl " ".utf8ByteSize)) later
          exact Nat.le_trans both (by rw [show " ".utf8ByteSize = 1 from rfl]; omega)

theorem encode_size_le (duration : Duration) : (encode duration).utf8ByteSize ≤ 792 := by
  rw [encode]
  split
  · decide
  · have seconds := duration.seconds_lt
    have nanos := duration.nanos_lt
    have few : (written duration).length ≤ (amounts duration).length := List.length_filter_le _ _
    rw [parts_eq]
    apply Nat.le_trans (texts_size_le (written duration) _ _)
    · exact Nat.mul_le_mul_left 88 few
    · rwa [seconds_of_written]
    · rw [nanos_of_written, wordLimit]
      omega

end CensusNode.DurationText
