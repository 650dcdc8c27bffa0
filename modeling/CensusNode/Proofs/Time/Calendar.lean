import CensusNode.Time.Calendar

/-!
Days and dates. Every day number belongs to one year, the months of a year cover its days, and the
date found for a day number is a day of the calendar with that number.
-/

namespace CensusNode.Calendar

def daysInYear (year : Int) : Nat := if isLeapYear year then 366 else 365

theorem is_leap_year_iff (year : Int) :
    isLeapYear year = true ↔ year % 4 = 0 ∧ (year % 100 ≠ 0 ∨ year % 400 = 0) := by
  simp [isLeapYear]

theorem days_before_next_year (year : Int) :
    daysBeforeYear (year + 1) = daysBeforeYear year + daysInYear year := by
  have leap := is_leap_year_iff year
  unfold daysBeforeYear leapDaysBefore daysInYear
  split
  · have divisible := leap.mp ‹_›
    omega
  · have indivisible : ¬(year % 4 = 0 ∧ (year % 100 ≠ 0 ∨ year % 400 = 0)) := by
      rw [← leap]
      assumption
    omega

theorem days_before_year_mono {year later : Int} (ordered : year ≤ later) :
    daysBeforeYear year ≤ daysBeforeYear later := by
  unfold daysBeforeYear leapDaysBefore
  omega

/-- The mean length of a year finds the year of a day up to one year. -/
theorem guess_bounds (dayNumber : Int) :
    daysBeforeYear (1970 + 400 * dayNumber / 146097 - 1) ≤ dayNumber ∧
      dayNumber < daysBeforeYear (1970 + 400 * dayNumber / 146097 + 2) := by
  unfold daysBeforeYear leapDaysBefore
  omega

theorem year_of_day_bounds (dayNumber : Int) :
    daysBeforeYear (yearOfDay dayNumber) ≤ dayNumber ∧
      dayNumber < daysBeforeYear (yearOfDay dayNumber + 1) := by
  have bounds := guess_bounds dayNumber
  unfold yearOfDay
  simp only
  split
  · refine ⟨bounds.1, ?_⟩
    rwa [Int.sub_add_cancel]
  · split
    · exact ⟨by assumption, by rw [Int.add_assoc]; exact bounds.2⟩
    · omega

/-- Where the months of a year end covers every day of the year: the month found and the day in it
lie as many days ahead as asked for. -/
theorem month_and_day_spec (lengths : List Nat) (month index : Nat) (within : index < totalDays lengths) :
    ∃ passed : Nat, passed < lengths.length ∧
      (monthAndDay lengths month index).1 = month + passed ∧
      1 ≤ (monthAndDay lengths month index).2 ∧
      (monthAndDay lengths month index).2 ≤ lengths.getD passed 0 ∧
      totalDays (lengths.take passed) + (monthAndDay lengths month index).2 = index + 1 := by
  induction lengths generalizing month index with
  | nil => exact absurd within (Nat.not_lt_zero index)
  | cons length rest induction =>
      by_cases here : index < length
      · refine ⟨0, by simp, ?_⟩
        simp only [monthAndDay, if_pos here]
        simp only [List.getD_cons_zero, List.take_zero, totalDays]
        omega
      · rw [totalDays] at within
        obtain ⟨passed, short, months, least, greatest, days⟩ :=
          induction (month + 1) (index - length) (by omega)
        refine ⟨passed + 1, by rw [List.length_cons]; omega, ?_⟩
        simp only [monthAndDay, if_neg here]
        simp only [List.getD_cons_succ, List.take_succ_cons, totalDays]
        omega

theorem month_lengths_length (leap : Bool) : (monthLengths leap).length = 12 := rfl

theorem total_days_month_lengths (year : Int) :
    totalDays (monthLengths (isLeapYear year)) = daysInYear year := by
  unfold daysInYear
  cases isLeapYear year <;> rfl

theorem days_in_month_le (year : Int) (month : Nat) : daysInMonth year month ≤ 31 := by
  have all : ∀ (leap : Bool) (index : Fin 12), (monthLengths leap).getD index.val 0 ≤ 31 := by
    decide
  unfold daysInMonth
  split
  · omega
  · by_cases inYear : month - 1 < 12
    · exact all _ ⟨month - 1, inYear⟩
    · have noMonth : (monthLengths (isLeapYear year)).length ≤ month - 1 := by
        rw [month_lengths_length]
        omega
      rw [List.getD_eq_getElem?_getD, List.getElem?_eq_none noMonth]
      exact Nat.zero_le 31

namespace Date

theorem of_day_number_year (dayNumber : Int) :
    (ofDayNumber dayNumber).year = yearOfDay dayNumber := rfl

theorem of_day_number_spec (dayNumber : Int) :
    1 ≤ (ofDayNumber dayNumber).month ∧ (ofDayNumber dayNumber).month ≤ 12 ∧
      1 ≤ (ofDayNumber dayNumber).day ∧
      (ofDayNumber dayNumber).day ≤
        daysInMonth (yearOfDay dayNumber) (ofDayNumber dayNumber).month ∧
      daysBeforeYear (yearOfDay dayNumber) +
        daysBeforeMonth (yearOfDay dayNumber) (ofDayNumber dayNumber).month +
        (ofDayNumber dayNumber).day = dayNumber + 1 := by
  have bounds := year_of_day_bounds dayNumber
  rw [days_before_next_year] at bounds
  have within : (dayNumber - daysBeforeYear (yearOfDay dayNumber)).toNat <
      totalDays (monthLengths (isLeapYear (yearOfDay dayNumber))) := by
    rw [total_days_month_lengths]
    omega
  obtain ⟨passed, short, months, least, greatest, days⟩ :=
    month_and_day_spec (monthLengths (isLeapYear (yearOfDay dayNumber))) 1
      (dayNumber - daysBeforeYear (yearOfDay dayNumber)).toNat within
  have month : (ofDayNumber dayNumber).month = 1 + passed := months
  rw [month_lengths_length] at short
  have before : daysBeforeMonth (yearOfDay dayNumber) (1 + passed) =
      totalDays ((monthLengths (isLeapYear (yearOfDay dayNumber))).take passed) := by
    rw [daysBeforeMonth, Nat.add_sub_cancel_left]
  have length : daysInMonth (yearOfDay dayNumber) (1 + passed) =
      (monthLengths (isLeapYear (yearOfDay dayNumber))).getD passed 0 := by
    rw [daysInMonth, if_neg (by omega), Nat.add_sub_cancel_left]
  rw [month, before, length]
  refine ⟨by omega, by omega, least, greatest, ?_⟩
  have sum : (totalDays ((monthLengths (isLeapYear (yearOfDay dayNumber))).take passed) +
      (ofDayNumber dayNumber).day : Nat) =
      (dayNumber - daysBeforeYear (yearOfDay dayNumber)).toNat + 1 := days
  omega

theorem of_day_number_is_valid (dayNumber : Int) : (ofDayNumber dayNumber).isValid = true := by
  obtain ⟨-, -, least, greatest, -⟩ := of_day_number_spec dayNumber
  simp only [isValid, Bool.and_eq_true, decide_eq_true_eq]
  exact ⟨least, greatest⟩

theorem day_number_of_day_number (dayNumber : Int) :
    (ofDayNumber dayNumber).dayNumber = dayNumber := by
  obtain ⟨-, -, -, -, days⟩ := of_day_number_spec dayNumber
  rw [Date.dayNumber, of_day_number_year]
  omega

theorem of_day_number_day_le (dayNumber : Int) : (ofDayNumber dayNumber).day ≤ 31 := by
  obtain ⟨-, -, -, greatest, -⟩ := of_day_number_spec dayNumber
  exact Nat.le_trans greatest (days_in_month_le _ _)

theorem of_day_number_year_bounds {dayNumber : Int} (earliest : -96465292 ≤ dayNumber)
    (latest : dayNumber ≤ 95026236) :
    -262143 ≤ (ofDayNumber dayNumber).year ∧ (ofDayNumber dayNumber).year ≤ 262142 := by
  have bounds := year_of_day_bounds dayNumber
  have first : daysBeforeYear (-262143) = -96465292 := by decide
  have last : daysBeforeYear 262143 = 95026237 := by decide
  rw [of_day_number_year]
  constructor
  · apply Int.not_lt.mp
    intro early
    have before : daysBeforeYear (yearOfDay dayNumber + 1) ≤ daysBeforeYear (-262143) :=
      days_before_year_mono (by omega)
    omega
  · apply Int.not_lt.mp
    intro late
    have after : daysBeforeYear 262143 ≤ daysBeforeYear (yearOfDay dayNumber) :=
      days_before_year_mono (by omega)
    omega

end Date

end CensusNode.Calendar
