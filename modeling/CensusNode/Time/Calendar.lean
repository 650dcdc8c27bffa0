/-!
The proleptic Gregorian calendar. Days are counted from 1970-01-01; a year is found from a day
count by a guess from the mean length of a year, which is off by at most one.
-/

namespace CensusNode.Calendar

/-- A day of the calendar. Months and days of the month count from one. -/
structure Date where
  year : Int
  month : Nat
  day : Nat
deriving DecidableEq, Repr

def isLeapYear (year : Int) : Bool := year % 4 = 0 && (year % 100 ≠ 0 || year % 400 = 0)

/-- The number of leap days before a year, up to a constant. -/
def leapDaysBefore (year : Int) : Int := (year - 1) / 4 - (year - 1) / 100 + (year - 1) / 400

def daysBeforeYear (year : Int) : Int := 365 * (year - 1970) + leapDaysBefore year - 477

def monthLengths (leap : Bool) : List Nat :=
  [31, if leap then 29 else 28, 31, 30, 31, 30, 31, 31, 30, 31, 30, 31]

/-- The length of a month, zero when there is no such month. -/
def daysInMonth (year : Int) (month : Nat) : Nat :=
  if month = 0 then 0 else (monthLengths (isLeapYear year)).getD (month - 1) 0

def totalDays : List Nat → Nat
  | [] => 0
  | length :: rest => length + totalDays rest

def daysBeforeMonth (year : Int) (month : Nat) : Nat :=
  totalDays ((monthLengths (isLeapYear year)).take (month - 1))

def Date.isValid (date : Date) : Bool :=
  1 ≤ date.day && date.day ≤ daysInMonth date.year date.month

def Date.dayNumber (date : Date) : Int :=
  daysBeforeYear date.year + daysBeforeMonth date.year date.month + (date.day - 1 : Int)

def yearOfDay (dayNumber : Int) : Int :=
  let guess := 1970 + 400 * dayNumber / 146097
  if dayNumber < daysBeforeYear guess then guess - 1
  else if daysBeforeYear (guess + 1) ≤ dayNumber then guess + 1
  else guess

/-- The month, from `month` on, and the day in it that lie `index` days ahead. -/
def monthAndDay : List Nat → Nat → Nat → Nat × Nat
  | [], month, index => (month, index + 1)
  | length :: rest, month, index =>
      if index < length then (month, index + 1) else monthAndDay rest (month + 1) (index - length)

def Date.ofDayNumber (dayNumber : Int) : Date :=
  let year := yearOfDay dayNumber
  let (month, day) :=
    monthAndDay (monthLengths (isLeapYear year)) 1 (dayNumber - daysBeforeYear year).toNat
  { year, month, day }

end CensusNode.Calendar
