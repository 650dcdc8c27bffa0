import CensusNode.Text.Blank
import CensusNode.Text.Decimal
import CensusNode.Time.Calendar
import CensusNode.Time.Instant

/-!
The text of an instant. Writing gives year, month and day, hour, minute and second, a fraction of
three, six or nine digits when one is needed, and `Z`. Reading is more liberal: components may be
short and stand apart, the zone may be any offset of less than a day, and the first component that
cannot be read decides the fault.
-/

namespace CensusNode.Timestamp

inductive Fault where
  | tooShort
  | invalid
  | outOfRange
  | trailing
  | impossible
deriving DecidableEq, Repr

def Fault.message : Fault → String
  | .tooShort => "premature end of input"
  | .invalid => "input contains invalid characters"
  | .outOfRange => "input is out of range"
  | .trailing => "trailing input"
  | .impossible => "no possible date and time matching input"

/-- A year: four digits up to 9999, and a sign before at least four digits otherwise. -/
def yearChars (year : Int) : List Char :=
  if 0 ≤ year ∧ year ≤ 9999 then Decimal.padded 4 year.toNat
  else if year < 0 then '-' :: Decimal.padded 4 (-year).toNat
  else '+' :: Decimal.padded 4 year.toNat

/-- The fraction of a second, in the shortest exact one of no, three, six and nine digits. -/
def fractionChars (nanos : Nat) : List Char :=
  if nanos = 0 then []
  else if nanos % 1000000 = 0 then '.' :: Decimal.padded 3 (nanos / 1000000)
  else if nanos % 1000 = 0 then '.' :: Decimal.padded 6 (nanos / 1000)
  else '.' :: Decimal.padded 9 nanos

/-- The characters of an instant. A leap second has the number 60. -/
def encodeChars (instant : Instant) : List Char :=
  let date := Calendar.Date.ofDayNumber (instant.seconds / 86400)
  let daySeconds := (instant.seconds % 86400).toNat
  let leap := instant.nanos / 1000000000
  yearChars date.year ++ '-' :: Decimal.padded 2 date.month ++ '-' :: Decimal.padded 2 date.day ++
    'T' :: Decimal.padded 2 (daySeconds / 3600) ++ ':' :: Decimal.padded 2 (daySeconds / 60 % 60) ++
    ':' :: Decimal.padded 2 (daySeconds % 60 + leap) ++
    fractionChars (instant.nanos % 1000000000) ++ ['Z']

def encode (instant : Instant) : String := String.ofList (encodeChars instant)

abbrev Reader (α : Type) := List Char → Except Fault (α × List Char)

def skipBlanks (chars : List Char) : List Char := chars.dropWhile Text.isBlank

def digitsOnto : Nat → Nat → List Char → Nat × List Char
  | 0, number, chars => (number, chars)
  | _ + 1, number, [] => (number, [])
  | width + 1, number, char :: rest =>
      match Decimal.digitValue? char with
      | some value => digitsOnto width (10 * number + value) rest
      | none => (number, char :: rest)

def digits (width : Nat) : Reader Nat
  | [] => .error .tooShort
  | char :: rest =>
      match Decimal.digitValue? char with
      | none => .error .invalid
      | some value => .ok (digitsOnto (width - 1) value rest)

/-- Reads a number between `low` and `high` of at most two digits, after any white space. -/
def twoDigits (low high : Nat) : Reader Nat := fun chars => do
  let (value, rest) ← digits 2 (skipBlanks chars)
  if low ≤ value ∧ value ≤ high then .ok (value, rest) else .error .outOfRange

def literal (expected : Char) : Reader Unit
  | [] => .error .tooShort
  | char :: rest => if char = expected then .ok ((), rest) else .error .invalid

/-- Reads a year, after any white space: up to four digits, or a sign and any number of digits. -/
def yearNumber : Reader Int := fun chars =>
  let chars := skipBlanks chars
  let bounded (year : Int) (rest : List Char) : Except Fault (Int × List Char) :=
    if -2147483648 ≤ year ∧ year ≤ 2147483647 then .ok (year, rest) else .error .outOfRange
  match chars with
  | '-' :: rest => do
      let (value, rest) ← digits rest.length rest
      bounded (-(value : Int)) rest
  | '+' :: rest => do
      let (value, rest) ← digits rest.length rest
      bounded value rest
  | chars => do
      let (value, rest) ← digits 4 chars
      bounded value rest

/-- Reads an optional fraction of a second as nanoseconds; digits after the ninth do not count. -/
def fraction : Reader Nat
  | '.' :: rest => do
      let (value, after) ← digits 9 rest
      let used := rest.length - after.length
      .ok (value * Nat.pow 10 (9 - used), after.dropWhile fun char => (Decimal.digitValue? char).isSome)
  | chars => .ok (0, chars)

/-- The number of UTF-8 bytes of the characters is below two. -/
def underTwoBytes : List Char → Bool
  | [] => true
  | [char] => char.toNat < 128
  | _ => false

def offsetHours : Reader Nat := fun chars =>
  if underTwoBytes chars then .error .tooShort
  else
    match chars with
    | tens :: ones :: rest =>
        match Decimal.digitValue? tens, Decimal.digitValue? ones with
        | some high, some low => .ok (10 * high + low, rest)
        | _, _ => .error .invalid
    | _ => .error .invalid

def offsetMinutes : Reader Nat := fun chars =>
  if underTwoBytes chars then .error .tooShort
  else
    match chars with
    | tens :: ones :: rest =>
        match Decimal.digitValue? tens, Decimal.digitValue? ones with
        | some high, some low =>
            if high < 6 then .ok (10 * high + low, rest) else .error .outOfRange
        | _, _ => .error .invalid
    | _ => .error .invalid

def offset : Reader Int := fun chars =>
  let signed (sign : Int) (rest : List Char) : Except Fault (Int × List Char) := do
    let (hours, rest) ← offsetHours rest
    let (minutes, rest) ← offsetMinutes (rest.dropWhile fun char => char = ':' || Text.isBlank char)
    .ok (sign * (hours * 3600 + minutes * 60 : Nat), rest)
  match chars with
  | [] => .error .tooShort
  | '+' :: rest => signed 1 rest
  | '-' :: rest => signed (-1) rest
  | '\u2212' :: rest => signed (-1) rest
  | 'Z' :: rest => .ok (0, rest)
  | 'z' :: rest => .ok (0, rest)
  | u :: t :: c :: rest =>
      if u.toUpper = 'U' ∧ t.toUpper = 'T' ∧ c.toUpper = 'C' then .ok (0, rest) else .error .invalid
  | _ => .error .invalid

def dateEnd : Reader Unit
  | [] => .error .tooShort
  | char :: rest =>
      if char = 't' ∨ char = 'T' ∨ char = ' ' then .ok ((), rest) else .error .invalid

def resolve (date : Calendar.Date) (daySeconds nanos : Nat) (offset : Int) :
    Except Fault Instant :=
  if !date.isValid || date.year < -262143 || 262142 < date.year then .error .outOfRange
  else if 86400 ≤ offset.natAbs then .error .outOfRange
  else
    match Instant.of? (date.dayNumber * 86400 + daySeconds - offset) nanos with
    | some instant => .ok instant
    | none => .error .impossible

def decodeChars (chars : List Char) : Except Fault Instant := do
  let (year, rest) ← yearNumber chars
  let ((), rest) ← literal '-' (skipBlanks rest)
  let (month, rest) ← twoDigits 1 12 rest
  let ((), rest) ← literal '-' (skipBlanks rest)
  let (day, rest) ← twoDigits 1 31 rest
  let ((), rest) ← dateEnd rest
  let (hour, rest) ← twoDigits 0 23 rest
  let ((), rest) ← literal ':' (skipBlanks rest)
  let (minute, rest) ← twoDigits 0 59 rest
  let ((), rest) ← literal ':' (skipBlanks rest)
  let (second, rest) ← twoDigits 0 60 rest
  let (nanos, rest) ← fraction rest
  let (offset, rest) ← offset (skipBlanks rest)
  if skipBlanks rest ≠ [] then .error .trailing
  else if second = 60 then
    resolve ⟨year, month, day⟩ (hour * 3600 + minute * 60 + 59) (nanos + 1000000000) offset
  else resolve ⟨year, month, day⟩ (hour * 3600 + minute * 60 + second) nanos offset

def decode (text : String) : Except Fault Instant := decodeChars text.toList

end CensusNode.Timestamp
