import CensusNode.Text.Blank
import CensusNode.Text.Decimal
import CensusNode.Text.Quoted
import CensusNode.Time.Duration

/-!
The text of a duration, as numbers with units. Writing goes from years down to nanoseconds and
leaves out what is zero. Reading adds up any parts in any order, allows blanks around and inside
numbers, and takes a fraction when it is a whole number of the finest unit it can stand for.
-/

namespace CensusNode.DurationText

inductive TimeUnit where
  | nanosecond
  | microsecond
  | millisecond
  | second
  | minute
  | hour
  | day
  | week
  | month
  | year
deriving DecidableEq, Repr

def unitNames : List (TimeUnit × List String) :=
  [(.nanosecond, ["nanos", "nsec", "ns"]),
   (.microsecond, ["usec", "us", "µs"]),
   (.millisecond, ["millis", "msec", "ms"]),
   (.second, ["seconds", "second", "secs", "sec", "s"]),
   (.minute, ["minutes", "minute", "min", "mins", "m"]),
   (.hour, ["hours", "hour", "hr", "hrs", "h"]),
   (.day, ["days", "day", "d"]),
   (.week, ["weeks", "week", "wk", "wks", "w"]),
   (.month, ["months", "month", "M"]),
   (.year, ["years", "year", "yr", "yrs", "y"])]

def TimeUnit.ofName? (name : String) : Option TimeUnit :=
  (unitNames.find? fun entry => entry.2.contains name).map Prod.fst

/-- The whole seconds of one unit; zero for the units below a second. -/
def TimeUnit.seconds : TimeUnit → Nat
  | .nanosecond | .microsecond | .millisecond => 0
  | .second => 1
  | .minute => 60
  | .hour => 3600
  | .day => 86400
  | .week => 604800
  | .month => 2630016
  | .year => 31557600

def TimeUnit.nanos : TimeUnit → Nat
  | .nanosecond => 1
  | .microsecond => 1000
  | .millisecond => 1000000
  | _ => 0

/-- What a fraction of a unit is counted in: whole seconds, whole nanoseconds, or not at all. -/
inductive Resolution where
  | none
  | nanos (perUnit : Nat)
  | seconds (perUnit : Nat)

def TimeUnit.resolution : TimeUnit → Resolution
  | .nanosecond => .none
  | .microsecond => .nanos 1000
  | .millisecond => .nanos 1000000
  | .second => .nanos 1000000000
  | .minute => .nanos 60000000000
  | unit => .seconds unit.seconds

/-- Why a text is no duration. Offsets count UTF-8 bytes. A sum of nanoseconds that is exactly one
second and finds the seconds full is beyond a reader: it is brought down. -/
inductive Fault where
  | empty
  | numberExpected (offset : Nat)
  | invalidCharacter (offset : Nat)
  | unknownUnit (name : String) (number : Nat)
  | notRepresentable
  | carry
deriving DecidableEq, Repr

def Fault.message : Fault → String
  | .empty => "value was empty"
  | .numberExpected offset => "expected number at " ++ Decimal.encode offset
  | .invalidCharacter offset => "invalid character at " ++ Decimal.encode offset
  | .unknownUnit name number =>
      if name = "" then
        "time unit needed, for example " ++ Decimal.encode number ++ "sec or " ++
          Decimal.encode number ++ "ms"
      else
        "unknown time unit " ++ Text.quoted name ++
          ", supported units: ns, us/µs, ms, sec, min, hours, days, weeks, months, years " ++
          "(and few variations)"
  | .notRepresentable =>
      "number is too large or cannot be represented without a lack of precision " ++
        "(values below 1ns are not supported)"
  | .carry => "seconds overflow"

def part (number : Nat) (name : String) : List String :=
  if number = 0 then [] else [Decimal.encode number ++ name]

def pluralPart (number : Nat) (name : String) : List String :=
  part number (if 1 < number then name ++ "s" else name)

def parts (duration : Duration) : List String :=
  let inYear := duration.seconds % 31557600
  let inMonth := inYear % 2630016
  let inDay := inMonth % 86400
  pluralPart (duration.seconds / 31557600) "year" ++
    pluralPart (inYear / 2630016) "month" ++
    pluralPart (inMonth / 86400) "day" ++
    part (inDay / 3600) "h" ++
    part (inDay % 3600 / 60) "m" ++
    part (inDay % 60) "s" ++
    part (duration.nanos / 1000000) "ms" ++
    part (duration.nanos / 1000 % 1000) "us" ++
    part (duration.nanos % 1000) "ns"

def encode (duration : Duration) : String :=
  if duration.seconds = 0 ∧ duration.nanos = 0 then "0s"
  else String.intercalate " " (parts duration)

/-- Numbers from here on cannot be counted with. -/
def wordLimit : Nat := 18446744073709551616

def bounded (number : Nat) : Except Fault Nat :=
  if number < wordLimit then .ok number else .error .notRepresentable

/-- The digits after a point: their number, and ten to their count. -/
structure Fraction where
  numerator : Nat
  denominator : Nat
deriving DecidableEq, Repr

def Fraction.push (fraction : Fraction) (digit : Nat) : Except Fault Fraction := do
  let denominator ← bounded (10 * fraction.denominator)
  let numerator ← bounded (10 * fraction.numerator + digit)
  .ok { numerator, denominator }

def Fraction.of (fraction : Fraction) (amount : Nat) : Except Fault Nat := do
  let product ← bounded (fraction.numerator * amount)
  if product % fraction.denominator = 0 then .ok (product / fraction.denominator)
  else .error .notRepresentable

def addAmount (total : Duration) (seconds nanos : Nat) : Except Fault Duration := do
  let nanosTotal ← bounded (total.nanos + nanos)
  let secondsTotal ← bounded (total.seconds + seconds)
  match total.add? seconds nanos with
  | some sum => .ok sum
  | none =>
      if nanosTotal = 1000000000 ∧ secondsTotal + 1 = wordLimit then .error .carry
      else .error .notRepresentable

def addPart (total : Duration) (number : Nat) (fraction : Option Fraction) (name : String) :
    Except Fault Duration := do
  match TimeUnit.ofName? name with
  | none => .error (.unknownUnit name number)
  | some unit =>
      let seconds ← bounded (number * unit.seconds)
      let nanos ← bounded (number * unit.nanos)
      let total ← addAmount total seconds nanos
      match fraction with
      | none => .ok total
      | some fraction =>
          match unit.resolution with
          | .none => .error .notRepresentable
          | .nanos perUnit => do addAmount total 0 (← fraction.of perUnit)
          | .seconds perUnit => do addAmount total (← fraction.of perUnit) 0

/-- Where a reader stands: between parts since an offset, in a number, in a fraction with the
offset a fault would name, or in a unit with its letters so far, the latest first. -/
inductive Phase where
  | gap (since : Nat)
  | whole (number : Nat)
  | fraction (number : Nat) (digits : Fraction) (last : Nat)
  | unit (number : Nat) (fraction : Option Fraction) (letters : List Char)

def isUnitLetter (char : Char) : Bool :=
  let code := char.toNat
  (97 ≤ code && code ≤ 122) || (65 ≤ code && code ≤ 90) || char = 'µ'

def step (total : Duration) (phase : Phase) (offset : Nat) (char : Char) :
    Except Fault (Duration × Phase) :=
  match phase with
  | .gap since =>
      match Decimal.digitValue? char with
      | some value => .ok (total, .whole value)
      | none =>
          if Text.isBlank char then .ok (total, .gap since) else .error (.numberExpected since)
  | .whole number =>
      match Decimal.digitValue? char with
      | some value => do .ok (total, .whole (← bounded (10 * number + value)))
      | none =>
          if Text.isBlank char then .ok (total, .whole number)
          else if isUnitLetter char then .ok (total, .unit number none [char])
          else if char = '.' then .ok (total, .fraction number ⟨0, 1⟩ offset)
          else .error (.invalidCharacter offset)
  | .fraction number digits last =>
      match Decimal.digitValue? char with
      | some value => do
          .ok (total, .fraction number (← digits.push value) (offset + char.utf8Size))
      | none =>
          if Text.isBlank char then
            .ok (total, .fraction number digits (offset + char.utf8Size))
          else if isUnitLetter char && digits.denominator ≠ 1 then
            .ok (total, .unit number (some digits) [char])
          else .error (.invalidCharacter last)
  | .unit number fraction letters =>
      match Decimal.digitValue? char with
      | some value => do
          .ok (← addPart total number fraction (String.ofList letters.reverse), .whole value)
      | none =>
          if Text.isBlank char then do
            .ok (← addPart total number fraction (String.ofList letters.reverse),
              .gap (offset + char.utf8Size))
          else if isUnitLetter char then .ok (total, .unit number fraction (char :: letters))
          else .error (.invalidCharacter offset)

def finish (total : Duration) : Phase → Except Fault Duration
  | .gap since => if since = 0 then .error .empty else .ok total
  | .whole number => addPart total number none ""
  | .fraction number digits last =>
      if digits.denominator = 1 then .error (.invalidCharacter last)
      else addPart total number (some digits) ""
  | .unit number fraction letters =>
      addPart total number fraction (String.ofList letters.reverse)

def decodeChars (total : Duration) (phase : Phase) (offset : Nat) :
    List Char → Except Fault Duration
  | [] => finish total phase
  | char :: rest =>
      match step total phase offset char with
      | .ok (total, phase) => decodeChars total phase (offset + char.utf8Size) rest
      | .error fault => .error fault

/-- The duration a text stands for. A lone zero needs no unit. -/
def decode (text : String) : Except Fault Duration :=
  if text = "0" then .ok Duration.zero else decodeChars Duration.zero (.gap 0) 0 text.toList

end CensusNode.DurationText
