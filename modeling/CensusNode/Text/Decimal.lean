/-!
Natural numbers in decimal digits. Writing gives no leading zeros. Reading allows leading zeros
and one leading plus sign, takes ASCII digits only, and refuses a number above the given limit
at the digit where it first exceeds it.
-/

namespace CensusNode.Decimal

inductive Fault where
  | empty
  | badDigit
  | tooLarge
deriving DecidableEq, Repr

def Fault.message : Fault → String
  | .empty => "cannot parse integer from empty string"
  | .badDigit => "invalid digit found in string"
  | .tooLarge => "number too large to fit in target type"

def digit (value : Nat) : Char := Char.ofNat (48 + value)

def digits (number : Nat) : List Char :=
  if number < 10 then [digit number] else digits (number / 10) ++ [digit (number % 10)]
termination_by number
decreasing_by omega

def encode (number : Nat) : String := String.ofList (digits number)

def encodeInt (number : Int) : String :=
  if number < 0 then "-" ++ encode number.natAbs else encode number.natAbs

/-- The digits of a number, filled up with zeros to at least `width`. -/
def padded (width number : Nat) : List Char :=
  List.replicate (width - (digits number).length) '0' ++ digits number

def digitValue? (char : Char) : Option Nat :=
  if 48 ≤ char.toNat ∧ char.toNat ≤ 57 then some (char.toNat - 48) else none

def decodeDigits (limit : Nat) : Nat → List Char → Except Fault Nat
  | number, [] => .ok number
  | number, char :: rest =>
      match digitValue? char with
      | none => .error .badDigit
      | some value =>
          let next := 10 * number + value
          if limit < next then .error .tooLarge else decodeDigits limit next rest

def decode (limit : Nat) (text : String) : Except Fault Nat :=
  match text.toList with
  | [] => .error .empty
  | ['+'] => .error .badDigit
  | '+' :: rest => decodeDigits limit 0 rest
  | chars => decodeDigits limit 0 chars

end CensusNode.Decimal
