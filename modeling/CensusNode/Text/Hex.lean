import CensusNode.Bytes
import CensusNode.Text.Decimal
import CensusNode.Text.Quoted

/-!
Byte strings written as hexadecimal digits. Writing gives two lower-case digits a byte. Reading
takes digits of either case, first refuses an odd number of UTF-8 bytes and then names the first
byte that is no digit. Leading `0x` marks are dropped by a function of their own.
-/

namespace CensusNode.Hex

inductive Fault where
  | oddLength
  | badDigit (byte : UInt8) (position : Nat)
deriving DecidableEq, Repr

/-- The wording of a fault. The byte is shown as the character of its code. -/
def Fault.message : Fault → String
  | .oddLength => "Odd number of digits"
  | .badDigit byte position =>
      "Invalid character " ++ Text.quotedChar (Char.ofNat byte.toNat) ++ " at position " ++
        Decimal.encode position

def digit (value : Nat) : Char :=
  if value < 10 then Char.ofNat (48 + value) else Char.ofNat (87 + value)

def byteDigits (byte : UInt8) : List Char := [digit (byte.toNat / 16), digit (byte.toNat % 16)]

def encode (bytes : Bytes) : String := String.ofList (bytes.flatMap byteDigits)

def digitValue? (byte : UInt8) : Option Nat :=
  let code := byte.toNat
  if 48 ≤ code ∧ code ≤ 57 then some (code - 48)
  else if 65 ≤ code ∧ code ≤ 70 then some (code - 55)
  else if 97 ≤ code ∧ code ≤ 102 then some (code - 87)
  else none

def decodePairs (position : Nat) : Bytes → Except Fault Bytes
  | high :: low :: rest =>
      match digitValue? high, digitValue? low with
      | none, _ => .error (.badDigit high position)
      | some _, none => .error (.badDigit low (position + 1))
      | some upper, some lower =>
          match decodePairs (position + 2) rest with
          | .ok bytes => .ok (UInt8.ofNat (16 * upper + lower) :: bytes)
          | .error fault => .error fault
  | _ => .ok []

def decode (text : String) : Except Fault Bytes :=
  let digits := utf8Bytes text
  if digits.length % 2 = 1 then .error .oddLength else decodePairs 0 digits

/-- What follows all leading `0x` marks. -/
def dropMarks : List Char → List Char
  | '0' :: 'x' :: rest => dropMarks rest
  | rest => rest

def decodeMarked (text : String) : Except Fault Bytes :=
  decode (String.ofList (dropMarks text.toList))

end CensusNode.Hex
