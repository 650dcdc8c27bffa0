import CensusNode.Bytes

/-!
Byte strings in the URL-safe base64 alphabet without padding. Each group of three bytes is four
characters; a last group of one or two bytes is two or three characters whose unused low bits are
zero. Reading accepts exactly what writing produces.
-/

namespace CensusNode.Base64

def symbol (value : Nat) : Char :=
  if value < 26 then Char.ofNat (65 + value)
  else if value < 52 then Char.ofNat (71 + value)
  else if value < 62 then Char.ofNat (value - 4)
  else if value = 62 then '-'
  else '_'

def symbolValue? (char : Char) : Option Nat :=
  let code := char.toNat
  if 65 ≤ code ∧ code ≤ 90 then some (code - 65)
  else if 97 ≤ code ∧ code ≤ 122 then some (code - 71)
  else if 48 ≤ code ∧ code ≤ 57 then some (code + 4)
  else if char = '-' then some 62
  else if char = '_' then some 63
  else none

def encodeChars : Bytes → List Char
  | [] => []
  | [a] => [symbol (a.toNat / 4), symbol (a.toNat % 4 * 16)]
  | [a, b] =>
      [symbol (a.toNat / 4), symbol (a.toNat % 4 * 16 + b.toNat / 16), symbol (b.toNat % 16 * 4)]
  | a :: b :: c :: rest =>
      symbol (a.toNat / 4) :: symbol (a.toNat % 4 * 16 + b.toNat / 16) ::
        symbol (b.toNat % 16 * 4 + c.toNat / 64) :: symbol (c.toNat % 64) :: encodeChars rest

def encode (bytes : Bytes) : String := String.ofList (encodeChars bytes)

/-- The bytes of a run of characters, unless a character is foreign, a single one is left over,
or unused bits are set. -/
def decodeChars? : List Char → Option Bytes
  | [] => some []
  | [_] => none
  | [first, second] => do
      let p ← symbolValue? first
      let q ← symbolValue? second
      if q % 16 = 0 then some [UInt8.ofNat (p * 4 + q / 16)] else none
  | [first, second, third] => do
      let p ← symbolValue? first
      let q ← symbolValue? second
      let r ← symbolValue? third
      if r % 4 = 0 then
        some [UInt8.ofNat (p * 4 + q / 16), UInt8.ofNat (q % 16 * 16 + r / 4)]
      else none
  | first :: second :: third :: fourth :: rest => do
      let p ← symbolValue? first
      let q ← symbolValue? second
      let r ← symbolValue? third
      let s ← symbolValue? fourth
      let bytes ← decodeChars? rest
      some (UInt8.ofNat (p * 4 + q / 16) :: UInt8.ofNat (q % 16 * 16 + r / 4) ::
        UInt8.ofNat (r % 4 * 64 + s) :: bytes)

def decode? (text : String) : Option Bytes := decodeChars? text.toList

end CensusNode.Base64
