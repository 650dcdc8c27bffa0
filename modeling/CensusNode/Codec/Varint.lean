import CensusNode.Bytes

/-!
Variable-length numbers: seven bits a byte, lowest first, every byte but the last with its high
bit set. A width limits the number of bytes and the value of the last allowed one, so that no
number outside the width is read; longer spellings of a number within the width are accepted.
-/

namespace CensusNode

/-- Why bytes are not the written form of a value. A reader that is brought down gives no answer. -/
inductive DecodeFault where
  | endOfInput
  | unterminatedVarint
  | badOptionMark
  | badUtf8
  | badValue
  | crashed
deriving DecidableEq, Repr

def DecodeFault.message : DecodeFault → String
  | .endOfInput => "Hit the end of buffer, expected more data"
  | .unterminatedVarint =>
      "Found a varint that didn't terminate. Is the usize too big for this platform?"
  | .badOptionMark => "Found an Option discriminant that wasn't 0 or 1"
  | .badUtf8 => "Tried to parse invalid utf-8"
  | .badValue => "Serde Deserialization Error"
  | .crashed => "value brings its reader down"

namespace Varint

/-- The number of bytes a reader takes at most, and the largest value of the last of them. -/
structure Width where
  bytes : Nat
  lastLimit : Nat

def Width.word16 : Width := ⟨3, 0x03⟩

def Width.word32 : Width := ⟨5, 0x0f⟩

def Width.word64 : Width := ⟨10, 0x01⟩

def encode (number : Nat) : Bytes :=
  if number < 128 then [UInt8.ofNat number]
  else UInt8.ofNat (number % 128 + 128) :: encode (number / 128)
termination_by number
decreasing_by omega

def decodeWithin (lastLimit : Nat) : Nat → Bytes → Except DecodeFault (Nat × Bytes)
  | 0, _ => .error .unterminatedVarint
  | _ + 1, [] => .error .endOfInput
  | remaining + 1, byte :: rest =>
      if byte.toNat < 128 then
        if remaining = 0 ∧ lastLimit < byte.toNat then .error .unterminatedVarint
        else .ok (byte.toNat, rest)
      else
        match decodeWithin lastLimit remaining rest with
        | .ok (high, rest) => .ok (byte.toNat - 128 + 128 * high, rest)
        | .error fault => .error fault

def decode (width : Width) (bytes : Bytes) : Except DecodeFault (Nat × Bytes) :=
  decodeWithin width.lastLimit width.bytes bytes

end Varint

end CensusNode
