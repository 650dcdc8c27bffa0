/-!
Byte strings, blocks of a fixed size, numbers written as bytes in either order, and the UTF-8
bytes of a text. Reading a number back gives it modulo the written width.
-/

namespace CensusNode

abbrev Bytes := List UInt8

structure Block (size : Nat) where
  bytes : Bytes
  length_eq : bytes.length = size
deriving DecidableEq

namespace Block

def ofBytes? (size : Nat) (bytes : Bytes) : Option (Block size) :=
  if exact : bytes.length = size then some ⟨bytes, exact⟩ else none

@[simp]
theorem of_bytes_bytes {size : Nat} (block : Block size) :
    ofBytes? size block.bytes = some block := by
  simp [ofBytes?, block.length_eq]

theorem eq_of_bytes_eq {size : Nat} {left right : Block size}
    (same : left.bytes = right.bytes) : left = right := by
  cases left; cases right; simp_all

end Block

/-- The low `count` bytes of a number, least significant first. -/
def littleEndian : Nat → Nat → Bytes
  | 0, _ => []
  | count + 1, number => UInt8.ofNat (number % 256) :: littleEndian count (number / 256)

def ofLittleEndian : Bytes → Nat
  | [] => 0
  | byte :: rest => byte.toNat + 256 * ofLittleEndian rest

def bigEndian (count number : Nat) : Bytes := (littleEndian count number).reverse

def ofBigEndian (bytes : Bytes) : Nat :=
  bytes.foldl (fun number byte => 256 * number + byte.toNat) 0

@[simp]
theorem little_endian_length (count number : Nat) : (littleEndian count number).length = count := by
  induction count generalizing number with
  | zero => rfl
  | succ count induction => simp [littleEndian, induction]

@[simp]
theorem big_endian_length (count number : Nat) : (bigEndian count number).length = count := by
  simp [bigEndian]

def utf8Bytes (text : String) : Bytes := text.toList.flatMap String.utf8EncodeChar

def textOfUtf8? (bytes : Bytes) : Option String := String.fromUTF8? bytes.toByteArray

end CensusNode
