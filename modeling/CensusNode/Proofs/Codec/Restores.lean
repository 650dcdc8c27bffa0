import CensusNode.Codec.Basic
import CensusNode.Proofs.Codec.Varint
import CensusNode.Proofs.Text.Utf8Bytes
import Mathlib.Algebra.Group.Int.Defs

/-!
Codecs that give values back. A codec restores a value when it reads the value from the front of
its written form and leaves exactly what follows. Each way of building codecs carries this law from
the parts to the whole; lengths and numbers have to fit into their width.
-/

namespace CensusNode.Codec

variable {α β : Type}

/-- The codec reads the value from its written form and leaves what follows. -/
def Restores (codec : Codec α) (value : α) : Prop :=
  ∀ rest : Bytes, codec.decode (codec.encode value ++ rest) = .ok (value, rest)

theorem Restores.decode_value_append {codec : Codec α} {value : α}
    (restores : codec.Restores value) (rest : Bytes) :
    codec.decodeValue (codec.encode value ++ rest) = .ok value := by
  rw [decodeValue, restores]

theorem Restores.decode_value {codec : Codec α} {value : α} (restores : codec.Restores value) :
    codec.decodeValue (codec.encode value) = .ok value := by
  have found := restores.decode_value_append []
  rwa [List.append_nil] at found

theorem Restores.pair {first : Codec α} {second : Codec β} {value : α × β}
    (left : first.Restores value.1) (right : second.Restores value.2) :
    (first.pair second).Restores value := by
  intro rest
  simp only [Codec.pair, List.append_assoc]
  rw [left]
  simp only
  rw [right]

theorem Restores.refine {codec : Codec α} {pack : α → Except DecodeFault β} {unpack : β → α}
    {value : β} (restores : codec.Restores (unpack value))
    (packed : pack (unpack value) = .ok value) :
    (codec.refine pack unpack).Restores value := by
  intro rest
  simp only [Codec.refine]
  rw [restores]
  simp only [packed]

theorem Restores.map {codec : Codec α} {pack : α → β} {unpack : β → α} {value : β}
    (restores : codec.Restores (unpack value)) (packed : pack (unpack value) = value) :
    (codec.map pack unpack).Restores value :=
  restores.refine (congrArg Except.ok packed)

theorem constant_restores (value : α) : (constant value).Restores value := by
  intro rest
  rfl

theorem byte_restores (value : UInt8) : byte.Restores value := by
  intro rest
  rfl

theorem number_restores {width : Varint.Width} (sound : width.Sound) {value : Nat}
    (fits : value < width.capacity) : (number width).Restores value :=
  Varint.decode_encode sound fits

theorem count_restores {value : Nat} (fits : value < 2 ^ 64) : count.Restores value :=
  number_restores Varint.word64_sound (by rwa [Varint.word64_capacity])

theorem word16_restores (value : UInt16) : word16.Restores value := by
  apply Restores.map
  · apply number_restores Varint.word16_sound
    rw [Varint.word16_capacity]
    exact value.toNat_lt
  · exact UInt16.ofNat_toNat

theorem word64_restores (value : UInt64) : word64.Restores value := by
  apply Restores.map
  · apply number_restores Varint.word64_sound
    rw [Varint.word64_capacity]
    exact value.toNat_lt
  · exact UInt64.ofNat_toNat

theorem unzigzag_zigzag (value : Int) : unzigzag (zigzag value) = value := by
  unfold zigzag
  split
  · rw [unzigzag, if_pos (by omega)]
    simp only [Int.ofNat_eq_natCast]
    omega
  · rw [unzigzag, if_neg (by omega)]
    simp only [Int.ofNat_eq_natCast]
    omega

theorem zigzag_lt {value : Int} (least : -2 ^ 63 ≤ value) (greatest : value < 2 ^ 63) :
    zigzag value < 2 ^ 64 := by
  unfold zigzag
  split <;> omega

theorem signed64_restores (value : Int64) : signed64.Restores value := by
  apply Restores.map
  · apply number_restores Varint.word64_sound
    rw [Varint.word64_capacity]
    exact zigzag_lt value.le_toInt value.toInt_lt
  · rw [unzigzag_zigzag, Int64.ofInt_toInt]

theorem raw_restores {size : Nat} {value : Bytes} (exact_size : value.length = size) :
    (raw size).Restores value := by
  intro rest
  simp only [raw, List.length_append]
  rw [if_neg (by omega), ← exact_size, List.take_left, List.drop_left]

theorem block_restores {size : Nat} (value : Block size) : (block size).Restores value := by
  apply Restores.refine
  · exact raw_restores value.length_eq
  · simp only [Block.of_bytes_bytes]

theorem bytes_restores {value : Bytes} (fits : value.length < 2 ^ 64) : bytes.Restores value := by
  intro rest
  simp only [bytes, List.append_assoc]
  rw [Varint.decode_encode Varint.word64_sound (by rwa [Varint.word64_capacity])]
  exact raw_restores rfl rest

theorem text_restores {value : String} (fits : value.utf8ByteSize < 2 ^ 64) :
    text.Restores value := by
  apply Restores.refine
  · exact bytes_restores (by rwa [utf8_bytes_length])
  · simp only [text_of_utf8_bytes]

theorem option_restores {codec : Codec α} {value : Option α}
    (restores : ∀ present, value = some present → codec.Restores present) :
    codec.option.Restores value := by
  intro rest
  cases value with
  | none => rfl
  | some present =>
      have here := restores present rfl
      simp only [option, List.cons_append]
      rw [if_neg (by decide), if_pos trivial, here]

theorem tagged_restores {tag : α → Nat} {form : Nat → Option (Codec α)} {value : α}
    {codec : Codec α} (fits : tag value < 2 ^ 32) (found : form (tag value) = some codec)
    (restores : codec.Restores value) : (tagged tag form).Restores value := by
  intro rest
  simp only [tagged, List.append_assoc]
  rw [Varint.decode_encode Varint.word32_sound (by rwa [Varint.word32_capacity])]
  simp only [found]
  exact restores rest

theorem one_of_restores [DecidableEq α] {values : List α} (few : values.length ≤ 2 ^ 32)
    {value : α} (member : value ∈ values) : (oneOf values).Restores value := by
  have position : values.idxOf value < values.length := List.idxOf_lt_length_of_mem member
  have found : values[values.idxOf value]?.map constant = some (constant value) := by
    rw [List.getElem?_eq_getElem position, List.getElem_idxOf position]
    rfl
  exact tagged_restores (by omega) found (constant_restores value)

end CensusNode.Codec
