import CensusNode.Codec.Varint

/-!
Compositional binary codecs. A codec writes a value as bytes and reads one value from the front
of a byte string, leaving the rest. Pairs, optional values, tagged choices and checked changes of
representation are built from the codecs of their parts, so that a law of all parts carries over
to the whole.
-/

namespace CensusNode

/-- A writer and a reader of one kind of value. -/
structure Codec (α : Type) where
  encode : α → Bytes
  decode : Bytes → Except DecodeFault (α × Bytes)

namespace Codec

variable {α β : Type}

/-- The value at the front of a byte string; what follows it is ignored. -/
def decodeValue (codec : Codec α) (bytes : Bytes) : Except DecodeFault α :=
  match codec.decode bytes with
  | .ok (value, _) => .ok value
  | .error fault => .error fault

def pair (first : Codec α) (second : Codec β) : Codec (α × β) where
  encode value := first.encode value.1 ++ second.encode value.2
  decode bytes :=
    match first.decode bytes with
    | .error fault => .error fault
    | .ok (left, rest) =>
        match second.decode rest with
        | .error fault => .error fault
        | .ok (right, rest) => .ok ((left, right), rest)

/-- A value written as another one, which may turn out not to stand for any. -/
def refine (codec : Codec α) (pack : α → Except DecodeFault β) (unpack : β → α) : Codec β where
  encode value := codec.encode (unpack value)
  decode bytes :=
    match codec.decode bytes with
    | .error fault => .error fault
    | .ok (raw, rest) =>
        match pack raw with
        | .error fault => .error fault
        | .ok value => .ok (value, rest)

def map (codec : Codec α) (pack : α → β) (unpack : β → α) : Codec β :=
  codec.refine (fun raw => .ok (pack raw)) unpack

def constant (value : α) : Codec α where
  encode _ := []
  decode bytes := .ok (value, bytes)

def byte : Codec UInt8 where
  encode value := [value]
  decode
    | [] => .error .endOfInput
    | value :: rest => .ok (value, rest)

def number (width : Varint.Width) : Codec Nat where
  encode value := Varint.encode value
  decode bytes := Varint.decode width bytes

def count : Codec Nat := number .word64

def word16 : Codec UInt16 := (number .word16).map UInt16.ofNat UInt16.toNat

def word64 : Codec UInt64 := (number .word64).map UInt64.ofNat UInt64.toNat

/-- Integers numbered 0, -1, 1, -2, 2 and so on. -/
def zigzag (value : Int) : Nat :=
  if 0 ≤ value then 2 * value.toNat else 2 * (-value).toNat - 1

def unzigzag (number : Nat) : Int :=
  if number % 2 = 0 then Int.ofNat (number / 2) else -Int.ofNat (number / 2 + 1)

def signed64 : Codec Int64 :=
  (number .word64).map (fun raw => Int64.ofInt (unzigzag raw)) (fun value => zigzag value.toInt)

def raw (size : Nat) : Codec Bytes where
  encode bytes := bytes
  decode bytes :=
    if bytes.length < size then .error .endOfInput else .ok (bytes.take size, bytes.drop size)

def block (size : Nat) : Codec (Block size) :=
  (raw size).refine
    (fun bytes => match Block.ofBytes? size bytes with
      | some block => .ok block
      | none => .error .endOfInput)
    Block.bytes

def bytes : Codec Bytes where
  encode value := Varint.encode value.length ++ value
  decode input :=
    match Varint.decode .word64 input with
    | .error fault => .error fault
    | .ok (size, rest) => (raw size).decode rest

def text : Codec String :=
  bytes.refine
    (fun raw => match textOfUtf8? raw with
      | some value => .ok value
      | none => .error .badUtf8)
    utf8Bytes

/-- An optional value, after a byte that says whether it is there. -/
def option (codec : Codec α) : Codec (Option α) where
  encode
    | none => [0]
    | some value => 1 :: codec.encode value
  decode
    | [] => .error .endOfInput
    | mark :: rest =>
        if mark = 0 then .ok (none, rest)
        else if mark = 1 then
          match codec.decode rest with
          | .ok (value, rest) => .ok (some value, rest)
          | .error fault => .error fault
        else .error .badOptionMark

def decodeItems (codec : Codec α) : Nat → Bytes → Except DecodeFault (List α × Bytes)
  | 0, bytes => .ok ([], bytes)
  | size + 1, bytes =>
      match codec.decode bytes with
      | .error fault => .error fault
      | .ok (value, rest) =>
          match decodeItems codec size rest with
          | .ok (values, rest) => .ok (value :: values, rest)
          | .error fault => .error fault

def list (codec : Codec α) : Codec (List α) where
  encode values := Varint.encode values.length ++ values.flatMap codec.encode
  decode input :=
    match Varint.decode .word64 input with
    | .error fault => .error fault
    | .ok (size, rest) => codec.decodeItems size rest

/-- A choice between alternatives, each after its tag and in a form of its own. -/
def tagged (tag : α → Nat) (form : Nat → Option (Codec α)) : Codec α where
  encode value :=
    Varint.encode (tag value) ++
      match form (tag value) with
      | some codec => codec.encode value
      | none => []
  decode input :=
    match Varint.decode .word32 input with
    | .error fault => .error fault
    | .ok (mark, rest) =>
        match form mark with
        | some codec => codec.decode rest
        | none => .error .badValue

/-- A choice between constants, each written as its position in the list of all. -/
def oneOf [DecidableEq α] (values : List α) : Codec α :=
  tagged (fun value => values.idxOf value) (fun mark => values[mark]?.map constant)

end Codec

end CensusNode
