import CensusNode.Bytes

/-!
The SHA-256 digest of a byte string. The message is padded to whole blocks of 64 bytes, each
block is expanded to 64 words, and 64 rounds of the compression function carry the eight words
of the state from block to block. A digest has 32 bytes by construction.
-/

namespace CensusNode

abbrev Digest := Block 32

namespace Sha256

structure State where
  a : UInt32
  b : UInt32
  c : UInt32
  d : UInt32
  e : UInt32
  f : UInt32
  g : UInt32
  h : UInt32

/-- The fractional bits of the square roots of the first eight primes. -/
def State.start : State :=
  ⟨0x6a09e667, 0xbb67ae85, 0x3c6ef372, 0xa54ff53a, 0x510e527f, 0x9b05688c, 0x1f83d9ab, 0x5be0cd19⟩

/-- The fractional bits of the cube roots of the first 64 primes. -/
def roundConstants : List UInt32 :=
  [0x428a2f98, 0x71374491, 0xb5c0fbcf, 0xe9b5dba5, 0x3956c25b, 0x59f111f1, 0x923f82a4, 0xab1c5ed5,
   0xd807aa98, 0x12835b01, 0x243185be, 0x550c7dc3, 0x72be5d74, 0x80deb1fe, 0x9bdc06a7, 0xc19bf174,
   0xe49b69c1, 0xefbe4786, 0x0fc19dc6, 0x240ca1cc, 0x2de92c6f, 0x4a7484aa, 0x5cb0a9dc, 0x76f988da,
   0x983e5152, 0xa831c66d, 0xb00327c8, 0xbf597fc7, 0xc6e00bf3, 0xd5a79147, 0x06ca6351, 0x14292967,
   0x27b70a85, 0x2e1b2138, 0x4d2c6dfc, 0x53380d13, 0x650a7354, 0x766a0abb, 0x81c2c92e, 0x92722c85,
   0xa2bfe8a1, 0xa81a664b, 0xc24b8b70, 0xc76c51a3, 0xd192e819, 0xd6990624, 0xf40e3585, 0x106aa070,
   0x19a4c116, 0x1e376c08, 0x2748774c, 0x34b0bcb5, 0x391c0cb3, 0x4ed8aa4a, 0x5b9cca4f, 0x682e6ff3,
   0x748f82ee, 0x78a5636f, 0x84c87814, 0x8cc70208, 0x90befffa, 0xa4506ceb, 0xbef9a3f7, 0xc67178f2]

def rotateRight (word amount : UInt32) : UInt32 :=
  (word >>> amount) ||| (word <<< (32 - amount))

/-- The message, a set bit, zeros up to 8 bytes short of a whole block, and the bit length. -/
def pad (message : Bytes) : Bytes :=
  message ++ 0x80 :: List.replicate ((119 - message.length % 64) % 64) 0 ++
    bigEndian 8 (8 * message.length)

def words : Bytes → List UInt32
  | a :: b :: c :: d :: rest => UInt32.ofNat (ofBigEndian [a, b, c, d]) :: words rest
  | _ => []

/-- The next schedule word, from the sixteen before it, the latest first. -/
def nextWord (latest : List UInt32) : UInt32 :=
  let two := latest.getD 1 0
  let fifteen := latest.getD 14 0
  let late := rotateRight two 17 ^^^ rotateRight two 19 ^^^ (two >>> 10)
  let early := rotateRight fifteen 7 ^^^ rotateRight fifteen 18 ^^^ (fifteen >>> 3)
  late + latest.getD 6 0 + early + latest.getD 15 0

/-- `count` further schedule words in front of the latest ones. -/
def extend : Nat → List UInt32 → List UInt32
  | 0, latest => latest
  | count + 1, latest => extend count (nextWord latest :: latest)

def schedule (block : List UInt32) : List UInt32 := (extend 48 block.reverse).reverse

def round (state : State) (input : UInt32 × UInt32) : State :=
  let bigOne := rotateRight state.e 6 ^^^ rotateRight state.e 11 ^^^ rotateRight state.e 25
  let choice := (state.e &&& state.f) ^^^ ((~~~state.e) &&& state.g)
  let first := state.h + bigOne + choice + input.2 + input.1
  let bigZero := rotateRight state.a 2 ^^^ rotateRight state.a 13 ^^^ rotateRight state.a 22
  let majority := (state.a &&& state.b) ^^^ (state.a &&& state.c) ^^^ (state.b &&& state.c)
  let second := bigZero + majority
  { a := first + second, b := state.a, c := state.b, d := state.c
    e := state.d + first, f := state.e, g := state.f, h := state.g }

def State.add (left right : State) : State :=
  ⟨left.a + right.a, left.b + right.b, left.c + right.c, left.d + right.d,
   left.e + right.e, left.f + right.f, left.g + right.g, left.h + right.h⟩

def compress (state : State) (block : List UInt32) : State :=
  state.add (((schedule block).zip roundConstants).foldl round state)

def absorb (state : State) (input : List UInt32) : State :=
  if 16 ≤ input.length then absorb (compress state (input.take 16)) (input.drop 16) else state
termination_by input.length
decreasing_by simp only [List.length_drop]; omega

def State.digest (state : State) : Digest where
  bytes :=
    bigEndian 4 state.a.toNat ++ bigEndian 4 state.b.toNat ++ bigEndian 4 state.c.toNat ++
    bigEndian 4 state.d.toNat ++ bigEndian 4 state.e.toNat ++ bigEndian 4 state.f.toNat ++
    bigEndian 4 state.g.toNat ++ bigEndian 4 state.h.toNat
  length_eq := by simp

end Sha256

def sha256 (message : Bytes) : Digest :=
  (Sha256.absorb Sha256.State.start (Sha256.words (Sha256.pad message))).digest

end CensusNode
