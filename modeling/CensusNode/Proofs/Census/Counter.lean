import CensusNode.Proofs.Census.Records
import Mathlib.Data.Nat.Digits.Defs

/-!
The counter of census identifiers as bytes, and what seeding it does to a store. Eight bytes and the
identifier that they stand for determine each other. Seeding writes only where nothing is stored, so
that seeding again answers the same and writes nothing; bytes of any other length stay as they are.
-/

namespace CensusNode

theorem of_little_endian_eq_of_digits (bytes : Bytes) :
    ofLittleEndian bytes = Nat.ofDigits 256 (bytes.map UInt8.toNat) := by
  induction bytes with
  | nil => rfl
  | cons byte rest induction =>
      rw [ofLittleEndian, induction, List.map_cons, Nat.ofDigits_cons]

theorem of_little_endian_lt (bytes : Bytes) : ofLittleEndian bytes < 256 ^ bytes.length := by
  rw [of_little_endian_eq_of_digits, ← List.length_map UInt8.toNat]
  apply Nat.ofDigits_lt_base_pow_length (by decide)
  intro digit member
  obtain ⟨byte, -, rfl⟩ := List.mem_map.mp member
  exact byte.toNat_lt

theorem little_endian_of_little_endian (bytes : Bytes) :
    littleEndian bytes.length (ofLittleEndian bytes) = bytes := by
  induction bytes with
  | nil => rfl
  | cons byte rest induction =>
      have small := byte.toNat_lt
      have low : (byte.toNat + 256 * ofLittleEndian rest) % 256 = byte.toNat := by omega
      have high : (byte.toNat + 256 * ofLittleEndian rest) / 256 = ofLittleEndian rest := by omega
      rw [List.length_cons, ofLittleEndian, littleEndian, low, high, induction, UInt8.ofNat_toNat]

namespace Counter

theorem decode_of_length {bytes : Bytes} (whole : bytes.length = 8) :
    ∃ next, decode bytes = .ok next ∧ encode next = bytes ∧
      next.value.toNat = Nat.ofDigits 256 (bytes.map UInt8.toNat) := by
  have fits := of_little_endian_lt bytes
  rw [whole] at fits
  have number : (UInt64.ofNat (ofLittleEndian bytes)).toNat = ofLittleEndian bytes :=
    UInt64.toNat_ofNat_of_lt' fits
  refine ⟨⟨UInt64.ofNat (ofLittleEndian bytes)⟩, if_pos whole, ?_, ?_⟩
  · have again := little_endian_of_little_endian bytes
    rwa [whole, ← number] at again
  · rw [number, of_little_endian_eq_of_digits]

theorem decode_of_length_ne {bytes : Bytes} (other : bytes.length ≠ 8) :
    decode bytes = .error (.corrupted bytes.length) := if_neg other

def stored (store : Store) : Option Bytes := (tableOf store).counter

/-- Seeding with the store that it leaves: what is refused leaves the store alone. -/
def seeding (store : Store) : Except CounterError CensusId × Store :=
  match seed store with
  | .ok (next, seeded) => (.ok next, seeded)
  | .error error => (.error error, store)

/-- Seeding several times, each time the store that was left: all answers and the last store. -/
def seedings : Nat → Store → List (Except CounterError CensusId) × Store
  | 0, store => ([], store)
  | count + 1, store =>
      let later := seedings count (seeding store).2
      ((seeding store).1 :: later.1, later.2)

variable {store : Store} {bytes : Bytes} {next : CensusId} {error : CounterError}

theorem seed_of_answered (answered : (seeding store).1 = .ok next) :
    seed store = .ok (next, (seeding store).2) := by
  rw [seeding] at *
  cases seeded : seed store with
  | ok pair =>
      rw [seeded] at answered
      rw [← Except.ok.inj answered]
  | error error =>
      rw [seeded] at answered
      cases answered

theorem seed_of_refused (refused : (seeding store).1 = .error error) :
    seed store = .error error ∧ (seeding store).2 = store := by
  rw [seeding] at *
  cases seeded : seed store with
  | ok pair =>
      rw [seeded] at refused
      cases refused
  | error other =>
      rw [seeded] at refused
      exact ⟨congrArg Except.error (Except.error.inj refused), rfl⟩

theorem read_of_stored (found : stored store = some bytes) :
    read (tableOf store) = decode bytes := by
  rw [stored] at found
  rw [read, found]

theorem seeding_of_absent (absent : stored store = none) :
    seeding store = (.ok ⟨0⟩, write ⟨0⟩ store) := by
  rw [stored] at absent
  rw [seeding, seed, read, absent]

theorem seeding_of_stored (found : stored store = some bytes) :
    seeding store = (decode bytes, store) := by
  rw [seeding, seed, read_of_stored found]
  by_cases whole : bytes.length = 8
  · obtain ⟨next, decoded, -⟩ := decode_of_length whole
    rw [decoded]
  · rw [decode_of_length_ne whole]

theorem stored_write (next : CensusId) (store : Store) :
    stored (write next store) = some (encode next) := rfl

theorem peek_of_stored (found : stored store = some bytes) : peek store = decode bytes := by
  rw [stored, tableOf] at found
  rw [peek]
  cases control : store.control with
  | none =>
      rw [control] at found
      cases found
  | some table =>
      rw [control] at found
      simp only [read]
      rw [Option.getD_some] at found
      rw [found]

/-- Seeding leaves bytes behind that are answered from then on. -/
theorem stored_seeding (store : Store) :
    ∃ bytes, stored (seeding store).2 = some bytes ∧ (seeding store).1 = decode bytes := by
  cases found : stored store with
  | none =>
      rw [seeding_of_absent found]
      have zero := read_write ⟨0⟩ store
      rw [read_of_stored (stored_write ⟨0⟩ store)] at zero
      exact ⟨_, stored_write ⟨0⟩ store, zero.symm⟩
  | some bytes =>
      rw [seeding_of_stored found]
      exact ⟨bytes, found, rfl⟩

theorem seeding_again (store : Store) : seeding (seeding store).2 = seeding store := by
  obtain ⟨bytes, found, answered⟩ := stored_seeding store
  rw [seeding_of_stored found, ← answered]

theorem seedings_eq (count : Nat) (store : Store) :
    seedings (count + 1) store =
      (List.replicate (count + 1) (seeding store).1, (seeding store).2) := by
  induction count generalizing store with
  | zero => rfl
  | succ count induction =>
      rw [seedings, induction, seeding_again]
      rfl

structure SeedsOnce (store : Store) : Prop where
  absent : stored store = none → seeding store = (.ok ⟨0⟩, write ⟨0⟩ store)
  changed_iff : (seeding store).2 ≠ store ↔ stored store = none
  whole : ∀ bytes, stored store = some bytes → bytes.length = 8 →
    ∃ next, seeding store = (.ok next, store) ∧
      next.value.toNat = Nat.ofDigits 256 (bytes.map UInt8.toNat)
  corrupted : ∀ bytes, stored store = some bytes → bytes.length ≠ 8 →
    seeding store = (.error (.corrupted bytes.length), store)
  again : ∀ count, seedings (count + 1) store =
    (List.replicate (count + 1) (seeding store).1, (seeding store).2)
  peeked : peek (seeding store).2 = (seeding store).1

theorem seeds_once (store : Store) : SeedsOnce store where
  absent := seeding_of_absent
  changed_iff := by
    cases found : stored store with
    | none =>
        rw [seeding_of_absent found]
        refine iff_of_true ?_ rfl
        intro same
        rw [← same, stored_write] at found
        cases found
    | some bytes =>
        rw [seeding_of_stored found]
        exact iff_of_false (fun different => different rfl) (by simp)
  whole bytes found whole := by
    obtain ⟨next, decoded, -, number⟩ := decode_of_length whole
    refine ⟨next, ?_, number⟩
    rw [seeding_of_stored found, decoded]
  corrupted bytes found other := by
    rw [seeding_of_stored found, decode_of_length_ne other]
  again count := seedings_eq count store
  peeked := by
    obtain ⟨bytes, found, answered⟩ := stored_seeding store
    rw [peek_of_stored found, answered]

end Counter

end CensusNode
