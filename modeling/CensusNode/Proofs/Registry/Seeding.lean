import CensusNode.Proofs.Census.Counter
import CensusNode.Proofs.Registry.Allocation

/-!
Registries that are opened on a control store. Its counter is seeded where there is none and is left
alone otherwise, and the registry counts from what seeding answers. With a counter that cannot be
read no registry is opened, and the store is left as it was found.
-/

namespace CensusNode

open Counter (seeding stored)

namespace Registry

variable {disk opened : Disk} {path root : String} {control : FileId} {next : CensusId}
  {registry : Registry}

/-- A registry that shows an identifier as the next one and grants it, as long as it is not the last
one and its census can be loaded. -/
structure CountsFrom (registry : Registry) (next : CensusId) : Prop where
  next_id : registry.nextId = .ok next
  granted : registry.newCensus.1 =
    if next.value.toNat = CensusId.limit then .error (.counter (.exhausted next))
    else (registry.resolve next).1.map fun _ => next

theorem counts_from_of_peek
    (peeked : Counter.peek (registry.disk.storeAt registry.control) = .ok next) :
    registry.CountsFrom next where
  next_id := by rw [nextId, peeked]
  granted := by
    rw [newCensus, next_pair_of_peek peeked]
    by_cases atLimit : next.value.toNat = CensusId.limit
    · rw [if_pos atLimit, if_pos atLimit]
    · rw [if_neg atLimit, if_neg atLimit]
      cases resolution : registry.resolve next with
      | mk answer later => cases answer <;> simp only [resolution, Except.map]

theorem content_of_open_store_in {directory : Option String} (formed : disk.WellFormed)
    (known : disk.HeldFilesKnown)
    (isOpen : openStoreIn disk directory path = (.ok control, opened)) :
    control < opened.contents.length ∧
      opened.content control = .store (opened.storeAt control) := by
  rcases open_store_in_cases known directory path with
    ⟨error, -, refused⟩ | ⟨-, refused⟩ | ⟨location, store, available, -, found⟩
  · rw [refused] at isOpen
    cases isOpen
  · rw [refused] at isOpen
    cases isOpen
  · rw [found] at isOpen
    obtain ⟨isControl, isOpened⟩ := Prod.mk.inj isOpen
    have madeFormed := Disk.prepare_well_formed formed directory
    have holds := Disk.with_store_holds madeFormed available.free store
    have contents := Disk.with_store_store_at madeFormed available.free store
    have named := Disk.with_store_named (disk.prepare directory).2 location store
    have inRange := (Disk.with_store_formed madeFormed available.free store).in_range _ _ named
    rw [Disk.file_of_named named, Option.some.injEq] at holds
    rw [← isOpened, ← Except.ok.inj isControl, Disk.store_at_hold, contents]
    exact ⟨inRange, holds⟩

/-- What becomes of a control store that could be opened: it is seeded, and a registry counts from
the answer, or it stays as it is, and there is no registry. -/
structure OpensSeeded (disk : Disk) (path root : String) (control : FileId) (opened : Disk) :
    Prop where
  seeded : ∀ next, (seeding (opened.storeAt control)).1 = .ok next →
    ∃ registry, openAt disk path root = (.ok registry, registry.disk) ∧
      registry.control = control ∧
      registry.disk.content control = .store (seeding (opened.storeAt control)).2 ∧
      registry.CountsFrom next
  refused : ∀ error, (seeding (opened.storeAt control)).1 = .error error →
    openAt disk path root = (.error (.counter error), opened.release control) ∧
      (opened.release control).content control = .store (opened.storeAt control)

theorem opens_seeded (formed : disk.WellFormed) (known : disk.HeldFilesKnown) (root : String)
    (isOpen : openStoreIn disk (Path.namedParent? path) path = (.ok control, opened)) :
    OpensSeeded disk path root control opened := by
  obtain ⟨inRange, isStore⟩ := content_of_open_store_in formed known isOpen
  have once := Counter.seeds_once (opened.storeAt control)
  constructor
  · intro next answered
    have seeded := Counter.seed_of_answered answered
    have peeked := once.peeked.trans answered
    generalize (seeding (opened.storeAt control)).2 = store at seeded peeked ⊢
    have written : (opened.setStore control store).content control = .store store :=
      Disk.content_set_content_self inRange
    refine ⟨⟨opened.setStore control store, control, root, [], 0⟩, ?_, rfl, written,
      counts_from_of_peek ?_⟩
    · simp only [openAt, isOpen, seeded]
    · rw [Disk.storeAt, written]
      exact peeked
  · intro error refused
    refine ⟨?_, isStore⟩
    simp only [openAt, isOpen, (Counter.seed_of_refused refused).1]

/-- Seeding never overwrites a counter, and the form of a counter is exact: whatever is in a store,
seeding once is seeding any number of times; what is written is read, and eight bytes are those that
are written for what is read in them. A control store that can be opened is seeded in this way, and
its registry shows and grants what seeding answered. -/
theorem seeding_never_overwrites :
    (∀ store, Counter.SeedsOnce store) ∧
    (∀ next store, Counter.read (Counter.tableOf (Counter.write next store)) = .ok next ∧
      ∃ bytes, stored (Counter.write next store) = some bytes ∧ bytes.length = 8 ∧
        Nat.ofDigits 256 (bytes.map UInt8.toNat) = next.value.toNat) ∧
    (∀ bytes : Bytes, bytes.length = 8 → ∃ next, Counter.read ⟨some bytes⟩ = .ok next ∧
      ∀ store, stored (Counter.write next store) = some bytes) ∧
    (∀ disk path root control opened, disk.WellFormed → disk.HeldFilesKnown →
      openStoreIn disk (Path.namedParent? path) path = (.ok control, opened) →
      OpensSeeded disk path root control opened) := by
  refine ⟨Counter.seeds_once, ?_, ?_, ?_⟩
  · intro next store
    have written := Counter.stored_write next store
    have readable := Counter.read_write next store
    have whole : (Counter.encode next).length = 8 := little_endian_length 8 _
    obtain ⟨same, decoded, -, number⟩ := Counter.decode_of_length whole
    rw [Counter.read_of_stored written, decoded] at readable
    rw [Except.ok.inj readable] at number
    exact ⟨Counter.read_write next store, _, written, whole, number.symm⟩
  · intro bytes whole
    obtain ⟨next, decoded, encoded, -⟩ := Counter.decode_of_length whole
    refine ⟨next, decoded, ?_⟩
    intro store
    rw [Counter.stored_write, encoded]
  · intro disk path root control opened formed known isOpen
    exact opens_seeded formed known root isOpen

def countingStore (bytes : Bytes) : Store := ⟨some ⟨some bytes⟩, CensusTables.empty⟩

def countingDisk (bytes : Bytes) : Disk :=
  (Disk.nothing.create ["control"] (.store (countingStore bytes))).2

theorem counting_disk_formed (bytes : Bytes) :
    (countingDisk bytes).WellFormed ∧ (countingDisk bytes).HeldFilesKnown :=
  ⟨Disk.nothing_well_formed.create rfl, fun _ held => by cases held⟩

theorem counting_disk_opened (bytes : Bytes) :
    openStoreIn (countingDisk bytes) (Path.namedParent? "control") "control" =
      (.ok 0, (countingDisk bytes).hold 0) := rfl

/-- Two bytes keep a registry from being opened, however often it is tried, and stay where they are.
With six zeros after them they are the counter of one. -/
theorem whole_counter_is_opened :
    Counter.seedings 2 (countingStore [2, 1]) =
        ([.error (.corrupted 2), .error (.corrupted 2)], countingStore [2, 1]) ∧
      (openAt (countingDisk [2, 1]) "control" "censuses").1 = .error (.counter (.corrupted 2)) ∧
      (openAt (countingDisk [2, 1]) "control" "censuses").2.content 0 =
        .store (countingStore [2, 1]) ∧
      ∃ registry, openAt (countingDisk [2, 1, 0, 0, 0, 0, 0, 0]) "control" "censuses" =
          (.ok registry, registry.disk) ∧
        registry.CountsFrom ⟨258⟩ ∧ registry.newCensus.1 = .ok ⟨258⟩ := by
  obtain ⟨once, -, -, opening⟩ := seeding_never_overwrites
  have opens (bytes : Bytes) := opening (countingDisk bytes) "control" "censuses" 0 _
    (counting_disk_formed bytes).1 (counting_disk_formed bytes).2 (counting_disk_opened bytes)
  have corrupted := (once (countingStore [2, 1])).corrupted [2, 1] rfl (by decide)
  have refused := (opens [2, 1]).refused (.corrupted 2) (congrArg Prod.fst corrupted)
  refine ⟨?_, ?_, ?_, ?_⟩
  · rw [(once (countingStore [2, 1])).again 1, corrupted]
    rfl
  · rw [refused.1]
  · rw [refused.1]
    exact refused.2
  · have answered : (seeding (countingStore [2, 1, 0, 0, 0, 0, 0, 0])).1 = .ok ⟨258⟩ := by decide
    obtain ⟨registry, opened, -, -, counts⟩ :=
      (opens [2, 1, 0, 0, 0, 0, 0, 0]).seeded ⟨258⟩ answered
    have granted : (openAt (countingDisk [2, 1, 0, 0, 0, 0, 0, 0]) "control"
        "censuses").1.toOption.map (fun registry => registry.newCensus.1.toOption) =
          some (some ⟨258⟩) := by
      decide +kernel
    rw [opened] at granted
    exact ⟨registry, opened, counts, eq_ok_of_to_option (Option.some.inj granted)⟩

end Registry

end CensusNode
