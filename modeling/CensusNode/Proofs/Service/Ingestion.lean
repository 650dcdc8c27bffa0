import CensusNode.Proofs.Service.Use

/-!
Adding a batch in the background. What becomes of the census is what becomes of it when the batch is
added directly; the outcome is not raised but written down as the status of the census, from where it
can be read. A census that cannot be loaded has no status, and nothing happens.
-/

namespace CensusNode

/-- A batch as it can lie in memory: its keys can be counted, and so can the bytes of each. -/
structure FitsMemory (keys : List PublicKey) : Prop where
  count : keys.length < 2 ^ 64
  lengths : ∀ key ∈ keys, key.bytes.length < 2 ^ 64

theorem CensusId.display_size_le (id : CensusId) : id.display.utf8ByteSize ≤ 87 :=
  size_append_le (Nat.le_of_eq rfl) (Decimal.encode_size_le _ id.value.toNat_lt)

theorem Rejection.message_size_le {tables : CensusTables} {seen : List Bytes} {key : PublicKey}
    {reason : Rejection} (fits : key.bytes.length < 2 ^ 64)
    (refused : IdentitySet.rejection? tables seen key = some reason) :
    reason.message.utf8ByteSize ≤ 200 := by
  unfold IdentitySet.rejection? at refused
  split at refused
  · have expected : "public key must be ".utf8ByteSize ≤ 19 := Nat.le_of_eq rfl
    have found : " bytes, got ".utf8ByteSize ≤ 12 := Nat.le_of_eq rfl
    have width := Decimal.encode_size_le PublicKey.memberLength (by decide)
    have length := Decimal.encode_size_le _ fits
    rw [← Option.some.inj refused]
    exact Nat.le_trans
      (size_append_le (size_append_le (size_append_le expected width) found) length) (by decide)
  · split at refused
    · rw [← Option.some.inj refused]
      decide
    · split at refused
      · rw [← Option.some.inj refused]
        decide
      · split at refused
        · rw [← Option.some.inj refused]
          decide
        · cases refused

namespace Registry

variable {id : CensusId} {keys : List PublicKey} {set : IdentitySet} {now : Instant}

theorem batch_result_eq_error {error : RegistryError}
    (refused : batchResult id keys set = .error error) :
    error = .identitySet id .closed ∨ ∃ first rest,
      IdentitySet.rejections set.tables [] 0 keys = first :: rest ∧
        error = .invalidKeys id keys.length (rest.length + 1) first.index first.reason := by
  rw [batchResult] at refused
  cases added : set.addKeys keys with
  | error fault =>
      left
      rw [added] at refused
      rw [IdentitySet.addKeys] at added
      split at added
      · rw [← Except.error.inj added] at refused
        exact (Except.error.inj refused).symm
      · split at added <;> cases added
  | ok pair =>
      right
      obtain ⟨rejected, next⟩ := pair
      rw [added] at refused
      obtain ⟨-, isRejected, -⟩ := IdentitySet.add_keys_cases added
      cases rejected with
      | nil => cases refused
      | cons first rest => exact ⟨first, rest, isRejected.symm, (Except.error.inj refused).symm⟩

end Registry

namespace RegistryError

/-- How many keys of a batch were refused and the position of the first, when that is the error. -/
def refusal? : RegistryError → Option (Nat × Nat)
  | .invalidKeys _ _ rejected firstIndex _ => some (rejected, firstIndex)
  | _ => none

end RegistryError

/-- A status that tells of an error. It has the details of a refused batch exactly when the error
does. -/
structure CensusStatus.Records (error : RegistryError) (now : Instant) (status : CensusStatus) :
    Prop where
  kind : status.kind = .failed
  message : status.message = error.message
  time : status.updatedAt = now
  failure : ∃ failure, status.error = some failure ∧ failure.code = error.code.number ∧
    failure.rejected.map UInt64.toNat = error.refusal?.map Prod.fst ∧
    failure.firstIndex.map UInt64.toNat = error.refusal?.map Prod.snd

/-- A status that tells of a batch that was added. -/
structure CensusStatus.Announces (count : Nat) (now : Instant) (status : CensusStatus) : Prop where
  kind : status.kind = .ready
  message : status.message = "added " ++ Decimal.encode count ++ " public keys"
  time : status.updatedAt = now
  failure : status.error = none

namespace Registry

variable {id : CensusId} {keys : List PublicKey} {set : IdentitySet} {now : Instant}

theorem batch_result_status_records (fits : FitsMemory keys) (now : Instant) {error : RegistryError}
    (refused : batchResult id keys set = .error error) :
    (error.toStatus now).Records error now := by
  rcases batch_result_eq_error refused with isClosed | ⟨first, rest, isRejected, isError⟩
  · rw [isClosed]
    exact ⟨rfl, rfl, rfl, _, rfl, rfl, rfl, rfl⟩
  · obtain ⟨few, below, -⟩ := IdentitySet.rejections_eq_cons isRejected
    have count : keys.length < UInt64.size := fits.count
    rw [isError]
    refine ⟨rfl, rfl, rfl, _, rfl, rfl, ?_, ?_⟩
    · exact congrArg some (UInt64.toNat_ofNat_of_lt' (Nat.lt_of_le_of_lt few count))
    · exact congrArg some (UInt64.toNat_ofNat_of_lt' (Nat.lt_trans below count))

theorem batch_error_size_le (fits : FitsMemory keys) {error : RegistryError}
    (refused : batchResult id keys set = .error error) : error.message.utf8ByteSize ≤ 575 := by
  have display := id.display_size_le
  have colon : ": ".utf8ByteSize ≤ 2 := Nat.le_of_eq rfl
  rcases batch_result_eq_error refused with isClosed | ⟨first, rest, isRejected, isError⟩
  · have closed : IdentityError.closed.message.utf8ByteSize ≤ 16 := Nat.le_of_eq rfl
    rw [isClosed]
    exact Nat.le_trans (size_append_le (size_append_le display colon) closed) (by decide)
  · obtain ⟨few, below, key, member, seen, isReason⟩ := IdentitySet.rejections_eq_cons isRejected
    have count := Decimal.encode_size_le _ fits.count
    have rejected := Decimal.encode_size_le _ (Nat.lt_of_le_of_lt few fits.count)
    have position := Decimal.encode_size_le _ (Nat.lt_trans below fits.count)
    have reason := Rejection.message_size_le (fits.lengths key member) isReason
    have verb : " rejected ".utf8ByteSize ≤ 10 := Nat.le_of_eq rfl
    have among : " of ".utf8ByteSize ≤ 4 := Nat.le_of_eq rfl
    have place : " public keys, first at position ".utf8ByteSize ≤ 32 := Nat.le_of_eq rfl
    rw [isError]
    exact size_append_le (size_append_le (size_append_le (size_append_le (size_append_le
      (size_append_le (size_append_le (size_append_le display verb) rejected) among) count) place)
        position) colon) reason

/-- Whatever comes of a batch is told in a message that can be written down. -/
theorem ingest_status_fits (fits : FitsMemory keys) (now : Instant) (id : CensusId)
    (set : IdentitySet) :
    (ingestStatus keys now (batchResult id keys set)).message.utf8ByteSize < 2 ^ 64 := by
  cases outcome : batchResult id keys set with
  | ok value =>
      have count := Decimal.encode_size_le _ fits.count
      have before : "added ".utf8ByteSize ≤ 6 := Nat.le_of_eq rfl
      have after : " public keys".utf8ByteSize ≤ 12 := Nat.le_of_eq rfl
      exact Nat.lt_of_le_of_lt (size_append_le (size_append_le before count) after) (by decide)
  | error error =>
      unfold ingestStatus
      rw [(batch_result_status_records fits now outcome).message]
      exact Nat.lt_of_le_of_lt (batch_error_size_le fits outcome) (by decide)

end Registry

namespace IdentitySet

/-- Two sets with the same members, the same root and in the same state. Their statuses may differ. -/
structure SameMembership (left right : IdentitySet) : Prop where
  members : left.tables.members = right.tables.members
  lookup : left.tables.lookup = right.tables.lookup
  count : left.memberCount = right.memberCount
  root : left.root = right.root
  state : left.state = right.state

theorem same_membership_set_status (set : IdentitySet) (status : CensusStatus) :
    (set.setStatus status).SameMembership set :=
  ⟨rfl, rfl, rfl, rfl, rfl⟩

def Tells (set : IdentitySet) (keys : List PublicKey) (now : Instant) :
    Except RegistryError Unit → Prop
  | .ok () => ∃ status, set.status = .ok (some status) ∧ status.Announces keys.length now
  | .error error => ∃ status, set.status = .ok (some status) ∧ status.Records error now

theorem tells_set_status {keys : List PublicKey} {now : Instant} (fits : FitsMemory keys)
    (id : CensusId) (given submitted : IdentitySet) :
    (given.setStatus (Registry.ingestStatus keys now
      (Registry.batchResult id keys submitted))).Tells keys now
        (Registry.batchResult id keys submitted) := by
  have short := Registry.ingest_status_fits fits now id submitted
  have isRead := given.status_set_status short
  cases outcome : Registry.batchResult id keys submitted with
  | ok value =>
      rw [outcome] at isRead
      exact ⟨_, isRead, rfl, rfl, rfl, rfl⟩
  | error error =>
      rw [outcome] at isRead
      exact ⟨_, isRead, Registry.batch_result_status_records fits now outcome⟩

end IdentitySet

namespace Service

variable {service : Service} {id : CensusId} {keys : List PublicKey} {now : Instant}

theorem add_keys_answer (service : Service) (id : CensusId) (keys : List PublicKey) :
    (service.addKeys id keys).1 =
      match service.registry.setAt id with
      | .error error => .error (.registry error)
      | .ok set => (Registry.batchResult id keys set).mapError .registry := by
  rw [addKeys, lift, Registry.add_keys_fst]
  cases service.registry.setAt id with
  | error error => rfl
  | ok set =>
      simp only
      cases Registry.batchResult id keys set <;> rfl

/-- What adding a batch in the background comes to, next to adding it directly. Nothing is answered.
A census that can be loaded has the members, the root and the state that it would have, on disk too,
and its status tells the answer that there would have been; one that cannot be loaded is left
alone. -/
structure IngestsAs (service : Service) (id : CensusId) (keys : List PublicKey) (now : Instant) :
    Prop where
  silent : (service.perform (.ingest id keys now)).1 = .nothing
  shared : SharedKept service (service.ingest id keys now)
  others : ∀ other, other ≠ id →
    Registry.Unchanged other service.registry (service.ingest id keys now).registry
  loadable : ∀ set, service.registry.setAt id = .ok set → ∃ added recorded result,
    (service.addKeys id keys).2.registry.setAt id = .ok added ∧
    (service.ingest id keys now).registry.setAt id = .ok recorded ∧
    (service.ingest id keys now).registry.persisted id = .ok recorded.tables ∧
    recorded.SameMembership added ∧
    (service.addKeys id keys).1 = result.mapError .registry ∧ recorded.Tells keys now result
  unloadable : ∀ error, service.registry.setAt id = .error error →
    (service.addKeys id keys).1 = .error (.registry error) ∧
    Registry.Unchanged id service.registry (service.addKeys id keys).2.registry ∧
    Registry.Unchanged id service.registry (service.ingest id keys now).registry ∧
    (service.ingest id keys now).registry.loaded = service.registry.loaded

theorem IsHoused.ingests_as (housed : service.IsHoused) (fits : FitsMemory keys) (id : CensusId)
    (now : Instant) : service.IngestsAs id keys now := by
  obtain ⟨⟨name, above, after⟩, shared, unchanged⟩ := housed.serve (.ingest id keys now)
  obtain ⟨_, _, before⟩ := housed
  constructor
  · rfl
  · exact shared
  · exact fun other different => unchanged other fun _ => different
  · intro set isSet
    have recorded := before.set_at_serve (.ingest id keys now)
    have added := before.set_at_add_keys id keys
    rw [CensusRequest.id, isSet] at recorded
    rw [isSet] at added
    refine ⟨_, _, Registry.batchResult id keys set, ?_, recorded,
      after.persisted_of_set_at recorded, IdentitySet.same_membership_set_status _ _, ?_,
      IdentitySet.tells_set_status fits id _ set⟩
    · rw [addKeys, lift_snd]
      exact added
    · rw [add_keys_answer, isSet]
  · intro error failed
    refine ⟨?_, ?_, before.serve_unloadable (.ingest id keys now) failed⟩
    · rw [add_keys_answer, failed]
    · rw [addKeys, lift_snd]
      exact (before.serve_unloadable (.addKeys id keys) failed).1

/-- Adding a batch in the background agrees with adding it directly, at the end of every run. -/
theorem ingestion_agrees {config : NodeConfig} {before : Disk} {opened : Service}
    {steps : List ServiceStep} {answers : List ServiceAnswer} (formed : before.WellFormed)
    (known : before.HeldFilesKnown) (opening : (openNode before config).1 = .done opened)
    (ran : opened.run config steps = some (answers, service)) (fits : FitsMemory keys)
    (id : CensusId) (now : Instant) : service.IngestsAs id keys now :=
  (in_use_of_run formed known opening ran).housed.ingests_as fits id now

def repeatedKeys : List PublicKey := [sharedKey, sharedKey]

def ingested (answer : Except ServiceError CensusInfo) : Option (CensusStatus × Nat) := do
  let info ← answer.toOption
  let status ← info.status
  return (status, info.members)

def oneAdded : CensusStatus := ⟨.ready, "added 1 public keys", none, .epoch⟩

def secondRefused : CensusStatus :=
  ⟨.failed, "census:0 rejected 1 of 2 public keys, first at position 1: public key repeated in batch",
    some ⟨2001, some 1, some 1⟩, .epoch⟩

/-- A key is added to a new census, which its status then tells. Given twice to a new one, the key is
refused the second time. -/
theorem usual_ingestion_agrees :
    ∃ opened answers service, (openNode blankDisk usualSite.config).1 = .done opened ∧
      opened.run usualSite.config [.operation .newCensus] = some (answers, service) ∧
      service.IngestsAs ⟨0⟩ [sharedKey] .epoch ∧ service.IngestsAs ⟨0⟩ repeatedKeys .epoch ∧
      ingested ((service.ingest ⟨0⟩ [sharedKey] .epoch).censusInfo ⟨0⟩).1 = some (oneAdded, 1) ∧
      ingested ((service.ingest ⟨0⟩ repeatedKeys .epoch).censusInfo ⟨0⟩).1 =
        some (secondRefused, 0) := by
  have computed : (opened? blankDisk usualSite.config).map (fun opened =>
      (opened.run usualSite.config [.operation .newCensus]).map fun ran =>
        (ingested ((ran.2.ingest ⟨0⟩ [sharedKey] .epoch).censusInfo ⟨0⟩).1,
          ingested ((ran.2.ingest ⟨0⟩ repeatedKeys .epoch).censusInfo ⟨0⟩).1)) =
      some (some (some (oneAdded, 1), some (secondRefused, 0))) := by
    decide +kernel
  obtain ⟨opened, found, runs⟩ := Option.map_eq_some_iff.mp computed
  obtain ⟨⟨answers, service⟩, ran, both⟩ := Option.map_eq_some_iff.mp runs
  obtain ⟨added, refused⟩ := Prod.mk.inj both
  have opening := opened_eq_some found
  have known : blankDisk.HeldFilesKnown := fun _ held => by cases held
  have agrees {keys : List PublicKey} (fits : FitsMemory keys) : service.IngestsAs ⟨0⟩ keys .epoch :=
    ingestion_agrees blank_disk_well_formed known opening ran fits ⟨0⟩ .epoch
  have short : FitsMemory [sharedKey] := ⟨by decide, by decide⟩
  have long : FitsMemory repeatedKeys := ⟨by decide, by decide⟩
  exact ⟨opened, answers, service, opening, ran, agrees short, agrees long, added, refused⟩

end Service

end CensusNode
