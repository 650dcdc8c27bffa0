import CensusNode.Command
import CensusNode.Proofs.Ledger.Listing
import CensusNode.Proofs.Service.Legible
import CensusNode.Proofs.Text.Hex

/-!
Commands are carried out or change nothing. Arguments are decoded before anything is asked of the
service; a change that is refused leaves identifiers, rows and censuses as they were; and once a
change is made, reading its result back cannot fail.
-/

namespace CensusNode

/-- A command about censuses whose texts can lie in memory. -/
def CensusAction.FitsMemory : CensusAction → Prop
  | .addKeys _ keys _ => keys.length < 2 ^ 64 ∧ ∀ text ∈ keys, text.utf8ByteSize < 2 ^ 64
  | .setStatus _ message => message.utf8ByteSize < 2 ^ 64
  | _ => True

/-- A command about votes for which the ledger has a number, at a time that it can hold: none in the
leap second after the very last second. -/
def VotesAction.FitsLedger (service : Service) (now : Instant) : VotesAction → Prop
  | .store _ _ _ _ _ _ =>
      VoteRows.nextSeq service.rows ≤ maxRowInteger ∧ now.micros ≤ Instant.latestMicros
  | _ => True

theorem Command.decode_keys_eq_ok {texts : List String} {keys : List PublicKey}
    (decoded : decodeKeys texts = .ok keys) : keys.length = texts.length ∧
      ∀ key ∈ keys, ∃ text ∈ texts, Hex.decodeMarked text = .ok key.bytes := by
  induction texts generalizing keys with
  | nil =>
      rw [← Except.ok.inj decoded]
      exact ⟨rfl, fun key member => absurd member List.not_mem_nil⟩
  | cons text rest induction =>
      rw [decodeKeys, decodeHex] at decoded
      cases first : Hex.decodeMarked text with
      | error fault =>
          rw [first] at decoded
          cases decoded
      | ok bytes =>
          cases others : decodeKeys rest with
          | error error =>
              rw [first, others] at decoded
              cases decoded
          | ok more =>
              rw [first, others] at decoded
              obtain ⟨length, each⟩ := induction others
              rw [← Except.ok.inj decoded]
              refine ⟨congrArg Nat.succ length, ?_⟩
              intro key member
              rcases List.mem_cons.mp member with rfl | isOther
              · exact ⟨text, List.mem_cons_self, first⟩
              · obtain ⟨origin, isText, isKey⟩ := each key isOther
                exact ⟨origin, List.mem_cons_of_mem _ isText, isKey⟩

theorem Command.decode_keys_fit {texts : List String} {keys : List PublicKey}
    (count : texts.length < 2 ^ 64) (sizes : ∀ text ∈ texts, text.utf8ByteSize < 2 ^ 64)
    (decoded : decodeKeys texts = .ok keys) : FitsMemory keys := by
  obtain ⟨length, each⟩ := decode_keys_eq_ok decoded
  constructor
  · exact Nat.lt_of_le_of_lt (Nat.le_of_eq length) count
  · intro key member
    obtain ⟨text, isText, isKey⟩ := each key member
    exact Nat.lt_of_le_of_lt (Hex.decode_marked_length_le isKey) (sizes text isText)

namespace Service

variable {service later : Service} {id : CensusId} {keys : List PublicKey} {now : Instant}

/-- The counter of identifiers, the rows of the ledger and all censuses are as they were. -/
structure Preserved (service later : Service) : Prop where
  counter : later.registry.nextId = service.registry.nextId
  rows : later.rows = service.rows
  censuses : ∀ id, Registry.Unchanged id service.registry later.registry

theorem Preserved.refl (service : Service) : Preserved service service :=
  ⟨rfl, rfl, fun id => .refl id _⟩

theorem Preserved.trans {last : Service} (first : Preserved service later)
    (second : Preserved later last) : Preserved service last where
  counter := second.counter.trans first.counter
  rows := second.rows.trans first.rows
  censuses id := (first.censuses id).trans (second.censuses id)

theorem SharedKept.preserved (shared : SharedKept service later)
    (censuses : ∀ id, Registry.Unchanged id service.registry later.registry) :
    Preserved service later where
  counter := shared.counter
  rows := by
    rw [rows, rows, shared.ledger, OpenLedger.rows, OpenLedger.rows, Disk.rowsAt, Disk.rowsAt,
      shared.content]
  censuses := censuses

theorem IsHoused.preserved_serve (housed : service.IsHoused) (request : CensusRequest)
    (own : Registry.Unchanged request.id service.registry (service.registry.serve request)) :
    Preserved service { service with registry := service.registry.serve request } := by
  obtain ⟨-, shared, unchanged⟩ := housed.serve request
  apply shared.preserved
  intro other
  by_cases isOwn : other = request.id
  · rw [isOwn]
    exact own
  · exact unchanged other fun _ => isOwn

theorem IsHoused.preserved_resolve (housed : service.IsHoused) (id : CensusId) :
    Preserved service { service with registry := (service.registry.resolve id).2 } := by
  apply housed.preserved_serve (.load id)
  obtain ⟨name, above, rooms⟩ := housed
  exact rooms.unchanged_resolve_self id

theorem IsHoused.preserved_query {α : Type} (housed : service.IsHoused) (id : CensusId)
    (question : IdentitySet → Except IdentityError α) :
    Preserved service (service.lift (service.registry.query id question)).2 := by
  rw [lift_snd, Registry.query_snd]
  exact housed.preserved_resolve id

theorem lift_eq_error {α : Type} {answer : Except RegistryError α × Registry} {error : ServiceError}
    (failed : (service.lift answer).1 = .error error) : ∃ fault, answer.1 = .error fault := by
  rw [lift] at failed
  split at failed
  · cases failed
  · rename_i fault isFault
    exact ⟨fault, isFault⟩

theorem lift_eq_ok {α : Type} {answer : Except RegistryError α × Registry} {value : α}
    (done : (service.lift answer).1 = .ok value) : answer.1 = .ok value := by
  rw [lift] at done
  split at done
  · rename_i other isOther
    rw [isOther, Except.ok.inj done]
  · cases done

theorem IsHoused.preserved_update {α : Type} (housed : service.IsHoused) {id : CensusId}
    {change : IdentitySet → Except IdentityError (α × IdentitySet)} {error : ServiceError}
    (failed : (service.lift (service.registry.update id change)).1 = .error error) :
    Preserved service (service.lift (service.registry.update id change)).2 := by
  obtain ⟨fault, refused⟩ := lift_eq_error failed
  rw [lift_snd, Registry.update_of_refused refused]
  exact housed.preserved_resolve id

theorem IsHoused.preserved_add_keys (housed : service.IsHoused) {error : ServiceError}
    (failed : (service.addKeys id keys).1 = .error error) :
    Preserved service (service.addKeys id keys).2 := by
  obtain ⟨fault, refused⟩ := lift_eq_error failed
  rw [addKeys, lift_snd]
  apply housed.preserved_serve (.addKeys id keys)
  obtain ⟨name, above, rooms⟩ := housed
  exact rooms.unchanged_add_keys refused

theorem IsHoused.preserved_new_census (housed : service.IsHoused) {error : ServiceError}
    (failed : service.newCensus.1 = .error error) : Preserved service service.newCensus.2 := by
  obtain ⟨fault, refused⟩ := lift_eq_error failed
  rw [newCensus, lift_snd]
  rcases Registry.new_census_of_refused refused with same | ⟨id, resolved⟩
  · rw [same]
    exact .refl service
  · rw [resolved]
    exact housed.preserved_resolve id

theorem store_vote_of_refused {root : CensusRoot} {package : VotePackage} {error : ServiceError}
    (failed : (service.storeVote root package now).1 = .error error) :
    (service.storeVote root package now).2 = service := by
  revert failed
  rw [storeVote]
  split
  · exact fun _ => rfl
  · split
    · intro failed
      cases failed
    · exact fun _ => rfl

theorem Legible.info (legible : service.Legible) (housed : service.IsHoused) {set : IdentitySet}
    (isSet : service.registry.setAt id = .ok set) :
    ∃ summary, (service.censusInfo id).1 = .ok summary := by
  obtain ⟨summary, isSummary⟩ := IdentitySet.info_of_legible (legible.set housed isSet) id
  have answer : (service.registry.info id).1 = .ok summary := by
    rw [Registry.info, Registry.query_fst, isSet]
    simp only [Registry.answered, isSummary]
  exact ⟨summary, by rw [censusInfo, lift, answer]⟩

/-- A census that can be loaded has a summary after every request to it. -/
theorem Legible.info_after (legible : service.Legible) (housed : service.IsHoused)
    (request : CensusRequest) (fits : request.FitsMemory) {set : IdentitySet}
    (isSet : service.registry.setAt request.id = .ok set) :
    ∃ summary, (censusInfo { service with registry := service.registry.serve request }
      request.id).1 = .ok summary := by
  obtain ⟨name, above, rooms⟩ := housed
  have isAfter := rooms.set_at_serve request
  rw [isSet] at isAfter
  exact (legible.serve ⟨name, above, rooms⟩ fits).info (IsHoused.serve ⟨name, above, rooms⟩ request).1
    isAfter

theorem set_at_of_update {α : Type} {change : IdentitySet → Except IdentityError (α × IdentitySet)}
    {value : α} (done : (service.registry.update id change).1 = .ok value) :
    ∃ set, service.registry.setAt id = .ok set := by
  rw [Registry.update_fst] at done
  cases known : service.registry.setAt id with
  | error error =>
      rw [known] at done
      cases done
  | ok set => exact ⟨set, rfl⟩

theorem set_at_of_add_keys {value : Unit} (done : (service.registry.addKeys id keys).1 = .ok value) :
    ∃ set, service.registry.setAt id = .ok set := by
  rw [Registry.add_keys_fst] at done
  cases known : service.registry.setAt id with
  | error error =>
      rw [known] at done
      cases done
  | ok set => exact ⟨set, rfl⟩

theorem IsHoused.rows_put_rows (housed : service.IsHoused) (rows : List VoteRow) :
    (service.putRows rows).rows = rows := by
  obtain ⟨name, above, rooms⟩ := housed
  have inRange := Disk.lt_of_table rooms.table
  have apart (log : FileId) (isLog : service.ledger.log = some log) : service.ledger.file ≠ log :=
    (rooms.log log isLog).1
  have holds := Ledger.put_rows_content inRange apart rows
  change ((service.ledger.putRows service.registry.disk rows).content service.ledger.file).rows = _
  rw [holds]
  rfl

theorem IsHoused.vote_of_stored (housed : service.IsHoused) {root : CensusRoot}
    {package : VotePackage} (stored : (service.storeVote root package now).1 = .ok ())
    (room : VoteRows.nextSeq service.rows ≤ maxRowInteger)
    (inTime : now.micros ≤ Instant.latestMicros) :
    ∃ insertedAt, (service.storeVote root package now).2.vote package.index =
      .ok ⟨root, package, insertedAt⟩ := by
  revert stored
  rw [storeVote]
  split
  · intro stored
    cases stored
  · split
    · rename_i rows isStored
      intro _
      obtain ⟨insertedAt, isFound⟩ := VoteRows.get_of_stored isStored room inTime
      refine ⟨insertedAt, ?_⟩
      rw [vote, housed.rows_put_rows, isFound]
      rfl
    · intro stored
      cases stored

end Service

def CommandError.isDecoding : CommandError → Bool
  | .hex _ _ => true
  | .root _ => true
  | .signatureLength _ => true
  | _ => false

namespace Command

variable {service : Service} {now : Instant}

/-- A command that is carried out or changes nothing: an error leaves identifiers, rows and censuses
as they were, and an argument that cannot be decoded leaves the whole service so. A change that is
made is followed by an answer, which changes nothing further. -/
structure Atomic (service : Service) (changes : Service → Prop)
    (ran : Except CommandError Json × Service) : Prop where
  refused : ∀ error, ran.1 = .error error → service.Preserved ran.2
  undecoded : ∀ error, ran.1 = .error error → error.isDecoding = true → ran.2 = service
  carried : ∀ later, changes later → (∃ output, ran.1 = .ok output) ∧ later.Preserved ran.2

def CensusChange (service : Service) (now : Instant) : CensusAction → Service → Prop
  | .new, later => ∃ id, service.newCensus = (.ok id, later)
  | .close id, later => service.closeCensus id = (.ok (), later)
  | .addKeys id keys background, later => ∃ batch, decodeKeys keys = .ok batch ∧
      if background then
        (∃ set, service.registry.setAt id = .ok set) ∧ later = service.ingest id batch now
      else service.addKeys id batch = (.ok (), later)
  | .setStatus id message, later =>
      service.setStatus id (CensusStatus.pending message now) = (.ok (), later)
  | .root _, _ => False
  | .info _, _ => False

def VotesChange (service : Service) (now : Instant) : VotesAction → Service → Prop
  | .store root index signature publicKey merkleProof vote, later => ∃ parsed package,
      decodeRoot root = .ok parsed ∧
      decodePackage index signature publicKey merkleProof vote = .ok package ∧
      service.storeVote parsed package now = (.ok (), later)
  | .list _ _ _ _, _ => False
  | .get _, _ => False

theorem answer_eq_error {α : Type} {render : α → Json} {result : Except ServiceError α × Service}
    {error : CommandError} (failed : (answer render result).1 = .error error) :
    (∃ fault, result.1 = .error fault) ∧ error.isDecoding = false := by
  obtain ⟨outcome, later⟩ := result
  cases outcome with
  | ok value => cases failed
  | error fault =>
      rw [← Except.error.inj failed]
      exact ⟨⟨fault, rfl⟩, rfl⟩

theorem answer_snd {α : Type} (render : α → Json) (result : Except ServiceError α × Service) :
    (answer render result).2 = result.2 := by
  obtain ⟨outcome, later⟩ := result
  cases outcome <;> rfl

theorem atomic_answer {α : Type} {changes : Service → Prop} (render : α → Json)
    {result : Except ServiceError α × Service}
    (refused : ∀ error, result.1 = .error error → service.Preserved result.2)
    (carried : ∀ later, changes later → (∃ value, result.1 = .ok value) ∧ later.Preserved result.2) :
    Atomic service changes (answer render result) where
  refused error failed := by
    obtain ⟨⟨fault, isFault⟩, -⟩ := answer_eq_error failed
    rw [answer_snd]
    exact refused fault isFault
  undecoded error failed isDecoding := by
    rw [(answer_eq_error failed).2] at isDecoding
    cases isDecoding
  carried later made := by
    obtain ⟨⟨value, isValue⟩, preserved⟩ := carried later made
    obtain ⟨outcome, after⟩ := result
    simp only at isValue
    rw [isValue]
    exact ⟨⟨render value, rfl⟩, preserved⟩

/-- What cannot be decoded is not asked of the service. -/
theorem atomic_undecoded {changes : Service → Prop} (error : CommandError)
    (unmade : ∀ later, ¬changes later) : Atomic service changes (.error error, service) where
  refused _ _ := .refl service
  undecoded _ _ _ := rfl
  carried later made := absurd made (unmade later)

theorem atomic_refused {changes : Service → Prop} {error : ServiceError} {after : Service}
    (preserved : service.Preserved after) (unmade : ∀ later, ¬changes later) :
    Atomic service changes (.error (.service error), after) where
  refused _ _ := preserved
  undecoded other failed isDecoding := by
    rw [← Except.error.inj failed] at isDecoding
    cases isDecoding
  carried later made := absurd made (unmade later)

/-- A change after which there is a summary to read back is atomic. -/
theorem atomic_summary {α : Type} {changes : Service → Prop} {id : CensusId}
    {change : Except ServiceError α × Service} (housed : change.2.IsHoused)
    (refused : ∀ error, change.1 = .error error → service.Preserved change.2)
    (readable : ∀ value, change.1 = .ok value → ∃ summary, (change.2.censusInfo id).1 = .ok summary)
    (made : ∀ later, changes later → ∃ value, change = (.ok value, later)) :
    Atomic service changes (summaryAfter id change) := by
  obtain ⟨outcome, after⟩ := change
  cases outcome with
  | error error =>
      apply atomic_refused (refused error rfl)
      intro later isMade
      obtain ⟨value, same⟩ := made later isMade
      cases same
  | ok value =>
      obtain ⟨summary, isSummary⟩ := readable value rfl
      apply atomic_answer
      · intro error failed
        rw [isSummary] at failed
        cases failed
      · intro later isMade
        obtain ⟨_, same⟩ := made later isMade
        rw [← (Prod.mk.inj same).2]
        exact ⟨⟨summary, isSummary⟩, housed.preserved_query id _⟩

section Censuses

variable (housed : service.IsHoused) (legible : service.Legible)

include housed legible

/-- A request that is answered is atomic, as its census can then be loaded. -/
theorem atomic_request {α : Type} {changes : Service → Prop} (request : CensusRequest)
    (fits : request.FitsMemory) {answer : Except RegistryError α × Registry}
    (isServe : answer.2 = service.registry.serve request)
    (refused : ∀ error, (service.lift answer).1 = .error error →
      service.Preserved (service.lift answer).2)
    (loadable : ∀ value, answer.1 = .ok value → ∃ set, service.registry.setAt request.id = .ok set)
    (made : ∀ later, changes later → ∃ value, service.lift answer = (.ok value, later)) :
    Atomic service changes (summaryAfter request.id (service.lift answer)) := by
  apply atomic_summary _ refused _ made
  · rw [Service.lift_snd, isServe]
    exact (housed.serve request).1
  · intro value done
    obtain ⟨set, isSet⟩ := loadable value (Service.lift_eq_ok done)
    rw [Service.lift_snd, isServe]
    exact legible.info_after housed request fits isSet

theorem atomic_close (id : CensusId) : Atomic service (CensusChange service now (.close id))
    (runCensus service now (.close id)) := by
  apply atomic_request housed legible (.close id) trivial rfl
  · exact fun _ failed => housed.preserved_update failed
  · exact fun _ done => Service.set_at_of_update done
  · exact fun later made => ⟨(), made⟩

theorem atomic_set_status (id : CensusId) {message : String}
    (fits : (CensusAction.setStatus id message).FitsMemory) :
    Atomic service (CensusChange service now (.setStatus id message))
      (runCensus service now (.setStatus id message)) := by
  apply atomic_request housed legible (.setStatus id (CensusStatus.pending message now)) fits rfl
  · exact fun _ failed => housed.preserved_update failed
  · exact fun _ done => Service.set_at_of_update done
  · exact fun later made => ⟨(), made⟩

/-- A batch that is added in the background leaves a summary, unless the census cannot be loaded. -/
theorem atomic_ingest {changes : Service → Prop} (id : CensusId) {batch : List PublicKey}
    (fits : FitsMemory batch)
    (made : ∀ later, changes later →
      (∃ set, service.registry.setAt id = .ok set) ∧ later = service.ingest id batch now) :
    Atomic service changes
      (answer CensusInfo.format.write ((service.ingest id batch now).censusInfo id)) := by
  have after := (housed.serve (.ingest id batch now)).1
  have readBack : (service.ingest id batch now).Preserved
      ((service.ingest id batch now).censusInfo id).2 :=
    Service.IsHoused.preserved_query after id _
  have summary {set : IdentitySet} (isSet : service.registry.setAt id = .ok set) :=
    legible.info_after housed (.ingest id batch now) fits isSet
  apply atomic_answer
  · intro error failed
    apply Service.Preserved.trans _ readBack
    apply housed.preserved_serve (.ingest id batch now)
    cases isSet : service.registry.setAt id with
    | error fault =>
        obtain ⟨name, above, rooms⟩ := housed
        exact (rooms.serve_unloadable (.ingest id batch now) isSet).1
    | ok set =>
        obtain ⟨info, isInfo⟩ := summary isSet
        have answers : ((service.ingest id batch now).censusInfo id).1 = .ok info := isInfo
        rw [answers] at failed
        cases failed
  · intro later isMade
    obtain ⟨⟨set, isSet⟩, isLater⟩ := made later isMade
    rw [isLater]
    exact ⟨summary isSet, readBack⟩

theorem atomic_add_keys (id : CensusId) {keys : List String} {background : Bool}
    (fits : (CensusAction.addKeys id keys background).FitsMemory) :
    Atomic service (CensusChange service now (.addKeys id keys background))
      (runCensus service now (.addKeys id keys background)) := by
  rw [runCensus]
  cases decoded : decodeKeys keys with
  | error error =>
      apply atomic_undecoded
      intro later made
      obtain ⟨batch, isBatch, -⟩ := made
      rw [decoded] at isBatch
      cases isBatch
  | ok batch =>
      have made {later : Service}
          (change : CensusChange service now (.addKeys id keys background) later) :
          if background then
            (∃ set, service.registry.setAt id = .ok set) ∧ later = service.ingest id batch now
          else service.addKeys id batch = (.ok (), later) := by
        obtain ⟨other, isOther, change⟩ := change
        rw [decoded] at isOther
        rw [Except.ok.inj isOther]
        exact change
      cases background with
      | true =>
          apply atomic_ingest housed legible id (decode_keys_fit fits.1 fits.2 decoded)
          exact fun later change => made change
      | false =>
          apply atomic_request housed legible (.addKeys id batch) trivial rfl
          · exact fun _ failed => housed.preserved_add_keys failed
          · exact fun _ done => Service.set_at_of_add_keys done
          · exact fun later change => ⟨(), made change⟩

theorem run_census_atomic {action : CensusAction} (fits : action.FitsMemory) :
    Atomic service (CensusChange service now action) (runCensus service now action) := by
  cases action with
  | new =>
      apply atomic_answer
      · exact fun _ failed => housed.preserved_new_census failed
      · intro later made
        obtain ⟨id, isNew⟩ := made
        rw [isNew]
        exact ⟨⟨id, rfl⟩, .refl later⟩
  | close id => exact atomic_close housed legible id
  | root id => exact atomic_answer _ (fun _ _ => housed.preserved_query id _) fun _ made => made.elim
  | info id => exact atomic_answer _ (fun _ _ => housed.preserved_query id _) fun _ made => made.elim
  | addKeys id keys background => exact atomic_add_keys housed legible id fits
  | setStatus id message => exact atomic_set_status housed legible id fits

end Censuses

theorem decode_package_index {index : UInt64} {signature publicKey merkleProof vote : String}
    {package : VotePackage}
    (decoded : decodePackage index signature publicKey merkleProof vote = .ok package) :
    package.index = index := by
  simp only [decodePackage, bind, Except.bind] at decoded
  split at decoded
  · cases decoded
  · split at decoded
    · cases decoded
    · split at decoded
      · cases decoded
      · split at decoded
        · cases decoded
        · split at decoded
          · cases decoded
          · rw [← Except.ok.inj decoded]

theorem atomic_read {α : Type} {changes : Service → Prop} (render : α → Json)
    (result : Except ServiceError α) (unmade : ∀ later, ¬changes later) :
    Atomic service changes (answerRead service render result) := by
  apply atomic_answer
  · exact fun _ _ => .refl service
  · exact fun later made => absurd made (unmade later)

/-- A decoded package that is added to the ledger is read back under its index. -/
theorem atomic_package (housed : service.IsHoused) {changes : Service → Prop} {root : CensusRoot}
    {package : VotePackage} {index : UInt64} (isIndex : package.index = index)
    (room : VoteRows.nextSeq service.rows ≤ maxRowInteger)
    (inTime : now.micros ≤ Instant.latestMicros)
    (made : ∀ later, changes later → service.storeVote root package now = (.ok (), later)) :
    Atomic service changes (match service.storeVote root package now with
      | (.error error, service) => (.error (.service error), service)
      | (.ok (), service) => answerRead service View.stored (service.vote index)) := by
  cases stored : service.storeVote root package now with
  | mk answer after =>
      rw [stored] at made
      cases answer with
      | error error =>
          have same := Service.store_vote_of_refused (congrArg Prod.fst stored)
          rw [stored] at same
          rw [show after = service from same]
          apply atomic_refused (.refl service)
          intro later change
          cases made later change
      | ok value =>
          obtain ⟨insertedAt, isVote⟩ :=
            housed.vote_of_stored (congrArg Prod.fst stored) room inTime
          rw [stored, isIndex] at isVote
          apply atomic_answer
          · intro error failed
            rw [show (after.vote index, after).1 = _ from isVote] at failed
            cases failed
          · intro later change
            rw [← (Prod.mk.inj (made later change)).2]
            exact ⟨⟨_, isVote⟩, .refl after⟩

theorem atomic_store (housed : service.IsHoused) {root : String} {index : UInt64}
    {signature publicKey merkleProof vote : String}
    (fits : (VotesAction.store root index signature publicKey merkleProof vote).FitsLedger
      service now) :
    Atomic service (VotesChange service now (.store root index signature publicKey merkleProof vote))
      (runVotes service now (.store root index signature publicKey merkleProof vote)) := by
  rw [runVotes]
  cases isRoot : decodeRoot root with
  | error error =>
      apply atomic_undecoded
      intro later made
      obtain ⟨parsed, package, isParsed, -⟩ := made
      rw [isRoot] at isParsed
      cases isParsed
  | ok parsed =>
      simp only
      cases decoded : decodePackage index signature publicKey merkleProof vote with
      | error error =>
          apply atomic_undecoded
          intro later made
          obtain ⟨_, package, -, isPackage, -⟩ := made
          rw [decoded] at isPackage
          cases isPackage
      | ok package =>
          have made {later : Service} (change : VotesChange service now
              (.store root index signature publicKey merkleProof vote) later) :
              service.storeVote parsed package now = (.ok (), later) := by
            obtain ⟨_, _, isParsed, isPackage, change⟩ := change
            rw [isRoot] at isParsed
            rw [decoded] at isPackage
            rw [Except.ok.inj isParsed, Except.ok.inj isPackage]
            exact change
          exact atomic_package housed (decode_package_index decoded) fits.1 fits.2
            fun later change => made change

theorem run_votes_atomic (housed : service.IsHoused) {action : VotesAction}
    (fits : action.FitsLedger service now) :
    Atomic service (VotesChange service now action) (runVotes service now action) := by
  cases action with
  | list root cursor limit all =>
      rw [runVotes]
      cases decodeRoot root with
      | error error => exact atomic_undecoded error fun _ made => made
      | ok root => cases all <;> exact atomic_read _ _ fun _ made => made
  | store root index signature publicKey merkleProof vote => exact atomic_store housed fits
  | get index => exact atomic_read _ _ fun _ made => made

structure CarriesOut (service : Service) : Prop where
  censuses : ∀ now action, action.FitsMemory →
    Atomic service (CensusChange service now action) (runCensus service now action)
  votes : ∀ now action, action.FitsLedger service now →
    Atomic service (VotesChange service now action) (runVotes service now action)

/-- A command is carried out or changes nothing, at the end of every run of a node that was opened on
a disk with legible statuses. -/
theorem commands_are_atomic {config : NodeConfig} {before : Disk} {opened : Service}
    {steps : List ServiceStep} {answers : List ServiceAnswer} (formed : before.WellFormed)
    (known : before.HeldFilesKnown) (written : before.Legible)
    (opening : (Service.openNode before config).1 = .done opened)
    (fits : ∀ step ∈ steps, step.FitsMemory)
    (ran : opened.run config steps = some (answers, service)) : CarriesOut service := by
  obtain ⟨inUse, legible⟩ := Service.legible_of_run formed known written opening fits ran
  constructor
  · exact fun now action short => run_census_atomic inUse.housed legible short
  · exact fun now action room => run_votes_atomic inUse.housed room

def announced : List ServiceStep :=
  [.operation .newCensus, .operation (.setStatus ⟨0⟩ (CensusStatus.pending "counting" .epoch)),
    .restart]

def shortSubmission : VotesAction :=
  .store (Hex.encode (List.replicate 32 1)) 7 "00" "01" "02" "03"

def errorOf (ran : Except CommandError Json × Service) : Option CommandError :=
  match ran.1 with
  | .ok _ => none
  | .error error => some error

/-- A submission with a short signature is refused, while the census is closed and read back. -/
theorem usual_commands_are_atomic :
    ∃ opened answers service, (Service.openNode Service.blankDisk Service.usualSite.config).1 =
        .done opened ∧
      opened.run Service.usualSite.config announced = some (answers, service) ∧
      CarriesOut service ∧
      errorOf (runVotes service .epoch shortSubmission) = some (.signatureLength 1) ∧
      errorOf (runCensus service .epoch (.close ⟨0⟩)) = none := by
  have computed : (Service.opened? Service.blankDisk Service.usualSite.config).map (fun opened =>
      (opened.run Service.usualSite.config announced).map fun ran =>
        (errorOf (runVotes ran.2 .epoch shortSubmission),
          errorOf (runCensus ran.2 .epoch (.close ⟨0⟩)))) =
      some (some (some (.signatureLength 1), none)) := by
    decide +kernel
  obtain ⟨opened, found, runs⟩ := Option.map_eq_some_iff.mp computed
  obtain ⟨⟨answers, service⟩, ran, both⟩ := Option.map_eq_some_iff.mp runs
  obtain ⟨refused, done⟩ := Prod.mk.inj both
  have opening := Service.opened_eq_some found
  have known : Service.blankDisk.HeldFilesKnown := fun _ held => by cases held
  have written : Service.blankDisk.Legible := fun _ member => by cases member
  have fits : ∀ step ∈ announced, step.FitsMemory := by
    intro step member
    simp only [announced, List.mem_cons, List.not_mem_nil, or_false] at member
    rcases member with isFirst | isSecond | isThird
    · rw [isFirst]
      intro request asked
      cases asked
    · rw [isSecond]
      intro request asked
      rw [← Option.some.inj asked]
      have short : "counting".utf8ByteSize < 2 ^ 64 := by decide
      exact short
    · rw [isThird]
      trivial
  exact ⟨opened, answers, service, opening, ran,
    commands_are_atomic Service.blank_disk_well_formed known written opening fits ran, refused, done⟩

end Command

end CensusNode
