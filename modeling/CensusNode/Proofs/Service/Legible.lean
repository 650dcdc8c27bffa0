import CensusNode.Proofs.Service.Ingestion
import CensusNode.Proofs.Service.Records

/-!
Legible statuses. Whatever is written as the status of a census can be read back. On a node that was
opened on a disk with legible statuses the summary of a census is therefore refused only when the
census cannot be loaded.
-/

namespace CensusNode

/-- There is no status, or one that can be read. -/
def CensusTables.Legible (tables : CensusTables) : Prop :=
  ∃ status, IdentitySet.readRecord CensusStatus.codec tables.status = .ok status

def Disk.Legible (disk : Disk) : Prop :=
  ∀ store, FileContent.store store ∈ disk.contents → store.census.Legible

def CensusRequest.FitsMemory : CensusRequest → Prop
  | .ingest _ keys _ => CensusNode.FitsMemory keys
  | .setStatus _ status => status.message.utf8ByteSize < 2 ^ 64
  | _ => True

def ServiceStep.FitsMemory : ServiceStep → Prop
  | .operation asked => ∀ request, asked.request? = some request → request.FitsMemory
  | .restart => True

namespace IdentitySet

variable {set : IdentitySet}

theorem legible_set_status {status : CensusStatus} (fits : status.message.utf8ByteSize < 2 ^ 64) :
    (set.setStatus status).tables.Legible :=
  ⟨some status, set.status_set_status fits⟩

theorem close_status (set : IdentitySet) : set.close.tables.status = set.tables.status := by
  rw [close]
  split <;> rfl

theorem legible_outcome (legible : set.tables.Legible) {request : CensusRequest}
    (fits : request.FitsMemory) : (request.outcome set).tables.Legible := by
  cases request with
  | load id => exact legible
  | root id => exact legible
  | info id => exact legible
  | close id =>
      rw [CensusTables.Legible, CensusRequest.outcome, close_status]
      exact legible
  | addKeys id keys =>
      rw [CensusTables.Legible, CensusRequest.outcome, submit_status]
      exact legible
  | ingest id keys now => exact legible_set_status (Registry.ingest_status_fits fits now id set)
  | setStatus id status => exact legible_set_status fits

theorem root_cases (set : IdentitySet) :
    (∃ root, set.root = .ok root) ∨ set.root = .error .emptyCensus := by
  unfold root
  extract_lets current
  cases current with
  | some root => exact Or.inl ⟨root, rfl⟩
  | none => exact Or.inr rfl

/-- A census with a legible status has a summary, with or without members. -/
theorem info_of_legible (legible : set.tables.Legible) (id : CensusId) :
    ∃ summary, info id set = .ok summary := by
  obtain ⟨status, isStatus⟩ := legible
  have isRead : set.status = .ok status := isStatus
  rcases set.root_cases with ⟨root, isRoot⟩ | noRoot
  · exact ⟨⟨id, set.state, some root, status, set.memberCount⟩, by simp only [info, isRoot, isRead]⟩
  · exact ⟨⟨id, set.state, none, status, set.memberCount⟩, by simp only [info, noRoot, isRead]⟩

end IdentitySet

namespace Service

variable {config : NodeConfig} {before : Disk} {service : Service} {id : CensusId}

/-- Whatever shows of a census has a legible status. -/
def Legible (service : Service) : Prop :=
  ∀ id tables, service.registry.persisted id = .ok tables → tables.Legible

theorem Legible.set (legible : service.Legible) (housed : service.IsHoused) {set : IdentitySet}
    (isSet : service.registry.setAt id = .ok set) : set.tables.Legible :=
  AllRecords.set legible housed isSet

theorem Legible.serve (legible : service.Legible) (housed : service.IsHoused)
    {request : CensusRequest} (fits : request.FitsMemory) :
    Legible { service with registry := service.registry.serve request } :=
  AllRecords.serve legible housed fun _ isLegible => IdentitySet.legible_outcome isLegible fits

/-- Statuses that were legible when a service was opened are so at the end of every run. -/
theorem legible_of_run {opened last : Service} {steps : List ServiceStep}
    {answers : List ServiceAnswer} (formed : before.WellFormed) (known : before.HeldFilesKnown)
    (written : before.Legible) (opening : (openNode before config).1 = .done opened)
    (fits : ∀ step ∈ steps, step.FitsMemory)
    (ran : opened.run config steps = some (answers, last)) :
    InUse config last ∧ last.Legible := by
  apply records_of_run formed known opening ⟨none, rfl⟩ written _ ran
  intro operation member request asked set isLegible
  exact IdentitySet.legible_outcome isLegible (fits _ member request asked)

end Service

end CensusNode
