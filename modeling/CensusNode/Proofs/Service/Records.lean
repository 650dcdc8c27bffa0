import CensusNode.Proofs.Service.Use

/-!
What the records of all censuses have in common. Tables of some kind are what every census shows at the
end of a run when all stores on the disk held such tables before, new stores do, and every request of
the run leaves such tables where it finds them. Restarts change no records.
-/

namespace CensusNode

variable {kind : CensusTables → Prop}

def Disk.AllStores (disk : Disk) (kind : CensusTables → Prop) : Prop :=
  ∀ store, FileContent.store store ∈ disk.contents → kind store.census

theorem Disk.mem_contents_of_store {disk : Disk} {file : FileId} {store : Store}
    (holds : disk.content file = .store store) : FileContent.store store ∈ disk.contents := by
  rw [Disk.content, List.getD_eq_getElem?_getD] at holds
  cases found : disk.contents[file]? with
  | none =>
      rw [found] at holds
      cases holds
  | some content =>
      rw [found, Option.getD_some] at holds
      rw [← holds]
      exact List.mem_of_getElem? found

theorem Registry.kind_of_shown {disk : Disk} {place : Location} {tables : CensusTables}
    (fresh : kind CensusTables.empty) (stored : disk.AllStores kind)
    (shown : (shownStore (disk.file? place)).map Store.census = .ok tables) : kind tables := by
  cases found : shownStore (disk.file? place) with
  | error fault =>
      rw [found] at shown
      cases shown
  | ok store =>
      rw [found] at shown
      rw [← Except.ok.inj shown]
      rcases of_shown found with isEmpty | holds
      · rw [isEmpty]
        exact fresh
      · obtain ⟨file, -, content⟩ := Option.map_eq_some_iff.mp holds
        exact stored store (Disk.mem_contents_of_store content)

/-- A request that leaves tables of a kind where it finds such tables. -/
def CensusRequest.Passes (kind : CensusTables → Prop) (request : CensusRequest) : Prop :=
  ∀ set : IdentitySet, kind set.tables → kind (request.outcome set).tables

namespace Service

variable {config : NodeConfig} {before : Disk} {service : Service} {id : CensusId}

def AllRecords (service : Service) (kind : CensusTables → Prop) : Prop :=
  ∀ id tables, service.registry.persisted id = .ok tables → kind tables

theorem AllRecords.of_unchanged {later : Service} (records : service.AllRecords kind)
    (unchanged : ∀ id, Registry.Unchanged id service.registry later.registry) :
    later.AllRecords kind := by
  intro id tables shows
  rw [(unchanged id).persisted] at shows
  exact records id tables shows

theorem AllRecords.set (records : service.AllRecords kind) (housed : service.IsHoused)
    {set : IdentitySet} (isSet : service.registry.setAt id = .ok set) : kind set.tables := by
  obtain ⟨name, above, housed⟩ := housed
  exact records id set.tables (housed.persisted_of_set_at isSet)

theorem AllRecords.serve (records : service.AllRecords kind) (housed : service.IsHoused)
    {request : CensusRequest} (passes : request.Passes kind) :
    AllRecords { service with registry := service.registry.serve request } kind := by
  obtain ⟨⟨_, _, after⟩, -, unchanged⟩ := housed.serve request
  intro id tables shows
  by_cases isOwn : id = request.id
  · obtain ⟨_, _, rooms⟩ := housed
    rw [isOwn] at shows
    cases isSet : service.registry.setAt request.id with
    | error error =>
        rw [(rooms.serve_unloadable request isSet).1.persisted] at shows
        exact records request.id tables shows
    | ok set =>
        have isAfter := rooms.set_at_serve request
        rw [isSet] at isAfter
        rw [after.persisted_of_set_at isAfter] at shows
        rw [← Except.ok.inj shows]
        apply passes
        exact records request.id set.tables (rooms.persisted_of_set_at isSet)
  · rw [(unchanged id fun _ => isOwn).persisted] at shows
    exact records id tables shows

theorem AllRecords.perform (records : service.AllRecords kind) (housed : service.IsHoused)
    {operation : ServiceOperation}
    (passes : ∀ request, operation.request? = some request → request.Passes kind) :
    (service.perform operation).2.AllRecords kind := by
  apply perform_keeps (motive := fun later => later.AllRecords kind) records operation
  · exact fun request asked => records.serve housed (passes request asked)
  · obtain ⟨name, above, housed⟩ := housed
    exact records.of_unchanged housed.new_census.2
  · exact fun root package now => records.of_unchanged (housed.store_vote root package now).2

theorem records_of_run {opened last : Service} {steps : List ServiceStep}
    {answers : List ServiceAnswer} (formed : before.WellFormed) (known : before.HeldFilesKnown)
    (opening : (openNode before config).1 = .done opened) (fresh : kind CensusTables.empty)
    (stored : before.AllStores kind)
    (passes : ∀ operation, .operation operation ∈ steps → ∀ request,
      operation.request? = some request → request.Passes kind)
    (ran : opened.run config steps = some (answers, last)) :
    InUse config last ∧ last.AllRecords kind := by
  have openedOn := opened_on formed known opening
  have atFirst : opened.AllRecords kind :=
    fun _ _ shows => Registry.kind_of_shown fresh stored (openedOn.shown shows)
  apply run_keeps (motive := fun service => InUse config service ∧ service.AllRecords kind)
    ⟨openedOn.in_use, atFirst⟩ _ _ ran
  · intro before operation ⟨inUse, records⟩ member
    exact ⟨inUse.perform operation, records.perform inUse.housed (passes operation member)⟩
  · intro before again ⟨inUse, records⟩ restarted
    exact ⟨inUse.restart restarted,
      fun id tables shows => records id tables (inUse.persisted_restart restarted shows)⟩

end Service

end CensusNode
