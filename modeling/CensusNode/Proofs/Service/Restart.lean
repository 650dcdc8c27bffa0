import CensusNode.Proofs.Service.Opening

/-!
Restarting a service. A sound service can be closed and opened again with its configuration. The
service that comes of it is sound, has the same rows, and works on a disk that looks the same.
-/

namespace CensusNode

theorem Registry.Sound.close {site : Site} {ledger : OpenLedger} {rows : List VoteRow}
    {registry : Registry} (sound : Sound site ledger rows registry) :
    registry.close = registry.disk.owned [] := by
  have none : registry.disk.held.filter (fun file =>
      file ∉ registry.control :: registry.loaded.map LoadedCensus.file) = [] := by
    rw [List.filter_eq_nil_iff]
    intro file held
    have isOwned : registry.disk.isHeld file = true := by
      rw [Disk.isHeld, List.contains_iff_mem]
      exact held
    rw [sound.owners] at isOwned
    simp only [decide_not, Bool.not_eq_true', decide_eq_false_iff_not, Decidable.not_not]
    rw [List.mem_cons, List.mem_map]
    exact isOwned
  rw [Registry.close, Disk.release_all, none]

theorem Ledger.Running.owned {location : Location} {disk : Disk} {ledger : OpenLedger}
    {rows : List VoteRow} (running : Ledger.Running location disk ledger rows)
    (files : List FileId) : Ledger.Running location (disk.owned files) ledger rows where
  named := running.named
  holds := running.holds
  writable := running.writable
  journal := ⟨running.journal.free, running.journal.idle⟩
  logged := ⟨running.logged.log, running.logged.index, running.logged.leftovers,
    running.logged.idle⟩

namespace Service

variable {site : Site} {rows : List VoteRow} {service : Service}

/-- What is left of a sound service that was closed: its places, its counter and its rows. -/
structure Closed (site : Site) (rows : List VoteRow) (service : Service) (disk : Disk) : Prop where
  on_disk : site.On disk
  held : disk.held = []
  within : service.disk.Within [Ledger.logOf site.ledger, Ledger.indexOf site.ledger] disk
  control : disk.fileAt? site.control = some service.registry.control
  holds : disk.file? site.control =
    some (.store (service.disk.storeAt service.registry.control))
  named : disk.fileAt? site.ledger = some service.ledger.file
  image : disk.file? site.ledger = some (Ledger.image rows)
  journal : Ledger.JournalSettled site.ledger disk
  log : Ledger.LogIdle site.ledger disk

theorem Sound.closed (usable : site.Usable) (sound : service.Sound site rows) :
    Closed site rows service service.close := by
  have running := sound.registry.running
  have formed := sound.registry.on_disk.formed
  obtain ⟨closedFormed, keeps, idle⟩ := (running.owned []).close (formed.owned [])
  rw [← sound.registry.close] at closedFormed keeps idle
  have within : service.disk.Within [Ledger.logOf site.ledger, Ledger.indexOf site.ledger]
      service.close := by
    have fromOwned := keeps.toWithin
    rw [sound.registry.close] at fromOwned
    rw [Service.close, sound.registry.close]
    exact ⟨fromOwned.working_directory, fromOwned.directories, fromOwned.names, fromOwned.files⟩
  have controlOutside := Registry.control_not_hidden usable
  have ledgerOutside : site.ledger ∉ [Ledger.logOf site.ledger, Ledger.indexOf site.ledger] := by
    have apart {companion : Location} (member : companion ∈ Ledger.companions site.ledger) :
        companion ≠ site.ledger := Ledger.companion_ne_named formed running.named member
    simp only [List.mem_cons, List.not_mem_nil, or_false, not_or]
    exact ⟨(apart (by simp [Ledger.companions])).symm, (apart (by simp [Ledger.companions])).symm⟩
  have journalOutside : Ledger.journalOf site.ledger ∉
      [Ledger.logOf site.ledger, Ledger.indexOf site.ledger] := by
    simp only [List.mem_cons, List.not_mem_nil, or_false, not_or]
    exact ⟨Ledger.beside_ne (by decide), Ledger.beside_ne (by decide)⟩
  constructor
  · exact sound.registry.on_disk.extends within.extended closedFormed
  · have held := keeps.held
    rw [sound.registry.close] at held
    rw [Service.close, sound.registry.close, held]
    rfl
  · exact within
  · exact (within.names _ controlOutside).trans sound.registry.control
  · exact (within.files _ controlOutside).trans sound.registry.control_store.1
  · exact (within.names _ ledgerOutside).trans running.named
  · exact (within.files _ ledgerOutside).trans running.holds
  · refine ⟨(within.is_directory _).trans running.journal.free, ?_⟩
    rw [within.files _ journalOutside]
    exact running.journal.idle
  · exact idle

/-- Opening a store that is there changes nothing that shows. -/
theorem within_of_opened {location : Location} {disk later : Disk} {file : FileId} {store : Store}
    (opened : Registry.Opened location disk later file store)
    (named : disk.fileAt? location = some file)
    (holds : disk.file? location = some (.store store)) : disk.Within [] later where
  working_directory := opened.within.working_directory
  directories := opened.within.directories
  names place _ := by
    by_cases here : place = location
    · rw [here, opened.named, named]
    · exact opened.within.names place (by simpa using here)
  files place _ := by
    by_cases here : place = location
    · rw [here, opened.holds, holds]
    · exact opened.within.files place (by simpa using here)

theorem Closed.registry_started {disk : Disk}
    (closed : Closed site rows service disk) {next : CensusId}
    (readable : Counter.read (Counter.tableOf
      (service.disk.storeAt service.registry.control)) = .ok next) :
    ∃ registry, Registry.openAt disk site.config.controlPath site.config.censusRootPath =
        (.ok registry, registry.disk) ∧
      Registry.Started site.control disk site.config.censusRootPath registry
        (service.disk.storeAt service.registry.control) ∧
      disk.Within [] registry.disk := by
  have formed := closed.on_disk.formed
  have prepared := closed.on_disk.control_prepared.prepare
  have unheld : ∀ location, (disk.prepare (Path.namedParent? site.config.controlPath)).2.locate
      site.config.controlPath = .ok location →
      ((disk.prepare (Path.namedParent? site.config.controlPath)).2.fileFor location).2.isHeld
        ((disk.prepare (Path.namedParent? site.config.controlPath)).2.fileFor location).1 =
          false := by
    intro location _
    apply Registry.nothing_held
    rw [Disk.held_file_for, prepared, closed.held]
  have shown : Registry.outcome disk (Path.namedParent? site.config.controlPath)
      site.config.controlPath = .ok (service.disk.storeAt service.registry.control) := by
    rw [Registry.outcome, prepared]
    simp only [closed.on_disk.control_located, formed.not_directory closed.control,
      Bool.false_eq_true, if_false, closed.holds, Registry.shownStore]
  rcases Registry.open_store_in_spec formed unheld with
    ⟨error, failed, -⟩ | ⟨store, location, file, later, isStore, isOpen, located, opened, held⟩
  · rw [shown] at failed
    cases failed
  · rw [shown] at isStore
    rw [prepared] at located opened
    rw [← Except.ok.inj isStore] at opened
    have isControl := closed.on_disk.control_located.symm.trans located
    rw [← Except.ok.inj isControl] at opened
    obtain ⟨registry, isRegistry, started⟩ := Registry.open_at_of_opened isOpen opened
      (held.trans closed.held) (Counter.seed_of_readable readable)
    refine ⟨registry, isRegistry, started, ?_⟩
    have same := started.opened.same _ closed.control
    have named := closed.control
    rw [same] at named
    exact within_of_opened started.opened named closed.holds

/-- A service that was closed can be opened again and has its rows. -/
theorem Closed.reopened (usable : site.Usable) {disk : Disk}
    (closed : Closed site rows service disk) {next : CensusId}
    (readable : Counter.read (Counter.tableOf
      (service.disk.storeAt service.registry.control)) = .ok next) :
    ∃ again after, openNode disk site.config = (.done again, after) ∧ again.Sound site rows ∧
      disk.Within [Ledger.logOf site.ledger, Ledger.indexOf site.ledger] again.disk := by
  obtain ⟨registry, isRegistry, started, within⟩ := closed.registry_started readable
  have formed := started.opened.formed
  have onStarted := closed.on_disk.extends within.extended formed
  have prepared := onStarted.ledger_prepared.prepare
  have unchanged (place : Location) : registry.disk.fileAt? place = disk.fileAt? place ∧
      registry.disk.file? place = disk.file? place :=
    ⟨within.names place List.not_mem_nil, within.files place List.not_mem_nil⟩
  have settled : Ledger.JournalSettled site.ledger registry.disk := by
    refine ⟨(within.is_directory _).trans closed.journal.free, ?_⟩
    rw [(unchanged _).2]
    exact closed.journal.idle
  have idle : Ledger.LogIdle site.ledger registry.disk := by
    refine ⟨(within.is_directory _).trans closed.log.free, ?_⟩
    rw [(unchanged _).2]
    exact closed.log.idle
  obtain ⟨ledger, after, isOpen, running, afterFormed, keeps⟩ := Ledger.open_file_again formed
    onStarted.ledger_located ((unchanged _).1.trans closed.named)
    ((unchanged _).2.trans closed.image) settled idle usable.in_time
  have opened : Ledger.openAt registry.disk site.config.ledgerPath site.config.ledger =
      (.done ledger, after) := by
    rw [Ledger.openAt, prepared]
    simp only [usable.unbroken, usable.plain, isOpen]
  have inFiles : [Ledger.logOf site.ledger, Ledger.indexOf site.ledger] ⊆
      Ledger.filesOf site.ledger := by
    intro place member
    exact List.mem_cons_of_mem _ (List.mem_cons_of_mem _ member)
  have onAfter := onStarted.extends keeps.extended afterFormed
  refine ⟨⟨{ registry with disk := after }, ledger, site.config.ledger⟩, after, ?_, ⟨?_, rfl⟩, ?_⟩
  · simp only [openNode, usable.valid, isRegistry, opened]
  · exact started.sound usable (Disk.Grows.refl _) onAfter (keeps.mono inFiles) running
  · exact (within.mono (List.nil_subset _)).trans keeps.toWithin

def restart (config : NodeConfig) (service : Service) : Option Service :=
  match openNode service.close config with
  | (.done again, _) => some again
  | _ => none

/-- A sound service can be restarted, and nothing that shows has changed. -/
theorem Sound.restart (usable : site.Usable) (sound : service.Sound site rows) :
    ∃ again, service.restart site.config = some again ∧ again.Sound site rows ∧
      Disk.Alike (Registry.hidden site) service.disk again.disk := by
  have closed := sound.closed usable
  obtain ⟨next, readable⟩ := sound.registry.control_store.2
  obtain ⟨again, after, opened, soundAgain, within⟩ := closed.reopened usable readable
  refine ⟨again, ?_, soundAgain, ?_⟩
  · rw [Service.restart, opened]
  · exact sound.registry.running.alike sound.registry.on_disk.formed soundAgain.registry.running
      soundAgain.registry.on_disk.formed (closed.within.trans within)

end Service

end CensusNode
