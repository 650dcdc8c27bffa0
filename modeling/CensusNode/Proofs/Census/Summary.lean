import CensusNode.Proofs.Census.RootBinding
import Mathlib.Data.List.Induction

/-!
Summaries of a census that others work on. A summary is put together by four reads, of the root,
the state, the status and the number of members, and other clients may work on the census before
each of them. The root is then over the first of the members, over all of them unless keys were
admitted since it was read, and the summary is that of one moment unless keys were admitted
between the reads or a status was set after a closing between two of them.
-/

namespace CensusNode

open IdentitySet (leaf rootOfLeaves)

/-- How far a summary has been put together. Its reads are made one after another. -/
inductive SummaryReader where
  | idle
  | rooted (root : Option CensusRoot)
  | stated (root : Option CensusRoot) (state : CensusState)
  | noted (root : Option CensusRoot) (state : CensusState) (status : Option CensusStatus)
  | finished (answer : Except IdentityError CensusInfo)

namespace SummaryReader

def read (id : CensusId) (set : IdentitySet) : SummaryReader → SummaryReader
  | idle =>
      match set.root with
      | .ok root => rooted (some root)
      | .error .emptyCensus => rooted none
      | .error error => finished (.error error)
  | rooted root => stated root set.state
  | stated root state =>
      match set.status with
      | .ok status => noted root state status
      | .error error => finished (.error error)
  | noted root state status => finished (.ok ⟨id, state, root, status, set.memberCount⟩)
  | finished answer => finished answer

/-- Four reads with nobody between them are the summary of a census. -/
theorem four_reads (id : CensusId) (set : IdentitySet) :
    read id set (read id set (read id set (read id set idle))) = finished (set.info id) := by
  have summary (root : Option CensusRoot) :
      read id set (read id set (read id set (rooted root))) = finished (
        match set.status with
        | .ok status => .ok ⟨id, set.state, root, status, set.memberCount⟩
        | .error error => .error error) := by
    simp only [read]
    cases set.status <;> rfl
  have first : read id set idle =
      match set.root with
      | .ok root => rooted (some root)
      | .error .emptyCensus => rooted none
      | .error error => finished (.error error) := rfl
  rw [first, IdentitySet.info]
  cases set.root with
  | ok root => exact summary (some root)
  | error error =>
      cases error with
      | emptyCensus => exact summary none
      | codec fault => rfl
      | closed => rfl

end SummaryReader

/-- A census that several clients work on, one of which puts a summary together. -/
structure SharedCensus where
  history : CensusHistory
  reader : SummaryReader

inductive SharedStep where
  | read
  | client (operation : CensusOperation)

def SharedStep.isRead : SharedStep → Bool
  | read => true
  | client _ => false

namespace SharedCensus

def step (id : CensusId) (shared : SharedCensus) :
    SharedStep → Except IdentityError SharedCensus
  | .read => .ok { shared with reader := shared.reader.read id shared.history.set }
  | .client operation =>
      (shared.history.step operation).map fun history => { shared with history }

def run (id : CensusId) (steps : List SharedStep) : Except IdentityError SharedCensus := do
  steps.foldlM (step id) ⟨← CensusHistory.start, .idle⟩

end SharedCensus

namespace CensusHistory

def members (history : CensusHistory) : List Bytes := history.set.tables.memberKeys

def Reaches (first : CensusHistory) (operations : List CensusOperation) (last : CensusHistory) :
    Prop := operations.foldlM step first = .ok last

variable {history later last : CensusHistory} {operation : CensusOperation}
  {operations others : List CensusOperation}

theorem reaches_cons_iff : history.Reaches (operation :: operations) last ↔
    ∃ later, history.step operation = .ok later ∧ later.Reaches operations last := by
  rw [Reaches, List.foldlM_cons]
  cases history.step operation with
  | error error => simp [bind, Except.bind]
  | ok later => simp [bind, Except.bind, Reaches]

theorem reaches_append_iff : history.Reaches (operations ++ others) last ↔
    ∃ later, history.Reaches operations later ∧ later.Reaches others last := by
  rw [Reaches, List.foldlM_append]
  cases reached : operations.foldlM step history with
  | error error => simp [bind, Except.bind, Reaches, reached]
  | ok later => simp [bind, Except.bind, Reaches, reached]

theorem Sound.members_eq (sound : history.Sound) : history.members = history.admitted.flatten :=
  sound.represents.member_keys

theorem Sound.root_eq (sound : history.Sound) :
    history.set.root = match rootOfLeaves (history.members.map leaf) with
      | some root => .ok root
      | none => .error .emptyCensus := by
  rw [sound.members_eq]
  exact IdentitySet.Holds.root_eq sound

theorem Sound.member_count (sound : history.Sound) :
    history.set.memberCount = history.members.length := by
  rw [sound.members_eq]
  exact IdentitySet.Holds.member_count sound

theorem Sound.info_eq (sound : history.Sound) {status : Option CensusStatus}
    (isStatus : history.set.status = .ok status) (id : CensusId) :
    history.set.info id = .ok ⟨id, history.set.state, rootOfLeaves (history.members.map leaf), status,
      history.members.length⟩ := by
  rw [IdentitySet.info, sound.root_eq, isStatus, sound.member_count]
  cases rootOfLeaves (history.members.map leaf) <;> rfl

theorem Sound.member_length (sound : history.Sound) : ∀ key ∈ history.members, key.length = 32 := by
  rw [sound.members_eq]
  exact fun key member => (sound.admissible key member).length_eq

/-- The seal of a census that is closed. -/
theorem Sound.sealed_of_closed (sound : history.Sound) (closed : history.set.state = .closed) :
    history.set.sealed =
      some ⟨rootOfLeaves (history.members.map leaf), history.members.length⟩ := by
  rw [IdentitySet.state] at closed
  cases isSealed : history.set.sealed with
  | none =>
      rw [isSealed] at closed
      cases closed
  | some sealed => rw [sound.members_eq, sound.sealed_eq sealed isSealed]

theorem members_of_after {keys : List Bytes} (reached : after operations = .ok history)
    (admitted : (after operations).map (fun history => history.admitted.flatten) = .ok keys) :
    history.members = keys := by
  obtain ⟨same, isSame, sound⟩ := after_sound operations
  rw [reached] at admitted isSame
  rw [← Except.ok.inj isSame] at sound
  rw [sound.members_eq, ← Except.ok.inj admitted]

inductive Change (history : CensusHistory) : CensusOperation → CensusHistory → Prop where
  | nothing (operation : CensusOperation) (same : ∀ entry, operation ≠ .setStatus entry) :
      Change history operation history
  | admitted (batch : List PublicKey) (set : IdentitySet) (wasOpen : history.set.sealed = none)
      (status : set.status = history.set.status) :
      Change history (.addKeys batch) ⟨set, history.admitted ++ [batch.map PublicKey.bytes]⟩
  | noted (entry : StatusEntry) :
      Change history (.setStatus entry) { history with set := history.set.setStatus entry.status }
  | closed : Change history .close { history with set := history.set.close }

theorem Sound.change (sound : history.Sound) (stepped : history.step operation = .ok later) :
    history.Change operation later := by
  cases operation with
  | reopen =>
      rw [step, sound.persisted] at stepped
      rw [← Except.ok.inj stepped]
      exact .nothing _ (by simp)
  | addKeys batch =>
      rw [step] at stepped
      cases added : history.set.addKeys batch with
      | error error =>
          rw [added] at stepped
          rw [← Except.ok.inj stepped]
          exact .nothing _ (by simp)
      | ok outcome =>
          obtain ⟨refused, set⟩ := outcome
          obtain ⟨wasOpen, -, ⟨some_refused, unchanged⟩ | ⟨none_refused, grown⟩⟩ :=
            IdentitySet.add_keys_cases added
          · obtain ⟨first, rest, isRefused⟩ := List.exists_cons_of_ne_nil some_refused
            rw [added, isRefused] at stepped
            rw [← Except.ok.inj stepped, unchanged]
            exact .nothing _ (by simp)
          · rw [added, none_refused] at stepped
            rw [← Except.ok.inj stepped]
            refine .admitted batch set wasOpen ?_
            rw [grown, CensusTables.append_eq]
            rfl
  | setStatus entry =>
      rw [← Except.ok.inj stepped]
      exact .noted entry
  | close =>
      rw [← Except.ok.inj stepped]
      exact .closed
  | read =>
      rw [← Except.ok.inj stepped]
      exact .nothing _ (by simp)

theorem Sound.step (sound : history.Sound) (stepped : history.step operation = .ok later) :
    later.Sound := by
  obtain ⟨same, isSame, laterSound⟩ := step_sound sound operation
  rw [stepped] at isSame
  rw [Except.ok.inj isSame]
  exact laterSound

theorem Change.grows (change : history.Change operation later) :
    history.admitted <+: later.admitted := by
  cases change with
  | nothing => exact List.prefix_refl _
  | admitted => exact List.prefix_append _ _
  | noted => exact List.prefix_refl _
  | closed => exact List.prefix_refl _

/-- A closed census keeps its seal and takes no members. -/
theorem Change.of_sealed (change : history.Change operation later) {sealed : Sealed}
    (isSealed : history.set.sealed = some sealed) :
    later.set.sealed = some sealed ∧ later.admitted = history.admitted := by
  cases change with
  | nothing => exact ⟨isSealed, rfl⟩
  | admitted batch set wasOpen =>
      rw [wasOpen] at isSealed
      cases isSealed
  | noted => exact ⟨isSealed, rfl⟩
  | closed =>
      rw [IdentitySet.close_of_sealed isSealed]
      exact ⟨isSealed, rfl⟩

/-- Only setting a status changes it, and that does not change the state. -/
theorem Change.status (change : history.Change operation later) :
    later.set.status = history.set.status ∨
      later.set.state = history.set.state ∧ ∃ entry, operation = .setStatus entry := by
  cases change with
  | nothing => exact Or.inl rfl
  | admitted batch set wasOpen status => exact Or.inl status
  | noted entry => exact Or.inr ⟨rfl, entry, rfl⟩
  | closed =>
      left
      rw [IdentitySet.close]
      split <;> rfl

theorem Sound.reaches (sound : history.Sound) (operations : List CensusOperation) :
    ∃ last, history.Reaches operations last ∧ last.Sound := steps_sound sound operations

theorem Sound.reached (sound : history.Sound) (reached : history.Reaches operations last) :
    last.Sound ∧ history.members <+: last.members := by
  induction operations generalizing history with
  | nil =>
      rw [← Except.ok.inj reached]
      exact ⟨sound, List.prefix_refl _⟩
  | cons operation rest induction =>
      obtain ⟨later, stepped, reached⟩ := reaches_cons_iff.mp reached
      have laterSound := sound.step stepped
      obtain ⟨lastSound, grows⟩ := induction laterSound reached
      refine ⟨lastSound, List.IsPrefix.trans ?_ grows⟩
      obtain ⟨batches, added⟩ := (sound.change stepped).grows
      rw [sound.members_eq, laterSound.members_eq, ← added, List.flatten_append]
      exact List.prefix_append _ _

theorem Sound.reached_sealed (sound : history.Sound) (reached : history.Reaches operations last)
    {sealed : Sealed} (isSealed : history.set.sealed = some sealed) :
    last.set.sealed = some sealed ∧ last.members = history.members := by
  induction operations generalizing history with
  | nil =>
      rw [← Except.ok.inj reached]
      exact ⟨isSealed, rfl⟩
  | cons operation rest induction =>
      obtain ⟨later, stepped, reached⟩ := reaches_cons_iff.mp reached
      have laterSound := sound.step stepped
      obtain ⟨stillSealed, same⟩ := (sound.change stepped).of_sealed isSealed
      obtain ⟨lastSealed, lastSame⟩ := induction laterSound reached stillSealed
      refine ⟨lastSealed, lastSame.trans ?_⟩
      rw [sound.members_eq, laterSound.members_eq, same]

/-- Every status that is set finds the census in the state that it was in at first. -/
def SetsInState (history : CensusHistory) (operations : List CensusOperation) : Prop :=
  ∀ front entry back, operations = front ++ .setStatus entry :: back →
    ∀ middle, history.Reaches front middle → middle.set.state = history.set.state

theorem Sound.exists_moment (sound : history.Sound) (reached : history.Reaches operations last)
    (sets : history.SetsInState operations) :
    ∃ done left moment, operations = done ++ left ∧ history.Reaches done moment ∧
      moment.set.state = history.set.state ∧ moment.set.status = last.set.status := by
  -- From the end: the last step leaves the status alone, or what it leaves is the moment.
  induction operations using List.reverseRecOn generalizing last with
  | nil => exact ⟨[], [], history, rfl, rfl, rfl, by rw [← Except.ok.inj reached]⟩
  | append_singleton front operation induction =>
      obtain ⟨middle, isMiddle, stepped⟩ := reaches_append_iff.mp reached
      obtain ⟨same, stepped, isLast⟩ := reaches_cons_iff.mp stepped
      rw [← Except.ok.inj isLast]
      rcases ((sound.reached isMiddle).1.change stepped).status with kept | ⟨state, entry, isEntry⟩
      · have setsBefore : history.SetsInState front := by
          intro before entry after isFront
          apply sets before entry (after ++ [operation])
          rw [isFront, List.append_assoc, List.cons_append]
        obtain ⟨done, left, moment, isFront, isMoment, isState, isStatus⟩ :=
          induction isMiddle setsBefore
        refine ⟨done, left ++ [operation], moment, ?_, isMoment, isState, isStatus.trans kept.symm⟩
        rw [isFront, List.append_assoc]
      · rw [isEntry] at sets
        have found := sets front entry [] rfl middle isMiddle
        refine ⟨front ++ [operation], [], same, (List.append_nil _).symm, ?_, state.trans found,
          rfl⟩
        rw [Except.ok.inj isLast]
        exact reached

end CensusHistory

namespace SharedCensus

open CensusHistory (Reaches)

def others (operations : List CensusOperation) : List SharedStep := operations.map .client

/-- The operations of other clients around the reads of a summary, and the histories that the reads
see. -/
structure Interleaving (steps : List SharedStep) where
  before : List CensusOperation
  afterRoot : List CensusOperation
  afterState : List CensusOperation
  afterStatus : List CensusOperation
  rest : List SharedStep
  steps_eq : steps = others before ++ .read :: (others afterRoot ++ .read ::
    (others afterState ++ .read :: (others afterStatus ++ .read :: rest)))
  atRoot : CensusHistory
  atState : CensusHistory
  atStatus : CensusHistory
  atCount : CensusHistory
  root_reached : CensusHistory.after before = .ok atRoot
  state_reached : atRoot.Reaches afterRoot atState
  status_reached : atState.Reaches afterState atStatus
  count_reached : atStatus.Reaches afterStatus atCount

namespace Interleaving

variable {id : CensusId} {steps : List SharedStep} (interleaving : Interleaving steps)

/-- A history that existed between the first and the last read. -/
def Saw (moment : CensusHistory) : Prop :=
  ∃ done left, interleaving.afterRoot ++ interleaving.afterState ++ interleaving.afterStatus =
    done ++ left ∧ interleaving.atRoot.Reaches done moment

end Interleaving

theorem exists_read (steps : List SharedStep) (some_read : 0 < steps.countP SharedStep.isRead) :
    ∃ operations rest, steps = others operations ++ .read :: rest ∧
      steps.countP SharedStep.isRead = rest.countP SharedStep.isRead + 1 := by
  induction steps with
  | nil => cases some_read
  | cons step rest induction =>
      cases step with
      | read => exact ⟨[], rest, rfl, List.countP_cons_of_pos rfl⟩
      | client operation =>
          have same : (SharedStep.client operation :: rest).countP SharedStep.isRead =
              rest.countP SharedStep.isRead := List.countP_cons_of_neg Bool.false_ne_true
          rw [same] at some_read ⊢
          obtain ⟨operations, left, isRest, count⟩ := induction some_read
          refine ⟨operation :: operations, left, ?_, count⟩
          rw [isRest]
          rfl

theorem exists_interleaving_of {steps : List SharedStep}
    (before afterRoot afterState afterStatus : List CensusOperation) (rest : List SharedStep)
    (isSteps : steps = others before ++ .read :: (others afterRoot ++ .read ::
      (others afterState ++ .read :: (others afterStatus ++ .read :: rest)))) :
    ∃ interleaving : Interleaving steps, interleaving.before = before ∧
      interleaving.afterRoot = afterRoot ∧ interleaving.afterState = afterState ∧
      interleaving.afterStatus = afterStatus := by
  obtain ⟨atRoot, root_reached, sound⟩ := CensusHistory.after_sound before
  obtain ⟨atState, state_reached, sound⟩ := sound.reaches afterRoot
  obtain ⟨atStatus, status_reached, sound⟩ := sound.reaches afterState
  obtain ⟨atCount, count_reached, -⟩ := sound.reaches afterStatus
  exact ⟨⟨before, afterRoot, afterState, afterStatus, rest, isSteps, atRoot, atState, atStatus,
    atCount, root_reached, state_reached, status_reached, count_reached⟩, rfl, rfl, rfl, rfl⟩

/-- Whenever there are four reads, some histories are those that they see. -/
theorem exists_interleaving {steps : List SharedStep}
    (reads : 4 ≤ steps.countP SharedStep.isRead) : Nonempty (Interleaving steps) := by
  obtain ⟨before, rest, isSteps, count⟩ := exists_read steps (by omega)
  obtain ⟨afterRoot, second, isRest, secondCount⟩ := exists_read rest (by omega)
  obtain ⟨afterState, third, isSecond, thirdCount⟩ := exists_read second (by omega)
  obtain ⟨afterStatus, last, isThird, -⟩ := exists_read third (by omega)
  rw [isThird] at isSecond
  rw [isSecond] at isRest
  rw [isRest] at isSteps
  obtain ⟨interleaving, -⟩ :=
    exists_interleaving_of before afterRoot afterState afterStatus last isSteps
  exact ⟨interleaving⟩

variable {id : CensusId} {history last : CensusHistory} {reader : SummaryReader}
  {operations : List CensusOperation} {rest : List SharedStep}

theorem run_others (reached : history.Reaches operations last) :
    (others operations).foldlM (step id) ⟨history, reader⟩ = .ok ⟨last, reader⟩ := by
  induction operations generalizing history with
  | nil =>
      rw [← Except.ok.inj reached]
      rfl
  | cons operation operations induction =>
      obtain ⟨later, stepped, reached⟩ := CensusHistory.reaches_cons_iff.mp reached
      rw [others, List.map_cons, List.foldlM_cons, step, stepped]
      exact induction reached

theorem run_read (reached : history.Reaches operations last) :
    (others operations ++ .read :: rest).foldlM (step id) ⟨history, reader⟩ =
      rest.foldlM (step id) ⟨last, reader.read id last.set⟩ := by
  rw [List.foldlM_append, run_others reached]
  rfl

theorem run_finished (id : CensusId) (sound : history.Sound)
    (answer : Except IdentityError CensusInfo) (steps : List SharedStep) :
    ∃ last, steps.foldlM (step id) ⟨history, .finished answer⟩ = .ok ⟨last, .finished answer⟩ := by
  induction steps generalizing history with
  | nil => exact ⟨history, rfl⟩
  | cons next rest induction =>
      cases next with
      | read => exact induction sound
      | client operation =>
          obtain ⟨later, stepped, laterSound⟩ := CensusHistory.step_sound sound operation
          rw [List.foldlM_cons, step, stepped]
          exact induction laterSound

namespace Interleaving

variable {steps : List SharedStep} (interleaving : Interleaving steps)

/-- All histories that the reads see are sound, and members are only added between them. -/
structure Ordered : Prop where
  root_sound : interleaving.atRoot.Sound
  state_sound : interleaving.atState.Sound
  status_sound : interleaving.atStatus.Sound
  count_sound : interleaving.atCount.Sound
  root_state : interleaving.atRoot.members <+: interleaving.atState.members
  state_status : interleaving.atState.members <+: interleaving.atStatus.members
  status_count : interleaving.atStatus.members <+: interleaving.atCount.members

theorem ordered : interleaving.Ordered := by
  obtain ⟨same, isSame, sound⟩ := CensusHistory.after_sound interleaving.before
  rw [interleaving.root_reached] at isSame
  rw [← Except.ok.inj isSame] at sound
  obtain ⟨stateSound, root_state⟩ := sound.reached interleaving.state_reached
  obtain ⟨statusSound, state_status⟩ := stateSound.reached interleaving.status_reached
  obtain ⟨countSound, status_count⟩ := statusSound.reached interleaving.count_reached
  exact ⟨sound, stateSound, statusSound, countSound, root_state, state_status, status_count⟩

def summary (id : CensusId) (status : Option CensusStatus) : CensusInfo where
  id := id
  state := interleaving.atState.set.state
  root := rootOfLeaves (interleaving.atRoot.members.map leaf)
  status := status
  members := interleaving.atCount.members.length

/-- A summary that is read to its end is returned, and its fields are what the four reads saw. -/
theorem run_eq (id : CensusId) : ∃ last status, interleaving.atStatus.set.status = .ok status ∧
    run id steps = .ok ⟨last, .finished (.ok (interleaving.summary id status))⟩ := by
  have ordered := interleaving.ordered
  obtain ⟨status, isStatus⟩ := ordered.status_sound.status_readable
  obtain ⟨last, isLast⟩ := run_finished id ordered.count_sound
    (.ok (interleaving.summary id status)) interleaving.rest
  have first : SummaryReader.idle.read id interleaving.atRoot.set =
      .rooted (rootOfLeaves (interleaving.atRoot.members.map leaf)) := by
    rw [SummaryReader.read, ordered.root_sound.root_eq]
    cases rootOfLeaves (interleaving.atRoot.members.map leaf) <;> rfl
  have third (root : Option CensusRoot) (state : CensusState) :
      (SummaryReader.stated root state).read id interleaving.atStatus.set =
        .noted root state status := by
    rw [SummaryReader.read, isStatus]
  refine ⟨last, status, isStatus, ?_⟩
  -- What others do between two reads leaves the reader as it is.
  calc run id steps
    _ = steps.foldlM (step id) ⟨⟨⟨CensusTables.empty, none⟩, []⟩, .idle⟩ := rfl
    _ = interleaving.rest.foldlM (step id) ⟨interleaving.atCount,
          (((SummaryReader.idle.read id interleaving.atRoot.set).read id
            interleaving.atState.set).read id interleaving.atStatus.set).read id
              interleaving.atCount.set⟩ := by
      conv_lhs => rw [interleaving.steps_eq]
      rw [run_read interleaving.root_reached, run_read interleaving.state_reached,
        run_read interleaving.status_reached, run_read interleaving.count_reached]
    _ = .ok ⟨last, .finished (.ok (interleaving.summary id status))⟩ := by
      rw [first, SummaryReader.read, third, SummaryReader.read, ordered.count_sound.member_count]
      exact isLast

theorem count_reached_from_root : interleaving.atRoot.Reaches (interleaving.afterRoot ++
    interleaving.afterState ++ interleaving.afterStatus) interleaving.atCount := by
  rw [CensusHistory.reaches_append_iff]
  refine ⟨interleaving.atStatus, ?_, interleaving.count_reached⟩
  rw [CensusHistory.reaches_append_iff]
  exact ⟨interleaving.atState, interleaving.state_reached, interleaving.status_reached⟩

theorem count_after : CensusHistory.after (interleaving.before ++ (interleaving.afterRoot ++
    interleaving.afterState ++ interleaving.afterStatus)) = .ok interleaving.atCount := by
  have reached := CensusHistory.reaches_append_iff.mpr
    ⟨interleaving.atRoot, interleaving.root_reached, interleaving.count_reached_from_root⟩
  exact reached

theorem Saw.between {interleaving : Interleaving steps} {moment : CensusHistory}
    (saw : interleaving.Saw moment) : moment.Sound ∧
      interleaving.atRoot.members <+: moment.members ∧
      moment.members <+: interleaving.atCount.members := by
  obtain ⟨done, left, isBetween, reached⟩ := saw
  have whole := interleaving.count_reached_from_root
  rw [isBetween] at whole
  obtain ⟨same, isMoment, isCount⟩ := CensusHistory.reaches_append_iff.mp whole
  rw [Reaches, reached, Except.ok.injEq] at isMoment
  rw [← isMoment] at isCount
  obtain ⟨sound, grown⟩ := interleaving.ordered.root_sound.reached reached
  exact ⟨sound, grown, (sound.reached isCount).2⟩

structure Explains (id : CensusId) (info : CensusInfo) : Prop where
  id_eq : info.id = id
  state_eq : info.state = interleaving.atState.set.state
  status_eq : interleaving.atStatus.set.status = .ok info.status
  members_eq : info.members = interleaving.atCount.members.length
  /-- The root is over the first of the members, those that there were when it was read. -/
  root_eq : info.root = rootOfLeaves (interleaving.atRoot.members.map leaf)
  root_first : interleaving.atRoot.members <+: interleaving.atCount.members
  /-- It is over all of them only if none were admitted since. -/
  root_whole : info.root = rootOfLeaves (interleaving.atCount.members.map leaf) →
    interleaving.atRoot.members = interleaving.atCount.members ∨
      Merkle.Collide (Merkle.hashedFor interleaving.atRoot.members ++
        Merkle.hashedFor interleaving.atCount.members)
  /-- A summary that says closed has the sealed count, and the sealed root unless keys were admitted
  between root and state. -/
  closed : info.state = .closed → ∃ sealed, interleaving.atState.set.sealed = some sealed ∧
    interleaving.atCount.set.sealed = some sealed ∧ info.members = sealed.members ∧
    sealed.root = rootOfLeaves (interleaving.atCount.members.map leaf) ∧
    (interleaving.atRoot.members = interleaving.atState.members → info.root = sealed.root)
  /-- Unless keys were admitted since the root was read, or a status was set after a closing between
  state and status, the summary is that of one moment. -/
  snapshot : interleaving.atRoot.members = interleaving.atCount.members →
    interleaving.atState.SetsInState interleaving.afterState →
    ∃ moment, interleaving.Saw moment ∧ moment.set.info id = .ok info
  /-- The summary of a moment has the root of all its members. -/
  of_moment : ∀ moment, interleaving.Saw moment → moment.set.info id = .ok info →
    info.root = rootOfLeaves (interleaving.atCount.members.map leaf)

theorem exists_snapshot {id : CensusId} {status : Option CensusStatus}
    (isStatus : interleaving.atStatus.set.status = .ok status)
    (same : interleaving.atRoot.members = interleaving.atCount.members)
    (sets : interleaving.atState.SetsInState interleaving.afterState) :
    ∃ moment, interleaving.Saw moment ∧
      moment.set.info id = .ok (interleaving.summary id status) := by
  obtain ⟨done, left, moment, isBetween, reached, state, kept⟩ :=
    interleaving.ordered.state_sound.exists_moment interleaving.status_reached sets
  have saw : interleaving.Saw moment := by
    refine ⟨interleaving.afterRoot ++ done, left ++ interleaving.afterStatus, ?_, ?_⟩
    · rw [isBetween]
      simp only [List.append_assoc]
    · rw [CensusHistory.reaches_append_iff]
      exact ⟨interleaving.atState, interleaving.state_reached, reached⟩
  obtain ⟨sound, grown, before⟩ := saw.between
  rw [same] at grown
  have all : moment.members = interleaving.atCount.members :=
    before.eq_of_length (Nat.le_antisymm before.length_le grown.length_le)
  refine ⟨moment, saw, ?_⟩
  rw [sound.info_eq (kept.trans isStatus), state, all, summary, same]

theorem root_of_moment {id : CensusId} {status : Option CensusStatus} {moment : CensusHistory}
    (saw : interleaving.Saw moment)
    (isInfo : moment.set.info id = .ok (interleaving.summary id status)) :
    rootOfLeaves (interleaving.atRoot.members.map leaf) =
      rootOfLeaves (interleaving.atCount.members.map leaf) := by
  obtain ⟨sound, -, before⟩ := saw.between
  obtain ⟨found, isFound⟩ := sound.status_readable
  rw [sound.info_eq isFound] at isInfo
  have same := Except.ok.inj isInfo
  have all : moment.members = interleaving.atCount.members :=
    before.eq_of_length (congrArg CensusInfo.members same)
  rw [← all]
  exact (congrArg CensusInfo.root same).symm

theorem explains {id : CensusId} {status : Option CensusStatus}
    (isStatus : interleaving.atStatus.set.status = .ok status) :
    interleaving.Explains id (interleaving.summary id status) := by
  have ordered := interleaving.ordered
  have first : interleaving.atRoot.members <+: interleaving.atCount.members :=
    (ordered.root_state.trans ordered.state_status).trans ordered.status_count
  constructor
  · rfl
  · rfl
  · exact isStatus
  · rfl
  · rfl
  · exact first
  · exact CensusHistory.eq_or_collide_of_root_eq ordered.root_sound.member_length
      ordered.count_sound.member_length
  · intro closed
    have isSealed := ordered.state_sound.sealed_of_closed closed
    obtain ⟨atStatus, sameStatus⟩ :=
      ordered.state_sound.reached_sealed interleaving.status_reached isSealed
    obtain ⟨atCount, sameCount⟩ :=
      ordered.status_sound.reached_sealed interleaving.count_reached atStatus
    have same := sameCount.trans sameStatus
    refine ⟨_, isSealed, atCount, ?_, ?_, ?_⟩
    · exact congrArg List.length same
    · rw [same]
    · intro kept
      rw [summary, kept]
  · exact interleaving.exists_snapshot isStatus
  · intro moment saw isInfo
    exact interleaving.root_of_moment saw isInfo

end Interleaving

/-- However other clients admit keys, set statuses and close a census between the four reads of a
summary, the summary is returned and says what the reads saw: the number of members at the last of
them, and the root over the first of these members, those that there were at the first read. It is
the summary of one moment in between unless keys were admitted since the root was read, or the
census was closed and given a status between state and status. Reads with nobody between them are
the summary of the census. -/
theorem summaries_follow_their_reads (id : CensusId) (steps : List SharedStep)
    (reads : 4 ≤ steps.countP SharedStep.isRead) :
    (∀ set, SummaryReader.read id set (SummaryReader.read id set (SummaryReader.read id set
      (SummaryReader.read id set .idle))) = .finished (set.info id)) ∧
    Nonempty (Interleaving steps) ∧ ∀ interleaving : Interleaving steps,
      ∃ last info, run id steps = .ok last ∧ last.reader = .finished (.ok info) ∧
        interleaving.Explains id info := by
  refine ⟨SummaryReader.four_reads id, exists_interleaving reads, fun interleaving => ?_⟩
  obtain ⟨last, status, isStatus, isLast⟩ := interleaving.run_eq id
  exact ⟨_, _, isLast, rfl, interleaving.explains isStatus⟩

def Torn (id : CensusId) (steps : List SharedStep) : Prop :=
  ∃ (interleaving : Interleaving steps) (last : SharedCensus) (info : CensusInfo),
    run id steps = .ok last ∧ last.reader = .finished (.ok info) ∧
      ∀ moment, interleaving.Saw moment → moment.set.info id ≠ .ok info

open CensusHistory (uniformKey uniformKeys)

def keyAfterRoot : List SharedStep :=
  [.client (.addKeys [uniformKey 1]), .read, .client (.addKeys [uniformKey 2]), .read, .read, .read]

def closedAfterRoot : List SharedStep :=
  [.read, .client (.addKeys [uniformKey 1]), .client .close, .read, .read, .read]

def lateStatus : StatusEntry := ⟨.ready "counted" .epoch, by decide⟩

def statusAfterState : List SharedStep :=
  [.read, .read, .client .close, .client (.setStatus lateStatus), .read, .read]

theorem summaries_follow_reads_around_a_key : 4 ≤ keyAfterRoot.countP SharedStep.isRead ∧
    ∃ (interleaving : Interleaving keyAfterRoot) (last : SharedCensus) (info : CensusInfo),
      run ⟨0⟩ keyAfterRoot = .ok last ∧ last.reader = .finished (.ok info) ∧
        interleaving.Explains ⟨0⟩ info := by
  have reads : 4 ≤ keyAfterRoot.countP SharedStep.isRead := by decide
  obtain ⟨-, ⟨interleaving⟩, explained⟩ := summaries_follow_their_reads ⟨0⟩ keyAfterRoot reads
  exact ⟨reads, interleaving, explained interleaving⟩

theorem root_of_first_ne : rootOfLeaves ([(uniformKey 1).bytes].map leaf) ≠
    rootOfLeaves (uniformKeys.map leaf) := by
  decide +kernel

theorem key_after_root_torn : Torn ⟨0⟩ keyAfterRoot := by
  obtain ⟨interleaving, isBefore, isAfterRoot, isAfterState, isAfterStatus⟩ :=
    exists_interleaving_of [.addKeys [uniformKey 1]] [.addKeys [uniformKey 2]] [] [] []
      (rfl : keyAfterRoot = _)
  obtain ⟨last, status, -, isLast⟩ := interleaving.run_eq ⟨0⟩
  refine ⟨interleaving, _, _, isLast, rfl, fun moment saw isInfo => ?_⟩
  have atRoot := interleaving.root_reached
  have atCount := interleaving.count_after
  rw [isBefore] at atRoot
  rw [isBefore, isAfterRoot, isAfterState, isAfterStatus] at atCount
  have first : interleaving.atRoot.members = [(uniformKey 1).bytes] :=
    CensusHistory.members_of_after atRoot rfl
  have both : interleaving.atCount.members = uniformKeys :=
    CensusHistory.members_of_after atCount rfl
  have same := interleaving.root_of_moment saw isInfo
  rw [first, both] at same
  exact root_of_first_ne same

theorem status_after_state_torn : Torn ⟨0⟩ statusAfterState := by
  obtain ⟨interleaving, isBefore, isAfterRoot, isAfterState, isAfterStatus⟩ :=
    exists_interleaving_of [] [] [.close, .setStatus lateStatus] [] []
      (rfl : statusAfterState = _)
  have atRoot := interleaving.root_reached
  have atState := interleaving.state_reached
  have atStatus := interleaving.status_reached
  rw [isBefore] at atRoot
  rw [isAfterRoot, ← Except.ok.inj atRoot] at atState
  rw [isAfterState, ← Except.ok.inj atState] at atStatus
  have late : interleaving.atStatus.set.status = .ok (some lateStatus.status) := by
    rw [← Except.ok.inj atStatus]
    exact IdentitySet.read_record_encode (CensusStatus.codec_restores (by decide))
  obtain ⟨last, status, isStatus, isLast⟩ := interleaving.run_eq ⟨0⟩
  refine ⟨interleaving, _, _, isLast, rfl, fun moment saw isInfo => ?_⟩
  rw [late] at isStatus
  have sound := saw.between.1
  obtain ⟨found, isFound⟩ := sound.status_readable
  rw [sound.info_eq isFound] at isInfo
  have sameState : moment.set.state = interleaving.atState.set.state :=
    congrArg CensusInfo.state (Except.ok.inj isInfo)
  have sameStatus : found = status := congrArg CensusInfo.status (Except.ok.inj isInfo)
  rw [← Except.ok.inj atState] at sameState
  rw [sameStatus, ← Except.ok.inj isStatus] at isFound
  obtain ⟨done, left, isBetween, reached⟩ := saw
  rw [isAfterRoot, isAfterState, isAfterStatus] at isBetween
  -- Before the closing there is no status, and after it the census is not open.
  cases done with
  | nil =>
      rw [← Except.ok.inj atRoot] at reached
      rw [← Except.ok.inj reached] at isFound
      cases isFound
  | cons first rest =>
      rw [← (List.cons.inj isBetween).1] at reached
      obtain ⟨closed, stepped, reached⟩ := CensusHistory.reaches_cons_iff.mp reached
      have closedSound := interleaving.ordered.root_sound.step stepped
      rw [← Except.ok.inj atRoot] at stepped
      obtain ⟨sealed, isSealed⟩ : ∃ sealed, closed.set.sealed = some sealed :=
        ⟨_, by rw [← Except.ok.inj stepped]; rfl⟩
      have momentSealed := (closedSound.reached_sealed reached isSealed).1
      rw [IdentitySet.state, momentSealed] at sameState
      cases sameState

theorem closed_after_root : ∃ (interleaving : Interleaving closedAfterRoot) (last : SharedCensus)
    (info : CensusInfo) (sealed : Sealed), run ⟨0⟩ closedAfterRoot = .ok last ∧
      last.reader = .finished (.ok info) ∧ info.state = .closed ∧
      interleaving.atState.set.sealed = some sealed ∧ info.root ≠ sealed.root := by
  obtain ⟨interleaving, isBefore, isAfterRoot, -, -⟩ :=
    exists_interleaving_of [] [.addKeys [uniformKey 1], .close] [] [] []
      (rfl : closedAfterRoot = _)
  have atRoot := interleaving.root_reached
  have atState : CensusHistory.after (interleaving.before ++ interleaving.afterRoot) =
      .ok interleaving.atState :=
    CensusHistory.reaches_append_iff.mpr ⟨_, atRoot, interleaving.state_reached⟩
  rw [isBefore] at atRoot
  rw [isBefore, isAfterRoot] at atState
  have none : interleaving.atRoot.members = [] := CensusHistory.members_of_after atRoot rfl
  have one : interleaving.atState.members = [(uniformKey 1).bytes] :=
    CensusHistory.members_of_after atState rfl
  have closed : interleaving.atState.set.state = .closed := by
    rw [← Except.ok.inj atState]
    rfl
  obtain ⟨last, status, -, isLast⟩ := interleaving.run_eq ⟨0⟩
  refine ⟨interleaving, _, _, _, isLast, rfl, closed,
    interleaving.ordered.state_sound.sealed_of_closed closed, fun same => ?_⟩
  rw [Interleaving.summary, none, one] at same
  have noRoot : rootOfLeaves ([(uniformKey 1).bytes].map leaf) = .none :=
    same.symm.trans ((IdentitySet.root_of_leaves_eq_none_iff []).mpr rfl)
  rw [IdentitySet.root_of_leaves_eq_none_iff] at noRoot
  cases noRoot

/-- Keys that are admitted after the root is read, and a status that is set after the closing of a
census whose state was read before it, tear a summary; and a summary can say closed without the
sealed root. -/
theorem summaries_can_be_torn : Torn ⟨0⟩ keyAfterRoot ∧ Torn ⟨0⟩ statusAfterState ∧
    ∃ (interleaving : Interleaving closedAfterRoot) (last : SharedCensus) (info : CensusInfo)
      (sealed : Sealed), run ⟨0⟩ closedAfterRoot = .ok last ∧ last.reader = .finished (.ok info) ∧
      info.state = .closed ∧ interleaving.atState.set.sealed = some sealed ∧
      info.root ≠ sealed.root :=
  ⟨key_after_root_torn, status_after_state_torn, closed_after_root⟩

end SharedCensus

end CensusNode
