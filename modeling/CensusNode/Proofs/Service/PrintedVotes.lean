import CensusNode.Proofs.Json.DataModel
import CensusNode.Proofs.Service.Votes

/-!
Printed votes can be submitted again. The members of a printed vote, whatever the case of their digits
and however many marks come before them, are the arguments of a submission of the same package under
the same root. A node that stores it prints it as it was printed before, but for the time.
-/

namespace CensusNode

/-- Two objects with the same members in the same order, but for the value of one. -/
def Json.AlikeBut (name : String) (json other : Json) : Prop :=
  ∃ front value changed back, json = .object (front ++ (name, value) :: back) ∧
    other = .object (front ++ (name, changed) :: back)

namespace View

def IsSpelt (view : Json) (name text : String) : Prop :=
  ∃ printed, view.member? name = some (.string printed) ∧ Hex.Spells printed text

/-- A submission whose arguments are the members of a printed vote. -/
inductive CopiedFrom (view : Json) : VotesAction → Prop where
  | store {root signature publicKey merkleProof vote : String} {index : UInt64}
      (isRoot : IsSpelt view "census_root" root)
      (isIndex : view.member? "index" = some (.nat index.toNat))
      (isSignature : IsSpelt view "signature" signature)
      (isPublicKey : IsSpelt view "public_key" publicKey)
      (isProof : IsSpelt view "merkle_proof" merkleProof)
      (isVote : IsSpelt view "vote" vote) :
      CopiedFrom view (.store root index signature publicKey merkleProof vote)

theorem IsSpelt.spells {view : Json} {name text printed : String} (spelt : IsSpelt view name text)
    (isMember : view.member? name = some (.string printed)) : Hex.Spells printed text := by
  obtain ⟨other, isOther, spells⟩ := spelt
  cases isMember.symm.trans isOther
  exact spells

def capitals (stored : StoredVotePackage) : VotesAction :=
  .store (Hex.capitals 1 stored.root.bytes) stored.package.index
    (Hex.capitals 2 stored.package.signature.bytes) (Hex.capitals 0 stored.package.publicKey)
    (Hex.capitals 1 stored.package.merkleProof) (Hex.capitals 3 stored.package.vote)

theorem copied_from_capitals (stored : StoredVotePackage) :
    CopiedFrom (View.stored stored) (capitals stored) :=
  .store ⟨_, rfl, Hex.spells_capitals 1 _⟩ rfl ⟨_, rfl, Hex.spells_capitals 2 _⟩
    ⟨_, rfl, Hex.spells_capitals 0 _⟩ ⟨_, rfl, Hex.spells_capitals 1 _⟩
    ⟨_, rfl, Hex.spells_capitals 3 _⟩

variable {original again : StoredVotePackage}

/-- Only the time tells two prints of one package under one root apart. -/
theorem alike_but_time (sameRoot : again.root = original.root)
    (samePackage : again.package = original.package) :
    Json.AlikeBut "inserted_at" (View.stored original) (View.stored again) := by
  refine ⟨packageMembers original.package ++
      [("census_root", CensusRoot.format.write original.root)],
    CensusStatus.instantFormat.write original.insertedAt,
    CensusStatus.instantFormat.write again.insertedAt, [], ?_, ?_⟩
  · rw [View.stored, List.append_assoc]
    rfl
  · rw [View.stored, sameRoot, samePackage, List.append_assoc]
    rfl

end View

namespace Command

variable {original : StoredVotePackage}

theorem decode_hex_of_spells {bytes : Bytes} {text : String} (argument : HexArgument)
    (spells : Hex.Spells (Hex.encode bytes) text) : decodeHex argument text = .ok bytes := by
  rw [decodeHex, Hex.decode_marked_of_spells spells]

/-- A copied submission is decoded to what was printed. -/
theorem decode_copied {root signature publicKey merkleProof vote : String} {index : UInt64}
    (copied : View.CopiedFrom (View.stored original)
      (.store root index signature publicKey merkleProof vote)) :
    index = original.package.index ∧ decodeRoot root = .ok original.root ∧
      decodePackage index signature publicKey merkleProof vote = .ok original.package := by
  cases copied with
  | store isRoot isIndex isSignature isPublicKey isProof isVote =>
      have sameIndex : index = original.package.index := by
        have numbers := Json.integer.inj (Option.some.inj isIndex)
        exact UInt64.toNat_inj.mp (Int.ofNat.inj numbers).symm
      have spellsRoot : Hex.Spells original.root.display root := isRoot.spells rfl
      have signatureBytes : decodeHex .signature signature = .ok original.package.signature.bytes :=
        decode_hex_of_spells .signature (isSignature.spells rfl)
      have keyBytes : decodeHex .publicKey publicKey = .ok original.package.publicKey :=
        decode_hex_of_spells .publicKey (isPublicKey.spells rfl)
      have proofBytes : decodeHex .merkleProof merkleProof = .ok original.package.merkleProof :=
        decode_hex_of_spells .merkleProof (isProof.spells rfl)
      have voteBytes : decodeHex .vote vote = .ok original.package.vote :=
        decode_hex_of_spells .vote (isVote.spells rfl)
      refine ⟨sameIndex, ?_, ?_⟩
      · rw [decodeRoot, CensusRoot.parse_of_spells spellsRoot]
      · simp only [decodePackage, signatureBytes, keyBytes, proofBytes, voteBytes, bind, Except.bind,
          Block.of_bytes_bytes, sameIndex]

theorem printed_iff {service : Service} {now : Instant} {index : UInt64} {view : Json} :
    (runVotes service now (.get index)).1 = .ok view ↔
      ∃ original, service.vote index = .ok original ∧ view = View.stored original := by
  rw [runVotes, answerRead]
  cases service.vote index with
  | ok original => simp [answer, eq_comm]
  | error error => simp [answer]

/-- A package is stored under the root it was printed with, read back, and printed as before but for
the time, which is that of the clock. -/
structure Resubmitted (original : StoredVotePackage) (target : Service) (now : Instant)
    (ran : Except CommandError Json × Service) : Prop where
  rows : ran.2.rows = target.rows ++
    [VoteRows.rowOf original.root original.package now (target.rows.length + 1)]
  printed : ∃ again, ran.2.vote original.package.index = .ok again ∧
    Submission.IsKeptAs ⟨original.root, original.package, now⟩ again ∧
    ran.1 = .ok (View.stored again) ∧
    Json.AlikeBut "inserted_at" (View.stored original) (View.stored again)

/-- Whatever a node prints for a vote can be submitted to any other node, or to the same one with an
empty ledger, with the printed texts for arguments. It is stored there if the ledger takes rows and
none of its rows agrees with it in a field. -/
theorem printed_votes_can_be_resubmitted {source : Service} (reached : source.Reached)
    {earlier : Instant} {index : UInt64} {view : Json}
    (printed : (runVotes source earlier (.get index)).1 = .ok view) :
    ∃ original, source.vote index = .ok original ∧ view = View.stored original ∧
      ∀ target : Service, target.Reached → target.ledger.writable = true →
        VoteRows.FitDatabase target.rows →
        (∀ row ∈ target.rows, ∀ field, ¬row.Agrees original.package field) →
        ∀ now : Instant, now.micros ≤ Instant.latestMicros →
        ∀ action, View.CopiedFrom view action →
          Resubmitted original target now (runVotes target now action) := by
  obtain ⟨original, found, isView⟩ := printed_iff.mp printed
  obtain ⟨isIndex, storable⟩ := reached.index_of_vote found
  rw [← isIndex] at storable
  refine ⟨original, found, isView, ?_⟩
  intro target targetReached takesRows fit fresh now inTime action copied
  rw [isView] at copied
  cases action with
  | list root cursor limit all => cases copied
  | get index => cases copied
  | store root index signature publicKey merkleProof vote =>
      obtain ⟨sameIndex, isRoot, isPackage⟩ := decode_copied copied
      subst sameIndex
      obtain ⟨later, again, storing, rows, isVote, kept⟩ :=
        targetReached.store_vote takesRows fit original.root storable fresh inTime
      have ran : runVotes target now
          (.store root original.package.index signature publicKey merkleProof vote) =
          (.ok (View.stored again), later) := by
        simp only [runVotes, isRoot, isPackage, storing, answerRead, isVote, answer]
      rw [ran]
      exact ⟨rows, again, isVote, kept, rfl, View.alike_but_time kept.root kept.package⟩

def lettered : StoredVotePackage where
  root := VoteRows.someRoot
  package := ⟨⟨List.replicate 64 205, rfl⟩, 7, [171], [], [239]⟩
  insertedAt := .epoch

def storing : List ServiceStep :=
  [.operation (.storeVote lettered.root lettered.package lettered.insertedAt)]

def aSecondLater : Instant := (Instant.of? 1 0).getD .epoch

theorem exists_storing :
    ∃ source target : Service, source.Reached ∧ target.Reached ∧ source.vote 7 = .ok lettered ∧
      target.ledger.writable = true ∧ target.rows = [] := by
  have computed : (Service.opened? Service.blankDisk Service.usualSite.config).bind (fun opened =>
      (opened.run Service.usualSite.config storing).map fun ran =>
        ((ran.2.vote 7).toOption, opened.ledger.writable, opened.rows)) =
      some (some lettered, true, []) := by
    decide +kernel
  obtain ⟨opened, found, runs⟩ := Option.bind_eq_some_iff.mp computed
  obtain ⟨⟨answers, source⟩, ran, both⟩ := Option.map_eq_some_iff.mp runs
  obtain ⟨isVote, further⟩ := Prod.mk.inj both
  obtain ⟨takesRows, empty⟩ := Prod.mk.inj further
  have opening := Service.opened_eq_some found
  have known : Service.blankDisk.HeldFilesKnown := fun _ held => by cases held
  have formed := Service.blank_disk_well_formed
  exact ⟨source, opened, Service.reached_of_run formed known opening empty ran,
    @Service.reached_of_run _ opened _ opened [] [] formed known opening empty rfl,
    Registry.eq_ok_of_to_option isVote, takesRows, empty⟩

/-- A node stores a vote and prints it. Another one stores what was printed a second later, from
capitals after marks. -/
theorem lettered_vote_can_be_resubmitted :
    ∃ source target : Service, source.Reached ∧ target.Reached ∧
      (runVotes source .epoch (.get 7)).1 = .ok (View.stored lettered) ∧
      target.ledger.writable = true ∧ VoteRows.FitDatabase target.rows ∧
      (∀ row ∈ target.rows, ∀ field, ¬row.Agrees lettered.package field) ∧
      aSecondLater.micros ≤ Instant.latestMicros ∧
      View.CopiedFrom (View.stored lettered) (View.capitals lettered) ∧
      Resubmitted lettered target aSecondLater
        (runVotes target aSecondLater (View.capitals lettered)) := by
  obtain ⟨source, target, reached, targetReached, found, takesRows, empty⟩ := exists_storing
  have printed : (runVotes source .epoch (.get 7)).1 = .ok (View.stored lettered) :=
    printed_iff.mpr ⟨lettered, found, rfl⟩
  have fit : VoteRows.FitDatabase target.rows := by
    rw [empty]
    decide
  have fresh : ∀ row ∈ target.rows, ∀ field, ¬row.Agrees lettered.package field := by
    rw [empty]
    exact fun row member => by cases member
  have inTime : aSecondLater.micros ≤ Instant.latestMicros := by decide
  have copied := View.copied_from_capitals lettered
  obtain ⟨original, isFound, -, again⟩ := printed_votes_can_be_resubmitted reached printed
  cases found.symm.trans isFound
  exact ⟨source, target, reached, targetReached, printed, takesRows, fit, fresh, inTime, copied,
    again target targetReached takesRows fit fresh aSecondLater inTime _ copied⟩

/-- A node whose ledger path is an address, in which the file name can ask for a mode. -/
def addressedConfig (fileName : String) : NodeConfig :=
  ⟨"file:.", StorageConfig.defaults, { LedgerConfig.defaults with fileName := fileName }⟩

/-- A ledger that is opened for reading only refuses a printed vote, although it has no rows. -/
theorem read_only_ledger_refuses_printed_vote :
    ∃ source target : Service, source.Reached ∧ target.Reached ∧
      (runVotes source .epoch (.get 7)).1 = .ok (View.stored lettered) ∧ target.rows = [] ∧
      View.CopiedFrom (View.stored lettered) (View.capitals lettered) ∧
      errorOf (runVotes target aSecondLater (View.capitals lettered)) =
        some (.service (.ledger (.database .readOnly))) := by
  have computed : (Service.opened? Service.blankDisk (addressedConfig "v")).bind (fun first =>
      (Service.opened? first.close (addressedConfig "v?mode=ro")).map fun target =>
        (target.rows, errorOf (runVotes target aSecondLater (View.capitals lettered)))) =
      some ([], some (.service (.ledger (.database .readOnly)))) := by
    decide +kernel
  obtain ⟨first, isFirst, others⟩ := Option.bind_eq_some_iff.mp computed
  obtain ⟨target, isTarget, both⟩ := Option.map_eq_some_iff.mp others
  obtain ⟨empty, refused⟩ := Prod.mk.inj both
  obtain ⟨source, -, reached, -, found, -⟩ := exists_storing
  have known : Service.blankDisk.HeldFilesKnown := fun _ held => by cases held
  have inUse := (Service.opened_on Service.blank_disk_well_formed known
    (Service.opened_eq_some isFirst)).in_use
  obtain ⟨name, above, housed⟩ := inUse.housed
  have targetReached : target.Reached :=
    @Service.reached_of_run _ target _ target [] [] inUse.left_by.formed
      (inUse.left_by.known housed.known) (Service.opened_eq_some isTarget) empty rfl
  exact ⟨source, target, reached, targetReached, printed_iff.mpr ⟨lettered, found, rfl⟩, empty,
    View.copied_from_capitals lettered, refused⟩

end Command

end CensusNode
