import TipRouter.EpochPhases

/-! What consensus of an epoch rests on. Votes are taken when every operator of the
epoch snapshot has been registered, and consensus comes from votes, by their weight
or through the tie breaker. So whoever has begun an operator snapshot has finished
it by the time accounts can be closed. -/
namespace TipRouter
open Runs

/-! ## The operators of the epoch snapshot -/

/-- Whoever has an operator snapshot is one of the operators the epoch snapshot
counts, and once all of them are registered nobody's snapshot is missing. -/
structure OperatorsListed (indexOf : Pubkey → ℕ) (snapshot : Account EpochSnapshot)
    (operators : Pubkey → Account OperatorSnapshot) (record : SnapshotRecord)
    (operatorCount : ℕ) : Prop where
  count : ∀ data, snapshot = .ready data → data.operatorCount = operatorCount
  unopened : record.status = .dne → ∀ operator, operators operator = .missing
  listed : ∀ operator dataLen, operators operator = .allocated dataLen →
    indexOf operator < operatorCount
  inRange : ∀ i : Fin maxOperators, record.statuses[i] ≠ .dne → i < operatorCount
  full : record.status ≠ .dne → record.progress.isComplete = true →
    operatorCount ≤ maxOperators ∧
      ∀ i : Fin maxOperators, i < operatorCount → record.statuses[i] ≠ .dne

section Operators
variable {indexOf : Pubkey → ℕ} {snapshot : Account EpochSnapshot} {before after : EpochSnapshot}
variable {operators later : Pubkey → Account OperatorSnapshot} {record recordLater : SnapshotRecord}
variable {operator : Pubkey} {operatorCount : ℕ}

/-- As many operators are complete as are counted, so that all are. -/
theorem SnapshotsMirrored.full
    (mirrored : SnapshotsMirrored indexOf (.ready before) operators record)
    (inRange : ∀ i : Fin maxOperators, record.statuses[i] ≠ .dne → i < before.operatorCount)
    (complete : record.progress.isComplete = true) :
    before.operatorCount ≤ maxOperators ∧
      ∀ i : Fin maxOperators, i < before.operatorCount → record.statuses[i] ≠ .dne := by
  have final : before.finalized = true := (mirrored.isComplete_eq rfl).symm.trans complete
  have registered : before.operatorsRegistered = before.operatorCount := beq_iff_eq.mp final
  have listed : record.completed ⊆
      Finset.univ.filter fun i : Fin maxOperators => i.val < before.operatorCount := by
    intro j completed
    simp only [SnapshotRecord.completed, Finset.mem_filter, Finset.mem_univ, true_and] at completed
    exact Finset.mem_filter.mpr ⟨Finset.mem_univ _, inRange j completed.1⟩
  have few : (Finset.univ.filter fun i : Fin maxOperators => i.val < before.operatorCount).card ≤
      before.operatorCount := by
    rw [← Finset.card_map Fin.valEmbedding, ← Finset.card_range before.operatorCount]
    apply Finset.card_le_card
    intro value member
    obtain ⟨j, inside, rfl⟩ := Finset.mem_map.mp member
    simpa using inside
  have same := Finset.eq_of_subset_of_card_le listed (by
    rw [← mirrored.registered before rfl, registered]
    exact few)
  have bounded : record.completed.card ≤ maxOperators := card_finset_fin_le _
  refine ⟨by rw [← registered, mirrored.registered before rfl]; exact bounded, fun i below => ?_⟩
  have completed : i ∈ record.completed := by
    rw [same]
    simpa using below
  simp only [SnapshotRecord.completed, Finset.mem_filter, Finset.mem_univ, true_and] at completed
  exact completed.1

namespace OperatorsListed

/-- A new epoch snapshot counts operators of which none has begun. -/
theorem start (listed : OperatorsListed indexOf snapshot operators record operatorCount)
    (mirrored : SnapshotsMirrored indexOf snapshot operators record)
    (absent : record.status = .dne) :
    OperatorsListed indexOf (.ready after) operators
      { record with status := .created, progress := .new after.operatorCount }
      after.operatorCount where
  count data ready := by
    cases ready
    rfl
  unopened absent := by cases absent
  listed operator dataLen allocated := by
    cases (listed.unopened absent operator).symm.trans allocated
  inRange i used := absurd (mirrored.unstarted absent i) used
  full _ complete := by
    dsimp only [Progress.isComplete, Progress.new] at complete
    split at complete
    · cases complete
    · have none : after.operatorCount ≤ 0 := of_decide_eq_true complete
      exact ⟨none.trans (Nat.zero_le _), fun i below => by omega⟩

theorem allocate {dataLen : ℕ}
    (listed : OperatorsListed indexOf snapshot operators record operatorCount)
    (created : record.status ≠ .dne) (below : indexOf operator < operatorCount) :
    OperatorsListed indexOf snapshot (Function.update operators operator (.allocated dataLen))
      record operatorCount :=
  { listed with
    unopened := fun absent => absurd absent created
    listed := fun other dataLen allocated => by
      by_cases here : other = operator
      · rw [here]
        exact below
      · rw [Function.update_of_ne here] at allocated
        exact listed.listed other dataLen allocated }

/-- While the epoch snapshot is there, what is complete follows from its counts. -/
theorem change (listed : OperatorsListed indexOf (.ready before) operators record operatorCount)
    (mirrored : SnapshotsMirrored indexOf (.ready after) later recordLater)
    (sameCount : after.operatorCount = before.operatorCount)
    (inRange : ∀ i : Fin maxOperators, recordLater.statuses[i] ≠ .dne → i < operatorCount)
    (noMore : ∀ other dataLen, later other = .allocated dataLen →
      operators other = .allocated dataLen) :
    OperatorsListed indexOf (.ready after) later recordLater operatorCount := by
  have count : after.operatorCount = operatorCount := sameCount.trans (listed.count before rfl)
  refine ⟨?_, ?_, ?_, inRange, ?_⟩
  · intro data ready
    cases ready
    exact count
  · intro absent
    cases (mirrored.tracked.filled_of_ready rfl).symm.trans absent
  · intro other dataLen allocated
    exact listed.listed other dataLen (noMore other dataLen allocated)
  · intro _ complete
    rw [← count] at inRange ⊢
    exact mirrored.full inRange complete

theorem close (listed : OperatorsListed indexOf (.ready before) operators record operatorCount)
    (created : record.status = .created) :
    OperatorsListed indexOf .missing operators { record with status := .closed } operatorCount :=
  { listed with
    count := fun data ready => by cases ready
    unopened := fun absent => by cases absent
    full := fun _ => listed.full (by rw [created]; exact fun same => by cases same) }

theorem closeOperator {data : OperatorSnapshot}
    (listed : OperatorsListed indexOf snapshot operators record operatorCount)
    (inside : indexOf operator < maxOperators) (ready : operators operator = .ready data)
    (used : record.statuses[(⟨_, inside⟩ : Fin maxOperators)] ≠ .dne) :
    OperatorsListed indexOf snapshot (Function.update operators operator .missing)
      { record with statuses := record.statuses.put ⟨_, inside⟩ .closed } operatorCount where
  count := listed.count
  unopened absent := by cases (listed.unopened absent operator).symm.trans ready
  listed other dataLen allocated :=
    listed.listed other dataLen (Account.of_update_eq allocated nofun)
  inRange i closed := by
    by_cases here : (⟨_, inside⟩ : Fin maxOperators) = i
    · rw [← here]
      exact listed.inRange _ used
    · dsimp only at closed
      rw [Slots.getElem_put_ne _ _ here] at closed
      exact listed.inRange i closed
  full created complete := by
    refine ⟨(listed.full created complete).1, fun i below => ?_⟩
    by_cases here : (⟨_, inside⟩ : Fin maxOperators) = i
    · dsimp only
      rw [← here, Slots.getElem_put_self]
      exact fun same => by cases same
    · dsimp only
      rw [Slots.getElem_put_ne _ _ here]
      exact (listed.full created complete).2 i below

end OperatorsListed

end Operators

section Snapshots
variable {snapshots next : Snapshots}

theorem Snapshots.initializeOperatorSnapshot_records {reading : OperatorReading} {bump slot : ℕ}
    (filled : snapshots.initializeOperatorSnapshot reading bump slot = .ok next) :
    ∃ (inside : reading.ncnOperatorIndex < maxOperators) (data : OperatorSnapshot),
      next.epochSnapshot.operatorCount = snapshots.epochSnapshot.operatorCount ∧
      next.operatorSnapshots =
        Function.update snapshots.operatorSnapshots reading.operator (.ready data) ∧
      next.epochState.operatorCount = snapshots.epochState.operatorCount ∧
      next.epochState.accountStatus = { snapshots.epochState.accountStatus with
        operatorSnapshot :=
          snapshots.epochState.accountStatus.operatorSnapshot.put ⟨_, inside⟩ .created } ∧
      next.epochState.isClosing = snapshots.epochState.isClosing := by
  obtain ⟨data, _, _, -, registers, update, rfl⟩ := initializeOperatorSnapshot_eq_ok filled
  obtain ⟨inside, rfl⟩ := EpochState.updateReallocOperatorSnapshot_eq_ok update
  exact ⟨inside, data, registers.operatorCount, rfl, rfl, rfl, rfl⟩

theorem Snapshots.processSnapshotVaultOperatorDelegation_records {spl : SplMath}
    {weightTable : WeightTable} {operator : Pubkey} {reading : VaultReading} {slot : ℕ}
    (taken : snapshots.processSnapshotVaultOperatorDelegation spl weightTable operator reading
      slot = .ok next) :
    ∃ data : OperatorSnapshot,
      next.epochSnapshot.operatorCount = snapshots.epochSnapshot.operatorCount ∧
      next.operatorSnapshots =
        Function.update snapshots.operatorSnapshots operator (.ready data) ∧
      next.epochState.operatorCount = snapshots.epochState.operatorCount ∧
      next.epochState.accountStatus = snapshots.epochState.accountStatus ∧
      next.epochState.isClosing = snapshots.epochState.isClosing := by
  obtain ⟨_, _, _, data, _, _, -, -, -, registers, update, rfl⟩ :=
    processSnapshotVaultOperatorDelegation_eq_ok taken
  obtain ⟨_, rfl⟩ := EpochState.updateSnapshotVaultOperatorDelegation_eq_ok update
  exact ⟨data, registers.operatorCount, rfl, rfl, rfl, rfl⟩

end Snapshots

/-! ## What consensus rests on -/

/-- Votes are taken when all operators are registered, and only votes lead to
consensus, without which nothing is closed. -/
structure EpochAccounts.Registered (indexOf : Pubkey → ℕ) (accounts : EpochAccounts)
    (epochState : EpochState) : Prop where
  operators : OperatorsListed indexOf accounts.epochSnapshot accounts.operatorSnapshots
    epochState.snapshotRecord epochState.operatorCount
  voted : ∀ box, accounts.ballotBox = .ready box →
    (∃ i : Fin maxOperators, box.ballotTallies[i].isValid = true) → epochState.SnapshotDone
  decided : epochState.isConsensusReached = true →
    epochState.SnapshotDone ∧ epochState.accountStatus.ballotBox ≠ .dne
  closing : epochState.isClosing = true → epochState.isConsensusReached = true
  whole : ∀ key dataLen, accounts.ncnRewardRouters key ≠ .allocated dataLen

/-- A vote is cast on the weights of a final epoch snapshot. -/
theorem VotingAccounts.processCastVote_finalized {spl : SplMath} {accounts next : VotingAccounts}
    {operator voter operatorAdmin : Pubkey} {epochSnapshot : EpochSnapshot}
    {operatorSnapshot : OperatorSnapshot} {metaMerkleRoot : Bytes32}
    {validSlotsAfterConsensus slot : ℕ}
    (processed : accounts.processCastVote spl operator voter operatorAdmin epochSnapshot
      operatorSnapshot metaMerkleRoot validSlotsAfterConsensus slot = .ok next) :
    epochSnapshot.finalized = true := by
  unfold processCastVote at processed
  split at processed
  · cases processed
  split at processed
  · cases processed
  · rename_i final
    simpa using final

/-- The tie breaker is a ballot that somebody voted for. -/
theorem VotingAccounts.processAdminSetTieBreaker_listed {accounts next : VotingAccounts}
    {configTieBreakerAdmin tieBreakerAdmin : Pubkey} {metaMerkleRoot : Bytes32}
    {epochsBeforeStall currentEpoch slot : ℕ}
    (processed : accounts.processAdminSetTieBreaker configTieBreakerAdmin tieBreakerAdmin
      metaMerkleRoot epochsBeforeStall currentEpoch slot = .ok next) :
    ∃ i : Fin maxOperators, accounts.ballotBox.ballotTallies[i].isValid = true := by
  unfold processAdminSetTieBreaker at processed
  split at processed
  · cases processed
  obtain ⟨decided, set, -⟩ := bind_eq_ok.mp processed
  obtain ⟨-, ⟨i, listed⟩, -⟩ := BallotBox.setTieBreakerBallot_cases set
  exact ⟨i, (Ballot.eq_iff.mp listed).1⟩

namespace EpochAccounts

variable {runtime : Runtime} {indexOf : Pubkey → ℕ} {accounts next : EpochAccounts}
variable {context : Context} {instruction : EpochInstruction}
variable {epochState before after : EpochState}

namespace Registered

/-- Before anything is filled there is nothing to know. -/
theorem start (unopened : accounts.Unopened) (ncn : Pubkey) (epoch bump slot : ℕ) :
    accounts.Registered indexOf
      (EpochState.zeroed.initializeState ncn epoch bump slot).updateReallocEpochState where
  operators := by
    refine ⟨fun data ready => ?_, fun _ => unopened.operatorSnapshots, fun operator _ allocated => ?_,
      fun i used => ?_, fun started => absurd rfl started⟩
    · cases unopened.epochSnapshot.symm.trans ready
    · cases (unopened.operatorSnapshots operator).symm.trans allocated
    · exact absurd (Vector.getElem_replicate ..) used
  voted box ready := by cases unopened.ballotBox.symm.trans ready
  decided reached := by cases reached
  closing closing := by cases closing
  whole key dataLen allocated := by cases (unopened.ncnRewardRouters key).symm.trans allocated

/-- What an instruction on other accounts keeps of consensus. -/
theorem keep (registered : accounts.Registered indexOf before) (advances : before.Advances after)
    (operators : OperatorsListed indexOf next.epochSnapshot next.operatorSnapshots
      after.snapshotRecord after.operatorCount)
    (box : ∀ data, next.ballotBox = .ready data → accounts.ballotBox = .ready data)
    (slot : after.slotConsensusReached = before.slotConsensusReached)
    (closing : after.isClosing = before.isClosing)
    (whole : ∀ key dataLen, next.ncnRewardRouters key ≠ .allocated dataLen) :
    next.Registered indexOf after where
  operators := operators
  voted data ready found := advances.snapshot (registered.voted data (box data ready) found)
  decided reached := by
    unfold EpochState.isConsensusReached at reached
    rw [slot] at reached
    exact (registered.decided reached).imp advances.snapshot advances.ballotBox
  closing isClosing := by
    rw [closing] at isClosing
    have reached := registered.closing isClosing
    unfold EpochState.isConsensusReached at reached ⊢
    rw [slot]
    exact reached
  whole := whole

theorem whole_update {routers : Pubkey × NcnFeeGroup → Account NcnRewardRouter}
    {key : Pubkey × NcnFeeGroup} {account : Account NcnRewardRouter}
    (whole : ∀ key dataLen, routers key ≠ .allocated dataLen)
    (here : ∀ dataLen, account ≠ .allocated dataLen) (other : Pubkey × NcnFeeGroup) (dataLen : ℕ) :
    Function.update routers key account other ≠ .allocated dataLen :=
  fun allocated => whole other dataLen (Account.of_update_eq allocated (here dataLen))

theorem setClosing (registered : accounts.Registered indexOf before)
    (reached : before.isConsensusReached = true) :
    accounts.Registered indexOf before.setIsClosing :=
  { registered with
    operators := { registered.operators with }
    closing := fun _ => reached }

/-- Closing an account forgets nothing of how consensus came about. -/
theorem close {account : AccountToClose} {withReceiver : Bool}
    (registered : accounts.Registered indexOf epochState)
    (mirrored : accounts.MirroredBy indexOf epochState)
    (closed : accounts.closeAccount runtime epochState withReceiver account = .ok next)
    (still : next.epochState = .ready after) : next.Registered indexOf after := by
  have advances := closeAccount_advances closed still
  cases account with
  | epochState =>
    obtain ⟨_, -, same⟩ := bind_eq_ok.mp closed
    cases same
    cases still
  | otherEpochState =>
    obtain ⟨_, -, same⟩ := bind_eq_ok.mp closed
    cases same
    cases still
    exact registered.keep advances { registered.operators with } (fun _ ready => ready) rfl rfl
      registered.whole
  | weightTable =>
    obtain ⟨_, -, same⟩ := bind_eq_ok.mp closed
    cases same
    cases still
    exact registered.keep advances { registered.operators with } (fun _ ready => ready) rfl rfl
      registered.whole
  | epochSnapshot =>
    obtain ⟨snapshot, found, same⟩ := bind_eq_ok.mp closed
    cases same
    cases still
    have ready := loadToClose_eq_ok found
    have operators := registered.operators
    rw [ready] at operators
    exact registered.keep advances
      (operators.close (mirrored.snapshots.tracked.filled_of_ready ready)) (fun _ ready => ready)
      rfl rfl registered.whole
  | operatorSnapshot operator =>
    obtain ⟨snapshot, found, closed⟩ := bind_eq_ok.mp closed
    obtain ⟨recorded, update, same⟩ := bind_eq_ok.mp closed
    cases same
    cases still
    have ready := loadToClose_eq_ok found
    rw [mirrored.snapshots.index operator snapshot ready] at update
    obtain ⟨inside, rfl⟩ := EpochState.closeOperatorSnapshot_eq_ok update
    have created := (mirrored.snapshots.operatorsTracked operator).filled_of_ready ready
    rw [statusOf_of_lt inside] at created
    exact registered.keep advances
      (registered.operators.closeOperator inside ready (by rw [created]; nofun))
      (fun _ ready => ready) rfl rfl registered.whole
  | ballotBox =>
    obtain ⟨_, -, same⟩ := bind_eq_ok.mp closed
    cases same
    cases still
    exact registered.keep advances { registered.operators with } (fun _ ready => by cases ready)
      rfl rfl registered.whole
  | baseRewardRouter =>
    obtain ⟨_, -, closed⟩ := bind_eq_ok.mp closed
    obtain ⟨_, -, same⟩ := bind_eq_ok.mp closed
    cases same
    cases still
    exact registered.keep advances { registered.operators with } (fun _ ready => ready) rfl rfl
      registered.whole
  | ncnRewardRouter operator group =>
    obtain ⟨_, -, closed⟩ := bind_eq_ok.mp closed
    obtain ⟨_, -, closed⟩ := bind_eq_ok.mp closed
    obtain ⟨_, update, same⟩ := bind_eq_ok.mp closed
    cases same
    cases still
    obtain ⟨_, rfl⟩ := EpochState.closeNcnRewardRouter_eq_ok update
    exact registered.keep advances { registered.operators with } (fun _ ready => ready) rfl rfl
      (whole_update registered.whole nofun)

/-- Taking snapshots, of an operator or of one of its vaults. -/
theorem changeSnapshots {snapshot : EpochSnapshot} {snapshots : Snapshots} {operator : Pubkey}
    {data : OperatorSnapshot} (registered : accounts.Registered indexOf before)
    (advances : before.Advances snapshots.epochState)
    (later : (accounts.withSnapshots snapshots).MirroredBy indexOf snapshots.epochState)
    (ready : accounts.epochSnapshot = .ready snapshot)
    (sameCount : snapshots.epochSnapshot.operatorCount = snapshot.operatorCount)
    (written : snapshots.operatorSnapshots =
      Function.update accounts.operatorSnapshots operator (.ready data))
    (sameOperators : snapshots.epochState.operatorCount = before.operatorCount)
    (inRange : ∀ i : Fin maxOperators,
      snapshots.epochState.accountStatus.operatorSnapshot[i] ≠ .dne → i < before.operatorCount)
    (slot : snapshots.epochState.slotConsensusReached = before.slotConsensusReached)
    (closing : snapshots.epochState.isClosing = before.isClosing) :
    (accounts.withSnapshots snapshots).Registered indexOf snapshots.epochState := by
  have operators := registered.operators
  rw [ready] at operators
  refine registered.keep advances ?_ (fun _ ready => ready) slot closing registered.whole
  rw [sameOperators]
  refine operators.change later.snapshots sameCount inRange ?_
  intro other dataLen allocated
  dsimp only [withSnapshots] at allocated
  rw [written] at allocated
  exact Account.of_update_eq allocated nofun

/-- A vote needs the epoch snapshot to be final, and the tie breaker a vote. -/
theorem vote {voting : VotingAccounts} (registered : accounts.Registered indexOf before)
    (advances : before.Advances voting.epochState) (done : before.SnapshotDone)
    (created : before.accountStatus.ballotBox ≠ .dne)
    (same : ∃ slotConsensusReached wasTieBreakerSet votingProgress,
      voting.epochState = { before with
        slotConsensusReached := slotConsensusReached
        wasTieBreakerSet := wasTieBreakerSet
        votingProgress := votingProgress }) :
    (accounts.withVoting voting).Registered indexOf voting.epochState := by
  obtain ⟨box, later⟩ := voting
  dsimp only at advances same
  refine ⟨?_, fun _ _ _ => advances.snapshot done,
    fun _ => ⟨advances.snapshot done, advances.ballotBox created⟩, ?_, registered.whole⟩
  · obtain ⟨slot, flag, progress, rfl⟩ := same
    exact { registered.operators with }
  · obtain ⟨slot, flag, progress, rfl⟩ := same
    exact fun closing => advances.isConsensusReached (registered.closing closing)

end Registered

theorem Mirrored.registered (mirrored : accounts.Mirrored indexOf)
    (distinct : Function.Injective indexOf) (indexed : instruction.Indexed indexOf)
    (loaded : accounts.epochState = .ready before) (still : next.epochState = .ready after)
    (registered : accounts.Registered indexOf before)
    (effect : Effect runtime accounts next context instruction) :
    next.Registered indexOf after := by
  have mirror := mirrored.opened before loaded
  have later := (mirrored.effect distinct indexed effect).opened after still
  have advances := mirrored.advances distinct indexed loaded still effect
  have same : next.epochState = accounts.epochState → before = after := by
    intro unchanged
    cases loaded.symm.trans (unchanged.symm.trans still)
    rfl
  cases effect with
  | received base_le ncn_le written =>
    cases written
    cases same rfl
    exact { registered with }
  | epochStateAllocated unfilled written =>
    cases written
    cases still
  | epochStateFilled allocated written => cases allocated.symm.trans loaded
  | weightTableAllocated here unfilled written =>
    cases written
    cases same rfl
    exact { registered with }
  | weightTableFilled here allocated started written =>
    cases here.symm.trans loaded
    cases written
    cases still
    obtain ⟨table, stMintCount, rfl⟩ := Weighing.start_vaultCount started
    exact registered.keep advances { registered.operators with } (fun _ ready => ready) rfl rfl
      registered.whole
  | weightSet here table processed written =>
    cases here.symm.trans loaded
    cases written
    cases still
    obtain ⟨-, changed⟩ := Weighing.process_frame processed
    refine registered.keep advances ?_ (fun _ ready => ready) ?_ ?_ registered.whole
    · dsimp only [withWeighing]
      rw [changed]
      exact { registered.operators with }
    · rw [changed]
    · rw [changed]
  | epochSnapshotFilled here opened unused table finalized written =>
    cases here.symm.trans loaded
    cases written
    cases still
    have unfilled := mirror.snapshots.tracked.dne (by rw [unused]; exact opened)
    exact registered.keep advances (registered.operators.start mirror.snapshots unfilled)
      (fun _ ready => ready) rfl rfl registered.whole
  | @operatorSnapshotAllocated _ operator _ _ _ here snapshot unfilled listed written =>
    cases here.symm.trans loaded
    cases written
    cases same rfl
    have created := mirror.snapshots.tracked.filled_of_ready snapshot
    have below : indexOf operator < before.operatorCount := by
      cases account : accounts.operatorSnapshots operator with
      | missing =>
        obtain ⟨index, rfl, below⟩ := listed account
        rw [← show index = indexOf operator from indexed, ← registered.operators.count _ snapshot]
        exact below
      | allocated dataLen => exact registered.operators.listed operator dataLen account
      | ready data =>
        rw [account] at unfilled
        exact unfilled.elim
    exact { registered with
      operators := registered.operators.allocate (by rw [created]; nofun) below }
  | operatorSnapshotFilled here snapshot allocated filled written =>
    cases here.symm.trans loaded
    cases written
    cases still
    have snapshots := mirror.snapshots
    rw [snapshot] at snapshots
    obtain ⟨⟨_, _, _, changed⟩, -⟩ := snapshots.fill distinct indexed allocated filled
    obtain ⟨inside, data, sameCount, written, sameOperators, statuses, closing⟩ :=
      Snapshots.initializeOperatorSnapshot_records filled
    refine registered.changeSnapshots advances later snapshot sameCount written sameOperators ?_
      (by rw [changed]) closing
    intro i used
    rw [statuses] at used
    by_cases index : (⟨_, inside⟩ : Fin maxOperators) = i
    · have below := registered.operators.listed _ _ allocated
      rw [← show _ = indexOf _ from indexed] at below
      rw [← index]
      exact below
    · rw [Slots.getElem_put_ne _ _ index] at used
      exact registered.operators.inRange i used
  | delegationSnapshotted here table snapshot taken written =>
    cases here.symm.trans loaded
    cases written
    cases still
    have snapshots := mirror.snapshots
    rw [snapshot] at snapshots
    obtain ⟨⟨_, _, _, changed⟩, -⟩ := snapshots.register distinct taken
    obtain ⟨data, sameCount, written, sameOperators, statuses, closing⟩ :=
      Snapshots.processSnapshotVaultOperatorDelegation_records taken
    refine registered.changeSnapshots advances later snapshot sameCount written sameOperators ?_
      (by rw [changed]) closing
    intro i used
    rw [statuses] at used
    exact registered.operators.inRange i used
  | ballotBoxAllocated here unfilled written =>
    cases written
    cases same rfl
    exact registered.keep advances registered.operators (fun _ ready => by cases ready) rfl rfl
      registered.whole
  | ballotBoxFilled here allocated written =>
    cases here.symm.trans loaded
    cases written
    cases still
    refine ⟨{ registered.operators with }, ?_,
      fun reached => (registered.decided reached).imp advances.snapshot advances.ballotBox,
      registered.closing, registered.whole⟩
    rintro box ready ⟨i, valid⟩
    cases ready
    have empty : (Vector.replicate maxOperators BallotTally.default)[i] = .default :=
      Vector.getElem_replicate ..
    cases (congrArg BallotTally.isValid empty).symm.trans valid
  | voteCast here box snapshot cast written =>
    cases here.symm.trans loaded
    cases written
    cases still
    have created := mirror.snapshots.tracked.filled_of_ready snapshot
    have complete := (mirror.snapshots.isComplete_eq snapshot).trans
      (VotingAccounts.processCastVote_finalized cast)
    have boxCreated := mirror.ballotBox.filled_of_ready box
    obtain ⟨_, -, -, updated⟩ := VotingAccounts.processCastVote_calls cast
    refine registered.vote advances ⟨fun absent => ?_, complete⟩ (fun absent => ?_)
      ⟨_, _, _, updated⟩
    · cases created.symm.trans absent
    · cases boxCreated.symm.trans absent
  | tieBreakerSet here box set written =>
    cases here.symm.trans loaded
    cases written
    cases still
    have boxCreated := mirror.ballotBox.filled_of_ready box
    have done := registered.voted _ box (VotingAccounts.processAdminSetTieBreaker_listed set)
    obtain ⟨-, -, -, updated⟩ := VotingAccounts.processAdminSetTieBreaker_eq_ok set
    obtain ⟨slot, flag, changed⟩ := EpochState.updateSetTieBreaker_eq before true context.clock.slot
    refine registered.vote advances done (fun absent => ?_) ⟨slot, flag, _, updated.trans changed⟩
    cases boxCreated.symm.trans absent
  | merkleRootSet here update written =>
    cases here.symm.trans loaded
    cases written
    cases still
    obtain ⟨_, rfl⟩ := EpochState.updateSetMerkleRoot_eq_ok update
    exact registered.keep advances { registered.operators with } (fun _ ready => ready) rfl rfl
      registered.whole
  | baseRouterAllocated here unfilled paid rent written =>
    cases written
    cases same rfl
    exact { registered with }
  | baseRouterFilled here allocated written =>
    cases here.symm.trans loaded
    cases written
    cases still
    exact registered.keep advances { registered.operators with } (fun _ ready => ready) rfl rfl
      registered.whole
  | baseRouted here ready route written =>
    cases here.symm.trans loaded
    cases written
    cases still
    exact registered.keep advances { registered.operators with } (fun _ ready => ready) rfl rfl
      registered.whole
  | baseDistributed here ready distribute sent update written =>
    cases here.symm.trans loaded
    cases written
    cases still
    obtain ⟨_, _, -, rfl⟩ := EpochState.updateDistributeBaseRewards_eq_ok update
    exact registered.keep advances { registered.operators with } (fun _ ready => ready) rfl rfl
      registered.whole
  | baseNcnDistributed here ready distribute sent paid update written =>
    cases here.symm.trans loaded
    cases written
    cases still
    obtain ⟨_, -, rfl⟩ := EpochState.updateDistributeBaseNcnRewards_eq_ok update
    exact registered.keep advances { registered.operators with } (fun _ ready => ready) rfl rfl
      registered.whole
  | ncnRouterFilled here opened snapshot unused rent update written =>
    cases here.symm.trans loaded
    cases written
    cases still
    obtain ⟨_, rfl⟩ := EpochState.updateReallocNcnRewardRouter_eq update
    exact registered.keep advances { registered.operators with } (fun _ ready => ready) rfl rfl
      (Registered.whole_update registered.whole nofun)
  | ncnRouted here snapshot ready route update written =>
    cases here.symm.trans loaded
    cases written
    cases still
    obtain ⟨_, rfl⟩ := EpochState.updateRouteNcnRewards_eq_ok update
    exact registered.keep advances { registered.operators with } (fun _ ready => ready) rfl rfl
      (Registered.whole_update registered.whole nofun)
  | ncnDistributed here snapshot ready distribute sent update written =>
    cases here.symm.trans loaded
    cases written
    cases still
    obtain ⟨_, _, _, -, rfl⟩ := EpochState.updateDistributeNcnRewards_eq_ok update
    exact registered.keep advances { registered.operators with } (fun _ ready => ready) rfl rfl
      (Registered.whole_update registered.whole nofun)
  | closed here open_ canClose close =>
    cases here.symm.trans loaded
    obtain ⟨reached, -⟩ := EpochState.canCloseEpochAccounts_eq_ok_true_iff.mp canClose
    exact (registered.setClosing reached).close mirror.setClosing close still

/-- What is true of the accounts of an epoch whatever was done with them. -/
structure Regular (indexOf : Pubkey → ℕ) (accounts : EpochAccounts) : Prop where
  mirrored : accounts.Mirrored indexOf
  registered : ∀ epochState, accounts.epochState = .ready epochState →
    accounts.Registered indexOf epochState

namespace Regular

theorem absent (ncn : Pubkey) (epoch : ℕ) : (EpochAccounts.absent ncn epoch).Regular indexOf where
  mirrored := absent_mirrored ncn epoch
  registered epochState loaded := by cases loaded

theorem unmarked (regular : accounts.Regular indexOf)
    (loaded : accounts.epochState = .ready epochState) : accounts.epochMarker = false :=
  regular.mirrored.unmarked (by rw [loaded]; nofun)

theorem effect (regular : accounts.Regular indexOf) (distinct : Function.Injective indexOf)
    (indexed : instruction.Indexed indexOf)
    (effect : Effect runtime accounts next context instruction) : next.Regular indexOf := by
  have mirrored := regular.mirrored
  refine ⟨mirrored.effect distinct indexed effect, fun after still => ?_⟩
  by_cases ready : ∃ epochState, accounts.epochState = .ready epochState
  · obtain ⟨before, loaded⟩ := ready
    exact mirrored.registered distinct indexed loaded still (regular.registered before loaded) effect
  · have absent := not_exists.mp ready
    obtain ⟨account, base, ncn, appears, rfl⟩ := effect.of_absent absent
    obtain ⟨⟨dataLen, allocated⟩, bump, slot, rfl⟩ := appears.fresh absent still
    have unmarked := mirrored.unmarked (by rw [allocated]; nofun)
    have unopened := mirrored.unopened unmarked absent
    exact { Registered.start unopened accounts.ncn accounts.epoch bump slot with }

end Regular

end EpochAccounts

end TipRouter
