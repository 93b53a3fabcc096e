import TipRouter.EpochLifecycle

/-! What an instruction of an epoch does when it succeeds, read off its processor
once: which accounts it found, what it checked and what it left behind. Creating
an account, making it larger and leaving it alone are the same kind of step for
every account, whichever instruction takes it. -/
namespace TipRouter
open Runs

/-! ## What an instruction does -/

/-- The account exists without data, or is created now, which a closing epoch
does not allow. -/
def Account.Unfilled {α : Type} (isClosing : Bool) : Account α → Prop
  | .missing => isClosing = false
  | .allocated _ => True
  | .ready _ => False

theorem Account.unfilled_of_allocated {α : Type} {isClosing : Bool} {account : Account α}
    {dataLen : ℕ} (allocated : account = .allocated dataLen) : account.Unfilled isClosing := by
  rw [allocated]
  trivial

namespace EpochAccounts

/-- What a successful instruction does, with what it has checked. -/
inductive Effect (runtime : Runtime) (accounts next : EpochAccounts) (context : Context) :
    EpochInstruction → Prop
  | received {instruction : EpochInstruction} {base : ℕ} {ncn : Pubkey × NcnFeeGroup → ℕ}
      (base_le : accounts.baseRewardReceiver ≤ base)
      (ncn_le : ∀ key, accounts.ncnRewardReceivers key ≤ ncn key)
      (same : next = { accounts with baseRewardReceiver := base, ncnRewardReceivers := ncn }) :
      Effect runtime accounts next context instruction
  | epochStateAllocated {instruction : EpochInstruction} {dataLen : ℕ}
      (unfilled : accounts.epochState.Unfilled accounts.epochMarker)
      (same : next = { accounts with epochState := .allocated dataLen }) :
      Effect runtime accounts next context instruction
  | epochStateFilled {bump dataLen : ℕ} (allocated : accounts.epochState = .allocated dataLen)
      (same : next = { accounts with epochState := .ready (EpochState.zeroed.initializeState
        accounts.ncn accounts.epoch bump context.clock.slot).updateReallocEpochState }) :
      Effect runtime accounts next context (.reallocEpochState bump)
  | weightTableAllocated {instruction : EpochInstruction} {epochState : EpochState} {dataLen : ℕ}
      (loaded : accounts.epochState = .ready epochState)
      (unfilled : accounts.weightTable.Unfilled epochState.isClosing)
      (same : next = { accounts with weightTable := .allocated dataLen }) :
      Effect runtime accounts next context instruction
  | weightTableFilled {bump dataLen : ℕ} {epochState : EpochState} {weighing : Weighing}
      (loaded : accounts.epochState = .ready epochState)
      (allocated : accounts.weightTable = .allocated dataLen)
      (started : Weighing.start epochState context.vaultRegistry accounts.ncn accounts.epoch
        context.clock.slot bump = .ok weighing)
      (same : next = accounts.withWeighing weighing) :
      Effect runtime accounts next context (.reallocWeightTable bump)
  | weightSet {instruction : EpochInstruction} {weightInstruction : WeightInstruction}
      {epochState : EpochState} {weightTable : WeightTable} {weighing : Weighing}
      (loaded : accounts.epochState = .ready epochState)
      (table : accounts.weightTable = .ready weightTable)
      (processed : Weighing.process runtime.switchboard ⟨weightTable, epochState⟩
        weightInstruction = .ok weighing)
      (same : next = accounts.withWeighing weighing) :
      Effect runtime accounts next context instruction
  | epochSnapshotFilled {operatorCount bump : ℕ} {epochState : EpochState}
      {weightTable : WeightTable} (loaded : accounts.epochState = .ready epochState)
      (opened : epochState.isClosing = false) (unused : accounts.epochSnapshot = .missing)
      (table : accounts.weightTable = .ready weightTable)
      (finalized : weightTable.finalized = true)
      (same : next = { accounts with
        epochState := .ready (epochState.updateInitializeEpochSnapshot operatorCount)
        epochSnapshot := .ready (.new accounts.ncn accounts.epoch bump context.clock.slot
          (context.config.feeConfig.currentFees accounts.epoch) operatorCount
          weightTable.vaultCount) }) :
      Effect runtime accounts next context (.initializeEpochSnapshot operatorCount bump)
  | operatorSnapshotAllocated {instruction : EpochInstruction} {operator : Pubkey}
      {epochState : EpochState} {epochSnapshot : EpochSnapshot} {dataLen : ℕ}
      (loaded : accounts.epochState = .ready epochState)
      (snapshot : accounts.epochSnapshot = .ready epochSnapshot)
      (unfilled : (accounts.operatorSnapshots operator).Unfilled epochState.isClosing)
      (listed : accounts.operatorSnapshots operator = .missing → ∃ ncnOperatorIndex,
        instruction = .initializeOperatorSnapshot operator ncnOperatorIndex ∧
          ncnOperatorIndex < epochSnapshot.operatorCount)
      (same : next = { accounts with
        operatorSnapshots :=
          Function.update accounts.operatorSnapshots operator (.allocated dataLen) }) :
      Effect runtime accounts next context instruction
  | operatorSnapshotFilled {reading : OperatorReading} {bump dataLen : ℕ} {epochState : EpochState}
      {epochSnapshot : EpochSnapshot} {snapshots : Snapshots}
      (loaded : accounts.epochState = .ready epochState)
      (snapshot : accounts.epochSnapshot = .ready epochSnapshot)
      (allocated : accounts.operatorSnapshots reading.operator = .allocated dataLen)
      (filled : Snapshots.initializeOperatorSnapshot
        ⟨epochState, epochSnapshot, accounts.operatorSnapshots⟩ reading bump context.clock.slot =
          .ok snapshots)
      (same : next = accounts.withSnapshots snapshots) :
      Effect runtime accounts next context (.reallocOperatorSnapshot reading bump)
  | delegationSnapshotted {operator : Pubkey} {reading : VaultReading} {epochState : EpochState}
      {weightTable : WeightTable} {epochSnapshot : EpochSnapshot} {snapshots : Snapshots}
      (loaded : accounts.epochState = .ready epochState)
      (table : accounts.weightTable = .ready weightTable)
      (snapshot : accounts.epochSnapshot = .ready epochSnapshot)
      (taken : Snapshots.processSnapshotVaultOperatorDelegation runtime.spl weightTable
        ⟨epochState, epochSnapshot, accounts.operatorSnapshots⟩ operator reading
        context.clock.slot = .ok snapshots)
      (same : next = accounts.withSnapshots snapshots) :
      Effect runtime accounts next context (.snapshotVaultOperatorDelegation operator reading)
  | ballotBoxAllocated {instruction : EpochInstruction} {epochState : EpochState} {dataLen : ℕ}
      (loaded : accounts.epochState = .ready epochState)
      (unfilled : accounts.ballotBox.Unfilled epochState.isClosing)
      (same : next = { accounts with ballotBox := .allocated dataLen }) :
      Effect runtime accounts next context instruction
  | ballotBoxFilled {bump dataLen : ℕ} {epochState : EpochState}
      (loaded : accounts.epochState = .ready epochState)
      (allocated : accounts.ballotBox = .allocated dataLen)
      (same : next = accounts.withVoting
        (.start epochState accounts.ncn accounts.epoch bump context.clock.slot)) :
      Effect runtime accounts next context (.reallocBallotBox bump)
  | voteCast {operator voter operatorAdmin : Pubkey} {metaMerkleRoot : Bytes32}
      {epochState : EpochState} {ballotBox : BallotBox} {epochSnapshot : EpochSnapshot}
      {operatorSnapshot : OperatorSnapshot} {voting : VotingAccounts}
      (loaded : accounts.epochState = .ready epochState)
      (box : accounts.ballotBox = .ready ballotBox)
      (snapshot : accounts.epochSnapshot = .ready epochSnapshot)
      (cast : VotingAccounts.processCastVote runtime.spl ⟨ballotBox, epochState⟩ operator voter
        operatorAdmin epochSnapshot operatorSnapshot metaMerkleRoot
        context.config.validSlotsAfterConsensus context.clock.slot = .ok voting)
      (same : next = accounts.withVoting voting) :
      Effect runtime accounts next context (.castVote operator voter operatorAdmin metaMerkleRoot)
  | tieBreakerSet {tieBreakerAdmin : Pubkey} {metaMerkleRoot : Bytes32} {epochState : EpochState}
      {ballotBox : BallotBox} {voting : VotingAccounts}
      (loaded : accounts.epochState = .ready epochState)
      (box : accounts.ballotBox = .ready ballotBox)
      (set : VotingAccounts.processAdminSetTieBreaker ⟨ballotBox, epochState⟩
        context.config.tieBreakerAdmin tieBreakerAdmin metaMerkleRoot
        context.config.epochsBeforeStall context.clock.epoch context.clock.slot = .ok voting)
      (same : next = accounts.withVoting voting) :
      Effect runtime accounts next context (.adminSetTieBreaker tieBreakerAdmin metaMerkleRoot)
  | merkleRootSet {instruction : EpochInstruction} {epochState updated : EpochState}
      (loaded : accounts.epochState = .ready epochState)
      (update : epochState.updateSetMerkleRoot = .ok updated)
      (same : next = { accounts with epochState := .ready updated }) :
      Effect runtime accounts next context instruction
  | baseRouterAllocated {instruction : EpochInstruction} {epochState : EpochState}
      {dataLen lamports : ℕ} (loaded : accounts.epochState = .ready epochState)
      (unfilled : accounts.baseRewardRouter.Unfilled epochState.isClosing)
      (paid : accounts.baseRewardReceiver ≤ lamports)
      (rent : accounts.baseRewardRouter = .missing → runtime.rentCost ≤ lamports)
      (same : next = { accounts with
        baseRewardRouter := .allocated dataLen
        baseRewardReceiver := lamports }) :
      Effect runtime accounts next context instruction
  | baseRouterFilled {bump dataLen : ℕ} {epochState : EpochState}
      (loaded : accounts.epochState = .ready epochState)
      (allocated : accounts.baseRewardRouter = .allocated dataLen)
      (same : next = accounts.withBaseRouter epochState.updateReallocBaseRewardRouter
        (.new accounts.ncn accounts.epoch bump context.clock.slot) accounts.baseRewardReceiver) :
      Effect runtime accounts next context (.reallocBaseRewardRouter bump)
  | baseRouted {maxIterations : ℕ} {epochState : EpochState} {fees : Fees} {ballotBox : BallotBox}
      {router routed : BaseRewardRouter} (loaded : accounts.epochState = .ready epochState)
      (ready : accounts.baseRewardRouter = .ready router)
      (route : router.processRouteBaseRewards runtime.spl fees ballotBox context.clock.slot
        context.config.validSlotsAfterConsensus runtime.rentCost accounts.baseRewardReceiver
        maxIterations = .ok routed)
      (same : next = accounts.withBaseRouter (epochState.updateRouteBaseRewards routed.totalRewards)
        routed accounts.baseRewardReceiver) :
      Effect runtime accounts next context (.routeBaseRewards maxIterations)
  | baseDistributed {baseFeeGroup rewards lamports : ℕ} {baseFeeWallet : Pubkey}
      {epochState updated : EpochState} {router distributed : BaseRewardRouter}
      (loaded : accounts.epochState = .ready epochState)
      (ready : accounts.baseRewardRouter = .ready router)
      (distribute : router.processDistributeBaseRewards baseFeeGroup = .ok (rewards, distributed))
      (sent : accounts.baseRewardReceiver = lamports + rewards)
      (update : epochState.updateDistributeBaseRewards rewards = .ok updated)
      (same : next = accounts.withBaseRouter updated distributed lamports) :
      Effect runtime accounts next context (.distributeBaseRewards baseFeeGroup baseFeeWallet)
  | baseNcnDistributed {operator : Pubkey} {group : NcnFeeGroup}
      {ncnFeeGroup rewards lamports received : ℕ} {epochState updated : EpochState}
      {router distributed : BaseRewardRouter} (loaded : accounts.epochState = .ready epochState)
      (ready : accounts.baseRewardRouter = .ready router)
      (distribute : router.processDistributeBaseNcnRewardRoute ncnFeeGroup operator =
        .ok (rewards, distributed))
      (sent : accounts.baseRewardReceiver = lamports + rewards)
      (paid : accounts.ncnRewardReceivers (operator, group) ≤ received)
      (update : epochState.updateDistributeBaseNcnRewards rewards = .ok updated)
      (same : next = (accounts.withBaseRouter updated distributed lamports).withNcnReceiver
        operator group received) :
      Effect runtime accounts next context (.distributeBaseNcnRewardRoute operator ncnFeeGroup)
  | ncnRouterFilled {operator : Pubkey} {group : Fin feeGroupCount}
      {ncnFeeGroup bump lamports : ℕ} {epochState updated : EpochState}
      {operatorSnapshot : OperatorSnapshot} (loaded : accounts.epochState = .ready epochState)
      (opened : epochState.isClosing = false)
      (snapshot : accounts.operatorSnapshots operator = .ready operatorSnapshot)
      (unused : accounts.ncnRewardRouters (operator, .ofIndex group) = .missing)
      (rent : runtime.rentCost ≤ lamports)
      (update : epochState.updateReallocNcnRewardRouter operatorSnapshot.ncnOperatorIndex
        (.ofIndex group) = .ok updated)
      (same : next = accounts.withNcnRouter operator (.ofIndex group) updated
        (.ready (.new (.ofIndex group) operator operatorSnapshot.ncnOperatorIndex accounts.ncn
          accounts.epoch bump context.clock.slot)) lamports) :
      Effect runtime accounts next context (.initializeNcnRewardRouter operator ncnFeeGroup bump)
  | ncnRouted {operator : Pubkey} {group : Fin feeGroupCount} {ncnFeeGroup maxIterations : ℕ}
      {epochState updated : EpochState} {operatorSnapshot : OperatorSnapshot}
      {router routed : NcnRewardRouter} (loaded : accounts.epochState = .ready epochState)
      (snapshot : accounts.operatorSnapshots operator = .ready operatorSnapshot)
      (ready : accounts.ncnRewardRouters (operator, .ofIndex group) = .ready router)
      (route : router.processRouteNcnRewards runtime.spl operatorSnapshot runtime.rentCost
        (accounts.ncnRewardReceivers (operator, .ofIndex group)) maxIterations = .ok routed)
      (update : epochState.updateRouteNcnRewards operatorSnapshot.ncnOperatorIndex (.ofIndex group)
        routed.totalRewards = .ok updated)
      (same : next = accounts.withNcnRouter operator (.ofIndex group) updated (.ready routed)
        (accounts.ncnRewardReceivers (operator, .ofIndex group))) :
      Effect runtime accounts next context (.routeNcnRewards operator ncnFeeGroup maxIterations)
  | ncnDistributed {instruction : EpochInstruction} {operator : Pubkey}
      {group : Fin feeGroupCount} {rewards lamports : ℕ} {epochState updated : EpochState}
      {operatorSnapshot : OperatorSnapshot} {router distributed : NcnRewardRouter}
      (loaded : accounts.epochState = .ready epochState)
      (snapshot : accounts.operatorSnapshots operator = .ready operatorSnapshot)
      (ready : accounts.ncnRewardRouters (operator, .ofIndex group) = .ready router)
      (distribute : router.processDistributeNcnOperatorRewards = .ok (rewards, distributed) ∨
        ∃ vault, router.processDistributeNcnVaultRewards vault = .ok (rewards, distributed))
      (sent : accounts.ncnRewardReceivers (operator, .ofIndex group) = lamports + rewards)
      (update : epochState.updateDistributeNcnRewards operatorSnapshot.ncnOperatorIndex
        (.ofIndex group) rewards = .ok updated)
      (same : next = accounts.withNcnRouter operator (.ofIndex group) updated (.ready distributed)
        lamports) :
      Effect runtime accounts next context instruction
  | closed {accountToClose : AccountToClose} {daoWallet : Pubkey} {withReceiver : Bool}
      {epochState : EpochState} (loaded : accounts.epochState = .ready epochState)
      (open_ : accounts.epochMarker = false)
      (canClose : epochState.canCloseEpochAccounts runtime.getEpoch
        context.config.epochsAfterConsensusBeforeClose context.clock.slot = .ok true)
      (close : accounts.closeAccount runtime epochState.setIsClosing withReceiver accountToClose =
        .ok next) :
      Effect runtime accounts next context
        (.closeEpochAccount accountToClose daoWallet withReceiver)

variable {runtime : Runtime} {accounts next : EpochAccounts} {context : Context}
variable {instruction : EpochInstruction}

theorem loadAndCheckIsClosing_eq_ok_iff {account : Account EpochState} {epochState : EpochState} :
    account.loadAndCheckIsClosing = .ok epochState ↔
      account = .ready epochState ∧ epochState.isClosing = false := by
  cases account with
  | missing => simp [Account.loadAndCheckIsClosing]
  | allocated dataLen => simp [Account.loadAndCheckIsClosing]
  | ready data =>
    simp only [Account.loadAndCheckIsClosing, Account.ready.injEq]
    cases closing : data.isClosing with
    | true =>
      rw [if_pos rfl]
      constructor
      · intro failed
        cases failed
      · rintro ⟨rfl, opened⟩
        rw [closing] at opened
        cases opened
    | false =>
      rw [if_neg Bool.false_ne_true, Except.ok.injEq]
      refine ⟨?_, And.left⟩
      rintro rfl
      exact ⟨rfl, closing⟩

theorem receiveLamports_eq_ok {lamports amount received : ℕ}
    (paid : receiveLamports lamports amount = .ok received) : received = lamports + amount := by
  unfold receiveLamports at paid
  split at paid
  · rename_i added
    cases paid
    exact (checkedAdd_eq_some_iff.mp added).2.symm
  · cases paid

theorem sendLamports_eq_ok {lamports amount left : ℕ}
    (paid : sendLamports lamports amount = .ok left) : lamports = left + amount := by
  unfold sendLamports at paid
  split at paid
  · rename_i taken
    cases paid
    obtain ⟨covered, rfl⟩ := checkedSub_eq_some_iff.mp taken
    exact (Nat.sub_add_cancel covered).symm
  · cases paid

theorem checkDne_eq_ok_iff : accounts.checkDne = .ok () ↔ accounts.epochMarker = false := by
  unfold checkDne
  cases accounts.epochMarker <;> simp

/-! ### Reading an instruction -/

theorem effect_of_initializeEpochState
    (processed : accounts.processInitializeEpochState context = .ok next) :
    Effect runtime accounts next context .initializeEpochState := by
  unfold processInitializeEpochState at processed
  split at processed
  · cases processed
  obtain ⟨_, unused, processed⟩ := bind_eq_ok.mp processed
  obtain ⟨_, open_, processed⟩ := bind_eq_ok.mp processed
  split at processed
  · cases processed
  cases processed
  refine .epochStateAllocated ?_ rfl
  rw [Account.loadSystemAccount_eq_ok_iff.mp unused]
  exact checkDne_eq_ok_iff.mp open_

theorem effect_of_reallocEpochState {bump : ℕ}
    (processed : accounts.processReallocEpochState context bump = .ok next) :
    Effect runtime accounts next context (.reallocEpochState bump) := by
  obtain ⟨resized, grown, processed⟩ := bind_eq_ok.mp processed
  rcases Account.resize_eq_ok grown with
    ⟨data, -, rfl⟩ | ⟨dataLen, newSize, allocated, rfl⟩ | ⟨dataLen, allocated, rfl⟩
  · cases processed
    exact .received le_rfl (fun _ => le_rfl) rfl
  · cases processed
    exact .epochStateAllocated (Account.unfilled_of_allocated allocated) rfl
  · cases processed
    exact .epochStateFilled allocated rfl

theorem effect_of_initializeWeightTable {ncnVaultCount : ℕ}
    (processed : accounts.processInitializeWeightTable context ncnVaultCount = .ok next) :
    Effect runtime accounts next context (.initializeWeightTable ncnVaultCount) := by
  obtain ⟨epochState, loaded, processed⟩ := bind_eq_ok.mp processed
  obtain ⟨_, -, processed⟩ := bind_eq_ok.mp processed
  obtain ⟨_, unused, processed⟩ := bind_eq_ok.mp processed
  split at processed
  · cases processed
  cases processed
  obtain ⟨ready, opened⟩ := loadAndCheckIsClosing_eq_ok_iff.mp loaded
  refine .weightTableAllocated ready ?_ rfl
  rw [Account.loadSystemAccount_eq_ok_iff.mp unused]
  exact opened

theorem effect_of_reallocWeightTable {bump : ℕ}
    (processed : accounts.processReallocWeightTable context bump = .ok next) :
    Effect runtime accounts next context (.reallocWeightTable bump) := by
  obtain ⟨epochState, loaded, processed⟩ := bind_eq_ok.mp processed
  obtain ⟨resized, grown, processed⟩ := bind_eq_ok.mp processed
  have ready := Account.load_eq_ok_iff.mp loaded
  rcases Account.resize_eq_ok grown with
    ⟨data, -, rfl⟩ | ⟨dataLen, newSize, allocated, rfl⟩ | ⟨dataLen, allocated, rfl⟩
  · cases processed
    exact .received le_rfl (fun _ => le_rfl) rfl
  · cases processed
    exact .weightTableAllocated ready (Account.unfilled_of_allocated allocated) rfl
  · obtain ⟨weighing, started, same⟩ := bind_eq_ok.mp processed
    cases same
    exact .weightTableFilled ready allocated (lift_eq_ok_iff.mp started) rfl

theorem effect_of_setWeight {weightInstruction : WeightInstruction}
    (processed : accounts.processSetWeight runtime weightInstruction = .ok next) :
    Effect runtime accounts next context instruction := by
  obtain ⟨epochState, loaded, processed⟩ := bind_eq_ok.mp processed
  obtain ⟨weightTable, table, processed⟩ := bind_eq_ok.mp processed
  obtain ⟨weighing, set, same⟩ := bind_eq_ok.mp processed
  cases same
  exact .weightSet (Account.load_eq_ok_iff.mp loaded) (Account.load_eq_ok_iff.mp table) set rfl

theorem effect_of_initializeEpochSnapshot {operatorCount bump : ℕ}
    (processed : accounts.processInitializeEpochSnapshot context operatorCount bump = .ok next) :
    Effect runtime accounts next context (.initializeEpochSnapshot operatorCount bump) := by
  obtain ⟨epochState, loaded, processed⟩ := bind_eq_ok.mp processed
  obtain ⟨_, -, processed⟩ := bind_eq_ok.mp processed
  obtain ⟨_, unused, processed⟩ := bind_eq_ok.mp processed
  obtain ⟨weightTable, table, processed⟩ := bind_eq_ok.mp processed
  split at processed
  · cases processed
  rename_i finalized
  split at processed
  · cases processed
  cases processed
  obtain ⟨ready, opened⟩ := loadAndCheckIsClosing_eq_ok_iff.mp loaded
  exact .epochSnapshotFilled ready opened (Account.loadSystemAccount_eq_ok_iff.mp unused)
    (Account.load_eq_ok_iff.mp table) (by simpa using finalized) rfl

/-- Writing one operator snapshot back leaves the other accounts as they were read. -/
theorem withSnapshots_setOperatorSnapshot {epochState : EpochState} {epochSnapshot : EpochSnapshot}
    (ready : accounts.epochState = .ready epochState)
    (snapshotReady : accounts.epochSnapshot = .ready epochSnapshot) (operator : Pubkey)
    (account : Account OperatorSnapshot) :
    accounts.withSnapshots (Snapshots.setOperatorSnapshot
      ⟨epochState, epochSnapshot, accounts.operatorSnapshots⟩ operator account) =
      { accounts with
        operatorSnapshots := Function.update accounts.operatorSnapshots operator account } := by
  simp only [withSnapshots, Snapshots.setOperatorSnapshot, ← ready, ← snapshotReady]

theorem effect_of_initializeOperatorSnapshot {operator : Pubkey} {ncnOperatorIndex : ℕ}
    (processed : accounts.processInitializeOperatorSnapshot operator ncnOperatorIndex = .ok next) :
    Effect runtime accounts next context
      (.initializeOperatorSnapshot operator ncnOperatorIndex) := by
  obtain ⟨epochState, loaded, processed⟩ := bind_eq_ok.mp processed
  obtain ⟨epochSnapshot, snapshot, processed⟩ := bind_eq_ok.mp processed
  obtain ⟨_, unused, processed⟩ := bind_eq_ok.mp processed
  obtain ⟨_, -, processed⟩ := bind_eq_ok.mp processed
  obtain ⟨snapshots, initialized, same⟩ := bind_eq_ok.mp processed
  cases same
  obtain ⟨_, -, initialized⟩ := bind_eq_ok.mp initialized
  split at initialized
  · cases initialized
  rename_i listed
  cases initialized
  obtain ⟨ready, opened⟩ := loadAndCheckIsClosing_eq_ok_iff.mp loaded
  have snapshotReady := Account.load_eq_ok_iff.mp snapshot
  refine .operatorSnapshotAllocated ready snapshotReady ?_
    (fun _ => ⟨ncnOperatorIndex, rfl, Nat.lt_of_not_le listed⟩)
    (withSnapshots_setOperatorSnapshot ready snapshotReady operator _)
  rw [Account.loadSystemAccount_eq_ok_iff.mp unused]
  exact opened

theorem effect_of_reallocOperatorSnapshot {reading : OperatorReading} {bump : ℕ}
    (processed : accounts.processReallocOperatorSnapshot context reading bump = .ok next) :
    Effect runtime accounts next context (.reallocOperatorSnapshot reading bump) := by
  obtain ⟨epochState, loaded, processed⟩ := bind_eq_ok.mp processed
  obtain ⟨epochSnapshot, snapshot, processed⟩ := bind_eq_ok.mp processed
  obtain ⟨snapshots, realloc, same⟩ := bind_eq_ok.mp processed
  cases same
  obtain ⟨resized, grown, processed⟩ := bind_eq_ok.mp realloc
  have ready := Account.load_eq_ok_iff.mp loaded
  have snapshotReady := Account.load_eq_ok_iff.mp snapshot
  dsimp only at grown
  rcases Account.resize_eq_ok grown with
    ⟨data, -, rfl⟩ | ⟨dataLen, newSize, allocated, rfl⟩ | ⟨dataLen, allocated, rfl⟩
  · cases processed
    refine .received le_rfl (fun _ => le_rfl) ?_
    simp only [withSnapshots, ← ready, ← snapshotReady]
  · cases processed
    refine .operatorSnapshotAllocated ready snapshotReady (Account.unfilled_of_allocated allocated) ?_
      (withSnapshots_setOperatorSnapshot ready snapshotReady reading.operator _)
    intro missing
    cases allocated.symm.trans missing
  · exact .operatorSnapshotFilled ready snapshotReady allocated processed rfl

theorem effect_of_snapshotVaultOperatorDelegation {operator : Pubkey} {reading : VaultReading}
    (processed : accounts.processSnapshotVaultOperatorDelegation runtime context operator reading =
      .ok next) :
    Effect runtime accounts next context (.snapshotVaultOperatorDelegation operator reading) := by
  obtain ⟨epochState, loaded, processed⟩ := bind_eq_ok.mp processed
  obtain ⟨weightTable, table, processed⟩ := bind_eq_ok.mp processed
  obtain ⟨epochSnapshot, snapshot, processed⟩ := bind_eq_ok.mp processed
  obtain ⟨snapshots, taken, same⟩ := bind_eq_ok.mp processed
  cases same
  exact .delegationSnapshotted (Account.load_eq_ok_iff.mp loaded) (Account.load_eq_ok_iff.mp table)
    (Account.load_eq_ok_iff.mp snapshot) taken rfl

theorem effect_of_initializeBallotBox
    (processed : accounts.processInitializeBallotBox = .ok next) :
    Effect runtime accounts next context .initializeBallotBox := by
  obtain ⟨_, unused, processed⟩ := bind_eq_ok.mp processed
  obtain ⟨epochState, loaded, processed⟩ := bind_eq_ok.mp processed
  obtain ⟨_, -, same⟩ := bind_eq_ok.mp processed
  cases same
  obtain ⟨ready, opened⟩ := loadAndCheckIsClosing_eq_ok_iff.mp loaded
  refine .ballotBoxAllocated ready ?_ rfl
  rw [Account.loadSystemAccount_eq_ok_iff.mp unused]
  exact opened

theorem effect_of_reallocBallotBox {bump : ℕ}
    (processed : accounts.processReallocBallotBox context bump = .ok next) :
    Effect runtime accounts next context (.reallocBallotBox bump) := by
  obtain ⟨epochState, loaded, processed⟩ := bind_eq_ok.mp processed
  obtain ⟨resized, grown, processed⟩ := bind_eq_ok.mp processed
  have ready := Account.load_eq_ok_iff.mp loaded
  rcases Account.resize_eq_ok grown with
    ⟨data, -, rfl⟩ | ⟨dataLen, newSize, allocated, rfl⟩ | ⟨dataLen, allocated, rfl⟩
  · cases processed
    exact .received le_rfl (fun _ => le_rfl) rfl
  · cases processed
    exact .ballotBoxAllocated ready (Account.unfilled_of_allocated allocated) rfl
  · cases processed
    exact .ballotBoxFilled ready allocated rfl

theorem effect_of_castVote {operator voter operatorAdmin : Pubkey} {metaMerkleRoot : Bytes32}
    (processed : accounts.processCastVote runtime context operator voter operatorAdmin
      metaMerkleRoot = .ok next) :
    Effect runtime accounts next context
      (.castVote operator voter operatorAdmin metaMerkleRoot) := by
  obtain ⟨epochState, loaded, processed⟩ := bind_eq_ok.mp processed
  obtain ⟨ballotBox, box, processed⟩ := bind_eq_ok.mp processed
  obtain ⟨epochSnapshot, snapshot, processed⟩ := bind_eq_ok.mp processed
  obtain ⟨operatorSnapshot, -, processed⟩ := bind_eq_ok.mp processed
  obtain ⟨voting, cast, same⟩ := bind_eq_ok.mp processed
  cases same
  exact .voteCast (Account.load_eq_ok_iff.mp loaded) (Account.load_eq_ok_iff.mp box)
    (Account.load_eq_ok_iff.mp snapshot) (lift_eq_ok_iff.mp cast) rfl

theorem effect_of_adminSetTieBreaker {tieBreakerAdmin : Pubkey} {metaMerkleRoot : Bytes32}
    (processed : accounts.processAdminSetTieBreaker context tieBreakerAdmin metaMerkleRoot =
      .ok next) :
    Effect runtime accounts next context (.adminSetTieBreaker tieBreakerAdmin metaMerkleRoot) := by
  obtain ⟨epochState, loaded, processed⟩ := bind_eq_ok.mp processed
  obtain ⟨ballotBox, box, processed⟩ := bind_eq_ok.mp processed
  obtain ⟨voting, set, same⟩ := bind_eq_ok.mp processed
  cases same
  exact .tieBreakerSet (Account.load_eq_ok_iff.mp loaded) (Account.load_eq_ok_iff.mp box)
    (lift_eq_ok_iff.mp set) rfl

theorem effect_of_setMerkleRoot {tipDistributionAddress : Pubkey} {proof : List Bytes32}
    {merkleRoot : Bytes32} {maxTotalClaim maxNumNodes : UInt64}
    (processed : accounts.processSetMerkleRoot runtime tipDistributionAddress proof merkleRoot
      maxTotalClaim maxNumNodes = .ok next) :
    Effect runtime accounts next context instruction := by
  obtain ⟨epochState, loaded, processed⟩ := bind_eq_ok.mp processed
  obtain ⟨ballotBox, -, processed⟩ := bind_eq_ok.mp processed
  split at processed
  · cases processed
  split at processed
  · cases processed
  obtain ⟨_, -, processed⟩ := bind_eq_ok.mp processed
  obtain ⟨updated, update, same⟩ := bind_eq_ok.mp processed
  cases same
  exact .merkleRootSet (Account.load_eq_ok_iff.mp loaded) (lift_eq_ok_iff.mp update) rfl

theorem effect_of_initializeBaseRewardRouter
    (processed : accounts.processInitializeBaseRewardRouter runtime = .ok next) :
    Effect runtime accounts next context .initializeBaseRewardRouter := by
  obtain ⟨epochState, loaded, processed⟩ := bind_eq_ok.mp processed
  obtain ⟨_, -, processed⟩ := bind_eq_ok.mp processed
  obtain ⟨_, unused, processed⟩ := bind_eq_ok.mp processed
  obtain ⟨lamports, paid, same⟩ := bind_eq_ok.mp processed
  cases same
  obtain ⟨ready, opened⟩ := loadAndCheckIsClosing_eq_ok_iff.mp loaded
  obtain rfl := receiveLamports_eq_ok paid
  refine .baseRouterAllocated ready ?_ (Nat.le_add_right _ _) (fun _ => Nat.le_add_left _ _) rfl
  rw [Account.loadSystemAccount_eq_ok_iff.mp unused]
  exact opened

theorem effect_of_reallocBaseRewardRouter {bump : ℕ}
    (processed : accounts.processReallocBaseRewardRouter context bump = .ok next) :
    Effect runtime accounts next context (.reallocBaseRewardRouter bump) := by
  obtain ⟨epochState, loaded, processed⟩ := bind_eq_ok.mp processed
  obtain ⟨resized, grown, processed⟩ := bind_eq_ok.mp processed
  have ready := Account.load_eq_ok_iff.mp loaded
  rcases Account.resize_eq_ok grown with
    ⟨data, -, rfl⟩ | ⟨dataLen, newSize, allocated, rfl⟩ | ⟨dataLen, allocated, rfl⟩
  · cases processed
    exact .received le_rfl (fun _ => le_rfl) rfl
  · cases processed
    refine .baseRouterAllocated ready (Account.unfilled_of_allocated allocated) le_rfl ?_ rfl
    intro missing
    cases allocated.symm.trans missing
  · cases processed
    exact .baseRouterFilled ready allocated rfl

theorem effect_of_routeBaseRewards {maxIterations : ℕ}
    (processed : accounts.processRouteBaseRewards runtime context maxIterations = .ok next) :
    Effect runtime accounts next context (.routeBaseRewards maxIterations) := by
  obtain ⟨epochState, loaded, processed⟩ := bind_eq_ok.mp processed
  obtain ⟨epochSnapshot, -, processed⟩ := bind_eq_ok.mp processed
  obtain ⟨router, ready, processed⟩ := bind_eq_ok.mp processed
  obtain ⟨ballotBox, -, processed⟩ := bind_eq_ok.mp processed
  obtain ⟨routed, route, same⟩ := bind_eq_ok.mp processed
  cases same
  exact .baseRouted (Account.load_eq_ok_iff.mp loaded) (Account.load_eq_ok_iff.mp ready)
    (lift_eq_ok_iff.mp route) rfl

theorem effect_of_distributeBaseRewards {baseFeeGroup : ℕ} {baseFeeWallet : Pubkey}
    (processed : accounts.processDistributeBaseRewards context baseFeeGroup baseFeeWallet =
      .ok next) :
    Effect runtime accounts next context (.distributeBaseRewards baseFeeGroup baseFeeWallet) := by
  obtain ⟨epochState, loaded, processed⟩ := bind_eq_ok.mp processed
  obtain ⟨router, ready, processed⟩ := bind_eq_ok.mp processed
  obtain ⟨group, -, processed⟩ := bind_eq_ok.mp processed
  obtain ⟨feeWallet, -, processed⟩ := bind_eq_ok.mp processed
  split at processed
  · cases processed
  obtain ⟨⟨rewards, distributed⟩, distribute, processed⟩ := bind_eq_ok.mp processed
  obtain ⟨lamports, sent, processed⟩ := bind_eq_ok.mp processed
  obtain ⟨updated, update, same⟩ := bind_eq_ok.mp processed
  cases same
  exact .baseDistributed (Account.load_eq_ok_iff.mp loaded) (Account.load_eq_ok_iff.mp ready)
    (lift_eq_ok_iff.mp distribute) (sendLamports_eq_ok sent) (lift_eq_ok_iff.mp update) rfl

theorem effect_of_distributeBaseNcnRewardRoute {operator : Pubkey} {ncnFeeGroup : ℕ}
    (processed : accounts.processDistributeBaseNcnRewardRoute operator ncnFeeGroup = .ok next) :
    Effect runtime accounts next context (.distributeBaseNcnRewardRoute operator ncnFeeGroup) := by
  obtain ⟨epochState, loaded, processed⟩ := bind_eq_ok.mp processed
  obtain ⟨group, -, processed⟩ := bind_eq_ok.mp processed
  obtain ⟨router, ready, processed⟩ := bind_eq_ok.mp processed
  obtain ⟨_, -, processed⟩ := bind_eq_ok.mp processed
  obtain ⟨⟨rewards, distributed⟩, distribute, processed⟩ := bind_eq_ok.mp processed
  obtain ⟨lamports, sent, processed⟩ := bind_eq_ok.mp processed
  obtain ⟨received, paid, processed⟩ := bind_eq_ok.mp processed
  obtain ⟨updated, update, same⟩ := bind_eq_ok.mp processed
  cases same
  exact .baseNcnDistributed (Account.load_eq_ok_iff.mp loaded) (Account.load_eq_ok_iff.mp ready)
    (lift_eq_ok_iff.mp distribute) (sendLamports_eq_ok sent)
    (receiveLamports_eq_ok paid ▸ Nat.le_add_right _ _) (lift_eq_ok_iff.mp update) rfl

theorem effect_of_initializeNcnRewardRouter {operator : Pubkey} {ncnFeeGroup bump : ℕ}
    (processed : accounts.processInitializeNcnRewardRouter runtime context operator ncnFeeGroup
      bump = .ok next) :
    Effect runtime accounts next context
      (.initializeNcnRewardRouter operator ncnFeeGroup bump) := by
  obtain ⟨epochState, loaded, processed⟩ := bind_eq_ok.mp processed
  obtain ⟨operatorSnapshot, snapshot, processed⟩ := bind_eq_ok.mp processed
  obtain ⟨group, parsed, processed⟩ := bind_eq_ok.mp processed
  obtain ⟨_, unused, processed⟩ := bind_eq_ok.mp processed
  obtain ⟨_, -, processed⟩ := bind_eq_ok.mp processed
  obtain ⟨lamports, paid, processed⟩ := bind_eq_ok.mp processed
  obtain ⟨updated, update, same⟩ := bind_eq_ok.mp processed
  cases same
  obtain ⟨ready, opened⟩ := loadAndCheckIsClosing_eq_ok_iff.mp loaded
  obtain ⟨index, rfl⟩ := NcnFeeGroup.tryFrom_eq_ok (lift_eq_ok_iff.mp parsed)
  exact .ncnRouterFilled ready opened (Account.load_eq_ok_iff.mp snapshot)
    (Account.loadSystemAccount_eq_ok_iff.mp unused)
    (receiveLamports_eq_ok paid ▸ Nat.le_add_left _ _) update rfl

theorem effect_of_routeNcnRewards {operator : Pubkey} {ncnFeeGroup maxIterations : ℕ}
    (processed : accounts.processRouteNcnRewards runtime operator ncnFeeGroup maxIterations =
      .ok next) :
    Effect runtime accounts next context
      (.routeNcnRewards operator ncnFeeGroup maxIterations) := by
  obtain ⟨epochState, loaded, processed⟩ := bind_eq_ok.mp processed
  obtain ⟨group, parsed, processed⟩ := bind_eq_ok.mp processed
  obtain ⟨operatorSnapshot, snapshot, processed⟩ := bind_eq_ok.mp processed
  obtain ⟨router, ready, processed⟩ := bind_eq_ok.mp processed
  obtain ⟨routed, route, processed⟩ := bind_eq_ok.mp processed
  obtain ⟨updated, update, same⟩ := bind_eq_ok.mp processed
  cases same
  obtain ⟨index, rfl⟩ := NcnFeeGroup.tryFrom_eq_ok (lift_eq_ok_iff.mp parsed)
  exact .ncnRouted (Account.load_eq_ok_iff.mp loaded) (Account.load_eq_ok_iff.mp snapshot)
    (Account.load_eq_ok_iff.mp ready) (lift_eq_ok_iff.mp route) update rfl

theorem effect_of_distributeNcnRewards {operator : Pubkey} {ncnFeeGroup : ℕ}
    {distribute : NcnRewardRouter → Except TipRouterError (ℕ × NcnRewardRouter)}
    (distributes : ∀ router rewards distributed, distribute router = .ok (rewards, distributed) →
      router.processDistributeNcnOperatorRewards = .ok (rewards, distributed) ∨
        ∃ vault, router.processDistributeNcnVaultRewards vault = .ok (rewards, distributed))
    (processed : accounts.processDistributeNcnRewards operator ncnFeeGroup distribute = .ok next) :
    Effect runtime accounts next context instruction := by
  obtain ⟨epochState, loaded, processed⟩ := bind_eq_ok.mp processed
  obtain ⟨operatorSnapshot, snapshot, processed⟩ := bind_eq_ok.mp processed
  obtain ⟨group, parsed, processed⟩ := bind_eq_ok.mp processed
  obtain ⟨router, ready, processed⟩ := bind_eq_ok.mp processed
  obtain ⟨⟨rewards, distributed⟩, taken, processed⟩ := bind_eq_ok.mp processed
  obtain ⟨lamports, sent, processed⟩ := bind_eq_ok.mp processed
  obtain ⟨updated, update, same⟩ := bind_eq_ok.mp processed
  cases same
  obtain ⟨index, rfl⟩ := NcnFeeGroup.tryFrom_eq_ok (lift_eq_ok_iff.mp parsed)
  exact .ncnDistributed (Account.load_eq_ok_iff.mp loaded) (Account.load_eq_ok_iff.mp snapshot)
    (Account.load_eq_ok_iff.mp ready) (distributes _ _ _ (lift_eq_ok_iff.mp taken))
    (sendLamports_eq_ok sent) update rfl

theorem processCloseEpochAccount_eq_ok {accountToClose : AccountToClose} {daoWallet : Pubkey}
    {withReceiver : Bool}
    (processed : accounts.processCloseEpochAccount runtime context accountToClose daoWallet
      withReceiver = .ok next) :
    ∃ epochState, accounts.epochState = .ready epochState ∧ accounts.epochMarker = false ∧
      context.config.feeConfig.baseFeeWallet .dao = .ok daoWallet ∧
      epochState.canCloseEpochAccounts runtime.getEpoch
        context.config.epochsAfterConsensusBeforeClose context.clock.slot = .ok true ∧
      accounts.closeAccount runtime epochState.setIsClosing withReceiver accountToClose =
        .ok next := by
  obtain ⟨epochState, loaded, processed⟩ := bind_eq_ok.mp processed
  obtain ⟨_, open_, processed⟩ := bind_eq_ok.mp processed
  split at processed
  · cases processed
  obtain ⟨wallet, configured, processed⟩ := bind_eq_ok.mp processed
  split at processed
  · cases processed
  rename_i sameWallet
  obtain ⟨canClose, allowed, processed⟩ := bind_eq_ok.mp processed
  cases canClose with
  | true =>
    refine ⟨epochState, Account.load_eq_ok_iff.mp loaded, checkDne_eq_ok_iff.mp open_, ?_,
      lift_eq_ok_iff.mp allowed, processed⟩
    rw [← not_not.mp sameWallet]
    exact lift_eq_ok_iff.mp configured
  | false => cases processed

theorem effect_of_closeEpochAccount {accountToClose : AccountToClose} {daoWallet : Pubkey}
    {withReceiver : Bool}
    (processed : accounts.processCloseEpochAccount runtime context accountToClose daoWallet
      withReceiver = .ok next) :
    Effect runtime accounts next context
      (.closeEpochAccount accountToClose daoWallet withReceiver) := by
  obtain ⟨epochState, loaded, open_, -, canClose, close⟩ :=
    processCloseEpochAccount_eq_ok processed
  exact .closed loaded open_ canClose close

theorem process_effect (processed : accounts.process runtime (context, instruction) = .ok next) :
    Effect runtime accounts next context instruction := by
  cases instruction with
  | initializeEpochState => exact effect_of_initializeEpochState processed
  | reallocEpochState bump => exact effect_of_reallocEpochState processed
  | initializeWeightTable ncnVaultCount => exact effect_of_initializeWeightTable processed
  | reallocWeightTable bump => exact effect_of_reallocWeightTable processed
  | adminSetWeight ncnWeightTableAdmin weightTableAdmin stMint weight =>
    exact effect_of_setWeight processed
  | switchboardSetWeight stMint feed => exact effect_of_setWeight processed
  | initializeEpochSnapshot operatorCount bump => exact effect_of_initializeEpochSnapshot processed
  | initializeOperatorSnapshot operator ncnOperatorIndex =>
    exact effect_of_initializeOperatorSnapshot processed
  | reallocOperatorSnapshot reading bump => exact effect_of_reallocOperatorSnapshot processed
  | snapshotVaultOperatorDelegation operator reading =>
    exact effect_of_snapshotVaultOperatorDelegation processed
  | initializeBallotBox => exact effect_of_initializeBallotBox processed
  | reallocBallotBox bump => exact effect_of_reallocBallotBox processed
  | castVote operator voter operatorAdmin metaMerkleRoot => exact effect_of_castVote processed
  | adminSetTieBreaker tieBreakerAdmin metaMerkleRoot =>
    exact effect_of_adminSetTieBreaker processed
  | setMerkleRoot tipDistributionAddress proof merkleRoot maxTotalClaim maxNumNodes =>
    exact effect_of_setMerkleRoot processed
  | initializeBaseRewardRouter => exact effect_of_initializeBaseRewardRouter processed
  | reallocBaseRewardRouter bump => exact effect_of_reallocBaseRewardRouter processed
  | initializeNcnRewardRouter operator ncnFeeGroup bump =>
    exact effect_of_initializeNcnRewardRouter processed
  | routeBaseRewards maxIterations => exact effect_of_routeBaseRewards processed
  | routeNcnRewards operator ncnFeeGroup maxIterations => exact effect_of_routeNcnRewards processed
  | distributeBaseRewards baseFeeGroup baseFeeWallet =>
    exact effect_of_distributeBaseRewards processed
  | distributeBaseNcnRewardRoute operator ncnFeeGroup =>
    exact effect_of_distributeBaseNcnRewardRoute processed
  | distributeNcnOperatorRewards operator ncnFeeGroup =>
    exact effect_of_distributeNcnRewards (fun _ _ _ taken => .inl taken) processed
  | distributeNcnVaultRewards operator vault ncnFeeGroup =>
    exact effect_of_distributeNcnRewards (fun _ _ _ taken => .inr ⟨vault, taken⟩) processed
  | closeEpochAccount accountToClose daoWallet withReceiver =>
    exact effect_of_closeEpochAccount processed
  | transferToBaseReceiver lamports =>
    obtain ⟨received, paid, same⟩ := bind_eq_ok.mp processed
    cases same
    exact .received (receiveLamports_eq_ok paid ▸ Nat.le_add_right _ _) (fun _ => le_rfl) rfl
  | transferToNcnReceiver operator group lamports =>
    obtain ⟨received, paid, same⟩ := bind_eq_ok.mp processed
    cases same
    refine .received le_rfl (fun key => ?_) rfl
    by_cases here : key = (operator, group)
    · rw [here, Function.update_self, receiveLamports_eq_ok paid]
      exact Nat.le_add_right _ _
    · rw [Function.update_of_ne here]

/-! ### Before and after the epoch state -/

/-- How an epoch state comes about. -/
inductive Appears (accounts : EpochAccounts) : Account EpochState → Prop
  | same : Appears accounts accounts.epochState
  | allocated (dataLen : ℕ) (unfilled : accounts.epochState.Unfilled accounts.epochMarker) :
      Appears accounts (.allocated dataLen)
  | filled {dataLen : ℕ} (bump slot : ℕ) (allocated : accounts.epochState = .allocated dataLen) :
      Appears accounts (.ready (EpochState.zeroed.initializeState accounts.ncn accounts.epoch bump
        slot).updateReallocEpochState)

/-- A new epoch state is as `initialize` leaves it. -/
theorem Appears.fresh {account : Account EpochState} {epochState : EpochState}
    (appears : accounts.Appears account)
    (absent : ∀ epochState, accounts.epochState ≠ .ready epochState)
    (here : account = .ready epochState) :
    (∃ dataLen, accounts.epochState = .allocated dataLen) ∧
      ∃ bump slot, epochState = (EpochState.zeroed.initializeState accounts.ncn accounts.epoch bump
        slot).updateReallocEpochState := by
  cases appears with
  | same => exact absurd here (absent epochState)
  | allocated dataLen unfilled => cases here
  | filled bump slot allocated =>
    cases here
    exact ⟨⟨_, allocated⟩, bump, slot, rfl⟩

/-- Without an epoch state no other account is touched. -/
theorem Effect.of_absent (absent : ∀ epochState, accounts.epochState ≠ .ready epochState)
    (effect : Effect runtime accounts next context instruction) :
    ∃ account base ncn, accounts.Appears account ∧ next = { accounts with
      epochState := account
      baseRewardReceiver := base
      ncnRewardReceivers := ncn } := by
  cases effect with
  | received base_le ncn_le same => exact ⟨accounts.epochState, _, _, .same, same⟩
  | epochStateAllocated unfilled same => exact ⟨_, _, _, .allocated _ unfilled, same⟩
  | epochStateFilled allocated same => exact ⟨_, _, _, .filled _ _ allocated, same⟩
  | weightTableAllocated loaded => exact absurd loaded (absent _)
  | weightTableFilled loaded => exact absurd loaded (absent _)
  | weightSet loaded => exact absurd loaded (absent _)
  | epochSnapshotFilled loaded => exact absurd loaded (absent _)
  | operatorSnapshotAllocated loaded => exact absurd loaded (absent _)
  | operatorSnapshotFilled loaded => exact absurd loaded (absent _)
  | delegationSnapshotted loaded => exact absurd loaded (absent _)
  | ballotBoxAllocated loaded => exact absurd loaded (absent _)
  | ballotBoxFilled loaded => exact absurd loaded (absent _)
  | voteCast loaded => exact absurd loaded (absent _)
  | tieBreakerSet loaded => exact absurd loaded (absent _)
  | merkleRootSet loaded => exact absurd loaded (absent _)
  | baseRouterAllocated loaded => exact absurd loaded (absent _)
  | baseRouterFilled loaded => exact absurd loaded (absent _)
  | baseRouted loaded => exact absurd loaded (absent _)
  | baseDistributed loaded => exact absurd loaded (absent _)
  | baseNcnDistributed loaded => exact absurd loaded (absent _)
  | ncnRouterFilled loaded => exact absurd loaded (absent _)
  | ncnRouted loaded => exact absurd loaded (absent _)
  | ncnDistributed loaded => exact absurd loaded (absent _)
  | closed loaded => exact absurd loaded (absent _)

/-- An instruction closes an account or is none of those that do. -/
theorem closes_or_goesOn (instruction : EpochInstruction) :
    (∃ account daoWallet withReceiver,
      instruction = .closeEpochAccount account daoWallet withReceiver) ∨
    ∀ account daoWallet withReceiver,
      instruction ≠ .closeEpochAccount account daoWallet withReceiver := by
  cases instruction with
  | closeEpochAccount account daoWallet withReceiver =>
    exact .inl ⟨account, daoWallet, withReceiver, rfl⟩
  | _ => exact .inr fun account daoWallet withReceiver => nofun

/-- Only closing the epoch state makes the marker. -/
theorem Effect.marker (goesOn : ∀ account daoWallet withReceiver,
      instruction ≠ .closeEpochAccount account daoWallet withReceiver)
    (effect : Effect runtime accounts next context instruction) :
    next.epochMarker = accounts.epochMarker := by
  cases effect with
  | operatorSnapshotAllocated loaded snapshot unfilled listed same =>
    cases same
    rfl
  | closed loaded open_ canClose close => exact absurd rfl (goesOn _ _ _)
  | _ =>
    rename_i same
    cases same
    rfl

end EpochAccounts

end TipRouter
