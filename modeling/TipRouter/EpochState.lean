import TipRouter.FeeGroups
import TipRouter.Runs
import TipRouter.Slots

/-! The epoch state, `core/src/epoch_state.rs`: for one NCN and epoch, the
status of every account, how far every phase has come, and when consensus was
reached. It is bookkeeping about the other accounts; nothing in it is computed
from them, so that it mirrors them is a property of the instructions. -/
namespace TipRouter
open Runs

/-! ## Account statuses -/

/-- Stored as a `u8`; these are the only values ever written to one. -/
inductive AccountStatus where
  | dne | created | createdWithReceiver | closed
  deriving DecidableEq, Repr

/-- The number of NCN reward routers of an epoch. -/
abbrev maxNcnRewardRouters : ℕ := maxOperators * feeGroupCount

structure EpochAccountStatus where
  epochState : AccountStatus
  weightTable : AccountStatus
  epochSnapshot : AccountStatus
  operatorSnapshot : Vector AccountStatus maxOperators
  ballotBox : AccountStatus
  baseRewardRouter : AccountStatus
  ncnRewardRouter : Vector AccountStatus maxNcnRewardRouters
  deriving DecidableEq

/-- `EpochState::get_ncn_reward_router_index`. -/
def getNcnRewardRouterIndex (ncnOperatorIndex : ℕ) (group : NcnFeeGroup) :
    Except TipRouterError ℕ := do
  let index ← okOr (checkedMul 64 ncnOperatorIndex feeGroupCount) .arithmeticOverflow
  okOr (checkedAdd 64 index group.group) .arithmeticOverflow

/-- `array[index] = entry`, which panics out of bounds. -/
def assignAt {α : Type} {n : ℕ} (array : Vector α n) (index : ℕ) (entry : α) :
    Except InstructionError (Vector α n) :=
  if bound : index < n then .ok (array.put ⟨index, bound⟩ entry)
  else .error .programFailedToComplete

/-- `array[index]`, which panics out of bounds. -/
def readAt {α : Type} {n : ℕ} (array : Vector α n) (index : ℕ) : Except InstructionError α :=
  if bound : index < n then .ok (array.get ⟨index, bound⟩) else .error .programFailedToComplete

theorem assignAt_eq_ok_iff {α : Type} {n index : ℕ} {array next : Vector α n} {entry : α} :
    assignAt array index entry = .ok next ↔
      ∃ bound : index < n, array.put ⟨index, bound⟩ entry = next := by
  unfold assignAt
  by_cases bound : index < n
  · rw [dif_pos bound, Except.ok.injEq]
    exact ⟨fun same => ⟨bound, same⟩, fun ⟨_, same⟩ => same⟩
  · rw [dif_neg bound]
    exact ⟨nofun, fun ⟨inside, _⟩ => absurd inside bound⟩

theorem readAt_of_lt {α : Type} {n index : ℕ} {array : Vector α n} (bound : index < n) :
    readAt array index = .ok array[(⟨index, bound⟩ : Fin n)] :=
  dif_pos bound

theorem getNcnRewardRouterIndex_eq_ok {ncnOperatorIndex index : ℕ} {group : NcnFeeGroup}
    (found : getNcnRewardRouterIndex ncnOperatorIndex group = .ok index) :
    index = ncnOperatorIndex * feeGroupCount + group.group := by
  obtain ⟨product, multiplied, added⟩ := bind_eq_ok.mp found
  obtain ⟨-, rfl⟩ := checkedMul_eq_some_iff.mp (okOr_eq_ok_iff.mp multiplied)
  exact (checkedAdd_eq_some_iff.mp (okOr_eq_ok_iff.mp added)).2.symm

theorem getNcnRewardRouterIndex_of_lt {ncnOperatorIndex : ℕ} {group : NcnFeeGroup}
    (inside : ncnOperatorIndex * feeGroupCount + group.group < maxNcnRewardRouters) :
    getNcnRewardRouterIndex ncnOperatorIndex group =
      .ok (ncnOperatorIndex * feeGroupCount + group.group) := by
  unfold maxNcnRewardRouters maxOperators feeGroupCount at inside
  unfold getNcnRewardRouterIndex
  rw [checkedMul_of_lt (by unfold feeGroupCount; omega), okOr_some, ok_bind,
    checkedAdd_of_lt (by unfold feeGroupCount; omega), okOr_some]

namespace EpochAccountStatus

def default : EpochAccountStatus where
  epochState := .dne
  weightTable := .dne
  epochSnapshot := .dne
  operatorSnapshot := Vector.replicate maxOperators .dne
  ballotBox := .dne
  baseRewardRouter := .dne
  ncnRewardRouter := Vector.replicate maxNcnRewardRouters .dne

def setOperatorSnapshot (self : EpochAccountStatus) (index : ℕ) (status : AccountStatus) :
    Except InstructionError EpochAccountStatus := do
  let operatorSnapshot ← assignAt self.operatorSnapshot index status
  return { self with operatorSnapshot := operatorSnapshot }

def setNcnRewardRouter (self : EpochAccountStatus) (index : ℕ) (group : NcnFeeGroup)
    (status : AccountStatus) : Except InstructionError EpochAccountStatus := do
  let index ← getNcnRewardRouterIndex index group
  let ncnRewardRouter ← assignAt self.ncnRewardRouter index status
  return { self with ncnRewardRouter := ncnRewardRouter }

/-- A missing operator snapshot or NCN reward router counts as closed; a missing
account of any other kind does not. -/
def areAllClosed (self : EpochAccountStatus) : Bool :=
  self.weightTable == .closed && self.epochSnapshot == .closed &&
    self.operatorSnapshot.all (fun status => status == .dne || status == .closed) &&
    self.ballotBox == .closed && self.baseRewardRouter == .closed &&
    self.ncnRewardRouter.all (fun status => status == .dne || status == .closed)

end EpochAccountStatus

/-! ## Progress -/

structure Progress where
  tally : ℕ
  total : ℕ
  deriving DecidableEq

namespace Progress

/-- `Progress::INVALID`. -/
def invalid : ℕ := u64Max

def zero : Progress := ⟨0, 0⟩

def new (total : ℕ) : Progress := ⟨0, total⟩

def increment (self : Progress) (amount : ℕ) : Except TipRouterError Progress := do
  let tally ← okOr (checkedAdd 64 self.tally amount) .arithmeticOverflow
  return { self with tally := tally }

def incrementOne (self : Progress) : Except TipRouterError Progress := self.increment 1

def setTally (self : Progress) (tally : ℕ) : Progress := { self with tally := tally }

def setTotal (self : Progress) (total : ℕ) : Progress := { self with total := total }

def isInvalid (self : Progress) : Bool := self.tally == invalid || self.total == invalid

def isComplete (self : Progress) : Bool :=
  if self.isInvalid then false else decide (self.total ≤ self.tally)

theorem increment_eq_ok {progress next : Progress} {amount : ℕ}
    (incremented : progress.increment amount = .ok next) :
    next = ⟨progress.tally + amount, progress.total⟩ := by
  obtain ⟨tally, added, same⟩ := bind_eq_ok.mp incremented
  obtain ⟨-, rfl⟩ := checkedAdd_eq_some_iff.mp (okOr_eq_ok_iff.mp added)
  cases same
  rfl

end Progress

/-! ## The epoch state -/

structure EpochState where
  ncn : Pubkey
  epoch : ℕ
  bump : ℕ
  slotCreated : ℕ
  wasTieBreakerSet : Bool
  slotConsensusReached : ℕ
  operatorCount : ℕ
  vaultCount : ℕ
  accountStatus : EpochAccountStatus
  setWeightProgress : Progress
  epochSnapshotProgress : Progress
  operatorSnapshotProgress : Vector Progress maxOperators
  votingProgress : Progress
  validationProgress : Progress
  uploadProgress : Progress
  totalDistributionProgress : Progress
  baseDistributionProgress : Progress
  ncnDistributionProgress : Vector Progress maxNcnRewardRouters
  isClosing : Bool
  deriving DecidableEq

namespace EpochState

/-- The zeroed memory of a new account. -/
def zeroed : EpochState where
  ncn := .default
  epoch := 0
  bump := 0
  slotCreated := 0
  wasTieBreakerSet := false
  slotConsensusReached := 0
  operatorCount := 0
  vaultCount := 0
  accountStatus := .default
  setWeightProgress := .zero
  epochSnapshotProgress := .zero
  operatorSnapshotProgress := Vector.replicate maxOperators .zero
  votingProgress := .zero
  validationProgress := .zero
  uploadProgress := .zero
  totalDistributionProgress := .zero
  baseDistributionProgress := .zero
  ncnDistributionProgress := Vector.replicate maxNcnRewardRouters .zero
  isClosing := false

/-- `EpochState::initialize`; the other fields keep what the memory held. -/
def initializeState (self : EpochState) (ncn : Pubkey) (epoch bump slotCreated : ℕ) : EpochState :=
  { self with
    ncn := ncn
    epoch := epoch
    bump := bump
    slotCreated := slotCreated
    slotConsensusReached := defaultConsensusReachedSlot }

def isConsensusReached (self : EpochState) : Bool :=
  self.slotConsensusReached != defaultConsensusReachedSlot

def getSlotConsensusReached (self : EpochState) : Except TipRouterError ℕ :=
  if self.slotConsensusReached = defaultConsensusReachedSlot then .error .consensusNotReached
  else .ok self.slotConsensusReached

/-! ### Updaters -/

def updateReallocEpochState (self : EpochState) : EpochState :=
  { self with accountStatus := { self.accountStatus with epochState := .created } }

def updateReallocWeightTable (self : EpochState) (vaultCount stMintCount : ℕ) : EpochState :=
  { self with
    accountStatus := { self.accountStatus with weightTable := .created }
    vaultCount := vaultCount
    setWeightProgress := .new stMintCount }

def updateSetWeight (self : EpochState) (weightsSet stMintCount : ℕ) : EpochState :=
  { self with setWeightProgress := (self.setWeightProgress.setTally weightsSet).setTotal stMintCount }

def updateInitializeEpochSnapshot (self : EpochState) (operatorCount : ℕ) : EpochState :=
  { self with
    accountStatus := { self.accountStatus with epochSnapshot := .created }
    operatorCount := operatorCount
    epochSnapshotProgress := .new operatorCount }

def updateReallocOperatorSnapshot (self : EpochState) (ncnOperatorIndex : ℕ) (isActive : Bool) :
    Except InstructionError EpochState := do
  let accountStatus ← self.accountStatus.setOperatorSnapshot ncnOperatorIndex .created
  let self := { self with accountStatus := accountStatus }
  if isActive then do
    let operatorSnapshotProgress ← assignAt self.operatorSnapshotProgress ncnOperatorIndex
      (.new self.vaultCount)
    return { self with operatorSnapshotProgress := operatorSnapshotProgress }
  else do
    let progress ← (Progress.new 1).incrementOne
    let operatorSnapshotProgress ← assignAt self.operatorSnapshotProgress ncnOperatorIndex progress
    let epochSnapshotProgress ← self.epochSnapshotProgress.incrementOne
    return { self with
      operatorSnapshotProgress := operatorSnapshotProgress
      epochSnapshotProgress := epochSnapshotProgress }

def updateSnapshotVaultOperatorDelegation (self : EpochState) (ncnOperatorIndex : ℕ)
    (finalized : Bool) : Except InstructionError EpochState := do
  let progress ← readAt self.operatorSnapshotProgress ncnOperatorIndex
  let progress ← progress.incrementOne
  let operatorSnapshotProgress ← assignAt self.operatorSnapshotProgress ncnOperatorIndex progress
  let epochSnapshotProgress ←
    (if finalized then self.epochSnapshotProgress.incrementOne else .ok self.epochSnapshotProgress)
  return { self with
    operatorSnapshotProgress := operatorSnapshotProgress
    epochSnapshotProgress := epochSnapshotProgress }

def updateReallocBallotBox (self : EpochState) : EpochState :=
  { self with
    accountStatus := { self.accountStatus with ballotBox := .created }
    votingProgress := .new self.operatorCount
    validationProgress := .new 1
    uploadProgress := .new 1 }

def updateCastVote (self : EpochState) (operatorsVoted : ℕ) (isConsensusReached : Bool)
    (currentSlot : ℕ) : EpochState :=
  { self with
    slotConsensusReached := if isConsensusReached && !self.isConsensusReached then currentSlot
      else self.slotConsensusReached
    votingProgress := self.votingProgress.setTally operatorsVoted }

def updateSetTieBreaker (self : EpochState) (isConsensusReached : Bool) (currentSlot : ℕ) :
    EpochState :=
  if isConsensusReached && !self.isConsensusReached then
    { self with slotConsensusReached := currentSlot, wasTieBreakerSet := true }
  else self

def updateSetMerkleRoot (self : EpochState) : Except TipRouterError EpochState := do
  let uploadProgress ← self.uploadProgress.incrementOne
  return { self with uploadProgress := uploadProgress.setTotal uploadProgress.tally }

def updateReallocBaseRewardRouter (self : EpochState) : EpochState :=
  { self with
    accountStatus := { self.accountStatus with baseRewardRouter := .createdWithReceiver }
    baseDistributionProgress := .new 0 }

def updateReallocNcnRewardRouter (self : EpochState) (ncnOperatorIndex : ℕ) (group : NcnFeeGroup) :
    Except InstructionError EpochState := do
  let accountStatus ←
    self.accountStatus.setNcnRewardRouter ncnOperatorIndex group .createdWithReceiver
  let index ← getNcnRewardRouterIndex ncnOperatorIndex group
  let ncnDistributionProgress ← assignAt self.ncnDistributionProgress index (.new 0)
  return { self with
    accountStatus := accountStatus
    ncnDistributionProgress := ncnDistributionProgress }

def updateRouteBaseRewards (self : EpochState) (totalRewards : ℕ) : EpochState :=
  { self with
    totalDistributionProgress := self.totalDistributionProgress.setTotal totalRewards
    baseDistributionProgress := self.baseDistributionProgress.setTotal totalRewards }

def updateRouteNcnRewards (self : EpochState) (ncnOperatorIndex : ℕ) (group : NcnFeeGroup)
    (totalRewards : ℕ) : Except InstructionError EpochState := do
  let index ← getNcnRewardRouterIndex ncnOperatorIndex group
  let progress ← readAt self.ncnDistributionProgress index
  let ncnDistributionProgress ←
    assignAt self.ncnDistributionProgress index (progress.setTotal totalRewards)
  return { self with ncnDistributionProgress := ncnDistributionProgress }

def updateDistributeBaseRewards (self : EpochState) (rewards : ℕ) :
    Except TipRouterError EpochState := do
  let totalDistributionProgress ← self.totalDistributionProgress.increment rewards
  let baseDistributionProgress ← self.baseDistributionProgress.increment rewards
  return { self with
    totalDistributionProgress := totalDistributionProgress
    baseDistributionProgress := baseDistributionProgress }

def updateDistributeBaseNcnRewards (self : EpochState) (rewards : ℕ) :
    Except TipRouterError EpochState := do
  let baseDistributionProgress ← self.baseDistributionProgress.increment rewards
  return { self with baseDistributionProgress := baseDistributionProgress }

def updateDistributeNcnRewards (self : EpochState) (ncnOperatorIndex : ℕ) (group : NcnFeeGroup)
    (rewards : ℕ) : Except InstructionError EpochState := do
  let totalDistributionProgress ← self.totalDistributionProgress.increment rewards
  let index ← getNcnRewardRouterIndex ncnOperatorIndex group
  let progress ← readAt self.ncnDistributionProgress index
  let progress ← progress.increment rewards
  let ncnDistributionProgress ← assignAt self.ncnDistributionProgress index progress
  return { self with
    totalDistributionProgress := totalDistributionProgress
    ncnDistributionProgress := ncnDistributionProgress }

/-! ### Closers -/

def setIsClosing (self : EpochState) : EpochState := { self with isClosing := true }

def closeEpochState (self : EpochState) : EpochState :=
  { self with accountStatus := { self.accountStatus with epochState := .closed } }

def closeWeightTable (self : EpochState) : EpochState :=
  { self with accountStatus := { self.accountStatus with weightTable := .closed } }

def closeEpochSnapshot (self : EpochState) : EpochState :=
  { self with accountStatus := { self.accountStatus with epochSnapshot := .closed } }

def closeOperatorSnapshot (self : EpochState) (ncnOperatorIndex : ℕ) :
    Except InstructionError EpochState := do
  let accountStatus ← self.accountStatus.setOperatorSnapshot ncnOperatorIndex .closed
  return { self with accountStatus := accountStatus }

def closeBallotBox (self : EpochState) : EpochState :=
  { self with accountStatus := { self.accountStatus with ballotBox := .closed } }

def closeBaseRewardRouter (self : EpochState) : EpochState :=
  { self with accountStatus := { self.accountStatus with baseRewardRouter := .closed } }

def closeNcnRewardRouter (self : EpochState) (ncnOperatorIndex : ℕ) (group : NcnFeeGroup) :
    Except InstructionError EpochState := do
  let accountStatus ← self.accountStatus.setNcnRewardRouter ncnOperatorIndex group .closed
  return { self with accountStatus := accountStatus }

/-! ### The phase of an epoch -/

def canStartRouting (self : EpochState) (validSlotsAfterConsensus currentSlot : ℕ) :
    Except TipRouterError Bool :=
  if !self.isConsensusReached then .ok false
  else do
    let slotConsensusReached ← self.getSlotConsensusReached
    let slotCanStartRouting ←
      okOr (checkedAdd 64 slotConsensusReached validSlotsAfterConsensus) .arithmeticOverflow
    return decide (slotCanStartRouting ≤ currentSlot)

/-- `can_close_epoch_accounts`; `getEpoch` is `EpochSchedule::get_epoch`. -/
def canCloseEpochAccounts (self : EpochState) (getEpoch : ℕ → ℕ)
    (epochsAfterConsensusBeforeClose currentSlot : ℕ) : Except TipRouterError Bool := do
  let slotConsensusReached ← self.getSlotConsensusReached
  let epochDelta := getEpoch currentSlot - getEpoch slotConsensusReached
  return decide (epochsAfterConsensusBeforeClose ≤ epochDelta)

/-- `State`. -/
inductive Phase where
  | setWeight | snapshot | vote | distribute | close
  deriving DecidableEq, Repr

def currentState (self : EpochState) (getEpoch : ℕ → ℕ)
    (validSlotsAfterConsensus epochsAfterConsensusBeforeClose currentSlot : ℕ) :
    Except TipRouterError Phase :=
  if self.accountStatus.weightTable = .dne || !self.setWeightProgress.isComplete then
    .ok .setWeight
  else if self.accountStatus.epochSnapshot = .dne || !self.epochSnapshotProgress.isComplete then
    .ok .snapshot
  else if self.accountStatus.ballotBox = .dne then .ok .vote
  else do
    let canStartRouting ← self.canStartRouting validSlotsAfterConsensus currentSlot
    if !canStartRouting then .ok .vote
    else do
      let canCloseEpochAccounts ←
        self.canCloseEpochAccounts getEpoch epochsAfterConsensusBeforeClose currentSlot
      return if canCloseEpochAccounts then .close else .distribute

/-- The same, except that the weights are counted against the number of mints the
caller names. -/
def currentStatePatched (self : EpochState) (getEpoch : ℕ → ℕ)
    (validSlotsAfterConsensus epochsAfterConsensusBeforeClose stMintCount currentSlot : ℕ) :
    Except TipRouterError Phase :=
  if self.accountStatus.weightTable = .dne || self.setWeightProgress.tally < stMintCount then
    .ok .setWeight
  else if self.accountStatus.epochSnapshot = .dne || !self.epochSnapshotProgress.isComplete then
    .ok .snapshot
  else if self.accountStatus.ballotBox = .dne then .ok .vote
  else do
    let canStartRouting ← self.canStartRouting validSlotsAfterConsensus currentSlot
    if !canStartRouting then .ok .vote
    else do
      let canCloseEpochAccounts ←
        self.canCloseEpochAccounts getEpoch epochsAfterConsensusBeforeClose currentSlot
      return if canCloseEpochAccounts then .close else .distribute

/-! ### The index of an NCN reward router -/

variable {self next : EpochState} {ncnOperatorIndex : ℕ} {group : NcnFeeGroup}

theorem updateReallocNcnRewardRouter_eq_ok
    (updated : self.updateReallocNcnRewardRouter ncnOperatorIndex group = .ok next) :
    ncnOperatorIndex * feeGroupCount + group.group < maxNcnRewardRouters := by
  obtain ⟨accountStatus, status, -⟩ := bind_eq_ok.mp updated
  obtain ⟨index, found, written⟩ := bind_eq_ok.mp status
  obtain ⟨routers, assigned, -⟩ := bind_eq_ok.mp written
  obtain ⟨bound, -⟩ := assignAt_eq_ok_iff.mp assigned
  rw [getNcnRewardRouterIndex_eq_ok (lift_eq_ok_iff.mp found)] at bound
  exact bound

theorem updateRouteNcnRewards_of_lt (totalRewards : ℕ)
    (inside : ncnOperatorIndex * feeGroupCount + group.group < maxNcnRewardRouters) :
    ∃ next, self.updateRouteNcnRewards ncnOperatorIndex group totalRewards = .ok next := by
  have found := lift_eq_ok_iff.mpr (getNcnRewardRouterIndex_of_lt inside)
  unfold updateRouteNcnRewards
  rw [found, ok_bind, readAt_of_lt inside, ok_bind, assignAt, dif_pos inside, ok_bind]
  exact ⟨_, rfl⟩

/-! ### What an updater does -/

theorem setOperatorSnapshot_eq_ok {statuses next : EpochAccountStatus} {index : ℕ}
    {status : AccountStatus} (set : statuses.setOperatorSnapshot index status = .ok next) :
    ∃ inside : index < maxOperators, next = { statuses with
      operatorSnapshot := statuses.operatorSnapshot.put ⟨index, inside⟩ status } := by
  obtain ⟨written, assigned, same⟩ := bind_eq_ok.mp set
  obtain ⟨inside, rfl⟩ := assignAt_eq_ok_iff.mp assigned
  cases same
  exact ⟨inside, rfl⟩

theorem setNcnRewardRouter_eq_ok {statuses next : EpochAccountStatus} {index : ℕ}
    {status : AccountStatus} (set : statuses.setNcnRewardRouter index group status = .ok next) :
    ∃ inside : index * feeGroupCount + group.group < maxNcnRewardRouters, next = { statuses with
      ncnRewardRouter := statuses.ncnRewardRouter.put ⟨_, inside⟩ status } := by
  obtain ⟨place, found, set⟩ := bind_eq_ok.mp set
  obtain rfl := getNcnRewardRouterIndex_eq_ok (lift_eq_ok_iff.mp found)
  obtain ⟨written, assigned, same⟩ := bind_eq_ok.mp set
  obtain ⟨inside, rfl⟩ := assignAt_eq_ok_iff.mp assigned
  cases same
  exact ⟨inside, rfl⟩

theorem readAt_eq_ok {α : Type} {n index : ℕ} {array : Vector α n} {entry : α}
    (read : readAt array index = .ok entry) (inside : index < n) :
    entry = array[(⟨index, inside⟩ : Fin n)] := by
  rw [readAt_of_lt inside] at read
  cases read
  rfl

/-- An inactive operator is counted as registered at once. -/
theorem updateReallocOperatorSnapshot_eq_ok {isActive : Bool}
    (updated : self.updateReallocOperatorSnapshot ncnOperatorIndex isActive = .ok next) :
    ∃ inside : ncnOperatorIndex < maxOperators, next = { self with
      accountStatus := { self.accountStatus with
        operatorSnapshot :=
          self.accountStatus.operatorSnapshot.put ⟨ncnOperatorIndex, inside⟩ .created }
      operatorSnapshotProgress := self.operatorSnapshotProgress.put ⟨ncnOperatorIndex, inside⟩
        (if isActive then .new self.vaultCount else ⟨1, 1⟩)
      epochSnapshotProgress := if isActive then self.epochSnapshotProgress
        else ⟨self.epochSnapshotProgress.tally + 1, self.epochSnapshotProgress.total⟩ } := by
  obtain ⟨statuses, set, updated⟩ := bind_eq_ok.mp updated
  obtain ⟨inside, rfl⟩ := setOperatorSnapshot_eq_ok set
  refine ⟨inside, ?_⟩
  dsimp only at updated
  cases isActive with
  | true =>
    rw [if_pos rfl] at updated
    obtain ⟨written, assigned, same⟩ := bind_eq_ok.mp updated
    obtain ⟨_, rfl⟩ := assignAt_eq_ok_iff.mp assigned
    cases same
    rfl
  | false =>
    rw [if_neg Bool.false_ne_true] at updated
    obtain ⟨one, counted, updated⟩ := bind_eq_ok.mp updated
    obtain ⟨written, assigned, updated⟩ := bind_eq_ok.mp updated
    obtain ⟨registered, increment, same⟩ := bind_eq_ok.mp updated
    obtain rfl := Progress.increment_eq_ok (lift_eq_ok_iff.mp counted)
    obtain rfl := Progress.increment_eq_ok (lift_eq_ok_iff.mp increment)
    obtain ⟨_, rfl⟩ := assignAt_eq_ok_iff.mp assigned
    cases same
    rfl

theorem updateSnapshotVaultOperatorDelegation_eq_ok {finalized : Bool}
    (updated : self.updateSnapshotVaultOperatorDelegation ncnOperatorIndex finalized = .ok next) :
    ∃ inside : ncnOperatorIndex < maxOperators, next = { self with
      operatorSnapshotProgress := self.operatorSnapshotProgress.put ⟨ncnOperatorIndex, inside⟩
        ⟨self.operatorSnapshotProgress[(⟨ncnOperatorIndex, inside⟩ : Fin maxOperators)].tally + 1,
          self.operatorSnapshotProgress[(⟨ncnOperatorIndex, inside⟩ : Fin maxOperators)].total⟩
      epochSnapshotProgress := if finalized then
          ⟨self.epochSnapshotProgress.tally + 1, self.epochSnapshotProgress.total⟩
        else self.epochSnapshotProgress } := by
  obtain ⟨progress, read, updated⟩ := bind_eq_ok.mp updated
  obtain ⟨one, increment, updated⟩ := bind_eq_ok.mp updated
  obtain ⟨written, assigned, updated⟩ := bind_eq_ok.mp updated
  obtain ⟨registered, counted, same⟩ := bind_eq_ok.mp updated
  obtain ⟨inside, rfl⟩ := assignAt_eq_ok_iff.mp assigned
  obtain rfl := readAt_eq_ok read inside
  obtain rfl := Progress.increment_eq_ok (lift_eq_ok_iff.mp increment)
  cases same
  refine ⟨inside, ?_⟩
  cases finalized with
  | true =>
    obtain rfl := Progress.increment_eq_ok (lift_eq_ok_iff.mp counted)
    rfl
  | false =>
    cases counted
    rfl

/-- A tie breaker changes nothing but the slot of consensus and the flag. -/
theorem updateSetTieBreaker_eq (self : EpochState) (isConsensusReached : Bool) (currentSlot : ℕ) :
    ∃ slotConsensusReached wasTieBreakerSet,
      self.updateSetTieBreaker isConsensusReached currentSlot = { self with
        slotConsensusReached := slotConsensusReached
        wasTieBreakerSet := wasTieBreakerSet } := by
  unfold updateSetTieBreaker
  split
  · exact ⟨currentSlot, true, rfl⟩
  · exact ⟨self.slotConsensusReached, self.wasTieBreakerSet, rfl⟩

theorem updateSetMerkleRoot_eq_ok (updated : self.updateSetMerkleRoot = .ok next) :
    ∃ uploadProgress, next = { self with uploadProgress := uploadProgress } := by
  obtain ⟨uploadProgress, -, same⟩ := bind_eq_ok.mp updated
  cases same
  exact ⟨_, rfl⟩

theorem updateReallocNcnRewardRouter_eq
    (updated : self.updateReallocNcnRewardRouter ncnOperatorIndex group = .ok next) :
    ∃ inside : ncnOperatorIndex * feeGroupCount + group.group < maxNcnRewardRouters,
      next = { self with
        accountStatus := { self.accountStatus with
          ncnRewardRouter :=
            self.accountStatus.ncnRewardRouter.put ⟨_, inside⟩ .createdWithReceiver }
        ncnDistributionProgress := self.ncnDistributionProgress.put ⟨_, inside⟩ (.new 0) } := by
  obtain ⟨statuses, set, updated⟩ := bind_eq_ok.mp updated
  obtain ⟨inside, rfl⟩ := setNcnRewardRouter_eq_ok set
  obtain ⟨place, found, updated⟩ := bind_eq_ok.mp updated
  obtain rfl := getNcnRewardRouterIndex_eq_ok (lift_eq_ok_iff.mp found)
  obtain ⟨written, assigned, same⟩ := bind_eq_ok.mp updated
  obtain ⟨_, rfl⟩ := assignAt_eq_ok_iff.mp assigned
  cases same
  exact ⟨inside, rfl⟩

theorem updateRouteNcnRewards_eq_ok {totalRewards : ℕ}
    (updated : self.updateRouteNcnRewards ncnOperatorIndex group totalRewards = .ok next) :
    ∃ inside : ncnOperatorIndex * feeGroupCount + group.group < maxNcnRewardRouters,
      next = { self with
        ncnDistributionProgress := self.ncnDistributionProgress.put ⟨_, inside⟩
          (self.ncnDistributionProgress[(⟨_, inside⟩ : Fin maxNcnRewardRouters)].setTotal
            totalRewards) } := by
  obtain ⟨place, found, updated⟩ := bind_eq_ok.mp updated
  obtain rfl := getNcnRewardRouterIndex_eq_ok (lift_eq_ok_iff.mp found)
  obtain ⟨progress, read, updated⟩ := bind_eq_ok.mp updated
  obtain ⟨written, assigned, same⟩ := bind_eq_ok.mp updated
  obtain ⟨inside, rfl⟩ := assignAt_eq_ok_iff.mp assigned
  obtain rfl := readAt_eq_ok read inside
  cases same
  exact ⟨inside, rfl⟩

theorem updateDistributeBaseRewards_eq_ok {rewards : ℕ}
    (updated : self.updateDistributeBaseRewards rewards = .ok next) :
    ∃ totalProgress baseProgress, self.baseDistributionProgress.increment rewards =
        .ok baseProgress ∧ next = { self with
      totalDistributionProgress := totalProgress
      baseDistributionProgress := baseProgress } := by
  obtain ⟨totalProgress, -, updated⟩ := bind_eq_ok.mp updated
  obtain ⟨baseProgress, increment, same⟩ := bind_eq_ok.mp updated
  cases same
  exact ⟨totalProgress, baseProgress, increment, rfl⟩

theorem updateDistributeBaseNcnRewards_eq_ok {rewards : ℕ}
    (updated : self.updateDistributeBaseNcnRewards rewards = .ok next) :
    ∃ baseProgress, self.baseDistributionProgress.increment rewards = .ok baseProgress ∧
      next = { self with baseDistributionProgress := baseProgress } := by
  obtain ⟨baseProgress, increment, same⟩ := bind_eq_ok.mp updated
  cases same
  exact ⟨baseProgress, increment, rfl⟩

theorem updateDistributeNcnRewards_eq_ok {rewards : ℕ}
    (updated : self.updateDistributeNcnRewards ncnOperatorIndex group rewards = .ok next) :
    ∃ (inside : ncnOperatorIndex * feeGroupCount + group.group < maxNcnRewardRouters)
      (totalProgress progress : Progress),
      self.ncnDistributionProgress[(⟨_, inside⟩ : Fin maxNcnRewardRouters)].increment rewards =
        .ok progress ∧
      next = { self with
        totalDistributionProgress := totalProgress
        ncnDistributionProgress := self.ncnDistributionProgress.put ⟨_, inside⟩ progress } := by
  obtain ⟨totalProgress, -, updated⟩ := bind_eq_ok.mp updated
  obtain ⟨place, found, updated⟩ := bind_eq_ok.mp updated
  obtain rfl := getNcnRewardRouterIndex_eq_ok (lift_eq_ok_iff.mp found)
  obtain ⟨progress, read, updated⟩ := bind_eq_ok.mp updated
  obtain ⟨raised, increment, updated⟩ := bind_eq_ok.mp updated
  obtain ⟨written, assigned, same⟩ := bind_eq_ok.mp updated
  obtain ⟨inside, rfl⟩ := assignAt_eq_ok_iff.mp assigned
  obtain rfl := readAt_eq_ok read inside
  cases same
  exact ⟨inside, totalProgress, raised, lift_eq_ok_iff.mp increment, rfl⟩

theorem closeOperatorSnapshot_eq_ok
    (closed : self.closeOperatorSnapshot ncnOperatorIndex = .ok next) :
    ∃ inside : ncnOperatorIndex < maxOperators, next = { self with
      accountStatus := { self.accountStatus with
        operatorSnapshot :=
          self.accountStatus.operatorSnapshot.put ⟨ncnOperatorIndex, inside⟩ .closed } } := by
  obtain ⟨statuses, set, same⟩ := bind_eq_ok.mp closed
  obtain ⟨inside, rfl⟩ := setOperatorSnapshot_eq_ok set
  cases same
  exact ⟨inside, rfl⟩

theorem closeNcnRewardRouter_eq_ok
    (closed : self.closeNcnRewardRouter ncnOperatorIndex group = .ok next) :
    ∃ inside : ncnOperatorIndex * feeGroupCount + group.group < maxNcnRewardRouters,
      next = { self with
        accountStatus := { self.accountStatus with
          ncnRewardRouter := self.accountStatus.ncnRewardRouter.put ⟨_, inside⟩ .closed } } := by
  obtain ⟨statuses, set, same⟩ := bind_eq_ok.mp closed
  obtain ⟨inside, rfl⟩ := setNcnRewardRouter_eq_ok set
  cases same
  exact ⟨inside, rfl⟩

end EpochState

end TipRouter
