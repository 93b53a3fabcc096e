import TipRouter.MetaMerkleTree
import TipRouter.NcnRewardRouter
import TipRouter.SnapshotTotals
import TipRouter.VotingPhases

/-! All accounts of one epoch under all instructions that create, fill, change or
close one of them, `program/src/*.rs`. An account is created, grown and only then
filled, by instructions of their own; the epoch state is told of it when it is
filled and when it is closed. The last account to go is the epoch state itself,
and the marker that is left in its place keeps the epoch from coming back. -/
namespace TipRouter
open Runs

/-! ## The accounts -/

/-- `SIZE` of the accounts that are filled by a realloc instruction. -/
def EpochState.size : ℕ := 58879
def WeightTable.size : ℕ := 37633
def BallotBox.size : ℕ := 128305
def BaseRewardRouter.size : ℕ := 24924

/-- The accounts of an epoch and the lamports of its receivers. An NCN reward
router belongs to an operator and a fee group. -/
structure EpochAccounts where
  ncn : Pubkey
  epoch : ℕ
  epochMarker : Bool
  epochState : Account EpochState
  weightTable : Account WeightTable
  epochSnapshot : Account EpochSnapshot
  operatorSnapshots : Pubkey → Account OperatorSnapshot
  ballotBox : Account BallotBox
  baseRewardRouter : Account BaseRewardRouter
  baseRewardReceiver : ℕ
  ncnRewardRouters : Pubkey × NcnFeeGroup → Account NcnRewardRouter
  ncnRewardReceivers : Pubkey × NcnFeeGroup → ℕ

/-- What an instruction reads besides the accounts of its epoch. -/
structure Context where
  clock : Clock
  config : Config
  vaultRegistry : VaultRegistry

/-- What the program takes from the runtime and from its libraries. `getEpoch` is
`EpochSchedule::get_epoch`, `rentCost` is `Rent::minimum_balance(0)`. -/
structure Runtime where
  spl : SplMath
  switchboard : Switchboard
  hashv : Hashv
  getEpoch : ℕ → ℕ
  rentCost : ℕ

/-- The account `CloseEpochAccount` is to close, `otherEpochState` being the epoch
state of another epoch or NCN. -/
inductive AccountToClose where
  | epochState
  | otherEpochState
  | weightTable
  | epochSnapshot
  | operatorSnapshot (operator : Pubkey)
  | ballotBox
  | baseRewardRouter
  | ncnRewardRouter (operator : Pubkey) (group : NcnFeeGroup)

/-- The instructions of an epoch, and transfers to its receivers by anyone. -/
inductive EpochInstruction where
  | initializeEpochState
  | reallocEpochState (bump : ℕ)
  | initializeWeightTable (ncnVaultCount : ℕ)
  | reallocWeightTable (bump : ℕ)
  | adminSetWeight (ncnWeightTableAdmin weightTableAdmin stMint : Pubkey) (weight : ℕ)
  | switchboardSetWeight (stMint : Pubkey) (feed : SwitchboardFeed)
  | initializeEpochSnapshot (operatorCount bump : ℕ)
  | initializeOperatorSnapshot (operator : Pubkey) (ncnOperatorIndex : ℕ)
  | reallocOperatorSnapshot (reading : OperatorReading) (bump : ℕ)
  | snapshotVaultOperatorDelegation (operator : Pubkey) (reading : VaultReading)
  | initializeBallotBox
  | reallocBallotBox (bump : ℕ)
  | castVote (operator voter operatorAdmin : Pubkey) (metaMerkleRoot : Bytes32)
  | adminSetTieBreaker (tieBreakerAdmin : Pubkey) (metaMerkleRoot : Bytes32)
  | setMerkleRoot (tipDistributionAddress : Pubkey) (proof : List Bytes32) (merkleRoot : Bytes32)
      (maxTotalClaim maxNumNodes : UInt64)
  | initializeBaseRewardRouter
  | reallocBaseRewardRouter (bump : ℕ)
  | initializeNcnRewardRouter (operator : Pubkey) (ncnFeeGroup bump : ℕ)
  | routeBaseRewards (maxIterations : ℕ)
  | routeNcnRewards (operator : Pubkey) (ncnFeeGroup maxIterations : ℕ)
  | distributeBaseRewards (baseFeeGroup : ℕ) (baseFeeWallet : Pubkey)
  | distributeBaseNcnRewardRoute (operator : Pubkey) (ncnFeeGroup : ℕ)
  | distributeNcnOperatorRewards (operator : Pubkey) (ncnFeeGroup : ℕ)
  | distributeNcnVaultRewards (operator vault : Pubkey) (ncnFeeGroup : ℕ)
  | closeEpochAccount (accountToClose : AccountToClose) (daoWallet : Pubkey) (withReceiver : Bool)
  | transferToBaseReceiver (lamports : ℕ)
  | transferToNcnReceiver (operator : Pubkey) (group : NcnFeeGroup) (lamports : ℕ)

/-- `EpochState::load_and_check_is_closing`, which looks at the data before the owner. -/
def Account.loadAndCheckIsClosing : Account EpochState → Except InstructionError EpochState
  | .missing => .error .invalidAccountData
  | .allocated _ => .error .invalidAccountData
  | .ready epochState =>
    if epochState.isClosing then .error (.custom .epochIsClosingDown) else .ok epochState

/-- A transfer to a receiver, given its lamports. -/
def receiveLamports (lamports amount : ℕ) : Except InstructionError ℕ :=
  match checkedAdd 64 lamports amount with
  | some received => .ok received
  | none => .error .arithmeticOverflow

/-- A transfer out of a receiver, given its lamports. -/
def sendLamports (lamports amount : ℕ) : Except InstructionError ℕ :=
  match checkedSub lamports amount with
  | some left => .ok left
  | none => .error .resultWithNegativeLamports

/-- `EpochState::load_to_close`. -/
def EpochState.loadToClose (self : EpochState) (ncn : Pubkey) (epoch : ℕ) :
    Except TipRouterError Unit :=
  if self.ncn ≠ ncn then .error .cannotCloseAccount
  else if self.epoch ≠ epoch then .error .cannotCloseAccount
  else if !self.accountStatus.areAllClosed then .error .cannotCloseEpochStateAccount
  else .ok ()

namespace EpochAccounts

/-- An epoch none of whose accounts exists. -/
def absent (ncn : Pubkey) (epoch : ℕ) : EpochAccounts where
  ncn := ncn
  epoch := epoch
  epochMarker := false
  epochState := .missing
  weightTable := .missing
  epochSnapshot := .missing
  operatorSnapshots _ := .missing
  ballotBox := .missing
  baseRewardRouter := .missing
  baseRewardReceiver := 0
  ncnRewardRouters _ := .missing
  ncnRewardReceivers _ := 0

/-! ### Parts of the instructions -/

/-- `EpochMarker::check_dne`. -/
def checkDne (self : EpochAccounts) : Except InstructionError Unit :=
  if self.epochMarker then .error (.custom .markerExists) else .ok ()

def withWeighing (self : EpochAccounts) (weighing : Weighing) : EpochAccounts :=
  { self with
    epochState := .ready weighing.epochState
    weightTable := .ready weighing.weightTable }

def withSnapshots (self : EpochAccounts) (snapshots : Snapshots) : EpochAccounts :=
  { self with
    epochState := .ready snapshots.epochState
    epochSnapshot := .ready snapshots.epochSnapshot
    operatorSnapshots := snapshots.operatorSnapshots }

def withVoting (self : EpochAccounts) (voting : VotingAccounts) : EpochAccounts :=
  { self with
    epochState := .ready voting.epochState
    ballotBox := .ready voting.ballotBox }

def withBaseRouter (self : EpochAccounts) (epochState : EpochState) (router : BaseRewardRouter)
    (lamports : ℕ) : EpochAccounts :=
  { self with
    epochState := .ready epochState
    baseRewardRouter := .ready router
    baseRewardReceiver := lamports }

def withNcnReceiver (self : EpochAccounts) (operator : Pubkey) (group : NcnFeeGroup)
    (lamports : ℕ) : EpochAccounts :=
  { self with
    ncnRewardReceivers := Function.update self.ncnRewardReceivers (operator, group) lamports }

def withNcnRouter (self : EpochAccounts) (operator : Pubkey) (group : NcnFeeGroup)
    (epochState : EpochState) (account : Account NcnRewardRouter) (lamports : ℕ) : EpochAccounts :=
  { self.withNcnReceiver operator group lamports with
    epochState := .ready epochState
    ncnRewardRouters := Function.update self.ncnRewardRouters (operator, group) account }

/-! ### The epoch state -/

def processInitializeEpochState (self : EpochAccounts) (context : Context) :
    Except InstructionError EpochAccounts :=
  if context.clock.epoch < self.epoch then .error .invalidArgument
  else do
    self.epochState.loadSystemAccount
    self.checkDne
    if self.epoch < context.config.startingValidEpoch then .error .invalidArgument
    else return { self with epochState := .allocated maxReallocBytes }

def processReallocEpochState (self : EpochAccounts) (context : Context) (bump : ℕ) :
    Except InstructionError EpochAccounts := do
  match ← self.epochState.resize EpochState.size with
  | .short dataLen => return { self with epochState := .allocated dataLen }
  | .fullSize =>
    let epochState := EpochState.zeroed.initializeState self.ncn self.epoch bump context.clock.slot
    return { self with epochState := .ready epochState.updateReallocEpochState }
  | .initialized => return self

/-! ### The weight table -/

def processInitializeWeightTable (self : EpochAccounts) (context : Context) (ncnVaultCount : ℕ) :
    Except InstructionError EpochAccounts := do
  let _ ← self.epochState.loadAndCheckIsClosing
  self.checkDne
  self.weightTable.loadSystemAccount
  if ncnVaultCount ≠ context.vaultRegistry.vaultCount then .error .invalidAccountData
  else return { self with weightTable := .allocated maxReallocBytes }

def processReallocWeightTable (self : EpochAccounts) (context : Context) (bump : ℕ) :
    Except InstructionError EpochAccounts := do
  let epochState ← self.epochState.load
  match ← self.weightTable.resize WeightTable.size with
  | .short dataLen => return { self with weightTable := .allocated dataLen }
  | .fullSize =>
    let weighing ← Weighing.start epochState context.vaultRegistry self.ncn self.epoch
      context.clock.slot bump
    return self.withWeighing weighing
  | .initialized => return self

/-- `process_admin_set_weight` and `process_switchboard_set_weight`. -/
def processSetWeight (runtime : Runtime) (self : EpochAccounts) (instruction : WeightInstruction) :
    Except InstructionError EpochAccounts := do
  let epochState ← self.epochState.load
  let weightTable ← self.weightTable.load
  let weighing ← Weighing.process runtime.switchboard ⟨weightTable, epochState⟩ instruction
  return self.withWeighing weighing

/-! ### The snapshots -/

def processInitializeEpochSnapshot (self : EpochAccounts) (context : Context)
    (operatorCount bump : ℕ) : Except InstructionError EpochAccounts := do
  let epochState ← self.epochState.loadAndCheckIsClosing
  self.checkDne
  self.epochSnapshot.loadSystemAccount
  let weightTable ← self.weightTable.load
  if !weightTable.finalized then .error (.custom .weightTableNotFinalized)
  else if operatorCount = 0 then .error (.custom .noOperators)
  else return { self with
    epochState := .ready (epochState.updateInitializeEpochSnapshot operatorCount)
    epochSnapshot := .ready (.new self.ncn self.epoch bump context.clock.slot
      (context.config.feeConfig.currentFees self.epoch) operatorCount weightTable.vaultCount) }

def processInitializeOperatorSnapshot (self : EpochAccounts) (operator : Pubkey)
    (ncnOperatorIndex : ℕ) : Except InstructionError EpochAccounts := do
  let epochState ← self.epochState.loadAndCheckIsClosing
  let epochSnapshot ← self.epochSnapshot.load
  (self.operatorSnapshots operator).loadSystemAccount
  self.checkDne
  let snapshots ← Snapshots.processInitializeOperatorSnapshot
    ⟨epochState, epochSnapshot, self.operatorSnapshots⟩ operator ncnOperatorIndex
  return self.withSnapshots snapshots

def processReallocOperatorSnapshot (self : EpochAccounts) (context : Context)
    (reading : OperatorReading) (bump : ℕ) : Except InstructionError EpochAccounts := do
  let epochState ← self.epochState.load
  let epochSnapshot ← self.epochSnapshot.load
  let snapshots ← Snapshots.processReallocOperatorSnapshot
    ⟨epochState, epochSnapshot, self.operatorSnapshots⟩ reading bump context.clock.slot
  return self.withSnapshots snapshots

def processSnapshotVaultOperatorDelegation (runtime : Runtime) (self : EpochAccounts)
    (context : Context) (operator : Pubkey) (reading : VaultReading) :
    Except InstructionError EpochAccounts := do
  let epochState ← self.epochState.load
  let weightTable ← self.weightTable.load
  let epochSnapshot ← self.epochSnapshot.load
  let snapshots ← Snapshots.processSnapshotVaultOperatorDelegation runtime.spl weightTable
    ⟨epochState, epochSnapshot, self.operatorSnapshots⟩ operator reading context.clock.slot
  return self.withSnapshots snapshots

/-! ### Voting -/

def processInitializeBallotBox (self : EpochAccounts) : Except InstructionError EpochAccounts := do
  self.ballotBox.loadSystemAccount
  let _ ← self.epochState.loadAndCheckIsClosing
  self.checkDne
  return { self with ballotBox := .allocated maxReallocBytes }

def processReallocBallotBox (self : EpochAccounts) (context : Context) (bump : ℕ) :
    Except InstructionError EpochAccounts := do
  let epochState ← self.epochState.load
  match ← self.ballotBox.resize BallotBox.size with
  | .short dataLen => return { self with ballotBox := .allocated dataLen }
  | .fullSize => return self.withVoting (.start epochState self.ncn self.epoch bump context.clock.slot)
  | .initialized => return self

def processCastVote (runtime : Runtime) (self : EpochAccounts) (context : Context)
    (operator voter operatorAdmin : Pubkey) (metaMerkleRoot : Bytes32) :
    Except InstructionError EpochAccounts := do
  let epochState ← self.epochState.load
  let ballotBox ← self.ballotBox.load
  let epochSnapshot ← self.epochSnapshot.load
  let operatorSnapshot ← (self.operatorSnapshots operator).load
  let voting ← VotingAccounts.processCastVote runtime.spl ⟨ballotBox, epochState⟩ operator voter
    operatorAdmin epochSnapshot operatorSnapshot metaMerkleRoot
    context.config.validSlotsAfterConsensus context.clock.slot
  return self.withVoting voting

def processAdminSetTieBreaker (self : EpochAccounts) (context : Context) (tieBreakerAdmin : Pubkey)
    (metaMerkleRoot : Bytes32) : Except InstructionError EpochAccounts := do
  let epochState ← self.epochState.load
  let ballotBox ← self.ballotBox.load
  let voting ← VotingAccounts.processAdminSetTieBreaker ⟨ballotBox, epochState⟩
    context.config.tieBreakerAdmin tieBreakerAdmin metaMerkleRoot context.config.epochsBeforeStall
    context.clock.epoch context.clock.slot
  return self.withVoting voting

/-- `process_set_merkle_root` from the accounts of the epoch on. Left out are the checks of
the accounts that belong to no epoch (config, NCN, the tip distribution program's id, and
the tip distribution account, which has to be the vote account's of the epoch before) and
the upload to the tip distribution program. -/
def processSetMerkleRoot (runtime : Runtime) (self : EpochAccounts)
    (tipDistributionAddress : Pubkey) (proof : List Bytes32) (merkleRoot : Bytes32)
    (maxTotalClaim maxNumNodes : UInt64) : Except InstructionError EpochAccounts := do
  let epochState ← self.epochState.load
  let ballotBox ← self.ballotBox.load
  if self.epoch = 0 then .error (.custom .arithmeticUnderflowError)
  else if !ballotBox.isConsensusReached then .error (.custom .consensusNotReached)
  else do
    ballotBox.verifyMerkleRoot runtime.hashv tipDistributionAddress proof merkleRoot maxTotalClaim
      maxNumNodes
    let epochState ← epochState.updateSetMerkleRoot
    return { self with epochState := .ready epochState }

/-! ### The base reward router -/

def processInitializeBaseRewardRouter (runtime : Runtime) (self : EpochAccounts) :
    Except InstructionError EpochAccounts := do
  let _ ← self.epochState.loadAndCheckIsClosing
  self.checkDne
  self.baseRewardRouter.loadSystemAccount
  let lamports ← receiveLamports self.baseRewardReceiver runtime.rentCost
  return { self with
    baseRewardRouter := .allocated maxReallocBytes
    baseRewardReceiver := lamports }

def processReallocBaseRewardRouter (self : EpochAccounts) (context : Context) (bump : ℕ) :
    Except InstructionError EpochAccounts := do
  let epochState ← self.epochState.load
  match ← self.baseRewardRouter.resize BaseRewardRouter.size with
  | .short dataLen => return { self with baseRewardRouter := .allocated dataLen }
  | .fullSize =>
    return self.withBaseRouter epochState.updateReallocBaseRewardRouter
      (.new self.ncn self.epoch bump context.clock.slot) self.baseRewardReceiver
  | .initialized => return self

def processRouteBaseRewards (runtime : Runtime) (self : EpochAccounts) (context : Context)
    (maxIterations : ℕ) : Except InstructionError EpochAccounts := do
  let epochState ← self.epochState.load
  let epochSnapshot ← self.epochSnapshot.load
  let router ← self.baseRewardRouter.load
  let ballotBox ← self.ballotBox.load
  let router ← router.processRouteBaseRewards runtime.spl epochSnapshot.fees ballotBox
    context.clock.slot context.config.validSlotsAfterConsensus runtime.rentCost
    self.baseRewardReceiver maxIterations
  return self.withBaseRouter (epochState.updateRouteBaseRewards router.totalRewards) router
    self.baseRewardReceiver

def processDistributeBaseRewards (self : EpochAccounts) (context : Context) (baseFeeGroup : ℕ)
    (baseFeeWallet : Pubkey) : Except InstructionError EpochAccounts := do
  let epochState ← self.epochState.load
  let router ← self.baseRewardRouter.load
  let group ← BaseFeeGroup.tryFrom baseFeeGroup
  let feeWallet ← context.config.feeConfig.baseFeeWallet group
  if feeWallet ≠ baseFeeWallet then .error .invalidAccountData
  else do
    let (rewards, router) ← router.processDistributeBaseRewards baseFeeGroup
    let lamports ← sendLamports self.baseRewardReceiver rewards
    let epochState ← epochState.updateDistributeBaseRewards rewards
    return self.withBaseRouter epochState router lamports

def processDistributeBaseNcnRewardRoute (self : EpochAccounts) (operator : Pubkey)
    (ncnFeeGroup : ℕ) : Except InstructionError EpochAccounts := do
  let epochState ← self.epochState.load
  let group ← NcnFeeGroup.tryFrom ncnFeeGroup
  let router ← self.baseRewardRouter.load
  let _ ← (self.ncnRewardRouters (operator, group)).load
  let (rewards, router) ← router.processDistributeBaseNcnRewardRoute ncnFeeGroup operator
  let lamports ← sendLamports self.baseRewardReceiver rewards
  let received ← receiveLamports (self.ncnRewardReceivers (operator, group)) rewards
  let epochState ← epochState.updateDistributeBaseNcnRewards rewards
  return (self.withBaseRouter epochState router lamports).withNcnReceiver operator group received

/-! ### The NCN reward routers -/

def processInitializeNcnRewardRouter (runtime : Runtime) (self : EpochAccounts) (context : Context)
    (operator : Pubkey) (ncnFeeGroup bump : ℕ) : Except InstructionError EpochAccounts := do
  let epochState ← self.epochState.loadAndCheckIsClosing
  let operatorSnapshot ← (self.operatorSnapshots operator).load
  let group ← NcnFeeGroup.tryFrom ncnFeeGroup
  (self.ncnRewardRouters (operator, group)).loadSystemAccount
  self.checkDne
  let lamports ← receiveLamports (self.ncnRewardReceivers (operator, group)) runtime.rentCost
  let epochState ← epochState.updateReallocNcnRewardRouter operatorSnapshot.ncnOperatorIndex group
  return self.withNcnRouter operator group epochState
    (.ready (.new group operator operatorSnapshot.ncnOperatorIndex self.ncn self.epoch bump
      context.clock.slot)) lamports

def processRouteNcnRewards (runtime : Runtime) (self : EpochAccounts) (operator : Pubkey)
    (ncnFeeGroup maxIterations : ℕ) : Except InstructionError EpochAccounts := do
  let epochState ← self.epochState.load
  let group ← NcnFeeGroup.tryFrom ncnFeeGroup
  let operatorSnapshot ← (self.operatorSnapshots operator).load
  let router ← (self.ncnRewardRouters (operator, group)).load
  let lamports := self.ncnRewardReceivers (operator, group)
  let router ← router.processRouteNcnRewards runtime.spl operatorSnapshot runtime.rentCost lamports
    maxIterations
  let epochState ← epochState.updateRouteNcnRewards operatorSnapshot.ncnOperatorIndex group
    router.totalRewards
  return self.withNcnRouter operator group epochState (.ready router) lamports

/-- `process_distribute_ncn_operator_rewards` and `process_distribute_ncn_vault_rewards`. -/
def processDistributeNcnRewards (self : EpochAccounts) (operator : Pubkey) (ncnFeeGroup : ℕ)
    (distribute : NcnRewardRouter → Except TipRouterError (ℕ × NcnRewardRouter)) :
    Except InstructionError EpochAccounts := do
  let epochState ← self.epochState.load
  let operatorSnapshot ← (self.operatorSnapshots operator).load
  let group ← NcnFeeGroup.tryFrom ncnFeeGroup
  let router ← (self.ncnRewardRouters (operator, group)).load
  let (rewards, router) ← distribute router
  let lamports ← sendLamports (self.ncnRewardReceivers (operator, group)) rewards
  let epochState ← epochState.updateDistributeNcnRewards operatorSnapshot.ncnOperatorIndex group
    rewards
  return self.withNcnRouter operator group epochState (.ready router) lamports

/-! ### Closing -/

/-- The discriminator says what an account is; one that was not filled has none. -/
def loadToClose {α : Type} : Account α → Except InstructionError α
  | .ready data => .ok data
  | _ => .error (.custom .invalidAccountToCloseDiscriminator)

/-- The receiver of a router gives up its rent and everything above it. -/
def closeReceiver (runtime : Runtime) (withReceiver : Bool) (lamports : ℕ) :
    Except InstructionError ℕ :=
  if !withReceiver then .error (.custom .cannotCloseAccountNoReceiverProvided)
  else if lamports < runtime.rentCost then .error .resultWithNegativeLamports
  else .ok 0

/-- What is closed as an epoch state is whatever epoch state was passed; what is
checked is the epoch state of this epoch. -/
def closeAccount (runtime : Runtime) (self : EpochAccounts) (epochState : EpochState)
    (withReceiver : Bool) : AccountToClose → Except InstructionError EpochAccounts
  | .epochState => do
    epochState.loadToClose self.ncn self.epoch
    return { self with epochState := .missing, epochMarker := true }
  | .otherEpochState => do
    epochState.loadToClose self.ncn self.epoch
    return { self with epochState := .ready epochState.closeEpochState }
  | .weightTable => do
    let _ ← loadToClose self.weightTable
    return { self with
      epochState := .ready epochState.closeWeightTable
      weightTable := .missing }
  | .epochSnapshot => do
    let _ ← loadToClose self.epochSnapshot
    return { self with
      epochState := .ready epochState.closeEpochSnapshot
      epochSnapshot := .missing }
  | .operatorSnapshot operator => do
    let operatorSnapshot ← loadToClose (self.operatorSnapshots operator)
    let epochState ← epochState.closeOperatorSnapshot operatorSnapshot.ncnOperatorIndex
    return { self with
      epochState := .ready epochState
      operatorSnapshots := Function.update self.operatorSnapshots operator .missing }
  | .ballotBox => do
    let _ ← loadToClose self.ballotBox
    return { self with
      epochState := .ready epochState.closeBallotBox
      ballotBox := .missing }
  | .baseRewardRouter => do
    let _ ← loadToClose self.baseRewardRouter
    let lamports ← closeReceiver runtime withReceiver self.baseRewardReceiver
    return { self with
      epochState := .ready epochState.closeBaseRewardRouter
      baseRewardRouter := .missing
      baseRewardReceiver := lamports }
  | .ncnRewardRouter operator group => do
    let router ← loadToClose (self.ncnRewardRouters (operator, group))
    let lamports ← closeReceiver runtime withReceiver (self.ncnRewardReceivers (operator, group))
    let epochState ← epochState.closeNcnRewardRouter router.ncnOperatorIndex router.ncnFeeGroup
    return self.withNcnRouter operator group epochState .missing lamports

def dataIsEmpty (self : EpochAccounts) : AccountToClose → Bool
  | .epochState => self.epochState.dataIsEmpty
  | .otherEpochState => false
  | .weightTable => self.weightTable.dataIsEmpty
  | .epochSnapshot => self.epochSnapshot.dataIsEmpty
  | .operatorSnapshot operator => (self.operatorSnapshots operator).dataIsEmpty
  | .ballotBox => self.ballotBox.dataIsEmpty
  | .baseRewardRouter => self.baseRewardRouter.dataIsEmpty
  | .ncnRewardRouter operator group => (self.ncnRewardRouters (operator, group)).dataIsEmpty

def processCloseEpochAccount (runtime : Runtime) (self : EpochAccounts) (context : Context)
    (accountToClose : AccountToClose) (daoWallet : Pubkey) (withReceiver : Bool) :
    Except InstructionError EpochAccounts := do
  let epochState ← self.epochState.load
  self.checkDne
  if self.dataIsEmpty accountToClose then .error (.custom .cannotCloseAccountAlreadyClosed)
  else do
    let baseFeeWallet ← context.config.feeConfig.baseFeeWallet .dao
    if baseFeeWallet ≠ daoWallet then .error (.custom .invalidDaoWallet)
    else if ← epochState.canCloseEpochAccounts runtime.getEpoch
        context.config.epochsAfterConsensusBeforeClose context.clock.slot then
      self.closeAccount runtime epochState.setIsClosing withReceiver accountToClose
    else .error (.custom .cannotCloseAccountNotEnoughEpochs)

/-! ### All instructions -/

/-- An instruction for this epoch. What is left out is `CloseEpochAccount` of another
epoch with the state of this one as the account to close: the program lets it through,
as `otherEpochState` shows from that epoch's side, and this state is gone then without
a marker. -/
def process (runtime : Runtime) (self : EpochAccounts) :
    Context × EpochInstruction → Except InstructionError EpochAccounts
  | (context, .initializeEpochState) => self.processInitializeEpochState context
  | (context, .reallocEpochState bump) => self.processReallocEpochState context bump
  | (context, .initializeWeightTable ncnVaultCount) =>
    self.processInitializeWeightTable context ncnVaultCount
  | (context, .reallocWeightTable bump) => self.processReallocWeightTable context bump
  | (context, .adminSetWeight ncnWeightTableAdmin weightTableAdmin stMint weight) =>
    self.processSetWeight runtime
      (.adminSetWeight ncnWeightTableAdmin weightTableAdmin stMint weight context.clock.slot)
  | (context, .switchboardSetWeight stMint feed) =>
    self.processSetWeight runtime (.switchboardSetWeight stMint feed context.clock.slot)
  | (context, .initializeEpochSnapshot operatorCount bump) =>
    self.processInitializeEpochSnapshot context operatorCount bump
  | (_, .initializeOperatorSnapshot operator ncnOperatorIndex) =>
    self.processInitializeOperatorSnapshot operator ncnOperatorIndex
  | (context, .reallocOperatorSnapshot reading bump) =>
    self.processReallocOperatorSnapshot context reading bump
  | (context, .snapshotVaultOperatorDelegation operator reading) =>
    self.processSnapshotVaultOperatorDelegation runtime context operator reading
  | (_, .initializeBallotBox) => self.processInitializeBallotBox
  | (context, .reallocBallotBox bump) => self.processReallocBallotBox context bump
  | (context, .castVote operator voter operatorAdmin metaMerkleRoot) =>
    self.processCastVote runtime context operator voter operatorAdmin metaMerkleRoot
  | (context, .adminSetTieBreaker tieBreakerAdmin metaMerkleRoot) =>
    self.processAdminSetTieBreaker context tieBreakerAdmin metaMerkleRoot
  | (_, .setMerkleRoot tipDistributionAddress proof merkleRoot maxTotalClaim maxNumNodes) =>
    self.processSetMerkleRoot runtime tipDistributionAddress proof merkleRoot maxTotalClaim
      maxNumNodes
  | (_, .initializeBaseRewardRouter) => self.processInitializeBaseRewardRouter runtime
  | (context, .reallocBaseRewardRouter bump) => self.processReallocBaseRewardRouter context bump
  | (context, .initializeNcnRewardRouter operator ncnFeeGroup bump) =>
    self.processInitializeNcnRewardRouter runtime context operator ncnFeeGroup bump
  | (context, .routeBaseRewards maxIterations) =>
    self.processRouteBaseRewards runtime context maxIterations
  | (_, .routeNcnRewards operator ncnFeeGroup maxIterations) =>
    self.processRouteNcnRewards runtime operator ncnFeeGroup maxIterations
  | (context, .distributeBaseRewards baseFeeGroup baseFeeWallet) =>
    self.processDistributeBaseRewards context baseFeeGroup baseFeeWallet
  | (_, .distributeBaseNcnRewardRoute operator ncnFeeGroup) =>
    self.processDistributeBaseNcnRewardRoute operator ncnFeeGroup
  | (_, .distributeNcnOperatorRewards operator ncnFeeGroup) =>
    self.processDistributeNcnRewards operator ncnFeeGroup
      NcnRewardRouter.processDistributeNcnOperatorRewards
  | (_, .distributeNcnVaultRewards operator vault ncnFeeGroup) =>
    self.processDistributeNcnRewards operator ncnFeeGroup
      fun router => router.processDistributeNcnVaultRewards vault
  | (context, .closeEpochAccount accountToClose daoWallet withReceiver) =>
    self.processCloseEpochAccount runtime context accountToClose daoWallet withReceiver
  | (_, .transferToBaseReceiver lamports) => do
    let lamports ← receiveLamports self.baseRewardReceiver lamports
    return { self with baseRewardReceiver := lamports }
  | (_, .transferToNcnReceiver operator group lamports) => do
    let lamports ← receiveLamports (self.ncnRewardReceivers (operator, group)) lamports
    return self.withNcnReceiver operator group lamports

end EpochAccounts

end TipRouter
