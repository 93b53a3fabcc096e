import TipRouter.EpochEffects
import TipRouter.Ledgers

/-! The lamports of an epoch, `core/src/account_payer.rs` and what the instructions
make of it. One account payer buys the rent of every account and gets it back when
the account is closed. The rewards pass through the receivers next to it, to be
deposited with the stake pool or, once a router is closed, left to the DAO. -/
namespace TipRouter
open Runs Ledgers

/-! ## The accounts that hold lamports -/

/-- `SIZE` of the accounts that are created with their full size. -/
def EpochMarker.size : ℕ := 56
def EpochSnapshot.size : ℕ := 537
def NcnRewardRouter.size : ℕ := 2828

/-- The accounts `CloseEpochAccount` can close, and the marker. -/
inductive DataAccount where
  | epochMarker
  | epochState
  | otherEpochState
  | weightTable
  | epochSnapshot
  | operatorSnapshot (operator : Pubkey)
  | ballotBox
  | baseRewardRouter
  | ncnRewardRouter (operator : Pubkey) (group : NcnFeeGroup)
  deriving DecidableEq

/-- The accounts without data that the rewards pass through. -/
inductive Receiver where
  | base
  | ncn (operator : Pubkey) (group : NcnFeeGroup)
  deriving DecidableEq

/-- The router whose rewards a receiver holds. -/
def Receiver.router : Receiver → DataAccount
  | .base => .baseRewardRouter
  | .ncn operator group => .ncnRewardRouter operator group

def DataAccount.isRouter : DataAccount → Bool
  | .baseRewardRouter => true
  | .ncnRewardRouter _ _ => true
  | _ => false

theorem DataAccount.ne_router {account : DataAccount} (other : account.isRouter = false)
    (receiver : Receiver) : account ≠ receiver.router := by
  rintro rfl
  cases receiver <;> cases other

def AccountToClose.account : AccountToClose → DataAccount
  | .epochState => .epochState
  | .otherEpochState => .otherEpochState
  | .weightTable => .weightTable
  | .epochSnapshot => .epochSnapshot
  | .operatorSnapshot operator => .operatorSnapshot operator
  | .ballotBox => .ballotBox
  | .baseRewardRouter => .baseRewardRouter
  | .ncnRewardRouter operator group => .ncnRewardRouter operator group

/-- `SIZE` of an account once it is filled. -/
def DataAccount.size : DataAccount → ℕ
  | .epochMarker => EpochMarker.size
  | .epochState => EpochState.size
  | .otherEpochState => EpochState.size
  | .weightTable => WeightTable.size
  | .epochSnapshot => EpochSnapshot.size
  | .operatorSnapshot _ => OperatorSnapshot.size
  | .ballotBox => BallotBox.size
  | .baseRewardRouter => BaseRewardRouter.size
  | .ncnRewardRouter _ _ => NcnRewardRouter.size

namespace Account

variable {α : Type}

/-- An account apart from what it says. -/
def status : Account α → Account Unit
  | .missing => .missing
  | .allocated dataLen => .allocated dataLen
  | .ready _ => .ready ()

/-- How much data an account has, given the `SIZE` it is filled at. -/
def dataLen (size : ℕ) : Account α → Option ℕ
  | .missing => none
  | .allocated dataLen => some dataLen
  | .ready _ => some size

end Account

namespace EpochAccounts

/-- The accounts of an epoch; the epoch state of another is none of them. -/
def status (self : EpochAccounts) : DataAccount → Account Unit
  | .epochMarker => if self.epochMarker then .ready () else .missing
  | .epochState => self.epochState.status
  | .otherEpochState => .missing
  | .weightTable => self.weightTable.status
  | .epochSnapshot => self.epochSnapshot.status
  | .operatorSnapshot operator => (self.operatorSnapshots operator).status
  | .ballotBox => self.ballotBox.status
  | .baseRewardRouter => self.baseRewardRouter.status
  | .ncnRewardRouter operator group => (self.ncnRewardRouters (operator, group)).status

def dataLen (self : EpochAccounts) (account : DataAccount) : Option ℕ :=
  (self.status account).dataLen account.size

def receiver (self : EpochAccounts) : Receiver → ℕ
  | .base => self.baseRewardReceiver
  | .ncn operator group => self.ncnRewardReceivers (operator, group)

end EpochAccounts

/-! ## The treasury -/

/-- An epoch with the lamports of its accounts, of the account payer and of the DAO
wallet, and what it has deposited with the stake pool. -/
structure Treasury where
  accounts : EpochAccounts
  lamports : DataAccount → ℕ
  accountPayer : ℕ
  daoWallet : ℕ
  deposited : ℕ

/-- The instructions of an epoch, transfers by anyone to one of its accounts or to the
account payer, and what other instructions pay from the latter. -/
inductive TreasuryInstruction where
  | epoch (context : Context) (instruction : EpochInstruction)
  | transferToAccount (account : DataAccount) (lamports : ℕ)
  | transferToPayer (lamports : ℕ)
  | transferFromPayer (lamports : ℕ)

namespace Treasury

/-- `AccountPayer::transfer`. -/
def transfer (self : Treasury) (account : DataAccount) (lamports : ℕ) :
    Except InstructionError Treasury := do
  let accountPayer ← sendLamports self.accountPayer lamports
  let received ← receiveLamports (self.lamports account) lamports
  return { self with
    accountPayer := accountPayer
    lamports := Function.update self.lamports account received }

/-- The payment that `pay_and_create_account` and `pay_and_realloc` share. -/
def payFor (self : Treasury) (minimumBalance : ℕ → ℕ) (account : DataAccount) (space : ℕ) :
    Except InstructionError Treasury :=
  let requiredLamports := minimumBalance space - self.lamports account
  if 0 < requiredLamports then self.transfer account requiredLamports else .ok self

/-- What a realloc instruction pays for, as far as it makes the account larger. -/
def payAndRealloc {α : Type} (self : Treasury) (minimumBalance : ℕ → ℕ) (account : DataAccount)
    (size : ℕ) : Account α → Except InstructionError Treasury
  | .allocated dataLen =>
    if dataLen < size then do
      let newSize ← getNewSize dataLen size
      self.payFor minimumBalance account newSize
    else .ok self
  | _ => .ok self

/-- The transfer of a receiver's rent, from the account payer. -/
def payReceiver (self : Treasury) (rentCost : ℕ) : Except InstructionError Treasury := do
  let accountPayer ← sendLamports self.accountPayer rentCost
  return { self with accountPayer := accountPayer }

/-- `BaseRewardReceiver::close` and `NcnRewardReceiver::close`: the rent goes to the
account payer and everything above it to the DAO. -/
def closeReceiver (self : Treasury) (rentCost lamports : ℕ) : Except InstructionError Treasury := do
  let deltaLamports := lamports - rentCost
  let daoWallet ←
    if 0 < deltaLamports then receiveLamports self.daoWallet deltaLamports
    else .ok self.daoWallet
  let accountPayer ← receiveLamports self.accountPayer rentCost
  return { self with
    accountPayer := accountPayer
    daoWallet := daoWallet }

/-- `AccountPayer::close_account`. -/
def closeAccount (self : Treasury) (account : DataAccount) : Except InstructionError Treasury := do
  let accountPayer ← receiveLamports self.accountPayer (self.lamports account)
  return { self with
    accountPayer := accountPayer
    lamports := Function.update self.lamports account 0 }

/-- What a receiver gives away by depositing it with the stake pool. -/
def deposit (self : Treasury) (accounts : EpochAccounts) (receiver : Receiver) : Treasury :=
  { self with
    deposited := self.deposited + (self.accounts.receiver receiver - accounts.receiver receiver) }

/-- What `CloseEpochAccount` does besides taking the account off the epoch state. -/
def settleClosing (self : Treasury) (runtime : Runtime) (minimumBalance : ℕ → ℕ) :
    AccountToClose → Except InstructionError Treasury
  | .epochState => do
    let paid ← self.payFor minimumBalance .epochMarker EpochMarker.size
    paid.closeAccount .epochState
  | .baseRewardRouter => do
    let emptied ← self.closeReceiver runtime.rentCost (self.accounts.receiver .base)
    emptied.closeAccount .baseRewardRouter
  | .ncnRewardRouter operator group => do
    let emptied ← self.closeReceiver runtime.rentCost (self.accounts.receiver (.ncn operator group))
    emptied.closeAccount (.ncnRewardRouter operator group)
  | accountToClose => self.closeAccount accountToClose.account

/-- The lamports an instruction moves, given the accounts it leaves behind. -/
def settle (self : Treasury) (runtime : Runtime) (minimumBalance : ℕ → ℕ)
    (accounts : EpochAccounts) : EpochInstruction → Except InstructionError Treasury
  | .initializeEpochState => self.payFor minimumBalance .epochState maxReallocBytes
  | .reallocEpochState _ =>
    self.payAndRealloc minimumBalance .epochState EpochState.size self.accounts.epochState
  | .initializeWeightTable _ => self.payFor minimumBalance .weightTable maxReallocBytes
  | .reallocWeightTable _ =>
    self.payAndRealloc minimumBalance .weightTable WeightTable.size self.accounts.weightTable
  | .initializeEpochSnapshot _ _ => self.payFor minimumBalance .epochSnapshot EpochSnapshot.size
  | .initializeOperatorSnapshot operator _ =>
    self.payFor minimumBalance (.operatorSnapshot operator) maxReallocBytes
  | .reallocOperatorSnapshot reading _ =>
    self.payAndRealloc minimumBalance (.operatorSnapshot reading.operator) OperatorSnapshot.size
      (self.accounts.operatorSnapshots reading.operator)
  | .initializeBallotBox => self.payFor minimumBalance .ballotBox maxReallocBytes
  | .reallocBallotBox _ =>
    self.payAndRealloc minimumBalance .ballotBox BallotBox.size self.accounts.ballotBox
  | .initializeBaseRewardRouter => do
    let paid ← self.payFor minimumBalance .baseRewardRouter maxReallocBytes
    paid.payReceiver runtime.rentCost
  | .reallocBaseRewardRouter _ =>
    self.payAndRealloc minimumBalance .baseRewardRouter BaseRewardRouter.size
      self.accounts.baseRewardRouter
  | .initializeNcnRewardRouter operator ncnFeeGroup _ => do
    let group ← NcnFeeGroup.tryFrom ncnFeeGroup
    let paid ← self.payFor minimumBalance (.ncnRewardRouter operator group) NcnRewardRouter.size
    paid.payReceiver runtime.rentCost
  | .distributeBaseRewards _ _ => return self.deposit accounts .base
  | .distributeNcnOperatorRewards operator ncnFeeGroup => do
    let group ← NcnFeeGroup.tryFrom ncnFeeGroup
    return self.deposit accounts (.ncn operator group)
  | .distributeNcnVaultRewards operator _ ncnFeeGroup => do
    let group ← NcnFeeGroup.tryFrom ncnFeeGroup
    return self.deposit accounts (.ncn operator group)
  | .closeEpochAccount accountToClose _ _ =>
    self.settleClosing runtime minimumBalance accountToClose
  | _ => .ok self

/-- `minimumBalance` is `Rent::minimum_balance`. -/
def process (runtime : Runtime) (minimumBalance : ℕ → ℕ) (self : Treasury) :
    TreasuryInstruction → Except InstructionError Treasury
  | .epoch context instruction => do
    let accounts ← self.accounts.process runtime (context, instruction)
    let settled ← self.settle runtime minimumBalance accounts instruction
    return { settled with accounts := accounts }
  | .transferToAccount account lamports => do
    let received ← receiveLamports (self.lamports account) lamports
    return { self with lamports := Function.update self.lamports account received }
  | .transferToPayer lamports => do
    let accountPayer ← receiveLamports self.accountPayer lamports
    return { self with accountPayer := accountPayer }
  | .transferFromPayer lamports => do
    let accountPayer ← sendLamports self.accountPayer lamports
    return { self with accountPayer := accountPayer }

end Treasury

end TipRouter
