import TipRouter.Clients
import TipRouter.EpochPresence

/-! The last cranks of the keeper, `crank_distribute` and `crank_close_epoch_accounts` of
`cli/src/instructions.rs`. They read the accounts of an epoch as they are and send what is
left to do; most of what fails is written to the log, and the crank goes on with the next. -/
namespace TipRouter
open Clients Runs

/-! ## The client -/

/-- How a call of the client fails. -/
inductive CliError where
  | instruction (failure : InstructionError)
  | program (failure : TipRouterError)
  | accountNotFound
  | accountData
  | ncnRewardRouteNotFound

/-- The accounts of the epoch and how many transactions the client has sent. -/
structure Chain where
  accounts : EpochAccounts
  transactions : ℕ

/-- `CliHandler` with what it reads elsewhere: the count and the list of the NCN's operators
and the bumps of the addresses. The n-th transaction arrives in the n-th context. -/
structure CliHandler where
  runtime : Runtime
  context : ℕ → Context
  operatorCount : ℕ
  operators : List Pubkey
  bump : AccountToClose → ℕ

abbrev Cli := Client Chain CliError

def maxRouteBaseIterations : ℕ := 30
def maxRouteNcnIterations : ℕ := 30

/-- The reallocs after the instruction that creates an account. -/
def numReallocs (size : ℕ) : ℕ := (size + maxReallocBytes - 1) / maxReallocBytes - 1

/-- `BaseRewardRouter::ncn_fee_group_reward_route`. -/
def BaseRewardRouter.ncnFeeGroupRewardRoute (self : BaseRewardRouter) (operator : Pubkey) :
    Except CliError NcnRewardRoute :=
  match Slots.first (fun route => decide (route.operator = operator))
    self.ncnFeeGroupRewardRoutes with
  | some index => .ok self.ncnFeeGroupRewardRoutes[index]
  | none => .error .ncnRewardRouteNotFound

namespace Account

variable {α : Type}

/-- An account as the getters return it. -/
def found : Account α → Except CliError α
  | .missing => .error .accountNotFound
  | .allocated _ => .error .accountData
  | .ready data => .ok data

def isMissing : Account α → Bool
  | .missing => true
  | _ => false

/-- What the client takes for an account that has yet to be created. -/
def isShort (size : ℕ) : Account α → Bool
  | .missing => true
  | .allocated dataLen => decide (dataLen < size)
  | .ready _ => false

end Account

namespace Cli

def getAccount {α : Type} (read : EpochAccounts → Account α) : Cli α := do
  let chain ← Client.get
  Client.ofExcept (read chain.accounts).found

def checkCreated {α : Type} (read : EpochAccounts → Account α) : Cli Unit := do
  let chain ← Client.get
  if (read chain.accounts).isMissing then Client.ofExcept (.error .accountNotFound) else pure ()

/-- What the functions `get_or_create_*` share. -/
def getOrCreate {α : Type} (read : EpochAccounts → Account α) (size : ℕ) (create : Cli Unit) :
    Cli α := do
  let chain ← Client.get
  if (read chain.accounts).isShort size then
    create
    checkCreated read
    getAccount read
  else getAccount read

/-- A result of the program's own functions. -/
def lift {α : Type} (result : Except TipRouterError α) : Cli α :=
  Client.ofExcept (result.mapError .program)

/-- Does something only if there is something to do it for. -/
def doIf (condition : Bool) (program : Cli Unit) : Cli Unit :=
  if condition then program else pure ()

end Cli

open Cli

namespace CliHandler

variable (self : CliHandler)

/-- The instructions of a transaction succeed together or not at all. -/
def sendAndLogTransaction (instructions : List EpochInstruction) : Cli Unit := fun chain =>
  let context := self.context chain.transactions
  match run (EpochAccounts.process self.runtime) (instructions.map (context, ·)) chain.accounts with
  | .ok accounts => (.ok (), ⟨accounts, chain.transactions + 1⟩)
  | .error failure => (.error (.gaveUp (.instruction failure)),
      { chain with transactions := chain.transactions + 1 })

def getTipRouterConfig : Cli Config := do
  let chain ← Client.get
  return (self.context chain.transactions).config

/-- `get_receiver_rewards`, which panics on a receiver that does not hold its rent. -/
def getReceiverRewards (receiver : EpochAccounts → ℕ) : Cli ℕ := do
  let chain ← Client.get
  let lamports := receiver chain.accounts
  if lamports = 0 then Client.ofExcept (.error .accountNotFound)
  else if lamports < self.runtime.rentCost then Client.abort
  else pure (lamports - self.runtime.rentCost)

/-! ## Creating accounts -/

def createEpochSnapshot : Cli Unit :=
  self.sendAndLogTransaction
    [.initializeEpochSnapshot self.operatorCount (self.bump .epochSnapshot)]

def createBaseRewardRouter : Cli Unit := do
  let chain ← Client.get
  doIf chain.accounts.baseRewardRouter.isMissing
    (self.sendAndLogTransaction [.initializeBaseRewardRouter])
  self.sendAndLogTransaction (List.replicate (numReallocs BaseRewardRouter.size)
    (.reallocBaseRewardRouter (self.bump .baseRewardRouter)))

def createNcnRewardRouter (group : NcnFeeGroup) (operator : Pubkey) : Cli Unit :=
  self.sendAndLogTransaction
    [.initializeNcnRewardRouter operator group.group (self.bump (.ncnRewardRouter operator group))]

def getOrCreateEpochSnapshot : Cli EpochSnapshot :=
  getOrCreate (·.epochSnapshot) EpochSnapshot.size self.createEpochSnapshot

def getOrCreateBaseRewardRouter : Cli BaseRewardRouter :=
  getOrCreate (·.baseRewardRouter) BaseRewardRouter.size self.createBaseRewardRouter

def getOrCreateNcnRewardRouter (group : NcnFeeGroup) (operator : Pubkey) : Cli NcnRewardRouter :=
  getOrCreate (·.ncnRewardRouters (operator, group)) NcnRewardRouter.size
    (self.createNcnRewardRouter group operator)

/-! ## Rewards -/

def routeBaseRewards (fuel : ℕ) : Cli Unit :=
  Client.repeatWhile (do
    self.sendAndLogTransaction [.routeBaseRewards maxRouteBaseIterations]
    let router ← getAccount (·.baseRewardRouter)
    return router.stillRouting) fuel

def routeNcnRewards (operator : Pubkey) (group : NcnFeeGroup) (fuel : ℕ) : Cli Unit :=
  Client.repeatWhile (do
    self.sendAndLogTransaction [.routeNcnRewards operator group.group maxRouteNcnIterations]
    let router ← getAccount (·.ncnRewardRouters (operator, group))
    return router.stillRouting) fuel

def distributeBaseRewards (group : BaseFeeGroup) : Cli Unit := do
  let config ← self.getTipRouterConfig
  let wallet ← lift (config.feeConfig.baseFeeWallet group)
  self.sendAndLogTransaction [.distributeBaseRewards group.group wallet]

def distributeBaseNcnRewards (operator : Pubkey) (group : NcnFeeGroup) : Cli Unit :=
  self.sendAndLogTransaction [.distributeBaseNcnRewardRoute operator group.group]

def distributeNcnOperatorRewards (operator : Pubkey) (group : NcnFeeGroup) : Cli Unit :=
  self.sendAndLogTransaction [.distributeNcnOperatorRewards operator group.group]

def distributeNcnVaultRewards (vault operator : Pubkey) (group : NcnFeeGroup) : Cli Unit :=
  self.sendAndLogTransaction [.distributeNcnVaultRewards operator vault group.group]

/-- The body of the first loop of `crank_distribute`. -/
def distributeToBaseGroup (fees : Fees) (baseRewardRouter : BaseRewardRouter)
    (group : BaseFeeGroup) : Cli Unit := do
  let feeBps ← lift (fees.baseFeeBps group)
  if feeBps = 0 then pure ()
  else
    let rewards ← lift (baseRewardRouter.baseFeeGroupReward group)
    doIf (rewards != 0) (Client.logged (self.distributeBaseRewards group))

/-- What `crank_distribute` does for the router of an operator and group once the rewards
of the route have arrived. -/
def distributeNcnRouter (operator : Pubkey) (group : NcnFeeGroup) : Cli Unit :=
  Client.orSkip (self.getOrCreateNcnRewardRouter group operator) fun router =>
  Client.orSkip (doIf (router.operatorRewards != 0)
    (self.distributeNcnOperatorRewards operator group)) fun _ =>
  let vaultsToRoute := (router.vaultRewardRoutes.toList.filter
    fun route => decide (route.vault ≠ .default) && decide (route.rewards > 0)).map (·.vault)
  Client.forEach
    (fun vault => Client.logged (self.distributeNcnVaultRewards vault operator group)) vaultsToRoute

/-- The body of the inner loop of `crank_distribute`. The base router is as it was read
before anything was routed. -/
def distributeToNcnGroup (fees : Fees) (baseRewardRouter : BaseRewardRouter) (fuel : ℕ)
    (operator : Pubkey) (group : NcnFeeGroup) : Cli Unit := do
  let feeBps ← lift (fees.ncnFeeBps group)
  if feeBps = 0 then pure ()
  else
    Client.orSkip (self.getOrCreateNcnRewardRouter group operator) fun _ =>
    Client.orSkip (Client.ofExcept (baseRewardRouter.ncnFeeGroupRewardRoute operator))
      fun route => do
      let rewards ← lift (route.rewards group)
      Client.orSkip (doIf (rewards != 0) (self.distributeBaseNcnRewards operator group)) fun _ => do
        let received ← self.getReceiverRewards (·.ncnRewardReceivers (operator, group))
        Client.orSkip (doIf (decide (received > 0)) (self.routeNcnRewards operator group fuel))
          fun _ => self.distributeNcnRouter operator group

def crankDistribute (fuel : ℕ) : Cli Unit := do
  let epochSnapshot ← self.getOrCreateEpochSnapshot
  let fees := epochSnapshot.fees
  let baseRewardRouter ← self.getOrCreateBaseRewardRouter
  let rewards ← self.getReceiverRewards (·.baseRewardReceiver)
  doIf (decide (rewards > 0)) (self.routeBaseRewards fuel)
  Client.forEach (self.distributeToBaseGroup fees baseRewardRouter) BaseFeeGroup.allGroups
  Client.forEach (fun operator => Client.forEach
    (self.distributeToNcnGroup fees baseRewardRouter fuel operator) NcnFeeGroup.allGroups)
    self.operators

/-! ## Closing -/

def closeEpochAccount (accountToClose : AccountToClose) (withReceiver : Bool) : Cli Unit := do
  let chain ← Client.get
  if chain.accounts.dataIsEmpty accountToClose then pure ()
  else
    let config ← self.getTipRouterConfig
    let daoWallet ← lift (config.feeConfig.baseFeeWallet .dao)
    self.sendAndLogTransaction [.closeEpochAccount accountToClose daoWallet withReceiver]

/-- The accounts in the order in which they are closed, and whether with a receiver. -/
def accountsToClose : List (AccountToClose × Bool) :=
  self.operators.flatMap (fun operator =>
      NcnFeeGroup.allGroups.map fun group => (.ncnRewardRouter operator group, true)) ++
    [(.baseRewardRouter, true), (.ballotBox, false)] ++
    self.operators.map (fun operator => (.operatorSnapshot operator, false)) ++
    [(.epochSnapshot, false), (.weightTable, false), (.epochState, false)]

def crankCloseEpochAccounts (fuel : ℕ) : Cli Unit := do
  Client.logged (self.crankDistribute fuel)
  Client.forEach (fun item => Client.logged (self.closeEpochAccount item.1 item.2))
    self.accountsToClose

end CliHandler

end TipRouter
