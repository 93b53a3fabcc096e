import TipRouter.EpochSnapshot
import TipRouter.KeyedSlots

/-! The reward router of one operator and NCN fee group,
`core/src/ncn_reward_router.rs`, with `program/src/route_ncn_rewards.rs`. What
arrives at the receiver enters a pool, the operator takes its fee, and the rest
is split over the vaults of the operator's snapshot by a loop that can stop
before any vault and resume there. -/
namespace TipRouter
open Runs

/-! ## Routes -/

structure VaultRewardRoute where
  vault : Pubkey
  rewards : ℕ
  deriving DecidableEq

namespace VaultRewardRoute

def default : VaultRewardRoute := ⟨.default, 0⟩

def new (vault : Pubkey) (rewards : ℕ) : Except TipRouterError VaultRewardRoute :=
  .ok ⟨vault, rewards⟩

def incrementRewards (self : VaultRewardRoute) (rewards : ℕ) :
    Except TipRouterError VaultRewardRoute := do
  let newRewards ← okOr (checkedAdd 64 self.rewards rewards) .arithmeticOverflow
  return { self with rewards := newRewards }

def decrementRewards (self : VaultRewardRoute) (rewards : ℕ) :
    Except TipRouterError VaultRewardRoute := do
  let newRewards ← okOr (checkedSub self.rewards rewards) .arithmeticUnderflowError
  return { self with rewards := newRewards }

end VaultRewardRoute

/-! ## The account -/

structure NcnRewardRouter where
  ncnFeeGroup : NcnFeeGroup
  operator : Pubkey
  ncn : Pubkey
  epoch : ℕ
  bump : ℕ
  slotCreated : ℕ
  ncnOperatorIndex : ℕ
  totalRewards : ℕ
  rewardPool : ℕ
  rewardsProcessed : ℕ
  operatorRewards : ℕ
  lastRewardsToProcess : ℕ
  lastVaultOperatorDelegationIndex : ℕ
  vaultRewardRoutes : Vector VaultRewardRoute maxVaults
  deriving DecidableEq

namespace NcnRewardRouter

def noLastRewardsToProcess : ℕ := u64Max
def noLastVaultOperationDelegationIndex : ℕ := u16Max

def new (ncnFeeGroup : NcnFeeGroup) (operator : Pubkey) (operatorNcnIndex : ℕ) (ncn : Pubkey)
    (epoch bump slotCreated : ℕ) : NcnRewardRouter where
  ncnFeeGroup := ncnFeeGroup
  operator := operator
  ncn := ncn
  epoch := epoch
  bump := bump
  slotCreated := slotCreated
  ncnOperatorIndex := operatorNcnIndex
  totalRewards := 0
  rewardPool := 0
  rewardsProcessed := 0
  operatorRewards := 0
  lastRewardsToProcess := noLastRewardsToProcess
  lastVaultOperatorDelegationIndex := noLastVaultOperationDelegationIndex
  vaultRewardRoutes := Vector.replicate maxVaults .default

/-! ## Route state tracking -/

def stillRouting (self : NcnRewardRouter) : Bool :=
  self.lastRewardsToProcess != noLastRewardsToProcess ||
    self.lastVaultOperatorDelegationIndex != noLastVaultOperationDelegationIndex

/-- The rewards to process and the index to start from. -/
def resumeRoutingState (self : NcnRewardRouter) (rewardsToProcess : ℕ) : ℕ × ℕ :=
  if !self.stillRouting then (rewardsToProcess, 0)
  else (self.lastRewardsToProcess, self.lastVaultOperatorDelegationIndex)

def saveRoutingState (self : NcnRewardRouter) (rewardsToProcess vaultOperatorDelegationIndex : ℕ) :
    NcnRewardRouter :=
  { self with
    lastRewardsToProcess := rewardsToProcess
    lastVaultOperatorDelegationIndex := vaultOperatorDelegationIndex % 2 ^ 16 }

def resetRoutingState (self : NcnRewardRouter) : NcnRewardRouter :=
  { self with
    lastRewardsToProcess := noLastRewardsToProcess
    lastVaultOperatorDelegationIndex := noLastVaultOperationDelegationIndex }

/-! ## Counters -/

def totalRewardsInTransit (self : NcnRewardRouter) : Except TipRouterError ℕ :=
  okOr (checkedAdd 64 self.rewardPool self.rewardsProcessed) .arithmeticOverflow

def incrementRewardsProcessed (self : NcnRewardRouter) (rewards : ℕ) :
    Except TipRouterError NcnRewardRouter :=
  if rewards = 0 then .ok self
  else do
    let rewardsProcessed ← okOr (checkedAdd 64 self.rewardsProcessed rewards) .arithmeticOverflow
    return { self with rewardsProcessed := rewardsProcessed }

def decrementRewardsProcessed (self : NcnRewardRouter) (rewards : ℕ) :
    Except TipRouterError NcnRewardRouter :=
  if rewards = 0 then .ok self
  else do
    let rewardsProcessed ← okOr (checkedSub self.rewardsProcessed rewards) .arithmeticUnderflowError
    return { self with rewardsProcessed := rewardsProcessed }

def routeToRewardPool (self : NcnRewardRouter) (rewards : ℕ) :
    Except TipRouterError NcnRewardRouter :=
  if rewards = 0 then .ok self
  else do
    let totalRewards ← okOr (checkedAdd 64 self.totalRewards rewards) .arithmeticOverflow
    let rewardPool ← okOr (checkedAdd 64 self.rewardPool rewards) .arithmeticOverflow
    return { self with totalRewards := totalRewards, rewardPool := rewardPool }

def routeFromRewardPool (self : NcnRewardRouter) (rewards : ℕ) :
    Except TipRouterError NcnRewardRouter :=
  if rewards = 0 then .ok self
  else do
    let rewardPool ← okOr (checkedSub self.rewardPool rewards) .arithmeticUnderflowError
    let self := { self with rewardPool := rewardPool }
    self.incrementRewardsProcessed rewards

/-! ## Balances -/

def routeToOperatorRewards (self : NcnRewardRouter) (rewards : ℕ) :
    Except TipRouterError NcnRewardRouter :=
  if rewards = 0 then .ok self
  else do
    let operatorRewards ← okOr (checkedAdd 64 self.operatorRewards rewards) .arithmeticOverflow
    return { self with operatorRewards := operatorRewards }

/-- The rewards taken out, and the router without them. -/
def distributeOperatorRewards (self : NcnRewardRouter) :
    Except TipRouterError (ℕ × NcnRewardRouter) := do
  let rewards := self.operatorRewards
  let operatorRewards ← okOr (checkedSub self.operatorRewards rewards) .arithmeticUnderflowError
  let self := { self with operatorRewards := operatorRewards }
  let self ← self.decrementRewardsProcessed rewards
  return (rewards, self)

/-- The route of the vault if there is one, the first empty route otherwise. -/
def routeToVaultRewardRoute (self : NcnRewardRouter) (vault : Pubkey) (rewards : ℕ) :
    Except TipRouterError NcnRewardRouter :=
  if rewards = 0 then .ok self
  else do
    let routes ← Slots.upsert VaultRewardRoute.vault .default vault
      (fun route => route.incrementRewards rewards) (VaultRewardRoute.new vault rewards)
      .operatorRewardListFull self.vaultRewardRoutes
    return { self with vaultRewardRoutes := routes }

/-- The rewards taken out, and the router without them. -/
def distributeVaultRewardRoute (self : NcnRewardRouter) (vault : Pubkey) :
    Except TipRouterError (ℕ × NcnRewardRouter) :=
  match Slots.first (fun route => route.vault == vault) self.vaultRewardRoutes with
  | some routeIndex => do
    let rewards := self.vaultRewardRoutes[routeIndex].rewards
    let route ← self.vaultRewardRoutes[routeIndex].decrementRewards rewards
    let self := { self with vaultRewardRoutes := self.vaultRewardRoutes.put routeIndex route }
    let self ← self.decrementRewardsProcessed rewards
    return (rewards, self)
  | none => .error .operatorRewardNotFound

/-! ## Calculations -/

def calculateOperatorReward (spl : SplMath) (feeBps rewardsToProcess : ℕ) :
    Except TipRouterError ℕ :=
  if feeBps = 0 ∨ rewardsToProcess = 0 then .ok 0
  else preciseShare spl feeBps maxBps rewardsToProcess

def calculateVaultReward (spl : SplMath)
    (vaultRewardStakeWeight operatorRewardStakeWeight rewardsToProcess : ℕ) :
    Except TipRouterError ℕ :=
  if operatorRewardStakeWeight = 0 ∨ rewardsToProcess = 0 then .ok 0
  else preciseShare spl vaultRewardStakeWeight operatorRewardStakeWeight rewardsToProcess

/-! ## Routing -/

def routeIncomingRewards (self : NcnRewardRouter) (rentCost accountBalance : ℕ) :
    Except TipRouterError NcnRewardRouter := do
  let totalRewards ← self.totalRewardsInTransit
  let incomingRewards ← okOr (checkedSub accountBalance totalRewards) .arithmeticUnderflowError
  let rewardsToRoute ← okOr (checkedSub incomingRewards rentCost) .arithmeticUnderflowError
  self.routeToRewardPool rewardsToRoute

def routeOperatorRewards (spl : SplMath) (self : NcnRewardRouter)
    (operatorSnapshot : OperatorSnapshot) : Except TipRouterError NcnRewardRouter := do
  let rewardsToProcess := self.rewardPool
  let operatorRewards ←
    calculateOperatorReward spl operatorSnapshot.operatorFeeBps rewardsToProcess
  let self ← self.routeFromRewardPool operatorRewards
  self.routeToOperatorRewards operatorRewards

/-- The body of the loop of `route_reward_pool`. -/
def routeVault (spl : SplMath) (operatorStakeWeight : StakeWeights) (rewardsToProcess : ℕ)
    (self : NcnRewardRouter) (delegation : VaultOperatorStakeWeight) :
    Except TipRouterError NcnRewardRouter := do
  let vaultRewardStakeWeight ← delegation.stakeWeights.ncnFeeGroupStakeWeight self.ncnFeeGroup
  let operatorRewardStakeWeight ← operatorStakeWeight.ncnFeeGroupStakeWeight self.ncnFeeGroup
  let vaultReward ← calculateVaultReward spl vaultRewardStakeWeight operatorRewardStakeWeight
    rewardsToProcess
  let self ← self.routeFromRewardPool vaultReward
  self.routeToVaultRewardRoute delegation.vault vaultReward

/-- How the loop ends: all vaults seen, or the state saved before a vault. -/
inductive VaultsRouted where
  | finished (router : NcnRewardRouter)
  | saved (router : NcnRewardRouter)

/-- The loop of `route_reward_pool`, over the delegations from a starting index on. -/
def routeVaults (spl : SplMath) (operatorStakeWeight : StakeWeights)
    (maxIterations rewardsToProcess : ℕ) :
    List (VaultOperatorStakeWeight × ℕ) → NcnRewardRouter → ℕ → Except TipRouterError VaultsRouted
  | [], self, _ => .ok (.finished self)
  | (delegation, vaultOperatorDelegationIndex) :: rest, self, iterations => do
    let iterations ← okOr (checkedAdd 16 iterations 1) .arithmeticOverflow
    if iterations > maxIterations then
      return .saved (self.saveRoutingState rewardsToProcess vaultOperatorDelegationIndex)
    else
      let self ← self.routeVault spl operatorStakeWeight rewardsToProcess delegation
      routeVaults spl operatorStakeWeight maxIterations rewardsToProcess rest self iterations

/-- The operator gets what the vaults left. -/
def routeLeftover (self : NcnRewardRouter) : Except TipRouterError NcnRewardRouter := do
  let leftoverRewards := self.rewardPool
  let self ← self.routeFromRewardPool leftoverRewards
  self.routeToOperatorRewards leftoverRewards

def routeRewardPool (spl : SplMath) (self : NcnRewardRouter) (operatorSnapshot : OperatorSnapshot)
    (maxIterations : ℕ) : Except TipRouterError NcnRewardRouter :=
  let (rewardsToProcess, startingVaultOperatorDelegationIndex) :=
    self.resumeRoutingState self.rewardPool
  if rewardsToProcess = 0 then .ok self
  else do
    match ← routeVaults spl operatorSnapshot.stakeWeights (max maxIterations 1) rewardsToProcess
      (operatorSnapshot.vaultOperatorStakeWeight.toList.zipIdx.drop
        startingVaultOperatorDelegationIndex) self 0 with
    | .saved self => return self
    | .finished self => self.resetRoutingState.routeLeftover

/-- What `process_route_ncn_rewards` does unless a routing is interrupted. -/
def startRouting (spl : SplMath) (self : NcnRewardRouter) (operatorSnapshot : OperatorSnapshot)
    (rentCost accountBalance : ℕ) : Except TipRouterError NcnRewardRouter :=
  if self.stillRouting then .ok self
  else do
    let self ← self.routeIncomingRewards rentCost accountBalance
    self.routeOperatorRewards spl operatorSnapshot

/-- `process_route_ncn_rewards`, as far as it changes the router. -/
def processRouteNcnRewards (spl : SplMath) (self : NcnRewardRouter)
    (operatorSnapshot : OperatorSnapshot) (rentCost accountBalance maxIterations : ℕ) :
    Except TipRouterError NcnRewardRouter := do
  let self ← self.startRouting spl operatorSnapshot rentCost accountBalance
  self.routeRewardPool spl operatorSnapshot maxIterations

/-- `process_distribute_ncn_operator_rewards`: the lamports to send and the router
without them. -/
def processDistributeNcnOperatorRewards (self : NcnRewardRouter) :
    Except TipRouterError (ℕ × NcnRewardRouter) :=
  if self.stillRouting then .error .routerStillRouting
  else self.distributeOperatorRewards

/-- `process_distribute_ncn_vault_rewards`, likewise. -/
def processDistributeNcnVaultRewards (self : NcnRewardRouter) (vault : Pubkey) :
    Except TipRouterError (ℕ × NcnRewardRouter) :=
  if self.stillRouting then .error .routerStillRouting
  else self.distributeVaultRewardRoute vault

end NcnRewardRouter

/-! ## What each mutator does -/

/-- One route for a vault, and nothing in the routes of the empty key. -/
structure VaultRouteTable (routes : Vector VaultRewardRoute maxVaults) : Prop where
  distinct : ∀ i j : Fin maxVaults, routes[i].vault ≠ .default →
    routes[j].vault ≠ .default → routes[i].vault = routes[j].vault → i = j
  blank : ∀ i : Fin maxVaults, routes[i].vault = .default → routes[i].rewards = 0

/-- The routes after rewards of a vault were added. -/
def VaultRouteAdded (routes next : Vector VaultRewardRoute maxVaults) (vault : Pubkey)
    (rewards : ℕ) : Prop :=
  (rewards = 0 ∧ next = routes) ∨
    ∃ i : Fin maxVaults, next = routes.put i ⟨vault, routes[i].rewards + rewards⟩ ∧
      (routes[i].vault = vault ∨
        (routes[i].vault = .default ∧ ∀ j : Fin maxVaults, routes[j].vault ≠ vault))

theorem VaultRouteAdded.table {routes next : Vector VaultRewardRoute maxVaults} {vault : Pubkey}
    {rewards : ℕ} (added : VaultRouteAdded routes next vault rewards)
    (table : VaultRouteTable routes) (loaded : vault ≠ .default) : VaultRouteTable next := by
  rcases added with ⟨-, rfl⟩ | ⟨i, rfl, own⟩
  · exact table
  · constructor
    · apply Slots.distinct_put (fun route : VaultRewardRoute => route.vault ≠ .default)
        VaultRewardRoute.vault table.distinct
      intro _ j other used same
      rcases own with own | ⟨-, absent⟩
      · exact other (table.distinct j i used (own.trans_ne loaded) (same.trans own.symm))
      · exact absent j same
    · apply Slots.forall_put
        (P := fun _ (route : VaultRewardRoute) => route.vault = .default → route.rewards = 0)
      · intro empty
        exact absurd empty loaded
      · intro j _
        exact table.blank j

theorem VaultRouteAdded.total_eq {routes next : Vector VaultRewardRoute maxVaults} {vault : Pubkey}
    {rewards : ℕ} (added : VaultRouteAdded routes next vault rewards) :
    Slots.total VaultRewardRoute.rewards next =
      Slots.total VaultRewardRoute.rewards routes + rewards := by
  rcases added with ⟨rfl, rfl⟩ | ⟨i, rfl, -⟩
  · rw [Nat.add_zero]
  · have written : Slots.total VaultRewardRoute.rewards
        (routes.put i ⟨vault, routes[i].rewards + rewards⟩) + routes[i].rewards =
        Slots.total VaultRewardRoute.rewards routes + (routes[i].rewards + rewards) :=
      Slots.total_put i _
    omega

namespace NcnRewardRouter
variable {router next : NcnRewardRouter} {rewards : ℕ}

theorem routeToRewardPool_eq_ok (routed : router.routeToRewardPool rewards = .ok next) :
    next = { router with
      totalRewards := router.totalRewards + rewards
      rewardPool := router.rewardPool + rewards } := by
  unfold routeToRewardPool at routed
  split at routed
  · rename_i nothing
    cases routed
    simp [nothing]
  · simp only [bind_eq_ok, okOr_eq_ok_iff, checkedAdd_eq_some_iff, pure_eq_ok_iff] at routed
    obtain ⟨_, ⟨-, rfl⟩, _, ⟨-, rfl⟩, rfl⟩ := routed
    rfl

theorem routeIncomingRewards_eq_ok {rentCost accountBalance : ℕ}
    (routed : router.routeIncomingRewards rentCost accountBalance = .ok next) :
    ∃ incoming, incoming + (rentCost + router.rewardPool + router.rewardsProcessed) =
        accountBalance ∧
      next = { router with
        totalRewards := router.totalRewards + incoming
        rewardPool := router.rewardPool + incoming } := by
  simp only [routeIncomingRewards, totalRewardsInTransit, bind_eq_ok, okOr_eq_ok_iff,
    checkedAdd_eq_some_iff, checkedSub_eq_some_iff] at routed
  obtain ⟨_, ⟨-, rfl⟩, _, ⟨covered, rfl⟩, _, ⟨rent, rfl⟩, pooled⟩ := routed
  exact ⟨_, by omega, routeToRewardPool_eq_ok pooled⟩

theorem routeFromRewardPool_eq_ok (routed : router.routeFromRewardPool rewards = .ok next) :
    rewards ≤ router.rewardPool ∧
      next = { router with
        rewardPool := router.rewardPool - rewards
        rewardsProcessed := router.rewardsProcessed + rewards } := by
  unfold routeFromRewardPool at routed
  split at routed
  · rename_i nothing
    cases routed
    simp [nothing]
  · rename_i something
    simp only [incrementRewardsProcessed, if_neg something, bind_eq_ok, okOr_eq_ok_iff,
      checkedAdd_eq_some_iff, checkedSub_eq_some_iff, pure_eq_ok_iff] at routed
    obtain ⟨_, ⟨covered, rfl⟩, _, ⟨-, rfl⟩, rfl⟩ := routed
    exact ⟨covered, rfl⟩

theorem routeToOperatorRewards_eq_ok (routed : router.routeToOperatorRewards rewards = .ok next) :
    next = { router with operatorRewards := router.operatorRewards + rewards } := by
  unfold routeToOperatorRewards at routed
  split at routed
  · rename_i nothing
    cases routed
    simp [nothing]
  · simp only [bind_eq_ok, okOr_eq_ok_iff, checkedAdd_eq_some_iff, pure_eq_ok_iff] at routed
    obtain ⟨_, ⟨-, rfl⟩, rfl⟩ := routed
    rfl

theorem routeToVaultRewardRoute_eq_ok {vault : Pubkey}
    (routed : router.routeToVaultRewardRoute vault rewards = .ok next)
    (table : VaultRouteTable router.vaultRewardRoutes) :
    ∃ routes, VaultRouteAdded router.vaultRewardRoutes routes vault rewards ∧
      next = { router with vaultRewardRoutes := routes } := by
  unfold routeToVaultRewardRoute at routed
  split at routed
  · rename_i nothing
    cases routed
    exact ⟨_, .inl ⟨nothing, rfl⟩, rfl⟩
  · obtain ⟨routes, written, same⟩ := bind_eq_ok.mp routed
    cases same
    refine ⟨routes, .inr ?_, rfl⟩
    obtain ⟨i, route, rfl, ⟨own, changed⟩ | ⟨empty, absent, created⟩⟩ := Slots.upsert_eq_ok written
    · simp only [VaultRewardRoute.incrementRewards, bind_eq_ok, okOr_eq_ok_iff,
        checkedAdd_eq_some_iff, pure_eq_ok_iff] at changed
      obtain ⟨_, ⟨-, rfl⟩, rfl⟩ := changed
      exact ⟨i, by rw [own], .inl own⟩
    · cases created
      refine ⟨i, ?_, .inr ⟨empty, absent⟩⟩
      rw [table.blank i empty, Nat.zero_add]

theorem decrementRewardsProcessed_eq_ok
    (lowered : router.decrementRewardsProcessed rewards = .ok next) :
    rewards ≤ router.rewardsProcessed ∧
      next = { router with rewardsProcessed := router.rewardsProcessed - rewards } := by
  unfold decrementRewardsProcessed at lowered
  split at lowered
  · rename_i nothing
    cases lowered
    simp [nothing]
  · simp only [bind_eq_ok, okOr_eq_ok_iff, checkedSub_eq_some_iff, pure_eq_ok_iff] at lowered
    obtain ⟨_, ⟨covered, rfl⟩, rfl⟩ := lowered
    exact ⟨covered, rfl⟩

theorem distributeOperatorRewards_eq_ok
    (taken : router.distributeOperatorRewards = .ok (rewards, next)) :
    rewards = router.operatorRewards ∧ rewards ≤ router.rewardsProcessed ∧
      next = { router with
        operatorRewards := 0
        rewardsProcessed := router.rewardsProcessed - rewards } := by
  simp only [distributeOperatorRewards, bind_eq_ok, okOr_eq_ok_iff, checkedSub_eq_some_iff,
    pure_eq_ok_iff, Prod.mk.injEq] at taken
  obtain ⟨_, ⟨-, rfl⟩, lowered, decremented, rfl, rfl⟩ := taken
  obtain ⟨covered, rfl⟩ := decrementRewardsProcessed_eq_ok decremented
  exact ⟨rfl, covered, by rw [Nat.sub_self]⟩

theorem distributeVaultRewardRoute_eq_ok {vault : Pubkey}
    (taken : router.distributeVaultRewardRoute vault = .ok (rewards, next)) :
    ∃ i : Fin maxVaults, router.vaultRewardRoutes[i].vault = vault ∧
      rewards = router.vaultRewardRoutes[i].rewards ∧ rewards ≤ router.rewardsProcessed ∧
      next = { router with
        vaultRewardRoutes := router.vaultRewardRoutes.put i ⟨vault, 0⟩
        rewardsProcessed := router.rewardsProcessed - rewards } := by
  unfold distributeVaultRewardRoute at taken
  split at taken
  · rename_i i found
    obtain ⟨here, -⟩ := Slots.first_eq_some_iff.mp found
    have own := beq_iff_eq.mp here
    simp only [VaultRewardRoute.decrementRewards, bind_eq_ok, okOr_eq_ok_iff,
      checkedSub_eq_some_iff, pure_eq_ok_iff, Prod.mk.injEq] at taken
    obtain ⟨_, ⟨_, ⟨-, rfl⟩, rfl⟩, lowered, decremented, rfl, rfl⟩ := taken
    obtain ⟨covered, rfl⟩ := decrementRewardsProcessed_eq_ok decremented
    refine ⟨i, own, rfl, covered, ?_⟩
    rw [Nat.sub_self, ← own]
  · cases taken

/-! ## When they succeed -/

theorem routeToRewardPool_of_fits (total : router.totalRewards + rewards < 2 ^ 64)
    (pool : router.rewardPool + rewards < 2 ^ 64) :
    ∃ next, router.routeToRewardPool rewards = .ok next := by
  unfold routeToRewardPool
  by_cases nothing : rewards = 0
  · rw [if_pos nothing]
    exact ⟨router, rfl⟩
  · rw [if_neg nothing, checkedAdd_of_lt total, checkedAdd_of_lt pool]
    exact ⟨_, rfl⟩

theorem routeIncomingRewards_of_covered {rentCost accountBalance : ℕ}
    (covered : rentCost + router.rewardPool + router.rewardsProcessed ≤ accountBalance)
    (total : router.totalRewards ≤ router.rewardPool + router.rewardsProcessed)
    (fits : accountBalance < 2 ^ 64) :
    ∃ next, router.routeIncomingRewards rentCost accountBalance = .ok next := by
  have transit : router.rewardPool + router.rewardsProcessed < 2 ^ 64 := by omega
  unfold routeIncomingRewards totalRewardsInTransit
  rw [checkedAdd_of_lt transit, okOr_some, ok_bind, checkedSub_of_le (by omega), okOr_some, ok_bind,
    checkedSub_of_le (by omega), okOr_some, ok_bind]
  exact routeToRewardPool_of_fits (by omega) (by omega)

theorem routeFromRewardPool_of_le (covered : rewards ≤ router.rewardPool)
    (fits : router.rewardsProcessed + rewards < 2 ^ 64) :
    ∃ next, router.routeFromRewardPool rewards = .ok next := by
  unfold routeFromRewardPool incrementRewardsProcessed
  by_cases nothing : rewards = 0
  · rw [if_pos nothing]
    exact ⟨router, rfl⟩
  · rw [if_neg nothing, checkedSub_of_le covered, okOr_some, ok_bind, if_neg nothing,
      checkedAdd_of_lt fits]
    exact ⟨_, rfl⟩

theorem routeToOperatorRewards_of_fits (fits : router.operatorRewards + rewards < 2 ^ 64) :
    ∃ next, router.routeToOperatorRewards rewards = .ok next := by
  unfold routeToOperatorRewards
  by_cases nothing : rewards = 0
  · rw [if_pos nothing]
    exact ⟨router, rfl⟩
  · rw [if_neg nothing, checkedAdd_of_lt fits]
    exact ⟨_, rfl⟩

/-- Rewards for one of at most 64 vaults always find a route. -/
theorem routeToVaultRewardRoute_of_owner {owners : Finset Pubkey} {vault : Pubkey}
    (few : owners.card ≤ maxVaults) (owner : vault ∈ owners)
    (table : VaultRouteTable router.vaultRewardRoutes)
    (owned : ∀ i : Fin maxVaults, router.vaultRewardRoutes[i].vault ≠ .default →
      router.vaultRewardRoutes[i].vault ∈ owners)
    (fits : ∀ i : Fin maxVaults, router.vaultRewardRoutes[i].rewards + rewards < 2 ^ 64) :
    ∃ next, router.routeToVaultRewardRoute vault rewards = .ok next := by
  unfold routeToVaultRewardRoute
  by_cases nothing : rewards = 0
  · rw [if_pos nothing]
    exact ⟨router, rfl⟩
  · rw [if_neg nothing]
    obtain ⟨routes, upserted⟩ : ∃ routes, Slots.upsert VaultRewardRoute.vault .default vault
        (fun route => route.incrementRewards rewards) (VaultRewardRoute.new vault rewards)
        TipRouterError.operatorRewardListFull router.vaultRewardRoutes = .ok routes := by
      apply Slots.upsert_ok
      · intro i _
        refine ⟨⟨router.vaultRewardRoutes[i].vault, router.vaultRewardRoutes[i].rewards + rewards⟩, ?_⟩
        rw [VaultRewardRoute.incrementRewards, checkedAdd_of_lt (fits i)]
        rfl
      · exact ⟨_, rfl⟩
      · intro absent
        exact Slots.exists_empty few table.distinct owned owner absent
    rw [upserted]
    exact ⟨_, rfl⟩

end NcnRewardRouter

end TipRouter
