import TipRouter.Accounts
import TipRouter.Fees
import TipRouter.WeightTable

/-! The epoch snapshot and the operator snapshots, `core/src/epoch_snapshot.rs`.
An operator snapshot collects the stake weights of the operator's vaults; once
it has all of them it is added to the epoch snapshot, whose total is what votes
are measured against. -/
namespace TipRouter
open Runs

/-! ## The epoch snapshot -/

structure EpochSnapshot where
  ncn : Pubkey
  epoch : ℕ
  bump : ℕ
  slotCreated : ℕ
  slotFinalized : ℕ
  fees : Fees
  operatorCount : ℕ
  vaultCount : ℕ
  operatorsRegistered : ℕ
  validOperatorVaultDelegations : ℕ
  stakeWeights : StakeWeights
  deriving DecidableEq

namespace EpochSnapshot

def new (ncn : Pubkey) (ncnEpoch bump currentSlot : ℕ) (fees : Fees)
    (operatorCount vaultCount : ℕ) : EpochSnapshot where
  ncn := ncn
  epoch := ncnEpoch
  slotCreated := currentSlot
  slotFinalized := 0
  bump := bump
  fees := fees
  operatorCount := operatorCount
  vaultCount := vaultCount
  operatorsRegistered := 0
  validOperatorVaultDelegations := 0
  stakeWeights := .default

def finalized (self : EpochSnapshot) : Bool := self.operatorsRegistered == self.operatorCount

def incrementOperatorRegistration (self : EpochSnapshot) (currentSlot vaultOperatorDelegations : ℕ)
    (stakeWeight : StakeWeights) : Except TipRouterError EpochSnapshot :=
  if self.finalized then .error .operatorFinalized
  else do
    let operatorsRegistered ← okOr (checkedAdd 64 self.operatorsRegistered 1) .arithmeticOverflow
    let validOperatorVaultDelegations ←
      okOr (checkedAdd 64 self.validOperatorVaultDelegations vaultOperatorDelegations)
        .arithmeticOverflow
    let stakeWeights ← self.stakeWeights.increment stakeWeight
    let self := { self with
      operatorsRegistered := operatorsRegistered
      validOperatorVaultDelegations := validOperatorVaultDelegations
      stakeWeights := stakeWeights }
    return if self.finalized then { self with slotFinalized := currentSlot } else self

end EpochSnapshot

/-! ## Operator snapshots -/

structure VaultOperatorStakeWeight where
  vault : Pubkey
  vaultIndex : ℕ
  ncnFeeGroup : NcnFeeGroup
  stakeWeight : StakeWeights
  deriving DecidableEq

namespace VaultOperatorStakeWeight

def default : VaultOperatorStakeWeight where
  vault := .default
  ncnFeeGroup := .default
  vaultIndex := u64Max
  stakeWeight := .default

def new (vault : Pubkey) (vaultIndex : ℕ) (ncnFeeGroup : NcnFeeGroup) (stakeWeight : StakeWeights) :
    VaultOperatorStakeWeight where
  vault := vault
  vaultIndex := vaultIndex
  ncnFeeGroup := ncnFeeGroup
  stakeWeight := stakeWeight

def isEmpty (self : VaultOperatorStakeWeight) : Bool := self.vaultIndex == u64Max

def stakeWeights (self : VaultOperatorStakeWeight) : StakeWeights := self.stakeWeight

end VaultOperatorStakeWeight

structure OperatorSnapshot where
  operator : Pubkey
  ncn : Pubkey
  ncnEpoch : ℕ
  bump : ℕ
  slotCreated : ℕ
  slotFinalized : ℕ
  isActive : Bool
  ncnOperatorIndex : ℕ
  operatorIndex : ℕ
  operatorFeeBps : ℕ
  vaultOperatorDelegationCount : ℕ
  vaultOperatorDelegationsRegistered : ℕ
  validOperatorVaultDelegations : ℕ
  stakeWeights : StakeWeights
  vaultOperatorStakeWeight : Vector VaultOperatorStakeWeight maxVaults
  deriving DecidableEq

namespace OperatorSnapshot

/-- `OperatorSnapshot::SIZE`. -/
def size : ℕ := 14428

/-- `OperatorSnapshot::initialize`: an inactive operator has no fee and no vaults
to wait for, and is finalized at once. -/
def initializeSnapshot (operator ncn : Pubkey) (ncnEpoch bump currentSlot : ℕ) (isActive : Bool)
    (ncnOperatorIndex operatorIndex operatorFeeBps vaultOperatorDelegationCount : ℕ) :
    Except TipRouterError OperatorSnapshot :=
  if maxVaults < vaultOperatorDelegationCount then .error .tooManyVaultOperatorDelegations
  else .ok
    { operator := operator
      ncn := ncn
      ncnEpoch := ncnEpoch
      bump := bump
      slotCreated := currentSlot
      slotFinalized := if !isActive then currentSlot else 0
      isActive := isActive
      ncnOperatorIndex := ncnOperatorIndex
      operatorIndex := operatorIndex
      operatorFeeBps := if isActive then operatorFeeBps else 0
      vaultOperatorDelegationCount := if isActive then vaultOperatorDelegationCount else 0
      vaultOperatorDelegationsRegistered := 0
      validOperatorVaultDelegations := 0
      stakeWeights := .default
      vaultOperatorStakeWeight := Vector.replicate maxVaults .default }

def finalized (self : OperatorSnapshot) : Bool :=
  self.vaultOperatorDelegationsRegistered == self.vaultOperatorDelegationCount

def containsVaultIndex (self : OperatorSnapshot) (vaultIndex : ℕ) : Bool :=
  (Slots.first (fun entry => decide (entry.vaultIndex = vaultIndex))
    self.vaultOperatorStakeWeight).isSome

/-- The array is written after the bound check, so the write is in bounds. -/
def insertVaultOperatorStakeWeight (self : OperatorSnapshot) (vault : Pubkey) (vaultIndex : ℕ)
    (ncnFeeGroup : NcnFeeGroup) (stakeWeights : StakeWeights) :
    Except TipRouterError OperatorSnapshot := do
  let _ ← okOr (checkedAdd 64 self.vaultOperatorDelegationsRegistered 1) .arithmeticOverflow
  if full : maxVaults < self.vaultOperatorDelegationsRegistered + 1 then
    .error .tooManyVaultOperatorDelegations
  else if self.containsVaultIndex vaultIndex then .error .duplicateVaultOperatorDelegation
  else
    return { self with
      vaultOperatorStakeWeight := self.vaultOperatorStakeWeight.put
        ⟨self.vaultOperatorDelegationsRegistered, Nat.le_of_not_lt full⟩
        (.new vault vaultIndex ncnFeeGroup stakeWeights) }

def incrementVaultOperatorDelegationRegistration (self : OperatorSnapshot) (currentSlot : ℕ)
    (vault : Pubkey) (vaultIndex : ℕ) (ncnFeeGroup : NcnFeeGroup) (stakeWeights : StakeWeights) :
    Except TipRouterError OperatorSnapshot :=
  if self.finalized then .error .vaultOperatorDelegationFinalized
  else do
    let self ← self.insertVaultOperatorStakeWeight vault vaultIndex ncnFeeGroup stakeWeights
    let vaultOperatorDelegationsRegistered ←
      okOr (checkedAdd 64 self.vaultOperatorDelegationsRegistered 1) .arithmeticOverflow
    let validOperatorVaultDelegations ←
      (if 0 < stakeWeights.stakeWeight then
        okOr (checkedAdd 64 self.validOperatorVaultDelegations 1) .arithmeticOverflow
      else .ok self.validOperatorVaultDelegations)
    let stakeWeights ← self.stakeWeights.increment stakeWeights
    let self := { self with
      vaultOperatorDelegationsRegistered := vaultOperatorDelegationsRegistered
      validOperatorVaultDelegations := validOperatorVaultDelegations
      stakeWeights := stakeWeights }
    return if self.finalized then { self with slotFinalized := currentSlot } else self

/-- `calculate_total_stake_weight`, given the delegation's total security. -/
def calculateTotalStakeWeight (spl : SplMath) (totalSecurity : ℕ) (weightTable : WeightTable)
    (stMint : Pubkey) : Except TipRouterError ℕ := do
  let preciseTotalSecurity ← okOr (spl.new totalSecurity) .newPreciseNumberError
  let weight ← weightTable.getWeight stMint
  let preciseWeight ← okOr (spl.new weight) .newPreciseNumberError
  let preciseTotalStakeWeight ←
    okOr (spl.checkedMul preciseTotalSecurity preciseWeight) .arithmeticOverflow
  okOr (spl.toImprecise preciseTotalStakeWeight) .castToImpreciseNumberError

end OperatorSnapshot

/-! ## What registering does -/

section Registration
variable {epochSnapshot next : EpochSnapshot} {stakeWeights : StakeWeights}

theorem EpochSnapshot.incrementOperatorRegistration_eq_ok {currentSlot delegations : ℕ}
    (registered : epochSnapshot.incrementOperatorRegistration currentSlot delegations stakeWeights =
      .ok next) :
    epochSnapshot.finalized = false ∧
      next.operatorsRegistered = epochSnapshot.operatorsRegistered + 1 ∧
      next.validOperatorVaultDelegations =
        epochSnapshot.validOperatorVaultDelegations + delegations ∧
      (∀ component, next.stakeWeights.get component =
        epochSnapshot.stakeWeights.get component + stakeWeights.get component) ∧
      next.operatorCount = epochSnapshot.operatorCount ∧
      next.vaultCount = epochSnapshot.vaultCount := by
  unfold incrementOperatorRegistration at registered
  split at registered
  · cases registered
  rename_i pending
  simp only [bind_eq_ok, okOr_eq_ok_iff, checkedAdd_eq_some_iff, pure_eq_ok_iff] at registered
  obtain ⟨_, ⟨-, rfl⟩, _, ⟨-, rfl⟩, weights, added, rfl⟩ := registered
  have sums := fun component => (StakeWeights.increment_get added component).1
  split <;> exact ⟨by simpa using pending, rfl, rfl, sums, rfl, rfl⟩

end Registration

namespace OperatorSnapshot
variable {snapshot next : OperatorSnapshot} {stakeWeights : StakeWeights}

theorem initializeSnapshot_eq_ok {operator ncn : Pubkey} {ncnEpoch bump currentSlot : ℕ}
    {isActive : Bool} {ncnOperatorIndex operatorIndex operatorFeeBps delegations : ℕ}
    (initialized : initializeSnapshot operator ncn ncnEpoch bump currentSlot isActive
      ncnOperatorIndex operatorIndex operatorFeeBps delegations = .ok snapshot) :
    snapshot.vaultOperatorDelegationsRegistered = 0 ∧
      snapshot.vaultOperatorDelegationCount = (if isActive then delegations else 0) ∧
      snapshot.vaultOperatorDelegationCount ≤ maxVaults ∧
      snapshot.validOperatorVaultDelegations = 0 ∧ snapshot.stakeWeights = .default ∧
      snapshot.vaultOperatorStakeWeight = Vector.replicate maxVaults .default ∧
      snapshot.operator = operator ∧ snapshot.ncnOperatorIndex = ncnOperatorIndex := by
  unfold initializeSnapshot at initialized
  split at initialized
  · cases initialized
  rename_i few
  cases initialized
  refine ⟨rfl, rfl, ?_, rfl, rfl, rfl, rfl, rfl⟩
  dsimp only
  split <;> omega

/-- A registration fills the next slot with a vault that has none yet. -/
theorem incrementVaultOperatorDelegationRegistration_eq_ok {currentSlot vaultIndex : ℕ}
    {vault : Pubkey} {ncnFeeGroup : NcnFeeGroup}
    (registered : snapshot.incrementVaultOperatorDelegationRegistration currentSlot vault vaultIndex
      ncnFeeGroup stakeWeights = .ok next) :
    snapshot.finalized = false ∧
      ∃ slot : Fin maxVaults, slot.val = snapshot.vaultOperatorDelegationsRegistered ∧
        (∀ i : Fin maxVaults, snapshot.vaultOperatorStakeWeight[i].vaultIndex ≠ vaultIndex) ∧
        next.vaultOperatorStakeWeight = snapshot.vaultOperatorStakeWeight.put slot
          (.new vault vaultIndex ncnFeeGroup stakeWeights) ∧
        next.vaultOperatorDelegationsRegistered = slot + 1 ∧
        next.vaultOperatorDelegationCount = snapshot.vaultOperatorDelegationCount ∧
        next.validOperatorVaultDelegations = snapshot.validOperatorVaultDelegations +
          (if 0 < stakeWeights.stakeWeight then 1 else 0) ∧
        (∀ component, next.stakeWeights.get component =
          snapshot.stakeWeights.get component + stakeWeights.get component) ∧
        next.operator = snapshot.operator ∧ next.ncnOperatorIndex = snapshot.ncnOperatorIndex := by
  unfold incrementVaultOperatorDelegationRegistration insertVaultOperatorStakeWeight at registered
  split at registered
  · cases registered
  rename_i pending
  obtain ⟨inserted, insert, registered⟩ := bind_eq_ok.mp registered
  obtain ⟨_, -, insert⟩ := bind_eq_ok.mp insert
  split at insert
  · cases insert
  rename_i room
  split at insert
  · cases insert
  rename_i fresh
  cases insert
  simp only [bind_eq_ok, okOr_eq_ok_iff, checkedAdd_eq_some_iff, pure_eq_ok_iff] at registered
  obtain ⟨_, ⟨-, rfl⟩, valid, counted, weights, added, rfl⟩ := registered
  have fresh' : ∀ i : Fin maxVaults,
      snapshot.vaultOperatorStakeWeight[i].vaultIndex ≠ vaultIndex := by
    intro i
    rw [containsVaultIndex, Option.not_isSome_iff_eq_none, Slots.first_eq_none_iff] at fresh
    exact of_decide_eq_false (fresh i)
  have valid' : valid = snapshot.validOperatorVaultDelegations +
      (if 0 < stakeWeights.stakeWeight then 1 else 0) := by
    by_cases positive : 0 < stakeWeights.stakeWeight
    · rw [if_pos positive, okOr_eq_ok_iff, checkedAdd_eq_some_iff] at counted
      rw [if_pos positive]
      exact counted.2.symm
    · rw [if_neg positive] at counted ⊢
      cases counted
      rfl
  have sums := fun component => (StakeWeights.increment_get added component).1
  refine ⟨by simpa using pending, ⟨snapshot.vaultOperatorDelegationsRegistered,
    Nat.le_of_not_lt room⟩, rfl, fresh', ?_⟩
  split <;> exact ⟨rfl, rfl, rfl, valid', sums, rfl, rfl⟩

/-- The totals stay `u128`, and the fee of the operator does not change. -/
theorem incrementVaultOperatorDelegationRegistration_fits {currentSlot vaultIndex : ℕ}
    {vault : Pubkey} {ncnFeeGroup : NcnFeeGroup}
    (registered : snapshot.incrementVaultOperatorDelegationRegistration currentSlot vault vaultIndex
      ncnFeeGroup stakeWeights = .ok next) :
    next.stakeWeights.Fits ∧ next.operatorFeeBps = snapshot.operatorFeeBps := by
  unfold incrementVaultOperatorDelegationRegistration at registered
  split at registered
  · cases registered
  obtain ⟨inserted, insert, registered⟩ := bind_eq_ok.mp registered
  have sameFee : inserted.operatorFeeBps = snapshot.operatorFeeBps := by
    obtain ⟨_, -, insert⟩ := bind_eq_ok.mp insert
    split at insert
    · cases insert
    split at insert
    · cases insert
    cases insert
    rfl
  obtain ⟨one, -, registered⟩ := bind_eq_ok.mp registered
  obtain ⟨valid, -, registered⟩ := bind_eq_ok.mp registered
  obtain ⟨weights, added, same⟩ := bind_eq_ok.mp registered
  have fits := fun component => (StakeWeights.increment_get added component).2
  cases same
  split
  · exact ⟨fits, sameFee⟩
  · exact ⟨fits, sameFee⟩

theorem initializeSnapshot_operatorFeeBps {operator ncn : Pubkey} {ncnEpoch bump currentSlot : ℕ}
    {isActive : Bool} {ncnOperatorIndex operatorIndex operatorFeeBps delegations : ℕ}
    (initialized : initializeSnapshot operator ncn ncnEpoch bump currentSlot isActive
      ncnOperatorIndex operatorIndex operatorFeeBps delegations = .ok snapshot) :
    snapshot.operatorFeeBps ≤ operatorFeeBps := by
  unfold initializeSnapshot at initialized
  split at initialized
  · cases initialized
  cases initialized
  dsimp only
  split <;> omega

end OperatorSnapshot

end TipRouter
