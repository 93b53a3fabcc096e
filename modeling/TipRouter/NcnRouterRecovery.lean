import TipRouter.NcnRouterShares

/-! Recovering an interrupted NCN routing. The saved position keeps the rewards to
process, but the weights they are split by are read again from the operator
snapshot, and nothing waits for that snapshot to be final. As long as a vault
registered in between leaves the remaining shares within what is left in the pool,
enough iterations always finish a routing. -/
namespace TipRouter
open Runs

/-! ## The system -/

/-- The accounts of one operator, fee group and epoch: the snapshots, the router and
the lamports of its receiver. -/
structure NcnRouting where
  snapshots : Snapshots
  ncnRewardRouter : Account NcnRewardRouter
  lamports : ℕ

inductive RoutingInstruction where
  | snapshot (instruction : SnapshotInstruction)
  | initializeNcnRewardRouter (bump slot : ℕ)
  | deposit (lamports : ℕ)
  | routeNcnRewards (maxIterations : ℕ)

/-- What the restaking and vault programs promise of the accounts read: a fee of at
most 100%, and no vault at the all-zero key. -/
def SnapshotInstruction.Reads : SnapshotInstruction → Prop
  | .initializeOperatorSnapshot _ _ => True
  | .reallocOperatorSnapshot reading _ _ => reading.operatorFeeBps ≤ maxBps
  | .snapshotVaultOperatorDelegation _ reading _ => reading.vault ≠ .default

def RoutingInstruction.Reads : RoutingInstruction → Prop
  | .snapshot instruction => instruction.Reads
  | _ => True

instance SnapshotInstruction.decidableReads :
    (instruction : SnapshotInstruction) → Decidable instruction.Reads
  | .initializeOperatorSnapshot _ _ => inferInstanceAs (Decidable True)
  | .reallocOperatorSnapshot reading _ _ =>
    inferInstanceAs (Decidable (reading.operatorFeeBps ≤ maxBps))
  | .snapshotVaultOperatorDelegation _ reading _ =>
    inferInstanceAs (Decidable (reading.vault ≠ .default))

instance RoutingInstruction.decidableReads :
    (instruction : RoutingInstruction) → Decidable instruction.Reads
  | .snapshot instruction => SnapshotInstruction.decidableReads instruction
  | .initializeNcnRewardRouter _ _ => inferInstanceAs (Decidable True)
  | .deposit _ => inferInstanceAs (Decidable True)
  | .routeNcnRewards _ => inferInstanceAs (Decidable True)

namespace NcnRouting

/-- Nobody has routed yet; the receiver may hold lamports already. -/
def start (snapshots : Snapshots) (lamports : ℕ) : NcnRouting := ⟨snapshots, .missing, lamports⟩

/-- `process_initialize_ncn_reward_router`; the router account is created in one step,
and the receiver gets its rent. -/
def processInitializeNcnRewardRouter (operator : Pubkey) (ncnFeeGroup rentCost : ℕ)
    (self : NcnRouting) (bump slot : ℕ) : Except InstructionError NcnRouting := do
  let operatorSnapshot ← (self.snapshots.operatorSnapshots operator).load
  let ncnFeeGroup ← NcnFeeGroup.tryFrom ncnFeeGroup
  self.ncnRewardRouter.loadSystemAccount
  let ncnRewardRouter := NcnRewardRouter.new ncnFeeGroup operator operatorSnapshot.ncnOperatorIndex
    self.snapshots.epochSnapshot.ncn self.snapshots.epochSnapshot.epoch bump slot
  if 2 ^ 64 ≤ self.lamports + rentCost then .error .arithmeticOverflow
  else do
    let epochState ← self.snapshots.epochState.updateReallocNcnRewardRouter
      operatorSnapshot.ncnOperatorIndex ncnFeeGroup
    return {
      snapshots := { self.snapshots with epochState := epochState }
      ncnRewardRouter := .ready ncnRewardRouter
      lamports := self.lamports + rentCost }

/-- `process_route_ncn_rewards`. -/
def processRouteNcnRewards (spl : SplMath) (operator : Pubkey) (ncnFeeGroup rentCost : ℕ)
    (self : NcnRouting) (maxIterations : ℕ) : Except InstructionError NcnRouting := do
  let ncnFeeGroup ← NcnFeeGroup.tryFrom ncnFeeGroup
  let operatorSnapshot ← (self.snapshots.operatorSnapshots operator).load
  let ncnRewardRouter ← self.ncnRewardRouter.load
  let ncnRewardRouter ← ncnRewardRouter.processRouteNcnRewards spl operatorSnapshot rentCost
    self.lamports maxIterations
  let epochState ← self.snapshots.epochState.updateRouteNcnRewards
    operatorSnapshot.ncnOperatorIndex ncnFeeGroup ncnRewardRouter.totalRewards
  return { self with
    snapshots := { self.snapshots with epochState := epochState }
    ncnRewardRouter := .ready ncnRewardRouter }

def process (spl : SplMath) (weightTable : WeightTable) (operator : Pubkey)
    (ncnFeeGroup rentCost : ℕ) (self : NcnRouting) :
    RoutingInstruction → Except InstructionError NcnRouting
  | .snapshot instruction => do
    let snapshots ← self.snapshots.process spl weightTable instruction
    return { self with snapshots := snapshots }
  | .initializeNcnRewardRouter bump slot =>
    self.processInitializeNcnRewardRouter operator ncnFeeGroup rentCost bump slot
  | .deposit lamports =>
    if 2 ^ 64 ≤ self.lamports + lamports then .error .arithmeticOverflow
    else .ok { self with lamports := self.lamports + lamports }
  | .routeNcnRewards maxIterations =>
    self.processRouteNcnRewards spl operator ncnFeeGroup rentCost maxIterations

end NcnRouting

/-! ## What is still owed -/

/-- What the vaults from an index on would be owed once another vault is registered. -/
def OperatorSnapshot.outstandingWith (snapshot : OperatorSnapshot) (group : Fin feeGroupCount)
    (rewards index : ℕ) (delegation : VaultOperatorStakeWeight) : ℕ :=
  outstanding group
    (snapshot.stakeWeights.get (.group group) + delegation.stakeWeights.get (.group group)) rewards
    ((snapshot.vaultOperatorStakeWeight.toList.set snapshot.vaultOperatorDelegationsRegistered
      delegation).drop index)

/-- While a routing of the operator is interrupted, a vault is registered only if the
shares still owed stay within the pool. -/
def NcnRouting.SharesFit (spl : SplMath) (weightTable : WeightTable) (operator : Pubkey)
    (group : Fin feeGroupCount) (self : NcnRouting) : RoutingInstruction → Prop
  | .snapshot (.snapshotVaultOperatorDelegation other reading _) =>
    other = operator → ∀ router snapshot ncnFeeGroup stakeWeights,
      self.ncnRewardRouter = .ready router → router.stillRouting = true →
      self.snapshots.operatorSnapshots operator = .ready snapshot →
      Snapshots.vaultStakeWeights spl weightTable reading = .ok (ncnFeeGroup, stakeWeights) →
      snapshot.outstandingWith group router.lastRewardsToProcess
        router.lastVaultOperatorDelegationIndex
        (.new reading.vault reading.vaultIndex ncnFeeGroup stakeWeights) ≤ router.rewardPool
  | _ => True

/-! ## The router -/

namespace NcnRewardRouter
variable {spl : SplMath} {router next : NcnRewardRouter} {group : Fin feeGroupCount}

/-- What the loop relies on besides the pool: the balances fit, no vault has two
routes, and the routes are those of at most 64 vaults. -/
structure Routable (router : NcnRewardRouter) (group : Fin feeGroupCount)
    (owners : Finset Pubkey) : Prop where
  group : router.ncnFeeGroup = .ofIndex group
  fits : router.rewardPool + router.rewardsProcessed < 2 ^ 64
  allocated : router.allocated = router.rewardsProcessed
  table : VaultRouteTable router.vaultRewardRoutes
  owned : ∀ i : Fin maxVaults, router.vaultRewardRoutes[i].vault ≠ .default →
    router.vaultRewardRoutes[i].vault ∈ owners

variable {owners : Finset Pubkey}

theorem Routable.payable (routable : router.Routable group owners) :
    router.Payable group owners := by
  have fits := routable.fits
  have allocated := routable.allocated
  exact ⟨routable.group, fits, by omega, routable.table, routable.owned⟩

/-- What is processed stays allocated. -/
theorem Routable.of_rebalanced (routable : router.Routable group owners)
    (moved : Rebalanced router next) (payable : next.Payable group owners) :
    next.Routable group owners := by
  have reallocated := moved.allocated
  have allocated := routable.allocated
  exact ⟨payable.group, payable.transit, by omega, payable.table, payable.owned⟩

end NcnRewardRouter

/-! ## The snapshot -/

namespace OperatorSnapshot
variable {snapshot next : OperatorSnapshot}

/-- What routing relies on in a snapshot. -/
structure Routable (snapshot : OperatorSnapshot) : Prop where
  exact : snapshot.Exact
  loaded : snapshot.VaultsLoaded
  fits : snapshot.stakeWeights.Fits
  fee : snapshot.operatorFeeBps ≤ maxBps

theorem initializeSnapshot_routable {operator ncn : Pubkey} {ncnEpoch bump currentSlot : ℕ}
    {isActive : Bool} {ncnOperatorIndex operatorIndex operatorFeeBps delegations : ℕ}
    (fee : operatorFeeBps ≤ maxBps)
    (initialized : initializeSnapshot operator ncn ncnEpoch bump currentSlot isActive
      ncnOperatorIndex operatorIndex operatorFeeBps delegations = .ok snapshot) :
    snapshot.Routable := by
  refine ⟨initializeSnapshot_exact initialized, (Reachable.created initialized).vaultsLoaded, ?_,
    (initializeSnapshot_operatorFeeBps initialized).trans fee⟩
  obtain ⟨-, -, -, -, weightless, -⟩ := initializeSnapshot_eq_ok initialized
  intro component
  rw [weightless, StakeWeights.default_get]
  norm_num

section Registered
variable {slot vaultIndex : ℕ} {vault : Pubkey} {ncnFeeGroup : NcnFeeGroup}
variable {stakeWeights : StakeWeights}

theorem Routable.register (routable : snapshot.Routable) (loaded : vault ≠ .default)
    (registered : snapshot.incrementVaultOperatorDelegationRegistration slot vault vaultIndex
      ncnFeeGroup stakeWeights = .ok next) : next.Routable := by
  obtain ⟨fits, sameFee⟩ := incrementVaultOperatorDelegationRegistration_fits registered
  refine ⟨routable.exact.register registered, routable.loaded.register loaded registered, fits, ?_⟩
  rw [sameFee]
  exact routable.fee

/-- A registered vault takes an empty entry, so every other vault keeps its own. -/
theorem Routable.vaults_register (routable : snapshot.Routable)
    (registered : snapshot.incrementVaultOperatorDelegationRegistration slot vault vaultIndex
      ncnFeeGroup stakeWeights = .ok next) {owner : Pubkey} (used : owner ≠ .default)
    (owns : owner ∈ snapshot.vaults) : owner ∈ next.vaults := by
  obtain ⟨-, free, here, -, written, -⟩ :=
    incrementVaultOperatorDelegationRegistration_eq_ok registered
  obtain ⟨i, -, own⟩ := Finset.mem_image.mp owns
  have other : free ≠ i := by
    rintro rfl
    rw [routable.exact.unused free here.ge] at own
    exact used own.symm
  refine Finset.mem_image.mpr ⟨i, Finset.mem_univ i, ?_⟩
  rw [written, Slots.getElem_put_ne _ _ other]
  exact own

/-- What the vaults are owed after a registration. -/
theorem outstanding_register {group : Fin feeGroupCount} {rewards index : ℕ}
    (registered : snapshot.incrementVaultOperatorDelegationRegistration slot vault vaultIndex
      ncnFeeGroup stakeWeights = .ok next) :
    outstanding group (next.stakeWeights.get (.group group)) rewards
        (next.vaultOperatorStakeWeight.toList.drop index) =
      snapshot.outstandingWith group rewards index
        (.new vault vaultIndex ncnFeeGroup stakeWeights) := by
  obtain ⟨-, free, here, -, written, -, -, -, sums, -⟩ :=
    incrementVaultOperatorDelegationRegistration_eq_ok registered
  rw [sums, written, outstandingWith, ← here, Vector.put, Vector.toList_set]
  rfl

end Registered

theorem Routable.visitable (routable : snapshot.Routable) (group : Fin feeGroupCount) :
    ∀ delegation ∈ snapshot.vaultOperatorStakeWeight.toList,
      NcnRewardRouter.Visitable group snapshot.vaults snapshot.stakeWeights delegation :=
  NcnRewardRouter.visitable_of_total routable.loaded (routable.exact.weighed _).symm

/-- A fresh routing has enough in the pool for every vault. -/
theorem Routable.outstanding_le (routable : snapshot.Routable) (group : Fin feeGroupCount)
    (rewards : ℕ) :
    outstanding group (snapshot.stakeWeights.get (.group group)) rewards
      snapshot.vaultOperatorStakeWeight.toList ≤ rewards := by
  apply TipRouter.outstanding_le
  rw [routable.exact.weighed, Slots.total_eq_sum]

end OperatorSnapshot

/-! ## One routing -/

namespace NcnRewardRouter
variable {spl : SplMath} {router next : NcnRewardRouter} {snapshot : OperatorSnapshot}
variable {group : Fin feeGroupCount} {rentCost lamports : ℕ}

/-- A router that enough iterations bring to rest: the receiver covers it, and an
interrupted routing has enough in the pool for the vaults ahead. -/
structure Recoverable (router : NcnRewardRouter) (snapshot : OperatorSnapshot)
    (group : Fin feeGroupCount) (rentCost lamports : ℕ) : Prop where
  routable : router.Routable group snapshot.vaults
  total : router.totalRewards = router.rewardPool + router.rewardsProcessed
  covered : rentCost + router.rewardPool + router.rewardsProcessed ≤ lamports
  resumes : router.stillRouting = true →
    router.lastRewardsToProcess ≠ 0 ∧ router.lastRewardsToProcess < 2 ^ 64 ∧
    outstanding group (snapshot.stakeWeights.get (.group group)) router.lastRewardsToProcess
        (snapshot.vaultOperatorStakeWeight.toList.drop router.lastVaultOperatorDelegationIndex) ≤
      router.rewardPool

theorem Routable.operatorPaid {owners : Finset Pubkey} (routable : router.Routable group owners)
    {rewards : ℕ} (covered : rewards ≤ router.rewardPool) :
    ({ router with
      rewardPool := router.rewardPool - rewards
      rewardsProcessed := router.rewardsProcessed + rewards
      operatorRewards := router.operatorRewards + rewards } : NcnRewardRouter).Routable group
        owners := by
  have fits := routable.fits
  have allocated := routable.allocated
  refine ⟨routable.group, ?_, ?_, routable.table, routable.owned⟩
  · dsimp only
    omega
  · unfold NcnRewardRouter.allocated at allocated ⊢
    dsimp only
    omega

namespace Recoverable

/-- Taking the incoming rewards into the pool and the fee out of it never fails. -/
theorem startRouting (documented : spl.Documented) (sound : snapshot.Routable)
    (recoverable : router.Recoverable snapshot group rentCost lamports)
    (lamportsFit : lamports < 2 ^ 64) :
    ∃ next, router.startRouting spl snapshot rentCost lamports = .ok next ∧
      next.Recoverable snapshot group rentCost lamports := by
  unfold NcnRewardRouter.startRouting
  by_cases resumed : router.stillRouting = true
  · rw [if_pos resumed]
    exact ⟨router, rfl, recoverable⟩
  rw [if_neg resumed]
  obtain ⟨pooled, funding⟩ := routeIncomingRewards_of_covered recoverable.covered
    recoverable.total.le lamportsFit
  obtain ⟨incoming, balance, rfl⟩ := routeIncomingRewards_eq_ok funding
  rw [funding, ok_bind]
  have routable : ({ router with
      totalRewards := router.totalRewards + incoming
      rewardPool := router.rewardPool + incoming } : NcnRewardRouter).Routable group
        snapshot.vaults :=
    ⟨recoverable.routable.group, by dsimp only; omega, recoverable.routable.allocated,
      recoverable.routable.table, recoverable.routable.owned⟩
  have fee : (router.rewardPool + incoming) * snapshot.operatorFeeBps / maxBps ≤
      router.rewardPool + incoming := by
    apply Nat.div_le_of_le_mul
    rw [Nat.mul_comm maxBps]
    exact Nat.mul_le_mul_left _ sound.fee
  have total := recoverable.total
  unfold routeOperatorRewards
  dsimp only
  rw [calculateOperatorReward_exact documented sound.fee (by omega), ok_bind,
    routable.payable.poolToOperator fee]
  refine ⟨_, rfl, routable.operatorPaid fee, ?_, ?_, ?_⟩
  · dsimp only
    omega
  · dsimp only
    omega
  · intro still
    exact absurd still resumed

/-- Where the loop starts, fresh or resumed, the pool covers what is ahead. -/
theorem position (sound : snapshot.Routable)
    (recoverable : router.Recoverable snapshot group rentCost lamports)
    (lamportsFit : lamports < 2 ^ 64) :
    ∃ rewards index, router.resumeRoutingState router.rewardPool = (rewards, index) ∧
      rewards < 2 ^ 64 ∧ (router.stillRouting = true → rewards ≠ 0) ∧
      outstanding group (snapshot.stakeWeights.get (.group group)) rewards
        (snapshot.vaultOperatorStakeWeight.toList.drop index) ≤ router.rewardPool := by
  have covered := recoverable.covered
  unfold resumeRoutingState
  by_cases still : router.stillRouting = true
  · obtain ⟨something, rewardsFit, ahead⟩ := recoverable.resumes still
    exact ⟨_, _, by rw [still]; rfl, rewardsFit, fun _ => something, ahead⟩
  · refine ⟨router.rewardPool, 0, ?_, by omega, fun still' => absurd still' still,
      sound.outstanding_le group router.rewardPool⟩
    rw [Bool.eq_false_iff.mpr still]
    rfl

theorem loop_rebalanced (documented : spl.Documented) (sound : snapshot.Routable)
    (recoverable : router.Recoverable snapshot group rentCost lamports)
    {maxIterations rewards index : ℕ} {outcome : VaultsRouted}
    (looped : NcnRewardRouter.routeVaults spl snapshot.stakeWeights maxIterations rewards
      ((snapshot.vaultOperatorStakeWeight.toList.drop index).zipIdx index) router 0 =
        .ok outcome) : Rebalanced router outcome.router := by
  refine routeVaults_rebalanced documented ?_ recoverable.routable.table looped
  intro entry member
  have listed := List.mem_of_mem_drop (List.fst_mem_of_mem_zipIdx member)
  exact (sound.visitable group entry.1 listed).loaded

/-- The loop never fails, and enough iterations finish it. -/
theorem routeRewardPool (documented : spl.Documented) (maxIterations : ℕ)
    (sound : snapshot.Routable)
    (recoverable : router.Recoverable snapshot group rentCost lamports)
    (lamportsFit : lamports < 2 ^ 64) :
    ∃ next, router.routeRewardPool spl snapshot maxIterations = .ok next ∧
      next.Recoverable snapshot group rentCost lamports ∧
      (maxVaults ≤ maxIterations → next.stillRouting = false) := by
  have length : snapshot.vaultOperatorStakeWeight.toList.length = maxVaults :=
    Vector.length_toList
  have covered := recoverable.covered
  obtain ⟨rewards, index, position, rewardsFit, something, ahead⟩ :=
    recoverable.position sound lamportsFit
  unfold NcnRewardRouter.routeRewardPool
  rw [position]
  dsimp only
  by_cases nothing : rewards = 0
  · rw [if_pos nothing]
    refine ⟨router, rfl, recoverable, fun _ => ?_⟩
    rw [← Bool.not_eq_true]
    exact fun still => something still nothing
  rw [if_neg nothing, drop_zipIdx, Nat.zero_add]
  have paying := recoverable.routable.payable
  have visitable : ∀ delegation ∈ snapshot.vaultOperatorStakeWeight.toList.drop index,
      Visitable group snapshot.vaults snapshot.stakeWeights delegation :=
    fun delegation member => sound.visitable group delegation (List.mem_of_mem_drop member)
  obtain ⟨finished, all, payable, -⟩ := paying.routeAllVaults documented snapshot.card_vaults_le
    sound.fits rewardsFit visitable ahead
  have total := recoverable.total
  rcases routeVaults_cases index all (Nat.zero_le (max maxIterations 1)) (by
    rw [List.length_drop, length, maxVaults]
    omega) with ⟨-, looped⟩ | ⟨seen, middle, used, unseen, looped, before, -⟩
  · have moved := recoverable.loop_rebalanced documented sound looped
    have sameTotal := moved.total
    have transit := moved.transit
    dsimp only [VaultsRouted.router] at sameTotal transit
    have routable := recoverable.routable.of_rebalanced moved payable
    have reset : finished.resetRoutingState.Routable group snapshot.vaults :=
      ⟨routable.group, routable.fits, routable.allocated, routable.table, routable.owned⟩
    have leftover : finished.rewardPool ≤ finished.resetRoutingState.rewardPool := le_rfl
    have atRest := stillRouting_reset finished
    rw [looped, ok_bind]
    refine ⟨_, reset.payable.poolToOperator leftover, ⟨reset.operatorPaid leftover, ?_, ?_,
      fun still => ?_⟩, fun _ => atRest⟩
    · dsimp only [resetRoutingState]
      omega
    · dsimp only [resetRoutingState]
      omega
    · exact absurd (still.symm.trans atRest) (by decide)
  · have moved := recoverable.loop_rebalanced documented sound looped
    have sameTotal := moved.total
    have transit := moved.transit
    dsimp only [VaultsRouted.router] at sameTotal transit
    rw [List.length_drop, length] at unseen
    have bound : index + seen < 64 := Nat.add_lt_of_lt_sub' unseen
    have split := @outstanding_take_add_drop group (snapshot.stakeWeights.get (.group group)) rewards
      (snapshot.vaultOperatorStakeWeight.toList.drop index) seen
    rw [List.drop_drop] at split
    obtain ⟨_, stopped, payable, routes, rfl, -⟩ := paying.routeAllVaults documented
      snapshot.card_vaults_le sound.fits rewardsFit
      (fun delegation member => visitable delegation (List.mem_of_mem_take member))
      (show outstanding group (snapshot.stakeWeights.get (.group group)) rewards
        ((snapshot.vaultOperatorStakeWeight.toList.drop index).take seen) ≤ router.rewardPool
        by omega)
    cases stopped.symm.trans before
    rw [looped, ok_bind]
    refine ⟨_, rfl, ⟨recoverable.routable.of_rebalanced moved (payable.save _ _), by omega, by omega,
      fun _ => ⟨nothing, rewardsFit, ?_⟩⟩, fun enough => ?_⟩
    · simp only [saveRoutingState, Nat.mod_eq_of_lt (show index + seen < 2 ^ 16 by omega)]
      omega
    · unfold maxVaults at enough unseen
      omega

end Recoverable

end NcnRewardRouter

/-! ## Whole runs -/

namespace NcnRouting
variable {spl : SplMath} {weightTable : WeightTable} {operator : Pubkey}
variable {group : Fin feeGroupCount} {rentCost : ℕ} {routing next : NcnRouting}

/-- What every instruction keeps whose registrations fit. -/
structure Recoverable (operator : Pubkey) (group : Fin feeGroupCount) (rentCost : ℕ)
    (routing : NcnRouting) : Prop where
  fits : routing.lamports < 2 ^ 64
  sound : ∀ snapshot, routing.snapshots.operatorSnapshots operator = .ready snapshot →
    snapshot.Routable
  router : ∀ router, routing.ncnRewardRouter = .ready router → ∃ snapshot,
    routing.snapshots.operatorSnapshots operator = .ready snapshot ∧
      router.Recoverable snapshot group rentCost routing.lamports ∧
      snapshot.ncnOperatorIndex * feeGroupCount + group < maxNcnRewardRouters

namespace Recoverable

/-- A registration that fits keeps the pool ahead of the vaults. -/
theorem register {router : NcnRewardRouter} {before after : OperatorSnapshot} {lamports slot : ℕ}
    {reading : VaultReading} {ncnFeeGroup : NcnFeeGroup} {stakeWeights : StakeWeights}
    (sound : before.Routable) (recoverable : router.Recoverable before group rentCost lamports)
    (registered : before.incrementVaultOperatorDelegationRegistration slot reading.vault
      reading.vaultIndex ncnFeeGroup stakeWeights = .ok after)
    (fit : router.stillRouting = true → before.outstandingWith group router.lastRewardsToProcess
      router.lastVaultOperatorDelegationIndex
      (.new reading.vault reading.vaultIndex ncnFeeGroup stakeWeights) ≤ router.rewardPool) :
    router.Recoverable after group rentCost lamports := by
  have routable := recoverable.routable
  refine ⟨⟨routable.group, routable.fits, routable.allocated, routable.table, ?_⟩,
    recoverable.total, recoverable.covered, ?_⟩
  · intro i used
    exact sound.vaults_register registered used (routable.owned i used)
  · intro still
    obtain ⟨something, rewardsFit, -⟩ := recoverable.resumes still
    rw [OperatorSnapshot.outstanding_register registered]
    exact ⟨something, rewardsFit, fit still⟩

theorem snapshot {instruction : SnapshotInstruction} {snapshots : Snapshots}
    (recoverable : routing.Recoverable operator group rentCost) (reads : instruction.Reads)
    (fit : routing.SharesFit spl weightTable operator group (.snapshot instruction))
    (processed : routing.snapshots.process spl weightTable instruction = .ok snapshots) :
    ({ routing with snapshots := snapshots } : NcnRouting).Recoverable operator group rentCost := by
  have step := Snapshots.process_operatorStep processed operator
  have sound := recoverable.sound
  have held := recoverable.router
  simp only [SharesFit] at fit
  generalize routing.snapshots.operatorSnapshots operator = account at step sound held fit
  generalize after : snapshots.operatorSnapshots operator = account' at step
  cases step with
  | unchanged =>
    refine ⟨recoverable.fits, ?_, ?_⟩
    · rw [after]
      exact sound
    · rw [after]
      exact held
  | resized pending =>
    refine ⟨recoverable.fits, ?_, ?_⟩
    · rw [after]
      nofun
    · intro router ready
      obtain ⟨snapshot, loaded, -⟩ := held router ready
      exact absurd loaded (pending snapshot)
  | filled pending initialized =>
    refine ⟨recoverable.fits, ?_, ?_⟩
    · rw [after]
      rintro snapshot ⟨⟩
      exact OperatorSnapshot.initializeSnapshot_routable reads initialized
    · intro router ready
      obtain ⟨snapshot, loaded, -⟩ := held router ready
      exact absurd loaded (pending snapshot)
  | registered weighed registered =>
    have before := sound _ rfl
    refine ⟨recoverable.fits, ?_, ?_⟩
    · rw [after]
      rintro snapshot ⟨⟩
      exact before.register reads registered
    · intro router ready
      obtain ⟨snapshot, ⟨⟩, recovers, indexed⟩ := held router ready
      refine ⟨_, after, register before recovers registered fun still => ?_, ?_⟩
      · exact fit rfl router _ _ _ ready still rfl weighed
      · obtain ⟨-, -, -, -, -, -, -, -, -, -, sameIndex⟩ :=
          OperatorSnapshot.incrementVaultOperatorDelegationRegistration_eq_ok registered
        rw [sameIndex]
        exact indexed

theorem initializeRouter {bump slot : ℕ} (recoverable : routing.Recoverable operator group rentCost)
    (created : routing.processInitializeNcnRewardRouter operator group rentCost bump slot =
      .ok next) : next.Recoverable operator group rentCost := by
  obtain ⟨snapshot, loaded, created⟩ := bind_eq_ok.mp created
  obtain ⟨ncnFeeGroup, parsed, created⟩ := bind_eq_ok.mp created
  obtain ⟨_, -, created⟩ := bind_eq_ok.mp created
  rw [lift_eq_ok_iff, NcnFeeGroup.tryFrom_val] at parsed
  cases parsed
  split at created
  · cases created
  rename_i fits
  obtain ⟨epochState, updated, same⟩ := bind_eq_ok.mp created
  cases same
  refine ⟨Nat.lt_of_not_le fits, recoverable.sound, ?_⟩
  rintro router ⟨⟩
  have balanced := NcnLedger.start_balanced (.ofIndex group) operator snapshot.ncnOperatorIndex
    routing.snapshots.epochSnapshot.ncn routing.snapshots.epochSnapshot.epoch bump slot rentCost
  have unused : ∀ i : Fin maxVaults, (NcnRewardRouter.new (.ofIndex group) operator
      snapshot.ncnOperatorIndex routing.snapshots.epochSnapshot.ncn
      routing.snapshots.epochSnapshot.epoch bump slot).vaultRewardRoutes[i] = .default :=
    fun i => Vector.getElem_replicate _
  refine ⟨snapshot, Account.load_eq_ok_iff.mp loaded, ⟨⟨rfl, ?_, balanced.allocated,
    balanced.table, ?_⟩, rfl, ?_, ?_⟩, EpochState.updateReallocNcnRewardRouter_eq_ok updated⟩
  · exact Nat.two_pow_pos 64
  · intro i used
    rw [unused] at used
    exact absurd rfl used
  · exact Nat.le_add_left _ _
  · intro still
    cases still

/-- Routing never fails, and enough iterations bring the router to rest. -/
theorem route (documented : spl.Documented) (maxIterations : ℕ)
    (recoverable : routing.Recoverable operator group rentCost) {router : NcnRewardRouter}
    (ready : routing.ncnRewardRouter = .ready router) :
    ∃ next rested, routing.processRouteNcnRewards spl operator group rentCost maxIterations =
        .ok next ∧ next.Recoverable operator group rentCost ∧
      next.ncnRewardRouter = .ready rested ∧
      (maxVaults ≤ maxIterations → rested.stillRouting = false) := by
  obtain ⟨snapshot, loaded, held, indexed⟩ := recoverable.router router ready
  have sound := recoverable.sound snapshot loaded
  obtain ⟨funded, started, held⟩ := held.startRouting documented sound recoverable.fits
  obtain ⟨rested, routed, held, rests⟩ :=
    held.routeRewardPool documented maxIterations sound recoverable.fits
  obtain ⟨epochState, updated⟩ : ∃ epochState, routing.snapshots.epochState.updateRouteNcnRewards
      snapshot.ncnOperatorIndex (.ofIndex group) rested.totalRewards = .ok epochState :=
    EpochState.updateRouteNcnRewards_of_lt rested.totalRewards indexed
  have whole : router.processRouteNcnRewards spl snapshot rentCost routing.lamports maxIterations =
      .ok rested := by
    unfold NcnRewardRouter.processRouteNcnRewards
    rw [started, ok_bind]
    exact routed
  refine ⟨⟨{ routing.snapshots with epochState := epochState }, .ready rested, routing.lamports⟩,
    rested, ?_, ⟨recoverable.fits, recoverable.sound, ?_⟩, rfl, rests⟩
  · unfold processRouteNcnRewards
    simp only [NcnFeeGroup.tryFrom_val, loaded, ready, whole, updated, lift_ok, ok_bind,
      Account.load]
    rfl
  · rintro router' ⟨⟩
    exact ⟨snapshot, loaded, held, indexed⟩

theorem process (documented : spl.Documented) {instruction : RoutingInstruction}
    (recoverable : routing.Recoverable operator group rentCost) (reads : instruction.Reads)
    (fit : routing.SharesFit spl weightTable operator group instruction)
    (processed : routing.process spl weightTable operator group rentCost instruction = .ok next) :
    next.Recoverable operator group rentCost := by
  cases instruction with
  | snapshot instruction =>
    obtain ⟨snapshots, taken, same⟩ := bind_eq_ok.mp processed
    cases same
    exact recoverable.snapshot reads fit taken
  | initializeNcnRewardRouter bump slot => exact recoverable.initializeRouter processed
  | deposit lamports =>
    have deposited : (if 2 ^ 64 ≤ routing.lamports + lamports then
        Except.error InstructionError.arithmeticOverflow
      else .ok { routing with lamports := routing.lamports + lamports }) = .ok next := processed
    split at deposited
    · cases deposited
    rename_i fits
    cases deposited
    refine ⟨Nat.lt_of_not_le fits, recoverable.sound, ?_⟩
    intro router ready
    obtain ⟨snapshot, loaded, held, indexed⟩ := recoverable.router router ready
    have covered := held.covered
    refine ⟨snapshot, loaded, ⟨held.routable, held.total, ?_, held.resumes⟩, indexed⟩
    dsimp only
    omega
  | routeNcnRewards maxIterations =>
    obtain ⟨_, -, later⟩ := bind_eq_ok.mp processed
    obtain ⟨_, -, later⟩ := bind_eq_ok.mp later
    obtain ⟨router, loaded, -⟩ := bind_eq_ok.mp later
    obtain ⟨next', rested, routed, held, -⟩ :=
      recoverable.route documented maxIterations (Account.load_eq_ok_iff.mp loaded)
    cases routed.symm.trans processed
    exact held

end Recoverable

end NcnRouting

/-- In a run whose registrations leave the shares still owed within the pool, a
routing never fails and 64 iterations always bring the router to rest. -/
theorem ncn_router_recovers {spl : SplMath} (documented : spl.Documented)
    {weightTable : WeightTable} {epochState : EpochState} {feeConfig : FeeConfig} {ncn : Pubkey}
    {epoch bump slot operatorCount lamports : ℕ} {snapshots : Snapshots} {operator : Pubkey}
    {group : Fin feeGroupCount} {rentCost : ℕ} {history : List RoutingInstruction}
    {finish : NcnRouting} {router : NcnRewardRouter}
    (started : Snapshots.start epochState weightTable feeConfig ncn epoch bump slot operatorCount =
      .ok snapshots)
    (funded : lamports < 2 ^ 64) (reads : ∀ instruction ∈ history, instruction.Reads)
    (fit : Along (NcnRouting.process spl weightTable operator group rentCost)
      (NcnRouting.SharesFit spl weightTable operator group) history (.start snapshots lamports))
    (ran : run (NcnRouting.process spl weightTable operator group rentCost) history
      (.start snapshots lamports) = .ok finish)
    (ready : finish.ncnRewardRouter = .ready router) (maxIterations : ℕ) :
    ∃ next rested, finish.process spl weightTable operator group rentCost
        (.routeNcnRewards maxIterations) = .ok next ∧ next.ncnRewardRouter = .ready rested ∧
      (maxVaults ≤ maxIterations → rested.stillRouting = false) := by
  have initial : (NcnRouting.start snapshots lamports).Recoverable operator group rentCost := by
    refine ⟨funded, ?_, ?_⟩
    · unfold Snapshots.start at started
      split at started
      · cases started
      split at started
      · cases started
      cases started
      nofun
    · nofun
  have recoverable := run_invariant_along
    (motive := NcnRouting.Recoverable operator group rentCost)
    (fun instruction member _ _ holds fit processed =>
      holds.process documented (reads instruction member) fit processed) initial fit ran
  obtain ⟨next, rested, routed, -, rests⟩ := recoverable.route documented maxIterations ready
  exact ⟨next, rested, routed, rests⟩

/-! ## Runs with two vaults -/

def FeeConfig.withoutFees : FeeConfig where
  blockEngineFeeBps := 0
  baseFeeWallets := Vector.replicate feeGroupCount .default
  fee1 := ⟨0, Vector.replicate feeGroupCount 0, Vector.replicate feeGroupCount 0⟩
  fee2 := ⟨0, Vector.replicate feeGroupCount 0, Vector.replicate feeGroupCount 0⟩

namespace NcnRouting

/-- A mint with a weight, and two vaults of it. -/
def twoVaults : VaultRegistry where
  stMintList := Vector.ofFn fun i =>
    if i.val = 0 then ⟨⟨Vector.replicate 32 1⟩, .default, 10, .default, 7⟩ else .default
  vaultList := Vector.ofFn fun i =>
    if i.val = 0 then ⟨⟨Vector.replicate 32 3⟩, ⟨Vector.replicate 32 1⟩, 0, 5⟩
    else if i.val = 1 then ⟨⟨Vector.replicate 32 4⟩, ⟨Vector.replicate 32 1⟩, 1, 5⟩
    else .default

/-- The final weight table of the two vaults. -/
def weighTwoVaults : Except InstructionError WeightTable := do
  let weighing ← Weighing.start .zeroed twoVaults .default 3 5 255
  let weighing ← Weighing.process .withoutFeeds weighing
    (.adminSetWeight .default .default ⟨Vector.replicate 32 1⟩ 7 6)
  return weighing.weightTable

def onlyOperator : Pubkey := ⟨Vector.replicate 32 5⟩

/-- An active operator without a fee gets its snapshot. -/
def openSnapshot : List SnapshotInstruction :=
  [.initializeOperatorSnapshot onlyOperator 0,
    .reallocOperatorSnapshot ⟨onlyOperator, 8, 0, 0, true, true⟩ 255 8]

/-- A vault with a delegation of 100 is registered. -/
def registerVault (seed : UInt8) (vaultIndex : ℕ) : SnapshotInstruction :=
  .snapshotVaultOperatorDelegation onlyOperator
    ⟨⟨Vector.replicate 32 seed⟩, vaultIndex, ⟨Vector.replicate 32 1⟩, false, true, some true,
      some 100⟩ 9

/-- Both vaults are registered before routing begins. -/
def registeredFirst : List RoutingInstruction :=
  (openSnapshot ++ [registerVault 3 0, registerVault 4 1]).map .snapshot ++
    [.initializeNcnRewardRouter 255 9, .deposit 1001, .routeNcnRewards 1, .deposit 5]

/-- The second vault is registered when routing has passed the first one. -/
def registeredBetween : List RoutingInstruction :=
  (openSnapshot ++ [registerVault 3 0]).map .snapshot ++
    [.initializeNcnRewardRouter 255 9, .deposit 1000, .routeNcnRewards 1,
      .snapshot (registerVault 4 1)]

variable {spl : SplMath} {weightTable : WeightTable} {operator : Pubkey}
variable {group : Fin feeGroupCount} {rentCost : ℕ}

/-- Registrations before the router exists always fit. -/
theorem along_of_registeredFirst (instructions : List SnapshotInstruction)
    (rest : List RoutingInstruction)
    (later : ∀ instruction ∈ rest, ∀ registration, instruction ≠ .snapshot registration)
    (routing : NcnRouting) (missing : routing.ncnRewardRouter = .missing) :
    Along (process spl weightTable operator group rentCost)
      (SharesFit spl weightTable operator group)
      (instructions.map RoutingInstruction.snapshot ++ rest) routing := by
  induction instructions generalizing routing with
  | nil =>
    clear missing
    induction rest generalizing routing with
    | nil => trivial
    | cons instruction rest ih =>
      have others := fun other member => later other (List.mem_cons_of_mem _ member)
      refine ⟨?_, fun next _ => ih others next⟩
      cases instruction with
      | snapshot registration => exact absurd rfl (later _ List.mem_cons_self registration)
      | initializeNcnRewardRouter => trivial
      | deposit => trivial
      | routeNcnRewards => trivial
  | cons instruction instructions ih =>
    refine ⟨?_, fun next processed => ih next ?_⟩
    · cases instruction with
      | initializeOperatorSnapshot => trivial
      | reallocOperatorSnapshot => trivial
      | snapshotVaultOperatorDelegation other reading slot =>
        intro _ router _ _ _ ready
        rw [missing] at ready
        cases ready
    · obtain ⟨snapshots, -, same⟩ := bind_eq_ok.mp processed
      cases same
      exact missing

/-- Routing was interrupted after the first of two vaults, and can be finished. -/
theorem ncn_router_recovers_after_interruption :
    ∃ (finish next : NcnRouting) (router rested : NcnRewardRouter) (weightTable : WeightTable),
      finish.ncnRewardRouter = .ready router ∧ router.stillRouting = true ∧
      finish.process .u256 weightTable onlyOperator 0 890880 (.routeNcnRewards 64) = .ok next ∧
      next.ncnRewardRouter = .ready rested ∧ rested.stillRouting = false := by
  have runs : (do
      let weightTable ← weighTwoVaults
      let snapshots ← Snapshots.start .zeroed weightTable .withoutFees .default 3 255 7 1
      let finish ← run (process .u256 weightTable onlyOperator 0 890880) registeredFirst
        (.start snapshots 0)
      let router ← finish.ncnRewardRouter.load
      return (weightTable, snapshots, finish, router)).toOption.any
        (fun result : WeightTable × Snapshots × NcnRouting × NcnRewardRouter =>
          result.2.2.2.stillRouting) = true := by
    decide +kernel
  obtain ⟨⟨weightTable, snapshots, finish, router⟩, all, still⟩ := exists_of_any runs
  obtain ⟨_, weighed, all⟩ := bind_eq_ok.mp all
  obtain ⟨_, started, all⟩ := bind_eq_ok.mp all
  obtain ⟨_, ran, all⟩ := bind_eq_ok.mp all
  obtain ⟨_, loaded, same⟩ := bind_eq_ok.mp all
  cases same
  have ready := Account.load_eq_ok_iff.mp loaded
  have fit : Along (process .u256 weightTable onlyOperator 0 890880)
      (SharesFit .u256 weightTable onlyOperator 0) registeredFirst (.start snapshots 0) :=
    along_of_registeredFirst (openSnapshot ++ [registerVault 3 0, registerVault 4 1])
      [.initializeNcnRewardRouter 255 9, .deposit 1001, .routeNcnRewards 1, .deposit 5] (by simp)
      (.start snapshots 0) rfl
  have reads : ∀ instruction ∈ registeredFirst, instruction.Reads := by decide
  obtain ⟨next, rested, routed, rests, settled⟩ := ncn_router_recovers SplMath.u256_documented
    started (Nat.two_pow_pos 64) reads fit ran ready 64
  exact ⟨finish, next, router, rested, weightTable, ready, still, routed, rests, settled le_rfl⟩

/-- A vault that would take more than the pool fails every number of iterations. -/
theorem wedged_of_next {routing : NcnRouting} {snapshot : OperatorSnapshot}
    {router : NcnRewardRouter} {index : Fin maxVaults} {failure : TipRouterError}
    (loaded : routing.snapshots.operatorSnapshots operator = .ready snapshot)
    (ready : routing.ncnRewardRouter = .ready router) (still : router.stillRouting = true)
    (something : router.lastRewardsToProcess ≠ 0)
    (position : router.lastVaultOperatorDelegationIndex = index)
    (fails : router.routeVault spl snapshot.stakeWeights router.lastRewardsToProcess
      snapshot.vaultOperatorStakeWeight[index] = .error failure) (maxIterations : ℕ) :
    routing.process spl weightTable operator group rentCost (.routeNcnRewards maxIterations) =
      .error (.custom failure) := by
  have ahead : (snapshot.vaultOperatorStakeWeight.toList.zipIdx.drop index) =
      (snapshot.vaultOperatorStakeWeight[index], index.val) ::
        snapshot.vaultOperatorStakeWeight.toList.zipIdx.drop (index + 1) := by
    rw [List.drop_eq_getElem_cons (by simp)]
    simp
  have stops : router.routeRewardPool spl snapshot maxIterations = .error failure := by
    unfold NcnRewardRouter.routeRewardPool NcnRewardRouter.resumeRoutingState
    rw [still]
    simp only [Bool.not_true, Bool.false_eq_true, if_false, if_neg something, position, ahead]
    rw [NcnRewardRouter.routeVaults, checkedAdd_of_lt (by norm_num), okOr_some, ok_bind,
      if_neg (by omega), fails]
    rfl
  have whole : router.processRouteNcnRewards spl snapshot rentCost routing.lamports maxIterations =
      .error failure := by
    unfold NcnRewardRouter.processRouteNcnRewards NcnRewardRouter.startRouting
    rw [if_pos still, ok_bind, stops]
  unfold process processRouteNcnRewards
  simp only [NcnFeeGroup.tryFrom_val, loaded, ready, whole, lift_ok, ok_bind, Account.load]
  rfl

/-- The second vault is registered when the first one has taken the whole pool, and
no number of iterations can resume the routing. -/
theorem ncn_router_wedged :
    ∃ (weightTable : WeightTable) (snapshots : Snapshots) (finish : NcnRouting)
        (router : NcnRewardRouter),
      Snapshots.start .zeroed weightTable .withoutFees .default 3 255 7 1 = .ok snapshots ∧
      (∀ instruction ∈ registeredBetween, instruction.Reads) ∧
      run (process .u256 weightTable onlyOperator 0 890880) registeredBetween (.start snapshots 0) =
        .ok finish ∧
      finish.ncnRewardRouter = .ready router ∧
      ∀ maxIterations, finish.process .u256 weightTable onlyOperator 0 890880
        (.routeNcnRewards maxIterations) = .error (.custom .arithmeticUnderflowError) := by
  have runs : (do
      let weightTable ← weighTwoVaults
      let snapshots ← Snapshots.start .zeroed weightTable .withoutFees .default 3 255 7 1
      let finish ← run (process .u256 weightTable onlyOperator 0 890880) registeredBetween
        (.start snapshots 0)
      let router ← finish.ncnRewardRouter.load
      let snapshot ← (finish.snapshots.operatorSnapshots onlyOperator).load
      return (weightTable, snapshots, finish, router, snapshot)).toOption.any
        (fun result : WeightTable × Snapshots × NcnRouting × NcnRewardRouter × OperatorSnapshot =>
          let (_, _, _, router, snapshot) := result
          router.stillRouting && router.lastRewardsToProcess == 1000 &&
          router.lastVaultOperatorDelegationIndex == 1 &&
          match router.routeVault .u256 snapshot.stakeWeights router.lastRewardsToProcess
            snapshot.vaultOperatorStakeWeight[(1 : Fin maxVaults)] with
          | .error failure => failure == TipRouterError.arithmeticUnderflowError
          | .ok _ => false) = true := by
    decide +kernel
  obtain ⟨⟨weightTable, snapshots, finish, router, snapshot⟩, all, outcome⟩ := exists_of_any runs
  obtain ⟨_, weighed, all⟩ := bind_eq_ok.mp all
  obtain ⟨_, started, all⟩ := bind_eq_ok.mp all
  obtain ⟨_, ran, all⟩ := bind_eq_ok.mp all
  obtain ⟨_, ready, all⟩ := bind_eq_ok.mp all
  obtain ⟨_, loaded, same⟩ := bind_eq_ok.mp all
  cases same
  have ready := Account.load_eq_ok_iff.mp ready
  simp only [Bool.and_eq_true, beq_iff_eq] at outcome
  obtain ⟨⟨⟨still, rewards⟩, position⟩, fails⟩ := outcome
  refine ⟨weightTable, snapshots, finish, router, started, by decide, ran, ready, ?_⟩
  have underflow : router.routeVault .u256 snapshot.stakeWeights router.lastRewardsToProcess
      snapshot.vaultOperatorStakeWeight[(1 : Fin maxVaults)] =
        .error .arithmeticUnderflowError := by
    split at fails
    · rename_i failed
      rw [failed, eq_of_beq fails]
    · cases fails
  have something : router.lastRewardsToProcess ≠ 0 := by
    rw [rewards]
    decide
  have wedged : ∀ maxIterations, finish.process .u256 weightTable onlyOperator
      ((0 : Fin feeGroupCount) : ℕ) 890880 (.routeNcnRewards maxIterations) =
        .error (.custom .arithmeticUnderflowError) :=
    wedged_of_next (Account.load_eq_ok_iff.mp loaded) ready still something position underflow
  exact wedged

end NcnRouting

end TipRouter
