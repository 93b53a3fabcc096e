import TipRouter.BaseRouterLedger
import TipRouter.NcnRewardRouter
import TipRouter.SnapshotTotals

/-! The ledger of an NCN reward router. The operator's fee, the vaults' shares and
the remainder leave the pool for balances that are paid out one at a time, and a
deposit may arrive while the loop over the vaults is interrupted. In every state
the balances add up and the receiver can pay them. -/
namespace TipRouter
open Runs

/-! ## The snapshots routing reads -/

/-- A snapshot that registering vaults leads to; a vault is never the empty key. -/
inductive OperatorSnapshot.Reachable : OperatorSnapshot → Prop
  | created {operator ncn : Pubkey} {ncnEpoch bump currentSlot : ℕ} {isActive : Bool}
      {ncnOperatorIndex operatorIndex operatorFeeBps delegations : ℕ} {snapshot : OperatorSnapshot}
      (initialized : initializeSnapshot operator ncn ncnEpoch bump currentSlot isActive
        ncnOperatorIndex operatorIndex operatorFeeBps delegations = .ok snapshot) :
      Reachable snapshot
  | register {currentSlot vaultIndex : ℕ} {vault : Pubkey} {ncnFeeGroup : NcnFeeGroup}
      {stakeWeights : StakeWeights} {snapshot next : OperatorSnapshot}
      (reachable : Reachable snapshot) (loaded : vault ≠ .default)
      (registered : snapshot.incrementVaultOperatorDelegationRegistration currentSlot vault
        vaultIndex ncnFeeGroup stakeWeights = .ok next) : Reachable next

/-- What carries weight has a vault. -/
def OperatorSnapshot.VaultsLoaded (snapshot : OperatorSnapshot) : Prop :=
  ∀ i : Fin maxVaults, snapshot.vaultOperatorStakeWeight[i].vault = .default →
    snapshot.vaultOperatorStakeWeight[i].stakeWeights = .default

theorem OperatorSnapshot.VaultsLoaded.register {snapshot next : OperatorSnapshot}
    {currentSlot vaultIndex : ℕ} {vault : Pubkey} {ncnFeeGroup : NcnFeeGroup}
    {stakeWeights : StakeWeights} (entries : snapshot.VaultsLoaded) (loaded : vault ≠ .default)
    (registered : snapshot.incrementVaultOperatorDelegationRegistration currentSlot vault vaultIndex
      ncnFeeGroup stakeWeights = .ok next) : next.VaultsLoaded := by
  obtain ⟨-, slot, -, -, written, -⟩ := incrementVaultOperatorDelegationRegistration_eq_ok registered
  intro i
  rw [written]
  apply Slots.forall_put (P := fun _ (entry : VaultOperatorStakeWeight) =>
    entry.vault = .default → entry.stakeWeights = .default)
  · intro empty
    exact absurd empty loaded
  · intro j _
    exact entries j

theorem OperatorSnapshot.Reachable.vaultsLoaded {snapshot : OperatorSnapshot}
    (reachable : snapshot.Reachable) : snapshot.VaultsLoaded := by
  induction reachable with
  | created initialized =>
    obtain ⟨-, -, -, -, -, empty, -, -⟩ := initializeSnapshot_eq_ok initialized
    intro i _
    rw [empty, Slots.getElem_fin, Vector.getElem_replicate]
    rfl
  | register _ loaded registered ih => exact ih.register loaded registered

theorem OperatorSnapshot.VaultsLoaded.entries {snapshot : OperatorSnapshot}
    (loaded : snapshot.VaultsLoaded) :
    ∀ entry ∈ snapshot.vaultOperatorStakeWeight.toList.zipIdx,
      entry.1.vault = .default → entry.1.stakeWeights = .default := by
  rintro ⟨delegation, index⟩ member
  have here := List.mk_mem_zipIdx_iff_getElem?.mp member
  have inside : index < maxVaults := by
    simpa using (List.getElem?_eq_some_iff.mp here).1
  have same : snapshot.vaultOperatorStakeWeight[(⟨index, inside⟩ : Fin maxVaults)] =
      delegation := by
    simpa [inside] using here
  rw [← same]
  exact loaded ⟨index, inside⟩

/-- Emptying a route keeps the table. -/
theorem VaultRouteTable.clear {routes : Vector VaultRewardRoute maxVaults} {vault : Pubkey}
    {i : Fin maxVaults} (table : VaultRouteTable routes) (own : routes[i].vault = vault) :
    VaultRouteTable (routes.put i ⟨vault, 0⟩) where
  distinct := by
    apply Slots.distinct_put (fun route : VaultRewardRoute => route.vault ≠ .default)
      VaultRewardRoute.vault table.distinct
    intro used j other usedJ same
    exact other (table.distinct j i usedJ (own ▸ used) (same.trans own.symm))
  blank := by
    apply Slots.forall_put
      (P := fun _ (route : VaultRewardRoute) => route.vault = .default → route.rewards = 0)
    · intro _
      rfl
    · intro j _
      exact table.blank j

theorem VaultRewardRoute.total_clear (routes : Vector VaultRewardRoute maxVaults) (i : Fin maxVaults)
    (vault : Pubkey) :
    Slots.total VaultRewardRoute.rewards (routes.put i ⟨vault, 0⟩) + routes[i].rewards =
      Slots.total VaultRewardRoute.rewards routes := by
  have written : Slots.total VaultRewardRoute.rewards (routes.put i ⟨vault, 0⟩) +
      routes[i].rewards = Slots.total VaultRewardRoute.rewards routes + 0 := Slots.total_put i _
  rw [written, Nat.add_zero]

/-! ## Balances during routing -/

namespace NcnRewardRouter

/-- The router the loop ends with, either way. -/
def VaultsRouted.router : VaultsRouted → NcnRewardRouter
  | .finished router => router
  | .saved router => router

variable {spl : SplMath} {router next : NcnRewardRouter} {snapshot : OperatorSnapshot}

/-- Everything the router has processed and not distributed. -/
def allocated (router : NcnRewardRouter) : ℕ :=
  router.operatorRewards + Slots.total VaultRewardRoute.rewards router.vaultRewardRoutes

/-- Routing moves lamports between balances: what leaves the pool is processed,
and what is processed is allocated. -/
structure Rebalanced (router next : NcnRewardRouter) : Prop where
  total : next.totalRewards = router.totalRewards
  transit : next.rewardPool + next.rewardsProcessed = router.rewardPool + router.rewardsProcessed
  allocated : next.allocated + router.rewardsProcessed = router.allocated + next.rewardsProcessed
  table : VaultRouteTable next.vaultRewardRoutes

theorem Rebalanced.refl (table : VaultRouteTable router.vaultRewardRoutes) :
    Rebalanced router router :=
  ⟨rfl, rfl, rfl, table⟩

theorem Rebalanced.trans {middle : NcnRewardRouter} (first : Rebalanced router middle)
    (second : Rebalanced middle next) : Rebalanced router next := by
  have transit := first.transit
  have transit' := second.transit
  have allocated := first.allocated
  have allocated' := second.allocated
  exact ⟨second.total.trans first.total, by omega, by omega, second.table⟩

/-- The saved position is no balance. -/
theorem Rebalanced.save (table : VaultRouteTable router.vaultRewardRoutes)
    (rewardsToProcess index : ℕ) :
    Rebalanced router (router.saveRoutingState rewardsToProcess index) :=
  ⟨rfl, rfl, rfl, table⟩

theorem Rebalanced.reset (table : VaultRouteTable router.vaultRewardRoutes) :
    Rebalanced router router.resetRoutingState :=
  ⟨rfl, rfl, rfl, table⟩

theorem Rebalanced.poolToOperator {rewards : ℕ} (table : VaultRouteTable router.vaultRewardRoutes)
    (routed : (do
      let router ← router.routeFromRewardPool rewards
      router.routeToOperatorRewards rewards) = .ok next) : Rebalanced router next := by
  obtain ⟨middle, taken, given⟩ := bind_eq_ok.mp routed
  obtain ⟨covered, rfl⟩ := routeFromRewardPool_eq_ok taken
  obtain rfl := routeToOperatorRewards_eq_ok given
  refine ⟨rfl, ?_, ?_, table⟩
  · dsimp only
    omega
  · simp only [NcnRewardRouter.allocated]
    omega

theorem Rebalanced.poolToVault {vault : Pubkey} {rewards : ℕ} (loaded : vault ≠ .default)
    (table : VaultRouteTable router.vaultRewardRoutes)
    (routed : (do
      let router ← router.routeFromRewardPool rewards
      router.routeToVaultRewardRoute vault rewards) = .ok next) : Rebalanced router next := by
  obtain ⟨middle, taken, given⟩ := bind_eq_ok.mp routed
  obtain ⟨covered, rfl⟩ := routeFromRewardPool_eq_ok taken
  obtain ⟨routes, added, rfl⟩ := routeToVaultRewardRoute_eq_ok given table
  have raised := added.total_eq
  refine ⟨rfl, ?_, ?_, added.table table loaded⟩
  · dsimp only
    omega
  · simp only [NcnRewardRouter.allocated] at raised ⊢
    omega

/-! ## Whole routings -/

theorem ncnFeeGroupStakeWeight_default {group : NcnFeeGroup} {weight : ℕ}
    (read : StakeWeights.default.ncnFeeGroupStakeWeight group = .ok weight) : weight = 0 := by
  obtain ⟨index, -, same⟩ := bind_eq_ok.mp read
  cases same
  exact StakeWeights.default_get (.group index)

/-- An entry without a vault has no weight, so nothing is routed to it. -/
theorem routeVault_rebalanced (documented : spl.Documented) {stakeWeights : StakeWeights}
    {rewardsToProcess : ℕ} {delegation : VaultOperatorStakeWeight}
    (loaded : delegation.vault = .default → delegation.stakeWeights = .default)
    (table : VaultRouteTable router.vaultRewardRoutes)
    (routed : router.routeVault spl stakeWeights rewardsToProcess delegation = .ok next) :
    Rebalanced router next := by
  obtain ⟨weight, read, routed⟩ := bind_eq_ok.mp routed
  obtain ⟨whole, -, routed⟩ := bind_eq_ok.mp routed
  obtain ⟨reward, calculated, moved⟩ := bind_eq_ok.mp routed
  by_cases empty : delegation.vault = .default
  · rw [loaded empty] at read
    obtain rfl := ncnFeeGroupStakeWeight_default read
    have nothing : reward = 0 := by
      unfold calculateVaultReward at calculated
      split at calculated
      · cases calculated
        rfl
      · exact preciseShare_zero_part documented (by omega) calculated
    rw [nothing] at moved
    cases moved
    exact .refl table
  · exact .poolToVault empty table moved

theorem routeVaults_rebalanced (documented : spl.Documented) {stakeWeights : StakeWeights}
    {maxIterations rewardsToProcess iterations : ℕ}
    {delegations : List (VaultOperatorStakeWeight × ℕ)} {outcome : VaultsRouted}
    (loaded : ∀ entry ∈ delegations, entry.1.vault = .default → entry.1.stakeWeights = .default)
    (table : VaultRouteTable router.vaultRewardRoutes)
    (routed : routeVaults spl stakeWeights maxIterations rewardsToProcess delegations router
      iterations = .ok outcome) : Rebalanced router outcome.router := by
  induction delegations generalizing router iterations with
  | nil =>
    cases routed
    exact .refl table
  | cons entry rest ih =>
    rw [routeVaults] at routed
    obtain ⟨more, -, routed⟩ := bind_eq_ok.mp routed
    split at routed
    · cases routed
      exact .save table rewardsToProcess entry.2
    · obtain ⟨middle, stepped, remaining⟩ := bind_eq_ok.mp routed
      have first := routeVault_rebalanced documented (loaded entry List.mem_cons_self) table stepped
      refine first.trans (ih ?_ first.table remaining)
      intro other member
      exact loaded other (List.mem_cons_of_mem _ member)

theorem routeRewardPool_rebalanced (documented : spl.Documented) (loaded : snapshot.VaultsLoaded)
    {maxIterations : ℕ} (table : VaultRouteTable router.vaultRewardRoutes)
    (routed : router.routeRewardPool spl snapshot maxIterations = .ok next) :
    Rebalanced router next := by
  unfold routeRewardPool at routed
  rcases router.resumeRoutingState router.rewardPool with ⟨rewardsToProcess, starting⟩
  dsimp only at routed
  split at routed
  · cases routed
    exact .refl table
  obtain ⟨outcome, looped, routed⟩ := bind_eq_ok.mp routed
  have toVaults := routeVaults_rebalanced documented
    (fun entry member => loaded.entries entry (List.mem_of_mem_drop member)) table looped
  cases outcome with
  | saved saved =>
    cases routed
    exact toVaults
  | finished finished =>
    exact (toVaults.trans (.reset toVaults.table)).trans (.poolToOperator toVaults.table routed)

end NcnRewardRouter

theorem NcnRewardRouter.processRouteNcnRewards_eq_ok {spl : SplMath}
    {router next : NcnRewardRouter} {snapshot : OperatorSnapshot}
    {rentCost accountBalance maxIterations : ℕ}
    (routed : router.processRouteNcnRewards spl snapshot rentCost accountBalance maxIterations =
      .ok next) :
    ∃ funded, (router.stillRouting = true ∧ funded = router ∨
        router.stillRouting = false ∧
          ∃ pooled, router.routeIncomingRewards rentCost accountBalance = .ok pooled ∧
            pooled.routeOperatorRewards spl snapshot = .ok funded) ∧
      funded.routeRewardPool spl snapshot maxIterations = .ok next := by
  obtain ⟨funded, started, routed⟩ := bind_eq_ok.mp routed
  refine ⟨funded, ?_, routed⟩
  unfold startRouting at started
  split at started
  · rename_i resumed
    cases started
    exact .inl ⟨resumed, rfl⟩
  · rename_i fresh
    exact .inr ⟨Bool.eq_false_iff.mpr fresh, bind_eq_ok.mp started⟩

/-! ## The ledger -/

/-- The router, the lamports of its receiver, and what ever went in and out. -/
structure NcnLedger where
  router : NcnRewardRouter
  lamports : ℕ
  deposited : ℕ
  distributed : ℕ

/-- The instructions that move lamports of one epoch through an NCN router. -/
inductive NcnInstruction where
  | deposit (lamports : ℕ)
  | routeNcnRewards (operatorSnapshot : OperatorSnapshot) (maxIterations : ℕ)
  | distributeNcnOperatorRewards
  | distributeNcnVaultRewards (vault : Pubkey)

/-- Routing reads an operator snapshot of the program. -/
def NcnInstruction.Snapshotted : NcnInstruction → Prop
  | .routeNcnRewards operatorSnapshot _ => operatorSnapshot.Reachable
  | _ => True

namespace NcnLedger

/-- A router just created, with the rent paid into its receiver. -/
def start (ncnFeeGroup : NcnFeeGroup) (operator : Pubkey) (ncnOperatorIndex : ℕ) (ncn : Pubkey)
    (epoch bump slotCreated rentCost : ℕ) : NcnLedger where
  router := .new ncnFeeGroup operator ncnOperatorIndex ncn epoch bump slotCreated
  lamports := rentCost
  deposited := 0
  distributed := 0

def deposit (self : NcnLedger) (lamports : ℕ) : Except TransactionError NcnLedger :=
  if self.lamports + lamports < 2 ^ 64 then
    .ok { self with
      lamports := self.lamports + lamports
      deposited := self.deposited + lamports }
  else .error .lamportsOverflow

/-- The transfer out of the receiver that ends a distribution. -/
def send (self : NcnLedger) (rewards : ℕ) (router : NcnRewardRouter) :
    Except TransactionError NcnLedger :=
  if rewards ≤ self.lamports then
    .ok { self with
      router := router
      lamports := self.lamports - rewards
      distributed := self.distributed + rewards }
  else .error .insufficientLamports

def process (spl : SplMath) (rentCost : ℕ) (self : NcnLedger) :
    NcnInstruction → Except TransactionError NcnLedger
  | .deposit lamports => self.deposit lamports
  | .routeNcnRewards operatorSnapshot maxIterations => do
    let router ← (self.router.processRouteNcnRewards spl operatorSnapshot rentCost self.lamports
      maxIterations).mapError .program
    return { self with router := router }
  | .distributeNcnOperatorRewards => do
    let (rewards, router) ←
      self.router.processDistributeNcnOperatorRewards.mapError .program
    self.send rewards router
  | .distributeNcnVaultRewards vault => do
    let (rewards, router) ←
      (self.router.processDistributeNcnVaultRewards vault).mapError .program
    self.send rewards router

variable {ledger later : NcnLedger} {rentCost : ℕ}

/-- Every lamport is accounted for, in the router and in the receiver. -/
structure Balanced (rentCost : ℕ) (ledger : NcnLedger) : Prop where
  allocated : ledger.router.allocated = ledger.router.rewardsProcessed
  accounted : ledger.router.totalRewards =
    ledger.router.rewardPool + ledger.router.rewardsProcessed + ledger.distributed
  table : VaultRouteTable ledger.router.vaultRewardRoutes
  conserved : ledger.lamports + ledger.distributed = rentCost + ledger.deposited
  covered : ledger.router.totalRewards ≤ ledger.deposited

theorem start_balanced (ncnFeeGroup : NcnFeeGroup) (operator : Pubkey) (ncnOperatorIndex : ℕ)
    (ncn : Pubkey) (epoch bump slotCreated rentCost : ℕ) :
    (start ncnFeeGroup operator ncnOperatorIndex ncn epoch bump slotCreated rentCost).Balanced
      rentCost where
  allocated := by
    have noRoutes :
        Slots.total VaultRewardRoute.rewards (Vector.replicate maxVaults .default) = 0 :=
      Slots.total_replicate_zero rfl
    simp only [NcnRewardRouter.allocated, start, NcnRewardRouter.new, noRoutes]
  accounted := rfl
  table := by
    have unused : ∀ i : Fin maxVaults, (start ncnFeeGroup operator ncnOperatorIndex ncn epoch bump
        slotCreated rentCost).router.vaultRewardRoutes[i] = .default :=
      fun i => Vector.getElem_replicate _
    constructor
    · intro i _ used
      exact absurd (by rw [unused]; rfl) used
    · intro i _
      rw [unused]
      rfl
  conserved := rfl
  covered := le_rfl

namespace Balanced

/-- What moves between balances leaves the ledger balanced. -/
theorem rebalanced (balanced : ledger.Balanced rentCost) {router : NcnRewardRouter}
    (moved : ledger.router.Rebalanced router) :
    ({ ledger with router := router } : NcnLedger).Balanced rentCost := by
  have allocated := balanced.allocated
  have accounted := balanced.accounted
  have transit := moved.transit
  have reallocated := moved.allocated
  have total := moved.total
  refine ⟨?_, ?_, moved.table, balanced.conserved, ?_⟩
  · dsimp only
    omega
  · dsimp only
    omega
  · rw [total]
    exact balanced.covered

/-- What arrived enters the pool. -/
theorem incoming (balanced : ledger.Balanced rentCost) {router : NcnRewardRouter}
    (routed : ledger.router.routeIncomingRewards rentCost ledger.lamports = .ok router) :
    ({ ledger with router := router } : NcnLedger).Balanced rentCost := by
  obtain ⟨incoming, holds, rfl⟩ := NcnRewardRouter.routeIncomingRewards_eq_ok routed
  have accounted := balanced.accounted
  have conserved := balanced.conserved
  refine ⟨balanced.allocated, ?_, balanced.table, conserved, ?_⟩
  · dsimp only
    omega
  · dsimp only
    omega

theorem route {spl : SplMath} (documented : spl.Documented) (balanced : ledger.Balanced rentCost)
    {router : NcnRewardRouter} {snapshot : OperatorSnapshot} {maxIterations : ℕ}
    (loaded : snapshot.VaultsLoaded)
    (routed : ledger.router.processRouteNcnRewards spl snapshot rentCost ledger.lamports
      maxIterations = .ok router) :
    ({ ledger with router := router } : NcnLedger).Balanced rentCost := by
  obtain ⟨funded, start, routed⟩ := NcnRewardRouter.processRouteNcnRewards_eq_ok routed
  have begun : ({ ledger with router := funded } : NcnLedger).Balanced rentCost := by
    rcases start with ⟨-, rfl⟩ | ⟨-, pooled, funding, charged⟩
    · exact balanced
    · have holds := balanced.incoming funding
      obtain ⟨fee, -, moved⟩ := bind_eq_ok.mp charged
      exact holds.rebalanced (.poolToOperator holds.table moved)
  exact begun.rebalanced
    (NcnRewardRouter.routeRewardPool_rebalanced documented loaded begun.table routed)

/-- A distribution takes from the router what it sends. -/
theorem send (balanced : ledger.Balanced rentCost) {router : NcnRewardRouter} {rewards : ℕ}
    (sent : ledger.send rewards router = .ok later)
    (allocated : router.allocated + rewards = ledger.router.allocated)
    (processed : router.rewardsProcessed + rewards = ledger.router.rewardsProcessed)
    (pool : router.rewardPool = ledger.router.rewardPool)
    (total : router.totalRewards = ledger.router.totalRewards)
    (table : VaultRouteTable router.vaultRewardRoutes) : later.Balanced rentCost := by
  unfold NcnLedger.send at sent
  split at sent
  · rename_i covered
    cases sent
    have before := balanced.allocated
    have accounted := balanced.accounted
    have conserved := balanced.conserved
    have deposited := balanced.covered
    refine ⟨?_, ?_, table, ?_, ?_⟩ <;> dsimp only <;> omega
  · cases sent

theorem distributeOperator (balanced : ledger.Balanced rentCost) {router : NcnRewardRouter}
    {rewards : ℕ}
    (taken : ledger.router.processDistributeNcnOperatorRewards = .ok (rewards, router))
    (sent : ledger.send rewards router = .ok later) : later.Balanced rentCost := by
  unfold NcnRewardRouter.processDistributeNcnOperatorRewards at taken
  split at taken
  · cases taken
  obtain ⟨rfl, covered, rfl⟩ := NcnRewardRouter.distributeOperatorRewards_eq_ok taken
  refine balanced.send sent ?_ ?_ rfl rfl balanced.table
  · simp only [NcnRewardRouter.allocated]
    omega
  · dsimp only
    omega

theorem distributeVault (balanced : ledger.Balanced rentCost) {router : NcnRewardRouter}
    {rewards : ℕ} {vault : Pubkey}
    (taken : ledger.router.processDistributeNcnVaultRewards vault = .ok (rewards, router))
    (sent : ledger.send rewards router = .ok later) : later.Balanced rentCost := by
  unfold NcnRewardRouter.processDistributeNcnVaultRewards at taken
  split at taken
  · cases taken
  obtain ⟨i, own, rfl, covered, rfl⟩ := NcnRewardRouter.distributeVaultRewardRoute_eq_ok taken
  have cleared := VaultRewardRoute.total_clear ledger.router.vaultRewardRoutes i vault
  refine balanced.send sent ?_ ?_ rfl rfl (balanced.table.clear own)
  · simp only [NcnRewardRouter.allocated]
    omega
  · dsimp only
    omega

/-- One instruction keeps the ledger balanced. -/
theorem process {spl : SplMath} (documented : spl.Documented) {instruction : NcnInstruction}
    (balanced : ledger.Balanced rentCost) (snapshotted : instruction.Snapshotted)
    (processed : ledger.process spl rentCost instruction = .ok later) :
    later.Balanced rentCost := by
  cases instruction with
  | deposit lamports =>
    have deposited : ledger.deposit lamports = .ok later := processed
    unfold NcnLedger.deposit at deposited
    split at deposited
    · cases deposited
      have conserved := balanced.conserved
      have covered := balanced.covered
      refine ⟨balanced.allocated, balanced.accounted, balanced.table, ?_, ?_⟩ <;>
        dsimp only <;> omega
    · cases deposited
  | routeNcnRewards operatorSnapshot maxIterations =>
    obtain ⟨router, routed, same⟩ := bind_eq_ok.mp processed
    cases same
    have loaded := OperatorSnapshot.Reachable.vaultsLoaded snapshotted
    exact balanced.route documented loaded (mapError_eq_ok.mp routed)
  | distributeNcnOperatorRewards =>
    obtain ⟨⟨rewards, router⟩, taken, sent⟩ := bind_eq_ok.mp processed
    exact balanced.distributeOperator (mapError_eq_ok.mp taken) sent
  | distributeNcnVaultRewards vault =>
    obtain ⟨⟨rewards, router⟩, taken, sent⟩ := bind_eq_ok.mp processed
    exact balanced.distributeVault (mapError_eq_ok.mp taken) sent

theorem run {spl : SplMath} (documented : spl.Documented) {history : List NcnInstruction}
    (balanced : ledger.Balanced rentCost)
    (snapshotted : ∀ instruction ∈ history, instruction.Snapshotted)
    (ran : Runs.run (NcnLedger.process spl rentCost) history ledger = .ok later) :
    later.Balanced rentCost :=
  foldlM_invariant (fun instruction member _ _ holds processed =>
    holds.process documented (snapshotted instruction member) processed) balanced ran

end Balanced

end NcnLedger

/-- After every instruction an NCN router has allocated what it processed, its
total is what it still holds and what it distributed, no vault has two routes, and
the receiver holds its rent and all that is in transit. -/
theorem ncn_ledger_balances {spl : SplMath} (documented : spl.Documented)
    {history : List NcnInstruction} {ncnFeeGroup : NcnFeeGroup} {operator ncn : Pubkey}
    {ncnOperatorIndex epoch bump slotCreated rentCost : ℕ} {ledger : NcnLedger}
    (snapshotted : ∀ instruction ∈ history, instruction.Snapshotted)
    (ran : run (NcnLedger.process spl rentCost) history
      (.start ncnFeeGroup operator ncnOperatorIndex ncn epoch bump slotCreated rentCost) =
        .ok ledger) :
    ledger.router.rewardsProcessed = ledger.router.operatorRewards +
        ∑ i : Fin maxVaults, ledger.router.vaultRewardRoutes[i].rewards ∧
      ledger.router.totalRewards =
        ledger.router.rewardPool + ledger.router.rewardsProcessed + ledger.distributed ∧
      (∀ i j : Fin maxVaults, ledger.router.vaultRewardRoutes[i].vault ≠ .default →
        ledger.router.vaultRewardRoutes[i].vault = ledger.router.vaultRewardRoutes[j].vault →
        i = j) ∧
      rentCost + ledger.router.rewardPool + ledger.router.rewardsProcessed ≤ ledger.lamports := by
  have balanced := (NcnLedger.start_balanced ncnFeeGroup operator ncnOperatorIndex ncn epoch bump
    slotCreated rentCost).run documented snapshotted ran
  have accounted := balanced.accounted
  have conserved := balanced.conserved
  have covered := balanced.covered
  refine ⟨balanced.allocated.symm, accounted, ?_, by omega⟩
  intro i j used same
  exact balanced.table.distinct i j used (fun empty => used (same.trans empty)) same

/-- An active operator with a fee of 10% and two vaults, with weights 30 and 70. -/
def OperatorSnapshot.ofTwoVaults : Except TipRouterError OperatorSnapshot := do
  let self ← initializeSnapshot ⟨Vector.replicate 32 4⟩ .default 3 255 7 true 0 0 1000 2
  let self ← self.incrementVaultOperatorDelegationRegistration 8 ⟨Vector.replicate 32 1⟩ 0 .default
    (.inDefaultGroup 30)
  self.incrementVaultOperatorDelegationRegistration 8 ⟨Vector.replicate 32 2⟩ 1 .default
    (.inDefaultGroup 70)

theorem OperatorSnapshot.ofTwoVaults_reachable {snapshot : OperatorSnapshot}
    (taken : ofTwoVaults = .ok snapshot) : snapshot.Reachable := by
  obtain ⟨created, initialized, taken⟩ := bind_eq_ok.mp taken
  obtain ⟨one, registered, taken⟩ := bind_eq_ok.mp taken
  exact .register (.register (.created initialized) (by decide) registered) (by decide) taken

/-- Routing stops before the second vault, a deposit arrives, routing resumes, and
the operator and a vault are paid. -/
theorem ncn_ledger_balances_after_interruption :
    ∃ ledger : NcnLedger, ledger.distributed = 371 ∧
      ledger.router.totalRewards =
        ledger.router.rewardPool + ledger.router.rewardsProcessed + ledger.distributed := by
  have runs : (do
      let snapshot ← OperatorSnapshot.ofTwoVaults.mapError TransactionError.program
      let ledger ← run (NcnLedger.process .u256 890880)
        [.deposit 1001, .routeNcnRewards snapshot 1, .deposit 5, .routeNcnRewards snapshot 64,
          .distributeNcnOperatorRewards, .distributeNcnVaultRewards ⟨Vector.replicate 32 1⟩]
        (.start .default ⟨Vector.replicate 32 4⟩ 0 .default 3 255 4 890880)
      return (snapshot, ledger)).toOption.any
        (fun result : OperatorSnapshot × NcnLedger => result.2.distributed == 371) = true := by
    decide +kernel
  obtain ⟨⟨snapshot, ledger⟩, both, paid⟩ := exists_of_any runs
  obtain ⟨_, taken, both⟩ := bind_eq_ok.mp both
  obtain ⟨_, ran, same⟩ := bind_eq_ok.mp both
  cases same
  have reachable := OperatorSnapshot.ofTwoVaults_reachable (mapError_eq_ok.mp taken)
  refine ⟨ledger, by simpa using paid,
    (ncn_ledger_balances SplMath.u256_documented (fun instruction member => ?_) ran).2.1⟩
  simp only [List.mem_cons, List.not_mem_nil, or_false] at member
  rcases member with rfl | rfl | rfl | rfl | rfl | rfl
  · trivial
  · exact reachable
  · trivial
  · exact reachable
  · trivial
  · trivial

end TipRouter
