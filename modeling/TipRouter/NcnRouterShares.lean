import TipRouter.NcnRouterLedger
import TipRouter.Resumption
import TipRouter.RewardSplits

/-! What a routing to the vaults pays. Every vault of the operator earns the floor of
its share of the pool, and the operator gets what the floors leave. A call with a
limit either reaches the router that the loop without one ends with, or saves a
position from which the loop still leads there. -/
namespace TipRouter
open Runs

/-! ## What is owed -/

/-- What splitting rewards by the weights of a group gives to some of the vaults. -/
def outstanding (group : Fin feeGroupCount) (whole rewards : ℕ)
    (delegations : List VaultOperatorStakeWeight) : ℕ :=
  (delegations.map fun delegation =>
    rewards * delegation.stakeWeights.get (.group group) / whole).sum

section Outstanding
variable {group : Fin feeGroupCount} {whole rewards : ℕ} {vaults : List VaultOperatorStakeWeight}

@[simp] theorem outstanding_nil : outstanding group whole rewards [] = 0 := rfl

@[simp] theorem outstanding_cons (delegation : VaultOperatorStakeWeight) :
    outstanding group whole rewards (delegation :: vaults) =
      rewards * delegation.stakeWeights.get (.group group) / whole +
        outstanding group whole rewards vaults := by
  rw [outstanding, List.map_cons, List.sum_cons]
  rfl

/-- Floors of shares of a whole do not exceed what is shared. -/
theorem outstanding_le
    (total : (vaults.map fun delegation => delegation.stakeWeights.get (.group group)).sum = whole) :
    outstanding group whole rewards vaults ≤ rewards := by
  have shared := sum_shares_le rewards total
  rwa [List.map_map] at shared

theorem outstanding_take_add_drop (count : ℕ) :
    outstanding group whole rewards (vaults.take count) +
        outstanding group whole rewards (vaults.drop count) =
      outstanding group whole rewards vaults := by
  rw [outstanding, outstanding, ← List.sum_append, ← List.map_append, List.take_append_drop]
  rfl

end Outstanding

/-- The lamports that the routes hold for a vault. -/
def owedTo (routes : Vector VaultRewardRoute maxVaults) (vault : Pubkey) : ℕ :=
  Slots.total (fun route => if route.vault = vault then route.rewards else 0) routes

/-- Rewards added for a vault are held for it and for no other. -/
theorem VaultRouteAdded.owedTo_eq {routes next : Vector VaultRewardRoute maxVaults}
    {vault : Pubkey} {rewards : ℕ} (added : VaultRouteAdded routes next vault rewards)
    (table : VaultRouteTable routes) (other : Pubkey) :
    owedTo next other = owedTo routes other + if vault = other then rewards else 0 := by
  rcases added with ⟨rfl, rfl⟩ | ⟨i, rfl, own⟩
  · rw [ite_self, Nat.add_zero]
  · have written : owedTo (routes.put i ⟨vault, routes[i].rewards + rewards⟩) other +
          (if routes[i].vault = other then routes[i].rewards else 0) =
        owedTo routes other + if vault = other then routes[i].rewards + rewards else 0 :=
      Slots.total_put i _
    rcases own with own | ⟨empty, -⟩
    · rw [own] at written
      by_cases same : vault = other
      · simp only [same, if_true] at written ⊢
        omega
      · simp only [same, if_false] at written ⊢
        omega
    · have nothing := table.blank i empty
      rw [nothing, ite_self, Nat.zero_add] at written
      rw [nothing, Nat.zero_add]
      omega

/-! ## The loop without a limit -/

namespace NcnRewardRouter
variable {spl : SplMath} {router next : NcnRewardRouter} {group : Fin feeGroupCount}
variable {owners : Finset Pubkey} {stakeWeights : StakeWeights} {rewards : ℕ}
variable {vaults : List VaultOperatorStakeWeight}

def routeAllVaults (spl : SplMath) (operatorStakeWeight : StakeWeights) (rewardsToProcess : ℕ)
    (self : NcnRewardRouter) (vaults : List VaultOperatorStakeWeight) :
    Except TipRouterError NcnRewardRouter :=
  vaults.foldlM (routeVault spl operatorStakeWeight rewardsToProcess) self

/-- What routing relies on in the router: its routes are in order and of known
vaults, and its balances together with the pool are a `u64`. -/
structure Payable (router : NcnRewardRouter) (group : Fin feeGroupCount)
    (owners : Finset Pubkey) : Prop where
  group : router.ncnFeeGroup = .ofIndex group
  transit : router.rewardPool + router.rewardsProcessed < 2 ^ 64
  fits : router.allocated + router.rewardPool < 2 ^ 64
  table : VaultRouteTable router.vaultRewardRoutes
  owned : ∀ i : Fin maxVaults, router.vaultRewardRoutes[i].vault ≠ .default →
    router.vaultRewardRoutes[i].vault ∈ owners

/-- What routing relies on in the vaults it visits. -/
structure Visitable (group : Fin feeGroupCount) (owners : Finset Pubkey)
    (stakeWeights : StakeWeights) (delegation : VaultOperatorStakeWeight) : Prop where
  owner : delegation.vault ∈ owners
  loaded : delegation.vault = .default → delegation.stakeWeights = .default
  part : delegation.stakeWeights.get (.group group) ≤ stakeWeights.get (.group group)

/-- Some vaults were paid out of the pool: only the pool, what is processed and the
routes of these vaults changed. -/
def VaultsPaid (group : Fin feeGroupCount) (whole rewards : ℕ)
    (vaults : List VaultOperatorStakeWeight) (router next : NcnRewardRouter) : Prop :=
  ∃ routes, next = { router with
      rewardPool := router.rewardPool - outstanding group whole rewards vaults
      rewardsProcessed := router.rewardsProcessed + outstanding group whole rewards vaults
      vaultRewardRoutes := routes } ∧
    ∀ vault, owedTo routes vault = owedTo router.vaultRewardRoutes vault +
      outstanding group whole rewards
        (vaults.filter fun delegation => decide (delegation.vault = vault))

theorem VaultsPaid.nil {whole : ℕ} : VaultsPaid group whole rewards [] router router := by
  refine ⟨router.vaultRewardRoutes, rfl, fun vault => ?_⟩
  rw [List.filter_nil, outstanding_nil, Nat.add_zero]

theorem VaultsPaid.cons {whole : ℕ} {delegation : VaultOperatorStakeWeight}
    {middle : NcnRewardRouter} (first : VaultsPaid group whole rewards [delegation] router middle)
    (others : VaultsPaid group whole rewards vaults middle next) :
    VaultsPaid group whole rewards (delegation :: vaults) router next := by
  obtain ⟨routes, rfl, owed⟩ := first
  obtain ⟨routes', rfl, owed'⟩ := others
  refine ⟨routes', ?_, fun vault => ?_⟩
  · simp only [outstanding_cons, outstanding_nil, Nat.add_zero, Nat.sub_sub, Nat.add_assoc]
  · rw [owed', owed]
    by_cases own : delegation.vault = vault
    · simp [own, Nat.add_assoc]
    · simp [own]

/-- Rewards that the pool covers reach the route of a vault. -/
theorem Payable.poolToVault (payable : router.Payable group owners)
    (few : owners.card ≤ maxVaults) {vault : Pubkey} (owner : vault ∈ owners)
    (loaded : rewards ≠ 0 → vault ≠ .default) (covered : rewards ≤ router.rewardPool) :
    ∃ routes, (do
        let router ← router.routeFromRewardPool rewards
        router.routeToVaultRewardRoute vault rewards) = .ok { router with
          rewardPool := router.rewardPool - rewards
          rewardsProcessed := router.rewardsProcessed + rewards
          vaultRewardRoutes := routes } ∧
      VaultRouteAdded router.vaultRewardRoutes routes vault rewards ∧ VaultRouteTable routes := by
  have transit := payable.transit
  have fits := payable.fits
  by_cases nothing : rewards = 0
  · refine ⟨router.vaultRewardRoutes, ?_, .inl ⟨nothing, rfl⟩, payable.table⟩
    rw [nothing]
    rfl
  obtain ⟨middle, taken⟩ := routeFromRewardPool_of_le covered (by omega)
  obtain ⟨-, rfl⟩ := routeFromRewardPool_eq_ok taken
  have smaller : ∀ i : Fin maxVaults,
      router.vaultRewardRoutes[i].rewards + rewards < 2 ^ 64 := by
    intro i
    have part : router.vaultRewardRoutes[i].rewards ≤
        Slots.total VaultRewardRoute.rewards router.vaultRewardRoutes := Slots.le_total i
    unfold NcnRewardRouter.allocated at fits
    omega
  obtain ⟨next, given⟩ : ∃ next, NcnRewardRouter.routeToVaultRewardRoute { router with
      rewardPool := router.rewardPool - rewards
      rewardsProcessed := router.rewardsProcessed + rewards } vault rewards = .ok next :=
    routeToVaultRewardRoute_of_owner few owner payable.table payable.owned smaller
  obtain ⟨routes, added, rfl⟩ := routeToVaultRewardRoute_eq_ok given payable.table
  exact ⟨routes, bind_eq_ok.mpr ⟨_, taken, given⟩, added, added.table payable.table (loaded nothing)⟩

theorem Payable.vaultPaid (payable : router.Payable group owners) {vault : Pubkey}
    {routes : Vector VaultRewardRoute maxVaults} (owner : vault ∈ owners)
    (covered : rewards ≤ router.rewardPool)
    (added : VaultRouteAdded router.vaultRewardRoutes routes vault rewards)
    (table : VaultRouteTable routes) :
    ({ router with
      rewardPool := router.rewardPool - rewards
      rewardsProcessed := router.rewardsProcessed + rewards
      vaultRewardRoutes := routes } : NcnRewardRouter).Payable group owners := by
  have transit := payable.transit
  have fits := payable.fits
  have raised := added.total_eq
  refine ⟨payable.group, ?_, ?_, table, ?_⟩
  · dsimp only
    omega
  · unfold NcnRewardRouter.allocated at fits ⊢
    dsimp only
    omega
  · rcases added with ⟨-, rfl⟩ | ⟨i, rfl, -⟩
    · exact payable.owned
    · apply Slots.forall_put (P := fun _ (route : VaultRewardRoute) =>
        route.vault ≠ .default → route.vault ∈ owners)
      · intro _
        exact owner
      · intro j _
        exact payable.owned j

/-- The saved position is no balance. -/
theorem Payable.save (payable : router.Payable group owners) (rewardsToProcess index : ℕ) :
    (router.saveRoutingState rewardsToProcess index).Payable group owners :=
  ⟨payable.group, payable.transit, payable.fits, payable.table, payable.owned⟩

theorem routeVault_of_share {delegation : VaultOperatorStakeWeight} {share : ℕ}
    (own : router.ncnFeeGroup = .ofIndex group)
    (calculated : calculateVaultReward spl (delegation.stakeWeights.get (.group group))
      (stakeWeights.get (.group group)) rewards = .ok share)
    (moved : (do
      let router ← router.routeFromRewardPool share
      router.routeToVaultRewardRoute delegation.vault share) = .ok next) :
    router.routeVault spl stakeWeights rewards delegation = .ok next := by
  unfold NcnRewardRouter.routeVault
  rw [own, StakeWeights.ncnFeeGroupStakeWeight_ofIndex,
    StakeWeights.ncnFeeGroupStakeWeight_ofIndex, ok_bind, ok_bind, calculated, ok_bind]
  exact moved

theorem Payable.routeVault (documented : spl.Documented) (payable : router.Payable group owners)
    (few : owners.card ≤ maxVaults) {delegation : VaultOperatorStakeWeight}
    (wholeFits : stakeWeights.Fits) (rewardsFit : rewards < 2 ^ 64)
    (visitable : Visitable group owners stakeWeights delegation)
    (covered : rewards * delegation.stakeWeights.get (.group group) /
      stakeWeights.get (.group group) ≤ router.rewardPool) :
    ∃ next, router.routeVault spl stakeWeights rewards delegation = .ok next ∧
      next.Payable group owners ∧
      VaultsPaid group (stakeWeights.get (.group group)) rewards [delegation] router next := by
  have share := calculateVaultReward_exact documented visitable.part (wholeFits (.group group))
    rewardsFit
  have loaded : rewards * delegation.stakeWeights.get (.group group) /
      stakeWeights.get (.group group) ≠ 0 → delegation.vault ≠ .default := by
    intro something empty
    apply something
    rw [visitable.loaded empty, StakeWeights.default_get, Nat.mul_zero, Nat.zero_div]
  obtain ⟨routes, moved, added, table⟩ :=
    payable.poolToVault few visitable.owner loaded covered
  refine ⟨_, routeVault_of_share payable.group share moved,
    payable.vaultPaid visitable.owner covered added table, routes, ?_, ?_⟩
  · simp only [outstanding_cons, outstanding_nil, Nat.add_zero]
  · intro vault
    rw [added.owedTo_eq payable.table]
    by_cases own : delegation.vault = vault
    · simp [own]
    · simp [own]

/-- The vaults are paid one after the other as long as the pool covers them. -/
theorem Payable.routeAllVaults (documented : spl.Documented) (payable : router.Payable group owners)
    (few : owners.card ≤ maxVaults) (wholeFits : stakeWeights.Fits) (rewardsFit : rewards < 2 ^ 64)
    (visitable : ∀ delegation ∈ vaults, Visitable group owners stakeWeights delegation)
    (covered : outstanding group (stakeWeights.get (.group group)) rewards vaults ≤
      router.rewardPool) :
    ∃ next, router.routeAllVaults spl stakeWeights rewards vaults = .ok next ∧
      next.Payable group owners ∧
      VaultsPaid group (stakeWeights.get (.group group)) rewards vaults router next := by
  induction vaults generalizing router with
  | nil => exact ⟨router, rfl, payable, .nil⟩
  | cons delegation rest ih =>
    rw [outstanding_cons] at covered
    obtain ⟨middle, first, payable', paid⟩ := payable.routeVault documented few wholeFits rewardsFit
      (visitable delegation List.mem_cons_self) (Nat.le_of_add_right_le covered)
    have coveredRest : outstanding group (stakeWeights.get (.group group)) rewards rest ≤
        middle.rewardPool := by
      obtain ⟨routes, rfl, -⟩ := paid
      simp only [outstanding_cons, outstanding_nil, Nat.add_zero]
      omega
    obtain ⟨next, others, payable'', paid'⟩ := ih payable'
      (fun other member => visitable other (List.mem_cons_of_mem _ member)) coveredRest
    refine ⟨next, ?_, payable'', paid.cons paid'⟩
    rw [NcnRewardRouter.routeAllVaults, List.foldlM_cons, first, ok_bind]
    exact others

/-- Rewards that the pool covers reach the operator. -/
theorem Payable.poolToOperator (payable : router.Payable group owners)
    (covered : rewards ≤ router.rewardPool) :
    (do
      let router ← router.routeFromRewardPool rewards
      router.routeToOperatorRewards rewards) = .ok { router with
        rewardPool := router.rewardPool - rewards
        rewardsProcessed := router.rewardsProcessed + rewards
        operatorRewards := router.operatorRewards + rewards } := by
  have transit := payable.transit
  have fits := payable.fits
  unfold NcnRewardRouter.allocated at fits
  obtain ⟨middle, taken⟩ := routeFromRewardPool_of_le covered (by omega)
  obtain ⟨-, rfl⟩ := routeFromRewardPool_eq_ok taken
  obtain ⟨next, given⟩ : ∃ next, NcnRewardRouter.routeToOperatorRewards { router with
      rewardPool := router.rewardPool - rewards
      rewardsProcessed := router.rewardsProcessed + rewards } rewards = .ok next :=
    routeToOperatorRewards_of_fits (by dsimp only; omega)
  obtain rfl := routeToOperatorRewards_eq_ok given
  exact bind_eq_ok.mpr ⟨_, taken, given⟩

/-! ## The saved position does not matter inside the loop -/

section Reset

theorem routeFromRewardPool_reset :
    router.resetRoutingState.routeFromRewardPool rewards =
      (router.routeFromRewardPool rewards).map resetRoutingState := by
  unfold routeFromRewardPool incrementRewardsProcessed
  by_cases nothing : rewards = 0
  · rw [if_pos nothing, if_pos nothing]
    rfl
  · rw [if_neg nothing, if_neg nothing]
    simp only [resetRoutingState, if_neg nothing]
    cases checkedSub router.rewardPool rewards with
    | none => rfl
    | some pool =>
      simp only [okOr_some, ok_bind]
      cases checkedAdd 64 router.rewardsProcessed rewards <;> rfl

theorem routeToVaultRewardRoute_reset {vault : Pubkey} :
    router.resetRoutingState.routeToVaultRewardRoute vault rewards =
      (router.routeToVaultRewardRoute vault rewards).map resetRoutingState := by
  unfold routeToVaultRewardRoute
  by_cases nothing : rewards = 0
  · rw [if_pos nothing, if_pos nothing]
    rfl
  · rw [if_neg nothing, if_neg nothing]
    simp only [resetRoutingState]
    generalize Slots.upsert VaultRewardRoute.vault _ vault _ _ _ _ = written
    cases written <;> rfl

theorem routeVault_reset {delegation : VaultOperatorStakeWeight} :
    router.resetRoutingState.routeVault spl stakeWeights rewards delegation =
      (router.routeVault spl stakeWeights rewards delegation).map resetRoutingState := by
  have group : router.resetRoutingState.ncnFeeGroup = router.ncnFeeGroup := rfl
  unfold routeVault
  rw [group]
  cases delegation.stakeWeights.ncnFeeGroupStakeWeight router.ncnFeeGroup with
  | error failure => rfl
  | ok part =>
    simp only [ok_bind]
    cases stakeWeights.ncnFeeGroupStakeWeight router.ncnFeeGroup with
    | error failure => rfl
    | ok whole =>
      simp only [ok_bind]
      cases calculateVaultReward spl part whole rewards with
      | error failure => rfl
      | ok share =>
        simp only [ok_bind, routeFromRewardPool_reset]
        cases router.routeFromRewardPool share with
        | error failure => rfl
        | ok taken => exact routeToVaultRewardRoute_reset

theorem routeAllVaults_reset :
    router.resetRoutingState.routeAllVaults spl stakeWeights rewards vaults =
      (router.routeAllVaults spl stakeWeights rewards vaults).map resetRoutingState := by
  unfold routeAllVaults
  induction vaults generalizing router with
  | nil => rfl
  | cons delegation rest ih =>
    simp only [List.foldlM_cons, routeVault_reset]
    cases router.routeVault spl stakeWeights rewards delegation with
    | error failure => rfl
    | ok middle => exact ih

end Reset

/-! ## Calls with a limit -/

/-- The loop ends as it does without a limit, or it has used up its iterations and
saves the position of the next vault. -/
theorem routeVaults_cases {maxIterations iterations : ℕ} {out : NcnRewardRouter} (index : ℕ)
    (all : router.routeAllVaults spl stakeWeights rewards vaults = .ok out)
    (within : iterations ≤ maxIterations) (short : iterations + vaults.length < 2 ^ 16) :
    (iterations + vaults.length ≤ maxIterations ∧
      routeVaults spl stakeWeights maxIterations rewards (vaults.zipIdx index) router iterations =
        .ok (.finished out)) ∨
    ∃ (seen : ℕ) (middle : NcnRewardRouter),
      iterations + seen = maxIterations ∧ seen < vaults.length ∧
      routeVaults spl stakeWeights maxIterations rewards (vaults.zipIdx index) router iterations =
        .ok (.saved (middle.saveRoutingState rewards (index + seen))) ∧
      router.routeAllVaults spl stakeWeights rewards (vaults.take seen) = .ok middle ∧
      middle.routeAllVaults spl stakeWeights rewards (vaults.drop seen) = .ok out := by
  induction vaults generalizing router index iterations with
  | nil =>
    cases all
    exact .inl ⟨within, rfl⟩
  | cons delegation rest ih =>
    rw [List.length_cons] at short ⊢
    rw [List.zipIdx_cons, routeVaults, checkedAdd_of_lt (by omega), okOr_some, ok_bind]
    by_cases stop : iterations + 1 > maxIterations
    · rw [if_pos stop]
      exact .inr ⟨0, router, by omega, Nat.succ_pos _, rfl, rfl, all⟩
    · rw [if_neg stop]
      obtain ⟨middle, first, others⟩ := bind_eq_ok.mp all
      rw [first, ok_bind]
      rcases ih (index + 1) others (Nat.le_of_not_lt stop) (by omega) with
        ⟨enough, finished⟩ | ⟨seen, saved, used, unseen, stopped, before, after⟩
      · exact .inl ⟨by omega, finished⟩
      · refine .inr ⟨seen + 1, saved, by omega, Nat.succ_lt_succ unseen, ?_, ?_, after⟩
        · rw [stopped, Nat.add_assoc, Nat.add_comm 1]
        · rw [routeAllVaults, List.take_succ_cons, List.foldlM_cons, first, ok_bind]
          exact before

/-! ## Whole calls -/

/-- From where the router stopped, or from the start, the loop without a limit and
the remainder lead to `out`. -/
def LeadsTo (spl : SplMath) (snapshot : OperatorSnapshot) (out router : NcnRewardRouter) : Prop :=
  (do
    let self ← router.routeAllVaults spl snapshot.stakeWeights
      (router.resumeRoutingState router.rewardPool).1 (snapshot.vaultOperatorStakeWeight.toList.drop
        (router.resumeRoutingState router.rewardPool).2)
    self.resetRoutingState.routeLeftover) = .ok out

/-- The vaults that a routing has yet to see. -/
def vaultsLeft (router : NcnRewardRouter) : ℕ :=
  maxVaults - (router.resumeRoutingState router.rewardPool).2

/-- An interrupted routing that leads to `out`. -/
structure Interrupted (spl : SplMath) (snapshot : OperatorSnapshot) (out router : NcnRewardRouter) :
    Prop where
  stillRouting : router.stillRouting = true
  rewards : router.lastRewardsToProcess ≠ 0
  leads : LeadsTo spl snapshot out router
  unfinished : 0 < router.vaultsLeft

theorem resetRoutingState_of_idle (idle : router.stillRouting = false) :
    router.resetRoutingState = router := by
  simp only [stillRouting, Bool.or_eq_false_iff, bne_eq_false_iff_eq] at idle
  obtain ⟨rewards, index⟩ := idle
  rw [resetRoutingState, ← rewards, ← index]

theorem resumeRoutingState_of_idle (idle : router.stillRouting = false) (rewardsToProcess : ℕ) :
    router.resumeRoutingState rewardsToProcess = (rewardsToProcess, 0) := by
  rw [resumeRoutingState, idle]
  rfl

theorem stillRouting_reset (router : NcnRewardRouter) :
    router.resetRoutingState.stillRouting = false := by
  simp [stillRouting, resetRoutingState]

theorem stillRouting_saved {index : ℕ} (bound : index < maxVaults) :
    (router.saveRoutingState rewards index).stillRouting = true := by
  have saved : index % 2 ^ 16 ≠ u16Max := by
    unfold maxVaults at bound
    unfold u16Max
    omega
  unfold stillRouting
  rw [Bool.or_eq_true]
  exact .inr (bne_iff_ne.mpr saved)

theorem resumeRoutingState_saved {index : ℕ} (bound : index < maxVaults)
    (router : NcnRewardRouter) (rewards rewardsToProcess : ℕ) :
    (router.saveRoutingState rewards index).resumeRoutingState rewardsToProcess =
      (rewards, index) := by
  have small : index < 64 := bound
  rw [resumeRoutingState, stillRouting_saved bound]
  simp only [saveRoutingState, Nat.mod_eq_of_lt (show index < 2 ^ 16 by omega)]
  rfl

/-- Where the loop was saved makes no difference to what it leads to. -/
theorem routeAllVaults_save (router : NcnRewardRouter) (rewardsToProcess index : ℕ) :
    (do
      let self ← (router.saveRoutingState rewardsToProcess index).routeAllVaults spl stakeWeights
        rewards vaults
      self.resetRoutingState.routeLeftover) =
    (do
      let self ← router.routeAllVaults spl stakeWeights rewards vaults
      self.resetRoutingState.routeLeftover) := by
  have forget : ∀ position : NcnRewardRouter,
      (do
        let self ← position.resetRoutingState.routeAllVaults spl stakeWeights rewards vaults
        self.resetRoutingState.routeLeftover) =
      (do
        let self ← position.routeAllVaults spl stakeWeights rewards vaults
        self.resetRoutingState.routeLeftover) := by
    intro position
    rw [routeAllVaults_reset]
    cases position.routeAllVaults spl stakeWeights rewards vaults <;> rfl
  exact (forget (router.saveRoutingState rewardsToProcess index)).symm.trans (forget router)

section Calls
variable {snapshot : OperatorSnapshot} {out : NcnRewardRouter}

/-- A call that is not done has seen as many vaults as it was allowed to. -/
theorem routeRewardPool_cases (leads : LeadsTo spl snapshot out router)
    (something : (router.resumeRoutingState router.rewardPool).1 ≠ 0) (maxIterations : ℕ) :
    router.routeRewardPool spl snapshot maxIterations = .ok out ∨
      ∃ next, router.routeRewardPool spl snapshot maxIterations = .ok next ∧
        Interrupted spl snapshot out next ∧
        next.vaultsLeft + max maxIterations 1 = router.vaultsLeft := by
  have length : snapshot.vaultOperatorStakeWeight.toList.length = maxVaults := Vector.length_toList
  unfold LeadsTo at leads
  unfold routeRewardPool vaultsLeft
  generalize router.resumeRoutingState router.rewardPool = position at leads something ⊢
  obtain ⟨rewards, index⟩ := position
  obtain ⟨finished, all, leftover⟩ := bind_eq_ok.mp leads
  dsimp only at something all ⊢
  rw [if_neg something, drop_zipIdx, Nat.zero_add]
  rcases routeVaults_cases index all (Nat.zero_le (max maxIterations 1)) (by
    rw [List.length_drop, length, maxVaults]
    omega) with ⟨-, ended⟩ | ⟨seen, middle, used, unseen, stopped, -, ahead⟩
  · left
    rw [ended]
    exact leftover
  · right
    rw [List.length_drop, length] at unseen
    have bound : index + seen < maxVaults := by omega
    have position := resumeRoutingState_saved bound middle rewards
    refine ⟨middle.saveRoutingState rewards (index + seen), ?_, ⟨stillRouting_saved bound,
      something, ?_, ?_⟩, ?_⟩
    · rw [stopped]
      rfl
    · unfold LeadsTo
      rw [position, routeAllVaults_save, ← List.drop_drop, ahead, ok_bind]
      exact leftover
    · rw [vaultsLeft, position]
      exact Nat.sub_pos_of_lt bound
    · rw [position]
      dsimp only
      omega

theorem Interrupted.something (interrupted : Interrupted spl snapshot out router) :
    (router.resumeRoutingState router.rewardPool).1 ≠ 0 := by
  rw [resumeRoutingState, interrupted.stillRouting]
  exact interrupted.rewards

theorem advances (leads : LeadsTo spl snapshot out router)
    (something : (router.resumeRoutingState router.rewardPool).1 ≠ 0) :
    Advances (fun router maxIterations => router.routeRewardPool spl snapshot maxIterations)
      (Interrupted spl snapshot out) vaultsLeft out router router.vaultsLeft := by
  intro maxIterations
  rcases routeRewardPool_cases leads something maxIterations with
    finished | ⟨next, stopped, interrupted, seen⟩
  · exact ⟨out, finished, .inl rfl⟩
  · exact ⟨next, stopped, .inr ⟨interrupted, by omega⟩⟩

/-- A router that a call without a limit empties is reached by calls with any limits. -/
theorem resumable (idle : out.stillRouting = false) (empty : out.rewardPool = 0) :
    Resumable (fun router maxIterations => router.routeRewardPool spl snapshot maxIterations)
      (Interrupted spl snapshot out) vaultsLeft out where
  resumes router interrupted := advances interrupted.leads interrupted.something
  stays maxIterations := by
    rw [routeRewardPool, resumeRoutingState_of_idle idle, empty]
    rfl

end Calls

end NcnRewardRouter

/-! ## Chunks -/

/-- What the vaults of a snapshot are to a routing: their weights add up to the
operator's, and no two entries have the same vault. -/
structure OperatorSnapshot.Apportioned (snapshot : OperatorSnapshot) (group : Fin feeGroupCount) :
    Prop where
  total : Slots.total (fun delegation => delegation.stakeWeights.get (.group group))
    snapshot.vaultOperatorStakeWeight = snapshot.stakeWeights.get (.group group)
  fits : snapshot.stakeWeights.Fits
  blank : ∀ i : Fin maxVaults, snapshot.vaultOperatorStakeWeight[i].isEmpty = true →
    snapshot.vaultOperatorStakeWeight[i] = .default
  loaded : ∀ i : Fin maxVaults, snapshot.vaultOperatorStakeWeight[i].isEmpty = false →
    snapshot.vaultOperatorStakeWeight[i].vault ≠ .default
  distinct : ∀ i j : Fin maxVaults, snapshot.vaultOperatorStakeWeight[i].isEmpty = false →
    snapshot.vaultOperatorStakeWeight[j].isEmpty = false →
    snapshot.vaultOperatorStakeWeight[i].vault = snapshot.vaultOperatorStakeWeight[j].vault → i = j

/-- The vaults of the entries, the empty key among them. -/
def OperatorSnapshot.vaults (snapshot : OperatorSnapshot) : Finset Pubkey :=
  Finset.univ.image fun i : Fin maxVaults => snapshot.vaultOperatorStakeWeight[i].vault

theorem OperatorSnapshot.card_vaults_le (snapshot : OperatorSnapshot) :
    snapshot.vaults.card ≤ maxVaults := by
  refine Finset.card_image_le.trans ?_
  rw [Finset.card_univ, Fintype.card_fin]

namespace NcnRewardRouter
variable {spl : SplMath} {router : NcnRewardRouter} {group : Fin feeGroupCount}
variable {snapshot : OperatorSnapshot}

theorem visitable_of_total (loaded : snapshot.VaultsLoaded)
    (total : Slots.total (fun delegation => delegation.stakeWeights.get (.group group))
      snapshot.vaultOperatorStakeWeight = snapshot.stakeWeights.get (.group group)) :
    ∀ delegation ∈ snapshot.vaultOperatorStakeWeight.toList,
      Visitable group snapshot.vaults snapshot.stakeWeights delegation := by
  intro delegation member
  obtain ⟨i, inside, rfl⟩ := Vector.mem_iff_getElem.mp (Vector.mem_toList_iff.mp member)
  refine ⟨Finset.mem_image.mpr ⟨⟨i, inside⟩, Finset.mem_univ _, rfl⟩, loaded ⟨i, inside⟩, ?_⟩
  rw [← total]
  let weight : VaultOperatorStakeWeight → ℕ := fun entry => entry.stakeWeights.get (.group group)
  have part : weight snapshot.vaultOperatorStakeWeight[(⟨i, inside⟩ : Fin maxVaults)] ≤
      Slots.total weight snapshot.vaultOperatorStakeWeight := Slots.le_total _
  exact part

/-- What a finished routing has paid out of the pool. -/
structure Routed (snapshot : OperatorSnapshot) (group : Fin feeGroupCount)
    (pooled final : NcnRewardRouter) : Prop where
  frame : ∃ operatorRewards routes, final = { pooled with
    rewardPool := 0
    rewardsProcessed := pooled.rewardsProcessed + pooled.rewardPool
    operatorRewards := operatorRewards
    vaultRewardRoutes := routes }
  table : VaultRouteTable final.vaultRewardRoutes
  /-- A vault of the operator gains the floor of its share of the pool. -/
  vault : ∀ i : Fin maxVaults, snapshot.vaultOperatorStakeWeight[i].isEmpty = false →
    owedTo final.vaultRewardRoutes snapshot.vaultOperatorStakeWeight[i].vault =
      owedTo pooled.vaultRewardRoutes snapshot.vaultOperatorStakeWeight[i].vault +
        pooled.rewardPool * snapshot.vaultOperatorStakeWeight[i].stakeWeights.get (.group group) /
          snapshot.stakeWeights.get (.group group)
  other : ∀ vault, (∀ i : Fin maxVaults, snapshot.vaultOperatorStakeWeight[i].isEmpty = false →
      snapshot.vaultOperatorStakeWeight[i].vault ≠ vault) →
    owedTo final.vaultRewardRoutes vault = owedTo pooled.vaultRewardRoutes vault
  /-- The operator gains what the vaults leave of the pool. -/
  operator : final.operatorRewards + ∑ i : Fin maxVaults,
      pooled.rewardPool * snapshot.vaultOperatorStakeWeight[i].stakeWeights.get (.group group) /
        snapshot.stakeWeights.get (.group group) =
    pooled.operatorRewards + pooled.rewardPool

theorem Routed.of_empty (empty : router.rewardPool = 0)
    (table : VaultRouteTable router.vaultRewardRoutes) : Routed snapshot group router router where
  frame := by
    refine ⟨router.operatorRewards, router.vaultRewardRoutes, ?_⟩
    rw [empty, Nat.add_zero, ← empty]
  table := table
  vault i _ := by rw [empty, Nat.zero_mul, Nat.zero_div, Nat.add_zero]
  other _ _ := rfl
  operator := by simp [empty]

/-- The entries of one vault are owed what its entry is. -/
theorem outstanding_of_vault (apportioned : snapshot.Apportioned group) (rewards : ℕ)
    {i : Fin maxVaults} (used : snapshot.vaultOperatorStakeWeight[i].isEmpty = false) :
    outstanding group (snapshot.stakeWeights.get (.group group)) rewards
        (snapshot.vaultOperatorStakeWeight.toList.filter fun delegation =>
          decide (delegation.vault = snapshot.vaultOperatorStakeWeight[i].vault)) =
      rewards * snapshot.vaultOperatorStakeWeight[i].stakeWeights.get (.group group) /
        snapshot.stakeWeights.get (.group group) := by
  rw [outstanding, Slots.sum_filter_toList, Slots.total, Finset.sum_eq_single i]
  · exact if_pos (decide_eq_true rfl)
  · intro j _ different
    refine if_neg fun same => ?_
    have own := of_decide_eq_true same
    by_cases empty : snapshot.vaultOperatorStakeWeight[j].isEmpty = true
    · rw [apportioned.blank j empty] at own
      exact apportioned.loaded i used own.symm
    · exact different (apportioned.distinct j i (Bool.eq_false_iff.mpr empty) used own)
  · intro absent
    exact absurd (Finset.mem_univ i) absent

/-- No entry but empty ones has the key of none of the vaults. -/
theorem outstanding_of_other (apportioned : snapshot.Apportioned group) (rewards : ℕ)
    {vault : Pubkey} (other : ∀ i : Fin maxVaults,
      snapshot.vaultOperatorStakeWeight[i].isEmpty = false →
        snapshot.vaultOperatorStakeWeight[i].vault ≠ vault) :
    outstanding group (snapshot.stakeWeights.get (.group group)) rewards
      (snapshot.vaultOperatorStakeWeight.toList.filter fun delegation =>
        decide (delegation.vault = vault)) = 0 := by
  rw [outstanding, Slots.sum_filter_toList, Slots.total_eq_zero_iff]
  intro i
  by_cases empty : snapshot.vaultOperatorStakeWeight[i].isEmpty = true
  · rw [apportioned.blank i empty]
    split
    · exact (congrArg (rewards * · / _) (StakeWeights.default_get (.group group))).trans (by simp)
    · rfl
  · refine if_neg fun same => ?_
    exact other i (Bool.eq_false_iff.mpr empty) (of_decide_eq_true same)

/-- From an idle router the loop without a limit splits the whole pool. -/
theorem Payable.leadsTo (documented : spl.Documented)
    (payable : router.Payable group snapshot.vaults) (idle : router.stillRouting = false)
    (loaded : snapshot.VaultsLoaded) (apportioned : snapshot.Apportioned group) :
    ∃ final, LeadsTo spl snapshot final router ∧ Routed snapshot group router final := by
  have transit := payable.transit
  have all : (snapshot.vaultOperatorStakeWeight.toList.map fun delegation =>
      delegation.stakeWeights.get (.group group)).sum = snapshot.stakeWeights.get (.group group) := by
    rw [← apportioned.total, Slots.total_eq_sum]
  have covered : outstanding group (snapshot.stakeWeights.get (.group group)) router.rewardPool
      snapshot.vaultOperatorStakeWeight.toList ≤ router.rewardPool := outstanding_le all
  obtain ⟨paid, looped, payable', routes, rfl, owed⟩ := payable.routeAllVaults documented
    snapshot.card_vaults_le apportioned.fits (show router.rewardPool < 2 ^ 64 by omega)
    (visitable_of_total loaded apportioned.total) covered
  have pooled : outstanding group (snapshot.stakeWeights.get (.group group)) router.rewardPool
      snapshot.vaultOperatorStakeWeight.toList = ∑ i : Fin maxVaults,
        router.rewardPool * snapshot.vaultOperatorStakeWeight[i].stakeWeights.get (.group group) /
          snapshot.stakeWeights.get (.group group) := by
    rw [outstanding, ← Slots.total_eq_sum, Slots.total]
  generalize outstanding group (snapshot.stakeWeights.get (.group group)) router.rewardPool
    snapshot.vaultOperatorStakeWeight.toList = spent at covered looped payable' pooled
  have leftover := payable'.poolToOperator le_rfl
  dsimp only at leftover
  rw [Nat.sub_self, Nat.add_assoc, Nat.add_sub_cancel' covered] at leftover
  refine ⟨_, ?_, ⟨router.operatorRewards + (router.rewardPool - spent), routes, rfl⟩,
    payable'.table, fun i used => ?_, fun vault other => ?_, ?_⟩
  · unfold LeadsTo
    rw [resumeRoutingState_of_idle idle, List.drop_zero, looped, ok_bind,
      resetRoutingState_of_idle (by exact idle)]
    exact leftover
  · exact (owed _).trans (by rw [outstanding_of_vault apportioned _ used])
  · exact (owed vault).trans (by rw [outstanding_of_other apportioned _ other, Nat.add_zero])
  · dsimp only
    omega

/-- However a routing of the pool is cut into calls, every call succeeds, at most one
call for each entry of the snapshot is needed, and the router in the end is the one of
a single call that is not limited: every vault has the floor of its share and the
operator the rest. -/
theorem chunked_vault_routing_equals_one_shot (documented : spl.Documented)
    (apportioned : snapshot.Apportioned group) (ofGroup : router.ncnFeeGroup = .ofIndex group)
    (idle : router.stillRouting = false) (table : VaultRouteTable router.vaultRewardRoutes)
    (owned : ∀ i : Fin maxVaults, router.vaultRewardRoutes[i].vault ≠ .default →
      ∃ j : Fin maxVaults, snapshot.vaultOperatorStakeWeight[j].isEmpty = false ∧
        snapshot.vaultOperatorStakeWeight[j].vault = router.vaultRewardRoutes[i].vault)
    (transit : router.rewardPool + router.rewardsProcessed < 2 ^ 64)
    (fits : router.rewardPool + router.operatorRewards +
      Slots.total VaultRewardRoute.rewards router.vaultRewardRoutes < 2 ^ 64) :
    ∃ final,
      (∀ maxIterations, 64 ≤ maxIterations →
        router.routeRewardPool spl snapshot maxIterations = .ok final) ∧
      Routed snapshot group router final ∧
      ∀ limits : List ℕ, ∃ next,
        run (fun router maxIterations => router.routeRewardPool spl snapshot maxIterations) limits
          router = .ok next ∧
        (64 ≤ limits.length → next.stillRouting = false) ∧
        (limits ≠ [] → next.stillRouting = false → next = final) := by
  have loaded : snapshot.VaultsLoaded := by
    intro i empty
    by_cases used : snapshot.vaultOperatorStakeWeight[i].isEmpty = true
    · rw [apportioned.blank i used]
      rfl
    · exact absurd empty (apportioned.loaded i (Bool.eq_false_iff.mpr used))
  have payable : router.Payable group snapshot.vaults := by
    refine ⟨ofGroup, transit, ?_, table, fun i used => ?_⟩
    · unfold allocated
      omega
    · obtain ⟨j, -, own⟩ := owned i used
      exact Finset.mem_image.mpr ⟨j, Finset.mem_univ j, own⟩
  by_cases something : router.rewardPool = 0
  · -- without rewards every call returns at once
    have resumable := @resumable spl snapshot router idle something
    exact ⟨router, fun maxIterations _ => resumable.stays maxIterations,
      .of_empty something table, fun limits => ⟨router, resumable.run_final limits, fun _ => idle,
      fun _ _ => rfl⟩⟩
  obtain ⟨final, leads, routed⟩ := payable.leadsTo documented idle loaded apportioned
  have ended : final.stillRouting = false := by
    obtain ⟨operatorRewards, routes, rfl⟩ := routed.frame
    exact idle
  have emptied : final.rewardPool = 0 := by
    obtain ⟨operatorRewards, routes, rfl⟩ := routed.frame
    rfl
  have resumable := @resumable spl snapshot final ended emptied
  have position := resumeRoutingState_of_idle idle router.rewardPool
  have ahead : router.vaultsLeft = 64 := by
    rw [vaultsLeft, position]
    rfl
  have started : (router.resumeRoutingState router.rewardPool).1 ≠ 0 := by
    rw [position]
    exact something
  refine ⟨final, fun maxIterations enough => ?_, routed, fun limits => ?_⟩
  · rcases routeRewardPool_cases leads started maxIterations with
      finished | ⟨next, -, interrupted, seen⟩
    · exact finished
    · have unfinished := interrupted.unfinished
      omega
  · rw [← ahead]
    exact resumable.run_ends (fun _ interrupted => interrupted.stillRouting)
      (fun _ interrupted => interrupted.unfinished) ended (advances leads started) idle limits

/-- The two vaults have keys and entries of their own. -/
theorem ofTwoVaults_apportioned {snapshot : OperatorSnapshot}
    (taken : OperatorSnapshot.ofTwoVaults = .ok snapshot) : snapshot.Apportioned 0 := by
  have test : OperatorSnapshot.ofTwoVaults.toOption.any (fun snapshot : OperatorSnapshot =>
      decide ((∀ i : Fin maxVaults, snapshot.vaultOperatorStakeWeight[i].isEmpty = true →
        snapshot.vaultOperatorStakeWeight[i] = .default) ∧
      (∀ i : Fin maxVaults, snapshot.vaultOperatorStakeWeight[i].isEmpty = false →
        snapshot.vaultOperatorStakeWeight[i].vault ≠ .default) ∧
      (∀ i j : Fin maxVaults, snapshot.vaultOperatorStakeWeight[i].isEmpty = false →
        snapshot.vaultOperatorStakeWeight[j].isEmpty = false →
        snapshot.vaultOperatorStakeWeight[i].vault = snapshot.vaultOperatorStakeWeight[j].vault →
        i = j))) = true := by
    decide +kernel
  rw [taken] at test
  obtain ⟨blank, loaded, distinct⟩ := of_decide_eq_true test
  obtain ⟨created, initialized, taken⟩ := bind_eq_ok.mp taken
  obtain ⟨one, first, second⟩ := bind_eq_ok.mp taken
  have exact := ((OperatorSnapshot.initializeSnapshot_exact initialized).register first).register
    second
  have fits := OperatorSnapshot.incrementVaultOperatorDelegationRegistration_fits second
  exact ⟨(exact.weighed _).symm, fits.1, blank, loaded, distinct⟩

/-- Two vaults share a pool of 1001, however the routing is cut. -/
theorem chunked_vault_routing_equals_one_shot_for_two_vaults :
    ∃ (snapshot : OperatorSnapshot) (router final : NcnRewardRouter), router.rewardPool = 1001 ∧
      final.rewardPool = 0 ∧ ∀ limits : List ℕ, 64 ≤ limits.length →
        run (fun router maxIterations => router.routeRewardPool .u256 snapshot maxIterations) limits
          router = .ok final := by
  have taken : OperatorSnapshot.ofTwoVaults.toOption.any (fun _ : OperatorSnapshot => true) = true := by
    decide +kernel
  obtain ⟨snapshot, taken, -⟩ := exists_of_any taken
  let router : NcnRewardRouter :=
    { NcnRewardRouter.new (.ofIndex 0) ⟨Vector.replicate 32 4⟩ 0 .default 3 255 9 with
      totalRewards := 1001
      rewardPool := 1001 }
  have unused : ∀ i : Fin maxVaults, router.vaultRewardRoutes[i] = .default :=
    fun i => Vector.getElem_replicate _
  have nothing : Slots.total VaultRewardRoute.rewards router.vaultRewardRoutes = 0 := by
    rw [Slots.total_eq_zero_iff]
    intro i
    rw [unused i]
    rfl
  obtain ⟨final, -, routed, chunks⟩ := chunked_vault_routing_equals_one_shot
    SplMath.u256_documented (ofTwoVaults_apportioned taken)
    (show router.ncnFeeGroup = .ofIndex 0 from rfl) rfl
    ⟨fun i _ used => absurd (by rw [unused]; rfl) used, fun i _ => by rw [unused]; rfl⟩
    (fun i used => absurd (by rw [unused]; rfl) used) (by norm_num [router, NcnRewardRouter.new])
    (by rw [nothing]; norm_num [router, NcnRewardRouter.new])
  obtain ⟨operatorRewards, routes, emptied⟩ := routed.frame
  refine ⟨snapshot, router, final, rfl, by rw [emptied], fun limits enough => ?_⟩
  obtain ⟨next, ran, stops, ends⟩ := chunks limits
  have some : limits ≠ [] := fun empty => absurd (empty ▸ enough) (by decide)
  rw [ran, ends some (stops enough)]

end NcnRewardRouter

end TipRouter
