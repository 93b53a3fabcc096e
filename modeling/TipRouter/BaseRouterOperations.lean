import TipRouter.BaseRewardRouter

/-! What each mutator of the base reward router does to its balances: the exact
new account when it succeeds, and when it is sure to succeed. Later modules use
these and never unfold a mutator. -/
namespace TipRouter
open Runs

/-! ## Routes -/

variable {routes next : Vector NcnRewardRoute maxOperators} {operator : Pubkey}
variable {group : Fin feeGroupCount} {rewards : ℕ}

/-- One route for an operator, and nothing in the routes of the empty key. -/
structure RouteTable (routes : Vector NcnRewardRoute maxOperators) : Prop where
  distinct : ∀ i j : Fin maxOperators, routes[i].operator ≠ .default →
    routes[j].operator ≠ .default → routes[i].operator = routes[j].operator → i = j
  blank : ∀ i : Fin maxOperators, routes[i].operator = .default →
    routes[i].ncnFeeGroupRewards = Vector.replicate feeGroupCount 0

/-- All that one operator is owed in a group. -/
def owed (routes : Vector NcnRewardRoute maxOperators) (operator : Pubkey)
    (group : Fin feeGroupCount) : ℕ :=
  Slots.total (fun route : NcnRewardRoute =>
    if route.operator = operator then route.ncnFeeGroupRewards[group] else 0) routes

/-- All that is owed to operators. -/
def owedTotal (routes : Vector NcnRewardRoute maxOperators) : ℕ :=
  Slots.total (fun route : NcnRewardRoute =>
    Slots.total (fun rewards => rewards) route.ncnFeeGroupRewards) routes

namespace NcnRewardRoute

/-- A route with more in one group. -/
def add (route : NcnRewardRoute) (operator : Pubkey) (group : Fin feeGroupCount) (rewards : ℕ) :
    NcnRewardRoute where
  operator := operator
  ncnFeeGroupRewards :=
    route.ncnFeeGroupRewards.put group (route.ncnFeeGroupRewards[group] + rewards)

theorem new_ofIndex :
    NcnRewardRoute.new operator (.ofIndex group) rewards =
      .ok ⟨operator, (Vector.replicate feeGroupCount 0).put group rewards⟩ := by
  simp [NcnRewardRoute.new, setRewards, pure, Except.pure]

theorem rewards_ofIndex (route : NcnRewardRoute) :
    route.rewards (.ofIndex group) = .ok route.ncnFeeGroupRewards[group] := by
  simp [NcnRewardRoute.rewards, pure, Except.pure]

theorem updateRewards_ofIndex {checked : ℕ → ℕ → Option ℕ} {route result : NcnRewardRoute} :
    route.updateRewards checked (.ofIndex group) rewards = .ok result ↔
      ∃ updated, checked route.ncnFeeGroupRewards[group] rewards = some updated ∧
        { route with
          ncnFeeGroupRewards := route.ncnFeeGroupRewards.put group updated } = result := by
  simp only [updateRewards, rewards_ofIndex, ok_bind, bind_eq_ok, okOr_eq_ok_iff, setRewards,
    NcnFeeGroup.groupIndex_ofIndex, pure_eq_ok_iff]

end NcnRewardRoute

/-- The routes after rewards of an operator were added. -/
def RouteAdded (routes next : Vector NcnRewardRoute maxOperators) (operator : Pubkey)
    (group : Fin feeGroupCount) (rewards : ℕ) : Prop :=
  (rewards = 0 ∧ next = routes) ∨
    ∃ i : Fin maxOperators, next = routes.put i (routes[i].add operator group rewards) ∧
      (routes[i].operator = operator ∨
        (routes[i].operator = .default ∧ ∀ j : Fin maxOperators, routes[j].operator ≠ operator))

theorem RouteAdded.table (added : RouteAdded routes next operator group rewards)
    (table : RouteTable routes) (loaded : operator ≠ .default) : RouteTable next := by
  rcases added with ⟨-, rfl⟩ | ⟨i, rfl, own⟩
  · exact table
  · constructor
    · refine Slots.distinct_put (fun route : NcnRewardRoute => route.operator ≠ .default)
        NcnRewardRoute.operator table.distinct fun _ j other used same => ?_
      rcases own with own | ⟨-, absent⟩
      · exact other (table.distinct j i used (own.trans_ne loaded) (same.trans own.symm))
      · exact absent j same
    · exact Slots.forall_put
        (P := fun _ (route : NcnRewardRoute) => route.operator = .default →
          route.ncnFeeGroupRewards = Vector.replicate feeGroupCount 0)
        (fun empty => absurd empty loaded) fun j _ => table.blank j

/-- Every key in use before or after the addition is the operator's or was used. -/
theorem RouteAdded.known (added : RouteAdded routes next operator group rewards) {P : Pubkey → Prop}
    (known : ∀ i : Fin maxOperators, routes[i].operator ≠ .default → P routes[i].operator)
    (new : P operator) (i : Fin maxOperators) (used : next[i].operator ≠ .default) :
    P next[i].operator := by
  rcases added with ⟨-, rfl⟩ | ⟨j, rfl, -⟩
  · exact known i used
  · exact Slots.forall_put
      (P := fun _ (route : NcnRewardRoute) => route.operator ≠ .default → P route.operator)
      (fun _ => new) (fun k _ => known k) i used

private theorem total_add_reward (route : NcnRewardRoute) :
    Slots.total (fun rewards => rewards) (route.add operator group rewards).ncnFeeGroupRewards =
      Slots.total (fun rewards => rewards) route.ncnFeeGroupRewards + rewards := by
  have written : Slots.total (fun rewards => rewards) (route.ncnFeeGroupRewards.put group
      (route.ncnFeeGroupRewards[group] + rewards)) + route.ncnFeeGroupRewards[group] =
      Slots.total (fun rewards => rewards) route.ncnFeeGroupRewards +
        (route.ncnFeeGroupRewards[group] + rewards) := Slots.total_put _ _
  simp only [NcnRewardRoute.add]
  omega

/-- Writing a route trades what it owed for what it owes now. -/
theorem owedTotal_set (routes : Vector NcnRewardRoute maxOperators) (i : Fin maxOperators)
    (route : NcnRewardRoute) :
    owedTotal (routes.put i route) +
        Slots.total (fun rewards => rewards) routes[i].ncnFeeGroupRewards =
      owedTotal routes + Slots.total (fun rewards => rewards) route.ncnFeeGroupRewards :=
  Slots.total_put i route

private theorem owed_set (routes : Vector NcnRewardRoute maxOperators) (i : Fin maxOperators)
    (route : NcnRewardRoute) (other : Pubkey) (otherGroup : Fin feeGroupCount) :
    owed (routes.put i route) other otherGroup +
        (if routes[i].operator = other then routes[i].ncnFeeGroupRewards[otherGroup] else 0) =
      owed routes other otherGroup +
        if route.operator = other then route.ncnFeeGroupRewards[otherGroup] else 0 :=
  Slots.total_put i route

theorem RouteAdded.owedTotal_eq (added : RouteAdded routes next operator group rewards) :
    owedTotal next = owedTotal routes + rewards := by
  rcases added with ⟨rfl, rfl⟩ | ⟨i, rfl, -⟩
  · rw [Nat.add_zero]
  · have written := owedTotal_set routes i (routes[i].add operator group rewards)
    rw [total_add_reward] at written
    omega

/-- Only the operator gains, and only in the group. -/
theorem RouteAdded.owed_eq (added : RouteAdded routes next operator group rewards)
    (table : RouteTable routes) (other : Pubkey) (otherGroup : Fin feeGroupCount) :
    owed next other otherGroup =
      owed routes other otherGroup + if other = operator ∧ otherGroup = group then rewards else 0 := by
  rcases added with ⟨rfl, rfl⟩ | ⟨i, rfl, own⟩
  · simp
  · have written := owed_set routes i (routes[i].add operator group rewards) other otherGroup
    have before : (if routes[i].operator = other then routes[i].ncnFeeGroupRewards[otherGroup]
        else 0) = if operator = other then routes[i].ncnFeeGroupRewards[otherGroup] else 0 := by
      rcases own with own | ⟨empty, -⟩
      · rw [own]
      · have nothing : routes[i].ncnFeeGroupRewards[otherGroup] = 0 := by
          rw [table.blank i empty]
          exact Vector.getElem_replicate _
        rw [nothing, ite_self, ite_self]
    have here : (routes[i].add operator group rewards).ncnFeeGroupRewards[otherGroup] =
        routes[i].ncnFeeGroupRewards[otherGroup] + if otherGroup = group then rewards else 0 := by
      simp only [NcnRewardRoute.add, Slots.getElem_put_fin]
      by_cases same : group = otherGroup
      · simp [same]
      · simp [same, Ne.symm same]
    rw [before, here] at written
    rcases eq_or_ne other operator with rfl | same
    · simp only [NcnRewardRoute.add, if_true, true_and] at written ⊢
      omega
    · simp only [NcnRewardRoute.add, Ne.symm same, same, false_and, if_false] at written ⊢
      omega

/-! ## Counters -/

namespace BaseRewardRouter
variable {router next : BaseRewardRouter}

theorem routeToRewardPool_of_fits (total : router.totalRewards + rewards < 2 ^ 64)
    (pool : router.rewardPool + rewards < 2 ^ 64) :
    router.routeToRewardPool rewards = .ok { router with
      totalRewards := router.totalRewards + rewards
      rewardPool := router.rewardPool + rewards } := by
  unfold routeToRewardPool
  split
  · rename_i nothing
    rw [nothing]
    rfl
  · rw [checkedAdd_of_lt total, checkedAdd_of_lt pool]
    rfl

theorem routeToRewardPool_eq_ok (routed : router.routeToRewardPool rewards = .ok next) :
    next = { router with
      totalRewards := router.totalRewards + rewards
      rewardPool := router.rewardPool + rewards } := by
  unfold routeToRewardPool at routed
  split at routed
  · rename_i nothing
    cases routed
    rw [nothing]
    rfl
  · simp only [bind_eq_ok, okOr_eq_ok_iff, checkedAdd_eq_some_iff, pure_eq_ok_iff] at routed
    obtain ⟨total, ⟨-, rfl⟩, pool, ⟨-, rfl⟩, rfl⟩ := routed
    rfl

/-- What the receiver holds beyond its rent and the rewards in transit enters
the pool. -/
theorem routeIncomingRewards_eq_ok {rentCost accountBalance : ℕ}
    (routed : router.routeIncomingRewards rentCost accountBalance = .ok next) :
    ∃ incoming, accountBalance =
        rentCost + router.rewardPool + router.rewardsProcessed + incoming ∧
      next = { router with
        totalRewards := router.totalRewards + incoming
        rewardPool := router.rewardPool + incoming } := by
  simp only [routeIncomingRewards, totalRewardsInTransit, bind_eq_ok, okOr_eq_ok_iff,
    checkedAdd_eq_some_iff, checkedSub_eq_some_iff] at routed
  obtain ⟨transit, ⟨-, rfl⟩, above, ⟨covered, rfl⟩, incoming, ⟨rent, rfl⟩, pooled⟩ := routed
  exact ⟨_, by omega, routeToRewardPool_eq_ok pooled⟩

theorem incrementRewardsProcessed_of_fits (fits : router.rewardsProcessed + rewards < 2 ^ 64) :
    router.incrementRewardsProcessed rewards =
      .ok { router with rewardsProcessed := router.rewardsProcessed + rewards } := by
  unfold incrementRewardsProcessed
  split
  · rename_i nothing
    rw [nothing]
    rfl
  · rw [checkedAdd_of_lt fits]
    rfl

theorem incrementRewardsProcessed_eq_ok
    (incremented : router.incrementRewardsProcessed rewards = .ok next) :
    next = { router with rewardsProcessed := router.rewardsProcessed + rewards } := by
  unfold incrementRewardsProcessed at incremented
  split at incremented
  · rename_i nothing
    cases incremented
    rw [nothing]
    rfl
  · simp only [bind_eq_ok, okOr_eq_ok_iff, checkedAdd_eq_some_iff, pure_eq_ok_iff] at incremented
    obtain ⟨processed, ⟨-, rfl⟩, rfl⟩ := incremented
    rfl

theorem decrementRewardsProcessed_eq_ok
    (decremented : router.decrementRewardsProcessed rewards = .ok next) :
    rewards ≤ router.rewardsProcessed ∧
      next = { router with rewardsProcessed := router.rewardsProcessed - rewards } := by
  unfold decrementRewardsProcessed at decremented
  split at decremented
  · rename_i nothing
    cases decremented
    rw [nothing]
    exact ⟨Nat.zero_le _, rfl⟩
  · simp only [bind_eq_ok, okOr_eq_ok_iff, checkedSub_eq_some_iff, pure_eq_ok_iff] at decremented
    obtain ⟨processed, ⟨covered, rfl⟩, rfl⟩ := decremented
    exact ⟨covered, rfl⟩

theorem routeFromRewardPool_of_le (covered : rewards ≤ router.rewardPool)
    (fits : router.rewardsProcessed + rewards < 2 ^ 64) :
    router.routeFromRewardPool rewards = .ok { router with
      rewardPool := router.rewardPool - rewards
      rewardsProcessed := router.rewardsProcessed + rewards } := by
  unfold routeFromRewardPool
  split
  · rename_i nothing
    rw [nothing]
    rfl
  · rw [checkedSub_of_le covered]
    exact incrementRewardsProcessed_of_fits fits

theorem routeFromRewardPool_eq_ok (routed : router.routeFromRewardPool rewards = .ok next) :
    rewards ≤ router.rewardPool ∧ next = { router with
      rewardPool := router.rewardPool - rewards
      rewardsProcessed := router.rewardsProcessed + rewards } := by
  unfold routeFromRewardPool at routed
  split at routed
  · rename_i nothing
    cases routed
    rw [nothing]
    exact ⟨Nat.zero_le _, rfl⟩
  · simp only [bind_eq_ok, okOr_eq_ok_iff, checkedSub_eq_some_iff] at routed
    obtain ⟨pool, ⟨covered, rfl⟩, incremented⟩ := routed
    exact ⟨covered, incrementRewardsProcessed_eq_ok incremented⟩

/-! ## Group balances -/

@[simp] theorem baseFeeGroupReward_ofIndex :
    router.baseFeeGroupReward (.ofIndex group) = .ok router.baseFeeGroupRewards[group] := by
  simp [baseFeeGroupReward, pure, Except.pure]

@[simp] theorem ncnFeeGroupReward_ofIndex :
    router.ncnFeeGroupReward (.ofIndex group) = .ok router.ncnFeeGroupRewards[group] := by
  simp [ncnFeeGroupReward, pure, Except.pure]

theorem routeToBaseFeeGroupRewards_of_fits
    (fits : router.baseFeeGroupRewards[group] + rewards < 2 ^ 64) :
    router.routeToBaseFeeGroupRewards (.ofIndex group) rewards = .ok { router with
      baseFeeGroupRewards :=
        router.baseFeeGroupRewards.put group (router.baseFeeGroupRewards[group] + rewards) } := by
  unfold routeToBaseFeeGroupRewards
  split
  · rename_i nothing
    simp [nothing]
  · simp only [BaseFeeGroup.groupIndex_ofIndex, ok_bind, baseFeeGroupReward_ofIndex,
      checkedAdd_of_lt fits, okOr_some]
    rfl

theorem routeToBaseFeeGroupRewards_eq_ok
    (routed : router.routeToBaseFeeGroupRewards (.ofIndex group) rewards = .ok next) :
    next = { router with
      baseFeeGroupRewards :=
        router.baseFeeGroupRewards.put group (router.baseFeeGroupRewards[group] + rewards) } := by
  unfold routeToBaseFeeGroupRewards at routed
  split at routed
  · rename_i nothing
    cases routed
    simp [nothing]
  · simp only [BaseFeeGroup.groupIndex_ofIndex, ok_bind, baseFeeGroupReward_ofIndex, bind_eq_ok,
      okOr_eq_ok_iff, checkedAdd_eq_some_iff, pure_eq_ok_iff] at routed
    obtain ⟨updated, ⟨-, rfl⟩, rfl⟩ := routed
    rfl

theorem distributeBaseFeeGroupRewards_eq_ok {base : BaseFeeGroup} {taken : ℕ}
    (distributed : router.distributeBaseFeeGroupRewards base = .ok (taken, next)) :
    ∃ group : Fin feeGroupCount, taken = router.baseFeeGroupRewards[group] ∧
      taken ≤ router.rewardsProcessed ∧ next = { router with
        baseFeeGroupRewards := router.baseFeeGroupRewards.put group 0
        rewardsProcessed := router.rewardsProcessed - taken } := by
  simp only [distributeBaseFeeGroupRewards, bind_eq_ok, okOr_eq_ok_iff, checkedSub_eq_some_iff,
    pure_eq_ok_iff] at distributed
  obtain ⟨group, isGroup, rewards, balance, left, ⟨-, rfl⟩, processed, decremented, same⟩ :=
    distributed
  rw [BaseFeeGroup.groupIndex_eq_ok_iff.mp isGroup, baseFeeGroupReward_ofIndex] at balance
  cases balance
  obtain ⟨covered, rfl⟩ := decrementRewardsProcessed_eq_ok decremented
  cases same
  refine ⟨group, rfl, covered, ?_⟩
  rw [Nat.sub_self]

/-- The two updates of an NCN group balance, as one: `value` is what `checked`
computes when it computes something. -/
private theorem updateNcnFeeGroupRewards_of_some {checked : ℕ → ℕ → Option ℕ}
    {failure : TipRouterError} {value : ℕ → ℕ → ℕ} (zero : ∀ current, value current 0 = current)
    (updated : checked router.ncnFeeGroupRewards[group] rewards =
      some (value router.ncnFeeGroupRewards[group] rewards)) :
    router.updateNcnFeeGroupRewards checked failure (.ofIndex group) rewards =
      .ok { router with
        ncnFeeGroupRewards :=
          router.ncnFeeGroupRewards.put group (value router.ncnFeeGroupRewards[group] rewards) } := by
  unfold updateNcnFeeGroupRewards
  split
  · rename_i nothing
    simp [nothing, zero]
  · simp only [NcnFeeGroup.groupIndex_ofIndex, ok_bind, ncnFeeGroupReward_ofIndex, updated, okOr_some]
    rfl

private theorem updateNcnFeeGroupRewards_eq_ok {checked : ℕ → ℕ → Option ℕ}
    {failure : TipRouterError} {value : ℕ → ℕ → ℕ} (zero : ∀ current, value current 0 = current)
    (computes : ∀ {result}, checked router.ncnFeeGroupRewards[group] rewards = some result →
      result = value router.ncnFeeGroupRewards[group] rewards)
    (routed : router.updateNcnFeeGroupRewards checked failure (.ofIndex group) rewards = .ok next) :
    (rewards = 0 ∨ ∃ result, checked router.ncnFeeGroupRewards[group] rewards = some result) ∧
      next = { router with
        ncnFeeGroupRewards :=
          router.ncnFeeGroupRewards.put group (value router.ncnFeeGroupRewards[group] rewards) } := by
  unfold updateNcnFeeGroupRewards at routed
  split at routed
  · rename_i nothing
    cases routed
    exact ⟨.inl nothing, by simp [nothing, zero]⟩
  · simp only [NcnFeeGroup.groupIndex_ofIndex, ok_bind, ncnFeeGroupReward_ofIndex, bind_eq_ok,
      okOr_eq_ok_iff, pure_eq_ok_iff] at routed
    obtain ⟨result, updated, rfl⟩ := routed
    exact ⟨.inr ⟨result, updated⟩, by rw [computes updated]⟩

theorem routeToNcnFeeGroupRewards_of_fits
    (fits : router.ncnFeeGroupRewards[group] + rewards < 2 ^ 64) :
    router.routeToNcnFeeGroupRewards (.ofIndex group) rewards = .ok { router with
      ncnFeeGroupRewards :=
        router.ncnFeeGroupRewards.put group (router.ncnFeeGroupRewards[group] + rewards) } :=
  updateNcnFeeGroupRewards_of_some Nat.add_zero (checkedAdd_of_lt fits)

theorem routeToNcnFeeGroupRewards_eq_ok
    (routed : router.routeToNcnFeeGroupRewards (.ofIndex group) rewards = .ok next) :
    next = { router with
      ncnFeeGroupRewards :=
        router.ncnFeeGroupRewards.put group (router.ncnFeeGroupRewards[group] + rewards) } :=
  (updateNcnFeeGroupRewards_eq_ok Nat.add_zero
    (fun updated => (checkedAdd_eq_some_iff.mp updated).2.symm) routed).2

theorem routeFromNcnFeeGroupRewards_of_le (covered : rewards ≤ router.ncnFeeGroupRewards[group]) :
    router.routeFromNcnFeeGroupRewards (.ofIndex group) rewards = .ok { router with
      ncnFeeGroupRewards :=
        router.ncnFeeGroupRewards.put group (router.ncnFeeGroupRewards[group] - rewards) } :=
  updateNcnFeeGroupRewards_of_some Nat.sub_zero (checkedSub_of_le covered)

theorem routeFromNcnFeeGroupRewards_eq_ok
    (routed : router.routeFromNcnFeeGroupRewards (.ofIndex group) rewards = .ok next) :
    rewards ≤ router.ncnFeeGroupRewards[group] ∧ next = { router with
      ncnFeeGroupRewards :=
        router.ncnFeeGroupRewards.put group (router.ncnFeeGroupRewards[group] - rewards) } := by
  obtain ⟨covered, same⟩ := updateNcnFeeGroupRewards_eq_ok Nat.sub_zero
    (fun updated => (checkedSub_eq_some_iff.mp updated).2.symm) routed
  refine ⟨?_, same⟩
  rcases covered with rfl | ⟨result, updated⟩
  · exact Nat.zero_le _
  · exact (checkedSub_eq_some_iff.mp updated).1

/-! ## Operator routes -/

theorem routeToNcnFeeGroupRewardRoute_eq_ok
    (routed : router.routeToNcnFeeGroupRewardRoute (.ofIndex group) operator rewards = .ok next)
    (table : RouteTable router.ncnFeeGroupRewardRoutes) :
    ∃ routes, RouteAdded router.ncnFeeGroupRewardRoutes routes operator group rewards ∧
      next = { router with ncnFeeGroupRewardRoutes := routes } := by
  unfold routeToNcnFeeGroupRewardRoute at routed
  split at routed
  · rename_i nothing
    cases routed
    exact ⟨_, .inl ⟨nothing, rfl⟩, rfl⟩
  · obtain ⟨routes, upserted, same⟩ := bind_eq_ok.mp routed
    cases same
    refine ⟨routes, .inr ?_, rfl⟩
    obtain ⟨i, entry, rfl, ⟨own, changed⟩ | ⟨empty, absent, created⟩⟩ := Slots.upsert_eq_ok upserted
    · obtain ⟨updated, added, rfl⟩ := NcnRewardRoute.updateRewards_ofIndex.mp changed
      rw [checkedAdd_eq_some_iff] at added
      exact ⟨i, by rw [NcnRewardRoute.add, ← added.2, own], .inl own⟩
    · rw [NcnRewardRoute.new_ofIndex] at created
      cases created
      refine ⟨i, ?_, .inr ⟨empty, absent⟩⟩
      rw [NcnRewardRoute.add, table.blank i empty]
      simp

/-- Rewards for one of at most 256 operators always find a route. -/
theorem routeToNcnFeeGroupRewardRoute_of_owner {owners : Finset Pubkey}
    (few : owners.card ≤ maxOperators) (owner : operator ∈ owners)
    (table : RouteTable router.ncnFeeGroupRewardRoutes)
    (owned : ∀ i : Fin maxOperators, router.ncnFeeGroupRewardRoutes[i].operator ≠ .default →
      router.ncnFeeGroupRewardRoutes[i].operator ∈ owners)
    (fits : ∀ i : Fin maxOperators,
      router.ncnFeeGroupRewardRoutes[i].ncnFeeGroupRewards[group] + rewards < 2 ^ 64) :
    ∃ next, router.routeToNcnFeeGroupRewardRoute (.ofIndex group) operator rewards = .ok next := by
  unfold routeToNcnFeeGroupRewardRoute
  split
  · exact ⟨router, rfl⟩
  · obtain ⟨routes, upserted⟩ : ∃ routes, Slots.upsert NcnRewardRoute.operator .default operator
        (fun route => route.incrementRewards (.ofIndex group) rewards)
        (NcnRewardRoute.new operator (.ofIndex group) rewards)
        TipRouterError.operatorRewardListFull router.ncnFeeGroupRewardRoutes = .ok routes := by
      apply Slots.upsert_ok
      · exact fun i _ => ⟨_, NcnRewardRoute.updateRewards_ofIndex.mpr
          ⟨_, checkedAdd_of_lt (fits i), rfl⟩⟩
      · exact ⟨_, NcnRewardRoute.new_ofIndex⟩
      · exact fun absent => Slots.exists_empty few table.distinct owned owner absent
    rw [upserted]
    exact ⟨_, rfl⟩

theorem distributeNcnFeeGroupRewardRoute_eq_ok {ncn : NcnFeeGroup} {taken : ℕ}
    (distributed : router.distributeNcnFeeGroupRewardRoute ncn operator = .ok (taken, next)) :
    ∃ (group : Fin feeGroupCount) (i : Fin maxOperators),
      taken = router.ncnFeeGroupRewardRoutes[i].ncnFeeGroupRewards[group] ∧
      taken ≤ router.rewardsProcessed ∧ next = { router with
        ncnFeeGroupRewardRoutes := router.ncnFeeGroupRewardRoutes.put i
          { router.ncnFeeGroupRewardRoutes[i] with
            ncnFeeGroupRewards :=
              router.ncnFeeGroupRewardRoutes[i].ncnFeeGroupRewards.put group 0 }
        rewardsProcessed := router.rewardsProcessed - taken } := by
  unfold distributeNcnFeeGroupRewardRoute at distributed
  split at distributed
  · rename_i i found
    simp only [bind_eq_ok, pure_eq_ok_iff] at distributed
    obtain ⟨rewards, read, route, decremented, processed, lowered, same⟩ := distributed
    obtain ⟨group, isGroup, -⟩ := bind_eq_ok.mp read
    rw [NcnFeeGroup.groupIndex_eq_ok_iff.mp isGroup, NcnRewardRoute.rewards_ofIndex] at read
    cases read
    rw [NcnFeeGroup.groupIndex_eq_ok_iff.mp isGroup] at decremented
    obtain ⟨updated, nothing, rfl⟩ := NcnRewardRoute.updateRewards_ofIndex.mp decremented
    rw [checkedSub_eq_some_iff, Nat.sub_self] at nothing
    obtain ⟨-, rfl⟩ := nothing
    obtain ⟨covered, rfl⟩ := decrementRewardsProcessed_eq_ok lowered
    cases same
    exact ⟨group, i, rfl, covered, rfl⟩
  · cases distributed

end BaseRewardRouter

end TipRouter
