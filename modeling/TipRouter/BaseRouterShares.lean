import TipRouter.BaseRouting
import TipRouter.RewardSplits

/-! What a routing pays. Every vote for the winning ballot earns the floor of its
share of each group, the DAO gets what the floors leave, and nothing else changes
but the balances the lamports come from. The shares of a group never exceed it, so
the loop without a limit always ends. -/
namespace TipRouter
open Runs

variable {spl : SplMath} {router next : BaseRewardRouter} {winningBallot : BallotTally}
variable {group : Fin feeGroupCount} {rewards : ℕ} {votes : List OperatorVote}
variable {owners : Finset Pubkey}

theorem balance_le_total (balances : Vector ℕ feeGroupCount) (group : Fin feeGroupCount) :
    balances[group] ≤ Slots.total (fun rewards => rewards) balances :=
  @Slots.le_total ℕ _ (fun rewards => rewards) balances group

theorem route_le_owedTotal (routes : Vector NcnRewardRoute maxOperators) (i : Fin maxOperators) :
    Slots.total (fun rewards => rewards) routes[i].ncnFeeGroupRewards ≤ owedTotal routes :=
  @Slots.le_total NcnRewardRoute _
    (fun route => Slots.total (fun rewards => rewards) route.ncnFeeGroupRewards) routes i

/-! ## Shares -/

/-- What a vote earns of the rewards of a group. -/
def BallotTally.share (winningBallot : BallotTally) (group : Fin feeGroupCount) (rewards : ℕ)
    (vote : OperatorVote) : ℕ :=
  rewards * vote.stakeWeights.get (.group group) / winningBallot.stakeWeights.get (.group group)

/-- What all votes of a list earn. -/
def spent (winningBallot : BallotTally) (group : Fin feeGroupCount) (rewards : ℕ)
    (votes : List OperatorVote) : ℕ :=
  (votes.map (winningBallot.share group rewards)).sum

/-- What the votes of one operator earn. -/
def earned (winningBallot : BallotTally) (group : Fin feeGroupCount) (rewards : ℕ)
    (votes : List OperatorVote) (operator : Pubkey) : ℕ :=
  spent winningBallot group rewards
    (votes.filter fun vote => decide (vote.operator = operator))

theorem earned_cons (vote : OperatorVote) (operator : Pubkey) :
    earned winningBallot group rewards (vote :: votes) operator =
      (if operator = vote.operator then winningBallot.share group rewards vote else 0) +
        earned winningBallot group rewards votes operator := by
  unfold earned
  by_cases own : vote.operator = operator
  · rw [List.filter_cons, if_pos (decide_eq_true own), if_pos own.symm]
    rfl
  · rw [List.filter_cons, if_neg (by simpa using own), if_neg (Ne.symm own), Nat.zero_add]

theorem spent_zero : spent winningBallot group 0 votes = 0 := by
  refine List.sum_eq_zero fun share member => ?_
  obtain ⟨vote, -, rfl⟩ := List.mem_map.mp member
  rw [BallotTally.share, Nat.zero_mul, Nat.zero_div]

/-- What routing relies on in the votes for the winning ballot: they add up to its
tally, and their operators fit the table of routes. -/
structure Electors (winningBallot : BallotTally) (owners : Finset Pubkey)
    (votes : List OperatorVote) : Prop where
  loaded : ∀ vote ∈ votes, vote.operator ≠ .default
  owner : ∀ vote ∈ votes, vote.operator ∈ owners
  few : owners.card ≤ maxOperators
  fits : winningBallot.stakeWeights.Fits
  complete : ∀ group, (votes.map fun vote => vote.stakeWeights.get (.group group)).sum =
    winningBallot.stakeWeights.get (.group group)

theorem Electors.spent_le (electors : Electors winningBallot owners votes) :
    spent winningBallot group rewards votes ≤ rewards := by
  have shared := sum_shares_le rewards (electors.complete group)
  rwa [List.map_map] at shared

theorem Electors.part_le (electors : Electors winningBallot owners votes) {vote : OperatorVote}
    (member : vote ∈ votes) :
    vote.stakeWeights.get (.group group) ≤ winningBallot.stakeWeights.get (.group group) := by
  rw [← electors.complete group]
  exact List.single_le_sum (fun _ _ => Nat.zero_le _) _ (List.mem_map_of_mem member)

namespace BaseRewardRouter

/-- What routing relies on in the router: its routes are in order and of known
operators, and all its balances together are a `u64`. -/
structure Payable (owners : Finset Pubkey) (router : BaseRewardRouter) : Prop where
  table : RouteTable router.ncnFeeGroupRewardRoutes
  owned : ∀ i : Fin maxOperators, router.ncnFeeGroupRewardRoutes[i].operator ≠ .default →
    router.ncnFeeGroupRewardRoutes[i].operator ∈ owners
  fits : router.allocated < 2 ^ 64

/-- Some votes were paid out of a group: only its balance and the routes of their
operators changed. -/
def VotesPaid (winningBallot : BallotTally) (group : Fin feeGroupCount) (rewards : ℕ)
    (votes : List OperatorVote) (router next : BaseRewardRouter) : Prop :=
  ∃ routes, next = { router with
      ncnFeeGroupRewards := router.ncnFeeGroupRewards.put group
        (router.ncnFeeGroupRewards[group] - spent winningBallot group rewards votes)
      ncnFeeGroupRewardRoutes := routes } ∧
    ∀ operator other, owed routes operator other =
      owed router.ncnFeeGroupRewardRoutes operator other +
        if other = group then earned winningBallot group rewards votes operator else 0

theorem VotesPaid.nil : VotesPaid winningBallot group rewards [] router router := by
  refine ⟨router.ncnFeeGroupRewardRoutes, ?_, fun operator other => ?_⟩
  · simp [spent]
  · simp [earned, spent]

theorem VotesPaid.cons {vote : OperatorVote} {middle : BaseRewardRouter}
    (first : VotesPaid winningBallot group rewards [vote] router middle)
    (others : VotesPaid winningBallot group rewards votes middle next) :
    VotesPaid winningBallot group rewards (vote :: votes) router next := by
  obtain ⟨routes, rfl, owed⟩ := first
  obtain ⟨routes', rfl, owed'⟩ := others
  refine ⟨routes', ?_, fun operator other => ?_⟩
  · simp only [Slots.put_put, Slots.getElem_put_self, spent, List.map_cons, List.sum_cons,
      List.map_nil, List.sum_nil, Nat.add_zero, Nat.sub_sub]
  · rw [owed', owed, earned_cons, earned_cons]
    by_cases same : other = group
    · simp [same, earned, spent, Nat.add_assoc]
    · simp [same]

theorem Payable.routeVote (documented : spl.Documented) (payable : router.Payable owners)
    (few : owners.card ≤ maxOperators) {vote : OperatorVote} (owner : vote.operator ∈ owners)
    (loaded : vote.operator ≠ .default) (wholeFits : winningBallot.stakeWeights.Fits)
    (part : vote.stakeWeights.get (.group group) ≤ winningBallot.stakeWeights.get (.group group))
    (rewardsFit : rewards < 2 ^ 64)
    (covered : winningBallot.share group rewards vote ≤ router.ncnFeeGroupRewards[group]) :
    ∃ next, router.routeVote spl winningBallot.stakeWeights (.ofIndex group) rewards vote =
        .ok next ∧ next.Payable owners ∧
      VotesPaid winningBallot group rewards [vote] router next := by
  have share := calculateNcnFeeGroupRouteReward_exact documented part (wholeFits _) rewardsFit
  have taken := routeFromNcnFeeGroupRewards_of_le covered
  have balance := balance_le_total router.ncnFeeGroupRewards group
  have fits : ∀ i : Fin maxOperators,
      router.ncnFeeGroupRewardRoutes[i].ncnFeeGroupRewards[group] +
        winningBallot.share group rewards vote < 2 ^ 64 := by
    intro i
    have here := balance_le_total router.ncnFeeGroupRewardRoutes[i].ncnFeeGroupRewards group
    have all := route_le_owedTotal router.ncnFeeGroupRewardRoutes i
    have total := payable.fits
    unfold allocated at total
    omega
  obtain ⟨next, given⟩ : ∃ next, BaseRewardRouter.routeToNcnFeeGroupRewardRoute { router with
      ncnFeeGroupRewards := router.ncnFeeGroupRewards.put group
        (router.ncnFeeGroupRewards[group] - winningBallot.share group rewards vote) }
      (.ofIndex group) vote.operator (winningBallot.share group rewards vote) =
        .ok next := by
    apply routeToNcnFeeGroupRewardRoute_of_owner few owner
    · exact payable.table
    · exact payable.owned
    · exact fits
  have routed : router.routeVote spl winningBallot.stakeWeights (.ofIndex group) rewards vote =
      .ok next := by
    unfold BaseRewardRouter.routeVote
    rw [StakeWeights.ncnFeeGroupStakeWeight_ofIndex, StakeWeights.ncnFeeGroupStakeWeight_ofIndex,
      ok_bind, ok_bind, share, ok_bind]
    exact bind_eq_ok.mpr ⟨_, taken, given⟩
  have moved := routeVote_rebalanced loaded payable.table routed
  obtain ⟨routes, added, rfl⟩ := routeToNcnFeeGroupRewardRoute_eq_ok given payable.table
  refine ⟨_, routed, ⟨moved.table, ?_, ?_⟩, routes, ?_, ?_⟩
  · exact added.known payable.owned owner
  · exact (Nat.add_right_cancel moved.allocated).trans_lt payable.fits
  · simp [spent]
  · intro operator other
    rw [added.owed_eq payable.table, earned_cons]
    by_cases same : other = group
    · simp [same, earned, spent]
    · simp [same]

/-- The votes are paid one after the other as long as the group covers them. -/
theorem Payable.routeVotes (documented : spl.Documented) (payable : router.Payable owners)
    (few : owners.card ≤ maxOperators) (wholeFits : winningBallot.stakeWeights.Fits)
    (rewardsFit : rewards < 2 ^ 64) (owner : ∀ vote ∈ votes, vote.operator ∈ owners)
    (loaded : ∀ vote ∈ votes, vote.operator ≠ .default)
    (part : ∀ vote ∈ votes,
      vote.stakeWeights.get (.group group) ≤ winningBallot.stakeWeights.get (.group group))
    (covered : spent winningBallot group rewards votes ≤ router.ncnFeeGroupRewards[group]) :
    ∃ next, votes.foldlM
        (BaseRewardRouter.routeVote spl winningBallot.stakeWeights (.ofIndex group) rewards) router =
          .ok next ∧ next.Payable owners ∧
      VotesPaid winningBallot group rewards votes router next := by
  induction votes generalizing router with
  | nil => exact ⟨router, rfl, payable, .nil⟩
  | cons vote rest ih =>
    rw [spent, List.map_cons, List.sum_cons] at covered
    obtain ⟨middle, first, payable', paid⟩ := payable.routeVote documented few
      (owner vote List.mem_cons_self) (loaded vote List.mem_cons_self) wholeFits
      (part vote List.mem_cons_self) rewardsFit (Nat.le_of_add_right_le covered)
    have coveredRest : spent winningBallot group rewards rest ≤
        middle.ncnFeeGroupRewards[group] := by
      obtain ⟨routes, rfl, -⟩ := paid
      simp only [Slots.getElem_put_self, spent, List.map_cons, List.map_nil, List.sum_cons,
        List.sum_nil]
      omega
    obtain ⟨next, others, payable'', paid'⟩ := ih payable'
      (fun vote member => owner vote (List.mem_cons_of_mem _ member))
      (fun vote member => loaded vote (List.mem_cons_of_mem _ member))
      (fun vote member => part vote (List.mem_cons_of_mem _ member)) coveredRest
    refine ⟨next, ?_, payable'', paid.cons paid'⟩
    rw [List.foldlM_cons, first, ok_bind]
    exact others

/-! ## Groups -/

/-- The router once what is left of a group went to the DAO. -/
def leftToDao (router : BaseRewardRouter) (group : Fin feeGroupCount) : BaseRewardRouter :=
  { router with
    ncnFeeGroupRewards := router.ncnFeeGroupRewards.put group 0
    baseFeeGroupRewards := router.baseFeeGroupRewards.put 0
      (router.baseFeeGroupRewards[(0 : Fin feeGroupCount)] + router.ncnFeeGroupRewards[group]) }

theorem Payable.routeLeftover (payable : router.Payable owners) (group : Fin feeGroupCount) :
    router.routeLeftover (.ofIndex group) = .ok (router.leftToDao group) ∧
      (router.leftToDao group).Payable owners := by
  have balance := balance_le_total router.ncnFeeGroupRewards group
  have dao := balance_le_total router.baseFeeGroupRewards 0
  have total := payable.fits
  unfold allocated at total
  have taken := routeFromNcnFeeGroupRewards_of_le (Nat.le_refl router.ncnFeeGroupRewards[group])
  rw [Nat.sub_self] at taken
  have given : BaseRewardRouter.routeToBaseFeeGroupRewards { router with
      ncnFeeGroupRewards := router.ncnFeeGroupRewards.put group 0 } (.ofIndex 0)
      router.ncnFeeGroupRewards[group] = .ok (router.leftToDao group) := by
    apply routeToBaseFeeGroupRewards_of_fits
    dsimp only
    omega
  have moved : (router.routeFromNcnFeeGroupRewards (.ofIndex group)
        router.ncnFeeGroupRewards[group] >>= fun taken =>
          taken.routeToBaseFeeGroupRewards (.ofIndex 0) router.ncnFeeGroupRewards[group]) =
      .ok (router.leftToDao group) := by
    rw [taken, ok_bind]
    exact given
  constructor
  · rw [BaseRewardRouter.routeLeftover, ncnFeeGroupReward_ofIndex, ok_bind, BaseFeeGroup.dao_eq]
    exact moved
  · have rebalanced : Rebalanced router (router.leftToDao group) := .ncnToBase payable.table moved
    exact ⟨rebalanced.table, payable.owned,
      (Nat.add_right_cancel rebalanced.allocated).trans_lt payable.fits⟩

/-- What the votes leave of some groups. -/
def leftOf (winningBallot : BallotTally) (votes : List OperatorVote)
    (balances : Vector ℕ feeGroupCount) (groups : List (Fin feeGroupCount)) : ℕ :=
  (groups.map fun group => balances[group] -
    spent winningBallot group balances[group] votes).sum

/-- Some groups were paid out in full, to the votes and the DAO. -/
def GroupsPaid (winningBallot : BallotTally) (votes : List OperatorVote)
    (groups : List (Fin feeGroupCount)) (router next : BaseRewardRouter) : Prop :=
  ∃ balances routes, next = { router.resetRoutingState with
      baseFeeGroupRewards := router.baseFeeGroupRewards.put 0
        (router.baseFeeGroupRewards[(0 : Fin feeGroupCount)] +
          leftOf winningBallot votes router.ncnFeeGroupRewards groups)
      ncnFeeGroupRewards := balances
      ncnFeeGroupRewardRoutes := routes } ∧
    (∀ group : Fin feeGroupCount,
      balances[group] = if group ∈ groups then 0 else router.ncnFeeGroupRewards[group]) ∧
    ∀ operator group, owed routes operator group =
      owed router.ncnFeeGroupRewardRoutes operator group +
        if group ∈ groups then
          earned winningBallot group router.ncnFeeGroupRewards[group] votes operator
        else 0

theorem GroupsPaid.nil : GroupsPaid winningBallot votes [] router router.resetRoutingState := by
  have same : router.baseFeeGroupRewards.put 0
      router.baseFeeGroupRewards[(0 : Fin feeGroupCount)] = router.baseFeeGroupRewards :=
    Slots.put_getElem router.baseFeeGroupRewards 0
  refine ⟨router.ncnFeeGroupRewards, router.ncnFeeGroupRewardRoutes, ?_, fun _ => by simp,
    fun _ _ => by simp⟩
  rw [leftOf, List.map_nil, List.sum_nil, Nat.add_zero, same]
  rfl

/-- A group without rewards has nothing to pay. -/
theorem GroupsPaid.skip {groups : List (Fin feeGroupCount)}
    (nothing : router.ncnFeeGroupRewards[group] = 0) (fresh : group ∉ groups)
    (paid : GroupsPaid winningBallot votes groups router next) :
    GroupsPaid winningBallot votes (group :: groups) router next := by
  obtain ⟨balances, routes, rfl, emptied, owed⟩ := paid
  refine ⟨balances, routes, ?_, fun other => ?_, fun operator other => ?_⟩
  · rw [leftOf, leftOf, List.map_cons, List.sum_cons, nothing, Nat.zero_sub, Nat.zero_add]
  · rw [emptied]
    by_cases same : other = group
    · rw [same, if_neg fresh, if_pos List.mem_cons_self, nothing]
    · simp [same]
  · rw [owed]
    by_cases same : other = group
    · rw [same, if_neg fresh, if_pos List.mem_cons_self, nothing, earned, spent_zero]
    · simp [same]

/-- A group is paid to its votes, and what they leave to the DAO. -/
theorem GroupsPaid.cons {groups : List (Fin feeGroupCount)} {middle : BaseRewardRouter}
    (fresh : group ∉ groups)
    (first : VotesPaid winningBallot group router.ncnFeeGroupRewards[group] votes router middle)
    (others : GroupsPaid winningBallot votes groups (middle.leftToDao group) next) :
    GroupsPaid winningBallot votes (group :: groups) router next := by
  obtain ⟨routes, rfl, owed⟩ := first
  obtain ⟨balances, routes', rfl, emptied, owed'⟩ := others
  have kept : ∀ other ≠ group, ((router.ncnFeeGroupRewards.put group
      (router.ncnFeeGroupRewards[group] -
        spent winningBallot group router.ncnFeeGroupRewards[group] votes)).put group 0)[other] =
      router.ncnFeeGroupRewards[other] := by
    intro other different
    rw [Slots.getElem_put_ne _ _ different.symm, Slots.getElem_put_ne _ _ different.symm]
  have left : leftOf winningBallot votes ((router.ncnFeeGroupRewards.put group
      (router.ncnFeeGroupRewards[group] -
        spent winningBallot group router.ncnFeeGroupRewards[group] votes)).put group 0) groups =
      leftOf winningBallot votes router.ncnFeeGroupRewards groups := by
    refine congrArg List.sum (List.map_congr_left fun other member => ?_)
    rw [kept other fun same => fresh (same ▸ member)]
  refine ⟨balances, routes', ?_, fun other => ?_, fun operator other => ?_⟩
  · rw [leftToDao]
    dsimp only
    rw [left]
    simp only [resetRoutingState, Slots.put_put, Slots.getElem_put_self, Nat.add_assoc]
    rfl
  · rw [emptied, leftToDao]
    dsimp only
    by_cases same : other = group
    · rw [same, if_neg fresh, if_pos List.mem_cons_self, Slots.getElem_put_self]
    · rw [kept other same]
      simp [same]
  · rw [owed', leftToDao]
    dsimp only
    rw [owed]
    by_cases same : other = group
    · rw [same, if_neg fresh, if_pos rfl, if_pos List.mem_cons_self, Nat.add_zero]
    · rw [if_neg same, Nat.add_zero, kept other same]
      simp [same]

/-- The loop without a limit pays every group out. -/
theorem Payable.routeAllGroups (documented : spl.Documented)
    (electors : Electors winningBallot owners (counted winningBallot votes))
    {groups : List (Fin feeGroupCount)} (distinct : groups.Nodup)
    (payable : router.Payable owners) :
    ∃ next, BaseRewardRouter.routeAllGroups spl votes winningBallot groups 0 0 router = .ok next ∧
      next.Payable owners ∧
      GroupsPaid winningBallot (counted winningBallot votes) groups router next := by
  induction groups generalizing router with
  | nil =>
    refine ⟨router.resetRoutingState, rfl, ⟨payable.table, payable.owned, ?_⟩, .nil⟩
    exact payable.fits
  | cons group rest ih =>
    obtain ⟨fresh, distinctRest⟩ := List.nodup_cons.mp distinct
    have rewardsFit : router.ncnFeeGroupRewards[group] < 2 ^ 64 := by
      have balance := balance_le_total router.ncnFeeGroupRewards group
      have total := payable.fits
      unfold allocated at total
      omega
    rw [BaseRewardRouter.routeAllGroups, groupRewardsToProcess, if_neg (Nat.lt_irrefl 0),
      ncnFeeGroupReward_ofIndex, ok_bind]
    by_cases nothing : router.ncnFeeGroupRewards[group] = 0
    · rw [if_pos nothing]
      obtain ⟨next, routed, payableNext, paid⟩ := ih distinctRest payable
      exact ⟨next, routed, payableNext, paid.skip nothing fresh⟩
    · rw [if_neg nothing, List.drop_zero]
      obtain ⟨middle, voted, payableMiddle, paid⟩ := payable.routeVotes documented electors.few
        electors.fits rewardsFit electors.owner electors.loaded
        (fun vote member => electors.part_le member) electors.spent_le
      obtain ⟨leftover, payableLeft⟩ := payableMiddle.routeLeftover group
      obtain ⟨next, routed, payableNext, others⟩ := ih distinctRest payableLeft
      refine ⟨next, ?_, payableNext, .cons fresh paid others⟩
      rw [routeAllVotes, voted, ok_bind, leftover, ok_bind]
      exact routed

/-! ## The pool -/

/-- A loop that hands shares of a pool to the balances of distinct groups, given by
what one step does to what was spent of the pool and to the balances. -/
theorem foldlM_deal
    (step : BaseRewardRouter → Fin feeGroupCount → Except TipRouterError BaseRewardRouter)
    (place : ℕ → Vector ℕ feeGroupCount → BaseRewardRouter) (share : Fin feeGroupCount → ℕ)
    {pool : ℕ} (deals : ∀ group spent balances, spent + share group ≤ pool →
      Slots.total (fun rewards => rewards) balances + (pool - spent) < 2 ^ 64 →
      step (place spent balances) group =
        .ok (place (spent + share group) (balances.put group (balances[group] + share group))))
    {groups : List (Fin feeGroupCount)} (distinct : groups.Nodup) {spent : ℕ}
    {balances : Vector ℕ feeGroupCount} (covered : spent + (groups.map share).sum ≤ pool)
    (fits : Slots.total (fun rewards => rewards) balances + (pool - spent) < 2 ^ 64) :
    ∃ dealt : Vector ℕ feeGroupCount,
      groups.foldlM step (place spent balances) =
        .ok (place (spent + (groups.map share).sum) dealt) ∧
      Slots.total (fun rewards => rewards) dealt =
        Slots.total (fun rewards => rewards) balances + (groups.map share).sum ∧
      ∀ group : Fin feeGroupCount,
        dealt[group] = balances[group] + if group ∈ groups then share group else 0 := by
  induction groups generalizing spent balances with
  | nil => exact ⟨balances, rfl, rfl, fun group => by simp⟩
  | cons group rest ih =>
    obtain ⟨fresh, distinctRest⟩ := List.nodup_cons.mp distinct
    rw [List.map_cons, List.sum_cons] at covered ⊢
    have raised := total_raise balances group (share group)
    have fitsRest : Slots.total (fun rewards => rewards)
        (balances.put group (balances[group] + share group)) +
          (pool - (spent + share group)) < 2 ^ 64 := by omega
    obtain ⟨dealt, looped, total, shares⟩ := ih distinctRest (by omega) fitsRest
    refine ⟨dealt, ?_, by omega, fun other => ?_⟩
    · rw [List.foldlM_cons, deals group spent balances (by omega) fits, ok_bind, looped,
        Nat.add_assoc]
    · rw [shares, Slots.getElem_put_fin]
      by_cases same : other = group
      · simp [same, fresh]
      · simp [same, Ne.symm same]

/-- The share of a base group in the pool. -/
def baseShare (fees : Fees) (rewards : ℕ) (group : Fin feeGroupCount) : ℕ :=
  rewards * fees.baseFeeGroupsBps[group] / fees.total

/-- The share of an NCN group in the pool. -/
def ncnShare (fees : Fees) (rewards : ℕ) (group : Fin feeGroupCount) : ℕ :=
  rewards * fees.ncnFeeGroupsBps[group] / fees.total

/-- All shares in the pool. -/
def shares (fees : Fees) (rewards : ℕ) : ℕ :=
  ((List.finRange feeGroupCount).map (baseShare fees rewards)).sum +
    ((List.finRange feeGroupCount).map (ncnShare fees rewards)).sum

theorem shares_le (fees : Fees) (rewards : ℕ) : shares fees rewards ≤ rewards := by
  have summed : (((List.finRange feeGroupCount).map fun group => fees.baseFeeGroupsBps[group]) ++
      (List.finRange feeGroupCount).map fun group => fees.ncnFeeGroupsBps[group]).sum =
        fees.total := by
    rw [List.sum_append, Fees.total, Slots.total, Slots.total, Fin.sum_univ_def, Fin.sum_univ_def]
  have shared := sum_shares_le rewards summed
  rwa [List.map_append, List.sum_append, List.map_map, List.map_map] at shared

theorem fee_le_total (fees : Fees) (group : Fin feeGroupCount) :
    fees.baseFeeGroupsBps[group] ≤ fees.total ∧ fees.ncnFeeGroupsBps[group] ≤ fees.total := by
  have base := balance_le_total fees.baseFeeGroupsBps group
  have ncn := balance_le_total fees.ncnFeeGroupsBps group
  unfold Fees.total
  omega

section Pool
variable {fees : Fees} {rewards spent : ℕ} {balances : Vector ℕ feeGroupCount}

/-- What one step of the first loop of `route_reward_pool` does. -/
theorem routeBaseFeeGroup_deals (documented : spl.Documented) (feesFit : fees.total < 2 ^ 64)
    (rewardsFit : rewards < 2 ^ 64) (transit : router.rewardPool + router.rewardsProcessed < 2 ^ 64)
    (covered : spent + baseShare fees rewards group ≤ router.rewardPool)
    (fits : Slots.total (fun rewards => rewards) balances + (router.rewardPool - spent) < 2 ^ 64) :
    routeBaseFeeGroup spl fees fees.total rewards { router with
        rewardPool := router.rewardPool - spent
        rewardsProcessed := router.rewardsProcessed + spent
        baseFeeGroupRewards := balances } (.ofIndex group) =
      .ok { router with
        rewardPool := router.rewardPool - (spent + baseShare fees rewards group)
        rewardsProcessed := router.rewardsProcessed + (spent + baseShare fees rewards group)
        baseFeeGroupRewards :=
          balances.put group (balances[group] + baseShare fees rewards group) } := by
  have balance := balance_le_total balances group
  rw [routeBaseFeeGroup, Fees.baseFeeBps_ofIndex, ok_bind,
    calculateRewardSplit_exact documented (fee_le_total fees group).1 (by omega) (by omega), ok_bind,
    ← baseShare, routeFromRewardPool_of_le (by dsimp only; omega) (by dsimp only; omega), ok_bind,
    routeToBaseFeeGroupRewards_of_fits (by dsimp only; omega)]
  simp only [Nat.sub_sub, Nat.add_assoc]

/-- What one step of the second loop of `route_reward_pool` does. -/
theorem routeNcnFeeGroup_deals (documented : spl.Documented) (feesFit : fees.total < 2 ^ 64)
    (rewardsFit : rewards < 2 ^ 64) (transit : router.rewardPool + router.rewardsProcessed < 2 ^ 64)
    (covered : spent + ncnShare fees rewards group ≤ router.rewardPool)
    (fits : Slots.total (fun rewards => rewards) balances + (router.rewardPool - spent) < 2 ^ 64) :
    routeNcnFeeGroup spl fees fees.total rewards { router with
        rewardPool := router.rewardPool - spent
        rewardsProcessed := router.rewardsProcessed + spent
        ncnFeeGroupRewards := balances } (.ofIndex group) =
      .ok { router with
        rewardPool := router.rewardPool - (spent + ncnShare fees rewards group)
        rewardsProcessed := router.rewardsProcessed + (spent + ncnShare fees rewards group)
        ncnFeeGroupRewards :=
          balances.put group (balances[group] + ncnShare fees rewards group) } := by
  have balance := balance_le_total balances group
  rw [routeNcnFeeGroup, Fees.ncnFeeBps_ofIndex, ok_bind,
    calculateRewardSplit_exact documented (fee_le_total fees group).2 (by omega) (by omega), ok_bind,
    ← ncnShare, routeFromRewardPool_of_le (by dsimp only; omega) (by dsimp only; omega), ok_bind,
    routeToNcnFeeGroupRewards_of_fits (by dsimp only; omega)]
  simp only [Nat.sub_sub, Nat.add_assoc]

theorem baseLoop_deals (documented : spl.Documented) (feesFit : fees.total < 2 ^ 64)
    (rewardsFit : rewards < 2 ^ 64) (transit : router.rewardPool + router.rewardsProcessed < 2 ^ 64)
    (covered : ((List.finRange feeGroupCount).map (baseShare fees rewards)).sum ≤ router.rewardPool)
    (fits : Slots.total (fun rewards => rewards) router.baseFeeGroupRewards + router.rewardPool <
      2 ^ 64) :
    ∃ base : Vector ℕ feeGroupCount,
      (List.finRange feeGroupCount).foldlM (fun self group =>
          routeBaseFeeGroup spl fees fees.total rewards self (.ofIndex group)) router =
        .ok { router with
          rewardPool := router.rewardPool -
            ((List.finRange feeGroupCount).map (baseShare fees rewards)).sum
          rewardsProcessed := router.rewardsProcessed +
            ((List.finRange feeGroupCount).map (baseShare fees rewards)).sum
          baseFeeGroupRewards := base } ∧
      Slots.total (fun rewards => rewards) base =
        Slots.total (fun rewards => rewards) router.baseFeeGroupRewards +
          ((List.finRange feeGroupCount).map (baseShare fees rewards)).sum ∧
      ∀ group : Fin feeGroupCount,
        base[group] = router.baseFeeGroupRewards[group] + baseShare fees rewards group := by
  obtain ⟨base, looped, total, dealt⟩ := foldlM_deal
    (fun self group => routeBaseFeeGroup spl fees fees.total rewards self (.ofIndex group))
    (fun spent balances => { router with
      rewardPool := router.rewardPool - spent
      rewardsProcessed := router.rewardsProcessed + spent
      baseFeeGroupRewards := balances })
    (baseShare fees rewards)
    (fun group spent balances => routeBaseFeeGroup_deals documented feesFit rewardsFit transit)
    (List.nodup_finRange feeGroupCount) (by rwa [Nat.zero_add]) fits
  refine ⟨base, ?_, total, fun group => ?_⟩
  · rw [Nat.zero_add] at looped
    exact looped
  · rw [dealt, if_pos (List.mem_finRange group)]

theorem ncnLoop_deals (documented : spl.Documented) (feesFit : fees.total < 2 ^ 64)
    (rewardsFit : rewards < 2 ^ 64) (transit : router.rewardPool + router.rewardsProcessed < 2 ^ 64)
    (covered : ((List.finRange feeGroupCount).map (ncnShare fees rewards)).sum ≤ router.rewardPool)
    (fits : Slots.total (fun rewards => rewards) router.ncnFeeGroupRewards + router.rewardPool <
      2 ^ 64) :
    ∃ ncn : Vector ℕ feeGroupCount,
      (List.finRange feeGroupCount).foldlM (fun self group =>
          routeNcnFeeGroup spl fees fees.total rewards self (.ofIndex group)) router =
        .ok { router with
          rewardPool := router.rewardPool -
            ((List.finRange feeGroupCount).map (ncnShare fees rewards)).sum
          rewardsProcessed := router.rewardsProcessed +
            ((List.finRange feeGroupCount).map (ncnShare fees rewards)).sum
          ncnFeeGroupRewards := ncn } ∧
      ∀ group : Fin feeGroupCount,
        ncn[group] = router.ncnFeeGroupRewards[group] + ncnShare fees rewards group := by
  obtain ⟨ncn, looped, -, dealt⟩ := foldlM_deal
    (fun self group => routeNcnFeeGroup spl fees fees.total rewards self (.ofIndex group))
    (fun spent balances => { router with
      rewardPool := router.rewardPool - spent
      rewardsProcessed := router.rewardsProcessed + spent
      ncnFeeGroupRewards := balances })
    (ncnShare fees rewards)
    (fun group spent balances => routeNcnFeeGroup_deals documented feesFit rewardsFit transit)
    (List.nodup_finRange feeGroupCount) (by rwa [Nat.zero_add]) fits
  refine ⟨ncn, ?_, fun group => ?_⟩
  · rw [Nat.zero_add] at looped
    exact looped
  · rw [dealt, if_pos (List.mem_finRange group)]

end Pool

/-- The pool was split by the fees: every group has its floor, and the DAO what the
floors leave. -/
def PoolPaid (fees : Fees) (router next : BaseRewardRouter) : Prop :=
  ∃ base ncn : Vector ℕ feeGroupCount, next = { router with
      rewardPool := 0
      rewardsProcessed := router.rewardsProcessed + router.rewardPool
      baseFeeGroupRewards := base.put 0 (base[(0 : Fin feeGroupCount)] +
        (router.rewardPool - shares fees router.rewardPool))
      ncnFeeGroupRewards := ncn } ∧
    (∀ group : Fin feeGroupCount, base[group] =
      router.baseFeeGroupRewards[group] + baseShare fees router.rewardPool group) ∧
    ∀ group : Fin feeGroupCount, ncn[group] =
      router.ncnFeeGroupRewards[group] + ncnShare fees router.rewardPool group

theorem routeRewardPool_exact (documented : spl.Documented) {fees : Fees}
    (feesFit : fees.total < 2 ^ 64) (transit : router.rewardPool + router.rewardsProcessed < 2 ^ 64)
    (fits : router.allocated + router.rewardPool < 2 ^ 64) :
    ∃ next, router.routeRewardPool spl fees = .ok next ∧ PoolPaid fees router next := by
  have within := shares_le fees router.rewardPool
  have rewardsFit : router.rewardPool < 2 ^ 64 := by omega
  unfold shares at within
  unfold allocated at fits
  obtain ⟨base, baseLoop, baseTotal, baseDealt⟩ := baseLoop_deals documented feesFit rewardsFit
    transit (by omega) (by omega)
  obtain ⟨based, isBased⟩ : ∃ based : BaseRewardRouter, based = { router with
      rewardPool := router.rewardPool -
        ((List.finRange feeGroupCount).map (baseShare fees router.rewardPool)).sum
      rewardsProcessed := router.rewardsProcessed +
        ((List.finRange feeGroupCount).map (baseShare fees router.rewardPool)).sum
      baseFeeGroupRewards := base } := ⟨_, rfl⟩
  have pool : based.rewardPool = router.rewardPool -
      ((List.finRange feeGroupCount).map (baseShare fees router.rewardPool)).sum := by rw [isBased]
  have balances : based.ncnFeeGroupRewards = router.ncnFeeGroupRewards := by rw [isBased]
  have transit' : based.rewardPool + based.rewardsProcessed < 2 ^ 64 := by
    rw [isBased]
    dsimp only
    omega
  obtain ⟨ncn, ncnLoop, ncnDealt⟩ := ncnLoop_deals documented feesFit rewardsFit transit'
    (by omega) (by rw [balances]; omega)
  have dao := balance_le_total base 0
  have left : router.rewardPool -
      ((List.finRange feeGroupCount).map (baseShare fees router.rewardPool)).sum -
      ((List.finRange feeGroupCount).map (ncnShare fees router.rewardPool)).sum =
        router.rewardPool - shares fees router.rewardPool := Nat.sub_sub _ _ _
  have all : ((List.finRange feeGroupCount).map (baseShare fees router.rewardPool)).sum +
      (((List.finRange feeGroupCount).map (ncnShare fees router.rewardPool)).sum +
        (router.rewardPool - shares fees router.rewardPool)) = router.rewardPool := by
    unfold shares
    omega
  rw [balances] at ncnDealt
  refine ⟨_, ?_, base, ncn, rfl, baseDealt, ncnDealt⟩
  rw [routeRewardPool, Fees.totalFeesBps_of_lt feesFit, ok_bind, BaseFeeGroup.allGroups_eq,
    NcnFeeGroup.allGroups_eq, List.foldlM_map, baseLoop, ok_bind, ← isBased, List.foldlM_map,
    ncnLoop, ok_bind, BaseFeeGroup.dao_eq]
  dsimp only
  rw [routeFromRewardPool_of_le (le_refl _) (by dsimp only; omega), ok_bind,
    routeToBaseFeeGroupRewards_of_fits (by rw [isBased]; dsimp only; omega), isBased]
  dsimp only
  rw [Nat.sub_self, left, Nat.add_assoc, Nat.add_assoc, all]

end BaseRewardRouter

end TipRouter
