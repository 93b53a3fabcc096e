import TipRouter.BaseRouterLedger
import TipRouter.EpochState
import TipRouter.NcnRouterLedger

/-! What a reward router took in and still holds, whatever it does in between:
`total_rewards` against `reward_pool` and `rewards_processed`. Nothing is assumed
about the routes, the votes or the arithmetic, so that the epoch state can be
held against any router that comes out of the instructions. -/
namespace TipRouter
open Runs

/-! ## Flows -/

/-- What was ever routed into a router, and what of it was not distributed. -/
structure RewardFlow where
  total : ℕ
  transit : ℕ
  deriving DecidableEq

namespace RewardFlow

variable {before after : RewardFlow} {progress next : Progress}
variable {rentCost accountBalance rewards : ℕ}

/-- An interrupted routing goes on with what is there; any other one takes in all
that the receiver holds above its rent. -/
def Routed (before after : RewardFlow) (rentCost accountBalance : ℕ) : Prop :=
  after = before ∨ ∃ incoming, after = ⟨before.total + incoming, before.transit + incoming⟩ ∧
    after.transit + rentCost = accountBalance

structure Distributed (before after : RewardFlow) (rewards : ℕ) : Prop where
  total : after.total = before.total
  transit : after.transit + rewards = before.transit

/-- The progress of a distribution counts what came in and what went out. -/
structure Mirrored (flow : RewardFlow) (progress : Progress) : Prop where
  total : progress.total = flow.total
  transit : progress.total = flow.transit + progress.tally

theorem mirrored_zero : Mirrored ⟨0, 0⟩ (.new 0) := ⟨rfl, rfl⟩

theorem Mirrored.routed (mirrored : before.Mirrored progress)
    (routed : before.Routed after rentCost accountBalance) :
    after.Mirrored (progress.setTotal after.total) := by
  obtain ⟨total, transit⟩ := mirrored
  refine ⟨rfl, ?_⟩
  simp only [Progress.setTotal]
  rcases routed with rfl | ⟨incoming, rfl, -⟩
  · rw [← total, transit]
  · dsimp only
    omega

theorem Mirrored.distributed (mirrored : before.Mirrored progress)
    (distributed : before.Distributed after rewards)
    (increment : progress.increment rewards = .ok next) : after.Mirrored next := by
  obtain ⟨total, transit⟩ := mirrored
  have left := distributed.transit
  obtain ⟨tally, added, same⟩ := bind_eq_ok.mp increment
  obtain ⟨-, rfl⟩ := checkedAdd_eq_some_iff.mp (okOr_eq_ok_iff.mp added)
  cases same
  refine ⟨total.trans distributed.total.symm, ?_⟩
  simp only
  omega

end RewardFlow

/-! ## The base router -/

namespace BaseRewardRouter

variable {spl : SplMath} {router next : BaseRewardRouter} {rewards : ℕ}

def flow (self : BaseRewardRouter) : RewardFlow :=
  ⟨self.totalRewards, self.rewardPool + self.rewardsProcessed⟩

theorem routeFromRewardPool_flow (routed : router.routeFromRewardPool rewards = .ok next) :
    next.flow = router.flow := by
  obtain ⟨covered, rfl⟩ := routeFromRewardPool_eq_ok routed
  simp only [flow, RewardFlow.mk.injEq, true_and]
  omega

theorem routeToBaseFeeGroupRewards_flow {group : BaseFeeGroup}
    (routed : router.routeToBaseFeeGroupRewards group rewards = .ok next) :
    next.flow = router.flow := by
  unfold routeToBaseFeeGroupRewards at routed
  split at routed
  · cases routed
    rfl
  · obtain ⟨index, -, routed⟩ := bind_eq_ok.mp routed
    obtain ⟨current, -, routed⟩ := bind_eq_ok.mp routed
    obtain ⟨raised, -, same⟩ := bind_eq_ok.mp routed
    cases same
    rfl

theorem updateNcnFeeGroupRewards_flow {checked : ℕ → ℕ → Option ℕ} {failure : TipRouterError}
    {group : NcnFeeGroup}
    (updated : router.updateNcnFeeGroupRewards checked failure group rewards = .ok next) :
    next.flow = router.flow := by
  unfold updateNcnFeeGroupRewards at updated
  split at updated
  · cases updated
    rfl
  · obtain ⟨index, -, updated⟩ := bind_eq_ok.mp updated
    obtain ⟨current, -, updated⟩ := bind_eq_ok.mp updated
    obtain ⟨changed, -, same⟩ := bind_eq_ok.mp updated
    cases same
    rfl

theorem routeToNcnFeeGroupRewardRoute_flow {group : NcnFeeGroup} {operator : Pubkey}
    (routed : router.routeToNcnFeeGroupRewardRoute group operator rewards = .ok next) :
    next.flow = router.flow := by
  unfold routeToNcnFeeGroupRewardRoute at routed
  split at routed
  · cases routed
    rfl
  · obtain ⟨routes, -, same⟩ := bind_eq_ok.mp routed
    cases same
    rfl

theorem routeRewardPool_flow {fees : Fees} (routed : router.routeRewardPool spl fees = .ok next) :
    next.flow = router.flow := by
  obtain ⟨totalFeeBps, -, routed⟩ := bind_eq_ok.mp routed
  obtain ⟨based, baseLoop, routed⟩ := bind_eq_ok.mp routed
  obtain ⟨grouped, ncnLoop, routed⟩ := bind_eq_ok.mp routed
  obtain ⟨emptied, taken, leftover⟩ := bind_eq_ok.mp routed
  have toBase : based.flow = router.flow := by
    refine foldlM_invariant (motive := fun state => state.flow = router.flow) ?_ rfl baseLoop
    intro group _ state next holds stepped
    obtain ⟨fee, -, stepped⟩ := bind_eq_ok.mp stepped
    obtain ⟨rewards, -, stepped⟩ := bind_eq_ok.mp stepped
    obtain ⟨lowered, fromPool, toGroup⟩ := bind_eq_ok.mp stepped
    rw [routeToBaseFeeGroupRewards_flow toGroup, routeFromRewardPool_flow fromPool, holds]
  have toNcn : grouped.flow = router.flow := by
    refine foldlM_invariant (motive := fun state => state.flow = router.flow) ?_ toBase ncnLoop
    intro group _ state next holds stepped
    obtain ⟨fee, -, stepped⟩ := bind_eq_ok.mp stepped
    obtain ⟨rewards, -, stepped⟩ := bind_eq_ok.mp stepped
    obtain ⟨lowered, fromPool, toGroup⟩ := bind_eq_ok.mp stepped
    rw [updateNcnFeeGroupRewards_flow toGroup, routeFromRewardPool_flow fromPool, holds]
  rw [routeToBaseFeeGroupRewards_flow leftover, routeFromRewardPool_flow taken, toNcn]

theorem routeVote_flow {winningStakeWeight : StakeWeights} {group : NcnFeeGroup}
    {rewardsToProcess : ℕ} {votes : OperatorVote}
    (routed : router.routeVote spl winningStakeWeight group rewardsToProcess votes = .ok next) :
    next.flow = router.flow := by
  obtain ⟨winning, -, routed⟩ := bind_eq_ok.mp routed
  obtain ⟨weight, -, routed⟩ := bind_eq_ok.mp routed
  obtain ⟨reward, -, routed⟩ := bind_eq_ok.mp routed
  obtain ⟨lowered, fromGroup, toRoute⟩ := bind_eq_ok.mp routed
  rw [routeToNcnFeeGroupRewardRoute_flow toRoute, updateNcnFeeGroupRewards_flow fromGroup]

theorem routeVotes_flow {winningBallot : BallotTally} {maxIterations groupIndex : ℕ}
    {group : NcnFeeGroup} {rewardsToProcess : ℕ} {votes : List (OperatorVote × ℕ)} {iterations : ℕ}
    {outcome : VotesRouted}
    (routed : routeVotes spl winningBallot maxIterations groupIndex group rewardsToProcess votes
      router iterations = .ok outcome) : outcome.router.flow = router.flow := by
  induction votes generalizing router iterations with
  | nil =>
    cases routed
    rfl
  | cons entry rest ih =>
    rw [routeVotes] at routed
    split at routed
    · obtain ⟨more, -, routed⟩ := bind_eq_ok.mp routed
      split at routed
      · cases routed
        rfl
      · obtain ⟨middle, voted, remaining⟩ := bind_eq_ok.mp routed
        rw [ih remaining, routeVote_flow voted]
    · exact ih routed

theorem routeGroups_flow {operatorVotes : Vector OperatorVote maxOperators}
    {winningBallot : BallotTally} {maxIterations : ℕ} {groups : List (NcnFeeGroup × ℕ)}
    {startingVoteIndex startingRewards iterations : ℕ}
    (routed : routeGroups spl operatorVotes winningBallot maxIterations groups startingVoteIndex
      startingRewards router iterations = .ok next) : next.flow = router.flow := by
  induction groups generalizing router startingVoteIndex startingRewards iterations with
  | nil =>
    cases routed
    rfl
  | cons entry rest ih =>
    rw [routeGroups] at routed
    obtain ⟨rewardsToProcess, -, routed⟩ := bind_eq_ok.mp routed
    split at routed
    · exact ih routed
    · obtain ⟨outcome, voted, routed⟩ := bind_eq_ok.mp routed
      have toRoutes := routeVotes_flow voted
      cases outcome with
      | saved saved =>
        cases routed
        exact toRoutes
      | finished finished more =>
        obtain ⟨emptied, leftover, remaining⟩ := bind_eq_ok.mp routed
        obtain ⟨rewards, -, leftover⟩ := bind_eq_ok.mp leftover
        obtain ⟨lowered, fromGroup, toDao⟩ := bind_eq_ok.mp leftover
        rw [ih remaining, routeToBaseFeeGroupRewards_flow toDao,
          updateNcnFeeGroupRewards_flow fromGroup]
        exact toRoutes

theorem routeNcnFeeGroupRewards_flow {ballotBox : BallotBox} {maxIterations : ℕ}
    (routed : router.routeNcnFeeGroupRewards spl ballotBox maxIterations = .ok next) :
    next.flow = router.flow := by
  obtain ⟨winningBallot, -, routed⟩ := bind_eq_ok.mp routed
  exact routeGroups_flow routed

theorem processRouteBaseRewards_flow {fees : Fees} {ballotBox : BallotBox}
    {currentSlot validSlotsAfterConsensus rentCost accountBalance maxIterations : ℕ}
    (routed : router.processRouteBaseRewards spl fees ballotBox currentSlot validSlotsAfterConsensus
      rentCost accountBalance maxIterations = .ok next) :
    router.flow.Routed next.flow rentCost accountBalance := by
  obtain ⟨votingValid, -, routed⟩ := bind_eq_ok.mp routed
  split at routed
  · cases routed
  obtain ⟨started, start, routed⟩ := bind_eq_ok.mp routed
  rw [routeNcnFeeGroupRewards_flow routed]
  unfold startRouting at start
  split at start
  · cases start
    exact .inl rfl
  · obtain ⟨funded, incoming, pooled⟩ := bind_eq_ok.mp start
    obtain ⟨arrived, balance, rfl⟩ := routeIncomingRewards_eq_ok incoming
    rw [routeRewardPool_flow pooled]
    refine .inr ⟨arrived, ?_, ?_⟩
    · simp only [flow, RewardFlow.mk.injEq, true_and]
      omega
    · simp only [flow]
      omega

theorem decrementRewardsProcessed_flow
    (lowered : router.decrementRewardsProcessed rewards = .ok next) :
    router.flow.Distributed next.flow rewards := by
  obtain ⟨covered, rfl⟩ := decrementRewardsProcessed_eq_ok lowered
  refine ⟨rfl, ?_⟩
  simp only [flow]
  omega

theorem processDistributeBaseRewards_flow {baseFeeGroup : ℕ}
    (distributed : router.processDistributeBaseRewards baseFeeGroup = .ok (rewards, next)) :
    router.flow.Distributed next.flow rewards := by
  obtain ⟨group, -, distributed⟩ := bind_eq_ok.mp distributed
  split at distributed
  · cases distributed
  obtain ⟨index, -, distributed⟩ := bind_eq_ok.mp distributed
  obtain ⟨owed, -, distributed⟩ := bind_eq_ok.mp distributed
  obtain ⟨left, -, distributed⟩ := bind_eq_ok.mp distributed
  obtain ⟨lowered, decremented, same⟩ := bind_eq_ok.mp distributed
  cases same
  have sent := decrementRewardsProcessed_flow decremented
  exact sent

theorem processDistributeBaseNcnRewardRoute_flow {ncnFeeGroup : ℕ} {operator : Pubkey}
    (distributed : router.processDistributeBaseNcnRewardRoute ncnFeeGroup operator =
      .ok (rewards, next)) : router.flow.Distributed next.flow rewards := by
  obtain ⟨group, -, distributed⟩ := bind_eq_ok.mp distributed
  split at distributed
  · cases distributed
  unfold distributeNcnFeeGroupRewardRoute at distributed
  split at distributed
  · obtain ⟨owed, -, distributed⟩ := bind_eq_ok.mp distributed
    obtain ⟨route, -, distributed⟩ := bind_eq_ok.mp distributed
    obtain ⟨lowered, decremented, same⟩ := bind_eq_ok.mp distributed
    cases same
    have sent := decrementRewardsProcessed_flow decremented
    exact sent
  · cases distributed

end BaseRewardRouter

/-! ## The NCN routers -/

namespace NcnRewardRouter

variable {spl : SplMath} {router next : NcnRewardRouter} {rewards : ℕ}

def flow (self : NcnRewardRouter) : RewardFlow :=
  ⟨self.totalRewards, self.rewardPool + self.rewardsProcessed⟩

/-- Which router of the epoch it is, for the epoch state. -/
def identity (self : NcnRewardRouter) : ℕ × NcnFeeGroup := (self.ncnOperatorIndex, self.ncnFeeGroup)

/-- What moving rewards from one balance to another leaves alone. -/
def stamp (self : NcnRewardRouter) : RewardFlow × ℕ × NcnFeeGroup := (self.flow, self.identity)

theorem routeFromRewardPool_stamp (routed : router.routeFromRewardPool rewards = .ok next) :
    next.stamp = router.stamp := by
  obtain ⟨covered, rfl⟩ := routeFromRewardPool_eq_ok routed
  simp only [stamp, flow, identity, Prod.mk.injEq, RewardFlow.mk.injEq, true_and, and_true]
  omega

theorem routeToOperatorRewards_stamp (routed : router.routeToOperatorRewards rewards = .ok next) :
    next.stamp = router.stamp := by
  obtain rfl := routeToOperatorRewards_eq_ok routed
  rfl

theorem routeToVaultRewardRoute_stamp {vault : Pubkey}
    (routed : router.routeToVaultRewardRoute vault rewards = .ok next) :
    next.stamp = router.stamp := by
  unfold routeToVaultRewardRoute at routed
  split at routed
  · cases routed
    rfl
  · obtain ⟨routes, -, same⟩ := bind_eq_ok.mp routed
    cases same
    rfl

theorem routeVaults_stamp {stakeWeights : StakeWeights}
    {maxIterations rewardsToProcess iterations : ℕ}
    {delegations : List (VaultOperatorStakeWeight × ℕ)} {outcome : VaultsRouted}
    (routed : routeVaults spl stakeWeights maxIterations rewardsToProcess delegations router
      iterations = .ok outcome) : outcome.router.stamp = router.stamp := by
  induction delegations generalizing router iterations with
  | nil =>
    cases routed
    rfl
  | cons entry rest ih =>
    rw [routeVaults] at routed
    obtain ⟨more, -, routed⟩ := bind_eq_ok.mp routed
    split at routed
    · cases routed
      rfl
    · obtain ⟨middle, stepped, remaining⟩ := bind_eq_ok.mp routed
      obtain ⟨weight, -, stepped⟩ := bind_eq_ok.mp stepped
      obtain ⟨whole, -, stepped⟩ := bind_eq_ok.mp stepped
      obtain ⟨reward, -, stepped⟩ := bind_eq_ok.mp stepped
      obtain ⟨lowered, fromPool, toVault⟩ := bind_eq_ok.mp stepped
      rw [ih remaining, routeToVaultRewardRoute_stamp toVault, routeFromRewardPool_stamp fromPool]

theorem routeRewardPool_stamp {snapshot : OperatorSnapshot} {maxIterations : ℕ}
    (routed : router.routeRewardPool spl snapshot maxIterations = .ok next) :
    next.stamp = router.stamp := by
  unfold routeRewardPool at routed
  rcases router.resumeRoutingState router.rewardPool with ⟨rewardsToProcess, starting⟩
  dsimp only at routed
  split at routed
  · cases routed
    rfl
  obtain ⟨outcome, looped, routed⟩ := bind_eq_ok.mp routed
  have toVaults := routeVaults_stamp looped
  cases outcome with
  | saved saved =>
    cases routed
    exact toVaults
  | finished finished =>
    obtain ⟨lowered, fromPool, toOperator⟩ := bind_eq_ok.mp routed
    rw [routeToOperatorRewards_stamp toOperator, routeFromRewardPool_stamp fromPool]
    exact toVaults

theorem processRouteNcnRewards_flow {snapshot : OperatorSnapshot}
    {rentCost accountBalance maxIterations : ℕ}
    (routed : router.processRouteNcnRewards spl snapshot rentCost accountBalance maxIterations =
      .ok next) :
    router.flow.Routed next.flow rentCost accountBalance ∧ next.identity = router.identity := by
  obtain ⟨funded, started, routed⟩ := processRouteNcnRewards_eq_ok routed
  obtain ⟨sameFlow, sameRouter⟩ := Prod.mk.inj (routeRewardPool_stamp routed)
  rw [sameFlow, sameRouter]
  rcases started with ⟨-, rfl⟩ | ⟨-, pooled, incoming, toOperator⟩
  · exact ⟨.inl rfl, rfl⟩
  · obtain ⟨arrived, balance, rfl⟩ := routeIncomingRewards_eq_ok incoming
    obtain ⟨rewards, -, toOperator⟩ := bind_eq_ok.mp toOperator
    obtain ⟨lowered, fromPool, given⟩ := bind_eq_ok.mp toOperator
    obtain ⟨fundedFlow, fundedRouter⟩ :=
      Prod.mk.inj ((routeToOperatorRewards_stamp given).trans (routeFromRewardPool_stamp fromPool))
    rw [fundedFlow, fundedRouter]
    refine ⟨.inr ⟨arrived, ?_, ?_⟩, rfl⟩
    · simp only [flow, RewardFlow.mk.injEq, true_and]
      omega
    · simp only [flow]
      omega

/-- Both ways to distribute take rewards out and leave the router what it is. -/
theorem distribute_flow (distributed :
    router.processDistributeNcnOperatorRewards = .ok (rewards, next) ∨
      ∃ vault, router.processDistributeNcnVaultRewards vault = .ok (rewards, next)) :
    router.flow.Distributed next.flow rewards ∧ next.identity = router.identity := by
  rcases distributed with distributed | ⟨vault, distributed⟩
  · unfold processDistributeNcnOperatorRewards at distributed
    split at distributed
    · cases distributed
    obtain ⟨-, covered, rfl⟩ := distributeOperatorRewards_eq_ok distributed
    refine ⟨⟨rfl, ?_⟩, rfl⟩
    simp only [flow]
    omega
  · unfold processDistributeNcnVaultRewards at distributed
    split at distributed
    · cases distributed
    obtain ⟨i, -, -, covered, rfl⟩ := distributeVaultRewardRoute_eq_ok distributed
    refine ⟨⟨rfl, ?_⟩, rfl⟩
    simp only [flow]
    omega

end NcnRewardRouter

end TipRouter
