import TipRouter.BallotBox
import TipRouter.Fees
import TipRouter.KeyedSlots

/-! The base reward router, `core/src/base_reward_router.rs`, with
`program/src/route_base_rewards.rs`. Lamports that arrive at the receiver enter
a pool, the pool is split over the fee groups, and the share of each NCN group
is split over the operators that voted for the winning ballot. The last split
is a nested loop that can stop at any vote, save where it stopped and resume
from there. -/
namespace TipRouter
open Runs

/-! ## Routes -/

/-- `NcnRewardRoute`: what one operator is owed in each NCN fee group. -/
structure NcnRewardRoute where
  operator : Pubkey
  ncnFeeGroupRewards : Vector ℕ feeGroupCount
  deriving DecidableEq

namespace NcnRewardRoute

def default : NcnRewardRoute where
  operator := .default
  ncnFeeGroupRewards := Vector.replicate feeGroupCount 0

def rewards (self : NcnRewardRoute) (ncnFeeGroup : NcnFeeGroup) : Except TipRouterError ℕ := do
  let groupIndex ← ncnFeeGroup.groupIndex
  return self.ncnFeeGroupRewards[groupIndex]

def setRewards (self : NcnRewardRoute) (ncnFeeGroup : NcnFeeGroup) (rewards : ℕ) :
    Except TipRouterError NcnRewardRoute := do
  let groupIndex ← ncnFeeGroup.groupIndex
  return { self with ncnFeeGroupRewards := self.ncnFeeGroupRewards.put groupIndex rewards }

def new (operator : Pubkey) (ncnFeeGroup : NcnFeeGroup) (rewards : ℕ) :
    Except TipRouterError NcnRewardRoute :=
  let route : NcnRewardRoute := {
    operator := operator
    ncnFeeGroupRewards := Vector.replicate feeGroupCount 0 }
  route.setRewards ncnFeeGroup rewards

/-- The body `increment_rewards` and `decrement_rewards` share; both report an
overflow. -/
def updateRewards (checked : ℕ → ℕ → Option ℕ) (self : NcnRewardRoute) (ncnFeeGroup : NcnFeeGroup)
    (rewards : ℕ) : Except TipRouterError NcnRewardRoute := do
  let currentRewards ← self.rewards ncnFeeGroup
  let newRewards ← okOr (checked currentRewards rewards) .arithmeticOverflow
  self.setRewards ncnFeeGroup newRewards

def incrementRewards : NcnRewardRoute → NcnFeeGroup → ℕ → Except TipRouterError NcnRewardRoute :=
  updateRewards (checkedAdd 64)

def decrementRewards : NcnRewardRoute → NcnFeeGroup → ℕ → Except TipRouterError NcnRewardRoute :=
  updateRewards checkedSub

end NcnRewardRoute

/-! ## The account -/

structure BaseRewardRouter where
  ncn : Pubkey
  epoch : ℕ
  bump : ℕ
  slotCreated : ℕ
  totalRewards : ℕ
  rewardPool : ℕ
  rewardsProcessed : ℕ
  lastNcnGroupIndex : ℕ
  lastVoteIndex : ℕ
  lastRewardsToProcess : ℕ
  baseFeeGroupRewards : Vector ℕ feeGroupCount
  ncnFeeGroupRewards : Vector ℕ feeGroupCount
  ncnFeeGroupRewardRoutes : Vector NcnRewardRoute maxOperators
  deriving DecidableEq

namespace BaseRewardRouter

def noLastNcnGroupIndex : ℕ := u8Max
def noLastVoteIndex : ℕ := u16Max
def noLastRewardsToProcess : ℕ := u64Max

/-- `BaseRewardRouter::new`; `initialize` sets the same fields one by one. -/
def new (ncn : Pubkey) (ncnEpoch bump slotCreated : ℕ) : BaseRewardRouter where
  ncn := ncn
  epoch := ncnEpoch
  bump := bump
  slotCreated := slotCreated
  totalRewards := 0
  rewardPool := 0
  rewardsProcessed := 0
  lastNcnGroupIndex := noLastNcnGroupIndex
  lastVoteIndex := noLastVoteIndex
  lastRewardsToProcess := noLastRewardsToProcess
  baseFeeGroupRewards := Vector.replicate feeGroupCount 0
  ncnFeeGroupRewards := Vector.replicate feeGroupCount 0
  ncnFeeGroupRewardRoutes := Vector.replicate maxOperators .default

/-! ## Route state tracking -/

def stillRouting (self : BaseRewardRouter) : Bool :=
  self.lastNcnGroupIndex != noLastNcnGroupIndex || self.lastVoteIndex != noLastVoteIndex ||
    self.lastRewardsToProcess != noLastRewardsToProcess

/-- The group index, vote index and rewards to start from. -/
def resumeRoutingState (self : BaseRewardRouter) : ℕ × ℕ × ℕ :=
  if !self.stillRouting then (0, 0, 0)
  else (self.lastNcnGroupIndex, self.lastVoteIndex, self.lastRewardsToProcess)

def saveRoutingState (self : BaseRewardRouter) (ncnGroupIndex voteIndex rewardsToProcess : ℕ) :
    BaseRewardRouter :=
  { self with
    lastNcnGroupIndex := ncnGroupIndex % 2 ^ 8
    lastVoteIndex := voteIndex % 2 ^ 16
    lastRewardsToProcess := rewardsToProcess }

def resetRoutingState (self : BaseRewardRouter) : BaseRewardRouter :=
  { self with
    lastNcnGroupIndex := noLastNcnGroupIndex
    lastVoteIndex := noLastVoteIndex
    lastRewardsToProcess := noLastRewardsToProcess }

/-! ## Counters -/

def totalRewardsInTransit (self : BaseRewardRouter) : Except TipRouterError ℕ :=
  okOr (checkedAdd 64 self.rewardPool self.rewardsProcessed) .arithmeticOverflow

def incrementRewardsProcessed (self : BaseRewardRouter) (rewards : ℕ) :
    Except TipRouterError BaseRewardRouter :=
  if rewards = 0 then .ok self
  else do
    let rewardsProcessed ← okOr (checkedAdd 64 self.rewardsProcessed rewards) .arithmeticOverflow
    return { self with rewardsProcessed := rewardsProcessed }

def decrementRewardsProcessed (self : BaseRewardRouter) (rewards : ℕ) :
    Except TipRouterError BaseRewardRouter :=
  if rewards = 0 then .ok self
  else do
    let rewardsProcessed ← okOr (checkedSub self.rewardsProcessed rewards) .arithmeticUnderflowError
    return { self with rewardsProcessed := rewardsProcessed }

def routeToRewardPool (self : BaseRewardRouter) (rewards : ℕ) :
    Except TipRouterError BaseRewardRouter :=
  if rewards = 0 then .ok self
  else do
    let totalRewards ← okOr (checkedAdd 64 self.totalRewards rewards) .arithmeticOverflow
    let rewardPool ← okOr (checkedAdd 64 self.rewardPool rewards) .arithmeticOverflow
    return { self with totalRewards := totalRewards, rewardPool := rewardPool }

def routeFromRewardPool (self : BaseRewardRouter) (rewards : ℕ) :
    Except TipRouterError BaseRewardRouter :=
  if rewards = 0 then .ok self
  else do
    let rewardPool ← okOr (checkedSub self.rewardPool rewards) .arithmeticUnderflowError
    let self := { self with rewardPool := rewardPool }
    self.incrementRewardsProcessed rewards

/-! ## Group balances -/

def baseFeeGroupReward (self : BaseRewardRouter) (group : BaseFeeGroup) :
    Except TipRouterError ℕ := do
  let groupIndex ← group.groupIndex
  return self.baseFeeGroupRewards[groupIndex]

def routeToBaseFeeGroupRewards (self : BaseRewardRouter) (group : BaseFeeGroup) (rewards : ℕ) :
    Except TipRouterError BaseRewardRouter :=
  if rewards = 0 then .ok self
  else do
    let groupIndex ← group.groupIndex
    let currentRewards ← self.baseFeeGroupReward group
    let newRewards ← okOr (checkedAdd 64 currentRewards rewards) .arithmeticOverflow
    return { self with baseFeeGroupRewards := self.baseFeeGroupRewards.put groupIndex newRewards }

/-- The rewards taken out, and the router without them. -/
def distributeBaseFeeGroupRewards (self : BaseRewardRouter) (group : BaseFeeGroup) :
    Except TipRouterError (ℕ × BaseRewardRouter) := do
  let groupIndex ← group.groupIndex
  let rewards ← self.baseFeeGroupReward group
  let newRewards ← okOr (checkedSub rewards rewards) .arithmeticUnderflowError
  let self := { self with
    baseFeeGroupRewards := self.baseFeeGroupRewards.put groupIndex newRewards }
  let self ← self.decrementRewardsProcessed rewards
  return (rewards, self)

/-- `ncn_fee_group_rewards`, the getter. -/
def ncnFeeGroupReward (self : BaseRewardRouter) (group : NcnFeeGroup) :
    Except TipRouterError ℕ := do
  let groupIndex ← group.groupIndex
  return self.ncnFeeGroupRewards[groupIndex]

/-- The body `route_to_ncn_fee_group_rewards` and
`route_from_ncn_fee_group_rewards` share. -/
def updateNcnFeeGroupRewards (checked : ℕ → ℕ → Option ℕ) (failure : TipRouterError)
    (self : BaseRewardRouter) (group : NcnFeeGroup) (rewards : ℕ) :
    Except TipRouterError BaseRewardRouter :=
  if rewards = 0 then .ok self
  else do
    let groupIndex ← group.groupIndex
    let currentRewards ← self.ncnFeeGroupReward group
    let newRewards ← okOr (checked currentRewards rewards) failure
    return { self with ncnFeeGroupRewards := self.ncnFeeGroupRewards.put groupIndex newRewards }

def routeToNcnFeeGroupRewards :
    BaseRewardRouter → NcnFeeGroup → ℕ → Except TipRouterError BaseRewardRouter :=
  updateNcnFeeGroupRewards (checkedAdd 64) .arithmeticOverflow

def routeFromNcnFeeGroupRewards :
    BaseRewardRouter → NcnFeeGroup → ℕ → Except TipRouterError BaseRewardRouter :=
  updateNcnFeeGroupRewards checkedSub .arithmeticUnderflowError

/-- The route of the operator if there is one, the first empty route otherwise. -/
def routeToNcnFeeGroupRewardRoute (self : BaseRewardRouter) (ncnFeeGroup : NcnFeeGroup)
    (operator : Pubkey) (rewards : ℕ) : Except TipRouterError BaseRewardRouter :=
  if rewards = 0 then .ok self
  else do
    let routes ← Slots.upsert NcnRewardRoute.operator .default operator
      (fun route => route.incrementRewards ncnFeeGroup rewards)
      (NcnRewardRoute.new operator ncnFeeGroup rewards) .operatorRewardListFull self.ncnFeeGroupRewardRoutes
    return { self with ncnFeeGroupRewardRoutes := routes }

/-- The rewards taken out, and the router without them. -/
def distributeNcnFeeGroupRewardRoute (self : BaseRewardRouter) (ncnFeeGroup : NcnFeeGroup)
    (operator : Pubkey) : Except TipRouterError (ℕ × BaseRewardRouter) :=
  match Slots.first (fun route => route.operator == operator) self.ncnFeeGroupRewardRoutes with
  | some routeIndex => do
    let route := self.ncnFeeGroupRewardRoutes[routeIndex]
    let rewards ← route.rewards ncnFeeGroup
    let route ← route.decrementRewards ncnFeeGroup rewards
    let self := { self with
      ncnFeeGroupRewardRoutes := self.ncnFeeGroupRewardRoutes.put routeIndex route }
    let self ← self.decrementRewardsProcessed rewards
    return (rewards, self)
  | none => .error .operatorRewardNotFound

/-! ## Calculations -/

def calculateRewardSplit (spl : SplMath) (feeBps totalFeeBps rewardsToProcess : ℕ) :
    Except TipRouterError ℕ :=
  if feeBps = 0 ∨ rewardsToProcess = 0 then .ok 0
  else preciseShare spl feeBps totalFeeBps rewardsToProcess

def calculateNcnFeeGroupRouteReward (spl : SplMath)
    (ncnRouteRewardStakeWeight winningRewardStakeWeight rewardsToProcess : ℕ) :
    Except TipRouterError ℕ :=
  if ncnRouteRewardStakeWeight = 0 ∨ rewardsToProcess = 0 then .ok 0
  else preciseShare spl ncnRouteRewardStakeWeight winningRewardStakeWeight rewardsToProcess

/-! ## Routing -/

def routeIncomingRewards (self : BaseRewardRouter) (rentCost accountBalance : ℕ) :
    Except TipRouterError BaseRewardRouter := do
  let totalRewards ← self.totalRewardsInTransit
  let incomingRewards ← okOr (checkedSub accountBalance totalRewards) .arithmeticUnderflowError
  let rewardsToRoute ← okOr (checkedSub incomingRewards rentCost) .arithmeticUnderflowError
  self.routeToRewardPool rewardsToRoute

/-- The body of the first loop of `route_reward_pool`. -/
def routeBaseFeeGroup (spl : SplMath) (fee : Fees) (totalFeeBps rewardsToProcess : ℕ)
    (self : BaseRewardRouter) (group : BaseFeeGroup) : Except TipRouterError BaseRewardRouter := do
  let baseFee ← fee.baseFeeBps group
  let rewards ← calculateRewardSplit spl baseFee totalFeeBps rewardsToProcess
  let self ← self.routeFromRewardPool rewards
  self.routeToBaseFeeGroupRewards group rewards

/-- The body of the second loop of `route_reward_pool`. -/
def routeNcnFeeGroup (spl : SplMath) (fee : Fees) (totalFeeBps rewardsToProcess : ℕ)
    (self : BaseRewardRouter) (group : NcnFeeGroup) : Except TipRouterError BaseRewardRouter := do
  let ncnGroupFee ← fee.ncnFeeBps group
  let rewards ← calculateRewardSplit spl ncnGroupFee totalFeeBps rewardsToProcess
  let self ← self.routeFromRewardPool rewards
  self.routeToNcnFeeGroupRewards group rewards

def routeRewardPool (spl : SplMath) (self : BaseRewardRouter) (fee : Fees) :
    Except TipRouterError BaseRewardRouter := do
  let rewardsToProcess := self.rewardPool
  let totalFeeBps ← fee.totalFeesBps
  let self ← BaseFeeGroup.allGroups.foldlM
    (routeBaseFeeGroup spl fee totalFeeBps rewardsToProcess) self
  let self ← NcnFeeGroup.allGroups.foldlM
    (routeNcnFeeGroup spl fee totalFeeBps rewardsToProcess) self
  let leftoverRewards := self.rewardPool
  let self ← self.routeFromRewardPool leftoverRewards
  self.routeToBaseFeeGroupRewards .dao leftoverRewards

/-- What the inner loop of `route_ncn_fee_group_rewards` does for a vote for
the winning ballot. -/
def routeVote (spl : SplMath) (winningStakeWeight : StakeWeights) (group : NcnFeeGroup)
    (rewardsToProcess : ℕ) (self : BaseRewardRouter) (votes : OperatorVote) :
    Except TipRouterError BaseRewardRouter := do
  let winningRewardStakeWeight ← winningStakeWeight.ncnFeeGroupStakeWeight group
  let ncnRouteRewardStakeWeight ← votes.stakeWeights.ncnFeeGroupStakeWeight group
  let ncnFeeGroupRouteReward ← calculateNcnFeeGroupRouteReward spl ncnRouteRewardStakeWeight
    winningRewardStakeWeight rewardsToProcess
  let self ← self.routeFromNcnFeeGroupRewards group ncnFeeGroupRouteReward
  self.routeToNcnFeeGroupRewardRoute group votes.operator ncnFeeGroupRouteReward

/-- The DAO gets what the votes left of a group. -/
def routeLeftover (self : BaseRewardRouter) (group : NcnFeeGroup) :
    Except TipRouterError BaseRewardRouter := do
  let leftoverRewards ← self.ncnFeeGroupReward group
  let self ← self.routeFromNcnFeeGroupRewards group leftoverRewards
  self.routeToBaseFeeGroupRewards .dao leftoverRewards

/-- How the inner loop ends: all votes seen with the iterations so far, or the
state saved before a vote. -/
inductive VotesRouted where
  | finished (router : BaseRewardRouter) (iterations : ℕ)
  | saved (router : BaseRewardRouter)

/-- The inner loop of `route_ncn_fee_group_rewards`, over the votes from a
starting index on. -/
def routeVotes (spl : SplMath) (winningBallot : BallotTally) (maxIterations groupIndex : ℕ)
    (group : NcnFeeGroup) (rewardsToProcess : ℕ) :
    List (OperatorVote × ℕ) → BaseRewardRouter → ℕ → Except TipRouterError VotesRouted
  | [], self, iterations => .ok (.finished self iterations)
  | (votes, voteIndex) :: rest, self, iterations =>
    if votes.ballotIndex = winningBallot.index then do
      let iterations ← okOr (checkedAdd 16 iterations 1) .arithmeticOverflow
      if iterations > maxIterations then
        return .saved (self.saveRoutingState groupIndex voteIndex rewardsToProcess)
      else
        let self ← self.routeVote spl winningBallot.stakeWeights group rewardsToProcess votes
        routeVotes spl winningBallot maxIterations groupIndex group rewardsToProcess rest self
          iterations
    else
      routeVotes spl winningBallot maxIterations groupIndex group rewardsToProcess rest self
        iterations

/-- The saved rewards of an interrupted group, the balance of any other. -/
def groupRewardsToProcess (self : BaseRewardRouter) (group : NcnFeeGroup)
    (startingRewardsToProcess : ℕ) : Except TipRouterError ℕ :=
  if startingRewardsToProcess > 0 then .ok startingRewardsToProcess
  else self.ncnFeeGroupReward group

/-- The outer loop of `route_ncn_fee_group_rewards`, over the groups from a
starting index on. A group without rewards is skipped, and the starting indices
only count for the first group that is not. -/
def routeGroups (spl : SplMath) (operatorVotes : Vector OperatorVote maxOperators)
    (winningBallot : BallotTally) (maxIterations : ℕ) :
    List (NcnFeeGroup × ℕ) → ℕ → ℕ → BaseRewardRouter → ℕ → Except TipRouterError BaseRewardRouter
  | [], _, _, self, _ => .ok self.resetRoutingState
  | (group, groupIndex) :: rest, startingVoteIndex, startingRewardsToProcess, self, iterations => do
    let rewardsToProcess ← self.groupRewardsToProcess group startingRewardsToProcess
    if rewardsToProcess = 0 then
      routeGroups spl operatorVotes winningBallot maxIterations rest startingVoteIndex 0 self
        iterations
    else
      match ← routeVotes spl winningBallot maxIterations groupIndex group rewardsToProcess
        (operatorVotes.toList.zipIdx.drop startingVoteIndex) self iterations with
      | .saved self => return self
      | .finished self iterations =>
        let self ← self.routeLeftover group
        routeGroups spl operatorVotes winningBallot maxIterations rest 0 0 self iterations

def routeNcnFeeGroupRewards (spl : SplMath) (self : BaseRewardRouter) (ballotBox : BallotBox)
    (maxIterations : ℕ) : Except TipRouterError BaseRewardRouter := do
  let winningBallot ← ballotBox.getWinningBallotTally
  let (startingGroupIndex, startingVoteIndex, startingRewardsToProcess) := self.resumeRoutingState
  routeGroups spl ballotBox.operatorVotes winningBallot (max maxIterations 1)
    (NcnFeeGroup.allGroups.zipIdx.drop startingGroupIndex) startingVoteIndex
    startingRewardsToProcess self 0

/-- What `process_route_base_rewards` does unless a routing is interrupted. -/
def startRouting (spl : SplMath) (self : BaseRewardRouter) (fees : Fees)
    (rentCost accountBalance : ℕ) : Except TipRouterError BaseRewardRouter :=
  if self.stillRouting then .ok self
  else do
    let self ← self.routeIncomingRewards rentCost accountBalance
    self.routeRewardPool spl fees

/-- `process_route_base_rewards`, as far as it changes the router. -/
def processRouteBaseRewards (spl : SplMath) (self : BaseRewardRouter) (fees : Fees)
    (ballotBox : BallotBox) (currentSlot validSlotsAfterConsensus rentCost accountBalance
      maxIterations : ℕ) : Except TipRouterError BaseRewardRouter := do
  if ← ballotBox.isVotingValid currentSlot validSlotsAfterConsensus then .error .votingIsNotOver
  else
    let self ← self.startRouting spl fees rentCost accountBalance
    self.routeNcnFeeGroupRewards spl ballotBox maxIterations

/-- `process_distribute_base_rewards`: the lamports to send and the router
without them. -/
def processDistributeBaseRewards (self : BaseRewardRouter) (baseFeeGroup : ℕ) :
    Except TipRouterError (ℕ × BaseRewardRouter) := do
  let group ← BaseFeeGroup.tryFrom baseFeeGroup
  if self.stillRouting then .error .routerStillRouting
  else self.distributeBaseFeeGroupRewards group

/-- `process_distribute_base_ncn_reward_route`, likewise. -/
def processDistributeBaseNcnRewardRoute (self : BaseRewardRouter) (ncnFeeGroup : ℕ)
    (operator : Pubkey) : Except TipRouterError (ℕ × BaseRewardRouter) := do
  let group ← NcnFeeGroup.tryFrom ncnFeeGroup
  if self.stillRouting then .error .routerStillRouting
  else self.distributeNcnFeeGroupRewardRoute group operator

end BaseRewardRouter

end TipRouter
