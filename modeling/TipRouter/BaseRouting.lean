import TipRouter.BaseRouterLedger
import TipRouter.Resumption

/-! Routing with interruptions. The loop of `route_ncn_fee_group_rewards` without
its limit is what a routing means. A call with any limit either reaches the same
router, or saves a position from which the loop without a limit still leads there
and has fewer votes left to see. -/
namespace TipRouter
open Runs

variable {spl : SplMath} {router next : BaseRewardRouter} {winningBallot : BallotTally}
variable {group : NcnFeeGroup} {rewards : ℕ} {votes : List OperatorVote}

/-! ## The loop without a limit -/

/-- The votes for the winning ballot. -/
def counted (winningBallot : BallotTally) (votes : List OperatorVote) : List OperatorVote :=
  votes.filter fun vote => decide (vote.ballotIndex = winningBallot.index)

theorem counted_cons_of_wins {vote : OperatorVote} (wins : vote.ballotIndex = winningBallot.index) :
    counted winningBallot (vote :: votes) = vote :: counted winningBallot votes :=
  List.filter_cons_of_pos (decide_eq_true wins)

theorem counted_cons_of_loses {vote : OperatorVote}
    (loses : vote.ballotIndex ≠ winningBallot.index) :
    counted winningBallot (vote :: votes) = counted winningBallot votes :=
  List.filter_cons_of_neg (by simpa using loses)

theorem length_counted_drop_le (winningBallot : BallotTally) (votes : List OperatorVote)
    (index : ℕ) :
    (counted winningBallot (votes.drop index)).length ≤ (counted winningBallot votes).length :=
  ((List.drop_sublist index votes).filter _).length_le

namespace BaseRewardRouter

def routeAllVotes (spl : SplMath) (winningBallot : BallotTally) (group : NcnFeeGroup)
    (rewardsToProcess : ℕ) (votes : List OperatorVote) (self : BaseRewardRouter) :
    Except TipRouterError BaseRewardRouter :=
  (counted winningBallot votes).foldlM
    (routeVote spl winningBallot.stakeWeights group rewardsToProcess) self

def routeAllGroups (spl : SplMath) (votes : List OperatorVote) (winningBallot : BallotTally) :
    List (Fin feeGroupCount) → ℕ → ℕ → BaseRewardRouter → Except TipRouterError BaseRewardRouter
  | [], _, _, self => .ok self.resetRoutingState
  | group :: rest, startingVoteIndex, startingRewardsToProcess, self => do
    let rewardsToProcess ← self.groupRewardsToProcess (.ofIndex group) startingRewardsToProcess
    if rewardsToProcess = 0 then
      routeAllGroups spl votes winningBallot rest startingVoteIndex 0 self
    else do
      let self ← self.routeAllVotes spl winningBallot (.ofIndex group) rewardsToProcess
        (votes.drop startingVoteIndex)
      let self ← self.routeLeftover (.ofIndex group)
      routeAllGroups spl votes winningBallot rest 0 0 self

/-! ## The saved position does not matter inside the loop -/

section Reset

theorem updateNcnFeeGroupRewards_reset {checked : ℕ → ℕ → Option ℕ} {failure : TipRouterError} :
    router.resetRoutingState.updateNcnFeeGroupRewards checked failure group rewards =
      (router.updateNcnFeeGroupRewards checked failure group rewards).map resetRoutingState := by
  unfold updateNcnFeeGroupRewards
  by_cases nothing : rewards = 0
  · rw [if_pos nothing, if_pos nothing]
    rfl
  · rw [if_neg nothing, if_neg nothing]
    simp only [ncnFeeGroupReward, resetRoutingState]
    cases group.groupIndex with
    | error failure => rfl
    | ok groupIndex =>
      simp only [ok_bind, pure, Except.pure]
      cases checked router.ncnFeeGroupRewards[groupIndex] rewards <;> rfl

theorem routeToNcnFeeGroupRewardRoute_reset {operator : Pubkey} :
    router.resetRoutingState.routeToNcnFeeGroupRewardRoute group operator rewards =
      (router.routeToNcnFeeGroupRewardRoute group operator rewards).map resetRoutingState := by
  unfold routeToNcnFeeGroupRewardRoute
  by_cases nothing : rewards = 0
  · rw [if_pos nothing, if_pos nothing]
    rfl
  · rw [if_neg nothing, if_neg nothing]
    simp only [resetRoutingState]
    generalize Slots.upsert NcnRewardRoute.operator _ operator _ _ _ _ = written
    cases written <;> rfl

theorem routeToBaseFeeGroupRewards_reset {base : BaseFeeGroup} :
    router.resetRoutingState.routeToBaseFeeGroupRewards base rewards =
      (router.routeToBaseFeeGroupRewards base rewards).map resetRoutingState := by
  unfold routeToBaseFeeGroupRewards
  by_cases nothing : rewards = 0
  · rw [if_pos nothing, if_pos nothing]
    rfl
  · rw [if_neg nothing, if_neg nothing]
    simp only [baseFeeGroupReward, resetRoutingState]
    cases base.groupIndex with
    | error failure => rfl
    | ok groupIndex =>
      simp only [ok_bind, pure, Except.pure]
      cases checkedAdd 64 router.baseFeeGroupRewards[groupIndex] rewards <;> rfl

theorem routeVote_reset {stakeWeights : StakeWeights} {vote : OperatorVote} :
    router.resetRoutingState.routeVote spl stakeWeights group rewards vote =
      (router.routeVote spl stakeWeights group rewards vote).map resetRoutingState := by
  unfold routeVote
  cases stakeWeights.ncnFeeGroupStakeWeight group with
  | error failure => rfl
  | ok whole =>
    simp only [ok_bind]
    cases vote.stakeWeights.ncnFeeGroupStakeWeight group with
    | error failure => rfl
    | ok part =>
      simp only [ok_bind]
      cases calculateNcnFeeGroupRouteReward spl part whole rewards with
      | error failure => rfl
      | ok share =>
        simp only [ok_bind, routeFromNcnFeeGroupRewards, updateNcnFeeGroupRewards_reset]
        cases router.updateNcnFeeGroupRewards checkedSub .arithmeticUnderflowError group share with
        | error failure => rfl
        | ok taken => exact routeToNcnFeeGroupRewardRoute_reset

theorem routeLeftover_reset :
    router.resetRoutingState.routeLeftover group =
      (router.routeLeftover group).map resetRoutingState := by
  unfold routeLeftover
  have same : router.resetRoutingState.ncnFeeGroupReward group = router.ncnFeeGroupReward group := rfl
  rw [same]
  cases router.ncnFeeGroupReward group with
  | error failure => rfl
  | ok leftover =>
    simp only [ok_bind, routeFromNcnFeeGroupRewards, updateNcnFeeGroupRewards_reset]
    cases router.updateNcnFeeGroupRewards checkedSub .arithmeticUnderflowError group leftover with
    | error failure => rfl
    | ok taken => exact routeToBaseFeeGroupRewards_reset

theorem foldlM_routeVote_reset {stakeWeights : StakeWeights} :
    votes.foldlM (routeVote spl stakeWeights group rewards) router.resetRoutingState =
      (votes.foldlM (routeVote spl stakeWeights group rewards) router).map resetRoutingState := by
  induction votes generalizing router with
  | nil => rfl
  | cons vote rest ih =>
    simp only [List.foldlM_cons, routeVote_reset]
    cases router.routeVote spl stakeWeights group rewards vote with
    | error failure => rfl
    | ok middle => exact ih

theorem routeAllGroups_reset {groups : List (Fin feeGroupCount)}
    {startingVoteIndex startingRewards : ℕ} :
    routeAllGroups spl votes winningBallot groups startingVoteIndex startingRewards
        router.resetRoutingState =
      routeAllGroups spl votes winningBallot groups startingVoteIndex startingRewards router := by
  induction groups generalizing router startingVoteIndex startingRewards with
  | nil => rfl
  | cons group rest ih =>
    have same : router.resetRoutingState.groupRewardsToProcess (.ofIndex group) startingRewards =
        router.groupRewardsToProcess (.ofIndex group) startingRewards := rfl
    simp only [routeAllGroups, same]
    cases router.groupRewardsToProcess (.ofIndex group) startingRewards with
    | error failure => rfl
    | ok rewardsToProcess =>
      simp only [ok_bind]
      by_cases nothing : rewardsToProcess = 0
      · rw [if_pos nothing, if_pos nothing, ih]
      · rw [if_neg nothing, if_neg nothing]
        simp only [routeAllVotes, foldlM_routeVote_reset]
        cases (counted winningBallot (votes.drop startingVoteIndex)).foldlM
          (routeVote spl winningBallot.stakeWeights (.ofIndex group) rewardsToProcess) router with
        | error failure => rfl
        | ok voted =>
          simp only [Except.map, ok_bind, routeLeftover_reset]
          cases voted.routeLeftover (.ofIndex group) with
          | error failure => rfl
          | ok emptied => exact ih

/-- Where the loop was saved makes no difference to what it computes. -/
theorem routeAllGroups_save {groups : List (Fin feeGroupCount)}
    {startingVoteIndex startingRewards : ℕ} (groupIndex voteIndex rewardsToProcess : ℕ) :
    routeAllGroups spl votes winningBallot groups startingVoteIndex startingRewards
        (router.saveRoutingState groupIndex voteIndex rewardsToProcess) =
      routeAllGroups spl votes winningBallot groups startingVoteIndex startingRewards router := by
  calc routeAllGroups spl votes winningBallot groups startingVoteIndex startingRewards
        (router.saveRoutingState groupIndex voteIndex rewardsToProcess)
      = routeAllGroups spl votes winningBallot groups startingVoteIndex startingRewards
          router.resetRoutingState := routeAllGroups_reset.symm
    _ = routeAllGroups spl votes winningBallot groups startingVoteIndex startingRewards router :=
      routeAllGroups_reset

end Reset

/-! ## Calls with a limit -/

section Limit
variable {maxIterations : ℕ}

/-- The inner loop ends as it does without a limit, or it has used up its
iterations and saves the position of a vote it has yet to see. -/
theorem routeVotes_cases (groupIndex : ℕ) {index iterations : ℕ} {out : BaseRewardRouter}
    (all : router.routeAllVotes spl winningBallot group rewards (votes.drop index) = .ok out)
    (within : iterations ≤ maxIterations)
    (fits : iterations + (counted winningBallot (votes.drop index)).length < 2 ^ 16) :
    (iterations + (counted winningBallot (votes.drop index)).length ≤ maxIterations ∧
      routeVotes spl winningBallot maxIterations groupIndex group rewards
          ((votes.drop index).zipIdx index) router iterations =
        .ok (.finished out (iterations + (counted winningBallot (votes.drop index)).length))) ∨
    ∃ (next : ℕ) (middle : BaseRewardRouter),
      routeVotes spl winningBallot maxIterations groupIndex group rewards
          ((votes.drop index).zipIdx index) router iterations =
        .ok (.saved (middle.saveRoutingState groupIndex next rewards)) ∧
      next < votes.length ∧
      middle.routeAllVotes spl winningBallot group rewards (votes.drop next) = .ok out ∧
      (counted winningBallot (votes.drop next)).length + maxIterations =
        iterations + (counted winningBallot (votes.drop index)).length ∧
      0 < (counted winningBallot (votes.drop next)).length := by
  generalize ahead : votes.drop index = rest at all fits ⊢
  induction rest generalizing index router iterations with
  | nil =>
    cases all
    exact .inl ⟨within, rfl⟩
  | cons vote rest ih =>
    have inside : index < votes.length := by
      have length := congrArg List.length ahead
      rw [List.length_drop, List.length_cons] at length
      omega
    have aheadRest : votes.drop (index + 1) = rest := by
      rw [← List.tail_drop, ahead, List.tail_cons]
    rw [List.zipIdx_cons, routeVotes]
    by_cases wins : vote.ballotIndex = winningBallot.index
    · rw [if_pos wins]
      rw [routeAllVotes, counted_cons_of_wins wins, List.foldlM_cons, bind_eq_ok] at all
      obtain ⟨middle, first, remaining⟩ := all
      rw [counted_cons_of_wins wins, List.length_cons] at fits ⊢
      rw [checkedAdd_of_lt (by omega), okOr_some, ok_bind]
      by_cases stop : iterations + 1 > maxIterations
      · rw [if_pos stop]
        have same : counted winningBallot (votes.drop index) =
            vote :: counted winningBallot rest := by rw [ahead, counted_cons_of_wins wins]
        refine .inr ⟨index, router, rfl, inside, ?_, ?_, ?_⟩
        · rw [routeAllVotes, same, List.foldlM_cons, first, ok_bind]
          exact remaining
        · rw [same, List.length_cons]
          omega
        · rw [same]
          exact Nat.succ_pos _
      · rw [if_neg stop, first, ok_bind]
        have counting : iterations + 1 ≤ maxIterations := Nat.le_of_not_lt stop
        rcases ih counting aheadRest remaining (by omega) with ⟨enough, finished⟩ | interrupted
        · refine .inl ⟨by omega, ?_⟩
          rw [finished, Nat.add_assoc, Nat.add_comm 1]
        · obtain ⟨next, stopped, saved, bound, goesOn, work, some⟩ := interrupted
          exact .inr ⟨next, stopped, saved, bound, goesOn, by omega, some⟩
    · rw [if_neg wins]
      rw [routeAllVotes, counted_cons_of_loses wins] at all
      rw [counted_cons_of_loses wins] at fits ⊢
      exact ih within aheadRest all fits

/-- How many votes the loop has yet to see: those of the first group from a
starting index on, and all votes in each further group. -/
def remaining (winningBallot : BallotTally) (votes : List OperatorVote) (startingVoteIndex : ℕ) :
    List (Fin feeGroupCount) → ℕ
  | [] => 0
  | _ :: rest => (counted winningBallot (votes.drop startingVoteIndex)).length +
      rest.length * (counted winningBallot votes).length

theorem remaining_le (winningBallot : BallotTally) (votes : List OperatorVote)
    (startingVoteIndex : ℕ) (groups : List (Fin feeGroupCount)) :
    remaining winningBallot votes startingVoteIndex groups ≤
      groups.length * (counted winningBallot votes).length := by
  cases groups with
  | nil => exact Nat.zero_le _
  | cons group rest =>
    have fewer := length_counted_drop_le winningBallot votes startingVoteIndex
    rw [remaining, List.length_cons, Nat.add_mul, Nat.one_mul]
    omega

theorem remaining_skip (winningBallot : BallotTally) (votes : List OperatorVote)
    (startingVoteIndex : ℕ) (group : Fin feeGroupCount) (rest : List (Fin feeGroupCount)) :
    remaining winningBallot votes startingVoteIndex rest ≤
      remaining winningBallot votes startingVoteIndex (group :: rest) := by
  cases rest with
  | nil => exact Nat.zero_le _
  | cons next rest =>
    rw [remaining, remaining, List.length_cons, Nat.add_mul]
    omega

/-- The whole loop ends as it does without a limit, or it has used up its
iterations and leaves a position from which the loop without a limit goes on to
the same router. -/
theorem routeGroups_cases {operatorVotes : Vector OperatorVote maxOperators}
    {start startingVoteIndex startingRewards iterations : ℕ} {out : BaseRewardRouter}
    (all : routeAllGroups spl operatorVotes.toList winningBallot
      ((List.finRange feeGroupCount).drop start) startingVoteIndex startingRewards router = .ok out)
    (within : iterations ≤ maxIterations)
    (fits : iterations + remaining winningBallot operatorVotes.toList startingVoteIndex
      ((List.finRange feeGroupCount).drop start) < 2 ^ 16) :
    routeGroups spl operatorVotes winningBallot maxIterations
        (((List.finRange feeGroupCount).drop start).map fun group => (.ofIndex group, group.val))
        startingVoteIndex startingRewards router iterations = .ok out ∨
    ∃ (group voteIndex rewards : ℕ) (middle : BaseRewardRouter),
      routeGroups spl operatorVotes winningBallot maxIterations
        (((List.finRange feeGroupCount).drop start).map fun group => (.ofIndex group, group.val))
        startingVoteIndex startingRewards router iterations =
          .ok (middle.saveRoutingState group voteIndex rewards) ∧
      group < feeGroupCount ∧ voteIndex < maxOperators ∧ 0 < rewards ∧
      routeAllGroups spl operatorVotes.toList winningBallot
        ((List.finRange feeGroupCount).drop group) voteIndex rewards middle = .ok out ∧
      remaining winningBallot operatorVotes.toList voteIndex
          ((List.finRange feeGroupCount).drop group) + maxIterations ≤
        iterations + remaining winningBallot operatorVotes.toList startingVoteIndex
          ((List.finRange feeGroupCount).drop start) ∧
      0 < remaining winningBallot operatorVotes.toList voteIndex
        ((List.finRange feeGroupCount).drop group) := by
  generalize ahead : (List.finRange feeGroupCount).drop start = groups at all fits ⊢
  induction groups generalizing start startingVoteIndex startingRewards router iterations with
  | nil =>
    cases all
    exact .inl rfl
  | cons group rest ih =>
    have inside : start < (List.finRange feeGroupCount).length := by
      have length := congrArg List.length ahead
      rw [List.length_drop, List.length_cons] at length
      omega
    have split := List.drop_eq_getElem_cons inside
    rw [ahead] at split
    obtain ⟨here, aheadRest⟩ := List.cons.inj split
    have position : group.val = start := by rw [here, List.getElem_finRange]; rfl
    rw [List.map_cons, routeGroups]
    obtain ⟨rewardsToProcess, read, all⟩ := bind_eq_ok.mp all
    rw [read, ok_bind]
    by_cases nothing : rewardsToProcess = 0
    · rw [if_pos nothing] at all ⊢
      have fewer := remaining_skip winningBallot operatorVotes.toList startingVoteIndex group rest
      rcases ih within aheadRest.symm all (by omega) with finished | interrupted
      · exact .inl finished
      · obtain ⟨group', voteIndex, rewards, middle, saved, isGroup, isVote, some, goesOn, work,
          left⟩ := interrupted
        exact .inr ⟨group', voteIndex, rewards, middle, saved, isGroup, isVote, some, goesOn,
          by omega, left⟩
    · rw [if_neg nothing] at all ⊢
      obtain ⟨voted, allVotes, all⟩ := bind_eq_ok.mp all
      obtain ⟨emptied, leftover, all⟩ := bind_eq_ok.mp all
      rw [remaining] at fits ⊢
      rw [drop_zipIdx, Nat.zero_add]
      rcases routeVotes_cases group.val allVotes within (by omega) with
        ⟨enough, finished⟩ | ⟨next, middle, stopped, bound, goesOn, work, some⟩
      · rw [finished, ok_bind]
        dsimp only
        rw [leftover, ok_bind]
        have full := remaining_le winningBallot operatorVotes.toList 0 rest
        rcases ih enough aheadRest.symm all (by omega) with finished | interrupted
        · exact .inl finished
        · obtain ⟨group', voteIndex, rewards, middle, saved, isGroup, isVote, some, goesOn, work,
            left⟩ := interrupted
          exact .inr ⟨group', voteIndex, rewards, middle, saved, isGroup, isVote, some, goesOn,
            by omega, left⟩
      · rw [stopped, ok_bind]
        refine .inr ⟨group.val, next, rewardsToProcess, middle, rfl, group.isLt, ?_,
          Nat.pos_of_ne_zero nothing, ?_, ?_, ?_⟩
        · rwa [Vector.length_toList] at bound
        · rw [position, ahead, routeAllGroups, groupRewardsToProcess,
            if_pos (Nat.pos_of_ne_zero nothing), ok_bind, if_neg nothing, goesOn, ok_bind, leftover,
            ok_bind]
          exact all
        · rw [position, ahead, remaining]
          omega
        · rw [position, ahead, remaining]
          omega

end Limit

/-! ## Whole calls -/

/-- From where the router stopped, or from the start, the loop without a limit
leads to `out`. -/
def Completes (spl : SplMath) (box : BallotBox) (winningBallot : BallotTally)
    (out router : BaseRewardRouter) : Prop :=
  routeAllGroups spl box.operatorVotes.toList winningBallot
    ((List.finRange feeGroupCount).drop router.resumeRoutingState.1) router.resumeRoutingState.2.1
    router.resumeRoutingState.2.2 router = .ok out

/-- The votes that a routing has yet to see. -/
def workLeft (box : BallotBox) (winningBallot : BallotTally) (router : BaseRewardRouter) : ℕ :=
  remaining winningBallot box.operatorVotes.toList router.resumeRoutingState.2.1
    ((List.finRange feeGroupCount).drop router.resumeRoutingState.1)

/-- An interrupted routing that leads to `out`. -/
structure Interrupted (spl : SplMath) (box : BallotBox) (winningBallot : BallotTally)
    (out router : BaseRewardRouter) : Prop where
  stillRouting : router.stillRouting = true
  completes : Completes spl box winningBallot out router
  unfinished : 0 < workLeft box winningBallot router

theorem resetRoutingState_of_idle (idle : router.stillRouting = false) :
    router.resetRoutingState = router := by
  simp only [stillRouting, Bool.or_eq_false_iff, bne_eq_false_iff_eq] at idle
  obtain ⟨⟨group, vote⟩, rewards⟩ := idle
  rw [resetRoutingState, ← group, ← vote, ← rewards]

theorem resumeRoutingState_of_idle (idle : router.stillRouting = false) :
    router.resumeRoutingState = (0, 0, 0) := by
  rw [resumeRoutingState, idle]
  rfl

@[simp] theorem stillRouting_resetRoutingState :
    router.resetRoutingState.stillRouting = false := by
  simp [stillRouting, resetRoutingState]

/-- No position of the loop is taken for the mark of an idle router. -/
theorem stillRouting_saveRoutingState {groupIndex : ℕ} (isGroup : groupIndex < feeGroupCount)
    (voteIndex : ℕ) :
    (router.saveRoutingState groupIndex voteIndex rewards).stillRouting = true := by
  have small : groupIndex < 8 := isGroup
  have short : groupIndex % 2 ^ 8 ≠ noLastNcnGroupIndex := by
    unfold noLastNcnGroupIndex u8Max
    omega
  simp only [stillRouting, saveRoutingState, bne_iff_ne.mpr short, Bool.true_or]

theorem resumeRoutingState_saveRoutingState {groupIndex voteIndex : ℕ}
    (isGroup : groupIndex < feeGroupCount) (isVote : voteIndex < maxOperators)
    (router : BaseRewardRouter) (rewards : ℕ) :
    (router.saveRoutingState groupIndex voteIndex rewards).resumeRoutingState =
      (groupIndex, voteIndex, rewards) := by
  have smallGroup : groupIndex < 8 := isGroup
  have smallVote : voteIndex < 256 := isVote
  rw [resumeRoutingState, stillRouting_saveRoutingState isGroup]
  simp only [saveRoutingState, Nat.mod_eq_of_lt (show groupIndex < 2 ^ 8 by omega),
    Nat.mod_eq_of_lt (show voteIndex < 2 ^ 16 by omega)]
  rfl

theorem stillRouting_of_routeAllGroups {groups : List (Fin feeGroupCount)}
    {startingVoteIndex startingRewards : ℕ} {out : BaseRewardRouter}
    (routed : routeAllGroups spl votes winningBallot groups startingVoteIndex startingRewards
      router = .ok out) : out.stillRouting = false := by
  induction groups generalizing router startingVoteIndex startingRewards with
  | nil =>
    cases routed
    exact stillRouting_resetRoutingState
  | cons group rest ih =>
    obtain ⟨rewardsToProcess, -, routed⟩ := bind_eq_ok.mp routed
    by_cases nothing : rewardsToProcess = 0
    · rw [if_pos nothing] at routed
      exact ih routed
    · rw [if_neg nothing] at routed
      obtain ⟨voted, -, routed⟩ := bind_eq_ok.mp routed
      obtain ⟨emptied, -, routed⟩ := bind_eq_ok.mp routed
      exact ih routed

/-- Without rewards in any group the loop only resets the position. -/
theorem routeGroups_of_zero {operatorVotes : Vector OperatorVote maxOperators}
    {maxIterations iterations : ℕ}
    (zero : ∀ group : Fin feeGroupCount, router.ncnFeeGroupRewards[group] = 0)
    (groups : List (Fin feeGroupCount)) :
    routeGroups spl operatorVotes winningBallot maxIterations
      (groups.map fun group => (.ofIndex group, group.val)) 0 0 router iterations =
        .ok router.resetRoutingState := by
  induction groups with
  | nil => rfl
  | cons group rest ih =>
    rw [List.map_cons, routeGroups, groupRewardsToProcess, if_neg (Nat.lt_irrefl 0),
      ncnFeeGroupReward_ofIndex, zero, ok_bind, if_pos rfl]
    exact ih

section Calls
variable {box : BallotBox} {out : BaseRewardRouter}

theorem length_counted_le (box : BallotBox) (winningBallot : BallotTally) :
    (counted winningBallot box.operatorVotes.toList).length ≤ maxOperators := by
  have fewer : (counted winningBallot box.operatorVotes.toList).length ≤
      box.operatorVotes.toList.length := List.length_filter_le _ _
  rwa [Vector.length_toList] at fewer

theorem workLeft_le (box : BallotBox) (winningBallot : BallotTally) (router : BaseRewardRouter) :
    workLeft box winningBallot router ≤ feeGroupCount * maxOperators := by
  refine (remaining_le _ _ _ _).trans (Nat.mul_le_mul ?_ (length_counted_le box winningBallot))
  rw [List.length_drop, List.length_finRange]
  exact Nat.sub_le _ _

variable (tallied : box.getWinningBallotTally = .ok winningBallot)
include tallied

theorem routeNcnFeeGroupRewards_eq (maxIterations : ℕ) :
    router.routeNcnFeeGroupRewards spl box maxIterations =
      routeGroups spl box.operatorVotes winningBallot (max maxIterations 1)
        (((List.finRange feeGroupCount).drop router.resumeRoutingState.1).map
          fun group => (.ofIndex group, group.val))
        router.resumeRoutingState.2.1 router.resumeRoutingState.2.2 router 0 := by
  rw [routeNcnFeeGroupRewards, tallied, ok_bind, NcnFeeGroup.allGroups_zipIdx, List.map_drop]

/-- A call that is not done has seen as many votes as it was allowed to. -/
theorem routeNcnFeeGroupRewards_cases (completes : Completes spl box winningBallot out router)
    (maxIterations : ℕ) :
    router.routeNcnFeeGroupRewards spl box maxIterations = .ok out ∨
      ∃ next, router.routeNcnFeeGroupRewards spl box maxIterations = .ok next ∧
        Interrupted spl box winningBallot out next ∧
        workLeft box winningBallot next + max maxIterations 1 ≤
          workLeft box winningBallot router := by
  have fits : workLeft box winningBallot router < 2 ^ 16 :=
    (workLeft_le box winningBallot router).trans_lt (by decide)
  rw [routeNcnFeeGroupRewards_eq tallied]
  rcases routeGroups_cases completes (Nat.zero_le _) (by rwa [Nat.zero_add]) with
    finished | ⟨group, voteIndex, rewards, middle, saved, isGroup, isVote, some, goesOn, work, left⟩
  · exact .inl finished
  · have position := resumeRoutingState_saveRoutingState isGroup isVote middle rewards
    refine .inr ⟨_, saved, ⟨stillRouting_saveRoutingState isGroup voteIndex, ?_, ?_⟩, ?_⟩
    · rw [Completes, position, routeAllGroups_save]
      exact goesOn
    · rw [workLeft, position]
      exact left
    · rw [Nat.zero_add] at work
      rw [workLeft, position]
      exact work

theorem advances (completes : Completes spl box winningBallot out router) :
    Advances (fun router maxIterations => router.routeNcnFeeGroupRewards spl box maxIterations)
      (Interrupted spl box winningBallot out) (workLeft box winningBallot) out router
      (workLeft box winningBallot router) := by
  intro maxIterations
  rcases routeNcnFeeGroupRewards_cases tallied completes maxIterations with
    finished | ⟨next, stopped, interrupted, work⟩
  · exact ⟨out, finished, .inl rfl⟩
  · exact ⟨next, stopped, .inr ⟨interrupted, by omega⟩⟩

/-- A router that an uninterrupted call empties is reached by calls with any limits. -/
theorem resumable (idle : out.stillRouting = false)
    (zero : ∀ group : Fin feeGroupCount, out.ncnFeeGroupRewards[group] = 0) :
    Resumable (fun router maxIterations => router.routeNcnFeeGroupRewards spl box maxIterations)
      (Interrupted spl box winningBallot out) (workLeft box winningBallot) out where
  resumes router interrupted := advances tallied interrupted.completes
  stays maxIterations := by
    rw [routeNcnFeeGroupRewards_eq tallied, resumeRoutingState_of_idle idle,
      routeGroups_of_zero zero, resetRoutingState_of_idle idle]

end Calls

end BaseRewardRouter

end TipRouter
