import TipRouter.BaseRouterRecovery
import TipRouter.EpochEffects
import TipRouter.NcnRouterRecovery

/-! Where an interrupted routing stands. Each call that does not finish saves a later
position than the one it started from, so a client that repeats the call until the router
is not routing any more comes to an end, whatever the router has to route. -/
namespace TipRouter
open Runs

/-! ## The base router -/

namespace BaseRewardRouter

variable {spl : SplMath} {router next : BaseRewardRouter} {winningBallot : BallotTally}

/-- A bound on the calls that a routing can still take. Positions that no call saves count
as none. -/
def callsLeft (self : BaseRewardRouter) : ℕ :=
  if self.stillRouting ∧ self.lastNcnGroupIndex < feeGroupCount ∧ self.lastVoteIndex < maxOperators
  then feeGroupCount * maxOperators - (self.lastNcnGroupIndex * maxOperators + self.lastVoteIndex)
  else feeGroupCount * maxOperators + 1

theorem callsLeft_le (self : BaseRewardRouter) : self.callsLeft ≤ 2049 := by
  unfold callsLeft feeGroupCount maxOperators
  split <;> omega

theorem callsLeft_saveRoutingState {group vote rewards : ℕ} (isGroup : group < feeGroupCount)
    (isVote : vote < maxOperators) :
    (router.saveRoutingState group vote rewards).callsLeft =
      feeGroupCount * maxOperators - (group * maxOperators + vote) := by
  have smallGroup : group < 8 := isGroup
  have smallVote : vote < 256 := isVote
  have sameGroup : group % 2 ^ 8 = group := Nat.mod_eq_of_lt (by omega)
  have sameVote : vote % 2 ^ 16 = vote := Nat.mod_eq_of_lt (by omega)
  rw [callsLeft, stillRouting_saveRoutingState isGroup]
  simp only [saveRoutingState, sameGroup, sameVote, isGroup, isVote, and_self, if_true]

/-- The vote before which the inner loop stops. With iterations left it is not the first. -/
theorem routeVotes_saved {maxIterations groupIndex rewards iterations : ℕ} {group : NcnFeeGroup}
    {votes : List OperatorVote} {start : ℕ}
    (stopped : routeVotes spl winningBallot maxIterations groupIndex group rewards
      (votes.zipIdx start) router iterations = .ok (.saved next)) :
    ∃ vote middle, next = saveRoutingState middle groupIndex vote rewards ∧ start ≤ vote ∧
      vote < start + votes.length ∧ (iterations < maxIterations → start < vote) := by
  induction votes generalizing start router iterations with
  | nil => cases stopped
  | cons vote rest ih =>
    rw [List.zipIdx_cons, routeVotes] at stopped
    rw [List.length_cons]
    split at stopped
    · obtain ⟨more, counted, stopped⟩ := bind_eq_ok.mp stopped
      obtain ⟨-, rfl⟩ := checkedAdd_eq_some_iff.mp (okOr_eq_ok_iff.mp counted)
      split at stopped
      · rename_i enough
        cases stopped
        exact ⟨start, router, rfl, Nat.le_refl _, by omega, fun some => absurd enough (by omega)⟩
      · obtain ⟨routed, -, stopped⟩ := bind_eq_ok.mp stopped
        obtain ⟨index, middle, saved, after, inside, -⟩ := ih stopped
        exact ⟨index, middle, saved, by omega, by omega, fun _ => by omega⟩
    · obtain ⟨index, middle, saved, after, inside, -⟩ := ih stopped
      exact ⟨index, middle, saved, by omega, by omega, fun _ => by omega⟩

/-- The position that the outer loop saves is later than the one it starts from. -/
theorem routeGroups_saved {operatorVotes : Vector OperatorVote maxOperators}
    {maxIterations startingVoteIndex startingRewards iterations start : ℕ}
    (routed : routeGroups spl operatorVotes winningBallot maxIterations
      (((List.finRange feeGroupCount).drop start).map fun group => (.ofIndex group, group.val))
      startingVoteIndex startingRewards router iterations = .ok next) :
    next.stillRouting = false ∨ ∃ group vote rewards middle,
      next = saveRoutingState middle group vote rewards ∧ group < feeGroupCount ∧
        vote < maxOperators ∧ start ≤ group ∧
        (group = start → iterations < maxIterations → startingVoteIndex < vote) := by
  generalize ahead : (List.finRange feeGroupCount).drop start = groups at routed
  induction groups generalizing start startingVoteIndex startingRewards router iterations with
  | nil =>
    cases routed
    exact .inl (stillRouting_resetRoutingState)
  | cons group rest ih =>
    have inside : start < (List.finRange feeGroupCount).length := by
      have length := congrArg List.length ahead
      rw [List.length_drop, List.length_cons] at length
      omega
    have split := List.drop_eq_getElem_cons inside
    rw [ahead] at split
    obtain ⟨here, aheadRest⟩ := List.cons.inj split
    have position : group.val = start := by rw [here, List.getElem_finRange]; rfl
    have later {startingVoteIndex startingRewards iterations : ℕ} {middle : BaseRewardRouter}
        (routed : routeGroups spl operatorVotes winningBallot maxIterations
          (rest.map fun group => (.ofIndex group, group.val)) startingVoteIndex startingRewards
          middle iterations = .ok next) := ih aheadRest.symm routed
    rw [List.map_cons, routeGroups] at routed
    obtain ⟨rewardsToProcess, -, routed⟩ := bind_eq_ok.mp routed
    split at routed
    · rcases later routed with
        idle | ⟨index, vote, rewards, middle, saved, isGroup, isVote, after, -⟩
      · exact .inl idle
      · exact .inr ⟨index, vote, rewards, middle, saved, isGroup, isVote, by omega, by omega⟩
    · obtain ⟨outcome, looped, routed⟩ := bind_eq_ok.mp routed
      cases outcome with
      | saved stopped =>
        cases routed
        rw [drop_zipIdx, Nat.zero_add] at looped
        obtain ⟨vote, middle, saved, after, inside, moves⟩ := routeVotes_saved looped
        rw [List.length_drop, Vector.length_toList] at inside
        refine .inr ⟨group.val, vote, rewardsToProcess, middle, saved, group.isLt, by omega,
          position.ge, fun _ some => moves some⟩
      | finished finished =>
        obtain ⟨emptied, -, routed⟩ := bind_eq_ok.mp routed
        rcases later routed with
          idle | ⟨index, vote, rewards, middle, saved, isGroup, isVote, after, -⟩
        · exact .inl idle
        · exact .inr ⟨index, vote, rewards, middle, saved, isGroup, isVote, by omega, by omega⟩

/-- A call that leaves the router routing has brought the routing nearer to its end. -/
theorem callsLeft_lt {fees : Fees} {ballotBox : BallotBox}
    {currentSlot validSlotsAfterConsensus rentCost accountBalance maxIterations : ℕ}
    (routed : router.processRouteBaseRewards spl fees ballotBox currentSlot
      validSlotsAfterConsensus rentCost accountBalance maxIterations = .ok next)
    (still : next.stillRouting = true) : next.callsLeft < router.callsLeft := by
  obtain ⟨votingValid, -, routed⟩ := bind_eq_ok.mp routed
  split at routed
  · cases routed
  obtain ⟨started, starting, routed⟩ := bind_eq_ok.mp routed
  obtain ⟨winningBallot, tallied, -⟩ := bind_eq_ok.mp routed
  rw [routeNcnFeeGroupRewards_eq tallied] at routed
  rcases routeGroups_saved routed with
    idle | ⟨group, vote, rewards, middle, rfl, isGroup, isVote, after, moves⟩
  · cases still.symm.trans idle
  rw [callsLeft_saveRoutingState isGroup isVote]
  have smallGroup : group < 8 := isGroup
  have smallVote : vote < 256 := isVote
  unfold callsLeft
  split
  · rename_i valid
    obtain ⟨routing, validGroup, validVote⟩ := valid
    rw [startRouting, if_pos routing] at starting
    cases starting
    have resumed : router.resumeRoutingState =
        (router.lastNcnGroupIndex, router.lastVoteIndex, router.lastRewardsToProcess) := by
      rw [resumeRoutingState, routing]
      rfl
    rw [resumed] at after moves
    dsimp only at after moves
    have smallSaved : router.lastNcnGroupIndex < 8 := validGroup
    have smallSavedVote : router.lastVoteIndex < 256 := validVote
    unfold feeGroupCount maxOperators
    by_cases same : group = router.lastNcnGroupIndex
    · have later := moves same (by omega)
      omega
    · omega
  · omega

end BaseRewardRouter

/-! ## The NCN routers -/

namespace NcnRewardRouter

variable {spl : SplMath} {router next : NcnRewardRouter} {snapshot : OperatorSnapshot}
variable {rentCost accountBalance maxIterations : ℕ}

/-- A bound on the calls that a routing can still take, as for the base router. -/
def callsLeft (self : NcnRewardRouter) : ℕ :=
  if self.stillRouting ∧ self.lastVaultOperatorDelegationIndex < maxVaults
  then maxVaults - self.lastVaultOperatorDelegationIndex
  else maxVaults + 1

theorem callsLeft_le (self : NcnRewardRouter) : self.callsLeft ≤ 65 := by
  unfold callsLeft maxVaults
  split <;> omega

/-- An interrupted routing has rewards to process. Without any a call would do nothing. -/
def Positioned (self : NcnRewardRouter) : Prop :=
  self.stillRouting = true → self.lastRewardsToProcess ≠ 0

theorem positioned_of_idle (idle : router.stillRouting = false) : router.Positioned := by
  intro routing
  cases idle.symm.trans routing

theorem callsLeft_saveRoutingState {rewards vault : ℕ} (isVault : vault < maxVaults) :
    (router.saveRoutingState rewards vault).callsLeft = maxVaults - vault := by
  have small : vault < 64 := isVault
  have same : vault % 2 ^ 16 = vault := Nat.mod_eq_of_lt (by omega)
  rw [callsLeft, stillRouting_saved isVault]
  simp only [saveRoutingState, same, isVault, and_self, if_true]

/-- The vault before which the loop stops. With iterations left it is not the first. -/
theorem routeVaults_saved {stakeWeights : StakeWeights} {rewards iterations start : ℕ}
    {delegations : List VaultOperatorStakeWeight}
    (stopped : routeVaults spl stakeWeights maxIterations rewards (delegations.zipIdx start) router
      iterations = .ok (.saved next)) :
    ∃ vault middle, next = saveRoutingState middle rewards vault ∧ start ≤ vault ∧
      vault < start + delegations.length ∧ (iterations < maxIterations → start < vault) := by
  induction delegations generalizing start router iterations with
  | nil => cases stopped
  | cons delegation rest ih =>
    rw [List.zipIdx_cons, routeVaults] at stopped
    rw [List.length_cons]
    obtain ⟨more, counted, stopped⟩ := bind_eq_ok.mp stopped
    obtain ⟨-, rfl⟩ := checkedAdd_eq_some_iff.mp (okOr_eq_ok_iff.mp counted)
    split at stopped
    · rename_i enough
      cases stopped
      exact ⟨start, router, rfl, Nat.le_refl _, by omega, fun some => absurd enough (by omega)⟩
    · obtain ⟨routed, -, stopped⟩ := bind_eq_ok.mp stopped
      obtain ⟨index, middle, saved, after, inside, -⟩ := ih stopped
      exact ⟨index, middle, saved, by omega, by omega, fun _ => by omega⟩

theorem startRouting_position {started : NcnRewardRouter}
    (starting : router.startRouting spl snapshot rentCost accountBalance = .ok started) :
    started.stillRouting = router.stillRouting ∧
      (router.stillRouting = true → started = router) := by
  unfold startRouting at starting
  split at starting
  · cases starting
    exact ⟨rfl, fun _ => rfl⟩
  · rename_i idle
    obtain ⟨funded, funding, starting⟩ := bind_eq_ok.mp starting
    obtain ⟨incoming, -, rfl⟩ := routeIncomingRewards_eq_ok funding
    obtain ⟨rewards, -, starting⟩ := bind_eq_ok.mp starting
    obtain ⟨taken, taking, giving⟩ := bind_eq_ok.mp starting
    obtain ⟨-, rfl⟩ := routeFromRewardPool_eq_ok taking
    obtain rfl := routeToOperatorRewards_eq_ok giving
    exact ⟨rfl, fun routing => absurd routing idle⟩

theorem stillRouting_routeLeftover {emptied : NcnRewardRouter}
    (routed : router.resetRoutingState.routeLeftover = .ok emptied) :
    emptied.stillRouting = false := by
  obtain ⟨taken, taking, giving⟩ := bind_eq_ok.mp routed
  obtain ⟨-, rfl⟩ := routeFromRewardPool_eq_ok taking
  obtain rfl := routeToOperatorRewards_eq_ok giving
  exact stillRouting_reset router

/-- A call that leaves the router routing has brought the routing nearer to its end, and
has saved rewards to process. -/
theorem callsLeft_lt (positioned : router.Positioned)
    (routed : router.processRouteNcnRewards spl snapshot rentCost accountBalance maxIterations =
      .ok next) (still : next.stillRouting = true) :
    next.callsLeft < router.callsLeft ∧ next.lastRewardsToProcess ≠ 0 := by
  obtain ⟨started, starting, routed⟩ := bind_eq_ok.mp routed
  obtain ⟨sameStill, sameRouter⟩ := startRouting_position starting
  have resumes : router.stillRouting = true → started.resumeRoutingState started.rewardPool =
      (router.lastRewardsToProcess, router.lastVaultOperatorDelegationIndex) := by
    intro routing
    rw [sameRouter routing, resumeRoutingState, routing]
    rfl
  unfold routeRewardPool at routed
  generalize started.resumeRoutingState started.rewardPool = position at routed resumes
  obtain ⟨rewardsToProcess, starting⟩ := position
  dsimp only at routed
  rw [drop_zipIdx, Nat.zero_add] at routed
  split at routed
  · rename_i nothing
    cases routed
    have routing := sameStill.symm.trans still
    obtain ⟨saved, -⟩ := Prod.mk.inj (resumes routing)
    exact absurd (saved.symm.trans nothing) (positioned routing)
  · rename_i something
    obtain ⟨outcome, looped, routed⟩ := bind_eq_ok.mp routed
    cases outcome with
    | finished finished => cases still.symm.trans (stillRouting_routeLeftover routed)
    | saved saved =>
      cases routed
      obtain ⟨vault, middle, rfl, after, inside, moves⟩ := routeVaults_saved looped
      rw [List.length_drop, Vector.length_toList] at inside
      have isVault : vault < maxVaults := by omega
      have small : vault < 64 := isVault
      refine ⟨?_, something⟩
      rw [callsLeft_saveRoutingState isVault]
      unfold callsLeft
      split
      · rename_i valid
        obtain ⟨routing, validVault⟩ := valid
        obtain ⟨-, index⟩ := Prod.mk.inj (resumes routing)
        have later := moves (by omega)
        have smallSaved : router.lastVaultOperatorDelegationIndex < 64 := validVault
        unfold maxVaults
        omega
      · unfold maxVaults
        omega

theorem Positioned.route (positioned : router.Positioned)
    (routed : router.processRouteNcnRewards spl snapshot rentCost accountBalance maxIterations =
      .ok next) : next.Positioned :=
  fun still => (callsLeft_lt positioned routed still).2

theorem positioned_of_distribute {rewards : ℕ}
    (distributed : router.processDistributeNcnOperatorRewards = .ok (rewards, next) ∨
      ∃ vault, router.processDistributeNcnVaultRewards vault = .ok (rewards, next)) :
    next.Positioned := by
  apply positioned_of_idle
  rcases distributed with taken | ⟨vault, taken⟩
  · unfold processDistributeNcnOperatorRewards at taken
    split at taken
    · cases taken
    · rename_i idle
      obtain ⟨-, -, rfl⟩ := distributeOperatorRewards_eq_ok taken
      exact Bool.eq_false_iff.mpr idle
  · unfold processDistributeNcnVaultRewards at taken
    split at taken
    · cases taken
    · rename_i idle
      obtain ⟨index, -, -, -, rfl⟩ := distributeVaultRewardRoute_eq_ok taken
      exact Bool.eq_false_iff.mpr idle

end NcnRewardRouter

/-! ## An epoch -/

namespace EpochAccounts

variable {runtime : Runtime} {accounts next : EpochAccounts} {context : Context}
variable {instruction : EpochInstruction}

/-- No interrupted routing of the epoch is without rewards to process. -/
def Positioned (accounts : EpochAccounts) : Prop :=
  ∀ key router, accounts.ncnRewardRouters key = .ready router → router.Positioned

theorem absent_positioned (ncn : Pubkey) (epoch : ℕ) : (absent ncn epoch).Positioned := by
  intro key router ready
  cases ready

theorem Positioned.withNcnRouter {operator : Pubkey} {group : NcnFeeGroup} {epochState : EpochState}
    {router : Account NcnRewardRouter} {lamports : ℕ} (positioned : accounts.Positioned)
    (here : ∀ data, router = .ready data → data.Positioned) :
    (accounts.withNcnRouter operator group epochState router lamports).Positioned :=
  Account.forall_ready_update here fun other _ => positioned other

theorem Positioned.close {epochState : EpochState} {accountToClose : AccountToClose}
    {withReceiver : Bool} (positioned : accounts.Positioned)
    (closed : accounts.closeAccount runtime epochState withReceiver accountToClose = .ok next) :
    next.Positioned := by
  cases accountToClose with
  | ncnRewardRouter operator group =>
    obtain ⟨router, -, closed⟩ := bind_eq_ok.mp closed
    obtain ⟨lamports, -, closed⟩ := bind_eq_ok.mp closed
    obtain ⟨updated, -, same⟩ := bind_eq_ok.mp closed
    cases same
    exact positioned.withNcnRouter (by rintro _ ⟨⟩)
  | baseRewardRouter =>
    obtain ⟨router, -, closed⟩ := bind_eq_ok.mp closed
    obtain ⟨lamports, -, same⟩ := bind_eq_ok.mp closed
    cases same
    exact positioned
  | operatorSnapshot operator =>
    obtain ⟨snapshot, -, closed⟩ := bind_eq_ok.mp closed
    obtain ⟨updated, -, same⟩ := bind_eq_ok.mp closed
    cases same
    exact positioned
  | _ =>
    obtain ⟨_, -, same⟩ := bind_eq_ok.mp closed
    cases same
    exact positioned

theorem Positioned.effect (positioned : accounts.Positioned)
    (effect : Effect runtime accounts next context instruction) : next.Positioned := by
  cases effect with
  | ncnRouterFilled loaded opened snapshot unused rent update written =>
    cases written
    refine positioned.withNcnRouter fun data same => ?_
    cases same
    exact NcnRewardRouter.positioned_of_idle rfl
  | ncnRouted loaded snapshot ready route update written =>
    cases written
    refine positioned.withNcnRouter fun data same => ?_
    cases same
    exact (positioned _ _ ready).route route
  | ncnDistributed loaded snapshot ready distribute sent update written =>
    cases written
    refine positioned.withNcnRouter fun data same => ?_
    cases same
    exact NcnRewardRouter.positioned_of_distribute distribute
  | closed loaded open_ canClose close => exact positioned.close close
  | received _ _ written => cases written; exact positioned
  | epochStateAllocated _ written => cases written; exact positioned
  | epochStateFilled _ written => cases written; exact positioned
  | weightTableAllocated _ _ written => cases written; exact positioned
  | weightTableFilled _ _ _ written => cases written; exact positioned
  | weightSet _ _ _ written => cases written; exact positioned
  | epochSnapshotFilled _ _ _ _ _ written => cases written; exact positioned
  | operatorSnapshotAllocated _ _ _ _ written => cases written; exact positioned
  | operatorSnapshotFilled _ _ _ _ written => cases written; exact positioned
  | delegationSnapshotted _ _ _ _ written => cases written; exact positioned
  | ballotBoxAllocated _ _ written => cases written; exact positioned
  | ballotBoxFilled _ _ written => cases written; exact positioned
  | voteCast _ _ _ _ written => cases written; exact positioned
  | tieBreakerSet _ _ _ written => cases written; exact positioned
  | merkleRootSet _ _ written => cases written; exact positioned
  | baseRouterAllocated _ _ _ _ written => cases written; exact positioned
  | baseRouterFilled _ _ written => cases written; exact positioned
  | baseRouted _ _ _ written => cases written; exact positioned
  | baseDistributed _ _ _ _ _ written => cases written; exact positioned
  | baseNcnDistributed _ _ _ _ _ _ written => cases written; exact positioned

end EpochAccounts

end TipRouter
