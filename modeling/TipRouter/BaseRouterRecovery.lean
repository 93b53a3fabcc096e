import TipRouter.BaseRouterShares

/-! Interrupted routing of the base router, over whole runs against one ballot box.
Between routings the NCN groups are empty and every route belongs to a voter, and
an interrupted routing leads to such a router, whatever the limits of the calls
that finish it. -/
namespace TipRouter
open Runs

variable {spl : SplMath} {router next : BaseRewardRouter} {box : BallotBox}
variable {winningBallot : BallotTally}

/-! ## The voters -/

/-- The operators of the entries, the empty key among them. -/
def BallotBox.voters (box : BallotBox) : Finset Pubkey :=
  Finset.univ.image fun i : Fin maxOperators => box.operatorVotes[i].operator

theorem BallotBox.card_voters_le (box : BallotBox) : box.voters.card ≤ maxOperators := by
  refine Finset.card_image_le.trans ?_
  rw [Finset.card_univ, Fintype.card_fin]

/-- The winning ballot of a routing is the winner's tally. -/
theorem BallotBox.Voted.winner_of_tallied (voted : box.Voted)
    (tallied : box.getWinningBallotTally = .ok winningBallot) :
    ∃ winner : Fin maxOperators, winningBallot.index = winner ∧ winningBallot.stakeWeights.Fits ∧
      ∀ component, winningBallot.stakeWeights.get component =
        voteWeight box.operatorVotes winner component := by
  have won : box.winningBallot.isValid = true := by
    by_contra invalid
    rw [getWinningBallotTally, Bool.eq_false_iff.mpr invalid] at tallied
    cases tallied
  obtain ⟨winner, found, index, weighed⟩ := voted.winner won
  cases Except.ok.inj (found.symm.trans tallied)
  exact ⟨winner, index, voted.fits winner, weighed⟩

theorem BallotBox.Voted.electors (voted : box.Voted)
    (tallied : box.getWinningBallotTally = .ok winningBallot) :
    Electors winningBallot box.voters (counted winningBallot box.operatorVotes.toList) := by
  obtain ⟨winner, index, fits, weighed⟩ := voted.winner_of_tallied tallied
  have entry : ∀ vote ∈ counted winningBallot box.operatorVotes.toList,
      ∃ i : Fin maxOperators, box.operatorVotes[i] = vote ∧ vote.ballotIndex = winner := by
    intro vote member
    obtain ⟨listed, wins⟩ := List.mem_filter.mp member
    obtain ⟨i, bound, same⟩ := Vector.mem_iff_getElem.mp (Vector.mem_toList_iff.mp listed)
    exact ⟨⟨i, bound⟩, same, (of_decide_eq_true wins).trans index⟩
  refine ⟨fun vote member => ?_, fun vote member => ?_, box.card_voters_le, fits, fun group => ?_⟩
  · obtain ⟨i, rfl, wins⟩ := entry vote member
    refine voted.loaded i (not_empty_of_known ?_)
    rw [wins]
    exact winner.isLt
  · obtain ⟨i, rfl, -⟩ := entry vote member
    exact Finset.mem_image_of_mem _ (Finset.mem_univ i)
  · rw [weighed, counted, Slots.sum_filter_toList, voteWeight, index]
    refine Slots.total_congr fun i => ?_
    simp only [pointing, decide_eq_true_eq]

/-- What an operator earns is the share of its one vote. -/
theorem BallotBox.Voted.earned_eq (voted : box.Voted)
    (tallied : box.getWinningBallotTally = .ok winningBallot) {i : Fin maxOperators}
    (wins : box.operatorVotes[i].ballotIndex = winningBallot.index) (group : Fin feeGroupCount)
    (rewards : ℕ) :
    earned winningBallot group rewards (counted winningBallot box.operatorVotes.toList)
        box.operatorVotes[i].operator =
      winningBallot.share group rewards box.operatorVotes[i] := by
  obtain ⟨winner, index, -⟩ := voted.winner_of_tallied tallied
  have filled : ∀ j : Fin maxOperators,
      box.operatorVotes[j].ballotIndex = winningBallot.index →
        box.operatorVotes[j].isEmpty = false := by
    intro j wins
    refine not_empty_of_known ?_
    rw [wins, index]
    exact winner.isLt
  rw [earned, spent, counted, List.filter_filter, Slots.sum_filter_toList, Slots.total,
    Finset.sum_eq_single i]
  · exact if_pos (Bool.and_eq_true_iff.mpr ⟨decide_eq_true rfl, decide_eq_true wins⟩)
  · intro j _ different
    refine if_neg fun both => different ?_
    obtain ⟨own, winsToo⟩ := Bool.and_eq_true_iff.mp both
    exact voted.consistent.votes.distinct j i (filled j (of_decide_eq_true winsToo)) (filled i wins)
      (of_decide_eq_true own)
  · intro absent
    exact absurd (Finset.mem_univ i) absent

/-- Who did not vote for the winning ballot earns nothing. -/
theorem earned_eq_zero {votes : List OperatorVote} {operator : Pubkey}
    (absent : ∀ vote ∈ votes, vote.operator ≠ operator) (group : Fin feeGroupCount)
    (rewards : ℕ) : earned winningBallot group rewards votes operator = 0 := by
  have nobody : votes.filter (fun vote => decide (vote.operator = operator)) = [] := by
    rw [List.filter_eq_nil_iff]
    intro vote member
    simpa using absent vote member
  rw [earned, nobody]
  rfl

/-! ## Between routings -/

namespace BaseRewardRouter

/-- A router that is not routing: no NCN group has a balance, and every route
belongs to a voter. -/
structure Settled (box : BallotBox) (router : BaseRewardRouter) : Prop where
  idle : router.stillRouting = false
  zero : ∀ group : Fin feeGroupCount, router.ncnFeeGroupRewards[group] = 0
  owned : ∀ i : Fin maxOperators, router.ncnFeeGroupRewardRoutes[i].operator ≠ .default →
    router.ncnFeeGroupRewardRoutes[i].operator ∈ box.voters

/-- A router that is settled, or on the way to a settled one. -/
def Recoverable (spl : SplMath) (box : BallotBox) (winningBallot : BallotTally)
    (router : BaseRewardRouter) : Prop :=
  router.Settled box ∨
    ∃ out, Interrupted spl box winningBallot out router ∧ out.Settled box

theorem Recoverable.settled (recoverable : router.Recoverable spl box winningBallot)
    (idle : router.stillRouting = false) : router.Settled box := by
  rcases recoverable with settled | ⟨out, interrupted, -⟩
  · exact settled
  · rw [interrupted.stillRouting] at idle
    cases idle

/-- A call on a recoverable router always succeeds and leaves it recoverable. -/
theorem Recoverable.routeNcnFeeGroupRewards {out : BaseRewardRouter}
    (tallied : box.getWinningBallotTally = .ok winningBallot)
    (completes : Completes spl box winningBallot out router) (settled : out.Settled box)
    (maxIterations : ℕ) :
    ∃ next, router.routeNcnFeeGroupRewards spl box maxIterations = .ok next ∧
      next.Recoverable spl box winningBallot := by
  rcases routeNcnFeeGroupRewards_cases tallied completes maxIterations with
    finished | ⟨next, stopped, interrupted, -⟩
  · exact ⟨out, finished, .inl settled⟩
  · exact ⟨next, stopped, .inr ⟨out, interrupted, settled⟩⟩

/-- From an idle router whose balances fit, the loop without a limit leads to a
settled one that paid every group out. -/
theorem completes_of_payable (documented : spl.Documented) (voted : box.Voted)
    (tallied : box.getWinningBallotTally = .ok winningBallot) (idle : router.stillRouting = false)
    (payable : router.Payable box.voters) :
    ∃ out, Completes spl box winningBallot out router ∧ out.Settled box ∧
      GroupsPaid winningBallot (counted winningBallot box.operatorVotes.toList)
        (List.finRange feeGroupCount) router out := by
  obtain ⟨out, routed, payableOut, paid⟩ := payable.routeAllGroups documented
    (voted.electors tallied) (List.nodup_finRange feeGroupCount)
  refine ⟨out, ?_, ⟨stillRouting_of_routeAllGroups routed, fun group => ?_, payableOut.owned⟩, paid⟩
  · rw [Completes, resumeRoutingState_of_idle idle]
    exact routed
  · obtain ⟨balances, routes, rfl, emptied, -⟩ := paid
    exact (emptied group).trans (if_pos (List.mem_finRange group))

/-- Splitting the pool touches neither the routes nor the position. -/
theorem routeRewardPool_frame {fees : Fees} (routed : router.routeRewardPool spl fees = .ok next) :
    next.ncnFeeGroupRewardRoutes = router.ncnFeeGroupRewardRoutes ∧
      next.stillRouting = router.stillRouting := by
  simp only [routeRewardPool, BaseFeeGroup.allGroups_eq, NcnFeeGroup.allGroups_eq, List.foldlM_map,
    BaseFeeGroup.dao_eq] at routed
  obtain ⟨totalFeeBps, -, routed⟩ := bind_eq_ok.mp routed
  obtain ⟨based, baseLoop, routed⟩ := bind_eq_ok.mp routed
  obtain ⟨grouped, ncnLoop, leftover⟩ := bind_eq_ok.mp routed
  have toBase : based.ncnFeeGroupRewardRoutes = router.ncnFeeGroupRewardRoutes ∧
      based.stillRouting = router.stillRouting := by
    refine foldlM_invariant (motive := fun state : BaseRewardRouter =>
      state.ncnFeeGroupRewardRoutes = router.ncnFeeGroupRewardRoutes ∧
        state.stillRouting = router.stillRouting) (fun group _ state next holds stepped => ?_)
      ⟨rfl, rfl⟩ baseLoop
    obtain ⟨fee, -, stepped⟩ := bind_eq_ok.mp stepped
    obtain ⟨rewards, -, moved⟩ := bind_eq_ok.mp stepped
    obtain ⟨taken, took, gave⟩ := bind_eq_ok.mp moved
    obtain ⟨-, rfl⟩ := routeFromRewardPool_eq_ok took
    obtain rfl := routeToBaseFeeGroupRewards_eq_ok gave
    exact holds
  have toNcn : grouped.ncnFeeGroupRewardRoutes = router.ncnFeeGroupRewardRoutes ∧
      grouped.stillRouting = router.stillRouting := by
    refine foldlM_invariant (motive := fun state : BaseRewardRouter =>
      state.ncnFeeGroupRewardRoutes = router.ncnFeeGroupRewardRoutes ∧
        state.stillRouting = router.stillRouting) (fun group _ state next holds stepped => ?_)
      toBase ncnLoop
    obtain ⟨fee, -, stepped⟩ := bind_eq_ok.mp stepped
    obtain ⟨rewards, -, moved⟩ := bind_eq_ok.mp stepped
    obtain ⟨taken, took, gave⟩ := bind_eq_ok.mp moved
    obtain ⟨-, rfl⟩ := routeFromRewardPool_eq_ok took
    obtain rfl := routeToNcnFeeGroupRewards_eq_ok gave
    exact holds
  obtain ⟨taken, took, gave⟩ := bind_eq_ok.mp leftover
  obtain ⟨-, rfl⟩ := routeFromRewardPool_eq_ok took
  obtain rfl := routeToBaseFeeGroupRewards_eq_ok gave
  exact toNcn

/-- A total that grows is checked to be a `u64`. -/
theorem routeIncomingRewards_fits {rentCost accountBalance : ℕ}
    (fits : router.totalRewards < 2 ^ 64)
    (routed : router.routeIncomingRewards rentCost accountBalance = .ok next) :
    next.totalRewards < 2 ^ 64 := by
  obtain ⟨transit, -, routed⟩ := bind_eq_ok.mp routed
  obtain ⟨above, -, routed⟩ := bind_eq_ok.mp routed
  obtain ⟨incoming, -, pooled⟩ := bind_eq_ok.mp routed
  unfold routeToRewardPool at pooled
  split at pooled
  · cases pooled
    exact fits
  · obtain ⟨total, summed, pooled⟩ := bind_eq_ok.mp pooled
    obtain ⟨pool, -, same⟩ := bind_eq_ok.mp pooled
    cases same
    obtain ⟨small, rfl⟩ := checkedAdd_eq_some_iff.mp (okOr_eq_ok_iff.mp summed)
    exact small

end BaseRewardRouter

/-! ## Whole runs -/

variable {ledger later : BaseLedger} {rentCost : ℕ}

theorem BaseLedger.send_router {rewards : ℕ} (sent : ledger.send rewards router = .ok later) :
    later.router = router := by
  unfold BaseLedger.send at sent
  split at sent
  · cases sent
    rfl
  · cases sent

/-- Every routing of the epoch reads this ballot box. -/
def BaseInstruction.Against (box : BallotBox) : BaseInstruction → Prop
  | .routeBaseRewards _ ballotBox _ _ _ => ballotBox = box
  | _ => True

/-- What every instruction keeps. -/
structure BaseLedger.Sound (spl : SplMath) (box : BallotBox) (winningBallot : BallotTally)
    (rentCost : ℕ) (ledger : BaseLedger) : Prop where
  balanced : ledger.Balanced rentCost
  fits : ledger.router.totalRewards < 2 ^ 64
  recoverable : ledger.router.Recoverable spl box winningBallot

theorem BaseLedger.start_sound (ncn : Pubkey) (epoch bump slotCreated rentCost : ℕ) :
    (start ncn epoch bump slotCreated rentCost).Sound spl box winningBallot rentCost := by
  have unused : ∀ i : Fin maxOperators,
      (start ncn epoch bump slotCreated rentCost).router.ncnFeeGroupRewardRoutes[i] = .default :=
    fun i => Vector.getElem_replicate _
  refine ⟨start_balanced ncn epoch bump slotCreated rentCost, ?_, .inl ⟨?_, fun group => ?_,
    fun i used => absurd (by rw [unused]; rfl) used⟩⟩
  · exact Nat.two_pow_pos 64
  · simp [start, BaseRewardRouter.new, BaseRewardRouter.stillRouting]
  · exact Vector.getElem_replicate _

section Sound
variable (documented : spl.Documented) (voted : box.Voted)
variable (tallied : box.getWinningBallotTally = .ok winningBallot)
include documented voted tallied

/-- Whether a routing starts or goes on, the loop then leads to a settled router. -/
theorem BaseLedger.Sound.startRouting {fees : Fees} {started : BaseRewardRouter}
    (sound : ledger.Sound spl box winningBallot rentCost)
    (starting : ledger.router.startRouting spl fees rentCost ledger.lamports = .ok started) :
    started.totalRewards < 2 ^ 64 ∧ RouteTable started.ncnFeeGroupRewardRoutes ∧
      ∃ out, BaseRewardRouter.Completes spl box winningBallot out started ∧ out.Settled box := by
  unfold BaseRewardRouter.startRouting at starting
  rcases sound.recoverable with settled | ⟨out, interrupted, settled⟩
  · rw [settled.idle, if_neg Bool.false_ne_true] at starting
    obtain ⟨funded, funding, pooling⟩ := bind_eq_ok.mp starting
    have fits := BaseRewardRouter.routeIncomingRewards_fits sound.fits funding
    have holds := sound.balanced.incoming funding
    have moved := BaseRewardRouter.routeRewardPool_rebalanced holds.table pooling
    obtain ⟨routes, position⟩ := BaseRewardRouter.routeRewardPool_frame pooling
    have pooled := holds.rebalanced moved
    have total : started.totalRewards < 2 ^ 64 := moved.total.trans_lt fits
    have allocated := pooled.allocated
    have accounted := pooled.accounted
    dsimp only at allocated accounted
    obtain ⟨incoming, -, rfl⟩ := BaseRewardRouter.routeIncomingRewards_eq_ok funding
    have payable : started.Payable box.voters :=
      ⟨moved.table, by rw [routes]; exact settled.owned, by omega⟩
    obtain ⟨out, completes, settledOut, -⟩ := BaseRewardRouter.completes_of_payable documented
      voted tallied (position.trans settled.idle) payable
    exact ⟨total, moved.table, out, completes, settledOut⟩
  · rw [interrupted.stillRouting, if_pos rfl] at starting
    cases starting
    exact ⟨sound.fits, sound.balanced.table, out, interrupted.completes, settled⟩

/-- An interrupted routing goes on, and distributions wait until it is done. -/
theorem BaseLedger.Sound.process {instruction : BaseInstruction}
    (reachable : box.Reachable spl) (against : instruction.Against box)
    (sound : ledger.Sound spl box winningBallot rentCost)
    (processed : ledger.process spl rentCost instruction = .ok later) :
    later.Sound spl box winningBallot rentCost := by
  have readsVoted : instruction.Voted spl := by
    cases instruction with
    | routeBaseRewards fees ballotBox currentSlot validSlotsAfterConsensus maxIterations =>
      cases against
      exact reachable
    | deposit lamports => trivial
    | distributeBaseRewards baseFeeGroup => trivial
    | distributeBaseNcnRewardRoute ncnFeeGroup operator => trivial
  have balanced := sound.balanced.process readsVoted processed
  cases instruction with
  | deposit lamports =>
    have deposited : ledger.deposit lamports = .ok later := processed
    unfold BaseLedger.deposit at deposited
    split at deposited
    · cases deposited
      exact ⟨balanced, sound.fits, sound.recoverable⟩
    · cases deposited
  | routeBaseRewards fees ballotBox currentSlot validSlotsAfterConsensus maxIterations =>
    cases against
    obtain ⟨router, routed, same⟩ := bind_eq_ok.mp processed
    cases same
    obtain ⟨votingValid, -, routed⟩ := bind_eq_ok.mp (mapError_eq_ok.mp routed)
    split at routed
    · cases routed
    obtain ⟨started, starting, routed⟩ := bind_eq_ok.mp routed
    obtain ⟨fits, table, out, completes, settled⟩ :=
      sound.startRouting documented voted tallied starting
    obtain ⟨next, called, recoverable⟩ :=
      BaseRewardRouter.Recoverable.routeNcnFeeGroupRewards tallied completes settled maxIterations
    have moved := BaseRewardRouter.routeNcnFeeGroupRewards_rebalanced voted table routed
    cases called.symm.trans routed
    exact ⟨balanced, moved.total.trans_lt fits, recoverable⟩
  | distributeBaseRewards baseFeeGroup =>
    obtain ⟨⟨rewards, router⟩, taken, sent⟩ := bind_eq_ok.mp processed
    obtain ⟨base, -, taken⟩ := bind_eq_ok.mp (mapError_eq_ok.mp taken)
    split at taken
    · cases taken
    · rename_i idle
      have settled := sound.recoverable.settled (Bool.eq_false_iff.mpr idle)
      obtain ⟨group, -, -, rfl⟩ := BaseRewardRouter.distributeBaseFeeGroupRewards_eq_ok taken
      have paid := BaseLedger.send_router sent
      refine ⟨balanced, ?_, .inl ?_⟩
      · rw [paid]
        exact sound.fits
      · rw [paid]
        exact ⟨settled.idle, settled.zero, settled.owned⟩
  | distributeBaseNcnRewardRoute ncnFeeGroup operator =>
    obtain ⟨⟨rewards, router⟩, taken, sent⟩ := bind_eq_ok.mp processed
    obtain ⟨ncn, -, taken⟩ := bind_eq_ok.mp (mapError_eq_ok.mp taken)
    split at taken
    · cases taken
    · rename_i idle
      have settled := sound.recoverable.settled (Bool.eq_false_iff.mpr idle)
      obtain ⟨group, i, -, -, rfl⟩ :=
        BaseRewardRouter.distributeNcnFeeGroupRewardRoute_eq_ok taken
      have paid := BaseLedger.send_router sent
      refine ⟨balanced, ?_, .inl ?_⟩
      · rw [paid]
        exact sound.fits
      · rw [paid]
        refine ⟨settled.idle, settled.zero, ?_⟩
        exact Slots.forall_put
          (P := fun _ (route : NcnRewardRoute) => route.operator ≠ .default →
            route.operator ∈ box.voters)
          (settled.owned i) fun j _ => settled.owned j

theorem BaseLedger.Sound.run (reachable : box.Reachable spl) {history : List BaseInstruction}
    {ncn : Pubkey} {epoch bump slotCreated : ℕ}
    (against : ∀ instruction ∈ history, instruction.Against box)
    (ran : run (BaseLedger.process spl rentCost) history
      (.start ncn epoch bump slotCreated rentCost) = .ok ledger) :
    ledger.Sound spl box winningBallot rentCost :=
  foldlM_invariant
    (fun instruction member _ _ sound processed => sound.process documented voted tallied reachable
      (against instruction member) processed)
    (start_sound ncn epoch bump slotCreated rentCost) ran

end Sound

/-! ## Chunks -/

/-- What a finished routing of the pool of `funded` has paid. -/
structure BaseRewardRouter.Routed (fees : Fees) (box : BallotBox) (winningBallot : BallotTally)
    (funded final : BaseRewardRouter) : Prop where
  idle : final.stillRouting = false
  pool : final.rewardPool = 0
  zero : ∀ group : Fin feeGroupCount, final.ncnFeeGroupRewards[group] = 0
  /-- A voter for the winning ballot gains the floor of its share of each NCN group. -/
  voter : ∀ (i : Fin maxOperators) (group : Fin feeGroupCount),
    box.operatorVotes[i].ballotIndex = winningBallot.index →
    owed final.ncnFeeGroupRewardRoutes box.operatorVotes[i].operator group =
      owed funded.ncnFeeGroupRewardRoutes box.operatorVotes[i].operator group +
        funded.rewardPool * fees.ncnFeeGroupsBps[group] / fees.total *
          box.operatorVotes[i].stakeWeights.get (.group group) /
            winningBallot.stakeWeights.get (.group group)
  other : ∀ (operator : Pubkey) (group : Fin feeGroupCount),
    (∀ i : Fin maxOperators, box.operatorVotes[i].ballotIndex = winningBallot.index →
      box.operatorVotes[i].operator ≠ operator) →
    owed final.ncnFeeGroupRewardRoutes operator group =
      owed funded.ncnFeeGroupRewardRoutes operator group
  base : ∀ group : Fin feeGroupCount, group ≠ 0 → final.baseFeeGroupRewards[group] =
    funded.baseFeeGroupRewards[group] +
      funded.rewardPool * fees.baseFeeGroupsBps[group] / fees.total
  /-- The DAO gains what is left of the pool after everything the others gain. -/
  dao : final.baseFeeGroupRewards[(0 : Fin feeGroupCount)] +
      (∑ group ∈ Finset.univ.erase (0 : Fin feeGroupCount),
        funded.rewardPool * fees.baseFeeGroupsBps[group] / fees.total +
      ∑ group : Fin feeGroupCount, ∑ i : Fin maxOperators,
        if box.operatorVotes[i].ballotIndex = winningBallot.index then
          funded.rewardPool * fees.ncnFeeGroupsBps[group] / fees.total *
            box.operatorVotes[i].stakeWeights.get (.group group) /
              winningBallot.stakeWeights.get (.group group)
        else 0) =
    funded.baseFeeGroupRewards[(0 : Fin feeGroupCount)] + funded.rewardPool

/-- What the votes gain and leave of all groups is what the groups had. -/
theorem leftOf_add_spent {owners : Finset Pubkey} {votes : List OperatorVote}
    (electors : Electors winningBallot owners votes) (balances : Vector ℕ feeGroupCount) :
    BaseRewardRouter.leftOf winningBallot votes balances (List.finRange feeGroupCount) +
        ∑ group : Fin feeGroupCount, spent winningBallot group balances[group] votes =
      ∑ group : Fin feeGroupCount, balances[group] := by
  rw [BaseRewardRouter.leftOf, ← Fin.sum_univ_def, ← Finset.sum_add_distrib]
  exact Finset.sum_congr rfl fun group _ => Nat.sub_add_cancel electors.spent_le

theorem BaseRewardRouter.Routed.of_paid {fees : Fees} {funded pooled final : BaseRewardRouter}
    (voted : box.Voted) (tallied : box.getWinningBallotTally = .ok winningBallot)
    (settled : final.Settled box)
    (zero : ∀ group : Fin feeGroupCount, funded.ncnFeeGroupRewards[group] = 0)
    (split : PoolPaid fees funded pooled)
    (paid : GroupsPaid winningBallot (counted winningBallot box.operatorVotes.toList)
      (List.finRange feeGroupCount) pooled final) :
    Routed fees box winningBallot funded final := by
  obtain ⟨base, ncn, rfl, baseDealt, ncnDealt⟩ := split
  obtain ⟨balances, routes, rfl, -, owed⟩ := paid
  have share : ∀ group : Fin feeGroupCount, ncn[group] =
      funded.rewardPool * fees.ncnFeeGroupsBps[group] / fees.total := by
    intro group
    rw [ncnDealt, zero, Nat.zero_add, ncnShare]
  simp only [List.mem_finRange, if_true] at owed
  refine ⟨settled.idle, rfl, settled.zero, fun i group wins => ?_, fun operator group absent => ?_,
    fun group notDao => ?_, ?_⟩
  · refine (owed _ group).trans ?_
    rw [voted.earned_eq tallied wins, BallotTally.share, share]
  · refine (owed operator group).trans ?_
    rw [earned_eq_zero, Nat.add_zero]
    intro vote member
    obtain ⟨listed, wins⟩ := List.mem_filter.mp member
    obtain ⟨i, bound, rfl⟩ := Vector.mem_iff_getElem.mp (Vector.mem_toList_iff.mp listed)
    exact absent ⟨i, bound⟩ (of_decide_eq_true wins)
  · dsimp only [resetRoutingState]
    rw [Slots.put_put, Slots.getElem_put_ne _ _ (Ne.symm notDao), baseDealt, baseShare]
  · have within := shares_le fees funded.rewardPool
    have left := leftOf_add_spent (voted.electors tallied) ncn
    have bases : ((List.finRange feeGroupCount).map (baseShare fees funded.rewardPool)).sum =
        baseShare fees funded.rewardPool 0 + ∑ group ∈ Finset.univ.erase (0 : Fin feeGroupCount),
          baseShare fees funded.rewardPool group := by
      rw [← Fin.sum_univ_def, Finset.add_sum_erase _ _ (Finset.mem_univ _)]
    have ncns : ((List.finRange feeGroupCount).map (ncnShare fees funded.rewardPool)).sum =
        ∑ group : Fin feeGroupCount, ncn[group] := by
      rw [← Fin.sum_univ_def]
      exact Finset.sum_congr rfl fun group _ => (share group).symm
    have gains : ∑ group : Fin feeGroupCount, spent winningBallot group ncn[group]
          (counted winningBallot box.operatorVotes.toList) =
        ∑ group : Fin feeGroupCount, ∑ i : Fin maxOperators,
          if box.operatorVotes[i].ballotIndex = winningBallot.index then
            funded.rewardPool * fees.ncnFeeGroupsBps[group] / fees.total *
              box.operatorVotes[i].stakeWeights.get (.group group) /
                winningBallot.stakeWeights.get (.group group)
          else 0 := by
      refine Finset.sum_congr rfl fun group _ => ?_
      rw [spent, counted, Slots.sum_filter_toList, Slots.total]
      simp only [decide_eq_true_eq, BallotTally.share, share]
    have daoShare := baseDealt 0
    unfold baseShare at bases daoShare
    dsimp only [resetRoutingState]
    rw [Slots.getElem_put_self, Slots.getElem_put_self, ← gains]
    unfold shares baseShare at within ⊢
    omega

/-- What arrived always enters the pool, as long as the deposits are a `u64`. -/
theorem BaseLedger.Balanced.routeIncomingRewards (balanced : ledger.Balanced rentCost)
    (deposits : ledger.deposited < 2 ^ 64) :
    ∃ funded, ledger.router.routeIncomingRewards rentCost ledger.lamports = .ok funded ∧
      funded.totalRewards = ledger.deposited ∧
      funded.ncnFeeGroupRewards = ledger.router.ncnFeeGroupRewards ∧
      funded.ncnFeeGroupRewardRoutes = ledger.router.ncnFeeGroupRewardRoutes ∧
      funded.stillRouting = ledger.router.stillRouting := by
  have accounted := balanced.accounted
  have conserved := balanced.conserved
  have covered := balanced.covered
  obtain ⟨incoming, arrived⟩ := Nat.exists_eq_add_of_le
    (show rentCost + ledger.router.rewardPool + ledger.router.rewardsProcessed ≤ ledger.lamports
      by omega)
  have routed : ledger.router.routeToRewardPool incoming = _ :=
    BaseRewardRouter.routeToRewardPool_of_fits (by omega) (by omega)
  have incomingIs : ledger.lamports - (ledger.router.rewardPool + ledger.router.rewardsProcessed) -
      rentCost = incoming := by omega
  refine ⟨{ ledger.router with
    totalRewards := ledger.router.totalRewards + incoming
    rewardPool := ledger.router.rewardPool + incoming }, ?_, ?_, rfl, rfl, rfl⟩
  · rw [BaseRewardRouter.routeIncomingRewards, BaseRewardRouter.totalRewardsInTransit,
      checkedAdd_of_lt (by omega), okOr_some, ok_bind, checkedSub_of_le (by omega), okOr_some,
      ok_bind, checkedSub_of_le (by omega), okOr_some, ok_bind, incomingIs]
    exact routed
  · dsimp only
    omega

/-- However a routing of the pool is cut into calls, every call succeeds, at most one
call for each vote of each group is needed, and the router in the end is the one of a
single call that is not limited: every voter has the floor of its share, every group
of the base its fee, and the DAO the rest. -/
theorem chunked_routing_equals_one_shot (documented : spl.Documented)
    (reachable : box.Reachable spl) (won : box.winningBallot.isValid = true)
    {history : List BaseInstruction} {ncn : Pubkey} {epoch bump slotCreated : ℕ}
    (against : ∀ instruction ∈ history, instruction.Against box)
    (ran : run (BaseLedger.process spl rentCost) history
      (.start ncn epoch bump slotCreated rentCost) = .ok ledger)
    (idle : ledger.router.stillRouting = false) (deposits : ledger.deposited < 2 ^ 64)
    {fees : Fees} (capped : fees.total ≤ maxFeeBps) :
    ∃ winningBallot funded pooled final,
      box.getWinningBallotTally = .ok winningBallot ∧
      ledger.router.routeIncomingRewards rentCost ledger.lamports = .ok funded ∧
      funded.routeRewardPool spl fees = .ok pooled ∧
      (∀ maxIterations, 8 * 256 ≤ maxIterations →
        pooled.routeNcnFeeGroupRewards spl box maxIterations = .ok final) ∧
      BaseRewardRouter.Routed fees box winningBallot funded final ∧
      ∀ limits : List ℕ, ∃ router,
        run (fun router maxIterations => router.routeNcnFeeGroupRewards spl box maxIterations)
          limits pooled = .ok router ∧
        (8 * 256 ≤ limits.length → router.stillRouting = false) ∧
        (limits ≠ [] → router.stillRouting = false → router = final) := by
  have voted := reachable.voted
  obtain ⟨winner, tallied, -⟩ := voted.winner won
  have sound := BaseLedger.Sound.run documented voted tallied reachable against ran
  have settled := sound.recoverable.settled idle
  obtain ⟨funded, funding, total, balances, funds, position⟩ :=
    sound.balanced.routeIncomingRewards deposits
  have holds := sound.balanced.incoming funding
  have allocated := holds.allocated
  have accounted := holds.accounted
  dsimp only at allocated accounted
  have feesFit : fees.total < 2 ^ 64 := capped.trans_lt (by norm_num [maxFeeBps])
  have transit : funded.rewardPool + funded.rewardsProcessed < 2 ^ 64 := by omega
  obtain ⟨pooled, pooling, split⟩ :=
    BaseRewardRouter.routeRewardPool_exact documented feesFit transit (by omega)
  have moved := BaseRewardRouter.routeRewardPool_rebalanced holds.table pooling
  obtain ⟨routes, stays⟩ := BaseRewardRouter.routeRewardPool_frame pooling
  have poolsFit := (holds.rebalanced moved).accounted
  have poolsAllocated := (holds.rebalanced moved).allocated
  have sameTotal := moved.total
  dsimp only at poolsFit poolsAllocated sameTotal
  have atRest : pooled.stillRouting = false := stays.trans (position.trans idle)
  obtain ⟨final, completes, settledFinal, paid⟩ := BaseRewardRouter.completes_of_payable documented
    voted tallied atRest
    ⟨moved.table, by rw [routes, funds]; exact settled.owned, by omega⟩
  have few := BaseRewardRouter.workLeft_le box box.ballotTallies[winner] pooled
  refine ⟨_, _, pooled, final, tallied, funding, pooling, fun maxIterations enough => ?_,
    .of_paid voted tallied settledFinal (by rw [balances]; exact settled.zero) split paid,
    fun limits => ?_⟩
  · rcases BaseRewardRouter.routeNcnFeeGroupRewards_cases tallied completes maxIterations with
      finished | ⟨next, -, interrupted, work⟩
    · exact finished
    · have unfinished := interrupted.unfinished
      unfold feeGroupCount maxOperators at few
      omega
  · have resumable := @BaseRewardRouter.resumable spl _ _ _ tallied settledFinal.idle
      settledFinal.zero
    obtain ⟨router, ran, stops, ends⟩ := resumable.run_ends
      (fun _ interrupted => interrupted.stillRouting) (fun _ interrupted => interrupted.unfinished)
      settledFinal.idle (BaseRewardRouter.advances tallied completes) atRest limits
    exact ⟨router, ran, fun enough => stops (few.trans enough), ends⟩

/-- Two voters share a deposit, however the routing is cut. -/
theorem chunked_routing_equals_one_shot_for_two_voters :
    ∃ (box : BallotBox) (pooled final : BaseRewardRouter), box.operatorsVoted = 2 ∧
      final.rewardPool = 0 ∧ ∀ limits : List ℕ, 8 * 256 ≤ limits.length →
        run (fun router maxIterations => router.routeNcnFeeGroupRewards .u256 box maxIterations)
          limits pooled = .ok final := by
  have runs : (do
      let box ← (run (BallotBox.apply .u256) twoVotes (.new .default 3 255 4)).mapError
        TransactionError.program
      let ledger ← run (BaseLedger.process .u256 890880) [.deposit 1001]
        (.start .default 3 255 4 890880)
      return (box, ledger)).toOption.any (fun result : BallotBox × BaseLedger =>
        result.1.operatorsVoted == 2 && result.1.winningBallot.isValid &&
          !result.2.router.stillRouting && result.2.deposited == 1001) = true := by
    decide +kernel
  obtain ⟨⟨box, ledger⟩, both, test⟩ := exists_of_any runs
  obtain ⟨_, voted, both⟩ := bind_eq_ok.mp both
  obtain ⟨_, ran, same⟩ := bind_eq_ok.mp both
  cases same
  simp only [Bool.and_eq_true, beq_iff_eq, Bool.not_eq_true'] at test
  obtain ⟨⟨⟨two, won⟩, idle⟩, deposited⟩ := test
  obtain ⟨winningBallot, funded, pooled, final, -, -, -, -, routed, chunks⟩ :=
    chunked_routing_equals_one_shot SplMath.u256_documented
      (reachable_of_twoVotes (mapError_eq_ok.mp voted)) won
      (fun instruction member => by rw [List.mem_singleton.mp member]; trivial) ran idle
      (deposited.trans_lt (by norm_num)) (show Fees.sample.total ≤ maxFeeBps by decide)
  refine ⟨box, pooled, final, two, routed.pool, fun limits enough => ?_⟩
  obtain ⟨router, ran, stops, ends⟩ := chunks limits
  have some : limits ≠ [] := fun empty => absurd (empty ▸ enough) (by decide)
  rw [ran, ends some (stops enough)]

end TipRouter
