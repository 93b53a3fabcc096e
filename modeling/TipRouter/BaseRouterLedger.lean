import TipRouter.BaseRouterOperations
import TipRouter.VotedBallotBox

/-! The ledger of the base reward router. Deposits reach the receiver, routing
moves what arrived between the balances of the router, and a distribution sends
exactly what it takes out of a balance. However these are interleaved, and
wherever routing stops, the balances add up to what was deposited and not yet
distributed, and the receiver holds all of it on top of its rent. -/
namespace TipRouter
open Runs

/-! ## Balances during routing -/

/-- The router the inner loop ends with, either way. -/
def BaseRewardRouter.VotesRouted.router : VotesRouted → BaseRewardRouter
  | .finished router _ => router
  | .saved router => router

variable {spl : SplMath} {router next : BaseRewardRouter}

/-- Everything the router has processed and not distributed, group by group. -/
def BaseRewardRouter.allocated (router : BaseRewardRouter) : ℕ :=
  Slots.total (fun rewards => rewards) router.baseFeeGroupRewards +
    Slots.total (fun rewards => rewards) router.ncnFeeGroupRewards +
    owedTotal router.ncnFeeGroupRewardRoutes

/-- Routing moves lamports between balances: what leaves the pool is processed,
and what is processed is allocated. -/
structure Rebalanced (router next : BaseRewardRouter) : Prop where
  total : next.totalRewards = router.totalRewards
  transit : next.rewardPool + next.rewardsProcessed = router.rewardPool + router.rewardsProcessed
  allocated : next.allocated + router.rewardsProcessed = router.allocated + next.rewardsProcessed
  table : RouteTable next.ncnFeeGroupRewardRoutes

theorem Rebalanced.refl (table : RouteTable router.ncnFeeGroupRewardRoutes) :
    Rebalanced router router :=
  ⟨rfl, rfl, rfl, table⟩

theorem Rebalanced.save (table : RouteTable router.ncnFeeGroupRewardRoutes)
    (groupIndex voteIndex rewardsToProcess : ℕ) :
    Rebalanced router (router.saveRoutingState groupIndex voteIndex rewardsToProcess) where
  total := rfl
  transit := rfl
  allocated := by simp only [BaseRewardRouter.allocated, BaseRewardRouter.saveRoutingState]
  table := table

theorem Rebalanced.reset (table : RouteTable router.ncnFeeGroupRewardRoutes) :
    Rebalanced router router.resetRoutingState where
  total := rfl
  transit := rfl
  allocated := by simp only [BaseRewardRouter.allocated, BaseRewardRouter.resetRoutingState]
  table := table

theorem Rebalanced.trans {middle : BaseRewardRouter} (first : Rebalanced router middle)
    (second : Rebalanced middle next) : Rebalanced router next := by
  have transit := first.transit
  have transit' := second.transit
  have allocated := first.allocated
  have allocated' := second.allocated
  exact ⟨second.total.trans first.total, by omega, by omega, second.table⟩

theorem total_raise (balances : Vector ℕ feeGroupCount) (group : Fin feeGroupCount)
    (rewards : ℕ) :
    Slots.total (fun rewards => rewards) (balances.put group (balances[group] + rewards)) =
      Slots.total (fun rewards => rewards) balances + rewards := by
  have written : Slots.total (fun rewards => rewards)
      (balances.put group (balances[group] + rewards)) + balances[group] =
      Slots.total (fun rewards => rewards) balances + (balances[group] + rewards) :=
    Slots.total_put group _
  omega

theorem total_lower (balances : Vector ℕ feeGroupCount) (group : Fin feeGroupCount)
    {rewards : ℕ} (covered : rewards ≤ balances[group]) :
    Slots.total (fun rewards => rewards) (balances.put group (balances[group] - rewards)) +
      rewards = Slots.total (fun rewards => rewards) balances := by
  have written : Slots.total (fun rewards => rewards)
      (balances.put group (balances[group] - rewards)) + balances[group] =
      Slots.total (fun rewards => rewards) balances + (balances[group] - rewards) :=
    Slots.total_put group _
  omega

section Steps
variable {group : Fin feeGroupCount} {rewards : ℕ}

theorem Rebalanced.poolToBase (table : RouteTable router.ncnFeeGroupRewardRoutes)
    (routed : (do
      let router ← router.routeFromRewardPool rewards
      router.routeToBaseFeeGroupRewards (.ofIndex group) rewards) = .ok next) :
    Rebalanced router next := by
  obtain ⟨middle, taken, given⟩ := bind_eq_ok.mp routed
  obtain ⟨covered, rfl⟩ := BaseRewardRouter.routeFromRewardPool_eq_ok taken
  obtain rfl := BaseRewardRouter.routeToBaseFeeGroupRewards_eq_ok given
  have raised := total_raise router.baseFeeGroupRewards group rewards
  refine ⟨rfl, ?_, ?_, table⟩
  · dsimp only
    omega
  · simp only [BaseRewardRouter.allocated]
    omega

theorem Rebalanced.poolToNcn (table : RouteTable router.ncnFeeGroupRewardRoutes)
    (routed : (do
      let router ← router.routeFromRewardPool rewards
      router.routeToNcnFeeGroupRewards (.ofIndex group) rewards) = .ok next) :
    Rebalanced router next := by
  obtain ⟨middle, taken, given⟩ := bind_eq_ok.mp routed
  obtain ⟨covered, rfl⟩ := BaseRewardRouter.routeFromRewardPool_eq_ok taken
  obtain rfl := BaseRewardRouter.routeToNcnFeeGroupRewards_eq_ok given
  have raised := total_raise router.ncnFeeGroupRewards group rewards
  refine ⟨rfl, ?_, ?_, table⟩
  · dsimp only
    omega
  · simp only [BaseRewardRouter.allocated]
    omega

theorem Rebalanced.ncnToBase {base : Fin feeGroupCount}
    (table : RouteTable router.ncnFeeGroupRewardRoutes)
    (routed : (do
      let router ← router.routeFromNcnFeeGroupRewards (.ofIndex group) rewards
      router.routeToBaseFeeGroupRewards (.ofIndex base) rewards) = .ok next) :
    Rebalanced router next := by
  obtain ⟨middle, taken, given⟩ := bind_eq_ok.mp routed
  obtain ⟨covered, rfl⟩ := BaseRewardRouter.routeFromNcnFeeGroupRewards_eq_ok taken
  obtain rfl := BaseRewardRouter.routeToBaseFeeGroupRewards_eq_ok given
  have raised := total_raise router.baseFeeGroupRewards base rewards
  have lowered := total_lower router.ncnFeeGroupRewards group covered
  refine ⟨rfl, rfl, ?_, table⟩
  simp only [BaseRewardRouter.allocated]
  omega

theorem Rebalanced.ncnToRoute {operator : Pubkey} (loaded : operator ≠ .default)
    (table : RouteTable router.ncnFeeGroupRewardRoutes)
    (routed : (do
      let router ← router.routeFromNcnFeeGroupRewards (.ofIndex group) rewards
      router.routeToNcnFeeGroupRewardRoute (.ofIndex group) operator rewards) = .ok next) :
    Rebalanced router next := by
  obtain ⟨middle, taken, given⟩ := bind_eq_ok.mp routed
  obtain ⟨covered, rfl⟩ := BaseRewardRouter.routeFromNcnFeeGroupRewards_eq_ok taken
  obtain ⟨routes, added, rfl⟩ := BaseRewardRouter.routeToNcnFeeGroupRewardRoute_eq_ok given table
  have raised := added.owedTotal_eq
  have lowered := total_lower router.ncnFeeGroupRewards group covered
  refine ⟨rfl, rfl, ?_, added.table table loaded⟩
  simp only [BaseRewardRouter.allocated] at raised ⊢
  omega

end Steps

/-! ## Whole routings -/

theorem BaseRewardRouter.routeRewardPool_rebalanced {fees : Fees}
    (table : RouteTable router.ncnFeeGroupRewardRoutes)
    (routed : router.routeRewardPool spl fees = .ok next) : Rebalanced router next := by
  simp only [routeRewardPool, BaseFeeGroup.allGroups_eq, NcnFeeGroup.allGroups_eq, List.foldlM_map]
    at routed
  obtain ⟨totalFeeBps, -, routed⟩ := bind_eq_ok.mp routed
  obtain ⟨based, baseLoop, routed⟩ := bind_eq_ok.mp routed
  obtain ⟨grouped, ncnLoop, leftover⟩ := bind_eq_ok.mp routed
  have toBase : Rebalanced router based := by
    refine foldlM_invariant (fun group _ state next holds stepped => ?_) (.refl table) baseLoop
    obtain ⟨fee, -, stepped⟩ := bind_eq_ok.mp stepped
    obtain ⟨rewards, -, moved⟩ := bind_eq_ok.mp stepped
    exact holds.trans (.poolToBase holds.table moved)
  have toNcn : Rebalanced router grouped := by
    refine foldlM_invariant (fun group _ state next holds stepped => ?_) toBase ncnLoop
    obtain ⟨fee, -, stepped⟩ := bind_eq_ok.mp stepped
    obtain ⟨rewards, -, moved⟩ := bind_eq_ok.mp stepped
    exact holds.trans (.poolToNcn holds.table moved)
  exact toNcn.trans (.poolToBase toNcn.table leftover)

section Votes
variable {winningBallot : BallotTally} {maxIterations : ℕ} {group : Fin feeGroupCount}

theorem BaseRewardRouter.routeVote_rebalanced {rewardsToProcess : ℕ} {votes : OperatorVote}
    (loaded : votes.operator ≠ .default) (table : RouteTable router.ncnFeeGroupRewardRoutes)
    (routed : router.routeVote spl winningBallot.stakeWeights (.ofIndex group) rewardsToProcess
      votes = .ok next) : Rebalanced router next := by
  obtain ⟨winningWeight, -, routed⟩ := bind_eq_ok.mp routed
  obtain ⟨weight, -, routed⟩ := bind_eq_ok.mp routed
  obtain ⟨reward, -, moved⟩ := bind_eq_ok.mp routed
  exact .ncnToRoute loaded table moved

theorem BaseRewardRouter.routeVotes_rebalanced {groupIndex rewardsToProcess : ℕ}
    {votes : List (OperatorVote × ℕ)} {iterations : ℕ} {outcome : VotesRouted}
    (loaded : ∀ entry ∈ votes, entry.1.ballotIndex = winningBallot.index →
      entry.1.operator ≠ .default)
    (table : RouteTable router.ncnFeeGroupRewardRoutes)
    (routed : routeVotes spl winningBallot maxIterations groupIndex (.ofIndex group)
      rewardsToProcess votes router iterations = .ok outcome) :
    Rebalanced router outcome.router := by
  induction votes generalizing router iterations with
  | nil =>
    cases routed
    exact .refl table
  | cons entry rest ih =>
    obtain ⟨vote, voteIndex⟩ := entry
    have loadedRest := fun other member => loaded other (List.mem_cons_of_mem _ member)
    rw [routeVotes] at routed
    split at routed
    · rename_i wins
      obtain ⟨more, -, routed⟩ := bind_eq_ok.mp routed
      split at routed
      · cases routed
        exact .save table groupIndex voteIndex rewardsToProcess
      · obtain ⟨middle, voted, remaining⟩ := bind_eq_ok.mp routed
        have first := routeVote_rebalanced (loaded _ List.mem_cons_self wins) table voted
        exact first.trans (ih loadedRest first.table remaining)
    · exact ih loadedRest table routed

theorem BaseRewardRouter.routeGroups_rebalanced {operatorVotes : Vector OperatorVote maxOperators}
    {groups : List (Fin feeGroupCount)} {startingVoteIndex startingRewards iterations : ℕ}
    (loaded : ∀ entry ∈ operatorVotes.toList.zipIdx, entry.1.ballotIndex = winningBallot.index →
      entry.1.operator ≠ .default)
    (table : RouteTable router.ncnFeeGroupRewardRoutes)
    (routed : routeGroups spl operatorVotes winningBallot maxIterations
      (groups.map fun group => (.ofIndex group, group.val)) startingVoteIndex startingRewards
      router iterations = .ok next) :
    Rebalanced router next := by
  induction groups generalizing router startingVoteIndex startingRewards iterations with
  | nil =>
    cases routed
    exact .reset table
  | cons group rest ih =>
    rw [List.map_cons, routeGroups] at routed
    obtain ⟨rewardsToProcess, -, routed⟩ := bind_eq_ok.mp routed
    split at routed
    · exact ih table routed
    · obtain ⟨outcome, votesRouted, routed⟩ := bind_eq_ok.mp routed
      have toRoutes := routeVotes_rebalanced
        (fun entry member => loaded entry (List.mem_of_mem_drop member)) table votesRouted
      cases outcome with
      | saved saved =>
        cases routed
        exact toRoutes
      | finished finished more =>
        obtain ⟨emptied, leftover, remaining⟩ := bind_eq_ok.mp routed
        obtain ⟨rewards, -, moved⟩ := bind_eq_ok.mp leftover
        have toDao : Rebalanced finished emptied := .ncnToBase toRoutes.table moved
        exact (toRoutes.trans toDao).trans (ih toDao.table remaining)

end Votes

/-- Counted votes are votes of loaded operators. -/
theorem BallotBox.Voted.loaded_of_wins {box : BallotBox} (voted : box.Voted)
    {winningBallot : BallotTally} (tallied : box.getWinningBallotTally = .ok winningBallot) :
    ∀ entry ∈ box.operatorVotes.toList.zipIdx, entry.1.ballotIndex = winningBallot.index →
      entry.1.operator ≠ .default := by
  have won : box.winningBallot.isValid = true := by
    cases valid : box.winningBallot.isValid with
    | true => rfl
    | false =>
      rw [getWinningBallotTally, valid] at tallied
      cases tallied
  obtain ⟨winner, found, index, -⟩ := voted.winner won
  cases Except.ok.inj (found.symm.trans tallied)
  rintro ⟨vote, i⟩ member wins
  have inside : i < maxOperators := by
    simpa using (List.getElem?_eq_some_iff.mp (List.mk_mem_zipIdx_iff_getElem?.mp member)).1
  have here : box.operatorVotes[(⟨i, inside⟩ : Fin maxOperators)] = vote := by
    simpa [inside] using List.mk_mem_zipIdx_iff_getElem?.mp member
  rw [← here]
  refine voted.loaded _ (not_empty_of_known ?_)
  rw [here, wins, index]
  exact winner.isLt

theorem BaseRewardRouter.routeNcnFeeGroupRewards_rebalanced {box : BallotBox} {maxIterations : ℕ}
    (voted : box.Voted) (table : RouteTable router.ncnFeeGroupRewardRoutes)
    (routed : router.routeNcnFeeGroupRewards spl box maxIterations = .ok next) :
    Rebalanced router next := by
  obtain ⟨winningBallot, tallied, routed⟩ := bind_eq_ok.mp routed
  rcases router.resumeRoutingState with ⟨startingGroupIndex, startingVoteIndex, startingRewards⟩
  dsimp only at routed
  rw [NcnFeeGroup.allGroups_zipIdx, ← List.map_drop] at routed
  exact routeGroups_rebalanced (voted.loaded_of_wins tallied) table routed

/-! ## The ledger -/

/-- The router, the lamports of its receiver, and what ever went in and out. -/
structure BaseLedger where
  router : BaseRewardRouter
  lamports : ℕ
  deposited : ℕ
  distributed : ℕ
  deriving DecidableEq

/-- The instructions that move lamports of one epoch through the base router. -/
inductive BaseInstruction where
  | deposit (lamports : ℕ)
  | routeBaseRewards (fees : Fees) (ballotBox : BallotBox)
      (currentSlot validSlotsAfterConsensus maxIterations : ℕ)
  | distributeBaseRewards (baseFeeGroup : ℕ)
  | distributeBaseNcnRewardRoute (ncnFeeGroup : ℕ) (operator : Pubkey)

/-- Routing reads a ballot box of the program. -/
def BaseInstruction.Voted (spl : SplMath) : BaseInstruction → Prop
  | .routeBaseRewards _ ballotBox _ _ _ => ballotBox.Reachable spl
  | _ => True

/-- A transaction fails in the program or in a transfer. -/
inductive TransactionError where
  | program (failure : TipRouterError)
  | insufficientLamports
  | lamportsOverflow
  deriving DecidableEq

namespace BaseLedger

/-- A router just created, with the rent paid into its receiver. -/
def start (ncn : Pubkey) (epoch bump slotCreated rentCost : ℕ) : BaseLedger where
  router := .new ncn epoch bump slotCreated
  lamports := rentCost
  deposited := 0
  distributed := 0

def deposit (self : BaseLedger) (lamports : ℕ) : Except TransactionError BaseLedger :=
  if self.lamports + lamports < 2 ^ 64 then
    .ok { self with
      lamports := self.lamports + lamports
      deposited := self.deposited + lamports }
  else .error .lamportsOverflow

/-- The transfer out of the receiver that ends a distribution. -/
def send (self : BaseLedger) (rewards : ℕ) (router : BaseRewardRouter) :
    Except TransactionError BaseLedger :=
  if rewards ≤ self.lamports then
    .ok { self with
      router := router
      lamports := self.lamports - rewards
      distributed := self.distributed + rewards }
  else .error .insufficientLamports

def process (spl : SplMath) (rentCost : ℕ) (self : BaseLedger) :
    BaseInstruction → Except TransactionError BaseLedger
  | .deposit lamports => self.deposit lamports
  | .routeBaseRewards fees ballotBox currentSlot validSlotsAfterConsensus maxIterations => do
    let router ← (self.router.processRouteBaseRewards spl fees ballotBox currentSlot
      validSlotsAfterConsensus rentCost self.lamports maxIterations).mapError .program
    return { self with router := router }
  | .distributeBaseRewards baseFeeGroup => do
    let (rewards, router) ←
      (self.router.processDistributeBaseRewards baseFeeGroup).mapError .program
    self.send rewards router
  | .distributeBaseNcnRewardRoute ncnFeeGroup operator => do
    let (rewards, router) ←
      (self.router.processDistributeBaseNcnRewardRoute ncnFeeGroup operator).mapError .program
    self.send rewards router

end BaseLedger

variable {ledger later : BaseLedger} {rentCost : ℕ}

/-- Every lamport is accounted for, in the router and in the receiver. -/
structure BaseLedger.Balanced (rentCost : ℕ) (ledger : BaseLedger) : Prop where
  allocated : ledger.router.allocated = ledger.router.rewardsProcessed
  accounted : ledger.router.totalRewards =
    ledger.router.rewardPool + ledger.router.rewardsProcessed + ledger.distributed
  table : RouteTable ledger.router.ncnFeeGroupRewardRoutes
  conserved : ledger.lamports + ledger.distributed = rentCost + ledger.deposited
  covered : ledger.router.totalRewards ≤ ledger.deposited

theorem BaseLedger.start_balanced (ncn : Pubkey) (epoch bump slotCreated rentCost : ℕ) :
    (start ncn epoch bump slotCreated rentCost).Balanced rentCost where
  allocated := by
    have noRoutes : owedTotal (Vector.replicate maxOperators .default) = 0 :=
      Slots.total_replicate_zero (Slots.total_replicate_zero rfl)
    have noBalances : Slots.total (fun rewards => rewards) (Vector.replicate feeGroupCount 0) = 0 :=
      Slots.total_replicate_zero rfl
    simp only [BaseRewardRouter.allocated, start, BaseRewardRouter.new, noRoutes, noBalances]
  accounted := rfl
  table := by
    have unused : ∀ i : Fin maxOperators,
        (start ncn epoch bump slotCreated rentCost).router.ncnFeeGroupRewardRoutes[i] = .default :=
      fun i => Vector.getElem_replicate _
    exact ⟨fun i _ used => absurd (by rw [unused]; rfl) used, fun i _ => by rw [unused]; rfl⟩
  conserved := rfl
  covered := le_rfl

/-- What moves between balances leaves the ledger balanced. -/
theorem BaseLedger.Balanced.rebalanced (balanced : ledger.Balanced rentCost)
    {router : BaseRewardRouter} (moved : Rebalanced ledger.router router) :
    ({ ledger with router := router } : BaseLedger).Balanced rentCost where
  allocated := by
    have before := balanced.allocated
    have after := moved.allocated
    dsimp only
    omega
  accounted := by
    have before := balanced.accounted
    have transit := moved.transit
    rw [moved.total]
    dsimp only
    omega
  table := moved.table
  conserved := balanced.conserved
  covered := by
    rw [moved.total]
    exact balanced.covered

/-- What arrived enters the pool. -/
theorem BaseLedger.Balanced.incoming (balanced : ledger.Balanced rentCost)
    {router : BaseRewardRouter}
    (routed : ledger.router.routeIncomingRewards rentCost ledger.lamports = .ok router) :
    ({ ledger with router := router } : BaseLedger).Balanced rentCost := by
  obtain ⟨incoming, holds, rfl⟩ := BaseRewardRouter.routeIncomingRewards_eq_ok routed
  have accounted := balanced.accounted
  have conserved := balanced.conserved
  refine ⟨balanced.allocated, ?_, balanced.table, conserved, ?_⟩
  · dsimp only
    omega
  · dsimp only
    omega

theorem BaseLedger.Balanced.route (balanced : ledger.Balanced rentCost)
    {router : BaseRewardRouter} {fees : Fees} {box : BallotBox}
    {currentSlot validSlotsAfterConsensus maxIterations : ℕ} (voted : box.Voted)
    (routed : ledger.router.processRouteBaseRewards spl fees box currentSlot
      validSlotsAfterConsensus rentCost ledger.lamports maxIterations = .ok router) :
    ({ ledger with router := router } : BaseLedger).Balanced rentCost := by
  obtain ⟨votingValid, -, routed⟩ := bind_eq_ok.mp routed
  split at routed
  · cases routed
  obtain ⟨started, starting, routed⟩ := bind_eq_ok.mp routed
  have begun : ({ ledger with router := started } : BaseLedger).Balanced rentCost := by
    unfold BaseRewardRouter.startRouting at starting
    split at starting
    · cases starting
      exact balanced
    · obtain ⟨funded, funding, pooling⟩ := bind_eq_ok.mp starting
      have holds := balanced.incoming funding
      exact holds.rebalanced (BaseRewardRouter.routeRewardPool_rebalanced holds.table pooling)
  exact begun.rebalanced
    (BaseRewardRouter.routeNcnFeeGroupRewards_rebalanced voted begun.table routed)

/-- A distribution takes from the router what it sends. -/
theorem BaseLedger.Balanced.send (balanced : ledger.Balanced rentCost)
    {router : BaseRewardRouter} {rewards : ℕ} (sent : ledger.send rewards router = .ok later)
    (allocated : router.allocated + rewards = ledger.router.allocated)
    (processed : router.rewardsProcessed + rewards = ledger.router.rewardsProcessed)
    (pool : router.rewardPool = ledger.router.rewardPool)
    (total : router.totalRewards = ledger.router.totalRewards)
    (table : RouteTable router.ncnFeeGroupRewardRoutes) : later.Balanced rentCost := by
  unfold BaseLedger.send at sent
  split at sent
  · rename_i covered
    cases sent
    have before := balanced.allocated
    have accounted := balanced.accounted
    have conserved := balanced.conserved
    have deposited := balanced.covered
    refine ⟨?_, ?_, table, ?_, ?_⟩ <;> dsimp only <;> omega
  · cases sent

private theorem total_clear (balances : Vector ℕ feeGroupCount) (group : Fin feeGroupCount) :
    Slots.total (fun rewards => rewards) (balances.put group 0) + balances[group] =
      Slots.total (fun rewards => rewards) balances :=
  Slots.total_put group 0

theorem BaseLedger.Balanced.distributeBase (balanced : ledger.Balanced rentCost)
    {router : BaseRewardRouter} {baseFeeGroup rewards : ℕ}
    (taken : ledger.router.processDistributeBaseRewards baseFeeGroup = .ok (rewards, router))
    (sent : ledger.send rewards router = .ok later) : later.Balanced rentCost := by
  obtain ⟨base, -, taken⟩ := bind_eq_ok.mp taken
  split at taken
  · cases taken
  obtain ⟨group, rfl, covered, rfl⟩ := BaseRewardRouter.distributeBaseFeeGroupRewards_eq_ok taken
  have cleared := total_clear ledger.router.baseFeeGroupRewards group
  refine balanced.send sent ?_ ?_ rfl rfl balanced.table
  · simp only [BaseRewardRouter.allocated]
    omega
  · dsimp only
    omega

/-- Clearing one group of a route keeps the table. -/
theorem RouteTable.clear {routes : Vector NcnRewardRoute maxOperators} (table : RouteTable routes)
    (i : Fin maxOperators) (group : Fin feeGroupCount) :
    RouteTable (routes.put i { routes[i] with
      ncnFeeGroupRewards := routes[i].ncnFeeGroupRewards.put group 0 }) where
  distinct := Slots.distinct_put (fun route : NcnRewardRoute => route.operator ≠ .default)
    NcnRewardRoute.operator table.distinct fun used j other usedJ same =>
      other (table.distinct j i usedJ used same)
  blank := Slots.forall_put
    (P := fun _ (route : NcnRewardRoute) => route.operator = .default →
      route.ncnFeeGroupRewards = Vector.replicate feeGroupCount 0)
    (fun empty => by
      rw [table.blank i empty]
      exact Slots.put_replicate group 0)
    fun j _ => table.blank j

theorem BaseLedger.Balanced.distributeRoute (balanced : ledger.Balanced rentCost)
    {router : BaseRewardRouter} {ncnFeeGroup rewards : ℕ} {operator : Pubkey}
    (taken : ledger.router.processDistributeBaseNcnRewardRoute ncnFeeGroup operator =
      .ok (rewards, router))
    (sent : ledger.send rewards router = .ok later) : later.Balanced rentCost := by
  obtain ⟨ncn, -, taken⟩ := bind_eq_ok.mp taken
  split at taken
  · cases taken
  obtain ⟨group, i, rfl, covered, rfl⟩ :=
    BaseRewardRouter.distributeNcnFeeGroupRewardRoute_eq_ok taken
  have written := owedTotal_set ledger.router.ncnFeeGroupRewardRoutes i
    { ledger.router.ncnFeeGroupRewardRoutes[i] with
      ncnFeeGroupRewards :=
        ledger.router.ncnFeeGroupRewardRoutes[i].ncnFeeGroupRewards.put group 0 }
  have cleared := total_clear
    ledger.router.ncnFeeGroupRewardRoutes[i].ncnFeeGroupRewards group
  refine balanced.send sent ?_ ?_ rfl rfl (balanced.table.clear i group)
  · simp only [BaseRewardRouter.allocated] at written ⊢
    omega
  · dsimp only
    omega

/-- One instruction keeps the ledger balanced. -/
theorem BaseLedger.Balanced.process {instruction : BaseInstruction}
    (balanced : ledger.Balanced rentCost) (voted : instruction.Voted spl)
    (processed : ledger.process spl rentCost instruction = .ok later) :
    later.Balanced rentCost := by
  cases instruction with
  | deposit lamports =>
    have deposited : ledger.deposit lamports = .ok later := processed
    unfold BaseLedger.deposit at deposited
    split at deposited
    · cases deposited
      have conserved := balanced.conserved
      have covered := balanced.covered
      refine ⟨balanced.allocated, balanced.accounted, balanced.table, ?_, ?_⟩ <;>
        dsimp only <;> omega
    · cases deposited
  | routeBaseRewards fees ballotBox currentSlot validSlotsAfterConsensus maxIterations =>
    obtain ⟨router, routed, same⟩ := bind_eq_ok.mp processed
    cases same
    exact balanced.route (BallotBox.Reachable.voted voted) (mapError_eq_ok.mp routed)
  | distributeBaseRewards baseFeeGroup =>
    obtain ⟨⟨rewards, router⟩, taken, sent⟩ := bind_eq_ok.mp processed
    exact balanced.distributeBase (mapError_eq_ok.mp taken) sent
  | distributeBaseNcnRewardRoute ncnFeeGroup operator =>
    obtain ⟨⟨rewards, router⟩, taken, sent⟩ := bind_eq_ok.mp processed
    exact balanced.distributeRoute (mapError_eq_ok.mp taken) sent

/-- A balanced ledger can pay every distribution. -/
theorem BaseLedger.Balanced.solvent (balanced : ledger.Balanced rentCost)
    (instruction : BaseInstruction) :
    ledger.process spl rentCost instruction ≠ .error .insufficientLamports := by
  have covers : ∀ rewards router, rewards ≤ ledger.router.rewardsProcessed →
      ledger.send rewards router ≠ .error .insufficientLamports := by
    intro rewards router processed failed
    have accounted := balanced.accounted
    have conserved := balanced.conserved
    have covered := balanced.covered
    rw [BaseLedger.send, if_pos (by omega)] at failed
    cases failed
  intro failed
  cases instruction with
  | deposit lamports =>
    have deposited : ledger.deposit lamports = .error .insufficientLamports := failed
    unfold BaseLedger.deposit at deposited
    split at deposited <;> cases deposited
  | routeBaseRewards fees ballotBox currentSlot validSlotsAfterConsensus maxIterations =>
    rcases bind_eq_error.mp failed with refused | ⟨router, -, same⟩
    · obtain ⟨cause, -, program⟩ := mapError_eq_error.mp refused
      cases program
    · cases same
  | distributeBaseRewards baseFeeGroup =>
    rcases bind_eq_error.mp failed with refused | ⟨⟨rewards, router⟩, taken, unsent⟩
    · obtain ⟨cause, -, program⟩ := mapError_eq_error.mp refused
      cases program
    · obtain ⟨base, -, taken⟩ := bind_eq_ok.mp (mapError_eq_ok.mp taken)
      split at taken
      · cases taken
      obtain ⟨group, -, processed, -⟩ :=
        BaseRewardRouter.distributeBaseFeeGroupRewards_eq_ok taken
      exact covers rewards router processed unsent
  | distributeBaseNcnRewardRoute ncnFeeGroup operator =>
    rcases bind_eq_error.mp failed with refused | ⟨⟨rewards, router⟩, taken, unsent⟩
    · obtain ⟨cause, -, program⟩ := mapError_eq_error.mp refused
      cases program
    · obtain ⟨ncn, -, taken⟩ := bind_eq_ok.mp (mapError_eq_ok.mp taken)
      split at taken
      · cases taken
      obtain ⟨group, i, -, processed, -⟩ :=
        BaseRewardRouter.distributeNcnFeeGroupRewardRoute_eq_ok taken
      exact covers rewards router processed unsent

/-- The receiver holds everything in transit, so what is incoming is not negative. -/
theorem BaseLedger.Balanced.incoming_covered (balanced : ledger.Balanced rentCost) :
    ledger.router.routeIncomingRewards rentCost ledger.lamports ≠
      .error .arithmeticUnderflowError := by
  have accounted := balanced.accounted
  have conserved := balanced.conserved
  have covered := balanced.covered
  intro failed
  rcases bind_eq_error.mp failed with overflow | ⟨transit, summed, failed⟩
  · exact absurd (okOr_eq_error_iff.mp overflow).2 (by decide)
  obtain ⟨-, rfl⟩ := checkedAdd_eq_some_iff.mp (okOr_eq_ok_iff.mp summed)
  rw [checkedSub_of_le (by omega), okOr_some, ok_bind, checkedSub_of_le (by omega), okOr_some,
    ok_bind, BaseRewardRouter.routeToRewardPool] at failed
  split at failed
  · cases failed
  · rcases bind_eq_error.mp failed with overflow | ⟨total, -, failed⟩
    · exact absurd (okOr_eq_error_iff.mp overflow).2 (by decide)
    rcases bind_eq_error.mp failed with overflow | ⟨pool, -, same⟩
    · exact absurd (okOr_eq_error_iff.mp overflow).2 (by decide)
    · cases same

theorem BaseLedger.run_balanced {history : List BaseInstruction} {ncn : Pubkey}
    {epoch bump slotCreated : ℕ} (voted : ∀ instruction ∈ history, instruction.Voted spl)
    (ran : run (BaseLedger.process spl rentCost) history
      (.start ncn epoch bump slotCreated rentCost) = .ok ledger) : ledger.Balanced rentCost := by
  refine foldlM_invariant (motive := fun state => state.Balanced rentCost) ?_
    (start_balanced ncn epoch bump slotCreated rentCost) ran
  intro instruction member middle next balanced processed
  exact balanced.process (voted instruction member) processed

/-- After every instruction the router has allocated what it processed, its
total is what it still holds and what it distributed, and the receiver holds
the rent, all that is in transit and nothing less than was deposited and not
distributed. -/
theorem base_ledger_balances {history : List BaseInstruction} {ncn : Pubkey}
    {epoch bump slotCreated : ℕ} (voted : ∀ instruction ∈ history, instruction.Voted spl)
    (ran : run (BaseLedger.process spl rentCost) history
      (.start ncn epoch bump slotCreated rentCost) = .ok ledger) :
    ledger.router.rewardsProcessed =
        ∑ group : Fin feeGroupCount, ledger.router.baseFeeGroupRewards[group] +
          ∑ group : Fin feeGroupCount, ledger.router.ncnFeeGroupRewards[group] +
          ∑ i : Fin maxOperators, ∑ group : Fin feeGroupCount,
            ledger.router.ncnFeeGroupRewardRoutes[i].ncnFeeGroupRewards[group] ∧
      ledger.router.totalRewards =
        ledger.router.rewardPool + ledger.router.rewardsProcessed + ledger.distributed ∧
      rentCost + ledger.router.rewardPool + ledger.router.rewardsProcessed ≤ ledger.lamports ∧
      ledger.lamports + ledger.distributed = rentCost + ledger.deposited ∧
      ledger.router.totalRewards ≤ ledger.deposited ∧
      ledger.router.routeIncomingRewards rentCost ledger.lamports ≠
        .error .arithmeticUnderflowError ∧
      ∀ instruction, ledger.process spl rentCost instruction ≠ .error .insufficientLamports := by
  have balanced := BaseLedger.run_balanced voted ran
  have accounted := balanced.accounted
  have conserved := balanced.conserved
  have covered := balanced.covered
  exact ⟨balanced.allocated.symm, accounted, by omega, conserved, covered,
    balanced.incoming_covered, balanced.solvent⟩

/-- Weights that count in the first NCN group only. -/
def StakeWeights.inDefaultGroup (weight : ℕ) : StakeWeights where
  stakeWeight := weight
  ncnFeeGroupStakeWeights := (Vector.replicate feeGroupCount 0).set 0 weight

/-- Two operators agree. -/
def twoVotes : List BallotCall :=
  [.castVote ⟨Vector.replicate 32 1⟩ (.new (Vector.replicate 32 7)) (.inDefaultGroup 70) 5 10,
    .castVote ⟨Vector.replicate 32 2⟩ (.new (Vector.replicate 32 7)) (.inDefaultGroup 30) 6 10,
    .tallyVotes 100 7]

theorem StakeWeights.inDefaultGroup_fits {weight : ℕ} (small : weight < 2 ^ 128) :
    (inDefaultGroup weight).Fits := by
  intro component
  cases component with
  | total => exact small
  | group index =>
    simp only [inDefaultGroup, get_group, Slots.getElem_fin, Vector.getElem_set,
      Vector.getElem_replicate]
    split
    · exact small
    · norm_num

theorem reachable_of_twoVotes {box : BallotBox}
    (ran : run (BallotBox.apply spl) twoVotes (.new .default 3 255 4) = .ok box) :
    box.Reachable spl := by
  refine ⟨twoVotes, .default, 3, 255, 4, fun call member => ?_, ran⟩
  simp only [twoVotes, List.mem_cons, List.not_mem_nil, or_false] at member
  rcases member with rfl | rfl | rfl
  · exact ⟨by simp only [BallotCall.Loaded]; decide, StakeWeights.inDefaultGroup_fits (by norm_num)⟩
  · exact ⟨by simp only [BallotCall.Loaded]; decide, StakeWeights.inDefaultGroup_fits (by norm_num)⟩
  · exact ⟨trivial, trivial⟩

/-- Routing stops after one vote and resumes, a deposit arrives in between, and
the DAO and one operator are paid. -/
theorem base_ledger_balances_after_interruption :
    ∃ ledger : BaseLedger, ledger.distributed = 791 ∧
      ledger.router.totalRewards =
        ledger.router.rewardPool + ledger.router.rewardsProcessed + ledger.distributed := by
  have runs : (do
      let box ← (run (BallotBox.apply .u256) twoVotes (.new .default 3 255 4)).mapError
        TransactionError.program
      let ledger ← run (BaseLedger.process .u256 890880)
        [.deposit 1001, .routeBaseRewards .sample box 100 10 1, .deposit 5,
          .routeBaseRewards .sample box 101 10 1, .distributeBaseRewards 0,
          .distributeBaseNcnRewardRoute 0 ⟨Vector.replicate 32 1⟩]
        (.start .default 3 255 4 890880)
      return (box, ledger)).toOption.any
        (fun result : BallotBox × BaseLedger => result.2.distributed == 791) = true := by
    decide +kernel
  obtain ⟨⟨box, ledger⟩, both, paid⟩ := exists_of_any runs
  obtain ⟨_, voted, both⟩ := bind_eq_ok.mp both
  obtain ⟨_, ran, same⟩ := bind_eq_ok.mp both
  cases same
  have reachable := reachable_of_twoVotes (mapError_eq_ok.mp voted)
  refine ⟨ledger, by simpa using paid, (base_ledger_balances (fun instruction member => ?_) ran).2.1⟩
  simp only [List.mem_cons, List.not_mem_nil, or_false] at member
  rcases member with rfl | rfl | rfl | rfl | rfl | rfl
  · trivial
  · exact reachable
  · trivial
  · exact reachable
  · trivial
  · trivial

end TipRouter
