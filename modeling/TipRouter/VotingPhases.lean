import TipRouter.BaseRouterRecovery
import TipRouter.Config
import TipRouter.Voting

/-! Voting and routing of one epoch under a configuration that can change,
`program/src/cast_vote.rs`, `admin_set_tie_breaker.rs`,
`admin_set_parameters.rs`, `route_base_rewards.rs` and the distributions of the
base router. Votes are refused once voting is over and routing is refused before
it is; both read the window of slots from the configuration of the moment. -/
namespace TipRouter
open Runs

/-! ## The instructions -/

/-- What `Clock::get` returns. -/
structure Clock where
  slot : ℕ
  epoch : ℕ

inductive PhaseInstruction where
  | castVote (operator voter operatorAdmin : Pubkey) (epochSnapshot : EpochSnapshot)
      (operatorSnapshot : OperatorSnapshot) (metaMerkleRoot : Bytes32)
  | adminSetTieBreaker (tieBreakerAdmin : Pubkey) (metaMerkleRoot : Bytes32)
  | adminSetParameters (ncn restakingAdmin ncnAdmin : Pubkey) (parameters : AdminParameters)
  | deposit (lamports : ℕ)
  | routeBaseRewards (epochSnapshot : EpochSnapshot) (maxIterations : ℕ)
  | distributeBaseRewards (baseFeeGroup : ℕ)
  | distributeBaseNcnRewardRoute (ncnFeeGroup : ℕ) (operator : Pubkey)

structure PhaseAccounts where
  config : Config
  voting : VotingAccounts
  ledger : BaseLedger
  deriving DecidableEq

namespace PhaseAccounts

def start (config : Config) (epochState : EpochState) (ncn : Pubkey)
    (epoch bump slotCreated rentCost : ℕ) : PhaseAccounts where
  config := config
  voting := .start epochState ncn epoch bump slotCreated
  ledger := .start ncn epoch bump slotCreated rentCost

def withEpochState (self : PhaseAccounts) (epochState : EpochState) : PhaseAccounts :=
  { self with voting := { self.voting with epochState := epochState } }

/-- The end of `process_distribute_base_rewards` and
`process_distribute_base_ncn_reward_route`. -/
def finishDistribution (self : PhaseAccounts) (ledger : BaseLedger)
    (updated : Except TipRouterError EpochState) : Except TransactionError PhaseAccounts := do
  let epochState ← updated.mapError .program
  return { self with ledger := ledger }.withEpochState epochState

def process (spl : SplMath) (rentCost : ℕ) (self : PhaseAccounts) (timed : Clock × PhaseInstruction) :
    Except TransactionError PhaseAccounts :=
  match timed with
  | (clock, .castVote operator voter operatorAdmin epochSnapshot operatorSnapshot metaMerkleRoot) => do
    let voting ← (self.voting.processCastVote spl operator voter operatorAdmin epochSnapshot
      operatorSnapshot metaMerkleRoot self.config.validSlotsAfterConsensus clock.slot).mapError .program
    return { self with voting := voting }
  | (clock, .adminSetTieBreaker tieBreakerAdmin metaMerkleRoot) => do
    let voting ← (self.voting.processAdminSetTieBreaker self.config.tieBreakerAdmin tieBreakerAdmin
      metaMerkleRoot self.config.epochsBeforeStall clock.epoch clock.slot).mapError .program
    return { self with voting := voting }
  | (_, .adminSetParameters ncn restakingAdmin ncnAdmin parameters) => do
    let config ← (self.config.processAdminSetParameters ncn restakingAdmin ncnAdmin
      parameters).mapError .program
    return { self with config := config }
  | (_, .deposit lamports) => do
    let ledger ← self.ledger.deposit lamports
    return { self with ledger := ledger }
  | (clock, .routeBaseRewards epochSnapshot maxIterations) => do
    let ledger ← self.ledger.process spl rentCost (.routeBaseRewards epochSnapshot.fees
      self.voting.ballotBox clock.slot self.config.validSlotsAfterConsensus maxIterations)
    return { self with ledger := ledger }.withEpochState
      (self.voting.epochState.updateRouteBaseRewards ledger.router.totalRewards)
  | (_, .distributeBaseRewards baseFeeGroup) => do
    let (rewards, router) ←
      (self.ledger.router.processDistributeBaseRewards baseFeeGroup).mapError .program
    let ledger ← self.ledger.send rewards router
    self.finishDistribution ledger (self.voting.epochState.updateDistributeBaseRewards rewards)
  | (_, .distributeBaseNcnRewardRoute ncnFeeGroup operator) => do
    let (rewards, router) ←
      (self.ledger.router.processDistributeBaseNcnRewardRoute ncnFeeGroup operator).mapError .program
    let ledger ← self.ledger.send rewards router
    self.finishDistribution ledger (self.voting.epochState.updateDistributeBaseNcnRewards rewards)

end PhaseAccounts

namespace PhaseInstruction

/-- The operator of a vote is a loaded account and its weights are `u128`. -/
def Loaded : PhaseInstruction → Prop
  | castVote operator _ _ _ operatorSnapshot _ =>
    operator ≠ .default ∧ operatorSnapshot.stakeWeights.Fits
  | _ => True

def isCastVote : PhaseInstruction → Bool
  | castVote .. => true
  | _ => false

def isRouteBaseRewards : PhaseInstruction → Bool
  | routeBaseRewards .. => true
  | _ => false

/-- A change of the parameters does not make voting valid at its slot. -/
def KeepsVotingOver (accounts : PhaseAccounts) (clock : Clock) : PhaseInstruction → Prop
  | adminSetParameters _ _ _ parameters =>
    ∀ validSlotsAfterConsensus, parameters.validSlotsAfterConsensus = some validSlotsAfterConsensus →
      accounts.voting.ballotBox.isVotingValid clock.slot validSlotsAfterConsensus ≠ .ok true
  | _ => True

end PhaseInstruction

/-- Some instruction of the history routed. -/
def Routed (history : List (Clock × PhaseInstruction)) : Prop :=
  ∃ timed ∈ history, timed.2.isRouteBaseRewards = true

/-! ## One step -/

/-- Voting that has ended stays so while the window stays as it is. -/
theorem BallotBox.isVotingValid_later {box : BallotBox}
    {earlier later validSlotsAfterConsensus : ℕ}
    (ended : box.isVotingValid earlier validSlotsAfterConsensus ≠ .ok true) (le : earlier ≤ later) :
    box.isVotingValid later validSlotsAfterConsensus ≠ .ok true := by
  intro valid
  obtain ⟨noTie, window⟩ := isVotingValid_eq_ok_true_iff.mp valid
  refine ended (isVotingValid_eq_ok_true_iff.mpr ⟨noTie, fun reached => ?_⟩)
  obtain ⟨fits, early⟩ := window reached
  exact ⟨fits, le.trans early⟩

variable {spl : SplMath} {rentCost : ℕ}

/-- Before anything is routed the ledger suits every ballot box. -/
def BaseLedger.Unrouted (spl : SplMath) (rentCost : ℕ) (ledger : BaseLedger) : Prop :=
  ∀ box winningBallot, box.Reachable spl → box.getWinningBallotTally = .ok winningBallot →
    ledger.Sound spl box winningBallot rentCost

/-- A routing was let through by a ballot box with a winner. -/
theorem BaseLedger.process_routeBaseRewards_eq_ok {ledger later : BaseLedger} {fees : Fees}
    {box : BallotBox} {currentSlot validSlotsAfterConsensus maxIterations : ℕ}
    (processed : ledger.process spl rentCost (.routeBaseRewards fees box currentSlot
      validSlotsAfterConsensus maxIterations) = .ok later) :
    box.isVotingValid currentSlot validSlotsAfterConsensus = .ok false ∧
      ∃ winningBallot, box.getWinningBallotTally = .ok winningBallot := by
  obtain ⟨router, routed, -⟩ := bind_eq_ok.mp processed
  obtain ⟨votingValid, valid, routed⟩ := bind_eq_ok.mp (mapError_eq_ok.mp routed)
  cases votingValid with
  | true => cases routed
  | false =>
    obtain ⟨started, -, routed⟩ := bind_eq_ok.mp routed
    obtain ⟨winningBallot, tallied, -⟩ := bind_eq_ok.mp routed
    exact ⟨valid, winningBallot, tallied⟩

namespace PhaseAccounts

variable {accounts next : PhaseAccounts} {clock : Clock} {instruction : PhaseInstruction}

/-- What a successful instruction does to the three accounts that decide about
voting and routing. -/
inductive Effect (spl : SplMath) (rentCost : ℕ) (accounts next : PhaseAccounts) (clock : Clock) :
    PhaseInstruction → Prop
  | castVote {operator voter operatorAdmin : Pubkey} {epochSnapshot : EpochSnapshot}
      {operatorSnapshot : OperatorSnapshot} {metaMerkleRoot : Bytes32} {voted : BallotBox}
      (cast : accounts.voting.ballotBox.castVote operator (.new metaMerkleRoot)
        operatorSnapshot.stakeWeights clock.slot accounts.config.validSlotsAfterConsensus =
          .ok voted)
      (tallied : voted.tallyVotes spl epochSnapshot.stakeWeights.stakeWeight clock.slot =
        .ok next.voting.ballotBox)
      (config : next.config = accounts.config) (ledger : next.ledger = accounts.ledger) :
      Effect spl rentCost accounts next clock
        (.castVote operator voter operatorAdmin epochSnapshot operatorSnapshot metaMerkleRoot)
  | adminSetTieBreaker {tieBreakerAdmin : Pubkey} {metaMerkleRoot : Bytes32}
      (set : accounts.voting.ballotBox.setTieBreakerBallot metaMerkleRoot clock.epoch
        accounts.config.epochsBeforeStall = .ok next.voting.ballotBox)
      (config : next.config = accounts.config) (ledger : next.ledger = accounts.ledger) :
      Effect spl rentCost accounts next clock (.adminSetTieBreaker tieBreakerAdmin metaMerkleRoot)
  | adminSetParameters {ncn restakingAdmin ncnAdmin : Pubkey} {parameters : AdminParameters}
      (window : next.config.validSlotsAfterConsensus =
        parameters.validSlotsAfterConsensus.getD accounts.config.validSlotsAfterConsensus)
      (voting : next.voting = accounts.voting) (ledger : next.ledger = accounts.ledger) :
      Effect spl rentCost accounts next clock
        (.adminSetParameters ncn restakingAdmin ncnAdmin parameters)
  | routed {epochSnapshot : EpochSnapshot} {maxIterations : ℕ}
      (routed : accounts.ledger.process spl rentCost (.routeBaseRewards epochSnapshot.fees
        accounts.voting.ballotBox clock.slot accounts.config.validSlotsAfterConsensus
        maxIterations) = .ok next.ledger)
      (config : next.config = accounts.config)
      (ballotBox : next.voting.ballotBox = accounts.voting.ballotBox) :
      Effect spl rentCost accounts next clock (.routeBaseRewards epochSnapshot maxIterations)
  | moved {instruction : PhaseInstruction} (transfer : BaseInstruction)
      (isTransfer : ∀ box, transfer.Against box)
      (processed : accounts.ledger.process spl rentCost transfer = .ok next.ledger)
      (config : next.config = accounts.config)
      (ballotBox : next.voting.ballotBox = accounts.voting.ballotBox)
      (neither : instruction.isCastVote = false ∧ instruction.isRouteBaseRewards = false) :
      Effect spl rentCost accounts next clock instruction

theorem finishDistribution_eq_ok {ledger : BaseLedger} {updated : Except TipRouterError EpochState}
    (finished : accounts.finishDistribution ledger updated = .ok next) :
    next.ledger = ledger ∧ next.config = accounts.config ∧
      next.voting.ballotBox = accounts.voting.ballotBox := by
  obtain ⟨epochState, -, same⟩ := bind_eq_ok.mp finished
  cases same
  exact ⟨rfl, rfl, rfl⟩

theorem process_effect (processed : accounts.process spl rentCost (clock, instruction) = .ok next) :
    Effect spl rentCost accounts next clock instruction := by
  cases instruction with
  | castVote operator voter operatorAdmin epochSnapshot operatorSnapshot metaMerkleRoot =>
    obtain ⟨voting, cast, same⟩ := bind_eq_ok.mp processed
    cases same
    obtain ⟨voted, votes, counts, -⟩ := VotingAccounts.processCastVote_calls (mapError_eq_ok.mp cast)
    exact .castVote votes counts rfl rfl
  | adminSetTieBreaker tieBreakerAdmin metaMerkleRoot =>
    obtain ⟨voting, set, same⟩ := bind_eq_ok.mp processed
    cases same
    have chosen := mapError_eq_ok.mp set
    unfold VotingAccounts.processAdminSetTieBreaker at chosen
    split at chosen
    · cases chosen
    obtain ⟨decided, sets, same⟩ := bind_eq_ok.mp chosen
    cases same
    exact .adminSetTieBreaker sets rfl rfl
  | adminSetParameters ncn restakingAdmin ncnAdmin parameters =>
    obtain ⟨config, set, same⟩ := bind_eq_ok.mp processed
    cases same
    obtain ⟨rfl, -⟩ := Config.processAdminSetParameters_eq_ok (mapError_eq_ok.mp set)
    exact .adminSetParameters rfl rfl rfl
  | deposit lamports =>
    obtain ⟨ledger, deposited, same⟩ := bind_eq_ok.mp processed
    cases same
    exact .moved (.deposit lamports) (fun _ => trivial) deposited rfl rfl ⟨rfl, rfl⟩
  | routeBaseRewards epochSnapshot maxIterations =>
    obtain ⟨ledger, routed, same⟩ := bind_eq_ok.mp processed
    cases same
    exact .routed routed rfl rfl
  | distributeBaseRewards baseFeeGroup =>
    obtain ⟨⟨rewards, router⟩, taken, processed⟩ := bind_eq_ok.mp processed
    obtain ⟨ledger, sent, finished⟩ := bind_eq_ok.mp processed
    obtain ⟨rfl, config, ballotBox⟩ := finishDistribution_eq_ok finished
    exact .moved (.distributeBaseRewards baseFeeGroup) (fun _ => trivial)
      (bind_eq_ok.mpr ⟨_, taken, sent⟩) config ballotBox ⟨rfl, rfl⟩
  | distributeBaseNcnRewardRoute ncnFeeGroup operator =>
    obtain ⟨⟨rewards, router⟩, taken, processed⟩ := bind_eq_ok.mp processed
    obtain ⟨ledger, sent, finished⟩ := bind_eq_ok.mp processed
    obtain ⟨rfl, config, ballotBox⟩ := finishDistribution_eq_ok finished
    exact .moved (.distributeBaseNcnRewardRoute ncnFeeGroup operator) (fun _ => trivial)
      (bind_eq_ok.mpr ⟨_, taken, sent⟩) config ballotBox ⟨rfl, rfl⟩

/-! ## The two phases -/

/-- The ballot box is one that calls of loaded operators lead to. -/
theorem reachable_of_process (reachable : accounts.voting.ballotBox.Reachable spl)
    (loaded : instruction.Loaded)
    (processed : accounts.process spl rentCost (clock, instruction) = .ok next) :
    next.voting.ballotBox.Reachable spl := by
  cases process_effect processed with
  | castVote cast tallied config ledger =>
    have voted := @BallotBox.Reachable.apply _ _ _ (.castVote _ _ _ _ _) reachable loaded.1
      loaded.2 cast
    exact @BallotBox.Reachable.apply _ _ _ (.tallyVotes _ _) voted trivial trivial tallied
  | adminSetTieBreaker set config ledger =>
    exact @BallotBox.Reachable.apply _ _ _ (.setTieBreakerBallot _ _ _) reachable trivial trivial
      set
  | adminSetParameters window voting ledger =>
    rw [voting]
    exact reachable
  | routed routed config ballotBox =>
    rw [ballotBox]
    exact reachable
  | moved transfer isTransfer processed config ballotBox neither =>
    rw [ballotBox]
    exact reachable

/-- Voting has ended from some slot on, and the ledger was routed with the ballot box. -/
structure VotingOver (spl : SplMath) (rentCost : ℕ) (slot : ℕ) (accounts : PhaseAccounts) : Prop where
  ended : accounts.voting.ballotBox.isVotingValid slot accounts.config.validSlotsAfterConsensus ≠
    .ok true
  sound : ∃ winningBallot, accounts.voting.ballotBox.getWinningBallotTally = .ok winningBallot ∧
    accounts.ledger.Sound spl accounts.voting.ballotBox winningBallot rentCost

section Steps
variable (documented : spl.Documented)
include documented

/-- Until something is routed, nothing that is not a routing makes a difference. -/
theorem unrouted_of_process (unrouted : accounts.ledger.Unrouted spl rentCost)
    (other : instruction.isRouteBaseRewards = false)
    (processed : accounts.process spl rentCost (clock, instruction) = .ok next) :
    next.ledger.Unrouted spl rentCost := by
  cases process_effect processed with
  | castVote cast tallied config ledger =>
    rw [ledger]
    exact unrouted
  | adminSetTieBreaker set config ledger =>
    rw [ledger]
    exact unrouted
  | adminSetParameters window voting ledger =>
    rw [ledger]
    exact unrouted
  | routed routed config ballotBox => cases other
  | moved transfer isTransfer processed config ballotBox neither =>
    intro box winningBallot reachable tallied
    exact (unrouted box winningBallot reachable tallied).process documented reachable.voted tallied
      reachable (isTransfer box) processed

/-- The first routing ends voting. -/
theorem votingOver_of_route {epochSnapshot : EpochSnapshot} {maxIterations : ℕ}
    (reachable : accounts.voting.ballotBox.Reachable spl)
    (unrouted : accounts.ledger.Unrouted spl rentCost)
    (processed : accounts.process spl rentCost
      (clock, .routeBaseRewards epochSnapshot maxIterations) = .ok next) :
    next.VotingOver spl rentCost clock.slot := by
  cases process_effect processed with
  | moved transfer isTransfer processed config ballotBox neither => cases neither.2
  | routed routed config ballotBox =>
    obtain ⟨ended, winningBallot, tallied⟩ := BaseLedger.process_routeBaseRewards_eq_ok routed
    refine ⟨?_, winningBallot, ?_, ?_⟩
    · rw [config, ballotBox, ended]
      simp
    · rw [ballotBox, tallied]
    · have against : (BaseInstruction.routeBaseRewards epochSnapshot.fees
          accounts.voting.ballotBox clock.slot accounts.config.validSlotsAfterConsensus
          maxIterations).Against accounts.voting.ballotBox := rfl
      rw [ballotBox]
      exact (unrouted _ winningBallot reachable tallied).process documented reachable.voted tallied
        reachable against routed

/-- From then on no vote is cast and the ballot box stays as it is, unless a change
of the parameters makes voting valid again. -/
theorem VotingOver.process {slot : ℕ} (reachable : accounts.voting.ballotBox.Reachable spl)
    (votingOver : accounts.VotingOver spl rentCost slot) (ordered : slot ≤ clock.slot)
    (keeps : instruction.KeepsVotingOver accounts clock)
    (processed : accounts.process spl rentCost (clock, instruction) = .ok next) :
    instruction.isCastVote = false ∧ next.voting.ballotBox = accounts.voting.ballotBox ∧
      next.VotingOver spl rentCost clock.slot := by
  have ended := BallotBox.isVotingValid_later votingOver.ended ordered
  obtain ⟨winningBallot, tallied, sound⟩ := votingOver.sound
  cases process_effect processed with
  | castVote cast counted config ledger =>
    exact absurd (BallotBox.castVote_eq_ok_iff.mp cast).1 ended
  | adminSetTieBreaker set config ledger =>
    have undecided := (BallotBox.setTieBreakerBallot_cases set).1
    refine absurd (BallotBox.isVotingValid_eq_ok_true_iff.mpr ⟨?_, fun reached => ?_⟩) ended
    · obtain ⟨unset, invalid⟩ := BallotBox.isConsensusReached_eq_false_iff.mp undecided
      rw [BallotBox.tieBreakerSet, invalid, Bool.and_false]
    · rw [undecided] at reached
      cases reached
  | adminSetParameters window voting ledger =>
    refine ⟨rfl, by rw [voting], ?_, winningBallot, ?_, ?_⟩
    · rw [voting, window]
      cases given : AdminParameters.validSlotsAfterConsensus _ with
      | none => exact ended
      | some validSlotsAfterConsensus => exact keeps validSlotsAfterConsensus given
    · rw [voting, tallied]
    · rw [voting, ledger]
      exact sound
  | @routed epochSnapshot maxIterations routed config ballotBox =>
    have against : (BaseInstruction.routeBaseRewards epochSnapshot.fees
        accounts.voting.ballotBox clock.slot accounts.config.validSlotsAfterConsensus
        maxIterations).Against accounts.voting.ballotBox := rfl
    refine ⟨rfl, ballotBox, ?_, winningBallot, ?_, ?_⟩
    · rw [config, ballotBox]
      exact ended
    · rw [ballotBox, tallied]
    · rw [ballotBox]
      exact sound.process documented reachable.voted tallied reachable against routed
  | moved transfer isTransfer processed config ballotBox neither =>
    refine ⟨neither.1, ballotBox, ?_, winningBallot, ?_, ?_⟩
    · rw [config, ballotBox]
      exact ended
    · rw [ballotBox, tallied]
    · rw [ballotBox]
      exact sound.process documented reachable.voted tallied reachable (isTransfer _) processed

end Steps

/-! ## Whole runs -/

theorem VotingOver.later {slot slot' : ℕ} (votingOver : accounts.VotingOver spl rentCost slot)
    (le : slot ≤ slot') : accounts.VotingOver spl rentCost slot' :=
  ⟨BallotBox.isVotingValid_later votingOver.ended le, votingOver.sound⟩

/-- An interrupted routing goes on. -/
theorem VotingOver.resumes {slot : ℕ} (votingOver : accounts.VotingOver spl rentCost slot)
    (interrupted : accounts.ledger.router.stillRouting = true) (epochSnapshot : EpochSnapshot)
    (maxIterations : ℕ)
    (ended : accounts.voting.ballotBox.isVotingValid clock.slot
      accounts.config.validSlotsAfterConsensus = .ok false) :
    ∃ next, accounts.process spl rentCost (clock, .routeBaseRewards epochSnapshot maxIterations) =
      .ok next := by
  obtain ⟨winningBallot, tallied, sound⟩ := votingOver.sound
  rcases sound.recoverable with settled | ⟨out, saved, settled⟩
  · rw [settled.idle] at interrupted
    cases interrupted
  · obtain ⟨router, routed, -⟩ := BaseRewardRouter.Recoverable.routeNcnFeeGroupRewards tallied
      saved.completes settled maxIterations
    refine ⟨_, bind_eq_ok.mpr ⟨_, bind_eq_ok.mpr ⟨router, mapError_eq_ok.mpr ?_, rfl⟩, rfl⟩⟩
    rw [BaseRewardRouter.processRouteBaseRewards, ended, ok_bind, if_neg Bool.false_ne_true,
      BaseRewardRouter.startRouting, if_pos interrupted, ok_bind, routed]

/-- After a routing the parameters are only changed so that voting stays over. -/
def VotingStaysOver (spl : SplMath) (rentCost : ℕ) (start : PhaseAccounts)
    (history : List (Clock × PhaseInstruction)) : Prop :=
  ∀ past clock instruction rest before, history = past ++ (clock, instruction) :: rest →
    Routed past → run (process spl rentCost) past start = .ok before →
    instruction.KeepsVotingOver before clock

/-- Where a run stands: nothing is routed yet, or voting has ended. -/
structure InPhase (spl : SplMath) (rentCost : ℕ) (past : List (Clock × PhaseInstruction))
    (accounts : PhaseAccounts) : Prop where
  reachable : accounts.voting.ballotBox.Reachable spl
  unrouted : ¬ Routed past → accounts.ledger.Unrouted spl rentCost
  votingOver : Routed past → ∀ slot, (∀ timed ∈ past, timed.1.slot ≤ slot) →
    accounts.VotingOver spl rentCost slot

section Runs
variable {config : Config} {epochState : EpochState} {ncn : Pubkey} {epoch bump slotCreated : ℕ}
variable {history past rest : List (Clock × PhaseInstruction)} {middle finish : PhaseAccounts}

theorem start_inPhase :
    InPhase spl rentCost [] (start config epochState ncn epoch bump slotCreated rentCost) where
  reachable := BallotBox.new_reachable ncn epoch bump slotCreated
  unrouted _ _ _ _ _ := BaseLedger.start_sound ncn epoch bump slotCreated rentCost
  votingOver := fun ⟨_, member, _⟩ => absurd member List.not_mem_nil

section Conditions
variable (documented : spl.Documented) (loaded : ∀ timed ∈ history, timed.2.Loaded)
variable (ordered : history.Pairwise fun earlier later => earlier.1.slot ≤ later.1.slot)
variable (stays : VotingStaysOver spl rentCost
  (start config epochState ncn epoch bump slotCreated rentCost) history)
include documented loaded ordered stays

theorem run_inPhase (split : history = past ++ rest)
    (ran : run (process spl rentCost) past
      (start config epochState ncn epoch bump slotCreated rentCost) = .ok finish) :
    InPhase spl rentCost past finish := by
  refine run_prefix_induction start_inPhase ?_ split ran
  intro past middle timed rest next split reached phase processed
  obtain ⟨clock, instruction⟩ := timed
  have member : (clock, instruction) ∈ history := by
    rw [split]
    exact List.mem_append_right _ List.mem_cons_self
  have late : ∀ earlier ∈ past, earlier.1.slot ≤ clock.slot := by
    intro earlier inPast
    rw [split, List.pairwise_append] at ordered
    exact ordered.2.2 earlier inPast _ List.mem_cons_self
  refine ⟨reachable_of_process phase.reachable (loaded _ member) processed, fun unrouted => ?_,
    fun routed slot after => ?_⟩
  · have before : ¬ Routed past := fun ⟨earlier, inPast, routes⟩ =>
      unrouted ⟨earlier, List.mem_append_left _ inPast, routes⟩
    refine unrouted_of_process documented (phase.unrouted before) ?_ processed
    exact Bool.eq_false_iff.mpr fun routes =>
      unrouted ⟨_, List.mem_append_right _ List.mem_cons_self, routes⟩
  · have here : clock.slot ≤ slot := after _ (List.mem_append_right _ List.mem_cons_self)
    by_cases before : Routed past
    · have votingOver := phase.votingOver before clock.slot late
      obtain ⟨-, -, still⟩ := votingOver.process documented phase.reachable le_rfl
        (stays past clock instruction rest middle split before reached) processed
      exact still.later here
    · obtain ⟨timed, inHistory, routes⟩ := routed
      rcases List.mem_append.mp inHistory with inPast | last
      · exact absurd ⟨timed, inPast, routes⟩ before
      · rw [List.mem_singleton.mp last] at routes
        cases instruction with
        | routeBaseRewards epochSnapshot maxIterations =>
          exact (votingOver_of_route documented phase.reachable (phase.unrouted before)
            processed).later here
        | castVote | adminSetTieBreaker | adminSetParameters | deposit | distributeBaseRewards
        | distributeBaseNcnRewardRoute => cases routes

end Conditions

/-- Once something is routed no vote is cast any more, every later routing reads
the same ballot box, and an interrupted routing can go on, as long as no change of
the parameters makes voting valid again. -/
theorem no_vote_after_routing (documented : spl.Documented)
    (loaded : ∀ timed ∈ past ++ rest, timed.2.Loaded)
    (ordered : (past ++ rest).Pairwise fun earlier later => earlier.1.slot ≤ later.1.slot)
    (stays : VotingStaysOver spl rentCost
      (start config epochState ncn epoch bump slotCreated rentCost) (past ++ rest))
    (ranPast : run (process spl rentCost) past
      (start config epochState ncn epoch bump slotCreated rentCost) = .ok middle)
    (routed : Routed past) (ranRest : run (process spl rentCost) rest middle = .ok finish) :
    (∀ timed ∈ rest, timed.2.isCastVote = false) ∧
      finish.voting.ballotBox = middle.voting.ballotBox ∧
      (finish.ledger.router.stillRouting = true → ∀ clock epochSnapshot maxIterations,
        finish.voting.ballotBox.isVotingValid clock.slot finish.config.validSlotsAfterConsensus =
          .ok false →
        ∃ next, finish.process spl rentCost
          (clock, .routeBaseRewards epochSnapshot maxIterations) = .ok next) := by
  have phase : ∀ steps later accounts, rest = steps ++ later →
      run (process spl rentCost) steps middle = .ok accounts →
      InPhase spl rentCost (past ++ steps) accounts := by
    intro steps later accounts split ran
    refine run_inPhase documented loaded ordered stays
      (show past ++ rest = past ++ steps ++ later by rw [split, List.append_assoc]) ?_
    rw [run_append, ranPast, ok_bind, ran]
  have stillRouted : ∀ steps, Routed (past ++ steps) := fun steps =>
    let ⟨timed, inPast, routes⟩ := routed
    ⟨timed, List.mem_append_left _ inPast, routes⟩
  obtain ⟨noVote, sameBox⟩ : (∀ timed ∈ rest, timed.2.isCastVote = false) ∧
      finish.voting.ballotBox = middle.voting.ballotBox := by
    refine run_split_induction
      (motive := fun steps accounts => (∀ timed ∈ steps, timed.2.isCastVote = false) ∧
        accounts.voting.ballotBox = middle.voting.ballotBox)
      ⟨fun _ member => absurd member List.not_mem_nil, rfl⟩ ?_ ranRest
    rintro steps accounts ⟨clock, instruction⟩ later next split before ⟨noVote, sameBox⟩ processed
    have inPhase := phase steps _ accounts split before
    have late : ∀ earlier ∈ past ++ steps, earlier.1.slot ≤ clock.slot := by
      intro earlier member
      rw [split, ← List.append_assoc, List.pairwise_append] at ordered
      exact ordered.2.2 earlier member _ List.mem_cons_self
    have keeps := stays (past ++ steps) clock instruction later accounts
      (by rw [split, List.append_assoc]) (stillRouted steps)
      (by rw [run_append, ranPast, ok_bind, before])
    obtain ⟨other, same, -⟩ := (inPhase.votingOver (stillRouted steps) clock.slot late).process
      documented inPhase.reachable le_rfl keeps processed
    refine ⟨fun timed member => ?_, same.trans sameBox⟩
    rcases List.mem_append.mp member with earlier | last
    · exact noVote timed earlier
    · rw [List.mem_singleton.mp last]
      exact other
  refine ⟨noVote, sameBox, fun interrupted clock epochSnapshot maxIterations ended => ?_⟩
  have inPhase := phase rest [] finish (List.append_nil rest).symm ranRest
  obtain ⟨slot, after⟩ : ∃ slot, ∀ timed ∈ past ++ rest, timed.1.slot ≤ slot :=
    ⟨((past ++ rest).map fun timed => timed.1.slot).sum, fun timed member =>
      List.single_le_sum (fun _ _ => Nat.zero_le _) _ (List.mem_map_of_mem member)⟩
  exact (inPhase.votingOver (stillRouted rest) slot after).resumes interrupted epochSnapshot
    maxIterations ended

end Runs

/-! ## A window that grows -/

/-- One of three operators, with 70, 20 and 10 of the weight, votes. -/
def operatorVotes (number : UInt8) (weight : ℕ) : PhaseInstruction :=
  .castVote ⟨Vector.replicate 32 number⟩ .default .default (.ofOne (.inDefaultGroup 100))
    (.ofOne (.inDefaultGroup weight)) (Vector.replicate 32 7)

def routeUpTo (maxIterations : ℕ) : PhaseInstruction :=
  .routeBaseRewards { EpochSnapshot.ofOne (.inDefaultGroup 100) with fees := .sample } maxIterations

def setWindow (validSlotsAfterConsensus : ℕ) : PhaseInstruction :=
  .adminSetParameters .default .default .default ⟨none, none, none, some validSlotsAfterConsensus⟩

def fresh : PhaseAccounts :=
  start {
    ncn := .default
    tieBreakerAdmin := .default
    feeAdmin := .default
    validSlotsAfterConsensus := 1500
    epochsBeforeStall := 10
    feeConfig := .sample
    bump := 255
    epochsAfterConsensusBeforeClose := 10
    startingValidEpoch := 0 } (EpochState.zeroed.initializeState .default 3 255 4) .default 3 255 4 890880

/-- Two operators vote, and routing is interrupted after the first of them. -/
def interruptedRouting : List (Clock × PhaseInstruction) :=
  [(⟨5, 0⟩, operatorVotes 1 70), (⟨6, 0⟩, operatorVotes 2 20), (⟨7, 0⟩, .deposit 1001),
    (⟨1506, 0⟩, routeUpTo 1)]

theorem operatorVotes_loaded {number : UInt8} {weight : ℕ}
    (operator : (⟨Vector.replicate 32 number⟩ : Pubkey) ≠ .default) (small : weight < 2 ^ 128) :
    (operatorVotes number weight).Loaded :=
  ⟨operator, StakeWeights.inDefaultGroup_fits small⟩

theorem interruptedRouting_loaded : ∀ timed ∈ interruptedRouting, timed.2.Loaded := by
  intro timed member
  simp only [interruptedRouting, List.mem_cons, List.not_mem_nil, or_false] at member
  rcases member with rfl | rfl | rfl | rfl
  · exact operatorVotes_loaded (by decide) (by norm_num)
  · exact operatorVotes_loaded (by decide) (by norm_num)
  · trivial
  · trivial

theorem interruptedRouting_routed : Routed interruptedRouting :=
  ⟨(⟨1506, 0⟩, routeUpTo 1), by simp [interruptedRouting], rfl⟩

/-- A window that has passed as well changes nothing. -/
theorem no_vote_after_routing_with_smaller_window :
    ∃ middle finish : PhaseAccounts, middle.ledger.router.stillRouting = true ∧
      finish.config.validSlotsAfterConsensus = 1200 ∧
      finish.voting.ballotBox = middle.voting.ballotBox := by
  have runs : (do
      let middle ← run (process .u256 890880) interruptedRouting fresh
      let finish ← run (process .u256 890880)
        [(⟨1507, 0⟩, setWindow 1200), (⟨1508, 0⟩, routeUpTo 1)] middle
      return (middle, finish)).toOption.any (fun result : PhaseAccounts × PhaseAccounts =>
        result.1.ledger.router.stillRouting &&
          result.1.voting.ballotBox.isVotingValid 1507 1200 == Except.ok false &&
          result.2.config.validSlotsAfterConsensus == 1200) = true := by
    decide +kernel
  obtain ⟨⟨middle, finish⟩, both, test⟩ := exists_of_any runs
  obtain ⟨_, ranPast, both⟩ := bind_eq_ok.mp both
  obtain ⟨_, ranRest, same⟩ := bind_eq_ok.mp both
  cases same
  simp only [Bool.and_eq_true, beq_iff_eq] at test
  obtain ⟨⟨interrupted, ended⟩, window⟩ := test
  refine ⟨middle, finish, interrupted, window, (no_vote_after_routing SplMath.u256_documented
    (fun timed member => ?_) (by simp [interruptedRouting]) ?_ ranPast interruptedRouting_routed
    ranRest).2.1⟩
  · rcases List.mem_append.mp member with earlier | later
    · exact interruptedRouting_loaded timed earlier
    · simp only [List.mem_cons, List.not_mem_nil, or_false] at later
      rcases later with rfl | rfl
      · trivial
      · trivial
  · intro past clock instruction rest before split routed ran
    simp only [interruptedRouting, List.cons_append, List.nil_append, List.cons_eq_append_iff,
      List.cons.injEq, Prod.mk.injEq, List.nil_eq_append_iff, reduceCtorEq, and_false, exists_false,
      or_false] at split
    rcases split with ⟨-, ⟨-, rfl⟩, -⟩ | ⟨_, rfl, ⟨-, ⟨-, rfl⟩, -⟩ | ⟨_, rfl, ⟨-, ⟨-, rfl⟩, -⟩ |
      ⟨_, rfl, ⟨-, ⟨-, rfl⟩, -⟩ | ⟨_, rfl, ⟨rfl, ⟨rfl, rfl⟩, -⟩ | ⟨_, -, -, ⟨-, rfl⟩, -⟩⟩⟩⟩⟩
    · trivial
    · trivial
    · trivial
    · trivial
    · intro validSlotsAfterConsensus given
      cases given
      cases ran.symm.trans ranPast
      rw [ended]
      simp
    · trivial

/-- A larger window lets another operator vote after routing has started: the
winning tally grows, and the interrupted routing fails from then on. -/
theorem larger_window_reopens_voting :
    ∃ (past rest : List (Clock × PhaseInstruction)) (middle finish : PhaseAccounts),
      (∀ timed ∈ past ++ rest, timed.2.Loaded) ∧
      (past ++ rest).Pairwise (fun earlier later => earlier.1.slot ≤ later.1.slot) ∧
      run (process .u256 890880) past fresh = .ok middle ∧ Routed past ∧
      run (process .u256 890880) rest middle = .ok finish ∧
      (∃ timed ∈ rest, timed.2.isCastVote = true) ∧
      finish.voting.ballotBox ≠ middle.voting.ballotBox ∧
      finish.ledger.router.stillRouting = true ∧
      finish.voting.ballotBox.isVotingValid 2100 finish.config.validSlotsAfterConsensus =
        .ok false ∧
      finish.process .u256 890880 (⟨2100, 0⟩, routeUpTo 100) =
        .error (.program .arithmeticUnderflowError) := by
  have runs : (do
      let middle ← run (process .u256 890880) interruptedRouting fresh
      let finish ← run (process .u256 890880)
        [(⟨1507, 0⟩, setWindow 2000), (⟨1508, 0⟩, operatorVotes 3 10)] middle
      return (middle, finish)).toOption.any (fun result : PhaseAccounts × PhaseAccounts =>
        result.2.voting.ballotBox != result.1.voting.ballotBox &&
          result.2.ledger.router.stillRouting &&
          result.2.voting.ballotBox.isVotingValid 2100 result.2.config.validSlotsAfterConsensus ==
            Except.ok false &&
          result.2.process .u256 890880 (⟨2100, 0⟩, routeUpTo 100) ==
            Except.error (TransactionError.program .arithmeticUnderflowError)) = true := by
    decide +kernel
  obtain ⟨⟨middle, finish⟩, both, test⟩ := exists_of_any runs
  obtain ⟨_, ranPast, both⟩ := bind_eq_ok.mp both
  obtain ⟨_, ranRest, same⟩ := bind_eq_ok.mp both
  cases same
  simp only [Bool.and_eq_true, beq_iff_eq, bne_iff_ne] at test
  obtain ⟨⟨⟨changed, interrupted⟩, ended⟩, fails⟩ := test
  refine ⟨interruptedRouting, _, middle, finish, fun timed member => ?_,
    by simp [interruptedRouting], ranPast, interruptedRouting_routed, ranRest,
    ⟨_, List.mem_cons_of_mem _ List.mem_cons_self, rfl⟩, changed, interrupted, ended, fails⟩
  rcases List.mem_append.mp member with earlier | later
  · exact interruptedRouting_loaded timed earlier
  · simp only [List.mem_cons, List.not_mem_nil, or_false] at later
    rcases later with rfl | rfl
    · trivial
    · exact operatorVotes_loaded (by decide) (by norm_num)

end PhaseAccounts

end TipRouter
