import TipRouter.EpochElectorate

/-! Agreement on the root of an epoch. Whatever the other operators do and in whatever
order the instructions come, honest operators with more than a third of the weight
keep any root but theirs from winning by votes, and with two thirds their votes decide.
The winner is final, and every root set in the epoch is proved against it. -/
namespace TipRouter
open Runs Quorums

/-! ## What operators vote for -/

/-- The operators vote for one root only. -/
def Loyal (honest : Finset Pubkey) (root : Bytes32)
    (history : List (Context × EpochInstruction)) : Prop :=
  ∀ operator ∈ honest, ∀ other slot validSlotsAfterConsensus,
    .castVote operator other slot validSlotsAfterConsensus ∈ ballotRequests history → other = root

def AllVoted (honest : Finset Pubkey) (history : List (Context × EpochInstruction)) : Prop :=
  ∀ operator ∈ honest, ∃ root slot validSlotsAfterConsensus,
    .castVote operator root slot validSlotsAfterConsensus ∈ ballotRequests history

namespace EpochAccounts

variable {runtime : Runtime} {indexOf : Pubkey → ℕ} {accounts next finish : EpochAccounts}
variable {electorate : Electorate} {box later : BallotBox} {snapshot : EpochSnapshot}
variable {ncn : Pubkey} {epoch : ℕ} {history : List (Context × EpochInstruction)}

/-- What the operators weigh that have a snapshot. -/
def snapshotWeight (self : EpochAccounts) (operators : Finset Pubkey) : ℕ :=
  ∑ operator ∈ operators, (self.operatorSnapshots operator).weight .total

/-- Nobody weighs more than its part of the electorate. -/
theorem Elects.snapshotWeight_le (elects : accounts.Elects electorate) (honest : Finset Pubkey) :
    accounts.snapshotWeight honest ≤
      ∑ operator ∈ honest.filter (· ∈ electorate.operators), electorate.weight operator := by
  rw [snapshotWeight, Finset.sum_filter]
  refine Finset.sum_le_sum fun operator _ => ?_
  cases account : accounts.operatorSnapshots operator with
  | missing => exact Nat.zero_le _
  | allocated dataLen => exact Nat.zero_le _
  | ready data =>
    obtain ⟨member, weights⟩ := elects.members operator data account
    rw [if_pos member, Electorate.weight, weights]
    exact le_rfl

/-- A box that a run leads to is new, or counts the votes of the run. -/
theorem exists_counts (documented : runtime.spl.Documented) (distinct : Function.Injective indexOf)
    (indexed : ∀ timed ∈ history, timed.2.Indexed indexOf)
    (loads : ∀ timed ∈ history, timed.2.LoadsOperator)
    (ran : run (process runtime) history (absent ncn epoch) = .ok finish)
    (ready : finish.ballotBox = .ready box) :
    (ballotRequests history = [] ∧ ∃ bump slot, box = .new finish.ncn finish.epoch bump slot) ∨
      ∃ electorate, finish.Elects electorate ∧ box.Counts electorate (ballotRequests history) := by
  by_cases voted : ballotRequests history = []
  · exact .inl ⟨voted, (run_unvoted distinct indexed loads voted ran).2.box box ready⟩
  · obtain ⟨electorate, -, along⟩ := run_electorate documented distinct indexed loads voted ran
    obtain ⟨replays, elects⟩ := along history [] finish (List.append_nil _).symm ran
    obtain ⟨votes, bump, slot, requests, replayed⟩ := replays box ready
    rw [← requests]
    exact .inr ⟨electorate, elects voted, .run documented replayed⟩

/-- Operators too heavy for the rest keep every other root from winning. -/
theorem Elects.winner_eq {requests : List BallotRequest} {honest : Finset Pubkey} {root : Bytes32}
    (elects : accounts.Elects electorate) (counts : box.Counts electorate requests)
    (loyal : ∀ operator ∈ honest, ∀ other slot validSlotsAfterConsensus,
      .castVote operator other slot validSlotsAfterConsensus ∈ requests → other = root)
    (heavy : (10 ^ 12 - 666666666666) * electorate.totalStakeWeight <
      10 ^ 12 * accounts.snapshotWeight honest)
    (decided : box.slotConsensusReached ≠ defaultConsensusReachedSlot) :
    box.winningBallot.root = root := by
  have blocks : Blocks consensusThreshold electorate.weight electorate.operators
      (honest.filter (· ∈ electorate.operators)) := by
    have light := Nat.mul_le_mul_left (10 ^ 12) (elects.snapshotWeight_le honest)
    rw [← electorate.complete] at heavy
    exact heavy.trans_le light
  refine blocks.winner_eq (fun operator member => (Finset.mem_filter.mp member).2) ?_
    (counts.won_quorum decided)
  intro operator member other stands
  obtain ⟨slot, validSlots, voted⟩ := exists_vote_of_choices stands
  exact loyal operator (Finset.mem_filter.mp member).1 other slot validSlots voted

/-- Operators that are a quorum and have voted for one root have decided. -/
theorem Elects.decided_of_quorum {requests : List BallotRequest} {honest : Finset Pubkey}
    {root : Bytes32} (elects : accounts.Elects electorate)
    (counts : box.Counts electorate requests)
    (loyal : ∀ operator ∈ honest, ∀ other slot validSlotsAfterConsensus,
      .castVote operator other slot validSlotsAfterConsensus ∈ requests → other = root)
    (voted : ∀ operator ∈ honest, ∃ other slot validSlotsAfterConsensus,
      .castVote operator other slot validSlotsAfterConsensus ∈ requests)
    (heavy : 666666666666 * electorate.totalStakeWeight ≤
      10 ^ 12 * accounts.snapshotWeight honest) :
    box.isConsensusReached = true := by
  by_contra undecided
  refine counts.no_quorum (eq_false_of_ne_true undecided) root ?_
  have quorum : electorate.IsQuorum (honest.filter (· ∈ electorate.operators)) :=
    Electorate.isQuorum_iff.mpr
      (heavy.trans (Nat.mul_le_mul_left _ (elects.snapshotWeight_le honest)))
  refine IsQuorum.supporters quorum (fun operator member => (Finset.mem_filter.mp member).2) ?_
  intro operator member
  have trusted := (Finset.mem_filter.mp member).1
  obtain ⟨other, slot, validSlots, asked⟩ := voted operator trusted
  obtain ⟨chosen, stands⟩ := Option.ne_none_iff_exists'.mp (choices_ne_none asked)
  obtain ⟨slot, validSlots, asked⟩ := exists_vote_of_choices stands
  rw [stands, loyal operator trusted chosen slot validSlots asked]

/-- No interleaving of instructions makes a root win by votes that operators with more
than a third of the snapshot's weight do not vote for: if they only ever voted for one
root, the winner is that root. -/
theorem no_other_root_wins (runtime : Runtime) (documented : runtime.spl.Documented)
    (ncn : Pubkey) (epoch : ℕ) {indexOf : Pubkey → ℕ} (distinct : Function.Injective indexOf)
    {history : List (Context × EpochInstruction)}
    (indexed : ∀ timed ∈ history, timed.2.Indexed indexOf)
    (loads : ∀ timed ∈ history, timed.2.LoadsOperator) {finish : EpochAccounts}
    (ran : run (process runtime) history (absent ncn epoch) = .ok finish)
    {honest : Finset Pubkey} {root : Bytes32} (loyal : Loyal honest root history)
    {snapshot : EpochSnapshot} (final : finish.epochSnapshot = .ready snapshot)
    (heavy : (10 ^ 12 - 666666666666) * snapshot.stakeWeights.stakeWeight <
      10 ^ 12 * finish.snapshotWeight honest)
    {box : BallotBox} (ready : finish.ballotBox = .ready box)
    (decided : box.isConsensusReached = true) (byVotes : box.tieBreakerSet = false) :
    box.winningBallot.root = root := by
  rcases exists_counts documented distinct indexed loads ran ready with
    ⟨-, bump, slot, rfl⟩ | ⟨electorate, elects, counts⟩
  · cases decided
  · rw [BallotBox.isConsensusReached_of_noTie byVotes, bne_iff_ne] at decided
    rw [elects.total snapshot final] at heavy
    exact elects.winner_eq counts loyal heavy decided

/-- Two thirds decide: once operators with that much of the snapshot's weight have
voted, all for one root, consensus is reached, and unless the tie breaker stepped in
before them the winner is that root, whatever all others did. -/
theorem two_thirds_decide (runtime : Runtime) (documented : runtime.spl.Documented)
    (ncn : Pubkey) (epoch : ℕ) {indexOf : Pubkey → ℕ} (distinct : Function.Injective indexOf)
    {history : List (Context × EpochInstruction)}
    (indexed : ∀ timed ∈ history, timed.2.Indexed indexOf)
    (loads : ∀ timed ∈ history, timed.2.LoadsOperator) {finish : EpochAccounts}
    (ran : run (process runtime) history (absent ncn epoch) = .ok finish)
    {honest : Finset Pubkey} {root : Bytes32} (loyal : Loyal honest root history)
    (voted : AllVoted honest history) (someone : honest.Nonempty)
    {snapshot : EpochSnapshot} (final : finish.epochSnapshot = .ready snapshot)
    (heavy : 2 * snapshot.stakeWeights.stakeWeight ≤ 3 * finish.snapshotWeight honest)
    {box : BallotBox} (ready : finish.ballotBox = .ready box) :
    box.isConsensusReached = true ∧
      (box.tieBreakerSet = false → box.winningBallot.root = root) := by
  rcases exists_counts documented distinct indexed loads ran ready with
    ⟨none, -⟩ | ⟨electorate, elects, counts⟩
  · obtain ⟨operator, member⟩ := someone
    obtain ⟨other, slot, validSlots, asked⟩ := voted operator member
    rw [none] at asked
    cases asked
  · rw [elects.total snapshot final] at heavy
    have positive := electorate.positive
    have decided := elects.decided_of_quorum counts loyal voted (by omega)
    refine ⟨decided, fun byVotes => ?_⟩
    rw [BallotBox.isConsensusReached_of_noTie byVotes, bne_iff_ne] at decided
    exact elects.winner_eq counts loyal (by omega) decided

/-! ## Finality -/

/-- Once the box has a winner, every later box of the epoch keeps it. -/
theorem run_keepsWinner (documented : runtime.spl.Documented) (distinct : Function.Injective indexOf)
    (indexed : ∀ timed ∈ history, timed.2.Indexed indexOf) (regular : accounts.Regular indexOf)
    (elects : accounts.Elects electorate) (ready : accounts.ballotBox = .ready box)
    (elected : box.Elected electorate) (won : box.winningBallot.isValid = true)
    (ran : run (process runtime) history accounts = .ok finish)
    (still : finish.ballotBox = .ready later) : box.Decides later := by
  suffices along : finish.Regular indexOf ∧ finish.Elects electorate ∧
      ∀ later, finish.ballotBox = .ready later → later.Elected electorate ∧ box.Decides later from
    (along.2.2 later still).2
  refine foldlM_invariant (motive := fun state => state.Regular indexOf ∧ state.Elects electorate ∧
    ∀ later, state.ballotBox = .ready later → later.Elected electorate ∧ box.Decides later) ?_
    ⟨regular, elects, fun later same => ?_⟩ ran
  · rintro ⟨context, instruction⟩ member state next ⟨regular, elects, kept⟩ processed
    have own := indexed _ member
    have effect := process_effect processed
    refine ⟨regular.effect distinct own effect, elects.effect regular distinct own effect, ?_⟩
    intro after there
    obtain ⟨middle, here, step⟩ := elects.box_step regular processed there
    obtain ⟨electedMiddle, decides⟩ := kept middle here
    rcases step with ⟨-, rfl⟩ | ⟨vote, -, voted⟩
    · exact ⟨electedMiddle, decides⟩
    · obtain ⟨electedAfter, further⟩ := electedMiddle.process documented voted
      exact ⟨electedAfter, decides.trans (further (by rw [decides.winner, won]))⟩
  · cases ready.symm.trans same
    exact ⟨elected, .refl box⟩

theorem processSetMerkleRoot_eq_ok {context : Context} {tipDistributionAddress : Pubkey}
    {proof : List Bytes32} {merkleRoot : Bytes32} {maxTotalClaim maxNumNodes : UInt64}
    (processed : accounts.process runtime (context, .setMerkleRoot tipDistributionAddress proof
      merkleRoot maxTotalClaim maxNumNodes) = .ok next) :
    ∃ box, accounts.ballotBox = .ready box ∧ box.isConsensusReached = true ∧
      box.verifyMerkleRoot runtime.hashv tipDistributionAddress proof merkleRoot maxTotalClaim
        maxNumNodes = .ok () := by
  obtain ⟨epochState, -, processed⟩ := bind_eq_ok.mp processed
  obtain ⟨box, ready, processed⟩ := bind_eq_ok.mp processed
  split at processed
  · cases processed
  split at processed
  · cases processed
  rename_i decided
  obtain ⟨_, verified, -⟩ := bind_eq_ok.mp processed
  exact ⟨box, Account.load_eq_ok_iff.mp ready, by simpa using decided, lift_eq_ok_iff.mp verified⟩

/-- A state of a run whose ballot box has reached consensus. -/
def DecidedAfter (runtime : Runtime) (ncn : Pubkey) (epoch : ℕ)
    (past : List (Context × EpochInstruction)) (box : BallotBox) : Prop :=
  ∃ middle, run (process runtime) past (absent ncn epoch) = .ok middle ∧
    middle.ballotBox = .ready box ∧ box.isConsensusReached = true

section Finality
variable {past more other : List (Context × EpochInstruction)}

/-- What a box of the epoch has decided, every later one keeps. -/
theorem DecidedAfter.decides (documented : runtime.spl.Documented)
    (distinct : Function.Injective indexOf)
    (indexed : ∀ timed ∈ past ++ more, timed.2.Indexed indexOf)
    (loads : ∀ timed ∈ past ++ more, timed.2.LoadsOperator)
    (decided : DecidedAfter runtime ncn epoch past box) {last : EpochAccounts}
    (ran : run (process runtime) (past ++ more) (absent ncn epoch) = .ok last)
    (still : last.ballotBox = .ready later) :
    box.winningBallot.isValid = true ∧ box.Decides later := by
  obtain ⟨middle, reached, ready, consensus⟩ := decided
  have indexedPast : ∀ timed ∈ past, timed.2.Indexed indexOf :=
    fun timed member => indexed timed (List.mem_append_left _ member)
  rcases exists_counts documented distinct indexedPast
    (fun timed member => loads timed (List.mem_append_left _ member)) reached ready with
    ⟨-, bump, slot, rfl⟩ | ⟨electorate, elects, counts⟩
  · cases consensus
  have won : box.winningBallot.isValid = true := by
    by_contra invalid
    have slot : box.slotConsensusReached ≠ defaultConsensusReachedSlot := by
      simpa [BallotBox.isConsensusReached, eq_false_of_ne_true invalid] using consensus
    exact invalid (counts.won slot).1
  rw [run_append, reached, ok_bind] at ran
  exact ⟨won, run_keepsWinner documented distinct
    (fun timed member => indexed timed (List.mem_append_right _ member))
    (run_regular distinct indexedPast (.absent ncn epoch) reached) elects ready counts.elected won ran
    still⟩

/-- The winner of an earlier box is the winner of a later one. -/
theorem DecidedAfter.later_eq (documented : runtime.spl.Documented)
    (distinct : Function.Injective indexOf)
    (indexed : ∀ timed ∈ past ++ more, timed.2.Indexed indexOf)
    (loads : ∀ timed ∈ past ++ more, timed.2.LoadsOperator)
    (decided : DecidedAfter runtime ncn epoch past box)
    (decidedToo : DecidedAfter runtime ncn epoch (past ++ more) later) :
    later.winningBallot = box.winningBallot := by
  obtain ⟨last, ran, still, -⟩ := decidedToo
  exact (decided.decides documented distinct indexed loads ran still).2.winner

/-- Whatever two states of a run are taken, their winners are the same. -/
theorem DecidedAfter.winner_eq (documented : runtime.spl.Documented)
    (distinct : Function.Injective indexOf)
    (indexed : ∀ timed ∈ history, timed.2.Indexed indexOf)
    (loads : ∀ timed ∈ history, timed.2.LoadsOperator) {rest rest' : List (Context × EpochInstruction)}
    (split : history = past ++ rest) (splitToo : history = other ++ rest')
    (decided : DecidedAfter runtime ncn epoch past box)
    (decidedToo : DecidedAfter runtime ncn epoch other later) :
    later.winningBallot = box.winningBallot := by
  rcases List.append_eq_append_iff.mp (split.symm.trans splitToo) with
    ⟨more, rfl, -⟩ | ⟨more, rfl, -⟩
  · exact decided.later_eq documented distinct (fun timed member => indexed timed (by
      rw [splitToo]; exact List.mem_append_left _ member))
      (fun timed member => loads timed (by rw [splitToo]; exact List.mem_append_left _ member))
      decidedToo
  · exact (decidedToo.later_eq documented distinct (fun timed member => indexed timed (by
      rw [split]; exact List.mem_append_left _ member))
      (fun timed member => loads timed (by rw [split]; exact List.mem_append_left _ member))
      decided).symm

end Finality

/-- All roots set in an epoch are proved against one root: there is a single winner
for all states of the run, and every accepted upload is a leaf below it. -/
theorem uploads_prove_the_winner (runtime : Runtime) (documented : runtime.spl.Documented)
    (ncn : Pubkey) (epoch : ℕ) {indexOf : Pubkey → ℕ} (distinct : Function.Injective indexOf)
    {history : List (Context × EpochInstruction)}
    (indexed : ∀ timed ∈ history, timed.2.Indexed indexOf)
    (loads : ∀ timed ∈ history, timed.2.LoadsOperator) {finish : EpochAccounts}
    (ran : run (process runtime) history (absent ncn epoch) = .ok finish) :
    ∃ root : Bytes32,
      (∀ past rest middle box, history = past ++ rest →
        run (process runtime) past (absent ncn epoch) = .ok middle →
        middle.ballotBox = .ready box → box.isConsensusReached = true →
        box.winningBallot.root = root) ∧
      ∀ context tipDistributionAddress proof merkleRoot maxTotalClaim maxNumNodes,
        (context, .setMerkleRoot tipDistributionAddress proof merkleRoot maxTotalClaim
          maxNumNodes) ∈ history →
        verify runtime.hashv proof root (runtime.hashv [leafPrefix,
          ((TreeNode.new tipDistributionAddress merkleRoot maxTotalClaim maxNumNodes).hash
            runtime.hashv).toList]) = true := by
  have uploaded : ∀ context tipDistributionAddress proof merkleRoot maxTotalClaim maxNumNodes,
      (context, .setMerkleRoot tipDistributionAddress proof merkleRoot maxTotalClaim
        maxNumNodes) ∈ history → ∃ past rest box, history = past ++ rest ∧
          DecidedAfter runtime ncn epoch past box ∧
          box.verifyMerkleRoot runtime.hashv tipDistributionAddress proof merkleRoot maxTotalClaim
            maxNumNodes = .ok () := by
    intro context tipDistributionAddress proof merkleRoot maxTotalClaim maxNumNodes member
    obtain ⟨past, rest, split⟩ := List.append_of_mem member
    rw [split, run_append] at ran
    obtain ⟨middle, reached, ran⟩ := bind_eq_ok.mp ran
    obtain ⟨next, processed, -⟩ := bind_eq_ok.mp ran
    obtain ⟨box, ready, consensus, verified⟩ := processSetMerkleRoot_eq_ok processed
    exact ⟨past, _, box, split, ⟨middle, reached, ready, consensus⟩, verified⟩
  by_cases decided : ∃ past rest box, history = past ++ rest ∧
      DecidedAfter runtime ncn epoch past box
  · obtain ⟨first, after, winner, split, wins⟩ := decided
    refine ⟨winner.winningBallot.root, fun past rest middle box splitToo reached ready consensus => ?_,
      fun context tipDistributionAddress proof merkleRoot maxTotalClaim maxNumNodes member => ?_⟩
    · rw [wins.winner_eq documented distinct indexed loads split splitToo
        ⟨middle, reached, ready, consensus⟩]
    · obtain ⟨past, rest, box, splitToo, decided, verified⟩ := uploaded _ _ _ _ _ _ member
      rw [← wins.winner_eq documented distinct indexed loads split splitToo decided]
      exact BallotBox.verify_of_verifyMerkleRoot verified
  · refine ⟨Vector.replicate 32 0, fun past rest middle box split reached ready consensus => ?_,
      fun _ _ _ _ _ _ member => ?_⟩
    · exact absurd ⟨past, rest, box, split, middle, reached, ready, consensus⟩ decided
    · obtain ⟨past, rest, box, split, wins, -⟩ := uploaded _ _ _ _ _ _ member
      exact absurd ⟨past, rest, box, split, wins⟩ decided

/-! ### Two operators -/

/-- What is hashed to the root the first operator votes for. -/
def sameHashRuntime : Runtime := { sampleRuntime with hashv := fun _ => Vector.replicate 32 7 }

/-- The same instructions an epoch later. -/
def epochLater (history : List (Context × EpochInstruction)) : List (Context × EpochInstruction) :=
  history.map fun (context, instruction) =>
    ({ context with clock := ⟨context.clock.slot + 432000, context.clock.epoch + 1⟩ }, instruction)

/-- The operators disagree, and the root of the first one is set. -/
def sampleUpload : List (Context × EpochInstruction) :=
  epochLater (sampleVoting ++ [(sampleContext 12,
    .setMerkleRoot ⟨Vector.replicate 32 1⟩ [] (Vector.replicate 32 2) 3 4)])

theorem sampleUpload_indexed : ∀ timed ∈ sampleUpload, timed.2.Indexed sampleIndex := by
  have different : secondOperator ≠ firstOperator := by decide
  simp [sampleUpload, epochLater, sampleVoting, epochWeighed, epochSnapshotted, epochVoted,
    EpochInstruction.Indexed, sampleIndex, different]

theorem sampleUpload_loads : ∀ timed ∈ sampleUpload, timed.2.LoadsOperator := by
  have named : firstOperator ≠ .default ∧ secondOperator ≠ .default := by decide
  simp [sampleUpload, epochLater, sampleVoting, epochWeighed, epochSnapshotted, epochVoted,
    EpochInstruction.LoadsOperator, named]

theorem sampleUpload_requests : ballotRequests sampleUpload =
    [.castVote secondOperator (Vector.replicate 32 8) 432011 1000,
      .castVote firstOperator (Vector.replicate 32 7) 432011 1000] := by
  decide +kernel

theorem sampleUpload_loyal : Loyal {firstOperator} (Vector.replicate 32 7) sampleUpload := by
  rw [Loyal, sampleUpload_requests]
  intro operator member other slot validSlots voted
  cases Finset.mem_singleton.mp member
  rcases List.mem_pair.mp voted with others | own
  · exact absurd (BallotRequest.castVote.inj others).1 (by decide)
  · cases own
    rfl

theorem sampleUpload_ran : ∃ (finish : EpochAccounts) (snapshot : EpochSnapshot) (box : BallotBox),
    run (process sameHashRuntime) sampleUpload (absent .default 1) = .ok finish ∧
      finish.epochSnapshot = .ready snapshot ∧ finish.ballotBox = .ready box ∧
      snapshot.stakeWeights.stakeWeight = 98 ∧ finish.snapshotWeight {firstOperator} = 70 ∧
      box.isConsensusReached = true ∧ box.tieBreakerSet = false := by
  have runs : (do
      let accounts ← run (process sameHashRuntime) sampleUpload (absent .default 1)
      let snapshot ← accounts.epochSnapshot.load
      let box ← accounts.ballotBox.load
      let data ← (accounts.operatorSnapshots firstOperator).load
      return (accounts, snapshot, box, data)).toOption.any
        (fun result : EpochAccounts × EpochSnapshot × BallotBox × OperatorSnapshot =>
          result.2.1.stakeWeights.stakeWeight == 98 &&
            result.2.2.2.stakeWeights.stakeWeight == 70 &&
            result.2.2.1.isConsensusReached && !result.2.2.1.tieBreakerSet) = true := by
    decide +kernel
  obtain ⟨⟨finish, snapshot, box, data⟩, all, outcome⟩ := exists_of_any runs
  obtain ⟨_, ran, all⟩ := bind_eq_ok.mp all
  obtain ⟨_, final, all⟩ := bind_eq_ok.mp all
  obtain ⟨_, ready, all⟩ := bind_eq_ok.mp all
  obtain ⟨_, filled, same⟩ := bind_eq_ok.mp all
  cases same
  simp only [Bool.and_eq_true, beq_iff_eq, Bool.not_eq_true'] at outcome
  obtain ⟨⟨⟨total, weight⟩, consensus⟩, byVotes⟩ := outcome
  refine ⟨finish, snapshot, box, ran, Account.load_eq_ok_iff.mp final,
    Account.load_eq_ok_iff.mp ready, total, ?_, consensus, byVotes⟩
  rw [snapshotWeight, Finset.sum_singleton, Account.load_eq_ok_iff.mp filled]
  exact weight

theorem no_other_root_wins_against_firstOperator : ∃ box : BallotBox,
    box.isConsensusReached = true ∧ box.winningBallot.root = Vector.replicate 32 7 := by
  obtain ⟨finish, snapshot, box, ran, final, ready, total, weight, consensus, byVotes⟩ :=
    sampleUpload_ran
  exact ⟨box, consensus, no_other_root_wins sameHashRuntime SplMath.u256_documented .default 1
    sampleIndex_injective sampleUpload_indexed sampleUpload_loads ran sampleUpload_loyal final
    (by rw [total, weight]; norm_num) ready consensus byVotes⟩

theorem two_thirds_decide_with_firstOperator : ∃ box : BallotBox,
    box.isConsensusReached = true ∧ box.winningBallot.root = Vector.replicate 32 7 := by
  obtain ⟨finish, snapshot, box, ran, final, ready, total, weight, -, byVotes⟩ := sampleUpload_ran
  have voted : AllVoted {firstOperator} sampleUpload := by
    rw [AllVoted, sampleUpload_requests]
    intro operator member
    cases Finset.mem_singleton.mp member
    exact ⟨_, _, _, List.mem_cons_of_mem _ List.mem_cons_self⟩
  obtain ⟨consensus, winner⟩ := two_thirds_decide sameHashRuntime SplMath.u256_documented .default 1
    sampleIndex_injective sampleUpload_indexed sampleUpload_loads ran sampleUpload_loyal voted
    (Finset.singleton_nonempty _) final (by rw [total, weight]; norm_num) ready
  exact ⟨box, consensus, winner byVotes⟩

theorem uploads_prove_the_winner_of_firstOperator : ∃ root : Bytes32,
    (∃ box : BallotBox, box.isConsensusReached = true ∧ box.winningBallot.root = root) ∧
      verify sameHashRuntime.hashv [] root (sameHashRuntime.hashv [leafPrefix,
        ((TreeNode.new ⟨Vector.replicate 32 1⟩ (Vector.replicate 32 2) 3 4).hash
          sameHashRuntime.hashv).toList]) = true := by
  obtain ⟨finish, snapshot, box, ran, -, ready, -, -, consensus, -⟩ := sampleUpload_ran
  obtain ⟨root, winner, uploads⟩ := uploads_prove_the_winner sameHashRuntime
    SplMath.u256_documented .default 1 sampleIndex_injective sampleUpload_indexed sampleUpload_loads ran
  refine ⟨root, ⟨box, consensus, winner sampleUpload [] finish box (List.append_nil _).symm ran ready
    consensus⟩, ?_⟩
  exact uploads _ _ _ _ _ _ (List.mem_map.mpr ⟨_, List.mem_append_right _ List.mem_cons_self, rfl⟩)

end EpochAccounts

end TipRouter
