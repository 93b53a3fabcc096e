import TipRouter.Consensus
import TipRouter.Quorums
import TipRouter.Voting

/-! The tallies of a ballot box as quorums of its electorate. The weight of a tally is
the weight of the operators whose last vote it is, so what wins by voting has a quorum
behind it, and as long as nothing is decided no root has one. -/
namespace TipRouter
open Runs Quorums

/-! ## Votes without their weights -/

/-- A vote or a tie breaker as it was asked for. -/
inductive BallotRequest where
  | castVote (operator : Pubkey) (metaMerkleRoot : Bytes32) (slot validSlotsAfterConsensus : ℕ)
  | setTieBreaker (metaMerkleRoot : Bytes32) (currentEpoch epochsBeforeStall : ℕ)
  deriving DecidableEq

def BallotInstruction.request {electorate : Electorate} : BallotInstruction electorate → BallotRequest
  | castVote operator metaMerkleRoot slot validSlotsAfterConsensus =>
    .castVote operator metaMerkleRoot slot validSlotsAfterConsensus
  | setTieBreaker metaMerkleRoot currentEpoch epochsBeforeStall =>
    .setTieBreaker metaMerkleRoot currentEpoch epochsBeforeStall

/-- An operator stands for the root it voted for last. -/
def BallotRequest.choose (choice : Pubkey → Option Bytes32) :
    BallotRequest → Pubkey → Option Bytes32
  | castVote operator metaMerkleRoot _ _ => Function.update choice operator (some metaMerkleRoot)
  | setTieBreaker _ _ _ => choice

def choices (requests : List BallotRequest) : Pubkey → Option Bytes32 :=
  requests.foldl BallotRequest.choose fun _ => none

theorem choices_append_singleton {requests : List BallotRequest} {request : BallotRequest} :
    choices (requests ++ [request]) = request.choose (choices requests) := by
  rw [choices, List.foldl_append]
  rfl

/-- Whoever voted stands for something. -/
theorem choices_ne_none {requests : List BallotRequest} {operator : Pubkey} {root : Bytes32}
    {slot validSlotsAfterConsensus : ℕ}
    (voted : .castVote operator root slot validSlotsAfterConsensus ∈ requests) :
    choices requests operator ≠ none := by
  induction requests using List.reverseRecOn with
  | nil => cases voted
  | append_singleton requests request ih =>
    rw [choices_append_singleton]
    rcases List.mem_append.mp voted with earlier | last
    · cases request with
      | setTieBreaker => exact ih earlier
      | castVote other otherRoot _ _ =>
        by_cases same : operator = other
        · rw [BallotRequest.choose, same, Function.update_self]
          nofun
        · rw [BallotRequest.choose, Function.update_of_ne same]
          exact ih earlier
    · cases List.mem_singleton.mp last
      rw [BallotRequest.choose, Function.update_self]
      nofun

/-- What an operator stands for is something it voted for. -/
theorem exists_vote_of_choices {requests : List BallotRequest} {operator : Pubkey} {root : Bytes32}
    (stands : choices requests operator = some root) :
    ∃ slot validSlotsAfterConsensus,
      .castVote operator root slot validSlotsAfterConsensus ∈ requests := by
  induction requests using List.reverseRecOn with
  | nil => cases stands
  | append_singleton requests request ih =>
    rw [choices_append_singleton] at stands
    cases request with
    | setTieBreaker =>
      obtain ⟨slot, valid, member⟩ := ih stands
      exact ⟨slot, valid, List.mem_append_left _ member⟩
    | castVote other otherRoot slot valid =>
      by_cases same : operator = other
      · rw [BallotRequest.choose, same, Function.update_self] at stands
        cases stands
        exact ⟨slot, valid, by simp [same]⟩
      · rw [BallotRequest.choose, Function.update_of_ne same] at stands
        obtain ⟨slot, valid, member⟩ := ih stands
        exact ⟨slot, valid, List.mem_append_left _ member⟩

/-! ## The threshold -/

/-- Two thirds, cut off after twelve decimals. -/
def consensusThreshold : Threshold where
  part := 666666666666
  whole := 10 ^ 12
  part_le := by norm_num
  majority := by norm_num

namespace Electorate

def weight (electorate : Electorate) (operator : Pubkey) : ℕ :=
  (electorate.snapshot operator).stakeWeight

/-- These operators have the weight that consensus takes. -/
def IsQuorum (electorate : Electorate) (voters : Finset Pubkey) : Prop :=
  Quorums.IsQuorum consensusThreshold electorate.weight electorate.operators voters

def supporters (electorate : Electorate) (requests : List BallotRequest) (root : Bytes32) :
    Finset Pubkey :=
  Quorums.supporters electorate.operators (choices requests) root

theorem isQuorum_iff {electorate : Electorate} {voters : Finset Pubkey} :
    electorate.IsQuorum voters ↔ 666666666666 * electorate.totalStakeWeight ≤
      10 ^ 12 * ∑ voter ∈ voters, electorate.weight voter := by
  rw [← electorate.complete]
  rfl

end Electorate

variable {spl : SplMath} {electorate : Electorate} {box next : BallotBox}
variable {requests : List BallotRequest}

theorem BallotBox.Consistent.weightless (consistent : box.Consistent) {i : Fin maxOperators}
    (invalid : box.ballotTallies[i].isValid = false) :
    box.ballotTallies[i].stakeWeights.stakeWeight = 0 := by
  rw [consistent.tallies.wiped i invalid]
  rfl

/-- A tally that leaves the box undecided found every ballot too light. -/
theorem BallotBox.tallyVotes_undecided (documented : spl.Documented) (consistent : box.Consistent)
    {totalStakeWeight slot : ℕ} (positive : 0 < totalStakeWeight)
    (fits : ∀ i : Fin maxOperators, box.ballotTallies[i].stakeWeights.stakeWeight < 2 ^ 128)
    (tallied : box.tallyVotes spl totalStakeWeight slot = .ok next)
    (undecided : next.isConsensusReached = false) (i : Fin maxOperators) :
    10 ^ 12 * box.ballotTallies[i].stakeWeights.stakeWeight < 666666666666 * totalStakeWeight := by
  unfold tallyVotes at tallied
  split at tallied
  · rename_i decided
    cases tallied
    exact absurd (isConsensusReached_eq_false_iff.mp undecided).1 decided
  simp only [bind_eq_ok, okOr_eq_ok_iff, pure_eq_ok_iff] at tallied
  obtain ⟨weight, newWeight, total, newTotal, percentage, divided, target, targeted, rfl⟩ := tallied
  obtain ⟨heaviest, same, heavier⟩ := Slots.maxByKey_spec
    (fun tally : BallotTally => tally.stakeWeights.stakeWeight) box.ballotTallies
  rw [← same] at newWeight undecided
  have threshold := consensus_of_two_thirds documented (fits heaviest) positive newWeight newTotal
    divided targeted
  have light : ¬ 666666666666 * totalStakeWeight ≤
      10 ^ 12 * box.ballotTallies[heaviest].stakeWeights.stakeWeight := by
    intro enough
    rw [threshold.mpr enough, Bool.true_and] at undecided
    cases won : box.winningBallot.isValid with
    | true =>
      rw [won, Bool.not_true, if_neg Bool.false_ne_true] at undecided
      cases won.symm.trans (isConsensusReached_eq_false_iff.mp undecided).2
    | false =>
      rw [won, Bool.not_false, if_pos rfl] at undecided
      have none := consistent.weightless (isConsensusReached_eq_false_iff.mp undecided).2
      omega
  have lighter := heavier i
  omega

/-! ## What holds after every instruction -/

/-- The box records what the operators stand for, and consensus by voting has a quorum
behind it. -/
structure BallotBox.Counts (electorate : Electorate) (requests : List BallotRequest)
    (box : BallotBox) : Prop where
  elected : box.Elected electorate
  recorded : ∃ map : LastVotes, Records box.operatorVotes box.ballotTallies map ∧
    ∀ operator, (map operator).map LastVote.root = choices requests operator
  won : box.slotConsensusReached ≠ defaultConsensusReachedSlot → box.winningBallot.isValid = true ∧
    ∃ i : Fin maxOperators, box.ballotTallies[i].ballot = box.winningBallot ∧
      666666666666 * electorate.totalStakeWeight ≤
        10 ^ 12 * box.ballotTallies[i].stakeWeights.stakeWeight
  undecided : box.isConsensusReached = false → ∀ i : Fin maxOperators,
    10 ^ 12 * box.ballotTallies[i].stakeWeights.stakeWeight <
      666666666666 * electorate.totalStakeWeight

namespace BallotBox.Counts

theorem new (ncn : Pubkey) (epoch bump slot : ℕ) :
    (BallotBox.new ncn epoch bump slot).Counts electorate [] where
  elected := new_elected ncn epoch bump slot
  recorded := ⟨fun _ => none, (new_refines ncn epoch bump slot).records, fun _ => rfl⟩
  won decided := absurd rfl decided
  undecided _ i := by
    have elected : (BallotBox.new ncn epoch bump slot).Elected electorate :=
      new_elected ncn epoch bump slot
    have invalid : (BallotBox.new ncn epoch bump slot).ballotTallies[i].isValid = false :=
      congrArg BallotTally.isValid (Vector.getElem_replicate ..)
    have weightless := elected.consistent.weightless invalid
    have positive := electorate.positive
    omega

theorem castVote {voted : BallotBox} {operator : electorate.operators} {metaMerkleRoot : Bytes32}
    {slot validSlotsAfterConsensus : ℕ} (counts : box.Counts electorate requests)
    (documented : spl.Documented)
    (cast : box.castVote operator (.new metaMerkleRoot) (electorate.snapshot operator) slot
      validSlotsAfterConsensus = .ok voted)
    (tallied : voted.tallyVotes spl electorate.totalStakeWeight slot = .ok next) :
    next.Counts electorate
      (requests ++ [.castVote operator metaMerkleRoot slot validSlotsAfterConsensus]) := by
  have loaded : operator.val ≠ .default := fun empty => electorate.loaded (empty ▸ operator.property)
  obtain ⟨elected, decides⟩ := counts.elected.castVote cast
  obtain ⟨voteIndex, tallyIndex, written⟩ := castVote_spec counts.elected.consistent loaded cast
  have recorded : ∃ map : LastVotes, Records voted.operatorVotes voted.ballotTallies map ∧
      ∀ other, (map other).map LastVote.root = choices
        (requests ++ [.castVote operator metaMerkleRoot slot validSlotsAfterConsensus]) other := by
    obtain ⟨map, records, same⟩ := counts.recorded
    refine ⟨_, written.records counts.elected.consistent records, fun other => ?_⟩
    rw [choices_append_singleton, BallotRequest.choose, Function.update_apply, Function.update_apply]
    split
    · rfl
    · exact same other
  have light := elected.weight_le
  have undecided := tallyVotes_undecided documented elected.consistent electorate.positive
    (fun i => (light i).trans_lt electorate.fits) tallied
  rcases tallyVotes_cases tallied with
    rfl | ⟨-, invalid, heaviest, -, ⟨weight, total, percentage, target, newWeight, newTotal, divided,
      targeted, reached⟩, rfl⟩
  · refine ⟨elected, recorded, fun decided => ?_, undecided⟩
    rw [written.slot] at decided
    obtain ⟨valid, i, wins, heavy⟩ := counts.won decided
    obtain ⟨stillWins, heavier⟩ := (decides valid).tally i wins
    exact ⟨written.winner ▸ valid, i, stillWins, by omega⟩
  · have heavy := (consensus_of_two_thirds documented ((light heaviest).trans_lt electorate.fits)
      electorate.positive newWeight newTotal divided targeted).mp reached
    have valid : voted.ballotTallies[heaviest].isValid = true := by
      by_contra invalid
      have none := elected.consistent.weightless (eq_false_of_ne_true invalid)
      have positive := electorate.positive
      omega
    exact ⟨⟨⟨elected.consistent.votes, elected.consistent.tallies⟩, elected.voters,
      fun _ => ⟨heaviest, rfl⟩⟩, recorded, fun _ => ⟨valid, heaviest, rfl, heavy⟩, undecided⟩

theorem process {instruction : BallotInstruction electorate}
    (counts : box.Counts electorate requests) (documented : spl.Documented)
    (processed : box.process spl electorate instruction = .ok next) :
    next.Counts electorate (requests ++ [instruction.request]) := by
  have elected := (counts.elected.process documented processed).1
  cases instruction with
  | castVote operator metaMerkleRoot slot validSlotsAfterConsensus =>
    obtain ⟨voted, cast, tallied⟩ := bind_eq_ok.mp processed
    exact counts.castVote documented cast tallied
  | setTieBreaker metaMerkleRoot currentEpoch epochsBeforeStall =>
    obtain ⟨undecided, ⟨i, listed⟩, rfl⟩ := setTieBreakerBallot_cases processed
    obtain ⟨-, valid, -⟩ := Ballot.eq_iff.mp listed
    refine ⟨elected, ?_, fun decided => ?_, fun open_ => ?_⟩
    · obtain ⟨map, records, same⟩ := counts.recorded
      exact ⟨map, records, fun operator => by rw [choices_append_singleton]; exact same operator⟩
    · exact absurd (isConsensusReached_eq_false_iff.mp undecided).1 decided
    · cases valid.symm.trans (isConsensusReached_eq_false_iff.mp open_).2

theorem run {history : List (BallotInstruction electorate)} {ncn : Pubkey} {epoch bump slot : ℕ}
    (documented : spl.Documented)
    (ran : Runs.run (BallotBox.process spl electorate) history (.new ncn epoch bump slot) =
      .ok box) : box.Counts electorate (history.map BallotInstruction.request) := by
  refine run_induction (motive := fun past (state : BallotBox) =>
    state.Counts electorate (past.map BallotInstruction.request)) (.new ncn epoch bump slot) ?_ ran
  rintro past middle instruction later - counts processed
  rw [List.map_append]
  exact counts.process documented processed

/-! ## Tallies as quorums -/

/-- A tally weighs what the operators weigh whose last vote it is. -/
theorem weight_eq (counts : box.Counts electorate requests) {i : Fin maxOperators}
    (valid : box.ballotTallies[i].isValid = true) :
    box.ballotTallies[i].stakeWeights.stakeWeight =
      ∑ operator ∈ electorate.supporters requests box.ballotTallies[i].ballot.root,
        electorate.weight operator := by
  obtain ⟨map, records, stands⟩ := counts.recorded
  have consistent := counts.elected.consistent
  have filled : ∀ k : Fin maxOperators, box.operatorVotes[k].ballotIndex = i →
      box.operatorVotes[k].isEmpty = false :=
    fun k points => not_empty_of_known (points ▸ i.isLt)
  have weighed := consistent.tallies.weighed i .total
  rw [StakeWeights.get_total] at weighed
  rw [weighed, voteWeight, Slots.total]
  simp only [pointing, StakeWeights.get_total]
  rw [← Finset.sum_filter]
  refine Finset.sum_nbij (fun k : Fin maxOperators => box.operatorVotes[k].operator) ?_ ?_ ?_ ?_
  · intro k pointing
    have points := (Finset.mem_filter.mp pointing).2
    have recorded := (records box.operatorVotes[k].operator ⟨box.ballotTallies[i].ballot.root,
      box.operatorVotes[k].stakeWeights, box.operatorVotes[k].slotVoted⟩).mpr
        ⟨k, i, filled k points, rfl, rfl, rfl, points, valid, rfl⟩
    refine mem_supporters.mpr ⟨(counts.elected.voters k (filled k points)).1, ?_⟩
    rw [← stands, recorded]
    rfl
  · intro k pointingK l pointingL same
    exact consistent.votes.distinct k l (filled k (Finset.mem_filter.mp pointingK).2)
      (filled l (Finset.mem_filter.mp pointingL).2) same
  · intro operator supports
    obtain ⟨-, chosen⟩ := mem_supporters.mp supports
    rw [← stands] at chosen
    obtain ⟨vote, recorded, sameRoot⟩ := Option.map_eq_some_iff.mp chosen
    obtain ⟨k, j, -, own, -, -, points, validJ, holds⟩ := (records operator vote).mp recorded
    obtain rfl : j = i := consistent.tallies.distinct j i validJ valid (holds.trans sameRoot)
    exact ⟨k, by simpa using points, own⟩
  · intro k pointing
    obtain ⟨-, weights⟩ :=
      counts.elected.voters k (filled k (Finset.mem_filter.mp pointing).2)
    rw [weights]
    rfl

/-- What wins by voting has a quorum behind it, in every later state as well. -/
theorem won_quorum (counts : box.Counts electorate requests)
    (decided : box.slotConsensusReached ≠ defaultConsensusReachedSlot) :
    electorate.IsQuorum (electorate.supporters requests box.winningBallot.root) := by
  obtain ⟨valid, i, wins, heavy⟩ := counts.won decided
  have counted : box.ballotTallies[i].isValid = true := by rw [BallotTally.isValid, wins, valid]
  rw [counts.weight_eq counted, wins] at heavy
  exact Electorate.isQuorum_iff.mpr heavy

/-- While nothing is decided, no root has a quorum behind it. -/
theorem no_quorum (counts : box.Counts electorate requests)
    (undecided : box.isConsensusReached = false) (root : Bytes32) :
    ¬ electorate.IsQuorum (electorate.supporters requests root) := by
  intro quorum
  have heavy := Electorate.isQuorum_iff.mp quorum
  have positive := electorate.positive
  obtain ⟨operator, supports⟩ : (electorate.supporters requests root).Nonempty := by
    rw [Finset.nonempty_iff_ne_empty]
    intro nobody
    rw [nobody, Finset.sum_empty] at heavy
    omega
  obtain ⟨map, records, stands⟩ := counts.recorded
  obtain ⟨-, chosen⟩ := mem_supporters.mp supports
  rw [← stands] at chosen
  obtain ⟨vote, recorded, sameRoot⟩ := Option.map_eq_some_iff.mp chosen
  obtain ⟨-, i, -, -, -, -, -, valid, holds⟩ := (records operator vote).mp recorded
  have light := counts.undecided undecided i
  rw [counts.weight_eq valid, holds, sameRoot] at light
  omega

end BallotBox.Counts

end TipRouter
