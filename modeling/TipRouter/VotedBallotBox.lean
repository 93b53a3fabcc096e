import TipRouter.Consensus

/-! What routing relies on in a ballot box, whichever calls led to it: the
votes for the winning ballot add up to its tally, every weight is a `u128`, and
no vote belongs to the empty key. -/
namespace TipRouter
open Runs

variable {spl : SplMath} {box next : BallotBox}

/-- The weights of a call are `u128`. -/
def BallotCall.WeightsFit : BallotCall → Prop
  | .castVote _ _ stakeWeights _ _ => stakeWeights.Fits
  | _ => True

/-- A box that calls of loaded operators lead to. -/
def BallotBox.Reachable (spl : SplMath) (box : BallotBox) : Prop :=
  ∃ (calls : List BallotCall) (ncn : Pubkey) (epoch bump slotCreated : ℕ),
    (∀ call ∈ calls, call.Loaded ∧ call.WeightsFit) ∧
    run (BallotBox.apply spl) calls (.new ncn epoch bump slotCreated) = .ok box

/-- The box is consistent, and its winner, if it has one, has a tally. -/
structure BallotBox.Voted (box : BallotBox) : Prop where
  consistent : box.Consistent
  loaded : ∀ i : Fin maxOperators, box.operatorVotes[i].isEmpty = false →
    box.operatorVotes[i].operator ≠ .default
  fits : ∀ i : Fin maxOperators, box.ballotTallies[i].stakeWeights.Fits
  tallied : box.winningBallot.isValid = true →
    ∃ i : Fin maxOperators, box.ballotTallies[i].ballot = box.winningBallot

theorem BallotBox.new_voted (ncn : Pubkey) (epoch bump currentSlot : ℕ) :
    (BallotBox.new ncn epoch bump currentSlot).Voted where
  consistent := (new_refines ncn epoch bump currentSlot).consistent
  loaded i filled := by
    rw [show (BallotBox.new ncn epoch bump currentSlot).operatorVotes[i] = .default from
      Vector.getElem_replicate _] at filled
    cases filled
  fits i component := by
    rw [show (BallotBox.new ncn epoch bump currentSlot).ballotTallies[i] = .default from
      Vector.getElem_replicate _]
    exact (StakeWeights.default_get component).trans_lt (by norm_num)
  tallied valid := by cases valid

theorem BallotTally.decrementTally_fits {tally tally' : BallotTally} {stakeWeights : StakeWeights}
    (fits : tally.stakeWeights.Fits) (lowered : tally.decrementTally stakeWeights = .ok tally') :
    tally'.stakeWeights.Fits := by
  intro component
  obtain ⟨-, -, -, lighter⟩ := decrementTally_eq_ok lowered
  have before := fits component
  have difference := lighter component
  omega

/-- The tallies stay `u128`: a sum is checked, a difference is smaller. -/
theorem BallotBox.castVote_fits {operator : Pubkey} {ballot : Ballot} {stakeWeights : StakeWeights}
    {currentSlot validSlotsAfterConsensus : ℕ} (weights : stakeWeights.Fits)
    (fits : ∀ i : Fin maxOperators, box.ballotTallies[i].stakeWeights.Fits)
    (cast : box.castVote operator ballot stakeWeights currentSlot validSlotsAfterConsensus =
      .ok next) (i : Fin maxOperators) : next.ballotTallies[i].stakeWeights.Fits := by
  obtain ⟨-, -, tallyIndex, counted, increment, recorded⟩ := castVote_eq_ok_iff.mp cast
  have countedFits : ∀ i : Fin maxOperators, counted.ballotTallies[i].stakeWeights.Fits := by
    rcases incrementOrCreateBallotTally_cases increment with ⟨tally, -, raised, rfl⟩ | ⟨-, -, rfl⟩
    · simp only [BallotTally.incrementTally, bind_eq_ok, pure_eq_ok_iff] at raised
      obtain ⟨sum, added, count, -, rfl⟩ := raised
      exact Slots.forall_put (P := fun _ (entry : BallotTally) => entry.stakeWeights.Fits)
        (fun component => (StakeWeights.increment_get added component).2) fun j _ => fits j
    · exact Slots.forall_put (P := fun _ (entry : BallotTally) => entry.stakeWeights.Fits)
        weights fun j _ => fits j
  obtain ⟨voteIndex, -, outcome⟩ := recordVote_cases recorded
  rcases outcome with ⟨-, -, removed, removal, rfl⟩ | ⟨-, -, rfl⟩
  · rcases removePreviousVote_cases removal with
      ⟨-, rfl⟩ | ⟨index, -, prevTally, lowered, ⟨-, -, rfl⟩ | ⟨-, rfl⟩⟩
    · exact countedFits i
    · exact Slots.forall_put (P := fun _ (entry : BallotTally) => entry.stakeWeights.Fits)
        (fun component => (StakeWeights.default_get component).trans_lt (by norm_num))
        (fun j _ => countedFits j) i
    · exact Slots.forall_put (P := fun _ (entry : BallotTally) => entry.stakeWeights.Fits)
        (BallotTally.decrementTally_fits (countedFits index) lowered)
        (fun j _ => countedFits j) i
  · exact countedFits i

theorem BallotBox.Voted.apply {call : BallotCall} (voted : box.Voted) (loaded : call.Loaded)
    (weights : call.WeightsFit) (applied : box.apply spl call = .ok next) : next.Voted := by
  cases call with
  | castVote operator ballot stakeWeights currentSlot validSlotsAfterConsensus =>
    obtain ⟨voteIndex, tallyIndex, cast⟩ := castVote_spec voted.consistent loaded applied
    refine ⟨cast.consistent voted.consistent, ?_, castVote_fits weights voted.fits applied,
      fun valid => ?_⟩
    · rw [cast.written]
      exact Slots.forall_put
        (P := fun _ (vote : OperatorVote) => vote.isEmpty = false → vote.operator ≠ .default)
        (fun _ => loaded) fun i _ => voted.loaded i
    · rw [cast.winner] at valid
      obtain ⟨i, wins⟩ := voted.tallied valid
      exact ⟨i, ((cast.decides voted.consistent valid).tally i wins).1⟩
  | tallyVotes totalStakeWeight currentSlot =>
    rcases tallyVotes_cases applied with rfl | ⟨-, -, heaviest, -, -, rfl⟩
    · exact voted
    · exact ⟨⟨voted.consistent.votes, voted.consistent.tallies⟩, voted.loaded, voted.fits,
        fun _ => ⟨heaviest, rfl⟩⟩
  | setTieBreakerBallot metaMerkleRoot currentEpoch epochsBeforeStall =>
    obtain ⟨-, ⟨i, listed⟩, rfl⟩ := setTieBreakerBallot_cases applied
    obtain ⟨valid, validNew, sameRoot⟩ := Ballot.eq_iff.mp listed
    exact ⟨⟨voted.consistent.votes, voted.consistent.tallies⟩, voted.loaded, voted.fits,
      fun _ => ⟨i, Ballot.ext sameRoot (valid.trans validNew.symm)⟩⟩

theorem BallotBox.Reachable.voted (reachable : box.Reachable spl) : box.Voted := by
  obtain ⟨calls, ncn, epoch, bump, slotCreated, sound, ran⟩ := reachable
  refine foldlM_invariant (motive := fun box => box.Voted) ?_
    (BallotBox.new_voted ncn epoch bump slotCreated) ran
  intro call member middle next voted applied
  obtain ⟨loaded, weights⟩ := sound call member
  exact voted.apply loaded weights applied

theorem BallotBox.new_reachable (ncn : Pubkey) (epoch bump currentSlot : ℕ) :
    (BallotBox.new ncn epoch bump currentSlot).Reachable spl :=
  ⟨[], ncn, epoch, bump, currentSlot, fun _ member => absurd member List.not_mem_nil, rfl⟩

theorem BallotBox.Reachable.apply {call : BallotCall} (reachable : box.Reachable spl)
    (loaded : call.Loaded) (weights : call.WeightsFit) (applied : box.apply spl call = .ok next) :
    next.Reachable spl := by
  obtain ⟨calls, ncn, epoch, bump, slotCreated, sound, ran⟩ := reachable
  refine ⟨calls ++ [call], ncn, epoch, bump, slotCreated, fun other member => ?_, ?_⟩
  · rcases List.mem_append.mp member with earlier | last
    · exact sound other earlier
    · rw [List.mem_singleton.mp last]
      exact ⟨loaded, weights⟩
  · rw [run_append, ran, ok_bind, run_singleton, applied]

/-- The winner's tally is the one the votes for it add up to. -/
theorem BallotBox.Voted.winner (voted : box.Voted) (won : box.winningBallot.isValid = true) :
    ∃ winner : Fin maxOperators, box.getWinningBallotTally = .ok box.ballotTallies[winner] ∧
      box.ballotTallies[winner].index = winner ∧
      ∀ component, box.ballotTallies[winner].stakeWeights.get component =
        voteWeight box.operatorVotes winner component := by
  obtain ⟨winner, wins⟩ := voted.tallied won
  have valid : box.ballotTallies[winner].isValid = true := by rw [BallotTally.isValid, wins, won]
  exact ⟨winner, voted.consistent.getWinningBallotTally won wins,
    voted.consistent.tallies.indexed winner valid, voted.consistent.tallies.weighed winner⟩

end TipRouter
