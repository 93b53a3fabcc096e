import TipRouter.BallotBoxRefinement

/-! Consensus on one ballot box. Operators vote with the weights of their
snapshots, every vote is followed by a tally, and the tie breaker may step in
once voting has stalled. Whatever wins first stays the winner, and a winner
found by tallying holds a majority that no later vote can take away. -/
namespace TipRouter
open Runs

/-! ## The electorate and its instructions -/

/-- The operators of an epoch with their finalized weights. -/
structure Electorate where
  operators : Finset Pubkey
  snapshot : Pubkey → StakeWeights
  totalStakeWeight : ℕ
  loaded : Pubkey.default ∉ operators
  complete : ∑ operator ∈ operators, (snapshot operator).stakeWeight = totalStakeWeight
  positive : 0 < totalStakeWeight
  fits : totalStakeWeight < 2 ^ 128

/-- The instructions that reach the ballot box of an epoch. -/
inductive BallotInstruction (electorate : Electorate) where
  | castVote (operator : electorate.operators) (metaMerkleRoot : Bytes32)
      (slot validSlotsAfterConsensus : ℕ)
  | setTieBreaker (metaMerkleRoot : Bytes32) (currentEpoch epochsBeforeStall : ℕ)

/-- `process_cast_vote` and `process_admin_set_tie_breaker`, as far as they
change the ballot box. -/
def BallotBox.process (spl : SplMath) (electorate : Electorate) (self : BallotBox) :
    BallotInstruction electorate → Except TipRouterError BallotBox
  | .castVote operator metaMerkleRoot slot validSlotsAfterConsensus => do
    let self ← self.castVote operator (.new metaMerkleRoot) (electorate.snapshot operator) slot
      validSlotsAfterConsensus
    self.tallyVotes spl electorate.totalStakeWeight slot
  | .setTieBreaker metaMerkleRoot currentEpoch epochsBeforeStall =>
    self.setTieBreakerBallot metaMerkleRoot currentEpoch epochsBeforeStall

variable {spl : SplMath} {electorate : Electorate} {box next : BallotBox}

/-! ## The threshold -/

/-- Two thirds in fixed point: both quotients are cut off after twelve decimals. -/
theorem consensus_of_two_thirds (documented : spl.Documented) {weight total : ℕ}
    {preciseWeight preciseTotal percentage target : spl.PreciseNumber}
    (weightFits : weight < 2 ^ 128) (positive : 0 < total)
    (newWeight : spl.new weight = some preciseWeight) (newTotal : spl.new total = some preciseTotal)
    (divided : spl.checkedDiv preciseWeight preciseTotal = some percentage)
    (targeted : preciseConsensus spl = .ok target) :
    spl.greaterThanOrEqual percentage target = true ↔ 666666666666 * total ≤ 10 ^ 12 * weight := by
  obtain ⟨raw, fixed⟩ := documented
  have rawWeight := fixed.raw_of_new newWeight
  have rawTotal := fixed.raw_of_new newTotal
  simp only [preciseConsensus, bind_eq_ok, okOr_eq_ok_iff] at targeted
  obtain ⟨numerator, newNumerator, denominator, newDenominator, targetIs⟩ := targeted
  obtain ⟨_, percentageIs, rawPercentage⟩ := fixed.div_eq rawWeight rawTotal weightFits positive
  obtain ⟨_, targetIs', rawTarget⟩ := fixed.div_eq (fixed.raw_of_new newNumerator)
    (fixed.raw_of_new newDenominator) (by norm_num) (by norm_num)
  cases Option.some.inj (divided.symm.trans percentageIs)
  cases Option.some.inj (targetIs.symm.trans targetIs')
  rw [fixed.greaterThanOrEqual, decide_eq_true_eq, rawTarget, rawPercentage,
    Nat.le_div_iff_mul_le (by unfold SplMath.one; omega)]
  unfold SplMath.one
  norm_num
  -- the rounding term is half of the last decimal and never carries
  omega

/-- Two thirds in fixed point, rounding included, is more than half. -/
theorem majority_of_consensus (documented : spl.Documented) {weight total : ℕ}
    {preciseWeight preciseTotal percentage target : spl.PreciseNumber}
    (weightFits : weight < 2 ^ 128) (positive : 0 < total)
    (newWeight : spl.new weight = some preciseWeight) (newTotal : spl.new total = some preciseTotal)
    (divided : spl.checkedDiv preciseWeight preciseTotal = some percentage)
    (targeted : preciseConsensus spl = .ok target)
    (reached : spl.greaterThanOrEqual percentage target = true) : total < 2 * weight := by
  have enough := (consensus_of_two_thirds documented weightFits positive newWeight newTotal divided
    targeted).mp reached
  omega

/-- The target can always be computed. -/
theorem exists_preciseConsensus (documented : spl.Documented) :
    ∃ target, preciseConsensus spl = .ok target := by
  obtain ⟨raw, fixed⟩ := documented
  obtain ⟨numerator, newNumerator, rawNumerator⟩ := fixed.new_eq (show 2 < 2 ^ 128 by norm_num)
  obtain ⟨denominator, newDenominator, rawDenominator⟩ := fixed.new_eq (show 3 < 2 ^ 128 by norm_num)
  obtain ⟨target, divided, -⟩ :=
    fixed.div_eq rawNumerator rawDenominator (by norm_num) (by norm_num)
  refine ⟨target, ?_⟩
  rw [preciseConsensus, newNumerator, okOr_some, ok_bind, newDenominator, okOr_some, ok_bind, divided,
    okOr_some]

/-- As long as nothing is decided, tallying always succeeds, and the heaviest ballot
wins exactly when its part of the total, cut off after twelve decimals, is at least
two thirds cut off there too. No ballot with two thirds of the weight misses, and
none with less wins unless the total is at least half of 10^12. -/
theorem consensus_threshold (documented : spl.Documented) {totalStakeWeight : ℕ}
    (unset : box.slotConsensusReached = defaultConsensusReachedSlot)
    (noWinner : box.winningBallot.isValid = false) (positive : 0 < totalStakeWeight)
    (totalFits : totalStakeWeight < 2 ^ 128)
    (fits : ∀ i : Fin maxOperators, box.ballotTallies[i].stakeWeights.stakeWeight < 2 ^ 128)
    (currentSlot : ℕ) :
    ∃ heaviest : Fin maxOperators,
      (∀ i : Fin maxOperators, box.ballotTallies[i].stakeWeights.stakeWeight ≤
        box.ballotTallies[heaviest].stakeWeights.stakeWeight) ∧
      box.tallyVotes spl totalStakeWeight currentSlot =
        .ok (if 666666666666 * totalStakeWeight ≤
            10 ^ 12 * box.ballotTallies[heaviest].stakeWeights.stakeWeight then
          { box with
            slotConsensusReached := currentSlot
            winningBallot := box.ballotTallies[heaviest].ballot }
        else box) ∧
      (2 * totalStakeWeight ≤ 3 * box.ballotTallies[heaviest].stakeWeights.stakeWeight →
        666666666666 * totalStakeWeight ≤
          10 ^ 12 * box.ballotTallies[heaviest].stakeWeights.stakeWeight) ∧
      (2 * totalStakeWeight < 10 ^ 12 → 666666666666 * totalStakeWeight ≤
          10 ^ 12 * box.ballotTallies[heaviest].stakeWeights.stakeWeight →
        2 * totalStakeWeight ≤ 3 * box.ballotTallies[heaviest].stakeWeights.stakeWeight) := by
  obtain ⟨heaviest, same, heavier⟩ := Slots.maxByKey_spec
    (fun tally : BallotTally => tally.stakeWeights.stakeWeight) box.ballotTallies
  refine ⟨heaviest, heavier, ?_, fun enough => by omega, fun small enough => by omega⟩
  obtain ⟨raw, fixed⟩ := documented
  obtain ⟨weight, newWeight, rawWeight⟩ := fixed.new_eq (fits heaviest)
  obtain ⟨total, newTotal, rawTotal⟩ := fixed.new_eq totalFits
  obtain ⟨percentage, divided, -⟩ := fixed.div_eq rawWeight rawTotal (fits heaviest) positive
  obtain ⟨target, targeted⟩ := exists_preciseConsensus ⟨raw, fixed⟩
  have threshold := consensus_of_two_thirds ⟨raw, fixed⟩ (fits heaviest) positive newWeight newTotal
    divided targeted
  rw [BallotBox.tallyVotes, if_neg (not_not_intro unset), ← same]
  simp only [newWeight, newTotal, divided, okOr_some, ok_bind, targeted, noWinner, Bool.not_false,
    Bool.and_true, threshold]
  rfl

/-- A box with a single vote. -/
def BallotBox.ofOneVote (weight : ℕ) : Except TipRouterError BallotBox :=
  (BallotBox.new .default 3 255 4).castVote ⟨Vector.replicate 32 1⟩ (.new (Vector.replicate 32 7))
    (.new weight) 5 1000

/-- Two thirds exactly are enough. -/
theorem consensus_threshold_met_exactly :
    ∃ box next : BallotBox, BallotBox.ofOneVote 200 = .ok box ∧
      box.tallyVotes .u256 300 6 = .ok next ∧ next.slotConsensusReached = 6 := by
  have cast : (BallotBox.ofOneVote 200).toOption.any (fun box : BallotBox =>
      box.slotConsensusReached == defaultConsensusReachedSlot && !box.winningBallot.isValid &&
        decide (∀ i : Fin maxOperators, box.ballotTallies[i].stakeWeights.stakeWeight ≤ 200) &&
        decide (200 ≤ box.ballotTallies[(0 : Fin maxOperators)].stakeWeights.stakeWeight)) = true := by
    decide +kernel
  obtain ⟨box, voted, test⟩ := exists_of_any cast
  simp only [Bool.and_eq_true, beq_iff_eq, Bool.not_eq_true', decide_eq_true_eq] at test
  obtain ⟨⟨⟨unset, noWinner⟩, light⟩, heavy⟩ := test
  obtain ⟨heaviest, heavier, tallied, -⟩ := consensus_threshold SplMath.u256_documented unset noWinner
    (show 0 < 300 by norm_num) (by norm_num) (fun i => (light i).trans_lt (by norm_num)) 6
  have enough := heavy.trans (heavier 0)
  rw [if_pos (by omega)] at tallied
  exact ⟨box, _, voted, tallied, rfl⟩

/-- One part in 10^12 less than two thirds is enough as well. -/
theorem consensus_below_two_thirds :
    ∃ box next : BallotBox, BallotBox.ofOneVote 666666666666 = .ok box ∧
      box.winningBallot.isValid = false ∧
      box.slotConsensusReached = defaultConsensusReachedSlot ∧
      (∀ i : Fin maxOperators,
        3 * box.ballotTallies[i].stakeWeights.stakeWeight < 2 * 1000000000000) ∧
      box.tallyVotes .u256 1000000000000 6 = .ok next ∧ next.slotConsensusReached = 6 ∧
      next.winningBallot.isValid = true := by
  have runs : (do
      let box ← BallotBox.ofOneVote 666666666666
      let next ← box.tallyVotes .u256 1000000000000 6
      return (box, next)).toOption.any (fun boxes : BallotBox × BallotBox =>
        !boxes.1.winningBallot.isValid &&
          boxes.1.slotConsensusReached == defaultConsensusReachedSlot &&
          decide (∀ i : Fin maxOperators,
            3 * boxes.1.ballotTallies[i].stakeWeights.stakeWeight < 2 * 1000000000000) &&
          boxes.2.slotConsensusReached == 6 && boxes.2.winningBallot.isValid) = true := by
    decide +kernel
  obtain ⟨⟨box, next⟩, both, test⟩ := exists_of_any runs
  obtain ⟨_, voted, both⟩ := bind_eq_ok.mp both
  obtain ⟨_, tallied, same⟩ := bind_eq_ok.mp both
  cases same
  simp only [Bool.and_eq_true, beq_iff_eq, Bool.not_eq_true', decide_eq_true_eq] at test
  obtain ⟨⟨⟨⟨noWinner, unset⟩, light⟩, decided⟩, valid⟩ := test
  exact ⟨box, next, voted, noWinner, unset, light, tallied, decided, valid⟩

/-! ## What holds after every instruction -/

/-- The votes of a box are votes of the electorate, and a winner keeps its tally. -/
structure BallotBox.Elected (electorate : Electorate) (box : BallotBox) : Prop where
  consistent : box.Consistent
  voters : ∀ i : Fin maxOperators, box.operatorVotes[i].isEmpty = false →
    box.operatorVotes[i].operator ∈ electorate.operators ∧
      box.operatorVotes[i].stakeWeights = electorate.snapshot box.operatorVotes[i].operator
  tallied : box.winningBallot.isValid = true →
    ∃ i : Fin maxOperators, box.ballotTallies[i].ballot = box.winningBallot

theorem BallotBox.new_elected (ncn : Pubkey) (epoch bump currentSlot : ℕ) :
    (BallotBox.new ncn epoch bump currentSlot).Elected electorate where
  consistent := (new_refines ncn epoch bump currentSlot).consistent
  voters := by
    intro i filled
    rw [show (BallotBox.new ncn epoch bump currentSlot).operatorVotes[i] = .default from
      Vector.getElem_replicate _] at filled
    cases filled
  tallied := fun valid => by cases valid

/-- Two tallies never hold more than the whole electorate. -/
theorem BallotBox.Elected.two_tallies (elected : box.Elected electorate) {i j : Fin maxOperators}
    (different : i ≠ j) :
    box.ballotTallies[i].stakeWeights.stakeWeight + box.ballotTallies[j].stakeWeights.stakeWeight ≤
      electorate.totalStakeWeight := by
  have weighed : ∀ k : Fin maxOperators, box.ballotTallies[k].stakeWeights.stakeWeight =
      voteWeight box.operatorVotes k .total := fun k => elected.consistent.tallies.weighed k .total
  rw [weighed, weighed, ← electorate.complete, voteWeight, voteWeight, ← Slots.total_add]
  refine Slots.total_le_sum (fun vote => vote.isEmpty = false) OperatorVote.operator
    elected.consistent.votes.distinct (fun k filled => ?_) fun k empty => ?_
  · obtain ⟨registered, weights⟩ := elected.voters k filled
    refine ⟨registered, ?_⟩
    have apart := Fin.val_ne_of_ne different
    rw [← weights]
    unfold pointing
    split <;> split <;> simp_all
  · have absent : box.operatorVotes[k].isEmpty = true := by simpa using empty
    rw [pointing_empty absent, pointing_empty absent]

theorem BallotBox.Elected.weight_le (elected : box.Elected electorate) (i : Fin maxOperators) :
    box.ballotTallies[i].stakeWeights.stakeWeight ≤ electorate.totalStakeWeight := by
  obtain ⟨j, different⟩ := exists_ne i
  exact (Nat.le_add_right _ _).trans (elected.two_tallies (Ne.symm different))

/-- What later instructions cannot undo: the winner, its slot and its tally. -/
structure BallotBox.Decides (decided later : BallotBox) : Prop where
  winner : later.winningBallot = decided.winningBallot
  slot : later.slotConsensusReached = decided.slotConsensusReached
  tally : ∀ i : Fin maxOperators, decided.ballotTallies[i].ballot = decided.winningBallot →
    later.ballotTallies[i].ballot = later.winningBallot ∧
      decided.ballotTallies[i].stakeWeights.stakeWeight ≤
        later.ballotTallies[i].stakeWeights.stakeWeight

theorem BallotBox.Decides.refl (box : BallotBox) : box.Decides box :=
  ⟨rfl, rfl, fun _ wins => ⟨wins, le_rfl⟩⟩

theorem BallotBox.Decides.trans {first second third : BallotBox} (earlier : first.Decides second)
    (later : second.Decides third) : first.Decides third where
  winner := later.winner.trans earlier.winner
  slot := later.slot.trans earlier.slot
  tally i wins := by
    obtain ⟨stillWins, heavier⟩ := earlier.tally i wins
    obtain ⟨wins', heavier'⟩ := later.tally i stillWins
    exact ⟨wins', heavier.trans heavier'⟩

/-- The winner found by tallying holds more than half of all weight. -/
def BallotBox.Majority (electorate : Electorate) (box : BallotBox) : Prop :=
  ∃ i : Fin maxOperators, box.ballotTallies[i].ballot = box.winningBallot ∧
    electorate.totalStakeWeight < 2 * box.ballotTallies[i].stakeWeights.stakeWeight

theorem BallotBox.Decides.majority (decides : box.Decides next) (majority : box.Majority electorate) :
    next.Majority electorate := by
  obtain ⟨i, wins, more⟩ := majority
  obtain ⟨stillWins, heavier⟩ := decides.tally i wins
  exact ⟨i, stillWins, by omega⟩

/-- After a win an operator can only vote for the first time, and such a vote
leaves the winner and its tally in place. -/
theorem VoteCast.decides {operator : Pubkey} {root : Bytes32} {stakeWeights : StakeWeights}
    {currentSlot : ℕ} {voteIndex tallyIndex : Fin maxOperators}
    (cast : VoteCast box next operator root stakeWeights currentSlot voteIndex tallyIndex)
    (consistent : box.Consistent) (won : box.winningBallot.isValid = true) : box.Decides next := by
  rcases cast.entry with ⟨-, -, undecided, -⟩ | ⟨empty, -⟩
  · rw [BallotBox.isConsensusReached, won, Bool.or_true] at undecided
    cases undecided
  refine ⟨cast.winner, cast.slot, fun i wins => ?_⟩
  have absent : box.operatorVotes[voteIndex].ballotIndex ≠ i := fun known => by
    rw [not_empty_of_known (known ▸ i.isLt)] at empty
    cases empty
  have counts := voteCount_set box.operatorVotes voteIndex
    ⟨operator, currentSlot, stakeWeights, tallyIndex⟩ i
  have weights := voteWeight_set box.operatorVotes voteIndex
    ⟨operator, currentSlot, stakeWeights, tallyIndex⟩ i .total
  rw [← cast.written, if_neg absent, Nat.add_zero] at counts weights
  have valid : box.ballotTallies[i].isValid = true := by rw [BallotTally.isValid, wins, won]
  have populated := consistent.tallies.populated i valid
  have counted := consistent.tallies.counted i
  have weighed := consistent.tallies.weighed i .total
  have weighed' := cast.tallies.weighed i .total
  rw [StakeWeights.get_total] at weighed weighed'
  constructor
  · rw [cast.kept i valid (by omega), cast.winner, wins]
  · omega

section Steps
variable {operator : electorate.operators} {metaMerkleRoot : Bytes32}
variable {slot validSlotsAfterConsensus : ℕ}

theorem BallotBox.Elected.castVote (elected : box.Elected electorate)
    (cast : box.castVote operator (.new metaMerkleRoot) (electorate.snapshot operator) slot
      validSlotsAfterConsensus = .ok next) :
    next.Elected electorate ∧ (box.winningBallot.isValid = true → box.Decides next) := by
  have loaded : operator.val ≠ .default := fun empty =>
    electorate.loaded (empty ▸ operator.property)
  obtain ⟨voteIndex, tallyIndex, cast⟩ := castVote_spec elected.consistent loaded cast
  have decides := cast.decides elected.consistent
  refine ⟨⟨cast.consistent elected.consistent, ?_, fun valid => ?_⟩, decides⟩
  · rw [cast.written]
    exact Slots.forall_put
      (P := fun _ (vote : OperatorVote) => vote.isEmpty = false →
        vote.operator ∈ electorate.operators ∧
          vote.stakeWeights = electorate.snapshot vote.operator)
      (fun _ => ⟨operator.property, rfl⟩) fun i _ => elected.voters i
  · rw [cast.winner] at valid
    obtain ⟨i, wins⟩ := elected.tallied valid
    exact ⟨i, ((decides valid).tally i wins).1⟩

/-- A tally changes nothing, or finds a majority where nothing had won. -/
theorem BallotBox.Elected.tallyVotes (documented : spl.Documented)
    (elected : box.Elected electorate)
    (tallied : box.tallyVotes spl electorate.totalStakeWeight slot = .ok next) :
    next = box ∨
      (box.winningBallot.isValid = false ∧ next.Elected electorate ∧ next.Majority electorate) := by
  rcases tallyVotes_cases tallied with
    same | ⟨-, unset, heaviest, -, ⟨weight, total, percentage, target, newWeight, newTotal, divided,
      targeted, reached⟩, rfl⟩
  · exact .inl same
  · have light := elected.weight_le heaviest
    have more := majority_of_consensus documented (light.trans_lt electorate.fits)
      electorate.positive newWeight newTotal divided targeted reached
    exact .inr ⟨unset, ⟨⟨elected.consistent.votes, elected.consistent.tallies⟩, elected.voters,
      fun _ => ⟨heaviest, rfl⟩⟩, heaviest, rfl, more⟩

end Steps

variable {instruction : BallotInstruction electorate}

/-- One instruction keeps the box elected, and a winner once there is one. -/
theorem BallotBox.Elected.process (documented : spl.Documented) (elected : box.Elected electorate)
    (processed : box.process spl electorate instruction = .ok next) :
    next.Elected electorate ∧ (box.winningBallot.isValid = true → box.Decides next) := by
  cases instruction with
  | castVote operator metaMerkleRoot slot validSlotsAfterConsensus =>
    obtain ⟨voted, cast, tallied⟩ := bind_eq_ok.mp processed
    obtain ⟨elected', decides⟩ := elected.castVote cast
    rcases elected'.tallyVotes documented tallied with rfl | ⟨unset, elected'', -⟩
    · exact ⟨elected', decides⟩
    · refine ⟨elected'', fun won => ?_⟩
      rw [← (decides won).winner, unset] at won
      cases won
  | setTieBreaker metaMerkleRoot currentEpoch epochsBeforeStall =>
    obtain ⟨undecided, ⟨i, listed⟩, rfl⟩ := setTieBreakerBallot_cases processed
    obtain ⟨valid, validNew, sameRoot⟩ := Ballot.eq_iff.mp listed
    refine ⟨⟨⟨elected.consistent.votes, elected.consistent.tallies⟩, elected.voters,
      fun _ => ⟨i, ?_⟩⟩, fun won => ?_⟩
    · exact Ballot.ext sameRoot (valid.trans validNew.symm)
    · rw [isConsensusReached, won, Bool.or_true] at undecided
      cases undecided

/-! ## Whole runs -/

section Runs
variable {history future : List (BallotInstruction electorate)} {start decided : BallotBox}

theorem BallotBox.Elected.run (documented : spl.Documented) (elected : start.Elected electorate)
    (ran : run (BallotBox.process spl electorate) history start = .ok box) :
    box.Elected electorate :=
  run_invariant (fun _ _ _ holds processed => (holds.process documented processed).1) elected ran

/-- Once something has won, every later state keeps it. -/
theorem BallotBox.Elected.run_decides (documented : spl.Documented)
    (elected : decided.Elected electorate) (won : decided.winningBallot.isValid = true)
    (ran : Runs.run (BallotBox.process spl electorate) future decided = .ok box) :
    decided.Decides box := by
  have both : box.Elected electorate ∧ decided.Decides box := by
    refine run_invariant (motive := fun box => box.Elected electorate ∧ decided.Decides box)
      ?_ ⟨elected, .refl decided⟩ ran
    intro middle instruction next ⟨electedMiddle, decides⟩ processed
    obtain ⟨electedNext, further⟩ := electedMiddle.process documented processed
    exact ⟨electedNext, decides.trans (further (by rw [decides.winner, won]))⟩
  exact both.2

end Runs

/-- The winner has one tally, and `get_winning_ballot_tally` finds it. -/
theorem BallotBox.Consistent.getWinningBallotTally (consistent : box.Consistent)
    (won : box.winningBallot.isValid = true) {i : Fin maxOperators}
    (wins : box.ballotTallies[i].ballot = box.winningBallot) :
    box.getWinningBallotTally = .ok box.ballotTallies[i] := by
  have equal : box.ballotTallies[i].ballot.eq box.winningBallot = true := by
    rw [Ballot.eq_iff, wins]
    exact ⟨won, won, rfl⟩
  have found : Slots.first (fun tally => tally.ballot.eq box.winningBallot) box.ballotTallies =
      some i := by
    refine Slots.first_eq_some_iff.mpr ⟨equal, fun j before => ?_⟩
    by_contra alike
    obtain ⟨validJ, -, sameRoot⟩ := Ballot.eq_iff.mp (eq_true_of_ne_false alike)
    refine (Fin.ne_of_lt before) (consistent.tallies.distinct j i validJ ?_ ?_)
    · rw [BallotTally.isValid, wins, won]
    · rw [Ballot.root, Ballot.root, sameRoot, wins]
  rw [BallotBox.getWinningBallotTally, won, found]
  rfl

/-- Some vote of the history is the one whose tally set the winner. -/
def DecidedByVoting (spl : SplMath) (electorate : Electorate) (start : BallotBox)
    (history : List (BallotInstruction electorate)) : Prop :=
  ∃ past operator metaMerkleRoot slot validSlotsAfterConsensus rest undecided decided,
    history = past ++ .castVote operator metaMerkleRoot slot validSlotsAfterConsensus :: rest ∧
    run (BallotBox.process spl electorate) past start = .ok undecided ∧
    undecided.winningBallot.isValid = false ∧
    undecided.process spl electorate
      (.castVote operator metaMerkleRoot slot validSlotsAfterConsensus) = .ok decided ∧
    decided.winningBallot.isValid = true

/-- A winner found by voting has its majority in every state from then on. -/
theorem DecidedByVoting.majority (documented : spl.Documented) {start : BallotBox}
    (elected : start.Elected electorate) {history : List (BallotInstruction electorate)}
    (byVoting : DecidedByVoting spl electorate start history)
    (ran : run (BallotBox.process spl electorate) history start = .ok box) :
    box.Majority electorate := by
  obtain ⟨past, operator, metaMerkleRoot, slot, validSlotsAfterConsensus, rest, undecided, decided,
    rfl, before, unset, processed, won⟩ := byVoting
  rw [run_append, before, ok_bind, run_cons, processed, ok_bind] at ran
  have electedBefore := elected.run documented before
  have electedAfter := (electedBefore.process documented processed).1
  obtain ⟨voted, cast, tallied⟩ := bind_eq_ok.mp processed
  obtain ⟨voteIndex, tallyIndex, written⟩ := castVote_spec electedBefore.consistent
    (fun empty => electorate.loaded (empty ▸ operator.property)) cast
  refine (electedAfter.run_decides documented won ran).majority ?_
  rcases (electedBefore.castVote cast).1.tallyVotes documented tallied with rfl | ⟨-, -, majority⟩
  · rw [written.winner, unset] at won
    cases won
  · exact majority

variable {ncn : Pubkey} {epoch bump slotCreated : ℕ}

/-- Consensus is safe and final: what wins stays, can always be read back and
only gains weight, and what won by voting keeps more than half of all weight,
more than any other tally. -/
theorem consensus_is_final (documented : spl.Documented)
    {history future : List (BallotInstruction electorate)} {decided : BallotBox}
    (ran : run (BallotBox.process spl electorate) history (.new ncn epoch bump slotCreated) =
      .ok decided)
    (won : decided.winningBallot.isValid = true)
    (later : run (BallotBox.process spl electorate) future decided = .ok box) :
    box.winningBallot = decided.winningBallot ∧
      box.slotConsensusReached = decided.slotConsensusReached ∧
      ∃ winner : Fin maxOperators,
        decided.getWinningBallotTally = .ok decided.ballotTallies[winner] ∧
        box.getWinningBallotTally = .ok box.ballotTallies[winner] ∧
        decided.ballotTallies[winner].stakeWeights.stakeWeight ≤
          box.ballotTallies[winner].stakeWeights.stakeWeight ∧
        (DecidedByVoting spl electorate (.new ncn epoch bump slotCreated) history →
          electorate.totalStakeWeight < 2 * box.ballotTallies[winner].stakeWeights.stakeWeight ∧
          ∀ other ≠ winner, box.ballotTallies[other].stakeWeights.stakeWeight <
            box.ballotTallies[winner].stakeWeights.stakeWeight) := by
  have elected := (BallotBox.new_elected ncn epoch bump slotCreated).run documented ran
  have electedLater := elected.run documented later
  have decides := elected.run_decides documented won later
  have wonLater : box.winningBallot.isValid = true := by rw [decides.winner, won]
  obtain ⟨winner, wins⟩ := elected.tallied won
  obtain ⟨winsLater, heavier⟩ := decides.tally winner wins
  refine ⟨decides.winner, decides.slot, winner, elected.consistent.getWinningBallotTally won wins,
    electedLater.consistent.getWinningBallotTally wonLater winsLater, heavier, fun byVoting => ?_⟩
  have majority : electorate.totalStakeWeight <
      2 * box.ballotTallies[winner].stakeWeights.stakeWeight := by
    obtain ⟨i, winsI, more⟩ := decides.majority (byVoting.majority documented
      (BallotBox.new_elected ncn epoch bump slotCreated) ran)
    have same := (electedLater.consistent.getWinningBallotTally wonLater winsI).symm.trans
      (electedLater.consistent.getWinningBallotTally wonLater winsLater)
    rwa [← Except.ok.inj same]
  refine ⟨majority, fun other different => ?_⟩
  have together := electedLater.two_tallies different
  omega

/-- Two operators, of which the first alone reaches two thirds. -/
def twoOperators : Electorate where
  operators := {⟨Vector.replicate 32 1⟩, ⟨Vector.replicate 32 2⟩}
  snapshot := fun operator => if operator = ⟨Vector.replicate 32 1⟩ then .new 70 else .new 30
  totalStakeWeight := 100
  loaded := by decide
  complete := by decide
  positive := by decide
  fits := by decide

/-- The heavy operator decides alone; the light one votes against it in vain. -/
theorem consensus_is_final_for_two_operators :
    ∃ decided box : BallotBox, decided.winningBallot = .new (Vector.replicate 32 7) ∧
      box.operatorsVoted = 2 ∧ box.winningBallot = decided.winningBallot := by
  have runs : ((run (BallotBox.process .u256 twoOperators)
      [.castVote ⟨⟨Vector.replicate 32 1⟩, by decide⟩ (Vector.replicate 32 7) 5 10]
      (.new .default 3 255 4)).bind fun decided =>
        (run (BallotBox.process .u256 twoOperators)
          [.castVote ⟨⟨Vector.replicate 32 2⟩, by decide⟩ (Vector.replicate 32 8) 6 10]
          decided).map fun box => (decided, box)).toOption.any (fun boxes =>
            boxes.1.winningBallot == .new (Vector.replicate 32 7) && boxes.2.operatorsVoted == 2) =
      true := by decide +kernel
  obtain ⟨⟨decided, box⟩, both, test⟩ := exists_of_any runs
  obtain ⟨_, ran, rest⟩ := bind_eq_ok.mp both
  obtain ⟨_, later, same⟩ := map_eq_ok.mp rest
  cases same
  simp only [Bool.and_eq_true, beq_iff_eq] at test
  have won : decided.winningBallot.isValid = true := by
    rw [test.1]
    decide +kernel
  exact ⟨decided, box, test.1, test.2,
    (consensus_is_final SplMath.u256_documented ran won later).1⟩

end TipRouter
