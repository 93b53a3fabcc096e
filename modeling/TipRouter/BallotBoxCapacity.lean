import TipRouter.BallotBoxRefinement

/-! How full a ballot box can get. There are as many entries for votes and as
many tallies as there can be operators, so an operator always finds its entry.
A vote is counted before the operator's old one is taken off, though, so a box
whose tallies are all in use has no room for one more ballot, even when the
operator leaves a tally it is alone in. -/
namespace TipRouter
open Runs

variable {box next : BallotBox} {spl : SplMath} {operator : Pubkey} {ballot : Ballot}
variable {stakeWeights : StakeWeights} {currentSlot validSlotsAfterConsensus : ℕ}

/-! ## Room for a vote -/

/-- The operators of the votes. -/
def BallotBox.VotedBy (box : BallotBox) (operators : Finset Pubkey) : Prop :=
  ∀ i : Fin maxOperators, box.operatorVotes[i].isEmpty = false →
    box.operatorVotes[i].operator ∈ operators

/-- A vote of one of these operators. -/
def BallotCall.CastBy (operators : Finset Pubkey) : BallotCall → Prop
  | .castVote operator _ _ _ _ => operator ∈ operators
  | _ => True

/-- Counting the ballot does not overflow the tally that holds it. -/
def BallotBox.CountFits (box : BallotBox) (ballot : Ballot) (stakeWeights : StakeWeights) : Prop :=
  ∀ i : Fin maxOperators, box.ballotTallies[i].ballot.eq ballot = true → ∀ component,
    box.ballotTallies[i].stakeWeights.get component + stakeWeights.get component < 2 ^ 128

theorem validTallies_le (tallies : Vector BallotTally maxOperators) :
    validTallies tallies ≤ maxOperators :=
  Slots.count_le_length

/-- All tallies are in use when their number is reached. -/
theorem validTallies_eq_iff {tallies : Vector BallotTally maxOperators} :
    validTallies tallies = maxOperators ↔ ∀ i : Fin maxOperators, tallies[i].isValid = true :=
  Slots.count_eq_length_iff

theorem voteCount_le (votes : Vector OperatorVote maxOperators) (index : ℕ) :
    voteCount votes index ≤ maxOperators := by
  refine Slots.total_le_length fun i => ?_
  dsimp only [pointing]
  split <;> omega

theorem BallotTally.exists_incrementTally {tally : BallotTally}
    (fits : ∀ component, tally.stakeWeights.get component + stakeWeights.get component < 2 ^ 128)
    (few : tally.tally ≤ maxOperators) : ∃ tally', tally.incrementTally stakeWeights = .ok tally' := by
  obtain ⟨weights, added⟩ := StakeWeights.exists_increment fits
  have small : maxOperators = 256 := rfl
  have more : checkedAdd 64 tally.tally 1 = some _ := checkedAdd_of_lt (by omega)
  refine ⟨{ tally with stakeWeights := weights, tally := tally.tally + 1 }, ?_⟩
  rw [incrementTally, added, ok_bind, more]
  rfl

theorem BallotTally.exists_decrementTally {tally : BallotTally}
    (covered : ∀ component, stakeWeights.get component ≤ tally.stakeWeights.get component)
    (counted : 1 ≤ tally.tally) : ∃ tally', tally.decrementTally stakeWeights = .ok tally' := by
  obtain ⟨weights, removed⟩ := StakeWeights.exists_decrement covered
  refine ⟨{ tally with stakeWeights := weights, tally := tally.tally - 1 }, ?_⟩
  rw [decrementTally, removed, ok_bind, checkedSub_of_le counted]
  rfl

/-- The tally that already holds a ballot, or a free one, takes the vote. -/
theorem BallotBox.Consistent.counts (consistent : box.Consistent)
    (fits : box.CountFits ballot stakeWeights)
    (room : box.uniqueBallots < maxOperators ∨ box.hasBallot ballot = true) :
    ∃ index counted, box.incrementOrCreateBallotTally ballot stakeWeights = .ok (index, counted) := by
  unfold incrementOrCreateBallotTally
  split
  · rename_i index found
    obtain ⟨here, -⟩ := Slots.first_eq_some_iff.mp found
    rw [Bool.and_eq_true] at here
    obtain ⟨tally, raised⟩ := BallotTally.exists_incrementTally (fits index here.2) (by
      rw [consistent.tallies.counted]
      exact voteCount_le _ _)
    refine ⟨index, { box with ballotTallies := box.ballotTallies.put index tally }, ?_⟩
    rw [raised]
    rfl
  · rename_i absent
    have unlisted : ¬ box.hasBallot ballot = true := by
      intro listed
      obtain ⟨i, found⟩ := Option.isSome_iff_exists.mp listed
      have equal := (Slots.first_eq_some_iff.mp found).1
      have missing := Slots.first_eq_none_iff.mp absent i
      rw [equal, Bool.and_true] at missing
      rw [BallotTally.isValid, (Ballot.eq_iff.mp equal).1] at missing
      cases missing
    have room := room.resolve_right unlisted
    split
    · rename_i index free
      have small : maxOperators = 256 := rfl
      have more : checkedAdd 64 box.uniqueBallots 1 = some _ := checkedAdd_of_lt (by omega)
      refine ⟨index, { box with
        ballotTallies := box.ballotTallies.put index (.new (index % 2 ^ 16) ballot stakeWeights)
        uniqueBallots := box.uniqueBallots + 1 }, ?_⟩
      rw [more]
      rfl
    · rename_i full
      have inUse : validTallies box.ballotTallies = maxOperators :=
        validTallies_eq_iff.mpr fun i => by simpa using Slots.first_eq_none_iff.mp full i
      rw [consistent.tallies.unique, inUse] at room
      exact absurd room (lt_irrefl _)

/-- A vote that is counted can be taken off its tally. -/
theorem BallotBox.removes {counts : Fin maxOperators → ℕ}
    {weights : Fin maxOperators → StakeWeights.Component → ℕ}
    (table : TallyTable box.ballotTallies box.uniqueBallots counts weights) {vote : OperatorVote}
    {index : Fin maxOperators} (points : vote.ballotIndex = index) (counted : 1 ≤ counts index)
    (weighed : ∀ component, vote.stakeWeights.get component ≤ weights index component) :
    ∃ removed, box.removePreviousVote vote box.uniqueBallots = .ok removed := by
  have known : vote.ballotIndex < maxOperators := points ▸ index.isLt
  have valid := table.valid_of_count counted
  have same : box.ballotTallies[vote.ballotIndex] = box.ballotTallies[index] := by
    simp only [points, Slots.getElem_fin]
  obtain ⟨prevTally, lowered⟩ : ∃ prevTally,
      box.ballotTallies[index].decrementTally vote.stakeWeights = .ok prevTally := by
    apply BallotTally.exists_decrementTally
    · intro component
      rw [table.weighed]
      exact weighed component
    · rw [table.counted]
      exact counted
  unfold removePreviousVote
  rw [dif_pos known, same, lowered, ok_bind]
  split
  · have some : 1 ≤ box.uniqueBallots := by
      rw [table.unique]
      exact Slots.count_pos_iff.mpr ⟨index, valid⟩
    rw [checkedSub_of_le some]
    exact ⟨_, rfl⟩
  · exact ⟨_, rfl⟩

/-- An operator that voted finds its vote, and any other operator a free entry. -/
theorem VoteTable.exists_entry {votes : Vector OperatorVote maxOperators} {operatorsVoted : ℕ}
    (table : VoteTable votes operatorsVoted) {operators : Finset Pubkey}
    (few : operators.card ≤ maxOperators) (member : operator ∈ operators)
    (votedBy : ∀ i : Fin maxOperators, votes[i].isEmpty = false → votes[i].operator ∈ operators) :
    ∃ entry, Slots.first (fun vote => decide (vote.operator = operator) || vote.isEmpty) votes =
      some entry := by
  by_contra none
  have absent := Slots.first_eq_none_iff.mp (Option.eq_none_iff_forall_ne_some.mpr
    fun entry found => none ⟨entry, found⟩)
  simp only [Bool.or_eq_false_iff, decide_eq_false_iff_not] at absent
  -- all entries are filled by other operators, which are one too few
  have others : (Finset.univ : Finset (Fin maxOperators)).card ≤ (operators.erase operator).card := by
    refine Finset.card_le_card_of_injOn (fun i => votes[i].operator) (fun i _ => ?_) ?_
    · exact Finset.mem_erase.mpr ⟨(absent i).1, votedBy i (absent i).2⟩
    · intro i _ j _ same
      exact table.distinct i j (absent i).2 (absent j).2 same
  rw [Finset.card_univ, Fintype.card_fin, Finset.card_erase_of_mem member] at others
  have some := Finset.card_pos.mpr ⟨operator, member⟩
  omega

/-- A counted vote is recorded: in place of the operator's old vote, or as a new one. -/
theorem BallotBox.Consistent.recordsVote (consistent : box.Consistent) (loaded : operator ≠ .default)
    {operators : Finset Pubkey} (few : operators.card ≤ maxOperators) (member : operator ∈ operators)
    (votedBy : box.VotedBy operators) (undecided : box.isConsensusReached = false)
    (valid : ballot.isValid = true) {counted : BallotBox} {tallyIndex : Fin maxOperators}
    (increment : box.incrementOrCreateBallotTally ballot stakeWeights = .ok (tallyIndex, counted)) :
    ∃ next, counted.recordVote tallyIndex operator stakeWeights currentSlot = .ok next := by
  obtain ⟨raised, -, -, -, frame⟩ := consistent.tallies.raise valid increment
    (fun _ => rfl) fun _ _ => rfl
  have sameVotes : counted.operatorVotes = box.operatorVotes := by rw [frame]
  have sameVoted : counted.operatorsVoted = box.operatorsVoted := by rw [frame]
  have sameReached : counted.isConsensusReached = box.isConsensusReached := by rw [frame]; rfl
  obtain ⟨entry, found⟩ := consistent.votes.exists_entry few member votedBy
  unfold recordVote
  rw [sameVotes, found]
  dsimp only
  split
  · rename_i own
    have filled := consistent.votes.operator_ne_default loaded own
    have known := consistent.votes.known entry filled
    have points : box.operatorVotes[entry].ballotIndex = (⟨_, known⟩ : Fin maxOperators) := rfl
    have counts := voteCount_pos entry points
    obtain ⟨removed, removal⟩ := removes raised points (by omega) fun component => by
      have contribution : pointing (fun vote => vote.stakeWeights.get component)
          (⟨_, known⟩ : Fin maxOperators) box.operatorVotes[entry] ≤
          voteWeight box.operatorVotes (⟨_, known⟩ : Fin maxOperators) component :=
        Slots.le_total entry
      rw [pointing, if_pos points] at contribution
      omega
    rw [sameReached, undecided, if_neg Bool.false_ne_true, removal]
    exact ⟨_, rfl⟩
  · have small : maxOperators = 256 := rfl
    have bounded := consistent.votes.bounded
    rw [sameVoted, checkedAdd_of_lt (by omega)]
    exact ⟨_, rfl⟩

/-! ## A full box -/

theorem BallotBox.isVotingValid_of_undecided (undecided : box.isConsensusReached = false) :
    box.isVotingValid currentSlot validSlotsAfterConsensus = .ok true := by
  have noWinner : box.winningBallot.isValid = false := by
    rw [isConsensusReached, Bool.or_eq_false_iff] at undecided
    exact undecided.2
  rw [isVotingValid, tieBreakerSet, noWinner, Bool.and_false, if_neg Bool.false_ne_true, undecided,
    if_neg Bool.false_ne_true]

/-- A box without a free tally takes no ballot that none of its tallies holds. -/
theorem BallotBox.Consistent.rejects (consistent : box.Consistent)
    (undecided : box.isConsensusReached = false) (valid : ballot.isValid = true)
    (full : ¬ box.uniqueBallots < maxOperators) (unlisted : box.hasBallot ballot = false) :
    box.castVote operator ballot stakeWeights currentSlot validSlotsAfterConsensus =
      .error .ballotTallyFull := by
  have bound := validTallies_le box.ballotTallies
  rw [← consistent.tallies.unique] at bound
  have inUse : validTallies box.ballotTallies = maxOperators := by
    rw [← consistent.tallies.unique]
    omega
  have noTally : Slots.first (fun tally => tally.isValid && tally.ballot.eq ballot)
      box.ballotTallies = none := by
    refine Slots.first_eq_none_iff.mpr fun i => ?_
    have different := Slots.first_eq_none_iff.mp (Option.not_isSome_iff_eq_none.mp
      (Bool.eq_false_iff.mp unlisted)) i
    rw [different, Bool.and_false]
  have noFree : Slots.first (fun tally => !tally.isValid) box.ballotTallies = none := by
    refine Slots.first_eq_none_iff.mpr fun i => ?_
    rw [validTallies_eq_iff.mp inUse i, Bool.not_true]
  rw [castVote, isVotingValid_of_undecided undecided, ok_bind]
  simp only [Bool.not_true, valid, Bool.false_eq_true, if_false, incrementOrCreateBallotTally,
    noTally, noFree, error_bind]

/-- In a full box every entry holds a vote, each for a ballot of its own. -/
theorem BallotBox.Consistent.all_voted_of_full (consistent : box.Consistent)
    (full : box.uniqueBallots = maxOperators) : box.operatorsVoted = maxOperators := by
  have inUse := validTallies_eq_iff.mp (consistent.tallies.unique.symm.trans full)
  have pointedAt : ∀ index : Fin maxOperators, ∃ entry : Fin maxOperators,
      box.operatorVotes[entry].ballotIndex = index := by
    intro index
    have populated := consistent.tallies.populated index (inUse index)
    rw [consistent.tallies.counted] at populated
    obtain ⟨entry, points⟩ := Slots.total_pos_iff.mp populated
    refine ⟨entry, ?_⟩
    by_contra elsewhere
    rw [pointing, if_neg elsewhere] at points
    exact absurd points (lt_irrefl _)
  choose entry points using pointedAt
  have injective : Function.Injective entry := by
    intro i j same
    have pointsI := points i
    rw [same, points j] at pointsI
    exact (Fin.ext pointsI).symm
  have surjective := Finite.injective_iff_surjective.mp injective
  have bounded := consistent.votes.bounded
  by_contra some
  have small : box.operatorsVoted < maxOperators := lt_of_le_of_ne bounded some
  obtain ⟨index, last⟩ := surjective ⟨box.operatorsVoted, small⟩
  have filled := not_empty_of_known (points index ▸ index.isLt)
  rw [last] at filled
  exact absurd ((consistent.votes.filled _).mp filled) (lt_irrefl _)

/-! ## Whole histories -/

variable {calls : List BallotCall} {ncn : Pubkey} {epoch bump slotCreated : ℕ}

theorem BallotBox.run_votedBy {operators : Finset Pubkey} (loaded : ∀ call ∈ calls, call.Loaded)
    (castBy : ∀ call ∈ calls, call.CastBy operators)
    (ran : run (BallotBox.apply spl) calls (.new ncn epoch bump slotCreated) = .ok box) :
    box.Consistent ∧ box.VotedBy operators := by
  refine foldlM_invariant (motive := fun box : BallotBox => box.Consistent ∧ box.VotedBy operators)
    (fun call member box next holds applied => ?_)
    ⟨(new_refines ncn epoch bump slotCreated).consistent, fun i filled => ?_⟩ ran
  · obtain ⟨consistent, votedBy⟩ := holds
    cases call with
    | castVote operator ballot stakeWeights currentSlot validSlotsAfterConsensus =>
      obtain ⟨voteIndex, tallyIndex, cast⟩ := castVote_spec consistent (loaded _ member) applied
      refine ⟨cast.consistent consistent, ?_⟩
      rw [VotedBy, cast.written]
      exact Slots.forall_put
        (P := fun _ (vote : OperatorVote) => vote.isEmpty = false → vote.operator ∈ operators)
        (fun _ => castBy _ member) fun i _ => votedBy i
    | tallyVotes totalStakeWeight currentSlot =>
      rcases tallyVotes_cases applied with rfl | ⟨-, -, heaviest, -, -, rfl⟩
      · exact ⟨consistent, votedBy⟩
      · exact ⟨⟨consistent.votes, consistent.tallies⟩, votedBy⟩
    | setTieBreakerBallot metaMerkleRoot currentEpoch epochsBeforeStall =>
      obtain ⟨-, -, rfl⟩ := setTieBreakerBallot_cases applied
      exact ⟨⟨consistent.votes, consistent.tallies⟩, votedBy⟩
  · rw [show (BallotBox.new ncn epoch bump slotCreated).operatorVotes[i] = .default from
      Vector.getElem_replicate _] at filled
    cases filled

/-- As long as nothing is decided, one of at most as many operators as there are
entries can always vote for a ballot that is tallied, and for any other ballot
unless all tallies are in use. That takes as many votes, for as many ballots;
then a new ballot is refused, whoever votes for it. -/
theorem vote_fails_only_when_tallies_are_full {operators : Finset Pubkey}
    (loaded : ∀ call ∈ calls, call.Loaded) (few : operators.card ≤ maxOperators)
    (castBy : ∀ call ∈ calls, call.CastBy operators)
    (ran : run (BallotBox.apply spl) calls (.new ncn epoch bump slotCreated) = .ok box)
    (undecided : box.isConsensusReached = false) (operatorLoaded : operator ≠ .default)
    (member : operator ∈ operators) (valid : ballot.isValid = true)
    (fits : box.CountFits ballot stakeWeights) :
    (box.uniqueBallots < maxOperators ∨ box.hasBallot ballot = true →
      ∃ next, box.castVote operator ballot stakeWeights currentSlot validSlotsAfterConsensus =
        .ok next) ∧
    (¬ (box.uniqueBallots < maxOperators ∨ box.hasBallot ballot = true) →
      box.castVote operator ballot stakeWeights currentSlot validSlotsAfterConsensus =
        .error .ballotTallyFull ∧
      box.uniqueBallots = maxOperators ∧ box.operatorsVoted = maxOperators) := by
  obtain ⟨consistent, votedBy⟩ := BallotBox.run_votedBy loaded castBy ran
  constructor
  · intro room
    obtain ⟨index, counted, increment⟩ := consistent.counts fits room
    obtain ⟨next, recorded⟩ := consistent.recordsVote operatorLoaded few member votedBy undecided
      valid increment
    exact ⟨next, BallotBox.castVote_eq_ok_iff.mpr
      ⟨BallotBox.isVotingValid_of_undecided undecided, valid, index, counted, increment, recorded⟩⟩
  · intro noRoom
    obtain ⟨full, unlisted⟩ := not_or.mp noRoom
    have bound := validTallies_le box.ballotTallies
    rw [← consistent.tallies.unique] at bound
    have inUse : box.uniqueBallots = maxOperators := by omega
    exact ⟨consistent.rejects undecided valid full (Bool.eq_false_iff.mpr unlisted), inUse,
      consistent.all_voted_of_full inUse⟩

/-! ## As many ballots as operators -/

/-- Distinct for all numbers below 256. -/
def separateOperator (number : ℕ) : Pubkey :=
  ⟨Vector.ofFn fun i => if i.val = 0 then UInt8.ofNat number else 1⟩

/-- Distinct for all numbers below 65536. -/
def separateRoot (number : ℕ) : Bytes32 :=
  Vector.ofFn fun i =>
    if i.val = 0 then UInt8.ofNat number
    else if i.val = 1 then UInt8.ofNat (number / 256)
    else 1

/-- Every operator votes for a root of its own. -/
def separateVotes (operators : ℕ) : List BallotCall :=
  (List.range operators).map fun number =>
    .castVote (separateOperator number) (.new (separateRoot number)) (.new 1) number 1000

theorem separateOperator_injective {left right : ℕ} (leftSmall : left < 256) (rightSmall : right < 256)
    (same : separateOperator left = separateOperator right) : left = right := by
  have bytes := congrArg (fun key : Pubkey => key.toBytes[0]) same
  simp only [separateOperator, Vector.getElem_ofFn, if_true, ← UInt8.toNat_inj,
    UInt8.toNat_ofNat'] at bytes
  omega

theorem separateRoot_injective {left right : ℕ} (leftSmall : left < 65536)
    (rightSmall : right < 65536) (same : separateRoot left = separateRoot right) : left = right := by
  have low := congrArg (fun root : Bytes32 => root[0]) same
  have high := congrArg (fun root : Bytes32 => root[1]) same
  simp only [separateRoot, Vector.getElem_ofFn, if_true, one_ne_zero, if_false, ← UInt8.toNat_inj,
    UInt8.toNat_ofNat'] at low high
  omega

theorem separateOperator_loaded (number : ℕ) : separateOperator number ≠ .default := by
  intro same
  have bytes := congrArg (fun key : Pubkey => key.toBytes[1]) same
  simp [separateOperator, Pubkey.default] at bytes

theorem separateRoot_valid (number : ℕ) : (Ballot.new (separateRoot number)).isValid = true := by
  rw [Ballot.new, Vector.any_iff_exists]
  refine ⟨2, by norm_num, ?_⟩
  simp [separateRoot]

theorem separateVotes_succ (operators : ℕ) :
    separateVotes (operators + 1) = separateVotes operators ++
      [.castVote (separateOperator operators) (.new (separateRoot operators)) (.new 1) operators
        1000] := by
  simp [separateVotes, List.range_succ]

theorem separateVotes_loaded (operators : ℕ) : ∀ call ∈ separateVotes operators, call.Loaded := by
  intro call member
  obtain ⟨number, -, rfl⟩ := List.mem_map.mp member
  exact separateOperator_loaded number

/-- The map these votes build. -/
theorem lastVotes_separateVotes {operators : ℕ} (few : operators ≤ 256) {operator : Pubkey}
    {vote : LastVote} :
    lastVotes (separateVotes operators) operator = some vote ↔
      ∃ number < operators, separateOperator number = operator ∧
        ⟨separateRoot number, .new 1, number⟩ = vote := by
  induction operators with
  | zero => simp [separateVotes, lastVotes]
  | succ last ih =>
    rw [separateVotes_succ, lastVotes, List.foldl_append, ← lastVotes, List.foldl_cons, List.foldl_nil,
      LastVotes.record]
    by_cases same : operator = separateOperator last
    · rw [same, Function.update_self]
      constructor
      · intro recorded
        exact ⟨last, last.lt_succ_self, rfl, Option.some.inj recorded⟩
      · rintro ⟨number, small, own, recorded⟩
        have here := separateOperator_injective (by omega) (by omega) own
        rw [here] at recorded
        exact congrArg some recorded
    · rw [Function.update_of_ne same, ih (by omega)]
      constructor
      · rintro ⟨number, small, own, rfl⟩
        exact ⟨number, by omega, own, rfl⟩
      · rintro ⟨number, small, own, rfl⟩
        have other : number ≠ last := by
          rintro rfl
          exact same own.symm
        exact ⟨number, by omega, own, rfl⟩

def separateOperators (operators : ℕ) : Finset Pubkey :=
  (Finset.range operators).image separateOperator

theorem separateVotes_castBy {operators some : ℕ} (le : operators ≤ some) :
    ∀ call ∈ separateVotes operators, call.CastBy (separateOperators some) := by
  intro call member
  obtain ⟨number, small, rfl⟩ := List.mem_map.mp member
  rw [List.mem_range] at small
  exact Finset.mem_image_of_mem _ (Finset.mem_range.mpr (by omega))

theorem separateOperators_card (operators : ℕ) : (separateOperators operators).card ≤ operators :=
  Finset.card_image_le.trans_eq (Finset.card_range operators)

section Separate
variable {operators : ℕ} (few : operators ≤ 256)
variable (refines : box.Refines (lastVotes (separateVotes operators)))
include few refines

/-- No tally holds the root of a later operator. -/
theorem separateVotes_unlisted {number : ℕ} (later : operators ≤ number) (small : number < 65536)
    (i : Fin maxOperators) : box.ballotTallies[i].ballot.eq (.new (separateRoot number)) = false := by
  rw [Bool.eq_false_iff]
  intro equal
  obtain ⟨valid, -, sameRoot⟩ := Ballot.eq_iff.mp equal
  have populated := refines.consistent.tallies.populated i valid
  rw [refines.consistent.tallies.counted] at populated
  obtain ⟨entry, points⟩ := Slots.total_pos_iff.mp populated
  have pointsHere : box.operatorVotes[entry].ballotIndex = i := by
    by_contra elsewhere
    rw [pointing, if_neg elsewhere] at points
    exact absurd points (lt_irrefl _)
  have filled := not_empty_of_known (pointsHere ▸ i.isLt)
  obtain ⟨voter, small', -, same⟩ := (lastVotes_separateVotes few).mp
    ((refines.records box.operatorVotes[entry].operator ⟨box.ballotTallies[i].ballot.root,
      box.operatorVotes[entry].stakeWeights, box.operatorVotes[entry].slotVoted⟩).mpr
      ⟨entry, i, filled, rfl, rfl, rfl, pointsHere, valid, rfl⟩)
  have roots : separateRoot voter = separateRoot number :=
    (congrArg LastVote.root same).trans sameRoot
  have here := separateRoot_injective (by omega) small roots
  omega

theorem separateVotes_not_hasBallot {number : ℕ} (later : operators ≤ number)
    (small : number < 65536) : ¬ box.hasBallot (.new (separateRoot number)) = true := by
  intro listed
  obtain ⟨i, found⟩ := Option.isSome_iff_exists.mp listed
  have equal := (Slots.first_eq_some_iff.mp found).1
  rw [separateVotes_unlisted few refines later small i] at equal
  cases equal

theorem separateVotes_countFits {number : ℕ} (later : operators ≤ number) (small : number < 65536) :
    box.CountFits (.new (separateRoot number)) stakeWeights := by
  intro i equal
  rw [separateVotes_unlisted few refines later small i] at equal
  cases equal

end Separate

/-- Every one of these votes is accepted. -/
theorem separateVotes_run {operators : ℕ} (few : operators ≤ 256) :
    ∃ box : BallotBox, run (BallotBox.apply .u256) (separateVotes operators)
        (.new .default 3 255 4) = .ok box ∧
      box.isConsensusReached = false ∧ box.operatorsVoted ≤ operators := by
  induction operators with
  | zero => exact ⟨.new .default 3 255 4, rfl, rfl, le_rfl⟩
  | succ last ih =>
    obtain ⟨box, ran, undecided, voted⟩ := ih (by omega)
    have refines := BallotBox.run_refines (separateVotes_loaded last) ran
    obtain ⟨consistent, votedBy⟩ := BallotBox.run_votedBy (separateVotes_loaded last)
      (separateVotes_castBy last.le_succ) ran
    have room : box.uniqueBallots < maxOperators := by
      have bound := validTallies_le box.ballotTallies
      rw [← consistent.tallies.unique] at bound
      refine lt_of_le_of_ne bound fun full => ?_
      have everybody : box.operatorsVoted = 256 := consistent.all_voted_of_full full
      omega
    have fits : box.CountFits (.new (separateRoot last)) (.new 1) :=
      separateVotes_countFits (by omega) refines le_rfl (by omega)
    obtain ⟨index, counted, increment⟩ := consistent.counts fits (.inl room)
    obtain ⟨next, recorded⟩ : ∃ next,
        counted.recordVote index (separateOperator last) (.new 1) last = .ok next :=
      consistent.recordsVote (separateOperator_loaded last)
        ((separateOperators_card (last + 1)).trans few)
        (Finset.mem_image_of_mem _ (Finset.mem_range.mpr last.lt_succ_self)) votedBy undecided
        (separateRoot_valid last) increment
    have cast : box.castVote (separateOperator last) (.new (separateRoot last)) (.new 1) last 1000 =
        .ok next :=
      BallotBox.castVote_eq_ok_iff.mpr ⟨BallotBox.isVotingValid_of_undecided undecided,
        separateRoot_valid last, index, counted, increment, recorded⟩
    obtain ⟨voteIndex, tallyIndex, spec⟩ :=
      castVote_spec consistent (separateOperator_loaded last) cast
    refine ⟨next, ?_, ?_, ?_⟩
    · rw [separateVotes_succ, run_append, ran, ok_bind, run_singleton]
      exact cast
    · rw [BallotBox.isConsensusReached, spec.slot, spec.winner]
      exact undecided
    · rcases spec.entry with ⟨-, -, -, same⟩ | ⟨-, -, -, more⟩
      · omega
      · omega

/-- 255 operators voted, each for a root of its own, and the first of them votes again, for
yet another root. -/
theorem switch_succeeds_while_a_tally_is_free :
    ∃ box : BallotBox, run (BallotBox.apply .u256) (separateVotes 255) (.new .default 3 255 4) =
        .ok box ∧
      ∃ next, box.castVote (separateOperator 0) (.new (separateRoot 255)) (.new 1) 255 1000 =
        .ok next := by
  have few : 255 ≤ 256 := by norm_num
  obtain ⟨box, ran, undecided, voted⟩ := separateVotes_run few
  have refines := BallotBox.run_refines (separateVotes_loaded 255) ran
  have free : box.uniqueBallots < maxOperators := by
    have bound := validTallies_le box.ballotTallies
    rw [← refines.consistent.tallies.unique] at bound
    refine lt_of_le_of_ne bound fun full => ?_
    have everybody : box.operatorsVoted = 256 := refines.consistent.all_voted_of_full full
    omega
  refine ⟨box, ran, (vote_fails_only_when_tallies_are_full (separateVotes_loaded 255)
    ((separateOperators_card 255).trans few) (separateVotes_castBy le_rfl) ran undecided
    (separateOperator_loaded 0) ?_ (separateRoot_valid 255) ?_).1 (.inl free)⟩
  · exact Finset.mem_image_of_mem _ (Finset.mem_range.mpr (by norm_num))
  · exact separateVotes_countFits few refines le_rfl (by norm_num)

/-- All their tallies are in use. -/
theorem separateVotes_full (refines : box.Refines (lastVotes (separateVotes 256))) :
    box.uniqueBallots = maxOperators := by
  rw [refines.consistent.tallies.unique, validTallies_eq_iff]
  have placed : ∀ number : Fin maxOperators, ∃ index : Fin maxOperators,
      box.ballotTallies[index].isValid = true ∧
        box.ballotTallies[index].ballot.root = separateRoot number := by
    intro number
    obtain ⟨entry, index, -, -, -, -, -, valid, root⟩ :=
      (refines.records (separateOperator number) ⟨separateRoot number, .new 1, number⟩).mp
        ((lastVotes_separateVotes le_rfl).mpr ⟨number, number.isLt, rfl, rfl⟩)
    exact ⟨index, valid, root⟩
  choose index valid root using placed
  have injective : Function.Injective index := by
    intro left right same
    have roots := (root left).symm.trans (same ▸ root right)
    have leftSmall : left.val < 256 := left.isLt
    have rightSmall : right.val < 256 := right.isLt
    exact Fin.ext (separateRoot_injective (by omega) (by omega) roots)
  intro i
  obtain ⟨number, rfl⟩ := Finite.injective_iff_surjective.mp injective i
  exact valid number

/-- All 256 operators voted, each for a root of its own, and none of them can vote
for another root any more, not even instead of its own. -/
theorem full_ballot_box_rejects_switch :
    ∃ box : BallotBox, (∀ call ∈ separateVotes 256, call.Loaded ∧ call.CastBy (separateOperators 256)) ∧
      (separateOperators 256).card ≤ 256 ∧ separateOperator 0 ∈ separateOperators 256 ∧
      run (BallotBox.apply .u256) (separateVotes 256) (.new .default 3 255 4) = .ok box ∧
      box.isConsensusReached = false ∧ (Ballot.new (separateRoot 256)).isValid = true ∧
      box.CountFits (.new (separateRoot 256)) (.new 1) ∧
      box.castVote (separateOperator 0) (.new (separateRoot 256)) (.new 1) 256 1000 =
        .error .ballotTallyFull := by
  obtain ⟨box, ran, undecided, -⟩ := separateVotes_run (le_refl 256)
  have refines := BallotBox.run_refines (separateVotes_loaded 256) ran
  refine ⟨box, fun call member => ⟨separateVotes_loaded 256 call member,
    separateVotes_castBy le_rfl call member⟩, separateOperators_card 256,
    Finset.mem_image_of_mem _ (Finset.mem_range.mpr (by norm_num)), ran, undecided,
    separateRoot_valid 256, separateVotes_countFits le_rfl refines le_rfl (by norm_num), ?_⟩
  refine refines.consistent.rejects undecided (separateRoot_valid 256) ?_
    (Bool.eq_false_iff.mpr (separateVotes_not_hasBallot le_rfl refines le_rfl (by norm_num)))
  rw [separateVotes_full refines]
  exact lt_irrefl _

end TipRouter
