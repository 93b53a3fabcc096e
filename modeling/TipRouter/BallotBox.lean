import TipRouter.PreciseNumber
import TipRouter.StakeWeights

/-! The ballot box, `core/src/ballot_box.rs`: one vote for each operator, one
tally for each distinct root, the winning ballot and the slot it won at. A
mutator returns the new account; where it fails the transaction is rolled
back, so the state a failing mutator leaves behind is not represented. -/
namespace TipRouter
open Runs

/-! ## Ballots -/

@[ext] structure Ballot where
  metaMerkleRoot : Bytes32
  isValid : Bool
  deriving DecidableEq

namespace Ballot

def default : Ballot where
  metaMerkleRoot := Vector.replicate 32 0
  isValid := false

/-- The all-zero root is the one root no ballot can carry. -/
def new (merkleRoot : Bytes32) : Ballot where
  metaMerkleRoot := merkleRoot
  isValid := merkleRoot.any (· != 0)

def root (self : Ballot) : Bytes32 := self.metaMerkleRoot

/-- `PartialEq`: an invalid ballot equals nothing, itself included. -/
def eq (self other : Ballot) : Bool :=
  if !self.isValid || !other.isValid then false
  else self.metaMerkleRoot == other.metaMerkleRoot

@[simp] theorem eq_iff {self other : Ballot} :
    self.eq other = true ↔
      self.isValid = true ∧ other.isValid = true ∧ self.metaMerkleRoot = other.metaMerkleRoot := by
  cases valid : self.isValid <;> cases otherValid : other.isValid <;> simp [eq, valid, otherValid]

end Ballot

/-! ## Tallies -/

structure BallotTally where
  index : ℕ
  ballot : Ballot
  stakeWeights : StakeWeights
  tally : ℕ
  deriving DecidableEq

namespace BallotTally

def default : BallotTally where
  index := u16Max
  ballot := .default
  stakeWeights := .default
  tally := 0

def new (index : ℕ) (ballot : Ballot) (stakeWeights : StakeWeights) : BallotTally where
  index := index
  ballot := ballot
  stakeWeights := stakeWeights
  tally := 1

def isValid (self : BallotTally) : Bool := self.ballot.isValid

def incrementTally (self : BallotTally) (stakeWeights : StakeWeights) :
    Except TipRouterError BallotTally := do
  let weights ← self.stakeWeights.increment stakeWeights
  let tally ← okOr (checkedAdd 64 self.tally 1) .arithmeticOverflow
  return { self with stakeWeights := weights, tally := tally }

def decrementTally (self : BallotTally) (stakeWeights : StakeWeights) :
    Except TipRouterError BallotTally := do
  let weights ← self.stakeWeights.decrement stakeWeights
  let tally ← okOr (checkedSub self.tally 1) .arithmeticOverflow
  return { self with stakeWeights := weights, tally := tally }

end BallotTally

/-! ## Votes -/

structure OperatorVote where
  operator : Pubkey
  slotVoted : ℕ
  stakeWeights : StakeWeights
  ballotIndex : ℕ
  deriving DecidableEq

namespace OperatorVote

def default : OperatorVote where
  operator := .default
  slotVoted := 0
  stakeWeights := .default
  ballotIndex := u16Max

def new (ballotIndex : ℕ) (operator : Pubkey) (currentSlot : ℕ) (stakeWeights : StakeWeights) :
    OperatorVote where
  operator := operator
  ballotIndex := ballotIndex % 2 ^ 16
  slotVoted := currentSlot
  stakeWeights := stakeWeights

def isEmpty (self : OperatorVote) : Bool := self.ballotIndex == u16Max

end OperatorVote

/-! ## The box -/

structure BallotBox where
  ncn : Pubkey
  epoch : ℕ
  bump : ℕ
  slotCreated : ℕ
  slotConsensusReached : ℕ
  operatorsVoted : ℕ
  uniqueBallots : ℕ
  winningBallot : Ballot
  operatorVotes : Vector OperatorVote maxOperators
  ballotTallies : Vector BallotTally maxOperators
  deriving DecidableEq

/-- `precise_consensus()`. -/
def preciseConsensus (spl : SplMath) : Except TipRouterError spl.PreciseNumber := do
  let numerator ← okOr (spl.new 2) .newPreciseNumberError
  let denominator ← okOr (spl.new 3) .newPreciseNumberError
  okOr (spl.checkedDiv numerator denominator) .denominatorIsZero

namespace BallotBox

/-- `BallotBox::new`; `initialize` sets the same fields one by one. -/
def new (ncn : Pubkey) (epoch bump currentSlot : ℕ) : BallotBox where
  ncn := ncn
  epoch := epoch
  bump := bump
  slotCreated := currentSlot
  slotConsensusReached := defaultConsensusReachedSlot
  operatorsVoted := 0
  uniqueBallots := 0
  winningBallot := .default
  operatorVotes := Vector.replicate maxOperators .default
  ballotTallies := Vector.replicate maxOperators .default

def hasBallot (self : BallotBox) (ballot : Ballot) : Bool :=
  (Slots.first (fun tally => tally.ballot.eq ballot) self.ballotTallies).isSome

def isConsensusReached (self : BallotBox) : Bool :=
  self.slotConsensusReached != defaultConsensusReachedSlot || self.winningBallot.isValid

def tieBreakerSet (self : BallotBox) : Bool :=
  self.slotConsensusReached == defaultConsensusReachedSlot && self.winningBallot.isValid

def getWinningBallotTally (self : BallotBox) : Except TipRouterError BallotTally :=
  if !self.winningBallot.isValid then .error .consensusNotReached
  else match Slots.first (fun tally => tally.ballot.eq self.winningBallot) self.ballotTallies with
    | some index => .ok self.ballotTallies[index]
    | none => .error .ballotTallyNotFoundFull

def setWinningBallot (self : BallotBox) (ballot : Ballot) : BallotBox :=
  { self with winningBallot := ballot }

/-- Voting is over as soon as the tie breaker is set, and some slots after
consensus was reached by voting. -/
def isVotingValid (self : BallotBox) (currentSlot validSlotsAfterConsensus : ℕ) :
    Except TipRouterError Bool :=
  if self.tieBreakerSet then .ok false
  else if self.isConsensusReached then do
    let lastSlot ← okOr (checkedAdd 64 self.slotConsensusReached validSlotsAfterConsensus)
      .arithmeticOverflow
    return decide (currentSlot ≤ lastSlot)
  else .ok true

def incrementOrCreateBallotTally (self : BallotBox) (ballot : Ballot)
    (stakeWeights : StakeWeights) : Except TipRouterError (Fin maxOperators × BallotBox) :=
  match Slots.first (fun tally => tally.isValid && tally.ballot.eq ballot) self.ballotTallies with
  | some tallyIndex => do
    let tally ← self.ballotTallies[tallyIndex].incrementTally stakeWeights
    return (tallyIndex, { self with ballotTallies := self.ballotTallies.put tallyIndex tally })
  | none =>
    match Slots.first (fun tally => !tally.isValid) self.ballotTallies with
    | some tallyIndex => do
      let tally := BallotTally.new (tallyIndex % 2 ^ 16) ballot stakeWeights
      let uniqueBallots ← okOr (checkedAdd 64 self.uniqueBallots 1) .arithmeticOverflow
      return (tallyIndex, { self with
        ballotTallies := self.ballotTallies.put tallyIndex tally
        uniqueBallots := uniqueBallots })
    | none => .error .ballotTallyFull

/-- The block of `cast_vote` that takes the operator's previous vote off the
tally it was counted in, and wipes that tally when nobody is left in it.
`uniqueBallots` is the count read before the operator's entry was found. -/
def removePreviousVote (self : BallotBox) (vote : OperatorVote) (uniqueBallots : ℕ) :
    Except TipRouterError BallotBox :=
  -- `get_mut` finds no tally for the sentinel index of an empty entry
  if known : vote.ballotIndex < maxOperators then do
    let prevTally ← self.ballotTallies[vote.ballotIndex].decrementTally vote.stakeWeights
    if prevTally.tally = 0 then do
      let uniqueBallots ← okOr (checkedSub uniqueBallots 1) .arithmeticOverflow
      return { self with
        ballotTallies := self.ballotTallies.set vote.ballotIndex .default
        uniqueBallots := uniqueBallots }
    else
      return { self with ballotTallies := self.ballotTallies.set vote.ballotIndex prevTally }
  else .ok self

/-- The loop of `cast_vote` over `operator_votes`, which ends at the
operator's own entry or at the first empty one, whichever comes first. -/
def recordVote (self : BallotBox) (ballotIndex : Fin maxOperators) (operator : Pubkey)
    (stakeWeights : StakeWeights) (currentSlot : ℕ) : Except TipRouterError BallotBox :=
  let uniqueBallots := self.uniqueBallots
  let consensusReached := self.isConsensusReached
  let operatorVote := OperatorVote.new ballotIndex operator currentSlot stakeWeights
  match Slots.first (fun vote => decide (vote.operator = operator) || vote.isEmpty)
      self.operatorVotes with
  | some voteIndex =>
    if self.operatorVotes[voteIndex].operator = operator then
      if consensusReached then .error .consensusAlreadyReached
      else do
        let self ← self.removePreviousVote self.operatorVotes[voteIndex] uniqueBallots
        return { self with operatorVotes := self.operatorVotes.put voteIndex operatorVote }
    else do
      let operatorsVoted ← okOr (checkedAdd 64 self.operatorsVoted 1) .arithmeticOverflow
      return { self with
        operatorVotes := self.operatorVotes.put voteIndex operatorVote
        operatorsVoted := operatorsVoted }
  | none => .error .operatorVotesFull

def castVote (self : BallotBox) (operator : Pubkey) (ballot : Ballot) (stakeWeights : StakeWeights)
    (currentSlot validSlotsAfterConsensus : ℕ) : Except TipRouterError BallotBox := do
  let votingValid ← self.isVotingValid currentSlot validSlotsAfterConsensus
  if !votingValid then .error .votingNotValid
  else if !ballot.isValid then .error .badBallot
  else do
    let (ballotIndex, self) ← self.incrementOrCreateBallotTally ballot stakeWeights
    self.recordVote ballotIndex operator stakeWeights currentSlot

def tallyVotes (spl : SplMath) (self : BallotBox) (totalStakeWeight currentSlot : ℕ) :
    Except TipRouterError BallotBox :=
  if self.slotConsensusReached ≠ defaultConsensusReachedSlot then .ok self
  else do
    let maxTally := Slots.maxByKey (fun tally => tally.stakeWeights.stakeWeight) self.ballotTallies
    let ballotStakeWeight := maxTally.stakeWeights.stakeWeight
    let preciseBallotStakeWeight ← okOr (spl.new ballotStakeWeight) .newPreciseNumberError
    let preciseTotalStakeWeight ← okOr (spl.new totalStakeWeight) .newPreciseNumberError
    let ballotPercentageOfTotal ←
      okOr (spl.checkedDiv preciseBallotStakeWeight preciseTotalStakeWeight) .denominatorIsZero
    let targetPrecisePercentage ← preciseConsensus spl
    let consensusReached := spl.greaterThanOrEqual ballotPercentageOfTotal targetPrecisePercentage
    return if consensusReached && !self.winningBallot.isValid then
      { self with slotConsensusReached := currentSlot }.setWinningBallot maxTally.ballot
    else self

def setTieBreakerBallot (self : BallotBox) (metaMerkleRoot : Bytes32)
    (currentEpoch epochsBeforeStall : ℕ) : Except TipRouterError BallotBox :=
  if self.isConsensusReached then .error .consensusAlreadyReached
  else do
    let stallEpoch ← okOr (checkedAdd 64 self.epoch epochsBeforeStall) .arithmeticOverflow
    if currentEpoch < stallEpoch then .error .votingNotFinalized
    else
      let finalizedBallot := Ballot.new metaMerkleRoot
      if !self.hasBallot finalizedBallot then .error .tieBreakerNotInPriorVotes
      else return self.setWinningBallot finalizedBallot

/-! ## What each mutator can do -/

variable {box next : BallotBox}

private theorem index_as_u16 (index : Fin maxOperators) : index.val % 2 ^ 16 = index :=
  Nat.mod_eq_of_lt (index.isLt.trans (by norm_num))

/-- Voting is valid without a tie breaker, until some slots after consensus. -/
theorem isVotingValid_eq_ok_true_iff {currentSlot validSlotsAfterConsensus : ℕ} :
    box.isVotingValid currentSlot validSlotsAfterConsensus = .ok true ↔
      box.tieBreakerSet = false ∧ (box.isConsensusReached = true →
        box.slotConsensusReached + validSlotsAfterConsensus < 2 ^ 64 ∧
          currentSlot ≤ box.slotConsensusReached + validSlotsAfterConsensus) := by
  unfold isVotingValid
  cases box.tieBreakerSet with
  | true => simp
  | false =>
    cases box.isConsensusReached with
    | false => simp
    | true =>
      simp only [Bool.false_eq_true, if_false, if_true, true_implies, true_and, bind_eq_ok,
        okOr_eq_ok_iff, checkedAdd_eq_some_iff, pure_eq_ok_iff, decide_eq_true_eq]
      constructor
      · rintro ⟨lastSlot, ⟨fits, rfl⟩, early⟩
        exact ⟨fits, early⟩
      · rintro ⟨fits, early⟩
        exact ⟨_, ⟨fits, rfl⟩, early⟩

/-- The ballot is counted in the tally that already holds its root, or in the
first unused tally when no tally holds it. -/
theorem incrementOrCreateBallotTally_cases {ballot : Ballot} {stakeWeights : StakeWeights}
    {tallyIndex : Fin maxOperators}
    (counted : box.incrementOrCreateBallotTally ballot stakeWeights = .ok (tallyIndex, next)) :
    (∃ tally, box.ballotTallies[tallyIndex].ballot.eq ballot = true ∧
      box.ballotTallies[tallyIndex].incrementTally stakeWeights = .ok tally ∧
      next = { box with ballotTallies := box.ballotTallies.put tallyIndex tally }) ∨
    ((∀ i : Fin maxOperators, box.ballotTallies[i].ballot.eq ballot = false) ∧
      box.ballotTallies[tallyIndex].isValid = false ∧
      next = { box with
        ballotTallies := box.ballotTallies.put tallyIndex (.new tallyIndex ballot stakeWeights)
        uniqueBallots := box.uniqueBallots + 1 }) := by
  unfold incrementOrCreateBallotTally at counted
  split at counted
  · rename_i found
    obtain ⟨tally, incremented, same⟩ := bind_eq_ok.mp counted
    cases same
    obtain ⟨here, -⟩ := Slots.first_eq_some_iff.mp found
    rw [Bool.and_eq_true] at here
    exact .inl ⟨tally, here.2, incremented, rfl⟩
  · rename_i absent
    split at counted
    · rename_i free
      obtain ⟨uniqueBallots, incremented, same⟩ := bind_eq_ok.mp counted
      rw [okOr_eq_ok_iff, checkedAdd_eq_some_iff] at incremented
      obtain ⟨-, rfl⟩ := incremented
      cases same
      obtain ⟨here, -⟩ := Slots.first_eq_some_iff.mp free
      refine .inr ⟨fun i => ?_, by simpa using here, ?_⟩
      · have missing := Slots.first_eq_none_iff.mp absent i
        -- a tally equal to the ballot is valid, so the first test adds nothing
        cases equal : box.ballotTallies[i].ballot.eq ballot with
        | false => rfl
        | true =>
          rw [equal, Bool.and_true] at missing
          rw [← missing]
          exact (Ballot.eq_iff.mp equal).1.symm
      · rw [index_as_u16]
    · cases counted

/-- Taking a vote off its tally lowers that tally, and wipes it at zero. -/
theorem removePreviousVote_cases {vote : OperatorVote} {uniqueBallots : ℕ}
    (removed : box.removePreviousVote vote uniqueBallots = .ok next) :
    (maxOperators ≤ vote.ballotIndex ∧ next = box) ∨
    ∃ tallyIndex : Fin maxOperators, vote.ballotIndex = tallyIndex ∧
      ∃ prevTally, box.ballotTallies[tallyIndex].decrementTally vote.stakeWeights = .ok prevTally ∧
        ((prevTally.tally = 0 ∧ 1 ≤ uniqueBallots ∧
          next = { box with
            ballotTallies := box.ballotTallies.put tallyIndex .default
            uniqueBallots := uniqueBallots - 1 }) ∨
        (prevTally.tally ≠ 0 ∧
          next = { box with ballotTallies := box.ballotTallies.put tallyIndex prevTally })) := by
  unfold removePreviousVote at removed
  split at removed
  · rename_i known
    obtain ⟨prevTally, decremented, rest⟩ := bind_eq_ok.mp removed
    refine .inr ⟨⟨vote.ballotIndex, known⟩, rfl, prevTally, decremented, ?_⟩
    split at rest
    · rename_i emptied
      obtain ⟨unique, lowered, same⟩ := bind_eq_ok.mp rest
      rw [okOr_eq_ok_iff, checkedSub_eq_some_iff] at lowered
      obtain ⟨positive, rfl⟩ := lowered
      cases same
      exact .inl ⟨emptied, positive, rfl⟩
    · rename_i kept
      cases rest
      exact .inr ⟨kept, rfl⟩
  · rename_i unknown
    cases removed
    exact .inl ⟨Nat.le_of_not_lt unknown, rfl⟩

/-- A first vote takes the first empty entry; a later vote of the same operator
replaces its entry, before consensus only, after leaving its old tally. -/
theorem recordVote_cases {ballotIndex : Fin maxOperators} {operator : Pubkey}
    {stakeWeights : StakeWeights} {currentSlot : ℕ}
    (recorded : box.recordVote ballotIndex operator stakeWeights currentSlot = .ok next) :
    ∃ voteIndex : Fin maxOperators,
      (∀ j < voteIndex, box.operatorVotes[j].operator ≠ operator ∧
        box.operatorVotes[j].isEmpty = false) ∧
      ((box.operatorVotes[voteIndex].operator = operator ∧ box.isConsensusReached = false ∧
          ∃ removed, box.removePreviousVote box.operatorVotes[voteIndex] box.uniqueBallots =
              .ok removed ∧
            next = { removed with
              operatorVotes := removed.operatorVotes.put voteIndex
                ⟨operator, currentSlot, stakeWeights, ballotIndex⟩ }) ∨
        (box.operatorVotes[voteIndex].operator ≠ operator ∧
          box.operatorVotes[voteIndex].isEmpty = true ∧
          next = { box with
            operatorVotes := box.operatorVotes.put voteIndex
              ⟨operator, currentSlot, stakeWeights, ballotIndex⟩
            operatorsVoted := box.operatorsVoted + 1 })) := by
  unfold recordVote OperatorVote.new at recorded
  rw [index_as_u16] at recorded
  dsimp only at recorded
  split at recorded
  · rename_i voteIndex found
    obtain ⟨here, earlier⟩ := Slots.first_eq_some_iff.mp found
    refine ⟨voteIndex, fun j before => by simpa using earlier j before, ?_⟩
    split at recorded
    · rename_i own
      split at recorded
      · cases recorded
      · rename_i open_
        obtain ⟨removed, removal, same⟩ := bind_eq_ok.mp recorded
        cases same
        exact .inl ⟨own, by simpa using open_, removed, removal, rfl⟩
    · rename_i other
      obtain ⟨operatorsVoted, incremented, same⟩ := bind_eq_ok.mp recorded
      rw [okOr_eq_ok_iff, checkedAdd_eq_some_iff] at incremented
      obtain ⟨-, rfl⟩ := incremented
      cases same
      rw [Bool.or_eq_true, decide_eq_true_eq] at here
      exact .inr ⟨other, here.resolve_left other, rfl⟩
  · cases recorded

theorem castVote_eq_ok_iff {operator : Pubkey} {ballot : Ballot} {stakeWeights : StakeWeights}
    {currentSlot validSlotsAfterConsensus : ℕ} :
    box.castVote operator ballot stakeWeights currentSlot validSlotsAfterConsensus = .ok next ↔
      box.isVotingValid currentSlot validSlotsAfterConsensus = .ok true ∧ ballot.isValid = true ∧
        ∃ ballotIndex counted,
          box.incrementOrCreateBallotTally ballot stakeWeights = .ok (ballotIndex, counted) ∧
            counted.recordVote ballotIndex operator stakeWeights currentSlot = .ok next := by
  unfold castVote
  rw [bind_eq_ok]
  constructor
  · rintro ⟨votingValid, validity, rest⟩
    cases votingValid with
    | false => cases rest
    | true =>
      cases valid : ballot.isValid with
      | false =>
        rw [valid] at rest
        cases rest
      | true =>
        simp only [valid, Bool.not_true, Bool.false_eq_true, if_false] at rest
        obtain ⟨⟨ballotIndex, counted⟩, first, second⟩ := bind_eq_ok.mp rest
        exact ⟨validity, rfl, ballotIndex, counted, first, second⟩
  · rintro ⟨validity, valid, ballotIndex, counted, first, second⟩
    refine ⟨true, validity, ?_⟩
    simp only [valid, Bool.not_true, Bool.false_eq_true, if_false]
    exact bind_eq_ok.mpr ⟨(ballotIndex, counted), first, second⟩

/-- Casting a vote never touches the winner or the slot it won at. -/
theorem castVote_frame {operator : Pubkey} {ballot : Ballot} {stakeWeights : StakeWeights}
    {currentSlot validSlotsAfterConsensus : ℕ}
    (cast : box.castVote operator ballot stakeWeights currentSlot validSlotsAfterConsensus =
      .ok next) :
    next.slotConsensusReached = box.slotConsensusReached ∧
      next.winningBallot = box.winningBallot ∧ next.epoch = box.epoch ∧ next.ncn = box.ncn := by
  obtain ⟨-, -, tallyIndex, counted, increment, recorded⟩ := castVote_eq_ok_iff.mp cast
  have first : counted.slotConsensusReached = box.slotConsensusReached ∧
      counted.winningBallot = box.winningBallot ∧ counted.epoch = box.epoch ∧
      counted.ncn = box.ncn := by
    rcases incrementOrCreateBallotTally_cases increment with ⟨tally, -, -, rfl⟩ | ⟨-, -, rfl⟩
    · exact ⟨rfl, rfl, rfl, rfl⟩
    · exact ⟨rfl, rfl, rfl, rfl⟩
  obtain ⟨voteIndex, -, ⟨-, -, removed, removal, rfl⟩ | ⟨-, -, rfl⟩⟩ := recordVote_cases recorded
  · rcases removePreviousVote_cases removal with
      ⟨-, rfl⟩ | ⟨index, -, prevTally, -, ⟨-, -, rfl⟩ | ⟨-, rfl⟩⟩
    · exact first
    · exact first
    · exact first
  · exact first

/-- Tallying leaves the box as it is, or makes the heaviest ballot the winner
when none is set. -/
theorem tallyVotes_cases {spl : SplMath} {totalStakeWeight currentSlot : ℕ}
    (tallied : box.tallyVotes spl totalStakeWeight currentSlot = .ok next) :
    next = box ∨
    (box.slotConsensusReached = defaultConsensusReachedSlot ∧ box.winningBallot.isValid = false ∧
      ∃ heaviest : Fin maxOperators,
        (∀ i : Fin maxOperators, box.ballotTallies[i].stakeWeights.stakeWeight ≤
          box.ballotTallies[heaviest].stakeWeights.stakeWeight) ∧
        (∃ weight total percentage target,
          spl.new box.ballotTallies[heaviest].stakeWeights.stakeWeight = some weight ∧
          spl.new totalStakeWeight = some total ∧ spl.checkedDiv weight total = some percentage ∧
          preciseConsensus spl = .ok target ∧ spl.greaterThanOrEqual percentage target = true) ∧
        next = { box with
          slotConsensusReached := currentSlot
          winningBallot := box.ballotTallies[heaviest].ballot }) := by
  unfold tallyVotes at tallied
  split at tallied
  · cases tallied
    exact .inl rfl
  · rename_i undecided
    simp only [bind_eq_ok, okOr_eq_ok_iff, pure_eq_ok_iff] at tallied
    obtain ⟨weight, newWeight, total, newTotal, percentage, divided, target, targeted, rfl⟩ := tallied
    obtain ⟨heaviest, same, heavier⟩ := Slots.maxByKey_spec
      (fun tally : BallotTally => tally.stakeWeights.stakeWeight) box.ballotTallies
    rw [← same] at newWeight ⊢
    split
    · rename_i reached
      rw [Bool.and_eq_true, Bool.not_eq_true'] at reached
      exact .inr ⟨by simpa using undecided, reached.2, heaviest, heavier,
        ⟨weight, total, percentage, target, newWeight, newTotal, divided, targeted, reached.1⟩, rfl⟩
    · exact .inl rfl

/-- The tie breaker picks one of the tallied roots while nothing has won. -/
theorem setTieBreakerBallot_cases {metaMerkleRoot : Bytes32} {currentEpoch epochsBeforeStall : ℕ}
    (set : box.setTieBreakerBallot metaMerkleRoot currentEpoch epochsBeforeStall = .ok next) :
    box.isConsensusReached = false ∧
      (∃ i : Fin maxOperators, box.ballotTallies[i].ballot.eq (.new metaMerkleRoot) = true) ∧
      next = { box with winningBallot := .new metaMerkleRoot } := by
  unfold setTieBreakerBallot at set
  split at set
  · cases set
  · rename_i undecided
    obtain ⟨stallEpoch, -, rest⟩ := bind_eq_ok.mp set
    split at rest
    · cases rest
    · dsimp only at rest
      split at rest
      · cases rest
      · rename_i listed
        cases rest
        refine ⟨by simpa using undecided, ?_, rfl⟩
        simp only [hasBallot, Bool.not_eq_true', Bool.not_eq_false] at listed
        obtain ⟨i, found⟩ := Option.isSome_iff_exists.mp listed
        exact ⟨i, (Slots.first_eq_some_iff.mp found).1⟩

end BallotBox

end TipRouter
