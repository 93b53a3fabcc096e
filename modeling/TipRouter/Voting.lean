import TipRouter.BallotBox
import TipRouter.EpochSnapshot
import TipRouter.EpochState

/-! Voting as two accounts see it, `program/src/cast_vote.rs` and
`admin_set_tie_breaker.rs`. The ballot box marks a tie breaker by a winner
without a slot; the epoch state keeps a slot and a flag instead. The two stay in
step, but they end the voting window one slot apart. -/
namespace TipRouter
open Runs

/-! ## The instructions -/

inductive VotingInstruction where
  | castVote (operator voter operatorAdmin : Pubkey) (epochSnapshot : EpochSnapshot)
      (operatorSnapshot : OperatorSnapshot) (metaMerkleRoot : Bytes32)
      (validSlotsAfterConsensus slot : ℕ)
  | adminSetTieBreaker (configTieBreakerAdmin tieBreakerAdmin : Pubkey) (metaMerkleRoot : Bytes32)
      (epochsBeforeStall currentEpoch slot : ℕ)

def VotingInstruction.slot : VotingInstruction → ℕ
  | .castVote _ _ _ _ _ _ _ slot => slot
  | .adminSetTieBreaker _ _ _ _ _ slot => slot

structure VotingAccounts where
  ballotBox : BallotBox
  epochState : EpochState
  deriving DecidableEq

namespace VotingAccounts

/-- The part of `process_realloc_ballot_box` that fills the full-size box. -/
def start (epochState : EpochState) (ncn : Pubkey) (epoch bump slot : ℕ) : VotingAccounts :=
  ⟨.new ncn epoch bump slot, epochState.updateReallocBallotBox⟩

/-- The log message at the end of `process_cast_vote` reads the winning tally, and
fails the instruction when there is none. -/
def logConsensus (ballotBox : BallotBox) : Except TipRouterError Unit :=
  if ballotBox.isConsensusReached then do
    let _ ← ballotBox.getWinningBallotTally
    return ()
  else .ok ()

/-- `process_cast_vote`. -/
def processCastVote (spl : SplMath) (self : VotingAccounts) (operator voter operatorAdmin : Pubkey)
    (epochSnapshot : EpochSnapshot) (operatorSnapshot : OperatorSnapshot) (metaMerkleRoot : Bytes32)
    (validSlotsAfterConsensus slot : ℕ) : Except TipRouterError VotingAccounts :=
  if operatorAdmin ≠ voter then .error .invalidOperatorVoter
  else if !epochSnapshot.finalized then .error .epochSnapshotNotFinalized
  else do
    let ballotBox ← self.ballotBox.castVote operator (.new metaMerkleRoot)
      operatorSnapshot.stakeWeights slot validSlotsAfterConsensus
    let ballotBox ← ballotBox.tallyVotes spl epochSnapshot.stakeWeights.stakeWeight slot
    logConsensus ballotBox
    return ⟨ballotBox,
      self.epochState.updateCastVote ballotBox.operatorsVoted ballotBox.isConsensusReached slot⟩

/-- `process_admin_set_tie_breaker`. -/
def processAdminSetTieBreaker (self : VotingAccounts)
    (configTieBreakerAdmin tieBreakerAdmin : Pubkey) (metaMerkleRoot : Bytes32)
    (epochsBeforeStall currentEpoch slot : ℕ) : Except TipRouterError VotingAccounts :=
  if configTieBreakerAdmin ≠ tieBreakerAdmin then .error .tieBreakerAdminInvalid
  else do
    let ballotBox ←
      self.ballotBox.setTieBreakerBallot metaMerkleRoot currentEpoch epochsBeforeStall
    return ⟨ballotBox, self.epochState.updateSetTieBreaker ballotBox.isConsensusReached slot⟩

def process (spl : SplMath) (self : VotingAccounts) :
    VotingInstruction → Except TipRouterError VotingAccounts
  | .castVote operator voter operatorAdmin epochSnapshot operatorSnapshot metaMerkleRoot
      validSlotsAfterConsensus slot =>
    self.processCastVote spl operator voter operatorAdmin epochSnapshot operatorSnapshot
      metaMerkleRoot validSlotsAfterConsensus slot
  | .adminSetTieBreaker configTieBreakerAdmin tieBreakerAdmin metaMerkleRoot epochsBeforeStall
      currentEpoch slot =>
    self.processAdminSetTieBreaker configTieBreakerAdmin tieBreakerAdmin metaMerkleRoot
      epochsBeforeStall currentEpoch slot

end VotingAccounts

/-! ## What every instruction keeps -/

variable {spl : SplMath} {accounts next : VotingAccounts} {instruction : VotingInstruction}

/-- Nothing was decided before the ballot box came into being. -/
structure EpochState.Undecided (epochState : EpochState) : Prop where
  slot : epochState.slotConsensusReached = defaultConsensusReachedSlot
  flag : epochState.wasTieBreakerSet = false

theorem EpochState.initializeState_undecided (ncn : Pubkey) (epoch bump slotCreated : ℕ) :
    (EpochState.zeroed.initializeState ncn epoch bump slotCreated).Undecided :=
  ⟨rfl, rfl⟩

/-- Unless the tie breaker was set, the slot of consensus is the same. -/
def VotingAccounts.SameSlot (accounts : VotingAccounts) : Prop :=
  accounts.ballotBox.tieBreakerSet = false →
    accounts.epochState.slotConsensusReached = accounts.ballotBox.slotConsensusReached

/-- Both accounts tell the same about consensus. -/
structure VotingAccounts.Agree (accounts : VotingAccounts) : Prop where
  slot : accounts.SameSlot
  consensus : accounts.epochState.isConsensusReached = accounts.ballotBox.isConsensusReached
  tieBreaker : accounts.epochState.wasTieBreakerSet = accounts.ballotBox.tieBreakerSet
  tally : accounts.epochState.votingProgress.tally = accounts.ballotBox.operatorsVoted

theorem VotingAccounts.start_agree {epochState : EpochState} (undecided : epochState.Undecided)
    (ncn : Pubkey) (epoch bump slot : ℕ) : (start epochState ncn epoch bump slot).Agree where
  consensus := by
    simp only [start, EpochState.updateReallocBallotBox, EpochState.isConsensusReached,
      undecided.slot]
    rfl
  tieBreaker := undecided.flag
  slot _ := undecided.slot
  tally := rfl

/-- What a successful vote does to the two accounts: the vote reaches consensus at
its slot, or changes nothing about consensus. -/
structure VotingAccounts.CastEffect (accounts next : VotingAccounts) (slot : ℕ) : Prop where
  open_ : accounts.ballotBox.tieBreakerSet = false
  updated : next.epochState = accounts.epochState.updateCastVote next.ballotBox.operatorsVoted
    next.ballotBox.isConsensusReached slot
  decided : (next.ballotBox.slotConsensusReached = accounts.ballotBox.slotConsensusReached ∧
      next.ballotBox.winningBallot = accounts.ballotBox.winningBallot) ∨
    (accounts.ballotBox.isConsensusReached = false ∧ next.ballotBox.slotConsensusReached = slot)

section CastVote
variable {operator voter operatorAdmin : Pubkey} {epochSnapshot : EpochSnapshot}
variable {operatorSnapshot : OperatorSnapshot} {metaMerkleRoot : Bytes32}
variable {validSlotsAfterConsensus slot : ℕ}

/-- The two calls of a vote. -/
theorem VotingAccounts.processCastVote_calls
    (processed : accounts.processCastVote spl operator voter operatorAdmin epochSnapshot
      operatorSnapshot metaMerkleRoot validSlotsAfterConsensus slot = .ok next) :
    ∃ voted, accounts.ballotBox.castVote operator (.new metaMerkleRoot)
        operatorSnapshot.stakeWeights slot validSlotsAfterConsensus = .ok voted ∧
      voted.tallyVotes spl epochSnapshot.stakeWeights.stakeWeight slot = .ok next.ballotBox ∧
      next.epochState = accounts.epochState.updateCastVote next.ballotBox.operatorsVoted
        next.ballotBox.isConsensusReached slot := by
  unfold processCastVote at processed
  split at processed
  · cases processed
  split at processed
  · cases processed
  obtain ⟨voted, cast, processed⟩ := bind_eq_ok.mp processed
  obtain ⟨tallied, tally, processed⟩ := bind_eq_ok.mp processed
  obtain ⟨_, -, same⟩ := bind_eq_ok.mp processed
  cases same
  exact ⟨voted, cast, tally, rfl⟩

theorem VotingAccounts.processCastVote_eq_ok
    (processed : accounts.processCastVote spl operator voter operatorAdmin epochSnapshot
      operatorSnapshot metaMerkleRoot validSlotsAfterConsensus slot = .ok next) :
    accounts.CastEffect next slot := by
  obtain ⟨voted, cast, tally, updated⟩ := processCastVote_calls processed
  obtain ⟨sameSlot, sameWinner, -, -⟩ := BallotBox.castVote_frame cast
  have valid := (BallotBox.castVote_eq_ok_iff.mp cast).1
  refine ⟨(BallotBox.isVotingValid_eq_ok_true_iff.mp valid).1, updated, ?_⟩
  rcases BallotBox.tallyVotes_cases tally with same | ⟨unset, invalid, heaviest, -, -, same⟩
  · rw [same]
    exact .inl ⟨sameSlot, sameWinner⟩
  · refine .inr ⟨?_, by rw [same]⟩
    rw [BallotBox.isConsensusReached, ← sameSlot, ← sameWinner, unset, invalid]
    rfl

end CastVote

theorem VotingAccounts.processAdminSetTieBreaker_eq_ok
    {configTieBreakerAdmin tieBreakerAdmin : Pubkey} {metaMerkleRoot : Bytes32}
    {epochsBeforeStall currentEpoch slot : ℕ}
    (processed : accounts.processAdminSetTieBreaker configTieBreakerAdmin tieBreakerAdmin
      metaMerkleRoot epochsBeforeStall currentEpoch slot = .ok next) :
    accounts.ballotBox.isConsensusReached = false ∧ (Ballot.new metaMerkleRoot).isValid = true ∧
      next.ballotBox = { accounts.ballotBox with winningBallot := .new metaMerkleRoot } ∧
      next.epochState = accounts.epochState.updateSetTieBreaker true slot := by
  unfold processAdminSetTieBreaker at processed
  split at processed
  · cases processed
  obtain ⟨decided, set, same⟩ := bind_eq_ok.mp processed
  cases same
  obtain ⟨undecided, ⟨i, listed⟩, rfl⟩ := BallotBox.setTieBreakerBallot_cases set
  obtain ⟨-, valid, -⟩ := Ballot.eq_iff.mp listed
  refine ⟨undecided, valid, rfl, ?_⟩
  simp only [BallotBox.isConsensusReached, valid, Bool.or_true]

/-- Consensus is a slot other than the sentinel, or a winner. -/
theorem BallotBox.isConsensusReached_eq_false_iff {box : BallotBox} :
    box.isConsensusReached = false ↔ box.slotConsensusReached = defaultConsensusReachedSlot ∧
      box.winningBallot.isValid = false := by
  simp [isConsensusReached]

/-- Without a tie breaker consensus is a slot other than the sentinel. -/
theorem BallotBox.isConsensusReached_of_noTie {box : BallotBox} (noTie : box.tieBreakerSet = false) :
    box.isConsensusReached = (box.slotConsensusReached != defaultConsensusReachedSlot) := by
  cases valid : box.winningBallot.isValid with
  | false => rw [isConsensusReached, valid, Bool.or_false]
  | true =>
    rw [tieBreakerSet, valid, Bool.and_true, beq_eq_false_iff_ne] at noTie
    rw [isConsensusReached, valid, Bool.or_true, eq_comm, bne_iff_ne]
    exact noTie

theorem VotingAccounts.SameSlot.castVote {slot : ℕ} (sameSlot : accounts.SameSlot)
    (effect : accounts.CastEffect next slot) :
    next.epochState.slotConsensusReached = next.ballotBox.slotConsensusReached := by
  have before := sameSlot effect.open_
  have reachedBefore : accounts.epochState.isConsensusReached =
      accounts.ballotBox.isConsensusReached := by
    rw [EpochState.isConsensusReached, before,
      BallotBox.isConsensusReached_of_noTie effect.open_]
  rw [effect.updated, EpochState.updateCastVote, reachedBefore]
  rcases effect.decided with ⟨kept, sameWinner⟩ | ⟨undecided, decidedSlot⟩
  · have sameConsensus : next.ballotBox.isConsensusReached =
        accounts.ballotBox.isConsensusReached := by
      simp only [BallotBox.isConsensusReached, kept, sameWinner]
    rw [sameConsensus, Bool.and_not_self, if_neg Bool.false_ne_true, before, kept]
  · rw [undecided, Bool.not_false, Bool.and_true]
    cases reached : next.ballotBox.isConsensusReached with
    | true => rw [if_pos rfl, decidedSlot]
    | false =>
      -- a vote at the sentinel slot whose heaviest ballot is no ballot
      rw [if_neg Bool.false_ne_true, before,
        (BallotBox.isConsensusReached_eq_false_iff.mp undecided).1,
        (BallotBox.isConsensusReached_eq_false_iff.mp reached).1]

theorem VotingAccounts.Agree.castVote {slot : ℕ} (agree : accounts.Agree)
    (early : slot < defaultConsensusReachedSlot) (effect : accounts.CastEffect next slot) :
    next.Agree := by
  have sameSlot := agree.slot.castVote effect
  have flag : next.epochState.wasTieBreakerSet = false := by
    rw [effect.updated]
    exact agree.tieBreaker.trans effect.open_
  have tally : next.epochState.votingProgress.tally = next.ballotBox.operatorsVoted := by
    rw [effect.updated]
    rfl
  have noTie : next.ballotBox.tieBreakerSet = false := by
    rcases effect.decided with ⟨kept, sameWinner⟩ | ⟨-, decidedSlot⟩
    · rw [BallotBox.tieBreakerSet, kept, sameWinner]
      exact effect.open_
    · rw [BallotBox.tieBreakerSet, decidedSlot, beq_false_of_ne early.ne, Bool.false_and]
  refine ⟨fun _ => sameSlot, ?_, flag.trans noTie.symm, tally⟩
  rw [EpochState.isConsensusReached, sameSlot, BallotBox.isConsensusReached_of_noTie noTie]

theorem VotingAccounts.Agree.setTieBreaker {slot : ℕ} {ballot : Ballot} (agree : accounts.Agree)
    (early : slot < defaultConsensusReachedSlot)
    (undecided : accounts.ballotBox.isConsensusReached = false) (valid : ballot.isValid = true)
    (won : next.ballotBox = { accounts.ballotBox with winningBallot := ballot })
    (updated : next.epochState = accounts.epochState.updateSetTieBreaker true slot) :
    next.Agree := by
  have unset := (BallotBox.isConsensusReached_eq_false_iff.mp undecided).1
  have marked : next.epochState = { accounts.epochState with
      slotConsensusReached := slot, wasTieBreakerSet := true } := by
    rw [updated, EpochState.updateSetTieBreaker, agree.consensus, undecided]
    rfl
  have tieBreaker : next.ballotBox.tieBreakerSet = true := by
    rw [won, BallotBox.tieBreakerSet, unset, valid]
    rfl
  refine ⟨fun noTie => ?_, ?_, ?_, ?_⟩
  · rw [tieBreaker] at noTie
    cases noTie
  · rw [marked, won, EpochState.isConsensusReached, BallotBox.isConsensusReached, valid,
      Bool.or_true, bne_iff_ne]
    exact early.ne
  · rw [marked, tieBreaker]
  · rw [marked, won]
    exact agree.tally

theorem VotingAccounts.SameSlot.process (sameSlot : accounts.SameSlot)
    (processed : accounts.process spl instruction = .ok next) : next.SameSlot := by
  intro noTie
  cases instruction with
  | castVote operator voter operatorAdmin epochSnapshot operatorSnapshot metaMerkleRoot
      validSlotsAfterConsensus slot => exact sameSlot.castVote (processCastVote_eq_ok processed)
  | adminSetTieBreaker configTieBreakerAdmin tieBreakerAdmin metaMerkleRoot epochsBeforeStall
      currentEpoch slot =>
    obtain ⟨undecided, valid, won, -⟩ := processAdminSetTieBreaker_eq_ok processed
    rw [won, BallotBox.tieBreakerSet, (BallotBox.isConsensusReached_eq_false_iff.mp undecided).1,
      valid] at noTie
    cases noTie

theorem VotingAccounts.Agree.process (agree : accounts.Agree)
    (early : instruction.slot < defaultConsensusReachedSlot)
    (processed : accounts.process spl instruction = .ok next) : next.Agree := by
  cases instruction with
  | castVote operator voter operatorAdmin epochSnapshot operatorSnapshot metaMerkleRoot
      validSlotsAfterConsensus slot =>
    exact agree.castVote early (processCastVote_eq_ok processed)
  | adminSetTieBreaker configTieBreakerAdmin tieBreakerAdmin metaMerkleRoot epochsBeforeStall
      currentEpoch slot =>
    obtain ⟨undecided, valid, won, updated⟩ := processAdminSetTieBreaker_eq_ok processed
    exact agree.setTieBreaker early undecided valid won updated

/-- An instruction after consensus leaves its slot alone. -/
theorem VotingAccounts.kept_of_reached (reached : accounts.ballotBox.isConsensusReached = true)
    (processed : accounts.process spl instruction = .ok next) :
    next.ballotBox.slotConsensusReached = accounts.ballotBox.slotConsensusReached := by
  cases instruction with
  | castVote operator voter operatorAdmin epochSnapshot operatorSnapshot metaMerkleRoot
      validSlotsAfterConsensus slot =>
    rcases (processCastVote_eq_ok processed).decided with ⟨kept, -⟩ | ⟨undecided, -⟩
    · exact kept
    · rw [undecided] at reached
      cases reached
  | adminSetTieBreaker configTieBreakerAdmin tieBreakerAdmin metaMerkleRoot epochsBeforeStall
      currentEpoch slot =>
    rw [(processAdminSetTieBreaker_eq_ok processed).1] at reached
    cases reached

/-! ## Whole runs -/

section Runs
variable {epochState : EpochState} {ncn : Pubkey} {epoch bump slotCreated : ℕ}
variable {history : List VotingInstruction} {finish : VotingAccounts}

theorem VotingAccounts.run_agree (undecided : epochState.Undecided)
    (early : ∀ instruction ∈ history, instruction.slot < defaultConsensusReachedSlot)
    (ran : run (process spl) history (start epochState ncn epoch bump slotCreated) = .ok finish) :
    finish.Agree := by
  refine foldlM_invariant (motive := fun accounts => accounts.Agree) ?_
    (start_agree undecided ncn epoch bump slotCreated) ran
  intro instruction member middle next agree processed
  exact agree.process (early instruction member) processed

theorem VotingAccounts.run_sameSlot (undecided : epochState.Undecided)
    (ran : run (process spl) history (start epochState ncn epoch bump slotCreated) = .ok finish) :
    finish.SameSlot :=
  run_invariant (fun _ _ _ holds processed => holds.process processed)
    (start_agree undecided ncn epoch bump slotCreated).slot ran

/-- The vote of a history that reached consensus, and its slot. -/
def ReachedByVoteAt (spl : SplMath) (start : VotingAccounts) (history : List VotingInstruction)
    (slot : ℕ) : Prop :=
  ∃ past operator voter operatorAdmin epochSnapshot operatorSnapshot metaMerkleRoot
      validSlotsAfterConsensus rest before after,
    history = past ++ .castVote operator voter operatorAdmin epochSnapshot operatorSnapshot
      metaMerkleRoot validSlotsAfterConsensus slot :: rest ∧
    run (VotingAccounts.process spl) past start = .ok before ∧
    before.ballotBox.isConsensusReached = false ∧
    before.process spl (.castVote operator voter operatorAdmin epochSnapshot operatorSnapshot
      metaMerkleRoot validSlotsAfterConsensus slot) = .ok after ∧
    after.ballotBox.isConsensusReached = true

theorem ReachedByVoteAt.later {start : VotingAccounts} {slot : ℕ}
    (reached : ReachedByVoteAt spl start history slot) (instruction : VotingInstruction) :
    ReachedByVoteAt spl start (history ++ [instruction]) slot := by
  obtain ⟨past, operator, voter, operatorAdmin, epochSnapshot, operatorSnapshot, metaMerkleRoot,
    validSlotsAfterConsensus, rest, before, after, rfl, reachedBy⟩ := reached
  refine ⟨past, operator, voter, operatorAdmin, epochSnapshot, operatorSnapshot, metaMerkleRoot,
    validSlotsAfterConsensus, rest ++ [instruction], before, after, ?_, reachedBy⟩
  simp only [List.append_assoc, List.cons_append]

/-- A box that holds a slot got it from the vote that reached consensus. -/
theorem VotingAccounts.run_reachedByVoteAt
    (ran : run (process spl) history (start epochState ncn epoch bump slotCreated) = .ok finish)
    (reached : finish.ballotBox.isConsensusReached = true)
    (noTie : finish.ballotBox.tieBreakerSet = false) :
    ReachedByVoteAt spl (start epochState ncn epoch bump slotCreated) history
      finish.ballotBox.slotConsensusReached := by
  refine run_induction
    (motive := fun past accounts => accounts.ballotBox.isConsensusReached = true →
      accounts.ballotBox.tieBreakerSet = false →
      ReachedByVoteAt spl (start epochState ncn epoch bump slotCreated) past
        accounts.ballotBox.slotConsensusReached)
    (fun fresh => by cases fresh) ?_ ran reached noTie
  intro past middle instruction next before earlier processed reachedNext noTieNext
  cases instruction with
  | adminSetTieBreaker configTieBreakerAdmin tieBreakerAdmin metaMerkleRoot epochsBeforeStall
      currentEpoch slot =>
    obtain ⟨undecided, valid, won, -⟩ := processAdminSetTieBreaker_eq_ok processed
    rw [won, BallotBox.tieBreakerSet, (BallotBox.isConsensusReached_eq_false_iff.mp undecided).1,
      valid] at noTieNext
    cases noTieNext
  | castVote operator voter operatorAdmin epochSnapshot operatorSnapshot metaMerkleRoot
      validSlotsAfterConsensus slot =>
    have effect := processCastVote_eq_ok processed
    by_cases reachedMiddle : middle.ballotBox.isConsensusReached = true
    · rw [kept_of_reached reachedMiddle processed]
      exact (earlier reachedMiddle effect.open_).later _
    · have undecided := Bool.eq_false_iff.mpr reachedMiddle
      rcases effect.decided with ⟨sameSlot, sameWinner⟩ | ⟨-, decidedSlot⟩
      · rw [BallotBox.isConsensusReached, sameSlot, sameWinner, ← BallotBox.isConsensusReached,
          undecided] at reachedNext
        cases reachedNext
      · rw [decidedSlot]
        exact ⟨past, operator, voter, operatorAdmin, epochSnapshot, operatorSnapshot,
          metaMerkleRoot, validSlotsAfterConsensus, [], middle, next, rfl, before, undecided,
          processed, reachedNext⟩

/-- The ballot box and the epoch state record the same consensus, the same tie
breaker, the same number of votes and, where a vote decided, its slot. -/
theorem accounts_record_same_consensus (undecided : epochState.Undecided)
    (early : ∀ instruction ∈ history, instruction.slot < defaultConsensusReachedSlot)
    (ran : run (VotingAccounts.process spl) history (.start epochState ncn epoch bump slotCreated) =
      .ok finish) :
    (finish.epochState.isConsensusReached = true ↔ finish.ballotBox.isConsensusReached = true) ∧
      (finish.epochState.wasTieBreakerSet = true ↔ finish.ballotBox.tieBreakerSet = true) ∧
      (finish.ballotBox.isConsensusReached = true → finish.ballotBox.tieBreakerSet = false →
        finish.epochState.slotConsensusReached = finish.ballotBox.slotConsensusReached ∧
        ReachedByVoteAt spl (.start epochState ncn epoch bump slotCreated) history
          finish.ballotBox.slotConsensusReached) ∧
      finish.epochState.votingProgress.tally = finish.ballotBox.operatorsVoted := by
  have agree := VotingAccounts.run_agree undecided early ran
  refine ⟨by rw [agree.consensus], by rw [agree.tieBreaker], fun reached noTie => ?_, agree.tally⟩
  exact ⟨agree.slot noTie, VotingAccounts.run_reachedByVoteAt ran reached noTie⟩

end Runs

/-- A snapshot of one operator, which has all the weight. -/
def EpochSnapshot.ofOne (stakeWeights : StakeWeights) : EpochSnapshot where
  ncn := .default
  epoch := 3
  bump := 255
  slotCreated := 4
  slotFinalized := 4
  fees := ⟨0, Vector.replicate _ 0, Vector.replicate _ 0⟩
  operatorCount := 1
  vaultCount := 1
  operatorsRegistered := 1
  validOperatorVaultDelegations := 1
  stakeWeights := stakeWeights

def OperatorSnapshot.ofOne (stakeWeights : StakeWeights) : OperatorSnapshot where
  operator := ⟨Vector.replicate 32 1⟩
  ncn := .default
  ncnEpoch := 3
  bump := 255
  slotCreated := 4
  slotFinalized := 4
  isActive := true
  ncnOperatorIndex := 0
  operatorIndex := 0
  operatorFeeBps := 0
  vaultOperatorDelegationCount := 1
  vaultOperatorDelegationsRegistered := 1
  validOperatorVaultDelegations := 1
  stakeWeights := stakeWeights
  vaultOperatorStakeWeight := (Vector.replicate maxVaults .default).set 0
    ⟨⟨Vector.replicate 32 3⟩, 0, .default, stakeWeights⟩

/-- The only operator votes at slot 5. -/
def onlyVote : VotingInstruction :=
  .castVote ⟨Vector.replicate 32 1⟩ .default .default (.ofOne (.new 70)) (.ofOne (.new 70))
    (Vector.replicate 32 7) 1000 5

/-- The accounts of an epoch whose ballot box has just been created. -/
def VotingAccounts.fresh : VotingAccounts :=
  .start (EpochState.zeroed.initializeState .default 3 255 4) .default 3 255 4

theorem accounts_record_same_consensus_after_one_vote :
    ∃ finish : VotingAccounts, finish.ballotBox.slotConsensusReached = 5 ∧
      finish.epochState.slotConsensusReached = 5 ∧ finish.epochState.votingProgress.tally = 1 := by
  have runs : (run (VotingAccounts.process .u256) [onlyVote] .fresh).toOption.any
      (fun finish => finish.ballotBox.slotConsensusReached == 5 &&
        finish.ballotBox.isConsensusReached && !finish.ballotBox.tieBreakerSet &&
        finish.ballotBox.operatorsVoted == 1) = true := by
    decide +kernel
  obtain ⟨finish, ran, outcome⟩ := exists_of_any runs
  simp only [Bool.and_eq_true, beq_iff_eq, Bool.not_eq_true'] at outcome
  obtain ⟨⟨⟨decided, reached⟩, noTie⟩, voted⟩ := outcome
  obtain ⟨-, -, slots, tally⟩ := accounts_record_same_consensus
    (EpochState.initializeState_undecided .default 3 255 4)
    (fun instruction member => by
      rw [List.mem_singleton.mp member]
      decide) ran
  exact ⟨finish, decided, (slots reached noTie).1.trans decided, tally.trans voted⟩

/-! ## The end of voting -/

/-- Routing can start once voting is no longer valid, and after a vote that reached
consensus only then. -/
def VotingAccounts.PhasesAgree (accounts : VotingAccounts)
    (validSlotsAfterConsensus currentSlot : ℕ) : Prop :=
  (accounts.epochState.canStartRouting validSlotsAfterConsensus currentSlot = .ok true →
    accounts.ballotBox.isVotingValid currentSlot validSlotsAfterConsensus = .ok false) ∧
  (accounts.ballotBox.tieBreakerSet = false →
    accounts.ballotBox.isVotingValid currentSlot validSlotsAfterConsensus = .ok false →
    accounts.epochState.canStartRouting validSlotsAfterConsensus currentSlot = .ok true)

/-- The epoch state reports distribution or closing only when routing can start. -/
theorem EpochState.canStartRouting_of_currentState {epochState : EpochState} {getEpoch : ℕ → ℕ}
    {validSlotsAfterConsensus epochsAfterConsensusBeforeClose currentSlot : ℕ} {phase : Phase}
    (current : epochState.currentState getEpoch validSlotsAfterConsensus
      epochsAfterConsensusBeforeClose currentSlot = .ok phase)
    (late : phase = .distribute ∨ phase = .close) :
    epochState.canStartRouting validSlotsAfterConsensus currentSlot = .ok true := by
  have early : phase ≠ .setWeight ∧ phase ≠ .snapshot ∧ phase ≠ .vote := by
    rcases late with rfl | rfl <;> decide
  unfold currentState at current
  split at current
  · cases current
    exact absurd rfl early.1
  split at current
  · cases current
    exact absurd rfl early.2.1
  split at current
  · cases current
    exact absurd rfl early.2.2
  obtain ⟨canStart, started, current⟩ := bind_eq_ok.mp current
  cases canStart with
  | true => exact started
  | false =>
    cases current
    exact absurd rfl early.2.2

/-- Without a tie breaker both accounts compare the slot with the same bound, and
both comparisons hold at the bound itself. -/
theorem VotingAccounts.SameSlot.phases (sameSlot : accounts.SameSlot)
    (reached : accounts.ballotBox.isConsensusReached = true)
    (noTie : accounts.ballotBox.tieBreakerSet = false) (validSlotsAfterConsensus currentSlot : ℕ) :
    accounts.ballotBox.isVotingValid currentSlot validSlotsAfterConsensus =
      (do
        let bound ← okOr
          (checkedAdd 64 accounts.ballotBox.slotConsensusReached validSlotsAfterConsensus)
          .arithmeticOverflow
        return decide (currentSlot ≤ bound)) ∧
    accounts.epochState.canStartRouting validSlotsAfterConsensus currentSlot =
      (do
        let bound ← okOr
          (checkedAdd 64 accounts.ballotBox.slotConsensusReached validSlotsAfterConsensus)
          .arithmeticOverflow
        return decide (bound ≤ currentSlot)) := by
  constructor
  · rw [BallotBox.isVotingValid, noTie, if_neg Bool.false_ne_true, if_pos reached]
  · have reachedToo : accounts.epochState.isConsensusReached = true := by
      rw [EpochState.isConsensusReached, sameSlot noTie, ← reached,
        BallotBox.isConsensusReached_of_noTie noTie]
    have decided : accounts.epochState.slotConsensusReached ≠ defaultConsensusReachedSlot := by
      rw [EpochState.isConsensusReached, bne_iff_ne] at reachedToo
      exact reachedToo
    rw [EpochState.canStartRouting, reachedToo, EpochState.getSlotConsensusReached,
      if_neg decided, sameSlot noTie]
    rfl

section Runs
variable {epochState : EpochState} {ncn : Pubkey} {epoch bump slotCreated : ℕ}
variable {history : List VotingInstruction} {finish : VotingAccounts}

/-- The two accounts agree on when voting is over, except at the last slot of the
window after a vote reached consensus: there both a vote and the start of routing
are announced. The later phases are reported only when routing can start. -/
theorem phases_agree_iff (undecided : epochState.Undecided)
    (ran : run (VotingAccounts.process spl) history (.start epochState ncn epoch bump slotCreated) =
      .ok finish)
    (reached : finish.ballotBox.isConsensusReached = true)
    (validSlotsAfterConsensus currentSlot : ℕ) (slotFits : currentSlot < 2 ^ 64) :
    (finish.PhasesAgree validSlotsAfterConsensus currentSlot ↔
      finish.ballotBox.tieBreakerSet = true ∨
        currentSlot ≠ finish.ballotBox.slotConsensusReached + validSlotsAfterConsensus) ∧
    ∀ getEpoch epochsAfterConsensusBeforeClose phase,
      finish.epochState.currentState getEpoch validSlotsAfterConsensus
        epochsAfterConsensusBeforeClose currentSlot = .ok phase →
      phase = .distribute ∨ phase = .close →
      finish.epochState.canStartRouting validSlotsAfterConsensus currentSlot = .ok true := by
  refine ⟨?_, fun _ _ _ => EpochState.canStartRouting_of_currentState⟩
  have sameSlot := VotingAccounts.run_sameSlot undecided ran
  cases tieBreaker : finish.ballotBox.tieBreakerSet with
  | true =>
    refine ⟨fun _ => .inl rfl, fun _ => ⟨fun _ => if_pos tieBreaker, fun noTie => ?_⟩⟩
    rw [tieBreaker] at noTie
    cases noTie
  | false =>
    obtain ⟨voting, routing⟩ :=
      sameSlot.phases reached tieBreaker validSlotsAfterConsensus currentSlot
    rw [VotingAccounts.PhasesAgree, voting, routing]
    simp only [Bool.false_eq_true, false_or]
    by_cases fits : finish.ballotBox.slotConsensusReached + validSlotsAfterConsensus < 2 ^ 64
    · rw [checkedAdd_of_lt fits]
      simp only [okOr_some, ok_bind, pure_eq_ok_iff, decide_eq_true_eq, decide_eq_false_iff_not,
        tieBreaker, true_implies]
      omega
    · rw [checkedAdd, if_neg fits]
      simp only [okOr, error_bind, reduceCtorEq, false_implies, implies_true, and_self, true_iff]
      omega

end Runs

/-- One slot before and one after the last slot of the window nothing is wrong. -/
theorem phases_agree_around_last_slot :
    ∃ finish : VotingAccounts, finish.ballotBox.slotConsensusReached = 5 ∧
      finish.PhasesAgree 1000 1004 ∧ finish.PhasesAgree 1000 1006 := by
  have runs : (run (VotingAccounts.process .u256) [onlyVote] .fresh).toOption.any
      (fun finish => finish.ballotBox.slotConsensusReached == 5 &&
        finish.ballotBox.isConsensusReached) = true := by
    decide +kernel
  obtain ⟨finish, ran, outcome⟩ := exists_of_any runs
  simp only [Bool.and_eq_true, beq_iff_eq] at outcome
  have agree := fun currentSlot fits => (phases_agree_iff
    (EpochState.initializeState_undecided .default 3 255 4) ran outcome.2 1000 currentSlot fits).1
  refine ⟨finish, outcome.1, (agree 1004 (by norm_num)).mpr (.inr ?_),
    (agree 1006 (by norm_num)).mpr (.inr ?_)⟩
  · rw [outcome.1]
    norm_num
  · rw [outcome.1]
    norm_num

/-- At the last slot of the window routing can start, and is refused because votes
are still taken. -/
theorem phases_disagree_at_last_slot :
    ∃ finish : VotingAccounts, run (VotingAccounts.process .u256) [onlyVote] .fresh = .ok finish ∧
      finish.ballotBox.isConsensusReached = true ∧
      finish.epochState.canStartRouting 1000 1005 = .ok true ∧
      finish.ballotBox.isVotingValid 1005 1000 = .ok true := by
  have runs : (run (VotingAccounts.process .u256) [onlyVote] .fresh).toOption.any
      (fun finish => finish.ballotBox.isConsensusReached &&
        finish.epochState.canStartRouting 1000 1005 == .ok true &&
        finish.ballotBox.isVotingValid 1005 1000 == .ok true) = true := by
    decide +kernel
  obtain ⟨finish, ran, outcome⟩ := exists_of_any runs
  simp only [Bool.and_eq_true, beq_iff_eq] at outcome
  exact ⟨finish, ran, outcome.1.1, outcome.1.2, outcome.2⟩

end TipRouter
