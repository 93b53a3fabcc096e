import TipRouter.EpochProgress

/-! The phase of an epoch, `EpochState::current_state`, over its life. The phase is
read off statuses and progress that many instructions write, and off the slot of
consensus. No instruction takes back what a phase rests on, although some of them
reset a progress or overwrite a status: each of those is refused once the phase is
over. -/
namespace TipRouter
open Runs

/-! ## What a phase rests on -/

/-- The order of the phases. -/
def EpochState.Phase.rank : EpochState.Phase → ℕ
  | .setWeight => 0
  | .snapshot => 1
  | .vote => 2
  | .distribute => 3
  | .close => 4

namespace EpochState

variable {self before after : EpochState} {getEpoch : ℕ → ℕ}
variable {validSlotsAfterConsensus epochsAfterConsensusBeforeClose currentSlot : ℕ}

def WeightsDone (self : EpochState) : Prop :=
  self.accountStatus.weightTable ≠ .dne ∧ self.setWeightProgress.isComplete = true

def SnapshotDone (self : EpochState) : Prop :=
  self.accountStatus.epochSnapshot ≠ .dne ∧ self.epochSnapshotProgress.isComplete = true

def VotingDone (self : EpochState) (validSlotsAfterConsensus currentSlot : ℕ) : Prop :=
  self.accountStatus.ballotBox ≠ .dne ∧
    self.canStartRouting validSlotsAfterConsensus currentSlot = .ok true

/-- What must be so for the epoch to be in a phase or past it. -/
def HasReached (self : EpochState) (getEpoch : ℕ → ℕ)
    (validSlotsAfterConsensus epochsAfterConsensusBeforeClose currentSlot : ℕ) : Phase → Prop
  | .setWeight => True
  | .snapshot => self.WeightsDone
  | .vote => self.WeightsDone ∧ self.SnapshotDone
  | .distribute => self.WeightsDone ∧ self.SnapshotDone ∧
      self.VotingDone validSlotsAfterConsensus currentSlot
  | .close => self.WeightsDone ∧ self.SnapshotDone ∧
      self.VotingDone validSlotsAfterConsensus currentSlot ∧
      self.canCloseEpochAccounts getEpoch epochsAfterConsensusBeforeClose currentSlot = .ok true

/-- How the program tests that something is not done. -/
theorem not_done_iff {status : AccountStatus} {progress : Progress} :
    (decide (status = .dne) || !progress.isComplete) = true ↔
      ¬ (status ≠ .dne ∧ progress.isComplete = true) := by
  simp [or_iff_not_imp_left]

/-- The current phase is the last one that was reached. -/
theorem currentState_eq_ok {phase : Phase}
    (current : self.currentState getEpoch validSlotsAfterConsensus epochsAfterConsensusBeforeClose
      currentSlot = .ok phase) :
    self.HasReached getEpoch validSlotsAfterConsensus epochsAfterConsensusBeforeClose currentSlot
        phase ∧
      ∀ other, self.HasReached getEpoch validSlotsAfterConsensus epochsAfterConsensusBeforeClose
        currentSlot other → other.rank ≤ phase.rank := by
  unfold currentState at current
  split at current
  · rename_i unweighed
    have weighing : ¬ self.WeightsDone := not_done_iff.mp unweighed
    cases current
    refine ⟨trivial, fun other reached => ?_⟩
    cases other with
    | setWeight => exact le_rfl
    | snapshot => exact absurd reached weighing
    | vote => exact absurd reached.1 weighing
    | distribute => exact absurd reached.1 weighing
    | close => exact absurd reached.1 weighing
  rename_i weighed
  have weights : self.WeightsDone := by
    by_contra undone
    exact weighed (not_done_iff.mpr undone)
  split at current
  · rename_i unfinished
    have taking : ¬ self.SnapshotDone := not_done_iff.mp unfinished
    cases current
    refine ⟨weights, fun other reached => ?_⟩
    cases other with
    | setWeight => exact Nat.zero_le _
    | snapshot => exact le_rfl
    | vote => exact absurd reached.2 taking
    | distribute => exact absurd reached.2.1 taking
    | close => exact absurd reached.2.1 taking
  rename_i finished
  have snapshot : self.SnapshotDone := by
    by_contra undone
    exact finished (not_done_iff.mpr undone)
  have inVote : ¬ self.VotingDone validSlotsAfterConsensus currentSlot → ∀ other,
      self.HasReached getEpoch validSlotsAfterConsensus epochsAfterConsensusBeforeClose currentSlot
        other → other.rank ≤ Phase.vote.rank := by
    intro voting other reached
    cases other with
    | setWeight => exact Nat.zero_le _
    | snapshot => exact Nat.le_succ _
    | vote => exact le_rfl
    | distribute => exact absurd reached.2.2 voting
    | close => exact absurd reached.2.2.1 voting
  split at current
  · rename_i absent
    cases current
    exact ⟨⟨weights, snapshot⟩, inVote fun done => done.1 absent⟩
  rename_i created
  obtain ⟨canStart, started, current⟩ := bind_eq_ok.mp current
  cases canStart with
  | false =>
    cases current
    refine ⟨⟨weights, snapshot⟩, inVote fun done => ?_⟩
    cases started.symm.trans done.2
  | true =>
    obtain ⟨canClose, closable, same⟩ := bind_eq_ok.mp current
    have voted : self.VotingDone validSlotsAfterConsensus currentSlot := ⟨created, started⟩
    cases canClose with
    | false =>
      cases same
      refine ⟨⟨weights, snapshot, voted⟩, fun other reached => ?_⟩
      cases other with
      | setWeight => exact Nat.zero_le _
      | snapshot => exact Nat.le_add_left 1 2
      | vote => exact Nat.le_succ _
      | distribute => exact le_rfl
      | close => cases closable.symm.trans reached.2.2.2
    | true =>
      cases same
      refine ⟨⟨weights, snapshot, voted, closable⟩, fun other _ => ?_⟩
      cases other <;> simp [Phase.rank]

theorem canStartRouting_eq_ok_true_iff :
    self.canStartRouting validSlotsAfterConsensus currentSlot = .ok true ↔
      self.isConsensusReached = true ∧
        self.slotConsensusReached + validSlotsAfterConsensus < 2 ^ 64 ∧
        self.slotConsensusReached + validSlotsAfterConsensus ≤ currentSlot := by
  unfold canStartRouting
  cases reached : self.isConsensusReached with
  | false => simp
  | true =>
    have decided : self.slotConsensusReached ≠ defaultConsensusReachedSlot := bne_iff_ne.mp reached
    rw [Bool.not_true, if_neg Bool.false_ne_true, getSlotConsensusReached, if_neg decided]
    simp only [ok_bind, bind_eq_ok, okOr_eq_ok_iff, checkedAdd_eq_some_iff, pure_eq_ok_iff,
      decide_eq_true_eq, true_and]
    constructor
    · rintro ⟨bound, ⟨fits, rfl⟩, early⟩
      exact ⟨fits, early⟩
    · rintro ⟨fits, early⟩
      exact ⟨_, ⟨fits, rfl⟩, early⟩

theorem canCloseEpochAccounts_eq_ok_true_iff :
    self.canCloseEpochAccounts getEpoch epochsAfterConsensusBeforeClose currentSlot = .ok true ↔
      self.isConsensusReached = true ∧ epochsAfterConsensusBeforeClose ≤
        getEpoch currentSlot - getEpoch self.slotConsensusReached := by
  unfold canCloseEpochAccounts getSlotConsensusReached isConsensusReached
  by_cases undecided : self.slotConsensusReached = defaultConsensusReachedSlot
  · simp [undecided]
  · simp [undecided]

/-! ## What a later epoch state keeps -/

structure Advances (before after : EpochState) : Prop where
  weights : before.WeightsDone → after.WeightsDone
  snapshot : before.SnapshotDone → after.SnapshotDone
  ballotBox : before.accountStatus.ballotBox ≠ .dne → after.accountStatus.ballotBox ≠ .dne
  consensus : before.isConsensusReached = true →
    after.slotConsensusReached = before.slotConsensusReached

namespace Advances

theorem refl (self : EpochState) : self.Advances self := ⟨id, id, id, fun _ => rfl⟩

theorem isConsensusReached (advances : before.Advances after)
    (reached : before.isConsensusReached = true) : after.isConsensusReached = true := by
  unfold EpochState.isConsensusReached at reached ⊢
  rw [advances.consensus reached]
  exact reached

theorem trans {middle : EpochState} (first : before.Advances middle)
    (second : middle.Advances after) : before.Advances after where
  weights done := second.weights (first.weights done)
  snapshot done := second.snapshot (first.snapshot done)
  ballotBox created := second.ballotBox (first.ballotBox created)
  consensus reached :=
    (second.consensus (first.isConsensusReached reached)).trans (first.consensus reached)

theorem votingDone {later : ℕ} (advances : before.Advances after) (le : currentSlot ≤ later)
    (done : before.VotingDone validSlotsAfterConsensus currentSlot) :
    after.VotingDone validSlotsAfterConsensus later := by
  obtain ⟨reached, fits, early⟩ := canStartRouting_eq_ok_true_iff.mp done.2
  refine ⟨advances.ballotBox done.1, canStartRouting_eq_ok_true_iff.mpr ?_⟩
  rw [advances.consensus reached]
  exact ⟨advances.isConsensusReached reached, fits, early.trans le⟩

theorem canCloseEpochAccounts {later : ℕ} (advances : before.Advances after)
    (scheduled : Monotone getEpoch) (le : currentSlot ≤ later)
    (closable : before.canCloseEpochAccounts getEpoch epochsAfterConsensusBeforeClose currentSlot =
      .ok true) :
    after.canCloseEpochAccounts getEpoch epochsAfterConsensusBeforeClose later = .ok true := by
  obtain ⟨reached, enough⟩ := canCloseEpochAccounts_eq_ok_true_iff.mp closable
  apply canCloseEpochAccounts_eq_ok_true_iff.mpr
  rw [advances.consensus reached]
  exact ⟨advances.isConsensusReached reached,
    enough.trans (Nat.sub_le_sub_right (scheduled le) _)⟩

/-- What was reached stays so. -/
theorem hasReached {later : ℕ} {phase : Phase} (advances : before.Advances after)
    (scheduled : Monotone getEpoch) (le : currentSlot ≤ later)
    (reached : before.HasReached getEpoch validSlotsAfterConsensus epochsAfterConsensusBeforeClose
      currentSlot phase) :
    after.HasReached getEpoch validSlotsAfterConsensus epochsAfterConsensusBeforeClose later
      phase := by
  cases phase with
  | setWeight => trivial
  | snapshot => exact advances.weights reached
  | vote => exact reached.imp advances.weights advances.snapshot
  | distribute =>
    obtain ⟨weights, snapshot, voting⟩ := reached
    exact ⟨advances.weights weights, advances.snapshot snapshot, advances.votingDone le voting⟩
  | close =>
    obtain ⟨weights, snapshot, voting, closable⟩ := reached
    exact ⟨advances.weights weights, advances.snapshot snapshot, advances.votingDone le voting,
      advances.canCloseEpochAccounts scheduled le closable⟩

end Advances

/-- The phase never goes back as the epoch state advances. -/
theorem Advances.rank_le {later : ℕ} {phase laterPhase : Phase} (advances : before.Advances after)
    (scheduled : Monotone getEpoch) (le : currentSlot ≤ later)
    (current : before.currentState getEpoch validSlotsAfterConsensus
      epochsAfterConsensusBeforeClose currentSlot = .ok phase)
    (laterCurrent : after.currentState getEpoch validSlotsAfterConsensus
      epochsAfterConsensusBeforeClose later = .ok laterPhase) : phase.rank ≤ laterPhase.rank := by
  have reached := (currentState_eq_ok current).1
  exact (currentState_eq_ok laterCurrent).2 phase (advances.hasReached scheduled le reached)

/-- Counting the weights against the number of mints is the same as asking whether
the progress is complete, as long as it is far from the sentinel. -/
theorem currentStatePatched_eq {stMintCount : ℕ}
    (total : self.setWeightProgress.total = stMintCount)
    (bounded : self.setWeightProgress.tally ≤ self.setWeightProgress.total)
    (few : self.setWeightProgress.total ≤ maxStMints) :
    self.currentStatePatched getEpoch validSlotsAfterConsensus epochsAfterConsensusBeforeClose
        stMintCount currentSlot =
      self.currentState getEpoch validSlotsAfterConsensus epochsAfterConsensusBeforeClose
        currentSlot := by
  have small : maxStMints < Progress.invalid :=
    lt_trans (by decide) Progress.maxOperators_lt_invalid
  have totalled : self.setWeightProgress.total < Progress.invalid := lt_of_le_of_lt few small
  have complete : self.setWeightProgress.isComplete =
      decide (self.setWeightProgress.total ≤ self.setWeightProgress.tally) :=
    Progress.isComplete_of_lt (lt_of_le_of_lt bounded totalled) totalled
  have same : decide (self.setWeightProgress.tally < stMintCount) =
      !self.setWeightProgress.isComplete := by
    rw [complete, total, ← decide_not, decide_eq_decide, Nat.not_le]
  unfold currentStatePatched currentState
  rw [same]

end EpochState

/-! ## One step -/

namespace EpochState.Advances

variable {self next : EpochState}

/-- A vote sets the slot of consensus at most once. -/
theorem castVote (operatorsVoted : ℕ) (isConsensusReached : Bool) (currentSlot : ℕ) :
    self.Advances (self.updateCastVote operatorsVoted isConsensusReached currentSlot) :=
  { refl self with
    consensus := fun reached => by
      simp only [updateCastVote, reached, Bool.not_true, Bool.and_false, Bool.false_eq_true,
        if_false] }

theorem setTieBreaker (isConsensusReached : Bool) (currentSlot : ℕ) :
    self.Advances (self.updateSetTieBreaker isConsensusReached currentSlot) := by
  unfold updateSetTieBreaker
  split
  · rename_i first
    refine { refl self with consensus := fun reached => ?_ }
    rw [reached, Bool.not_true, Bool.and_false] at first
    cases first
  · exact refl self

/-- Taking snapshots can only complete the registration of the operators. -/
theorem changeSnapshots {indexOf : Pubkey → ℕ} {before after : EpochSnapshot}
    {operators later : Pubkey → Account OperatorSnapshot}
    (mirrored : SnapshotsMirrored indexOf (.ready before) operators self.snapshotRecord)
    (changed : self.SnapshotsChanged next)
    (mirroredLater : SnapshotsMirrored indexOf (.ready after) later next.snapshotRecord)
    (keeps : before.finalized = true → after = before) : self.Advances next := by
  have progress := mirrored.progress before rfl
  have complete := mirrored.isComplete_eq rfl
  have progressLater := mirroredLater.progress after rfl
  obtain ⟨statuses, total, progresses, rfl⟩ := changed
  refine { refl self with snapshot := fun done => ⟨done.1, ?_⟩ }
  have same := keeps (complete.symm.trans done.2)
  rw [same] at progressLater
  exact (congrArg Progress.isComplete (progressLater.trans progress.symm)).trans done.2

end EpochState.Advances

namespace EpochAccounts

variable {runtime : Runtime} {indexOf : Pubkey → ℕ} {accounts next : EpochAccounts}
variable {context : Context} {instruction : EpochInstruction}
variable {epochState before after : EpochState}

/-- A closed account is not one that was never created. -/
theorem closeAccount_advances {accountToClose : AccountToClose} {withReceiver : Bool}
    (closed : accounts.closeAccount runtime epochState withReceiver accountToClose = .ok next)
    (loaded : next.epochState = .ready after) : epochState.Advances after := by
  have other : AccountStatus.closed ≠ .dne := fun same => by cases same
  cases accountToClose with
  | epochState =>
    obtain ⟨_, -, same⟩ := bind_eq_ok.mp closed
    cases same
    cases loaded
  | otherEpochState =>
    obtain ⟨_, -, same⟩ := bind_eq_ok.mp closed
    cases same
    cases loaded
    exact { EpochState.Advances.refl epochState with }
  | weightTable =>
    obtain ⟨_, -, same⟩ := bind_eq_ok.mp closed
    cases same
    cases loaded
    exact { EpochState.Advances.refl epochState with
      weights := fun done => ⟨other, done.2⟩ }
  | epochSnapshot =>
    obtain ⟨_, -, same⟩ := bind_eq_ok.mp closed
    cases same
    cases loaded
    exact { EpochState.Advances.refl epochState with
      snapshot := fun done => ⟨other, done.2⟩ }
  | operatorSnapshot operator =>
    obtain ⟨_, -, closed⟩ := bind_eq_ok.mp closed
    obtain ⟨_, update, same⟩ := bind_eq_ok.mp closed
    cases same
    cases loaded
    obtain ⟨_, rfl⟩ := EpochState.closeOperatorSnapshot_eq_ok update
    exact { EpochState.Advances.refl epochState with }
  | ballotBox =>
    obtain ⟨_, -, same⟩ := bind_eq_ok.mp closed
    cases same
    cases loaded
    exact { EpochState.Advances.refl epochState with ballotBox := fun _ => other }
  | baseRewardRouter =>
    obtain ⟨_, -, closed⟩ := bind_eq_ok.mp closed
    obtain ⟨_, -, same⟩ := bind_eq_ok.mp closed
    cases same
    cases loaded
    exact { EpochState.Advances.refl epochState with }
  | ncnRewardRouter operator group =>
    obtain ⟨_, -, closed⟩ := bind_eq_ok.mp closed
    obtain ⟨_, -, closed⟩ := bind_eq_ok.mp closed
    obtain ⟨_, update, same⟩ := bind_eq_ok.mp closed
    cases same
    cases loaded
    obtain ⟨_, rfl⟩ := EpochState.closeNcnRewardRouter_eq_ok update
    exact { EpochState.Advances.refl epochState with }

/-- Whatever an instruction writes, no phase that was reached is lost. -/
theorem Mirrored.advances (mirrored : accounts.Mirrored indexOf)
    (distinct : Function.Injective indexOf) (indexed : instruction.Indexed indexOf)
    (loaded : accounts.epochState = .ready before) (still : next.epochState = .ready after)
    (effect : Effect runtime accounts next context instruction) : before.Advances after := by
  have mirror := mirrored.opened before loaded
  have same : next.epochState = accounts.epochState → before.Advances after := by
    intro unchanged
    cases loaded.symm.trans (unchanged.symm.trans still)
    exact .refl before
  cases effect with
  | received base_le ncn_le written =>
    cases written
    exact same rfl
  | epochStateAllocated unfilled written =>
    cases written
    cases still
  | epochStateFilled allocated written =>
    cases allocated.symm.trans loaded
  | weightTableAllocated here unfilled written =>
    cases written
    exact same rfl
  | weightTableFilled here allocated started written =>
    cases here.symm.trans loaded
    cases written
    cases still
    have unfilled := mirror.table.tracked.dne_of_allocated allocated
    obtain ⟨table, stMintCount, rfl⟩ := Weighing.start_vaultCount started
    exact { EpochState.Advances.refl before with
      weights := fun done => absurd unfilled done.1 }
  | weightSet here table processed written =>
    cases here.symm.trans loaded
    cases written
    cases still
    -- a complete progress means a finalized table, which takes no weight any more
    have counted := mirror.table.counted _ table before rfl
    obtain ⟨weight, set⟩ := Weighing.process_eq_ok processed
    obtain ⟨unfinished, -⟩ := Weighing.setWeight_eq_ok set
    have incomplete := counted.finalized_eq.symm.trans unfinished
    obtain ⟨-, changed⟩ := Weighing.process_frame processed
    rw [changed]
    refine { EpochState.Advances.refl before with weights := fun done => ?_ }
    cases done.2.symm.trans incomplete
  | epochSnapshotFilled here opened unused table finalized written =>
    cases here.symm.trans loaded
    cases written
    cases still
    have unfilled := mirror.snapshots.tracked.dne (by rw [unused]; exact opened)
    exact { EpochState.Advances.refl before with
      snapshot := fun done => absurd unfilled done.1 }
  | operatorSnapshotAllocated here snapshot unfilled listed written =>
    cases written
    exact same rfl
  | operatorSnapshotFilled here snapshot allocated filled written =>
    cases here.symm.trans loaded
    cases written
    cases still
    have snapshots := mirror.snapshots
    rw [snapshot] at snapshots
    obtain ⟨changed, later⟩ := snapshots.fill distinct indexed allocated filled
    obtain ⟨_, _, _, -, registers, -, rfl⟩ := Snapshots.initializeOperatorSnapshot_eq_ok filled
    exact .changeSnapshots snapshots changed later registers.of_finalized
  | delegationSnapshotted here table snapshot taken written =>
    cases here.symm.trans loaded
    cases written
    cases still
    have snapshots := mirror.snapshots
    rw [snapshot] at snapshots
    obtain ⟨changed, later⟩ := snapshots.register distinct taken
    obtain ⟨_, _, _, _, _, _, -, -, -, registers, -, rfl⟩ :=
      Snapshots.processSnapshotVaultOperatorDelegation_eq_ok taken
    exact .changeSnapshots snapshots changed later registers.of_finalized
  | ballotBoxAllocated here unfilled written =>
    cases written
    exact same rfl
  | ballotBoxFilled here allocated written =>
    cases here.symm.trans loaded
    cases written
    cases still
    exact { EpochState.Advances.refl before with
      ballotBox := fun _ created => by cases created }
  | voteCast here box snapshot cast written =>
    cases here.symm.trans loaded
    cases written
    cases still
    obtain ⟨_, -, -, updated⟩ := VotingAccounts.processCastVote_calls cast
    rw [updated]
    exact .castVote _ _ _
  | tieBreakerSet here box set written =>
    cases here.symm.trans loaded
    cases written
    cases still
    obtain ⟨-, -, -, updated⟩ := VotingAccounts.processAdminSetTieBreaker_eq_ok set
    rw [updated]
    exact .setTieBreaker _ _
  | merkleRootSet here update written =>
    cases here.symm.trans loaded
    cases written
    cases still
    obtain ⟨_, rfl⟩ := EpochState.updateSetMerkleRoot_eq_ok update
    exact { EpochState.Advances.refl before with }
  | baseRouterAllocated here unfilled paid rent written =>
    cases written
    exact same rfl
  | baseRouterFilled here allocated written =>
    cases here.symm.trans loaded
    cases written
    cases still
    exact { EpochState.Advances.refl before with }
  | baseRouted here ready route written =>
    cases here.symm.trans loaded
    cases written
    cases still
    exact { EpochState.Advances.refl before with }
  | baseDistributed here ready distribute sent update written =>
    cases here.symm.trans loaded
    cases written
    cases still
    obtain ⟨_, _, -, rfl⟩ := EpochState.updateDistributeBaseRewards_eq_ok update
    exact { EpochState.Advances.refl before with }
  | baseNcnDistributed here ready distribute sent paid update written =>
    cases here.symm.trans loaded
    cases written
    cases still
    obtain ⟨_, -, rfl⟩ := EpochState.updateDistributeBaseNcnRewards_eq_ok update
    exact { EpochState.Advances.refl before with }
  | ncnRouterFilled here opened snapshot unused rent update written =>
    cases here.symm.trans loaded
    cases written
    cases still
    obtain ⟨_, rfl⟩ := EpochState.updateReallocNcnRewardRouter_eq update
    exact { EpochState.Advances.refl before with }
  | ncnRouted here snapshot ready route update written =>
    cases here.symm.trans loaded
    cases written
    cases still
    obtain ⟨_, rfl⟩ := EpochState.updateRouteNcnRewards_eq_ok update
    exact { EpochState.Advances.refl before with }
  | ncnDistributed here snapshot ready distribute sent update written =>
    cases here.symm.trans loaded
    cases written
    cases still
    obtain ⟨_, _, _, -, rfl⟩ := EpochState.updateDistributeNcnRewards_eq_ok update
    exact { EpochState.Advances.refl before with }
  | closed here open_ canClose close =>
    cases here.symm.trans loaded
    have closing : before.Advances before.setIsClosing :=
      { EpochState.Advances.refl before with }
    exact closing.trans (closeAccount_advances close still)

/-! ## Runs -/

/-- The epoch state was closed. -/
def Gone (accounts : EpochAccounts) : Prop :=
  accounts.epochMarker = true ∧ accounts.epochState = .missing

/-- The marker keeps the epoch state from being created again. -/
theorem Gone.effect (gone : accounts.Gone)
    (effect : Effect runtime accounts next context instruction) : next.Gone := by
  obtain ⟨marked, missing⟩ := gone
  obtain ⟨account, base, ncn, appears, rfl⟩ := effect.of_absent fun epochState loaded => by
    cases missing.symm.trans loaded
  refine ⟨marked, ?_⟩
  cases appears with
  | same => exact missing
  | allocated dataLen unfilled =>
    rw [missing, marked] at unfilled
    cases unfilled
  | filled bump slot allocated => cases missing.symm.trans allocated

/-- An epoch state goes on to be there until it is closed. -/
theorem Effect.still_or_gone (loaded : accounts.epochState = .ready before)
    (effect : Effect runtime accounts next context instruction) :
    (∃ after, next.epochState = .ready after) ∨ next.Gone := by
  cases effect with
  | epochStateAllocated unfilled same =>
    rw [loaded] at unfilled
    cases unfilled
  | epochStateFilled allocated same => cases allocated.symm.trans loaded
  | operatorSnapshotAllocated here snapshot unfilled listed same =>
    cases same
    exact .inl ⟨before, loaded⟩
  | closed here open_ canClose close =>
    rcases closeAccount_eq_ok close with ⟨-, -, rfl⟩ | ⟨-, updated, still, -⟩
    · exact .inr ⟨rfl, rfl⟩
    · exact .inl ⟨updated, still⟩
  | _ =>
    rename_i same
    cases same
    first
      | exact .inl ⟨_, rfl⟩
      | exact .inl ⟨_, loaded⟩

theorem run_advances {history : List (Context × EpochInstruction)}
    (distinct : Function.Injective indexOf)
    (indexed : ∀ timed ∈ history, timed.2.Indexed indexOf) (mirrored : accounts.Mirrored indexOf)
    (loaded : accounts.epochState = .ready before)
    (ran : run (process runtime) history accounts = .ok next)
    (still : next.epochState = .ready after) : before.Advances after := by
  have along : next.Mirrored indexOf ∧
      ((∃ middle, next.epochState = .ready middle ∧ before.Advances middle) ∨ next.Gone) := by
    refine foldlM_invariant (motive := fun state => state.Mirrored indexOf ∧
      ((∃ middle, state.epochState = .ready middle ∧ before.Advances middle) ∨ state.Gone)) ?_
      ⟨mirrored, .inl ⟨before, loaded, .refl before⟩⟩ ran
    rintro timed member state later ⟨mirroredState, reached⟩ processed
    have effect := process_effect processed
    have own := indexed timed member
    refine ⟨mirroredState.effect distinct own effect, ?_⟩
    rcases reached with ⟨middle, here, advanced⟩ | gone
    · rcases effect.still_or_gone here with ⟨last, there⟩ | gone
      · exact .inl ⟨last, there,
          advanced.trans (mirroredState.advances distinct own here there effect)⟩
      · exact .inr gone
    · exact .inr (gone.effect effect)
  rcases along.2 with ⟨middle, here, advanced⟩ | gone
  · cases here.symm.trans still
    exact advanced
  · cases gone.2.symm.trans still

/-- While the epoch state exists its phase never goes back, whatever instructions come
in between: the phase at a later slot is the same or a later one, under the same
configuration. Counting the weights against the mints of the weight table gives
the same phase. -/
theorem phase_never_goes_back (runtime : Runtime) (scheduled : Monotone runtime.getEpoch)
    (ncn : Pubkey) (epoch : ℕ) {indexOf : Pubkey → ℕ} (distinct : Function.Injective indexOf)
    {past rest : List (Context × EpochInstruction)}
    (indexed : ∀ timed ∈ past ++ rest, timed.2.Indexed indexOf) {middle finish : EpochAccounts}
    (ranPast : run (process runtime) past (absent ncn epoch) = .ok middle)
    (ranRest : run (process runtime) rest middle = .ok finish) {before after : EpochState}
    (loaded : middle.epochState = .ready before) (still : finish.epochState = .ready after)
    (config : Config) {slot laterSlot : ℕ} (ordered : slot ≤ laterSlot) :
    (∀ phase laterPhase,
      before.currentState runtime.getEpoch config.validSlotsAfterConsensus
        config.epochsAfterConsensusBeforeClose slot = .ok phase →
      after.currentState runtime.getEpoch config.validSlotsAfterConsensus
        config.epochsAfterConsensusBeforeClose laterSlot = .ok laterPhase →
      phase.rank ≤ laterPhase.rank) ∧
    ∀ stMintCount, after.setWeightProgress.total = stMintCount →
      after.currentStatePatched runtime.getEpoch config.validSlotsAfterConsensus
          config.epochsAfterConsensusBeforeClose stMintCount laterSlot =
        after.currentState runtime.getEpoch config.validSlotsAfterConsensus
          config.epochsAfterConsensusBeforeClose laterSlot := by
  have mirrored := run_mirrored distinct
    (fun timed member => indexed timed (List.mem_append_left rest member)) ranPast
  have advances := run_advances distinct
    (fun timed member => indexed timed (List.mem_append_right past member)) mirrored loaded ranRest
    still
  have ran : run (process runtime) (past ++ rest) (absent ncn epoch) = .ok finish := by
    rw [run_append, ranPast, ok_bind, ranRest]
  have bounded := ((run_mirrored distinct indexed ran).opened after still).table
  refine ⟨fun phase laterPhase => advances.rank_le scheduled ordered, fun stMintCount total => ?_⟩
  exact EpochState.currentStatePatched_eq total bounded.tally bounded.total

/-- Twelve epochs after consensus all accounts but the epoch state are closed. -/
def sampleClosing : List (Context × EpochInstruction) :=
  [AccountToClose.weightTable, .epochSnapshot, .operatorSnapshot firstOperator,
    .operatorSnapshot secondOperator, .ballotBox, .baseRewardRouter,
    .ncnRewardRouter firstOperator .default].map fun accountToClose =>
      (sampleContext 5184000, .closeEpochAccount accountToClose sampleWallet true)

theorem sampleClosing_indexed : ∀ timed ∈ sampleClosing, timed.2.Indexed sampleIndex := by
  simp [sampleClosing, EpochInstruction.Indexed]

/-- From the snapshot phase to the closing one, with everything closed. -/
theorem phase_never_goes_back_until_closed : ∃ before after : EpochState,
    before.currentState sampleRuntime.getEpoch 1000 10 6 = .ok .snapshot ∧
      after.currentState sampleRuntime.getEpoch 1000 10 5184000 = .ok .close ∧
      EpochState.Phase.snapshot.rank ≤ EpochState.Phase.close.rank := by
  have runs : (do
      let middle ← run (process sampleRuntime) epochWeighed (absent .default 0)
      let before ← middle.epochState.load
      let finish ← run (process sampleRuntime)
        (epochSnapshotted ++ epochVoted ++ epochRouted ++ sampleClosing) middle
      let after ← finish.epochState.load
      return (before, after)).toOption.any (fun result : EpochState × EpochState =>
        result.1.currentState sampleRuntime.getEpoch 1000 10 6 ==
            Except.ok EpochState.Phase.snapshot &&
          result.2.currentState sampleRuntime.getEpoch 1000 10 5184000 ==
            Except.ok EpochState.Phase.close) = true := by
    decide +kernel
  obtain ⟨⟨before, after⟩, all, outcome⟩ := exists_of_any runs
  obtain ⟨middle, ranPast, all⟩ := bind_eq_ok.mp all
  obtain ⟨_, loaded, all⟩ := bind_eq_ok.mp all
  obtain ⟨finish, ranRest, all⟩ := bind_eq_ok.mp all
  obtain ⟨_, still, same⟩ := bind_eq_ok.mp all
  cases same
  simp only [Bool.and_eq_true, beq_iff_eq] at outcome
  have indexed : ∀ timed ∈ epochWeighed ++ (epochSnapshotted ++ epochVoted ++ epochRouted ++
      sampleClosing), timed.2.Indexed sampleIndex := by
    have earlier := sampleEpoch_indexed
    simp only [sampleEpoch, List.forall_mem_append] at earlier ⊢
    obtain ⟨⟨⟨weighed, snapshotted⟩, voted⟩, routed⟩ := earlier
    exact ⟨weighed, ⟨⟨snapshotted, voted⟩, routed⟩, sampleClosing_indexed⟩
  have never := (phase_never_goes_back sampleRuntime (fun _ _ le => Nat.div_le_div_right le)
    .default 0 sampleIndex_injective indexed ranPast ranRest (Account.load_eq_ok_iff.mp loaded)
    (Account.load_eq_ok_iff.mp still) (sampleContext 5).config (by norm_num : 6 ≤ 5184000)).1
  exact ⟨before, after, outcome.1, outcome.2, never _ _ outcome.1 outcome.2⟩

end EpochAccounts

end TipRouter
