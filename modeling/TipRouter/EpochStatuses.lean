import TipRouter.EpochConsensus

/-! The table of statuses in the epoch state, over the whole life of an epoch. An
instruction enters the account it fills or the one it closes and leaves the other
entries as they are, so that an entry is closed exactly when its account was closed
at some time. -/
namespace TipRouter
open Runs

/-! ## The table of statuses -/

/-- An entry of `EpochAccountStatus`. -/
inductive StatusSlot where
  | epochState
  | weightTable
  | epochSnapshot
  | operatorSnapshot (index : ℕ)
  | ballotBox
  | baseRewardRouter
  | ncnRewardRouter (index : ℕ)
  deriving DecidableEq

def EpochState.statusAt (self : EpochState) : StatusSlot → AccountStatus
  | .epochState => self.accountStatus.epochState
  | .weightTable => self.accountStatus.weightTable
  | .epochSnapshot => self.accountStatus.epochSnapshot
  | .operatorSnapshot index => statusOf self.accountStatus.operatorSnapshot index
  | .ballotBox => self.accountStatus.ballotBox
  | .baseRewardRouter => self.accountStatus.baseRewardRouter
  | .ncnRewardRouter index => statusOf self.accountStatus.ncnRewardRouter index

/-- The entry that speaks of an account; what is closed as the epoch state of another
epoch is entered as this one. -/
def AccountToClose.slot (indexOf : Pubkey → ℕ) : AccountToClose → StatusSlot
  | .epochState => .epochState
  | .otherEpochState => .epochState
  | .weightTable => .weightTable
  | .epochSnapshot => .epochSnapshot
  | .operatorSnapshot operator => .operatorSnapshot (indexOf operator)
  | .ballotBox => .ballotBox
  | .baseRewardRouter => .baseRewardRouter
  | .ncnRewardRouter operator group =>
    .ncnRewardRouter (indexOf operator * feeGroupCount + group.group)

/-- An account of this epoch, of an NCN fee group that there is. -/
def AccountToClose.IsOwn : AccountToClose → Prop
  | .otherEpochState => False
  | .ncnRewardRouter _ group => ∃ index, group = .ofIndex index
  | _ => True

/-- The account exists and is fully initialised. -/
def EpochAccounts.IsFilled (self : EpochAccounts) : AccountToClose → Prop
  | .epochState => ∃ data, self.epochState = .ready data
  | .otherEpochState => False
  | .weightTable => ∃ data, self.weightTable = .ready data
  | .epochSnapshot => ∃ data, self.epochSnapshot = .ready data
  | .operatorSnapshot operator => ∃ data, self.operatorSnapshots operator = .ready data
  | .ballotBox => ∃ data, self.ballotBox = .ready data
  | .baseRewardRouter => ∃ data, self.baseRewardRouter = .ready data
  | .ncnRewardRouter operator group => ∃ data, self.ncnRewardRouters (operator, group) = .ready data

/-- Accounts of this epoch have entries of their own. -/
theorem AccountToClose.slot_injOn {indexOf : Pubkey → ℕ} (distinct : Function.Injective indexOf)
    {account other : AccountToClose} (own : account.IsOwn) (otherOwn : other.IsOwn)
    (same : account.slot indexOf = other.slot indexOf) : account = other := by
  cases account with
  | otherEpochState => exact own.elim
  | operatorSnapshot operator =>
    cases other with
    | operatorSnapshot otherOperator =>
      rw [distinct (StatusSlot.operatorSnapshot.inj same)]
    | otherEpochState => exact otherOwn.elim
    | _ => cases same
  | ncnRewardRouter operator group =>
    cases other with
    | ncnRewardRouter otherOperator otherGroup =>
      obtain ⟨index, rfl⟩ := own
      obtain ⟨otherIndex, rfl⟩ := otherOwn
      by_contra different
      refine ncnRouterIndex_ne distinct ?_ (StatusSlot.ncnRewardRouter.inj same)
      intro key
      obtain ⟨sameOperator, sameGroup⟩ := Prod.mk.inj key
      exact different (by rw [sameOperator, sameGroup])
    | otherEpochState => exact otherOwn.elim
    | _ => cases same
  | _ =>
    cases other with
    | otherEpochState => exact otherOwn.elim
    | _ => first | rfl | cases same

namespace EpochState

variable {self before after : EpochState}

theorem statusAt_congr (same : after.accountStatus = before.accountStatus) :
    after.statusAt = before.statusAt := by
  funext slot
  unfold statusAt
  rw [same]

@[simp] theorem setIsClosing_statusAt (self : EpochState) :
    self.setIsClosing.statusAt = self.statusAt := rfl

theorem statusAt_put_operator {index : ℕ} {status : AccountStatus} (inside : index < maxOperators)
    (same : after.accountStatus = { before.accountStatus with
      operatorSnapshot := before.accountStatus.operatorSnapshot.put ⟨index, inside⟩ status }) :
    after.statusAt = Function.update before.statusAt (.operatorSnapshot index) status := by
  funext slot
  by_cases here : slot = .operatorSnapshot index
  · rw [here, Function.update_self, statusAt, same]
    exact statusOf_put_self inside
  · rw [Function.update_of_ne here]
    unfold statusAt
    rw [same]
    cases slot with
    | operatorSnapshot other =>
      exact statusOf_put_ne inside fun equal => here (by rw [equal])
    | _ => rfl

theorem statusAt_put_ncn {index : ℕ} {status : AccountStatus}
    (inside : index < maxNcnRewardRouters)
    (same : after.accountStatus = { before.accountStatus with
      ncnRewardRouter := before.accountStatus.ncnRewardRouter.put ⟨index, inside⟩ status }) :
    after.statusAt = Function.update before.statusAt (.ncnRewardRouter index) status := by
  funext slot
  by_cases here : slot = .ncnRewardRouter index
  · rw [here, Function.update_self, statusAt, same]
    exact statusOf_put_self inside
  · rw [Function.update_of_ne here]
    unfold statusAt
    rw [same]
    cases slot with
    | ncnRewardRouter other =>
      exact statusOf_put_ne inside fun equal => here (by rw [equal])
    | _ => rfl

/-- An account that has its own field in the table. -/
theorem statusAt_set {slot : StatusSlot} {status : AccountStatus}
    (here : after.statusAt slot = status)
    (elsewhere : ∀ other, other ≠ slot → after.statusAt other = before.statusAt other) :
    after.statusAt = Function.update before.statusAt slot status := by
  funext other
  by_cases same : other = slot
  · rw [same, Function.update_self, here]
  · rw [Function.update_of_ne same, elsewhere other same]

/-- Nothing changes in the table, or one entry is made. -/
structure StatusFilled (before after : EpochState) : Prop where
  isClosing : after.isClosing = before.isClosing
  statuses : after.statusAt = before.statusAt ∨ ∃ slot status, before.statusAt slot = .dne ∧
    status ≠ .closed ∧ after.statusAt = Function.update before.statusAt slot status

theorem StatusFilled.of_same
    (same : (after.accountStatus, after.isClosing) = (before.accountStatus, before.isClosing)) :
    before.StatusFilled after where
  isClosing := congrArg Prod.snd same
  statuses := .inl (statusAt_congr (congrArg Prod.fst same))

/-- An entry that was made stays as it is. -/
theorem StatusFilled.kept {slot : StatusSlot} (filled : before.StatusFilled after)
    (made : before.statusAt slot ≠ .dne) : after.statusAt slot = before.statusAt slot := by
  rcases filled.statuses with same | ⟨entry, status, absent, -, same⟩
  · rw [same]
  · rw [same, Function.update_of_ne]
    rintro rfl
    exact made absent

/-- No entry is closed by it and none that is closed is lost. -/
theorem StatusFilled.closed_iff (filled : before.StatusFilled after) (slot : StatusSlot) :
    after.statusAt slot = .closed ↔ before.statusAt slot = .closed := by
  rcases filled.statuses with same | ⟨entry, status, absent, other, same⟩
  · rw [same]
  · rw [same]
    by_cases here : slot = entry
    · rw [here, Function.update_self, absent]
      exact ⟨fun closed => absurd closed other, fun closed => by cases closed⟩
    · rw [Function.update_of_ne here]

end EpochState

/-! ### What an instruction does to the table -/

namespace EpochAccounts

variable {runtime : Runtime} {indexOf : Pubkey → ℕ} {accounts next : EpochAccounts}
variable {context : Context} {instruction : EpochInstruction}
variable {epochState before after : EpochState}

theorem Mirrored.statusFilled (mirrored : accounts.Mirrored indexOf)
    (indexed : instruction.Indexed indexOf)
    (loaded : accounts.epochState = .ready before) (still : next.epochState = .ready after)
    (goesOn : ∀ account daoWallet withReceiver,
      instruction ≠ .closeEpochAccount account daoWallet withReceiver)
    (effect : Effect runtime accounts next context instruction) : before.StatusFilled after := by
  have mirror := mirrored.opened before loaded
  have same : next.epochState = accounts.epochState → before.StatusFilled after := by
    intro unchanged
    cases loaded.symm.trans (unchanged.symm.trans still)
    exact .of_same rfl
  cases effect with
  | received base_le ncn_le written =>
    cases written
    exact same rfl
  | epochStateAllocated unfilled written =>
    cases written
    cases still
  | epochStateFilled allocated written => cases allocated.symm.trans loaded
  | weightTableAllocated here unfilled written =>
    cases written
    exact same rfl
  | weightTableFilled here allocated started written =>
    cases here.symm.trans loaded
    cases written
    cases still
    have unfilled := mirror.table.tracked.dne_of_allocated allocated
    obtain ⟨table, stMintCount, rfl⟩ := Weighing.start_vaultCount started
    refine ⟨rfl, .inr ⟨.weightTable, .created, unfilled, nofun, ?_⟩⟩
    exact EpochState.statusAt_set rfl fun other different => by
      cases other <;> first | rfl | exact absurd rfl different
  | weightSet here table processed written =>
    cases here.symm.trans loaded
    cases written
    cases still
    obtain ⟨-, changed⟩ := Weighing.process_frame processed
    exact .of_same (by rw [changed])
  | epochSnapshotFilled here opened unused table finalized written =>
    cases here.symm.trans loaded
    cases written
    cases still
    have unfilled := mirror.snapshots.tracked.dne (by rw [unused]; exact opened)
    refine ⟨rfl, .inr ⟨.epochSnapshot, .created, unfilled, nofun, ?_⟩⟩
    exact EpochState.statusAt_set rfl fun other different => by
      cases other <;> first | rfl | exact absurd rfl different
  | operatorSnapshotAllocated here snapshot unfilled listed written =>
    cases written
    exact same rfl
  | operatorSnapshotFilled here snapshot allocated filled written =>
    cases here.symm.trans loaded
    cases written
    cases still
    obtain ⟨inside, _, -, -, -, statuses, closing⟩ :=
      Snapshots.initializeOperatorSnapshot_records filled
    have unfilled := (mirror.snapshots.operatorsTracked _).dne_of_allocated allocated
    rw [← indexed] at unfilled
    exact ⟨closing, .inr ⟨.operatorSnapshot _, .created, unfilled, nofun,
      EpochState.statusAt_put_operator inside statuses⟩⟩
  | delegationSnapshotted here table snapshot taken written =>
    cases here.symm.trans loaded
    cases written
    cases still
    obtain ⟨_, -, -, -, statuses, closing⟩ :=
      Snapshots.processSnapshotVaultOperatorDelegation_records taken
    exact .of_same (Prod.ext statuses closing)
  | ballotBoxAllocated here unfilled written =>
    cases written
    exact same rfl
  | ballotBoxFilled here allocated written =>
    cases here.symm.trans loaded
    cases written
    cases still
    have unfilled := mirror.ballotBox.dne_of_allocated allocated
    refine ⟨rfl, .inr ⟨.ballotBox, .created, unfilled, nofun, ?_⟩⟩
    exact EpochState.statusAt_set rfl fun other different => by
      cases other <;> first | rfl | exact absurd rfl different
  | voteCast here box snapshot cast written =>
    cases here.symm.trans loaded
    cases written
    cases still
    obtain ⟨_, -, -, updated⟩ := VotingAccounts.processCastVote_calls cast
    exact .of_same (by rw [updated]; rfl)
  | tieBreakerSet here box set written =>
    cases here.symm.trans loaded
    cases written
    cases still
    obtain ⟨-, -, -, updated⟩ := VotingAccounts.processAdminSetTieBreaker_eq_ok set
    obtain ⟨slot, flag, changed⟩ := EpochState.updateSetTieBreaker_eq before true context.clock.slot
    exact .of_same (by rw [updated, changed])
  | merkleRootSet here update written =>
    cases here.symm.trans loaded
    cases written
    cases still
    obtain ⟨_, rfl⟩ := EpochState.updateSetMerkleRoot_eq_ok update
    exact .of_same rfl
  | baseRouterAllocated here unfilled paid rent written =>
    cases written
    exact same rfl
  | baseRouterFilled here allocated written =>
    cases here.symm.trans loaded
    cases written
    cases still
    have unfilled := mirror.base.tracked.dne_of_allocated allocated
    refine ⟨rfl, .inr ⟨.baseRewardRouter, .createdWithReceiver, unfilled, nofun, ?_⟩⟩
    exact EpochState.statusAt_set rfl fun other different => by
      cases other <;> first | rfl | exact absurd rfl different
  | baseRouted here ready route written =>
    cases here.symm.trans loaded
    cases written
    cases still
    exact .of_same rfl
  | baseDistributed here ready distribute sent update written =>
    cases here.symm.trans loaded
    cases written
    cases still
    obtain ⟨_, _, -, rfl⟩ := EpochState.updateDistributeBaseRewards_eq_ok update
    exact .of_same rfl
  | baseNcnDistributed here ready distribute sent paid update written =>
    cases here.symm.trans loaded
    cases written
    cases still
    obtain ⟨_, -, rfl⟩ := EpochState.updateDistributeBaseNcnRewards_eq_ok update
    exact .of_same rfl
  | ncnRouterFilled here opened snapshot unused rent update written =>
    cases here.symm.trans loaded
    cases written
    cases still
    rw [mirror.snapshots.index _ _ snapshot] at update
    obtain ⟨inside, rfl⟩ := EpochState.updateReallocNcnRewardRouter_eq update
    have unfilled := (mirror.ncn.tracked _ _).dne (by rw [unused]; exact opened)
    exact ⟨rfl, .inr ⟨.ncnRewardRouter _, .createdWithReceiver, unfilled, nofun,
      EpochState.statusAt_put_ncn inside rfl⟩⟩
  | ncnRouted here snapshot ready route update written =>
    cases here.symm.trans loaded
    cases written
    cases still
    obtain ⟨_, rfl⟩ := EpochState.updateRouteNcnRewards_eq_ok update
    exact .of_same rfl
  | ncnDistributed here snapshot ready distribute sent update written =>
    cases here.symm.trans loaded
    cases written
    cases still
    obtain ⟨_, _, _, -, rfl⟩ := EpochState.updateDistributeNcnRewards_eq_ok update
    exact .of_same rfl
  | closed here open_ canClose close => exact absurd rfl (goesOn _ _ _)

/-- What is closed is entered as closed. -/
theorem MirroredBy.statusClosed {account : AccountToClose} {withReceiver : Bool}
    (mirrored : accounts.MirroredBy indexOf epochState)
    (closed : accounts.closeAccount runtime epochState withReceiver account = .ok next)
    (still : next.epochState = .ready after) :
    after.isClosing = epochState.isClosing ∧
      after.statusAt = Function.update epochState.statusAt (account.slot indexOf) .closed := by
  cases account with
  | epochState =>
    obtain ⟨_, -, same⟩ := bind_eq_ok.mp closed
    cases same
    cases still
  | otherEpochState =>
    obtain ⟨_, -, same⟩ := bind_eq_ok.mp closed
    cases same
    cases still
    exact ⟨rfl, EpochState.statusAt_set rfl fun other different => by
      cases other <;> first | rfl | exact absurd rfl different⟩
  | weightTable =>
    obtain ⟨_, -, same⟩ := bind_eq_ok.mp closed
    cases same
    cases still
    exact ⟨rfl, EpochState.statusAt_set rfl fun other different => by
      cases other <;> first | rfl | exact absurd rfl different⟩
  | epochSnapshot =>
    obtain ⟨_, -, same⟩ := bind_eq_ok.mp closed
    cases same
    cases still
    exact ⟨rfl, EpochState.statusAt_set rfl fun other different => by
      cases other <;> first | rfl | exact absurd rfl different⟩
  | operatorSnapshot operator =>
    obtain ⟨_, found, closed⟩ := bind_eq_ok.mp closed
    obtain ⟨_, update, same⟩ := bind_eq_ok.mp closed
    cases same
    cases still
    rw [mirrored.snapshots.index operator _ (loadToClose_eq_ok found)] at update
    obtain ⟨inside, rfl⟩ := EpochState.closeOperatorSnapshot_eq_ok update
    exact ⟨rfl, EpochState.statusAt_put_operator inside rfl⟩
  | ballotBox =>
    obtain ⟨_, -, same⟩ := bind_eq_ok.mp closed
    cases same
    cases still
    exact ⟨rfl, EpochState.statusAt_set rfl fun other different => by
      cases other <;> first | rfl | exact absurd rfl different⟩
  | baseRewardRouter =>
    obtain ⟨_, -, closed⟩ := bind_eq_ok.mp closed
    obtain ⟨_, -, same⟩ := bind_eq_ok.mp closed
    cases same
    cases still
    exact ⟨rfl, EpochState.statusAt_set rfl fun other different => by
      cases other <;> first | rfl | exact absurd rfl different⟩
  | ncnRewardRouter operator group =>
    obtain ⟨_, found, closed⟩ := bind_eq_ok.mp closed
    obtain ⟨_, -, closed⟩ := bind_eq_ok.mp closed
    obtain ⟨_, update, same⟩ := bind_eq_ok.mp closed
    cases same
    cases still
    obtain ⟨index, rfl⟩ := mirrored.ncn.exists_group (loadToClose_eq_ok found)
    obtain ⟨sameIndex, sameGroup⟩ :=
      Prod.mk.inj (mirrored.ncn.identity operator index _ (loadToClose_eq_ok found))
    rw [sameIndex, sameGroup] at update
    obtain ⟨inside, rfl⟩ := EpochState.closeNcnRewardRouter_eq_ok update
    exact ⟨rfl, EpochState.statusAt_put_ncn inside rfl⟩

end EpochAccounts

end TipRouter
