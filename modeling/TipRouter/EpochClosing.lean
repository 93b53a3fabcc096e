import TipRouter.EpochStatuses

/-! The end of an epoch, `program/src/close_epoch_account.rs`. The statuses say which
accounts exist and which were closed, the epoch state goes last, and its marker
keeps the epoch from coming back. All of it holds as long as `CloseEpochAccount` is
given accounts of its own epoch: it never looks at an epoch state that it is to
close, and enters whichever it was as the epoch's own. -/
namespace TipRouter
open Runs

theorem EpochState.loadToClose_areAllClosed {self : EpochState} {ncn : Pubkey} {epoch : ℕ}
    (allowed : self.loadToClose ncn epoch = .ok ()) : self.accountStatus.areAllClosed = true := by
  unfold loadToClose at allowed
  split at allowed
  · cases allowed
  split at allowed
  · cases allowed
  split at allowed
  · cases allowed
  · rename_i closed
    simpa using closed

theorem EpochState.loadToClose_eq_ok {self : EpochState}
    (allClosed : self.accountStatus.areAllClosed = true) :
    self.loadToClose self.ncn self.epoch = .ok () := by
  unfold loadToClose
  rw [if_neg (not_not.mpr rfl), if_neg (not_not.mpr rfl), allClosed]
  rfl

/-- Late enough and for the wallet of the DAO it is up to the account itself. -/
theorem EpochAccounts.processCloseEpochAccount_eq {runtime : Runtime} {accounts : EpochAccounts}
    {context : Context} {epochState : EpochState} {accountToClose : AccountToClose}
    {daoWallet : Pubkey} {withReceiver : Bool} (loaded : accounts.epochState = .ready epochState)
    (unmarked : accounts.epochMarker = false) (there : accounts.dataIsEmpty accountToClose = false)
    (wallet : context.config.feeConfig.baseFeeWallet .dao = .ok daoWallet)
    (canClose : epochState.canCloseEpochAccounts runtime.getEpoch
      context.config.epochsAfterConsensusBeforeClose context.clock.slot = .ok true) :
    accounts.processCloseEpochAccount runtime context accountToClose daoWallet withReceiver =
      accounts.closeAccount runtime epochState.setIsClosing withReceiver accountToClose := by
  have open_ : accounts.checkDne = .ok () := checkDne_eq_ok_iff.mpr unmarked
  unfold processCloseEpochAccount
  rw [loaded, Account.load, ok_bind, open_, ok_bind, there, if_neg Bool.false_ne_true,
    lift_eq_ok_iff.mpr wallet, ok_bind, if_neg (not_not.mpr rfl), lift_eq_ok_iff.mpr canClose,
    ok_bind, if_pos rfl]

/-! ## Histories -/

/-- Some instruction of the history closed the account. -/
def ClosedIn (history : List (Context × EpochInstruction)) (account : AccountToClose) : Prop :=
  ∃ timed ∈ history, ∃ daoWallet withReceiver,
    timed.2 = .closeEpochAccount account daoWallet withReceiver

/-- No epoch state of another epoch or NCN is passed as the account to close. -/
def EpochInstruction.ClosesOwn : EpochInstruction → Prop
  | closeEpochAccount account _ _ => account ≠ .otherEpochState
  | _ => True

/-- A transfer by anyone, not an instruction of the program. -/
def EpochInstruction.IsTransfer : EpochInstruction → Prop
  | transferToBaseReceiver _ => True
  | transferToNcnReceiver _ _ _ => True
  | _ => False

section ClosedIn
variable {past : List (Context × EpochInstruction)} {context : Context}
variable {instruction : EpochInstruction} {account other : AccountToClose}

theorem not_closedIn_nil : ¬ ClosedIn [] account := by
  rintro ⟨timed, member, -⟩
  cases member

theorem ClosedIn.append (closed : ClosedIn past account)
    (rest : List (Context × EpochInstruction)) : ClosedIn (past ++ rest) account := by
  obtain ⟨timed, member, closes⟩ := closed
  exact ⟨timed, List.mem_append_left rest member, closes⟩

/-- The last instruction closed the account, or an earlier one did. -/
theorem closedIn_append_close {daoWallet : Pubkey} {withReceiver : Bool} :
    ClosedIn (past ++ [(context, .closeEpochAccount other daoWallet withReceiver)]) account ↔
      account = other ∨ ClosedIn past account := by
  constructor
  · rintro ⟨timed, member, wallet, receiver, closes⟩
    rcases List.mem_append.mp member with earlier | last
    · exact .inr ⟨timed, earlier, wallet, receiver, closes⟩
    · rw [List.mem_singleton.mp last] at closes
      cases closes
      exact .inl rfl
  · rintro (rfl | earlier)
    · exact ⟨_, List.mem_append_right past (List.mem_singleton.mpr rfl), daoWallet, withReceiver, rfl⟩
    · exact earlier.append _

theorem closedIn_append_other
    (goesOn : ∀ account daoWallet withReceiver,
      instruction ≠ .closeEpochAccount account daoWallet withReceiver) :
    ClosedIn (past ++ [(context, instruction)]) account ↔ ClosedIn past account := by
  refine ⟨?_, fun closed => closed.append _⟩
  rintro ⟨timed, member, wallet, receiver, closes⟩
  rcases List.mem_append.mp member with earlier | last
  · exact ⟨timed, earlier, wallet, receiver, closes⟩
  · rw [List.mem_singleton.mp last] at closes
    exact absurd closes (goesOn _ _ _)

end ClosedIn

/-! ## All closed -/

namespace Account
variable {α : Type} {account : Account α} {filled status : AccountStatus} {isClosing : Bool}

/-- The status says whether the account is there and filled. -/
theorem Tracked.created_iff (tracked : account.Tracked filled isClosing status)
    (created : filled = .created ∨ filled = .createdWithReceiver) :
    (status = .created ∨ status = .createdWithReceiver) ↔ ∃ data, account = .ready data := by
  cases account with
  | missing =>
    have notCreated : ¬ (status = .created ∨ status = .createdWithReceiver) := by
      rcases tracked with rfl | ⟨rfl, -⟩ <;> simp
    exact iff_of_false notCreated (by simp)
  | allocated dataLen =>
    have absent : status = .dne := tracked
    exact iff_of_false (by simp [absent]) (by simp)
  | ready data =>
    have same : status = filled := tracked
    rw [same]
    exact iff_of_true created ⟨data, rfl⟩

theorem Tracked.missing_of_closed (tracked : account.Tracked filled isClosing status)
    (created : filled = .created ∨ filled = .createdWithReceiver) (closed : status = .closed) :
    account = .missing := by
  cases account with
  | missing => rfl
  | allocated dataLen => cases closed.symm.trans tracked
  | ready data =>
    have same : AccountStatus.closed = filled := closed.symm.trans tracked
    rw [← same] at created
    rcases created with created | created <;> cases created

end Account

/-- What `are_all_closed` asks of one entry. -/
def EpochState.Settled (self : EpochState) : StatusSlot → Prop
  | .epochState => True
  | .operatorSnapshot index => self.statusAt (.operatorSnapshot index) = .dne ∨
      self.statusAt (.operatorSnapshot index) = .closed
  | .ncnRewardRouter index => self.statusAt (.ncnRewardRouter index) = .dne ∨
      self.statusAt (.ncnRewardRouter index) = .closed
  | slot => self.statusAt slot = .closed

theorem EpochState.areAllClosed_iff {self : EpochState} :
    self.accountStatus.areAllClosed = true ↔ ∀ slot, self.Settled slot := by
  simp only [EpochAccountStatus.areAllClosed, Bool.and_eq_true, beq_iff_eq, Vector.all_eq_true,
    Bool.or_eq_true]
  constructor
  · rintro ⟨⟨⟨⟨⟨table, snapshot⟩, operators⟩, box⟩, base⟩, ncn⟩ slot
    cases slot with
    | epochState => trivial
    | weightTable => exact table
    | epochSnapshot => exact snapshot
    | operatorSnapshot index =>
      by_cases inside : index < maxOperators
      · simp only [Settled, statusAt, statusOf_of_lt inside]
        exact operators index inside
      · exact .inl (dif_neg inside)
    | ballotBox => exact box
    | baseRewardRouter => exact base
    | ncnRewardRouter index =>
      by_cases inside : index < maxNcnRewardRouters
      · simp only [Settled, statusAt, statusOf_of_lt inside]
        exact ncn index inside
      · exact .inl (dif_neg inside)
  · intro settled
    refine ⟨⟨⟨⟨⟨settled .weightTable, settled .epochSnapshot⟩, fun index inside => ?_⟩,
      settled .ballotBox⟩, settled .baseRewardRouter⟩, fun index inside => ?_⟩
    · have entry := settled (.operatorSnapshot index)
      simp only [Settled, statusAt, statusOf_of_lt inside] at entry
      exact entry
    · have entry := settled (.ncnRewardRouter index)
      simp only [Settled, statusAt, statusOf_of_lt inside] at entry
      exact entry

namespace EpochAccounts

variable {runtime : Runtime} {indexOf : Pubkey → ℕ} {accounts next : EpochAccounts}
variable {context : Context} {instruction : EpochInstruction}
variable {epochState before after : EpochState}

/-- Once everything is closed there is nothing: an operator snapshot that was begun and
never finished would count as closed, but consensus leaves none. -/
theorem MirroredBy.unopened (mirrored : accounts.MirroredBy indexOf epochState)
    (registered : accounts.Registered indexOf epochState)
    (reached : epochState.isConsensusReached = true)
    (settled : ∀ slot, epochState.Settled slot) : accounts.Unopened where
  weightTable := mirrored.table.tracked.missing_of_closed (.inl rfl) (settled .weightTable)
  epochSnapshot := mirrored.snapshots.tracked.missing_of_closed (.inl rfl) (settled .epochSnapshot)
  operatorSnapshots operator := by
    have tracked := mirrored.snapshots.operatorsTracked operator
    rcases settled (.operatorSnapshot (indexOf operator)) with absent | closed
    · cases account : accounts.operatorSnapshots operator with
      | missing => rfl
      | allocated dataLen =>
        have below := registered.operators.listed operator dataLen account
        obtain ⟨created, complete⟩ := (registered.decided reached).1
        obtain ⟨few, finished⟩ := registered.operators.full created complete
        have inside := below.trans_le few
        have absent : statusOf epochState.accountStatus.operatorSnapshot (indexOf operator) =
          .dne := absent
        rw [statusOf_of_lt inside] at absent
        exact absurd absent (finished ⟨_, inside⟩ below)
      | ready data =>
        have absent : statusOf epochState.accountStatus.operatorSnapshot (indexOf operator) =
          .dne := absent
        cases absent.symm.trans (tracked.filled_of_ready account)
    · exact tracked.missing_of_closed (.inl rfl) closed
  ballotBox := mirrored.ballotBox.missing_of_closed (.inl rfl) (settled .ballotBox)
  baseRewardRouter := mirrored.base.tracked.missing_of_closed (.inr rfl) (settled .baseRewardRouter)
  ncnRewardRouters key := by
    by_contra present
    obtain ⟨operator, group⟩ := key
    obtain ⟨index, rfl⟩ := mirrored.ncn.groups _ present
    have tracked := mirrored.ncn.tracked operator index
    rcases settled (.ncnRewardRouter (indexOf operator * feeGroupCount + index)) with absent | closed
    · cases account : accounts.ncnRewardRouters (operator, .ofIndex index) with
      | missing => exact present account
      | allocated dataLen => exact registered.whole _ dataLen account
      | ready data =>
        have absent : statusOf epochState.accountStatus.ncnRewardRouter
          (indexOf operator * feeGroupCount + index) = .dne := absent
        cases absent.symm.trans (tracked.filled_of_ready account)
    · exact present (tracked.missing_of_closed (.inr rfl) closed)

/-- An entry is created exactly while its account is there and filled. -/
theorem MirroredBy.filled_iff (mirrored : accounts.MirroredBy indexOf epochState)
    (loaded : accounts.epochState = .ready epochState)
    (created : epochState.accountStatus.epochState = .created) {account : AccountToClose}
    (own : account.IsOwn) :
    (epochState.statusAt (account.slot indexOf) = .created ∨
      epochState.statusAt (account.slot indexOf) = .createdWithReceiver) ↔
        accounts.IsFilled account := by
  cases account with
  | epochState => exact iff_of_true (.inl created) ⟨epochState, loaded⟩
  | otherEpochState => exact own.elim
  | weightTable => exact mirrored.table.tracked.created_iff (.inl rfl)
  | epochSnapshot => exact mirrored.snapshots.tracked.created_iff (.inl rfl)
  | operatorSnapshot operator =>
    exact (mirrored.snapshots.operatorsTracked operator).created_iff (.inl rfl)
  | ballotBox => exact mirrored.ballotBox.created_iff (.inl rfl)
  | baseRewardRouter => exact mirrored.base.tracked.created_iff (.inr rfl)
  | ncnRewardRouter operator group =>
    obtain ⟨index, rfl⟩ := own
    exact (mirrored.ncn.tracked operator index).created_iff (.inr rfl)

/-- Every entry that was ever made is that of some account. -/
theorem MirroredBy.exists_account (mirrored : accounts.MirroredBy indexOf epochState)
    {slot : StatusSlot} (used : epochState.statusAt slot ≠ .dne) :
    ∃ account : AccountToClose, account.IsOwn ∧ account.slot indexOf = slot := by
  cases slot with
  | epochState => exact ⟨.epochState, trivial, rfl⟩
  | weightTable => exact ⟨.weightTable, trivial, rfl⟩
  | epochSnapshot => exact ⟨.epochSnapshot, trivial, rfl⟩
  | operatorSnapshot index =>
    have inside := lt_of_statusOf used
    simp only [EpochState.statusAt, statusOf_of_lt inside] at used
    obtain ⟨operator, same⟩ := mirrored.snapshots.owned ⟨index, inside⟩ used
    exact ⟨.operatorSnapshot operator, trivial, congrArg StatusSlot.operatorSnapshot same⟩
  | ballotBox => exact ⟨.ballotBox, trivial, rfl⟩
  | baseRewardRouter => exact ⟨.baseRewardRouter, trivial, rfl⟩
  | ncnRewardRouter index =>
    have inside := lt_of_statusOf used
    simp only [EpochState.statusAt, statusOf_of_lt inside] at used
    obtain ⟨operator, group, same⟩ := mirrored.ncn.owned ⟨index, inside⟩ used
    exact ⟨.ncnRewardRouter operator (.ofIndex group), ⟨group, rfl⟩,
      congrArg StatusSlot.ncnRewardRouter same⟩

/-- What is closed is an account of the epoch, unless it is another epoch's state. -/
theorem MirroredBy.isOwn {account : AccountToClose} {withReceiver : Bool}
    (mirrored : accounts.MirroredBy indexOf epochState) (ownEpoch : account ≠ .otherEpochState)
    (closed : accounts.closeAccount runtime epochState withReceiver account = .ok next) :
    account.IsOwn := by
  cases account with
  | otherEpochState => exact absurd rfl ownEpoch
  | ncnRewardRouter operator group =>
    obtain ⟨router, found, -⟩ := bind_eq_ok.mp closed
    exact mirrored.ncn.exists_group (loadToClose_eq_ok found)
  | _ => trivial

/-! ## What the history left -/

/-- In a new epoch state there is one entry, its own. -/
theorem statusAt_fresh (ncn : Pubkey) (epoch bump slot : ℕ) (entry : StatusSlot) :
    (EpochState.zeroed.initializeState ncn epoch bump slot).updateReallocEpochState.statusAt entry ≠
      .closed := by
  cases entry with
  | operatorSnapshot index => exact fun closed => by cases statusOf_replicate.symm.trans closed
  | ncnRewardRouter index => exact fun closed => by cases statusOf_replicate.symm.trans closed
  | _ => exact fun closed => by cases closed

/-- After a history there is a marker if and only if the epoch state was closed in it, and
then nothing else of the epoch is left. -/
structure Ended (indexOf : Pubkey → ℕ) (past : List (Context × EpochInstruction))
    (accounts : EpochAccounts) : Prop where
  regular : accounts.Regular indexOf
  marked : accounts.epochMarker = true ↔ ClosedIn past .epochState
  unopened : accounts.epochMarker = true → accounts.Unopened

namespace Ended

variable {past : List (Context × EpochInstruction)}

theorem absent (ncn : Pubkey) (epoch : ℕ) : (EpochAccounts.absent ncn epoch).Ended indexOf [] where
  regular := .absent ncn epoch
  marked := iff_of_false Bool.false_ne_true not_closedIn_nil
  unopened marked := by cases marked

/-- An instruction that closes nothing. -/
theorem goOn (ended : accounts.Ended indexOf past) (distinct : Function.Injective indexOf)
    (indexed : instruction.Indexed indexOf)
    (goesOn : ∀ account daoWallet withReceiver,
      instruction ≠ .closeEpochAccount account daoWallet withReceiver)
    (effect : Effect runtime accounts next context instruction) :
    next.Ended indexOf (past ++ [(context, instruction)]) where
  regular := ended.regular.effect distinct indexed effect
  marked := by rw [effect.marker goesOn, ended.marked, closedIn_append_other goesOn]
  unopened marked := by
    by_cases ready : ∃ epochState, accounts.epochState = .ready epochState
    · obtain ⟨before, loaded⟩ := ready
      cases ((effect.marker goesOn).trans (ended.regular.unmarked loaded)).symm.trans marked
    · obtain ⟨account, base, ncn, -, rfl⟩ := effect.of_absent (not_exists.mp ready)
      exact { ended.unopened marked with }

/-- An instruction that closes an account, whichever epoch state was passed. -/
theorem close {account : AccountToClose} {daoWallet : Pubkey} {withReceiver : Bool}
    (ended : accounts.Ended indexOf past) (distinct : Function.Injective indexOf)
    (processed : accounts.processCloseEpochAccount runtime context account daoWallet withReceiver =
      .ok next) :
    next.Ended indexOf (past ++ [(context, .closeEpochAccount account daoWallet withReceiver)]) := by
  have effect := effect_of_closeEpochAccount processed
  have indexed : EpochInstruction.Indexed indexOf
      (.closeEpochAccount account daoWallet withReceiver) := trivial
  have regular := ended.regular.effect distinct indexed effect
  obtain ⟨before, loaded, -, -, canClose, close⟩ := processCloseEpochAccount_eq_ok processed
  obtain ⟨reached, -⟩ := EpochState.canCloseEpochAccounts_eq_ok_true_iff.mp canClose
  have mirror := (ended.regular.mirrored.opened before loaded).setClosing
  have registered := (ended.regular.registered before loaded).setClosing reached
  rcases closeAccount_eq_ok close with ⟨rfl, allowed, rfl⟩ | ⟨kept, after, still, sameMarker⟩
  · have unopened : accounts.Unopened := by
      refine mirror.unopened registered reached (EpochState.areAllClosed_iff.mp ?_)
      exact EpochState.loadToClose_areAllClosed allowed
    exact ⟨regular, iff_of_true rfl (closedIn_append_close.mpr (.inl rfl)),
      fun _ => { unopened with }⟩
  · refine ⟨regular, ?_, fun marked => ?_⟩
    · rw [sameMarker, closedIn_append_close, ended.marked]
      refine ⟨.inr, fun closed => closed.resolve_left fun same => ?_⟩
      exact kept same.symm
    · cases (sameMarker.trans (ended.regular.unmarked loaded)).symm.trans marked

end Ended

theorem run_ended {history : List (Context × EpochInstruction)} {ncn : Pubkey} {epoch : ℕ}
    (distinct : Function.Injective indexOf)
    (indexed : ∀ timed ∈ history, timed.2.Indexed indexOf)
    (ran : run (process runtime) history (absent ncn epoch) = .ok next) :
    next.Ended indexOf history := by
  refine run_split_induction
    (motive := fun past (state : EpochAccounts) => state.Ended indexOf past) (.absent ncn epoch)
    ?_ ran
  rintro past middle ⟨context, instruction⟩ rest later split - ended processed
  have member : (context, instruction) ∈ history := by simp [split]
  rcases closes_or_goesOn instruction with ⟨account, daoWallet, withReceiver, rfl⟩ | goesOn
  · exact ended.close distinct processed
  · exact ended.goOn distinct (indexed _ member) goesOn (process_effect processed)

/-- The accounts after a history, beside what of them was closed in it. -/
structure Recorded (indexOf : Pubkey → ℕ) (past : List (Context × EpochInstruction))
    (accounts : EpochAccounts) : Prop extends Ended indexOf past accounts where
  untouched : accounts.epochMarker = false →
    (∀ epochState, accounts.epochState ≠ .ready epochState) → ∀ account, ¬ ClosedIn past account
  created : ∀ epochState, accounts.epochState = .ready epochState →
    epochState.accountStatus.epochState = .created
  closed : ∀ epochState, accounts.epochState = .ready epochState →
    ∀ account : AccountToClose, account.IsOwn →
      (epochState.statusAt (account.slot indexOf) = .closed ↔ ClosedIn past account)

namespace Recorded

variable {past : List (Context × EpochInstruction)}

theorem absent (ncn : Pubkey) (epoch : ℕ) : (EpochAccounts.absent ncn epoch).Recorded indexOf [] where
  toEnded := .absent ncn epoch
  untouched _ _ _ := not_closedIn_nil
  created epochState loaded := by cases loaded
  closed epochState loaded := by cases loaded

/-- An instruction that closes nothing. -/
theorem goOn (recorded : accounts.Recorded indexOf past) (distinct : Function.Injective indexOf)
    (indexed : instruction.Indexed indexOf)
    (goesOn : ∀ account daoWallet withReceiver,
      instruction ≠ .closeEpochAccount account daoWallet withReceiver)
    (effect : Effect runtime accounts next context instruction) :
    next.Recorded indexOf (past ++ [(context, instruction)]) := by
  have ended := recorded.toEnded.goOn distinct indexed goesOn effect
  by_cases ready : ∃ epochState, accounts.epochState = .ready epochState
  · obtain ⟨before, loaded⟩ := ready
    have unmarked := (effect.marker goesOn).trans (recorded.regular.unmarked loaded)
    obtain ⟨after, still⟩ : ∃ after, next.epochState = .ready after := by
      rcases effect.still_or_gone loaded with still | gone
      · exact still
      · cases unmarked.symm.trans gone.1
    have filled := recorded.regular.mirrored.statusFilled indexed loaded still goesOn effect
    have created := recorded.created before loaded
    refine ⟨ended, fun _ absent => absurd still (absent after), ?_, ?_⟩
    · intro epochState here
      cases still.symm.trans here
      have made : before.statusAt .epochState ≠ .dne := fun absent => by
        cases created.symm.trans absent
      exact (filled.kept made).trans created
    · intro epochState here account own
      cases still.symm.trans here
      rw [filled.closed_iff, recorded.closed before loaded account own,
        closedIn_append_other goesOn]
  · have absent := not_exists.mp ready
    obtain ⟨account, base, ncn, appears, rfl⟩ := effect.of_absent absent
    refine ⟨ended, ?_, ?_, ?_⟩
    · intro unmarked _ account
      rw [closedIn_append_other goesOn]
      exact recorded.untouched unmarked absent account
    · intro epochState here
      obtain ⟨-, bump, slot, rfl⟩ := appears.fresh absent here
      rfl
    · intro epochState here account own
      obtain ⟨⟨dataLen, allocated⟩, bump, slot, rfl⟩ := appears.fresh absent here
      have unmarked := recorded.regular.mirrored.unmarked (by rw [allocated]; nofun)
      rw [closedIn_append_other goesOn]
      exact iff_of_false (statusAt_fresh _ _ _ _ _) (recorded.untouched unmarked absent account)

/-- An instruction that closes an account of the epoch. -/
theorem close {account : AccountToClose} {daoWallet : Pubkey} {withReceiver : Bool}
    (recorded : accounts.Recorded indexOf past) (distinct : Function.Injective indexOf)
    (ownEpoch : account ≠ .otherEpochState)
    (processed : accounts.processCloseEpochAccount runtime context account daoWallet withReceiver =
      .ok next) :
    next.Recorded indexOf (past ++ [(context, .closeEpochAccount account daoWallet withReceiver)]) := by
  have ended := recorded.toEnded.close distinct processed
  obtain ⟨before, loaded, -, -, -, close⟩ := processCloseEpochAccount_eq_ok processed
  have mirror := (recorded.regular.mirrored.opened before loaded).setClosing
  rcases closeAccount_eq_ok close with ⟨rfl, -, rfl⟩ | ⟨kept, after, still, -⟩
  · refine ⟨ended, ?_, ?_, ?_⟩
    · intro unmarked
      cases unmarked
    · intro epochState here
      cases here
    · intro epochState here
      cases here
  · have own := mirror.isOwn ownEpoch close
    obtain ⟨-, statuses⟩ := mirror.statusClosed close still
    rw [EpochState.setIsClosing_statusAt] at statuses
    have apart : StatusSlot.epochState ≠ account.slot indexOf := by
      intro same
      exact kept (AccountToClose.slot_injOn distinct own trivial same.symm)
    refine ⟨ended, fun _ absent => absurd still (absent after), ?_, ?_⟩
    · intro epochState here
      cases still.symm.trans here
      have entry := congrFun statuses .epochState
      rw [Function.update_of_ne apart] at entry
      exact entry.trans (recorded.created before loaded)
    · intro epochState here other otherOwn
      cases still.symm.trans here
      rw [statuses, closedIn_append_close]
      by_cases same : other.slot indexOf = account.slot indexOf
      · rw [same, Function.update_self]
        exact iff_of_true rfl (.inl (AccountToClose.slot_injOn distinct otherOwn own same))
      · rw [Function.update_of_ne same, recorded.closed before loaded other otherOwn]
        refine ⟨.inr, fun closed => closed.resolve_left ?_⟩
        rintro rfl
        exact same rfl

end Recorded

theorem run_recorded {history : List (Context × EpochInstruction)} {ncn : Pubkey} {epoch : ℕ}
    (distinct : Function.Injective indexOf)
    (indexed : ∀ timed ∈ history, timed.2.Indexed indexOf)
    (ownEpoch : ∀ timed ∈ history, timed.2.ClosesOwn)
    (ran : run (process runtime) history (absent ncn epoch) = .ok next) :
    next.Recorded indexOf history := by
  refine run_split_induction
    (motive := fun past (state : EpochAccounts) => state.Recorded indexOf past) (.absent ncn epoch)
    ?_ ran
  rintro past middle ⟨context, instruction⟩ rest later split - recorded processed
  have member : (context, instruction) ∈ history := by simp [split]
  rcases closes_or_goesOn instruction with ⟨account, daoWallet, withReceiver, rfl⟩ | goesOn
  · exact recorded.close distinct (ownEpoch _ member) processed
  · exact recorded.goOn distinct (indexed _ member) goesOn (process_effect processed)

/-! ## After the end -/

/-- Every instruction of the program needs the epoch state or creates it. -/
theorem Gone.isTransfer (gone : accounts.Gone)
    (processed : accounts.process runtime (context, instruction) = .ok next) :
    instruction.IsTransfer := by
  obtain ⟨marked, missing⟩ := gone
  have unloaded : ∀ epochState, accounts.epochState.load ≠ .ok epochState := by
    intro epochState loaded
    cases missing.symm.trans (Account.load_eq_ok_iff.mp loaded)
  have notOpen : ∀ epochState, accounts.epochState.loadAndCheckIsClosing ≠ .ok epochState := by
    intro epochState loaded
    cases missing.symm.trans (loadAndCheckIsClosing_eq_ok_iff.mp loaded).1
  cases instruction with
  | transferToBaseReceiver lamports => trivial
  | transferToNcnReceiver operator group lamports => trivial
  | initializeEpochState =>
    change accounts.processInitializeEpochState context = .ok next at processed
    unfold processInitializeEpochState at processed
    split at processed
    · cases processed
    obtain ⟨_, -, processed⟩ := bind_eq_ok.mp processed
    obtain ⟨_, dne, -⟩ := bind_eq_ok.mp processed
    cases marked.symm.trans (checkDne_eq_ok_iff.mp dne)
  | reallocEpochState bump =>
    obtain ⟨_, grown, -⟩ := bind_eq_ok.mp processed
    rw [missing] at grown
    cases grown
  | initializeBallotBox =>
    obtain ⟨_, -, processed⟩ := bind_eq_ok.mp processed
    obtain ⟨epochState, loaded, -⟩ := bind_eq_ok.mp processed
    exact absurd loaded (notOpen epochState)
  | _ =>
    obtain ⟨epochState, loaded, -⟩ := bind_eq_ok.mp processed
    first
      | exact absurd loaded (unloaded epochState)
      | exact absurd loaded (notOpen epochState)

/-- The epoch state is closed when nothing else of the epoch is left. -/
theorem Recorded.unopened_of_close {past : List (Context × EpochInstruction)} {daoWallet : Pubkey}
    {withReceiver : Bool} (recorded : accounts.Recorded indexOf past)
    (processed : accounts.process runtime
      (context, .closeEpochAccount .epochState daoWallet withReceiver) = .ok next) :
    accounts.Unopened ∧ next.Gone := by
  obtain ⟨before, loaded, -, -, canClose, close⟩ := processCloseEpochAccount_eq_ok processed
  obtain ⟨reached, -⟩ := EpochState.canCloseEpochAccounts_eq_ok_true_iff.mp canClose
  have mirror := (recorded.regular.mirrored.opened before loaded).setClosing
  have registered := (recorded.regular.registered before loaded).setClosing reached
  rcases closeAccount_eq_ok close with ⟨-, allowed, rfl⟩ | ⟨other, -⟩
  · refine ⟨mirror.unopened registered reached (EpochState.areAllClosed_iff.mp ?_), rfl, rfl⟩
    exact EpochState.loadToClose_areAllClosed allowed
  · exact absurd rfl other

/-- In every run that never closes the epoch state of another epoch, the statuses say
which accounts are there and which were closed, a closed one stays closed, the epoch
state is closed when nothing else is left, and after that no instruction of the
program succeeds. -/
theorem closed_epoch_stays_closed (runtime : Runtime) (ncn : Pubkey) (epoch : ℕ)
    {indexOf : Pubkey → ℕ} (distinct : Function.Injective indexOf)
    {past rest : List (Context × EpochInstruction)}
    (indexed : ∀ timed ∈ past ++ rest, timed.2.Indexed indexOf)
    (ownEpoch : ∀ timed ∈ past ++ rest, timed.2.ClosesOwn) {middle finish : EpochAccounts}
    (ranPast : run (process runtime) past (absent ncn epoch) = .ok middle)
    (ranRest : run (process runtime) rest middle = .ok finish) :
    (∀ epochState, finish.epochState = .ready epochState →
      (∀ account : AccountToClose, account.IsOwn →
        ((epochState.statusAt (account.slot indexOf) = .created ∨
          epochState.statusAt (account.slot indexOf) = .createdWithReceiver) ↔
            finish.IsFilled account) ∧
        (epochState.statusAt (account.slot indexOf) = .closed ↔
          ClosedIn (past ++ rest) account)) ∧
      (∀ slot, epochState.statusAt slot ≠ .dne →
        ∃ account : AccountToClose, account.IsOwn ∧ account.slot indexOf = slot) ∧
      ∀ before, middle.epochState = .ready before → ∀ slot, before.statusAt slot = .closed →
        epochState.statusAt slot = .closed) ∧
    (∀ context daoWallet withReceiver next,
      finish.process runtime (context, .closeEpochAccount .epochState daoWallet withReceiver) =
        .ok next → finish.Unopened) ∧
    (ClosedIn (past ++ rest) .epochState → finish.epochMarker = true ∧ finish.Unopened ∧
      ∀ context instruction next, finish.process runtime (context, instruction) = .ok next →
        instruction.IsTransfer) := by
  have ran : run (process runtime) (past ++ rest) (absent ncn epoch) = .ok finish := by
    rw [run_append, ranPast, ok_bind, ranRest]
  have recorded := run_recorded distinct indexed ownEpoch ran
  have recordedPast := run_recorded distinct
    (fun timed member => indexed timed (List.mem_append_left rest member))
    (fun timed member => ownEpoch timed (List.mem_append_left rest member)) ranPast
  refine ⟨fun epochState loaded => ?_, ?_, ?_⟩
  · have mirror := recorded.regular.mirrored.opened epochState loaded
    refine ⟨fun account own => ⟨?_, ?_⟩, fun slot => mirror.exists_account, ?_⟩
    · exact mirror.filled_iff loaded (recorded.created epochState loaded) own
    · exact recorded.closed epochState loaded account own
    · intro before loadedPast slot closed
      have used : before.statusAt slot ≠ .dne := by
        rw [closed]
        nofun
      obtain ⟨account, own, rfl⟩ :=
        (recordedPast.regular.mirrored.opened before loadedPast).exists_account used
      have wasClosed := (recordedPast.closed before loadedPast account own).mp closed
      exact (recorded.closed epochState loaded account own).mpr (wasClosed.append rest)
  · intro context daoWallet withReceiver next processed
    exact (recorded.unopened_of_close processed).1
  · intro closed
    have marked := recorded.marked.mpr closed
    have missing : finish.epochState = .missing := by
      by_contra present
      cases marked.symm.trans (recorded.regular.mirrored.unmarked present)
    refine ⟨marked, recorded.unopened marked, fun context instruction next processed => ?_⟩
    exact Gone.isTransfer ⟨marked, missing⟩ processed

/-- The epoch of one operator, closed in the end as `accountToClose`. -/
def sampleEnd (accountToClose : AccountToClose) : List (Context × EpochInstruction) :=
  sampleClosing ++ [(sampleContext 5184001, .closeEpochAccount accountToClose sampleWallet true)]

theorem sampleEnd_indexed (accountToClose : AccountToClose) :
    ∀ timed ∈ sampleEpoch ++ sampleEnd accountToClose, timed.2.Indexed sampleIndex := by
  rw [sampleEnd, ← List.append_assoc, List.forall_mem_append, List.forall_mem_append]
  exact ⟨⟨sampleEpoch_indexed, sampleClosing_indexed⟩, by simp [EpochInstruction.Indexed]⟩

theorem sampleEnd_closesOwn : ∀ timed ∈ sampleEpoch ++ sampleEnd .epochState,
    timed.2.ClosesOwn := by
  simp [sampleEpoch, epochWeighed, epochSnapshotted, epochVoted, epochRouted, sampleEnd,
    sampleClosing, EpochInstruction.ClosesOwn]

/-- All that is left before the last instruction is the epoch state. -/
theorem sampleClosing_allClosed : ∃ (middle emptied : EpochAccounts) (epochState : EpochState),
    run (process sampleRuntime) sampleEpoch (absent .default 0) = .ok middle ∧
      run (process sampleRuntime) sampleClosing middle = .ok emptied ∧
      emptied.epochState = .ready epochState ∧ emptied.epochMarker = false ∧
      epochState.loadToClose emptied.ncn emptied.epoch = .ok () ∧
      epochState.canCloseEpochAccounts sampleRuntime.getEpoch 10 5184001 = .ok true := by
  have runs : (do
      let middle ← run (process sampleRuntime) sampleEpoch (absent .default 0)
      let emptied ← run (process sampleRuntime) sampleClosing middle
      let epochState ← emptied.epochState.load
      return (middle, emptied, epochState)).toOption.any
        (fun result : EpochAccounts × EpochAccounts × EpochState =>
          let statuses : EpochAccountStatus := result.2.2.accountStatus
          !result.2.1.epochMarker && result.2.2.ncn == result.2.1.ncn &&
            result.2.2.epoch == result.2.1.epoch && statuses.weightTable == AccountStatus.closed &&
            statuses.epochSnapshot == AccountStatus.closed &&
            statuses.operatorSnapshot.toList.all (fun status : AccountStatus =>
              status == AccountStatus.dne || status == AccountStatus.closed) &&
            statuses.ballotBox == AccountStatus.closed &&
            statuses.baseRewardRouter == AccountStatus.closed &&
            statuses.ncnRewardRouter.toList.all (fun status : AccountStatus =>
              status == AccountStatus.dne || status == AccountStatus.closed) &&
            result.2.2.canCloseEpochAccounts sampleRuntime.getEpoch 10 5184001 ==
              Except.ok true) = true := by
    decide +kernel
  obtain ⟨⟨middle, emptied, epochState⟩, all, outcome⟩ := exists_of_any runs
  obtain ⟨_, ranPast, all⟩ := bind_eq_ok.mp all
  obtain ⟨_, ranRest, all⟩ := bind_eq_ok.mp all
  obtain ⟨_, loaded, same⟩ := bind_eq_ok.mp all
  cases same
  simp only [Bool.and_eq_true, Bool.not_eq_true', beq_iff_eq] at outcome
  obtain ⟨⟨⟨⟨⟨⟨⟨⟨⟨unmarked, sameNcn⟩, sameEpoch⟩, table⟩, snapshot⟩, operators⟩, box⟩, base⟩,
    ncn⟩, canClose⟩ := outcome
  refine ⟨middle, emptied, epochState, ranPast, ranRest, Account.load_eq_ok_iff.mp loaded, unmarked,
    ?_, canClose⟩
  rw [← sameNcn, ← sameEpoch]
  apply EpochState.loadToClose_eq_ok
  rw [EpochAccountStatus.areAllClosed, table, snapshot, box, base, ← Vector.all_toList,
    ← Vector.all_toList, operators, ncn]
  rfl

theorem closed_epoch_stays_closed_after_sampleEnd : ∃ finish : EpochAccounts,
    run (process sampleRuntime) (sampleEpoch ++ sampleEnd .epochState) (absent .default 0) =
        .ok finish ∧ finish.epochMarker = true ∧ finish.Unopened ∧
      ∀ context instruction next, finish.process sampleRuntime (context, instruction) = .ok next →
        instruction.IsTransfer := by
  obtain ⟨middle, emptied, epochState, ranPast, ranClosing, loaded, unmarked, allowed, canClose⟩ :=
    sampleClosing_allClosed
  have there : emptied.dataIsEmpty .epochState = false := by
    rw [dataIsEmpty, loaded]
    rfl
  have last : emptied.process sampleRuntime (sampleContext 5184001,
      .closeEpochAccount .epochState sampleWallet true) = .ok { emptied with
        epochState := .missing
        epochMarker := true } := by
    refine (processCloseEpochAccount_eq loaded unmarked there rfl canClose).trans ?_
    exact bind_eq_ok.mpr ⟨(), lift_eq_ok_iff.mpr allowed, rfl⟩
  have ranRest : run (process sampleRuntime) (sampleEnd .epochState) middle = .ok { emptied with
      epochState := .missing
      epochMarker := true } := by
    rw [sampleEnd, run_append, ranClosing, ok_bind, run_singleton, last]
  have closed : ClosedIn (sampleEpoch ++ sampleEnd .epochState) .epochState := by
    rw [sampleEnd, ← List.append_assoc]
    exact closedIn_append_close.mpr (.inl rfl)
  obtain ⟨-, -, ended⟩ := closed_epoch_stays_closed sampleRuntime .default 0 sampleIndex_injective
    (sampleEnd_indexed .epochState) sampleEnd_closesOwn ranPast ranRest
  refine ⟨_, ?_, ended closed⟩
  rw [run_append, ranPast, ok_bind, ranRest]

/-- With the epoch state of another epoch in the place of its own the epoch state is
entered as closed while it is there. -/
theorem epochState_closed_while_there : ∃ (finish : EpochAccounts) (epochState : EpochState),
    run (process sampleRuntime) (sampleEpoch ++ sampleEnd .otherEpochState) (absent .default 0) =
        .ok finish ∧
      finish.epochState = .ready epochState ∧ finish.epochMarker = false ∧
      epochState.statusAt .epochState = .closed ∧
      ¬ ClosedIn (sampleEpoch ++ sampleEnd .otherEpochState) .epochState := by
  obtain ⟨middle, emptied, epochState, ranPast, ranClosing, loaded, unmarked, allowed, canClose⟩ :=
    sampleClosing_allClosed
  have last : emptied.process sampleRuntime (sampleContext 5184001,
      .closeEpochAccount .otherEpochState sampleWallet true) = .ok { emptied with
        epochState := .ready epochState.setIsClosing.closeEpochState } := by
    refine (processCloseEpochAccount_eq loaded unmarked rfl rfl canClose).trans ?_
    exact bind_eq_ok.mpr ⟨(), lift_eq_ok_iff.mpr allowed, rfl⟩
  refine ⟨{ emptied with epochState := .ready epochState.setIsClosing.closeEpochState },
    epochState.setIsClosing.closeEpochState, ?_, rfl, unmarked, rfl, ?_⟩
  · rw [sampleEnd, run_append, ranPast, ok_bind, run_append, ranClosing, ok_bind, run_singleton,
      last]
  · rw [sampleEnd, ← List.append_assoc, closedIn_append_close]
    rintro (other | ⟨timed, member, daoWallet, withReceiver, closes⟩)
    · cases other
    · have kept : ∀ timed ∈ sampleEpoch ++ sampleClosing, ∀ daoWallet withReceiver,
          timed.2 ≠ .closeEpochAccount .epochState daoWallet withReceiver := by
        simp [sampleEpoch, epochWeighed, epochSnapshotted, epochVoted, epochRouted, sampleClosing]
      exact kept timed member daoWallet withReceiver closes

end EpochAccounts

end TipRouter
