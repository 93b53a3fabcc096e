import TipRouter.Cranks
import TipRouter.EpochClosability
import TipRouter.EpochElectorate

/-! The distribution crank, from any state that the epoch's instructions lead to. It comes to
its end whatever the program refuses on the way: each router that is still routing comes
nearer to its end with every call, and no receiver is found without its rent. -/
namespace TipRouter
open Runs Clients

/-! ## What the client finds -/

namespace EpochAccounts

variable {runtime : Runtime} {indexOf : Pubkey → ℕ} {operators : List Pubkey}
variable {accounts next : EpochAccounts} {context : Context} {instruction : EpochInstruction}
variable {epochState before after : EpochState}

/-- The epoch state is that of its own epoch. -/
def Named (accounts : EpochAccounts) : Prop :=
  ∀ epochState, accounts.epochState = .ready epochState →
    (epochState.ncn, epochState.epoch) = (accounts.ncn, accounts.epoch)

namespace Named

theorem close {accountToClose : AccountToClose} {withReceiver : Bool}
    (closed : accounts.closeAccount runtime before withReceiver accountToClose = .ok next)
    (still : next.epochState = .ready after) :
    (after.ncn, after.epoch) = (before.ncn, before.epoch) := by
  cases accountToClose with
  | epochState =>
    obtain ⟨_, -, same⟩ := bind_eq_ok.mp closed
    cases same
    cases still
  | operatorSnapshot operator =>
    obtain ⟨_, -, closed⟩ := bind_eq_ok.mp closed
    obtain ⟨_, update, same⟩ := bind_eq_ok.mp closed
    cases same
    cases still
    obtain ⟨_, rfl⟩ := EpochState.closeOperatorSnapshot_eq_ok update
    rfl
  | baseRewardRouter =>
    obtain ⟨_, -, closed⟩ := bind_eq_ok.mp closed
    obtain ⟨_, -, same⟩ := bind_eq_ok.mp closed
    cases same
    cases still
    rfl
  | ncnRewardRouter operator group =>
    obtain ⟨_, -, closed⟩ := bind_eq_ok.mp closed
    obtain ⟨_, -, closed⟩ := bind_eq_ok.mp closed
    obtain ⟨_, update, same⟩ := bind_eq_ok.mp closed
    cases same
    cases still
    obtain ⟨_, rfl⟩ := EpochState.closeNcnRewardRouter_eq_ok update
    rfl
  | _ =>
    obtain ⟨_, -, same⟩ := bind_eq_ok.mp closed
    cases same
    cases still
    rfl

theorem effect (named : accounts.Named)
    (effect : Effect runtime accounts next context instruction) : next.Named := by
  intro after still
  obtain ⟨sameNcn, sameEpoch⟩ := effect.sameEpoch
  rw [sameNcn, sameEpoch]
  have keep : ∀ before, accounts.epochState = .ready before →
      (after.ncn, after.epoch) = (before.ncn, before.epoch) →
      (after.ncn, after.epoch) = (accounts.ncn, accounts.epoch) :=
    fun before loaded same => same.trans (named before loaded)
  cases effect with
  | received base_le ncn_le written =>
    cases written
    exact named after still
  | epochStateAllocated unfilled written =>
    cases written
    cases still
  | epochStateFilled allocated written =>
    cases written
    cases still
    rfl
  | weightTableAllocated here unfilled written =>
    cases written
    exact named after still
  | weightTableFilled here allocated started written =>
    cases written
    cases still
    obtain ⟨_, _, rfl⟩ := Weighing.start_vaultCount started
    exact keep _ here rfl
  | weightSet here table processed written =>
    cases written
    cases still
    obtain ⟨-, changed⟩ := Weighing.process_frame processed
    exact keep _ here (by rw [changed])
  | epochSnapshotFilled here opened unused table finalized written =>
    cases written
    cases still
    exact keep _ here rfl
  | operatorSnapshotAllocated here snapshot unfilled listed written =>
    cases written
    exact named after still
  | operatorSnapshotFilled here snapshot allocated filled written =>
    cases written
    cases still
    obtain ⟨_, _, _, -, -, update, rfl⟩ := Snapshots.initializeOperatorSnapshot_eq_ok filled
    obtain ⟨_, rfl⟩ := EpochState.updateReallocOperatorSnapshot_eq_ok update
    exact keep _ here rfl
  | delegationSnapshotted here table snapshot taken written =>
    cases written
    cases still
    obtain ⟨_, _, _, _, _, _, -, -, -, -, update, rfl⟩ :=
      Snapshots.processSnapshotVaultOperatorDelegation_eq_ok taken
    obtain ⟨_, rfl⟩ := EpochState.updateSnapshotVaultOperatorDelegation_eq_ok update
    exact keep _ here rfl
  | ballotBoxAllocated here unfilled written =>
    cases written
    exact named after still
  | ballotBoxFilled here allocated written =>
    cases written
    cases still
    exact keep _ here rfl
  | voteCast here box snapshot cast written =>
    cases written
    cases still
    obtain ⟨_, -, -, updated⟩ := VotingAccounts.processCastVote_calls cast
    exact keep _ here (by rw [updated]; rfl)
  | tieBreakerSet here box set written =>
    cases written
    cases still
    obtain ⟨-, -, -, updated⟩ := VotingAccounts.processAdminSetTieBreaker_eq_ok set
    obtain ⟨slot, flag, changed⟩ := EpochState.updateSetTieBreaker_eq _ true context.clock.slot
    exact keep _ here (by rw [updated, changed])
  | merkleRootSet here update written =>
    cases written
    cases still
    obtain ⟨_, rfl⟩ := EpochState.updateSetMerkleRoot_eq_ok update
    exact keep _ here rfl
  | baseRouterAllocated here unfilled paid rent written =>
    cases written
    exact named after still
  | baseRouterFilled here allocated written =>
    cases written
    cases still
    exact keep _ here rfl
  | baseRouted here ready route written =>
    cases written
    cases still
    exact keep _ here rfl
  | baseDistributed here ready distribute sent update written =>
    cases written
    cases still
    obtain ⟨_, _, -, rfl⟩ := EpochState.updateDistributeBaseRewards_eq_ok update
    exact keep _ here rfl
  | baseNcnDistributed here ready distribute sent paid update written =>
    cases written
    cases still
    obtain ⟨_, -, rfl⟩ := EpochState.updateDistributeBaseNcnRewards_eq_ok update
    exact keep _ here rfl
  | ncnRouterFilled here opened snapshot unused rent update written =>
    cases written
    cases still
    obtain ⟨_, rfl⟩ := EpochState.updateReallocNcnRewardRouter_eq update
    exact keep _ here rfl
  | ncnRouted here snapshot ready route update written =>
    cases written
    cases still
    obtain ⟨_, rfl⟩ := EpochState.updateRouteNcnRewards_eq_ok update
    exact keep _ here rfl
  | ncnDistributed here snapshot ready distribute sent update written =>
    cases written
    cases still
    obtain ⟨_, _, _, -, rfl⟩ := EpochState.updateDistributeNcnRewards_eq_ok update
    exact keep _ here rfl
  | closed here open_ canClose closed => exact keep _ here ((close closed still).trans rfl)

end Named

/-- What is true of the accounts of an epoch in every state the client may find. -/
structure Tended (runtime : Runtime) (indexOf : Pubkey → ℕ) (operators : List Pubkey)
    (accounts : EpochAccounts) : Prop where
  regular : accounts.Regular indexOf
  funded : accounts.Funded runtime
  positioned : accounts.Positioned
  present : accounts.Present operators
  named : accounts.Named

namespace Tended

theorem absent (ncn : Pubkey) (epoch : ℕ) :
    (EpochAccounts.absent ncn epoch).Tended runtime indexOf operators where
  regular := .absent ncn epoch
  funded := .absent ncn epoch
  positioned := absent_positioned ncn epoch
  present := .absent ncn epoch
  named epochState loaded := by cases loaded

theorem process (tended : accounts.Tended runtime indexOf operators)
    (distinct : Function.Injective indexOf) (indexed : instruction.Indexed indexOf)
    (listed : instruction.ListedIn operators)
    (processed : accounts.process runtime (context, instruction) = .ok next) :
    next.Tended runtime indexOf operators := by
  have effect := process_effect processed
  exact ⟨tended.regular.effect distinct indexed effect, tended.funded.effect effect,
    tended.positioned.effect effect, tended.present.process listed processed,
    tended.named.effect effect⟩

end Tended

theorem run_tended {history : List (Context × EpochInstruction)} {ncn : Pubkey} {epoch : ℕ}
    (distinct : Function.Injective indexOf) (indexed : ∀ timed ∈ history, timed.2.Indexed indexOf)
    (listed : ∀ timed ∈ history, timed.2.ListedIn operators)
    (ran : run (process runtime) history (EpochAccounts.absent ncn epoch) = .ok next) :
    next.Tended runtime indexOf operators := by
  refine foldlM_invariant (motive := fun state : EpochAccounts =>
    state.Tended runtime indexOf operators) ?_ (.absent ncn epoch) ran
  rintro ⟨context, instruction⟩ member state later tended processed
  exact tended.process distinct (indexed _ member) (listed _ member) processed

end EpochAccounts

/-! ## Calls left -/

/-- A group is named by its number. -/
theorem NcnFeeGroup.tryFrom_group {group parsed : NcnFeeGroup}
    (accepted : NcnFeeGroup.tryFrom group.group = .ok parsed) : parsed = group := by
  obtain ⟨number⟩ := group
  change tryFrom number = .ok parsed at accepted
  unfold tryFrom at accepted
  split at accepted <;> cases accepted <;> rfl

namespace EpochAccounts

variable {runtime : Runtime} {before after : EpochAccounts} {context : Context}

/-- The calls that the routing of a router can still take, if the router is there. -/
def baseCallsLeft (accounts : EpochAccounts) : ℕ :=
  match accounts.baseRewardRouter with
  | .ready router => router.callsLeft
  | _ => 0

def ncnCallsLeft (accounts : EpochAccounts) (key : Pubkey × NcnFeeGroup) : ℕ :=
  match accounts.ncnRewardRouters key with
  | .ready router => router.callsLeft
  | _ => 0

theorem baseCallsLeft_le (accounts : EpochAccounts) : accounts.baseCallsLeft ≤ 2049 := by
  unfold baseCallsLeft
  split
  · exact BaseRewardRouter.callsLeft_le _
  · exact Nat.zero_le _

theorem ncnCallsLeft_le (accounts : EpochAccounts) (key : Pubkey × NcnFeeGroup) :
    accounts.ncnCallsLeft key ≤ 65 := by
  unfold ncnCallsLeft
  split
  · exact NcnRewardRouter.callsLeft_le _
  · exact Nat.zero_le _

theorem baseCallsLeft_of_ready {router : BaseRewardRouter}
    (ready : before.baseRewardRouter = .ready router) :
    before.baseCallsLeft = router.callsLeft := by
  unfold baseCallsLeft
  rw [ready]

theorem ncnCallsLeft_of_ready {key : Pubkey × NcnFeeGroup} {router : NcnRewardRouter}
    (ready : before.ncnRewardRouters key = .ready router) :
    before.ncnCallsLeft key = router.callsLeft := by
  unfold ncnCallsLeft
  rw [ready]

theorem baseCallsLeft_lt {maxIterations : ℕ} {router : BaseRewardRouter}
    (processed : before.processRouteBaseRewards runtime context maxIterations = .ok after)
    (ready : after.baseRewardRouter = .ready router) (still : router.stillRouting = true) :
    after.baseCallsLeft < before.baseCallsLeft := by
  obtain ⟨epochState, -, processed⟩ := bind_eq_ok.mp processed
  obtain ⟨epochSnapshot, -, processed⟩ := bind_eq_ok.mp processed
  obtain ⟨earlier, loaded, processed⟩ := bind_eq_ok.mp processed
  obtain ⟨ballotBox, -, processed⟩ := bind_eq_ok.mp processed
  obtain ⟨routed, route, same⟩ := bind_eq_ok.mp processed
  cases same
  rw [baseCallsLeft_of_ready (Account.load_eq_ok_iff.mp loaded), baseCallsLeft_of_ready ready]
  cases ready
  exact BaseRewardRouter.callsLeft_lt (lift_eq_ok_iff.mp route) still

theorem ncnCallsLeft_lt {operator : Pubkey} {group : NcnFeeGroup} {maxIterations : ℕ}
    {router : NcnRewardRouter} (positioned : before.Positioned)
    (processed : before.processRouteNcnRewards runtime operator group.group maxIterations =
      .ok after)
    (ready : after.ncnRewardRouters (operator, group) = .ready router)
    (still : router.stillRouting = true) :
    after.ncnCallsLeft (operator, group) < before.ncnCallsLeft (operator, group) := by
  obtain ⟨epochState, -, processed⟩ := bind_eq_ok.mp processed
  obtain ⟨sameGroup, parsed, processed⟩ := bind_eq_ok.mp processed
  rw [NcnFeeGroup.tryFrom_group (lift_eq_ok_iff.mp parsed)] at processed
  obtain ⟨operatorSnapshot, -, processed⟩ := bind_eq_ok.mp processed
  obtain ⟨earlier, loaded, processed⟩ := bind_eq_ok.mp processed
  obtain ⟨routed, route, processed⟩ := bind_eq_ok.mp processed
  obtain ⟨updated, -, same⟩ := bind_eq_ok.mp processed
  cases same
  have here : Function.update before.ncnRewardRouters (operator, group) (.ready routed)
      (operator, group) = .ready router := ready
  rw [Function.update_self] at here
  cases here
  have was := Account.load_eq_ok_iff.mp loaded
  rw [ncnCallsLeft_of_ready was, ncnCallsLeft_of_ready ready]
  exact (NcnRewardRouter.callsLeft_lt (positioned _ _ was) (lift_eq_ok_iff.mp route) still).1

end EpochAccounts

theorem NcnFeeGroup.mem_allGroups_iff {group : NcnFeeGroup} :
    group ∈ NcnFeeGroup.allGroups ↔ ∃ index, group = .ofIndex index := by
  constructor
  · intro member
    simp only [allGroups, List.mem_cons, List.not_mem_nil, or_false] at member
    rcases member with rfl | rfl | rfl | rfl | rfl | rfl | rfl | rfl <;> exact ⟨_, rfl⟩
  · rintro ⟨index, rfl⟩
    fin_cases index <;> decide

/-! ## Reading and sending -/

section Programs

variable {α : Type} {pre holds failed : Chain → Prop}

theorem Cli.getAccount_triple {read : EpochAccounts → Account α} :
    Triple holds (getAccount read)
      (fun data chain => holds chain ∧ read chain.accounts = .ready data) holds := by
  refine Triple.get_bind fun chain here => ?_
  cases account : read chain.accounts with
  | missing => exact here
  | allocated dataLen => exact here
  | ready data => exact ⟨here, account⟩

theorem Cli.checkCreated_keeps {read : EpochAccounts → Account α} :
    Keeps holds (checkCreated read) := by
  refine Triple.get_bind fun chain here => ?_
  split
  · exact here
  · exact here

theorem Cli.getOrCreate_triple {read : EpochAccounts → Account α} {size : ℕ} {create : Cli Unit}
    (creates : Keeps holds create) :
    Triple holds (getOrCreate read size create)
      (fun data chain => holds chain ∧ read chain.accounts = .ready data) holds := by
  refine Triple.get_bind fun chain here => ?_
  split
  · refine Triple.bind creates (fun _ => ?_) chain here
    exact Triple.bind checkCreated_keeps fun _ => getAccount_triple
  · exact getAccount_triple chain here

theorem Cli.lift_keeps (result : Except TipRouterError α) : Keeps holds (lift result) :=
  Keeps.ofExcept _

theorem Cli.doIf_keeps {condition : Bool} {program : Cli Unit} (keeps : Keeps holds program) :
    Keeps holds (doIf condition program) := by
  cases condition with
  | false => exact Keeps.pure ()
  | true => exact keeps

namespace CliHandler

variable (self : CliHandler)

/-- What comes of a transaction: its instructions ran in the state that was there, or the
state is as it was because they cannot. -/
theorem sendAndLogTransaction_triple (instructions : List EpochInstruction) :
    Triple pre (self.sendAndLogTransaction instructions)
      (fun _ chain => ∃ before, pre before ∧ chain.transactions = before.transactions + 1 ∧
        run (EpochAccounts.process self.runtime)
          (instructions.map (self.context before.transactions, ·)) before.accounts =
            .ok chain.accounts)
      (fun chain => ∃ before failure, pre before ∧
        chain = { before with transactions := before.transactions + 1 } ∧
        run (EpochAccounts.process self.runtime)
          (instructions.map (self.context before.transactions, ·)) before.accounts =
            .error failure) := by
  intro before here
  unfold sendAndLogTransaction
  dsimp only
  split
  · rename_i accounts ran
    exact ⟨before, here, rfl, ran⟩
  · rename_i failure ran
    exact ⟨before, failure, here, rfl, ran⟩

theorem getTipRouterConfig_keeps : Keeps holds self.getTipRouterConfig :=
  Triple.get_bind fun _ here => here

/-- A receiver with its rent is read without a panic. -/
theorem getReceiverRewards_keeps {receiver : EpochAccounts → ℕ}
    (covered : ∀ chain, pre chain → self.runtime.rentCost ≤ receiver chain.accounts) :
    Keeps pre (self.getReceiverRewards receiver) := by
  refine Triple.get_bind fun chain here => ?_
  by_cases none : receiver chain.accounts = 0
  · rw [if_pos none]
    exact here
  · rw [if_neg none, if_neg (Nat.not_lt_of_ge (covered chain here))]
    exact here

end CliHandler

end Programs

/-! ## An epoch that is due -/

/-- What the entries that are made do not undo. -/
def EpochState.Stays (condition : EpochState → Prop) : Prop :=
  ∀ ⦃before after : EpochState⦄, before.StatusFilled after → condition before → condition after

namespace EpochState.Stays

theorem isClosing (isClosing : Bool) : Stays fun epochState => epochState.isClosing = isClosing :=
  fun _ _ filled same => filled.isClosing.trans same

theorem made (slot : StatusSlot) : Stays fun epochState => epochState.statusAt slot ≠ .dne := by
  intro before after filled made
  rw [filled.kept made]
  exact made

theorem there (slot : StatusSlot) :
    Stays fun epochState => epochState.statusAt slot = .createdWithReceiver := by
  intro before after filled created
  have made : before.statusAt slot ≠ .dne := fun absent => by cases created.symm.trans absent
  exact (filled.kept made).trans created

theorem and {condition other : EpochState → Prop} (first : Stays condition) (second : Stays other) :
    Stays fun epochState => condition epochState ∧ other epochState :=
  fun _ _ filled both => ⟨first filled both.1, second filled both.2⟩

end EpochState.Stays

/-- An instruction of the crank that closes nothing. -/
structure EpochInstruction.GoesOn (indexOf : Pubkey → ℕ) (operators : List Pubkey)
    (instruction : EpochInstruction) : Prop where
  indexed : instruction.Indexed indexOf
  listed : instruction.ListedIn operators
  open_ : ∀ account daoWallet withReceiver,
    instruction ≠ .closeEpochAccount account daoWallet withReceiver

namespace CliHandler

variable {handler : CliHandler} {indexOf : Pubkey → ℕ} {since : ℕ} {condition : EpochState → Prop}
variable {accounts next : EpochAccounts} {context : Context} {instruction : EpochInstruction}

/-- The accounts of an epoch that can be closed in every context from `since` on. -/
structure Due (handler : CliHandler) (indexOf : Pubkey → ℕ) (since : ℕ)
    (condition : EpochState → Prop) (accounts : EpochAccounts) : Prop where
  tended : accounts.Tended handler.runtime indexOf handler.operators
  ready : ∃ epochState, accounts.epochState = .ready epochState ∧ condition epochState ∧
    ∀ n, since ≤ n → ∃ daoWallet,
      EpochAccounts.ClosableIn handler.runtime epochState (handler.context n) daoWallet

/-- The client finds an epoch that is due. -/
def DueAt (handler : CliHandler) (indexOf : Pubkey → ℕ) (since : ℕ) (condition : EpochState → Prop)
    (chain : Chain) : Prop :=
  since ≤ chain.transactions ∧ handler.Due indexOf since condition chain.accounts

theorem Due.mono {weaker : EpochState → Prop} (due : handler.Due indexOf since condition accounts)
    (weakens : ∀ epochState, condition epochState → weaker epochState) :
    handler.Due indexOf since weaker accounts := by
  obtain ⟨epochState, loaded, holds, closable⟩ := due.ready
  exact ⟨due.tended, epochState, loaded, weakens epochState holds, closable⟩

theorem Due.process (due : handler.Due indexOf since condition accounts)
    (distinct : Function.Injective indexOf) (stays : EpochState.Stays condition)
    (goesOn : instruction.GoesOn indexOf handler.operators)
    (processed : accounts.process handler.runtime (context, instruction) = .ok next) :
    handler.Due indexOf since condition next := by
  obtain ⟨epochState, loaded, holds, closable⟩ := due.ready
  have effect := EpochAccounts.process_effect processed
  have mirrored := due.tended.regular.mirrored
  refine ⟨due.tended.process distinct goesOn.indexed goesOn.listed processed, ?_⟩
  rcases effect.still_or_gone loaded with ⟨after, still⟩ | gone
  · have filled := mirrored.statusFilled goesOn.indexed loaded still goesOn.open_ effect
    have advances := mirrored.advances distinct goesOn.indexed loaded still effect
    refine ⟨after, still, stays filled holds, fun n reached => ?_⟩
    obtain ⟨daoWallet, now⟩ := closable n reached
    exact ⟨daoWallet, now.advances advances⟩
  · have unmarked := due.tended.regular.unmarked loaded
    cases unmarked.symm.trans ((effect.marker goesOn.open_).symm.trans gone.1)

theorem Due.run {instructions : List EpochInstruction}
    (due : handler.Due indexOf since condition accounts) (distinct : Function.Injective indexOf)
    (stays : EpochState.Stays condition)
    (goOn : ∀ instruction ∈ instructions, instruction.GoesOn indexOf handler.operators)
    (ran : Runs.run (EpochAccounts.process handler.runtime) (instructions.map (context, ·))
      accounts = .ok next) : handler.Due indexOf since condition next := by
  refine foldlM_invariant (motive := handler.Due indexOf since condition) ?_ due ran
  rintro ⟨context, instruction⟩ member state later here processed
  obtain ⟨other, listed, same⟩ := List.mem_map.mp member
  cases same
  exact here.process distinct stays (goOn instruction listed) processed

/-- The entry of a base router that is there. -/
theorem Due.made_of_base (due : handler.Due indexOf since condition accounts)
    {router : BaseRewardRouter} (ready : accounts.baseRewardRouter = .ready router) :
    handler.Due indexOf since (fun epochState => condition epochState ∧
      epochState.statusAt .baseRewardRouter = .createdWithReceiver) accounts := by
  obtain ⟨epochState, loaded, holds, closable⟩ := due.ready
  have mirror := due.tended.regular.mirrored.opened epochState loaded
  have there := mirror.base.tracked.filled_of_ready ready
  exact ⟨due.tended, epochState, loaded, ⟨holds, there⟩, closable⟩

theorem Due.made_of_ncn (due : handler.Due indexOf since condition accounts) {operator : Pubkey}
    {index : Fin feeGroupCount} {router : NcnRewardRouter}
    (ready : accounts.ncnRewardRouters (operator, .ofIndex index) = .ready router) :
    handler.Due indexOf since (fun epochState => condition epochState ∧
      epochState.statusAt (.ncnRewardRouter (indexOf operator * feeGroupCount + index)) =
        .createdWithReceiver) accounts := by
  obtain ⟨epochState, loaded, holds, closable⟩ := due.ready
  have mirror := due.tended.regular.mirrored.opened epochState loaded
  have there := (mirror.ncn.tracked operator index).filled_of_ready ready
  exact ⟨due.tended, epochState, loaded, ⟨holds, there⟩, closable⟩

/-- The receiver of a router that is there has its rent. -/
theorem Due.base_covered (due : handler.Due indexOf since (fun epochState => condition epochState ∧
      epochState.statusAt .baseRewardRouter = .createdWithReceiver) accounts) :
    handler.runtime.rentCost ≤ accounts.baseRewardReceiver := by
  obtain ⟨epochState, loaded, ⟨-, there⟩, -⟩ := due.ready
  have tracked := (due.tended.regular.mirrored.opened epochState loaded).base.tracked
  obtain ⟨router, ready⟩ := tracked.ready (fun absent => by cases there.symm.trans absent)
    fun closed => by cases there.symm.trans closed
  exact (Nat.le_add_left _ _).trans (due.tended.funded.base_ready ready)

theorem Due.ncn_covered {operator : Pubkey} {index : Fin feeGroupCount}
    (due : handler.Due indexOf since (fun epochState => condition epochState ∧
      epochState.statusAt (.ncnRewardRouter (indexOf operator * feeGroupCount + index)) =
        .createdWithReceiver) accounts) :
    handler.runtime.rentCost ≤ accounts.ncnRewardReceivers (operator, .ofIndex index) := by
  obtain ⟨epochState, loaded, ⟨-, there⟩, -⟩ := due.ready
  have tracked := (due.tended.regular.mirrored.opened epochState loaded).ncn.tracked operator index
  obtain ⟨router, ready⟩ := tracked.ready (fun absent => by cases there.symm.trans absent)
    fun closed => by cases there.symm.trans closed
  exact (Nat.le_add_left _ _).trans (due.tended.funded.ncn_ready ready)

theorem goesOn_reallocs (count bump : ℕ) :
    ∀ instruction ∈ List.replicate count (EpochInstruction.reallocBaseRewardRouter bump),
      instruction.GoesOn indexOf handler.operators := by
  intro instruction member
  obtain rfl := List.eq_of_mem_replicate member
  exact ⟨trivial, trivial, by rintro _ _ _ ⟨⟩⟩

section Keeping

variable (distinct : Function.Injective indexOf) (stays : EpochState.Stays condition)
include distinct stays

theorem sendAndLogTransaction_keeps {instructions : List EpochInstruction}
    (goOn : ∀ instruction ∈ instructions, instruction.GoesOn indexOf handler.operators) :
    Keeps (handler.DueAt indexOf since condition) (handler.sendAndLogTransaction instructions) := by
  refine (handler.sendAndLogTransaction_triple instructions).ending ?_ ?_
  · rintro _ chain ⟨before, ⟨reached, due⟩, counted, ran⟩
    exact ⟨by omega, due.run distinct stays goOn ran⟩
  · rintro _ ⟨before, failure, ⟨reached, due⟩, rfl, -⟩
    exact ⟨Nat.le_succ_of_le reached, due⟩

theorem sendInstruction_keeps (goesOn : instruction.GoesOn indexOf handler.operators) :
    Keeps (handler.DueAt indexOf since condition) (handler.sendAndLogTransaction [instruction]) :=
  sendAndLogTransaction_keeps distinct stays (List.forall_mem_singleton.mpr goesOn)

/-- One instruction that goes through, with what was known before it. -/
theorem sendAndLogTransaction_one (known : EpochAccounts → Prop)
    (goesOn : instruction.GoesOn indexOf handler.operators) :
    Triple (fun chain => handler.DueAt indexOf since condition chain ∧ known chain.accounts)
      (handler.sendAndLogTransaction [instruction])
      (fun _ chain => handler.DueAt indexOf since condition chain ∧ ∃ before context,
        before.Tended handler.runtime indexOf handler.operators ∧ known before ∧
          before.process handler.runtime (context, instruction) = .ok chain.accounts)
      (handler.DueAt indexOf since condition) := by
  refine (handler.sendAndLogTransaction_triple [instruction]).ending ?_ ?_
  · rintro _ chain ⟨before, ⟨⟨reached, due⟩, here⟩, counted, ran⟩
    have processed := run_singleton.symm.trans ran
    exact ⟨⟨by omega, due.process distinct stays goesOn processed⟩, before.accounts, _, due.tended,
      here, processed⟩
  · rintro _ ⟨before, failure, ⟨⟨reached, due⟩, -⟩, rfl, -⟩
    exact ⟨Nat.le_succ_of_le reached, due⟩

/-! ### Routing -/

theorem routeBaseRewards_keeps {fuel : ℕ} (enough : 2050 ≤ fuel) :
    Keeps (handler.DueAt indexOf since condition) (handler.routeBaseRewards fuel) := by
  have loop : Triple
      (fun chain => handler.DueAt indexOf since condition chain ∧
        chain.accounts.baseCallsLeft < fuel)
      (handler.routeBaseRewards fuel) (fun _ => handler.DueAt indexOf since condition)
      (handler.DueAt indexOf since condition) := by
    refine Triple.repeatWhile fun bound => ?_
    have goesOn : EpochInstruction.GoesOn indexOf handler.operators
        (.routeBaseRewards maxRouteBaseIterations) := ⟨trivial, trivial, by rintro _ _ _ ⟨⟩⟩
    refine Triple.bind (sendAndLogTransaction_one distinct stays
      (fun accounts => accounts.baseCallsLeft ≤ bound) goesOn) fun _ => ?_
    refine Triple.bind (Cli.getAccount_triple.ending (fun _ _ here => here) fun _ here => here.1)
      fun router => Triple.pure ?_
    rintro chain ⟨⟨due, before, context, -, bounded, processed⟩, ready⟩
    refine ⟨due, fun again => ?_⟩
    exact (EpochAccounts.baseCallsLeft_lt processed ready again).trans_le bounded
  refine loop.starting fun chain due => ⟨due, ?_⟩
  exact chain.accounts.baseCallsLeft_le.trans_lt enough

theorem routeNcnRewards_keeps {operator : Pubkey} {group : NcnFeeGroup} {fuel : ℕ}
    (enough : 66 ≤ fuel) :
    Keeps (handler.DueAt indexOf since condition)
      (handler.routeNcnRewards operator group fuel) := by
  have loop : Triple
      (fun chain => handler.DueAt indexOf since condition chain ∧
        chain.accounts.ncnCallsLeft (operator, group) < fuel)
      (handler.routeNcnRewards operator group fuel) (fun _ => handler.DueAt indexOf since condition)
      (handler.DueAt indexOf since condition) := by
    refine Triple.repeatWhile fun bound => ?_
    have goesOn : EpochInstruction.GoesOn indexOf handler.operators
        (.routeNcnRewards operator group.group maxRouteNcnIterations) :=
      ⟨trivial, trivial, by rintro _ _ _ ⟨⟩⟩
    refine Triple.bind (sendAndLogTransaction_one distinct stays
      (fun accounts => accounts.ncnCallsLeft (operator, group) ≤ bound) goesOn) fun _ => ?_
    refine Triple.bind (Cli.getAccount_triple.ending (fun _ _ here => here) fun _ here => here.1)
      fun router => Triple.pure ?_
    rintro chain ⟨⟨due, before, context, tended, bounded, processed⟩, ready⟩
    refine ⟨due, fun again => ?_⟩
    exact (EpochAccounts.ncnCallsLeft_lt tended.positioned processed ready again).trans_le bounded
  refine loop.starting fun chain due => ⟨due, ?_⟩
  exact (chain.accounts.ncnCallsLeft_le _).trans_lt enough

/-! ### Distributing -/

theorem distributeBaseRewards_keeps (group : BaseFeeGroup) :
    Keeps (handler.DueAt indexOf since condition) (handler.distributeBaseRewards group) := by
  refine Keeps.bind handler.getTipRouterConfig_keeps fun config => ?_
  refine Keeps.bind (Cli.lift_keeps _) fun wallet => ?_
  exact sendInstruction_keeps distinct stays ⟨trivial, trivial, by rintro _ _ _ ⟨⟩⟩

theorem distributeToBaseGroup_keeps (fees : Fees) (baseRewardRouter : BaseRewardRouter)
    (group : BaseFeeGroup) : Keeps (handler.DueAt indexOf since condition)
      (handler.distributeToBaseGroup fees baseRewardRouter group) := by
  refine Keeps.bind (Cli.lift_keeps _) fun feeBps => ?_
  by_cases none : feeBps = 0
  · rw [if_pos none]
    exact Keeps.pure ()
  · rw [if_neg none]
    refine Keeps.bind (Cli.lift_keeps _) fun rewards => ?_
    exact Cli.doIf_keeps (Triple.logged (distributeBaseRewards_keeps distinct stays group))

theorem getOrCreateNcnRewardRouter_triple {operator : Pubkey}
    (listed : operator ∈ handler.operators) (group : NcnFeeGroup) :
    Triple (handler.DueAt indexOf since condition)
      (handler.getOrCreateNcnRewardRouter group operator)
      (fun router chain => handler.DueAt indexOf since condition chain ∧
        chain.accounts.ncnRewardRouters (operator, group) = .ready router)
      (handler.DueAt indexOf since condition) := by
  refine Cli.getOrCreate_triple (sendInstruction_keeps distinct stays ?_)
  exact ⟨trivial, listed, by rintro _ _ _ ⟨⟩⟩

theorem distributeNcnRouter_keeps {operator : Pubkey} (listed : operator ∈ handler.operators)
    (group : NcnFeeGroup) : Keeps (handler.DueAt indexOf since condition)
      (handler.distributeNcnRouter operator group) := by
  refine Triple.orSkip (getOrCreateNcnRewardRouter_triple distinct stays listed group)
    fun router => ?_
  refine Triple.starting ?_ fun _ here => here.1
  refine Keeps.orSkip (Cli.doIf_keeps (sendInstruction_keeps distinct stays ?_)) fun _ => ?_
  · exact ⟨trivial, trivial, by rintro _ _ _ ⟨⟩⟩
  · refine Keeps.forEach fun vault _ => Triple.logged (sendInstruction_keeps distinct stays ?_)
    exact ⟨trivial, trivial, by rintro _ _ _ ⟨⟩⟩

theorem distributeToNcnGroup_keeps {fuel : ℕ} (enough : 66 ≤ fuel) (fees : Fees)
    (baseRewardRouter : BaseRewardRouter) {operator : Pubkey}
    (listed : operator ∈ handler.operators) (index : Fin feeGroupCount) : Keeps (handler.DueAt indexOf since condition)
      (handler.distributeToNcnGroup fees baseRewardRouter fuel operator (.ofIndex index)) := by
  refine Keeps.bind (Cli.lift_keeps _) fun feeBps => ?_
  by_cases none : feeBps = 0
  · rw [if_pos none]
    exact Keeps.pure ()
  rw [if_neg none]
  refine Triple.orSkip (getOrCreateNcnRewardRouter_triple distinct stays listed _) fun router => ?_
  -- From here on the router is there, and its receiver with it.
  refine Keeps.within (handler.DueAt indexOf since _)
    (fun _ here => ⟨here.1.1, here.1.2.made_of_ncn here.2⟩)
    (fun _ due => ⟨due.1, due.2.mono fun _ => And.left⟩) ?_
  have both := stays.and (.there (.ncnRewardRouter (indexOf operator * feeGroupCount + index)))
  refine Keeps.orSkip (Keeps.ofExcept _) fun route => ?_
  refine Keeps.bind (Cli.lift_keeps _) fun rewards => ?_
  refine Keeps.orSkip (Cli.doIf_keeps (sendInstruction_keeps distinct both ?_)) fun _ => ?_
  · exact ⟨trivial, trivial, by rintro _ _ _ ⟨⟩⟩
  refine Keeps.bind (getReceiverRewards_keeps _ fun _ due => due.2.ncn_covered) fun received => ?_
  refine Keeps.orSkip (Cli.doIf_keeps (routeNcnRewards_keeps distinct both enough)) fun _ => ?_
  exact distributeNcnRouter_keeps distinct both listed _

/-- What is done with the two accounts that have to be there. -/
theorem distributeAll_keeps {fuel : ℕ} (enough : 2050 ≤ fuel) (fees : Fees)
    (baseRewardRouter : BaseRewardRouter) :
    Triple (fun chain => handler.DueAt indexOf since condition chain ∧
        chain.accounts.baseRewardRouter = .ready baseRewardRouter)
      (do
        let rewards ← handler.getReceiverRewards (·.baseRewardReceiver)
        Cli.doIf (decide (rewards > 0)) (handler.routeBaseRewards fuel)
        Client.forEach (handler.distributeToBaseGroup fees baseRewardRouter) BaseFeeGroup.allGroups
        Client.forEach (fun operator => Client.forEach
          (handler.distributeToNcnGroup fees baseRewardRouter fuel operator) NcnFeeGroup.allGroups)
          handler.operators)
      (fun _ => handler.DueAt indexOf since fun epochState => condition epochState ∧
        epochState.statusAt .baseRewardRouter = .createdWithReceiver)
      (handler.DueAt indexOf since fun epochState => condition epochState ∧
        epochState.statusAt .baseRewardRouter = .createdWithReceiver) := by
  refine Keeps.within (handler.DueAt indexOf since _)
    (fun _ here => ⟨here.1.1, here.1.2.made_of_base here.2⟩) (fun _ due => due) ?_
  have both := stays.and (.there .baseRewardRouter)
  refine Keeps.bind (getReceiverRewards_keeps _ fun _ due => due.2.base_covered) fun rewards => ?_
  refine Keeps.bind (Cli.doIf_keeps (routeBaseRewards_keeps distinct both enough)) fun _ => ?_
  refine Keeps.bind (Keeps.forEach fun group _ =>
    distributeToBaseGroup_keeps distinct both fees baseRewardRouter group) fun _ => ?_
  refine Keeps.forEach fun operator listed => Keeps.forEach fun group valid => ?_
  obtain ⟨index, rfl⟩ := NcnFeeGroup.mem_allGroups_iff.mp valid
  exact distributeToNcnGroup_keeps distinct both (by omega) fees baseRewardRouter listed index

/-- With what it needs there already or not, the crank keeps what is due. -/
theorem crankDistribute_keeps {fuel : ℕ} (enough : 2050 ≤ fuel) :
    Keeps (handler.DueAt indexOf since condition) (handler.crankDistribute fuel) := by
  have opens : Keeps (handler.DueAt indexOf since condition) handler.createEpochSnapshot :=
    sendInstruction_keeps distinct stays ⟨trivial, trivial, by rintro _ _ _ ⟨⟩⟩
  refine Triple.bind (Cli.getOrCreate_triple opens) fun epochSnapshot => ?_
  refine Triple.starting ?_ fun _ here => here.1
  have creates : Keeps (handler.DueAt indexOf since condition) handler.createBaseRewardRouter := by
    refine Triple.get_bind fun chain due => ?_
    have goesOn : EpochInstruction.GoesOn indexOf handler.operators .initializeBaseRewardRouter :=
      ⟨trivial, trivial, by rintro _ _ _ ⟨⟩⟩
    refine Triple.bind (Cli.doIf_keeps (sendInstruction_keeps distinct stays goesOn)) (fun _ => ?_)
      chain due
    exact sendAndLogTransaction_keeps distinct stays (goesOn_reallocs _ _)
  refine Triple.bind (Cli.getOrCreate_triple creates) fun baseRewardRouter => ?_
  exact (distributeAll_keeps distinct stays enough epochSnapshot.fees baseRewardRouter).ending
    (fun _ _ due => ⟨due.1, due.2.mono fun _ => And.left⟩)
    fun _ due => ⟨due.1, due.2.mono fun _ => And.left⟩

end Keeping

end CliHandler

end TipRouter
