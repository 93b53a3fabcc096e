import TipRouter.EpochClosing

/-! Whether the closing of an epoch comes to its end. Once it has begun nothing new is
created, so that every account the epoch state waits for has to be there or closed
already. Votes and consensus wait for all of them but the base router, which has to be
complete when the first account is closed. The rest can always be closed: a receiver
keeps its rent as long as its router is there. -/
namespace TipRouter
open Runs

namespace Account
variable {α : Type} {account : Account α} {filled status : AccountStatus} {isClosing : Bool}

/-- An account that was made and not closed is there. -/
theorem Tracked.ready (tracked : account.Tracked filled isClosing status) (made : status ≠ .dne)
    (open_ : status ≠ .closed) : ∃ data, account = .ready data := by
  cases account with
  | missing => exact absurd (tracked.resolve_left made).1 open_
  | allocated dataLen => exact absurd tracked made
  | ready data => exact ⟨data, rfl⟩

end Account

namespace EpochState

theorem closeOperatorSnapshot_of_lt (self : EpochState) {index : ℕ} (inside : index < maxOperators) :
    ∃ next, self.closeOperatorSnapshot index = .ok next := by
  have set : self.accountStatus.setOperatorSnapshot index .closed = .ok _ :=
    bind_eq_ok.mpr ⟨_, assignAt_eq_ok_iff.mpr ⟨inside, rfl⟩, rfl⟩
  exact ⟨_, bind_eq_ok.mpr ⟨_, set, rfl⟩⟩

theorem closeNcnRewardRouter_of_lt (self : EpochState) {index : ℕ} {group : NcnFeeGroup}
    (inside : index * feeGroupCount + group.group < maxNcnRewardRouters) :
    ∃ next, self.closeNcnRewardRouter index group = .ok next := by
  have place := lift_eq_ok_iff.mpr (getNcnRewardRouterIndex_of_lt inside)
  have set : self.accountStatus.setNcnRewardRouter index group .closed = .ok _ :=
    bind_eq_ok.mpr ⟨_, place, bind_eq_ok.mpr ⟨_, assignAt_eq_ok_iff.mpr ⟨inside, rfl⟩, rfl⟩⟩
  exact ⟨_, bind_eq_ok.mpr ⟨_, set, rfl⟩⟩

end EpochState

/-! ## What is settled -/

namespace EpochState
variable {before after : EpochState} {slot entry : StatusSlot}

theorem settled_of_closed (closed : after.statusAt slot = .closed) : after.Settled slot := by
  cases slot with
  | epochState => trivial
  | operatorSnapshot index => exact .inr closed
  | ncnRewardRouter index => exact .inr closed
  | _ => exact closed

theorem Settled.congr (settled : before.Settled slot)
    (same : after.statusAt slot = before.statusAt slot) : after.Settled slot := by
  cases slot with
  | epochState => trivial
  | operatorSnapshot index => exact settled.imp same.trans same.trans
  | ncnRewardRouter index => exact settled.imp same.trans same.trans
  | _ => exact same.trans settled

/-- Closing an account settles its entry and unsettles none. -/
theorem Settled.close (settled : before.Settled slot)
    (closed : after.statusAt = Function.update before.statusAt entry .closed) :
    after.Settled slot := by
  by_cases here : slot = entry
  · apply settled_of_closed
    rw [closed, here, Function.update_self]
  · apply settled.congr
    rw [closed, Function.update_of_ne here]

theorem made_of_close (made : before.statusAt slot ≠ .dne)
    (closed : after.statusAt = Function.update before.statusAt entry .closed) :
    after.statusAt slot ≠ .dne := by
  rw [closed]
  by_cases here : slot = entry
  · rw [here, Function.update_self]
    nofun
  · rw [Function.update_of_ne here]
    exact made

/-- The entries of the table. -/
def statusSlots : List StatusSlot :=
  [.weightTable, .epochSnapshot, .ballotBox, .baseRewardRouter] ++
    (List.range maxOperators).map .operatorSnapshot ++
    (List.range maxNcnRewardRouters).map .ncnRewardRouter

theorem settled_of_statusSlots (settled : ∀ slot ∈ statusSlots, after.Settled slot)
    (slot : StatusSlot) : after.Settled slot := by
  cases slot with
  | epochState => trivial
  | operatorSnapshot index =>
    by_cases inside : index < maxOperators
    · exact settled _ (by simp [statusSlots, inside])
    · exact .inl (dif_neg inside)
  | ncnRewardRouter index =>
    by_cases inside : index < maxNcnRewardRouters
    · exact settled _ (by simp [statusSlots, inside])
    · exact .inl (dif_neg inside)
  | _ => exact settled _ (by simp [statusSlots])

end EpochState

/-! ## Receivers -/

/-- A receiver holds its rent from when its router is created, and with it what the
router has in transit. -/
def Account.Backed {α : Type} (transit : α → ℕ) (rentCost lamports : ℕ) : Account α → Prop
  | .missing => True
  | .allocated _ => rentCost ≤ lamports
  | .ready data => transit data + rentCost ≤ lamports

theorem Account.Backed.mono {α : Type} {transit : α → ℕ} {rentCost lamports more : ℕ}
    {account : Account α} (backed : account.Backed transit rentCost lamports)
    (le : lamports ≤ more) : account.Backed transit rentCost more := by
  cases account with
  | missing => trivial
  | allocated dataLen => exact Nat.le_trans backed le
  | ready data => exact Nat.le_trans backed le

namespace RewardFlow

variable {before after : RewardFlow} {rentCost accountBalance rewards : ℕ}

/-- Routing takes in no more than there is. -/
theorem Routed.backed (routed : before.Routed after rentCost accountBalance)
    (backed : before.transit + rentCost ≤ accountBalance) :
    after.transit + rentCost ≤ accountBalance := by
  rcases routed with rfl | ⟨incoming, -, balance⟩
  · exact backed
  · exact balance.le

/-- What is sent out was in transit. -/
theorem Distributed.backed (distributed : before.Distributed after rewards)
    (backed : before.transit + rentCost ≤ accountBalance + rewards) :
    after.transit + rentCost ≤ accountBalance := by
  have left := distributed.transit
  omega

end RewardFlow

/-- Every receiver of an epoch covers its router. -/
structure EpochAccounts.Funded (runtime : Runtime) (accounts : EpochAccounts) : Prop where
  base : accounts.baseRewardRouter.Backed (fun router => router.flow.transit) runtime.rentCost
    accounts.baseRewardReceiver
  ncn : ∀ key, (accounts.ncnRewardRouters key).Backed (fun router => router.flow.transit)
    runtime.rentCost (accounts.ncnRewardReceivers key)

namespace EpochAccounts

variable {runtime : Runtime} {indexOf : Pubkey → ℕ} {accounts next : EpochAccounts}
variable {context : Context} {instruction : EpochInstruction}
variable {epochState before after : EpochState} {account : AccountToClose}

namespace Funded

theorem absent (ncn : Pubkey) (epoch : ℕ) : (EpochAccounts.absent ncn epoch).Funded runtime where
  base := trivial
  ncn _ := trivial

theorem base_ready {router : BaseRewardRouter} (funded : accounts.Funded runtime)
    (ready : accounts.baseRewardRouter = .ready router) :
    router.flow.transit + runtime.rentCost ≤ accounts.baseRewardReceiver := by
  have backed := funded.base
  rw [ready] at backed
  exact backed

theorem ncn_ready {key : Pubkey × NcnFeeGroup} {router : NcnRewardRouter}
    (funded : accounts.Funded runtime) (ready : accounts.ncnRewardRouters key = .ready router) :
    router.flow.transit + runtime.rentCost ≤ accounts.ncnRewardReceivers key := by
  have backed := funded.ncn key
  rw [ready] at backed
  exact backed

/-- One NCN router changes, together with its receiver. -/
theorem setNcn {key : Pubkey × NcnFeeGroup} {router : Account NcnRewardRouter} {lamports : ℕ}
    (funded : accounts.Funded runtime)
    (backed : router.Backed (fun router => router.flow.transit) runtime.rentCost lamports)
    (other : Pubkey × NcnFeeGroup) :
    (Function.update accounts.ncnRewardRouters key router other).Backed
      (fun router => router.flow.transit) runtime.rentCost
      (Function.update accounts.ncnRewardReceivers key lamports other) := by
  by_cases here : other = key
  · rw [here, Function.update_self, Function.update_self]
    exact backed
  · rw [Function.update_of_ne here, Function.update_of_ne here]
    exact funded.ncn other

theorem close {withReceiver : Bool} (funded : accounts.Funded runtime)
    (closed : accounts.closeAccount runtime epochState withReceiver account = .ok next) :
    next.Funded runtime := by
  cases account with
  | operatorSnapshot operator =>
    obtain ⟨_, -, closed⟩ := bind_eq_ok.mp closed
    obtain ⟨_, -, same⟩ := bind_eq_ok.mp closed
    cases same
    exact { funded with }
  | baseRewardRouter =>
    obtain ⟨_, -, closed⟩ := bind_eq_ok.mp closed
    obtain ⟨_, -, same⟩ := bind_eq_ok.mp closed
    cases same
    exact ⟨trivial, funded.ncn⟩
  | ncnRewardRouter operator group =>
    obtain ⟨_, -, closed⟩ := bind_eq_ok.mp closed
    obtain ⟨_, -, closed⟩ := bind_eq_ok.mp closed
    obtain ⟨_, -, same⟩ := bind_eq_ok.mp closed
    cases same
    exact ⟨funded.base, funded.setNcn trivial⟩
  | _ =>
    obtain ⟨_, -, same⟩ := bind_eq_ok.mp closed
    cases same
    exact { funded with }

theorem effect (funded : accounts.Funded runtime)
    (effect : Effect runtime accounts next context instruction) : next.Funded runtime := by
  cases effect with
  | received base_le ncn_le written =>
    cases written
    exact ⟨funded.base.mono base_le, fun key => (funded.ncn key).mono (ncn_le key)⟩
  | baseRouterAllocated here unfilled paid rent written =>
    cases written
    refine ⟨?_, funded.ncn⟩
    have backed := funded.base
    cases router : accounts.baseRewardRouter with
    | missing => exact rent router
    | allocated dataLen =>
      rw [router] at backed
      exact Nat.le_trans backed paid
    | ready data =>
      rw [router] at unfilled
      exact unfilled.elim
  | baseRouterFilled here allocated written =>
    cases written
    have backed := funded.base
    rw [allocated] at backed
    exact ⟨(Nat.zero_add _).trans_le backed, funded.ncn⟩
  | baseRouted here ready route written =>
    cases written
    have backed := funded.base_ready ready
    exact ⟨(BaseRewardRouter.processRouteBaseRewards_flow route).backed backed, funded.ncn⟩
  | baseDistributed here ready distribute sent update written =>
    cases written
    have backed := funded.base_ready ready
    rw [sent] at backed
    exact ⟨(BaseRewardRouter.processDistributeBaseRewards_flow distribute).backed backed, funded.ncn⟩
  | baseNcnDistributed here ready distribute sent paid update written =>
    cases written
    have backed := funded.base_ready ready
    rw [sent] at backed
    exact ⟨(BaseRewardRouter.processDistributeBaseNcnRewardRoute_flow distribute).backed backed,
      fun key => (funded.ncn key).mono (le_update_self_iff.mpr paid key)⟩
  | ncnRouterFilled here opened snapshot unused rent update written =>
    cases written
    exact ⟨funded.base, funded.setNcn ((Nat.zero_add _).trans_le rent)⟩
  | ncnRouted here snapshot ready route update written =>
    cases written
    have backed := funded.ncn_ready ready
    exact ⟨funded.base, funded.setNcn
      ((NcnRewardRouter.processRouteNcnRewards_flow route).1.backed backed)⟩
  | ncnDistributed here snapshot ready distribute sent update written =>
    cases written
    have backed := funded.ncn_ready ready
    rw [sent] at backed
    exact ⟨funded.base, funded.setNcn ((NcnRewardRouter.distribute_flow distribute).1.backed backed)⟩
  | operatorSnapshotAllocated here snapshot unfilled listed written =>
    cases written
    exact { funded with }
  | closed here open_ canClose close => exact funded.close close
  | _ =>
    rename_i written
    cases written
    exact { funded with }

end Funded

/-! ## One account -/

/-- Which account is filled, from its status. -/
theorem MirroredBy.isFilled (mirrored : accounts.MirroredBy indexOf epochState)
    (own : account.IsOwn) (notEpochState : account ≠ .epochState)
    (made : epochState.statusAt (account.slot indexOf) ≠ .dne)
    (open_ : epochState.statusAt (account.slot indexOf) ≠ .closed) : accounts.IsFilled account := by
  cases account with
  | epochState => exact absurd rfl notEpochState
  | otherEpochState => exact own.elim
  | weightTable => exact mirrored.table.tracked.ready made open_
  | epochSnapshot => exact mirrored.snapshots.tracked.ready made open_
  | operatorSnapshot operator =>
    exact (mirrored.snapshots.operatorsTracked operator).ready made open_
  | ballotBox => exact mirrored.ballotBox.ready made open_
  | baseRewardRouter => exact mirrored.base.tracked.ready made open_
  | ncnRewardRouter operator group =>
    obtain ⟨index, rfl⟩ := own
    exact (mirrored.ncn.tracked operator index).ready made open_

theorem loadToClose_of_ready {α : Type} {account : Account α} {data : α}
    (ready : account = .ready data) : loadToClose account = .ok data := by
  rw [ready]
  rfl

theorem closeReceiver_eq_ok {lamports : ℕ} (covered : runtime.rentCost ≤ lamports) :
    closeReceiver runtime true lamports = .ok 0 := by
  unfold closeReceiver
  rw [if_neg (by simp), if_neg covered.not_gt]

theorem dataIsEmpty_of_filled (filled : accounts.IsFilled account) :
    accounts.dataIsEmpty account = false := by
  cases account with
  | otherEpochState => exact filled.elim
  | _ =>
    obtain ⟨data, ready⟩ := filled
    rw [dataIsEmpty, ready]
    rfl

/-- An account that is filled can be closed, its receiver with it. -/
theorem closeAccount_of_filled (mirrored : accounts.MirroredBy indexOf epochState)
    (funded : accounts.Funded runtime) (own : account.IsOwn) (notEpochState : account ≠ .epochState)
    (filled : accounts.IsFilled account) :
    ∃ next after, accounts.closeAccount runtime epochState true account = .ok next ∧
      next.epochState = .ready after := by
  cases account with
  | epochState => exact absurd rfl notEpochState
  | otherEpochState => exact own.elim
  | weightTable =>
    obtain ⟨data, ready⟩ := filled
    exact ⟨_, _, bind_eq_ok.mpr ⟨data, loadToClose_of_ready ready, rfl⟩, rfl⟩
  | epochSnapshot =>
    obtain ⟨data, ready⟩ := filled
    exact ⟨_, _, bind_eq_ok.mpr ⟨data, loadToClose_of_ready ready, rfl⟩, rfl⟩
  | operatorSnapshot operator =>
    obtain ⟨data, ready⟩ := filled
    obtain ⟨inside, -⟩ := mirrored.snapshots.rows operator data ready
    rw [← mirrored.snapshots.index operator data ready] at inside
    obtain ⟨updated, update⟩ := epochState.closeOperatorSnapshot_of_lt inside
    exact ⟨_, _, bind_eq_ok.mpr ⟨data, loadToClose_of_ready ready,
      bind_eq_ok.mpr ⟨updated, update, rfl⟩⟩, rfl⟩
  | ballotBox =>
    obtain ⟨data, ready⟩ := filled
    exact ⟨_, _, bind_eq_ok.mpr ⟨data, loadToClose_of_ready ready, rfl⟩, rfl⟩
  | baseRewardRouter =>
    obtain ⟨data, ready⟩ := filled
    have covered := (Nat.le_add_left _ _).trans (funded.base_ready ready)
    exact ⟨_, _, bind_eq_ok.mpr ⟨data, loadToClose_of_ready ready,
      bind_eq_ok.mpr ⟨0, closeReceiver_eq_ok covered, rfl⟩⟩, rfl⟩
  | ncnRewardRouter operator group =>
    obtain ⟨index, rfl⟩ := own
    obtain ⟨data, ready⟩ := filled
    have covered := (Nat.le_add_left _ _).trans (funded.ncn_ready ready)
    obtain ⟨inside, -⟩ := mirrored.ncn.flow operator index data ready
    obtain ⟨sameIndex, sameGroup⟩ := Prod.mk.inj (mirrored.ncn.identity operator index data ready)
    obtain ⟨updated, update⟩ := epochState.closeNcnRewardRouter_of_lt
      (show _ * _ + (NcnFeeGroup.ofIndex index).group < _ from inside)
    rw [← sameIndex, ← sameGroup] at update
    exact ⟨_, _, bind_eq_ok.mpr ⟨data, loadToClose_of_ready ready,
      bind_eq_ok.mpr ⟨0, closeReceiver_eq_ok covered, bind_eq_ok.mpr ⟨updated, update, rfl⟩⟩⟩, rfl⟩

/-! ## All accounts -/

/-- Late enough after consensus, and for the wallet of the DAO. -/
structure ClosableIn (runtime : Runtime) (epochState : EpochState) (context : Context)
    (daoWallet : Pubkey) : Prop where
  wallet : context.config.feeConfig.baseFeeWallet .dao = .ok daoWallet
  late : epochState.canCloseEpochAccounts runtime.getEpoch
    context.config.epochsAfterConsensusBeforeClose context.clock.slot = .ok true

theorem ClosableIn.advances {daoWallet : Pubkey}
    (closable : ClosableIn runtime before context daoWallet) (advances : before.Advances after) :
    ClosableIn runtime after context daoWallet := by
  obtain ⟨reached, enough⟩ := EpochState.canCloseEpochAccounts_eq_ok_true_iff.mp closable.late
  refine ⟨closable.wallet, EpochState.canCloseEpochAccounts_eq_ok_true_iff.mpr ⟨?_, ?_⟩⟩
  · exact advances.isConsensusReached reached
  · rw [advances.consensus reached]
    exact enough

/-- The closing has begun, with a base router that was complete. -/
structure Closing (runtime : Runtime) (indexOf : Pubkey → ℕ) (accounts : EpochAccounts)
    (epochState : EpochState) : Prop where
  loaded : accounts.epochState = .ready epochState
  regular : accounts.Regular indexOf
  funded : accounts.Funded runtime
  isClosing : epochState.isClosing = true
  routed : epochState.statusAt .baseRewardRouter ≠ .dne

namespace Closing

/-- An entry that `are_all_closed` does not accept is that of an account which is there. -/
theorem exists_filled (closing : accounts.Closing runtime indexOf epochState) {slot : StatusSlot}
    (unsettled : ¬ epochState.Settled slot) :
    ∃ account : AccountToClose, account.IsOwn ∧ account.slot indexOf = slot ∧
      account ≠ .epochState ∧ accounts.IsFilled account := by
  have mirror := closing.regular.mirrored.opened epochState closing.loaded
  have registered := closing.regular.registered epochState closing.loaded
  obtain ⟨⟨snapshot, -⟩, box⟩ := registered.decided (registered.closing closing.isClosing)
  have made : epochState.statusAt slot ≠ .dne := by
    cases slot with
    | epochState => exact absurd trivial unsettled
    | weightTable => exact mirror.snapshots.tabled snapshot
    | epochSnapshot => exact snapshot
    | operatorSnapshot index => exact fun absent => unsettled (.inl absent)
    | ballotBox => exact box
    | baseRewardRouter => exact closing.routed
    | ncnRewardRouter index => exact fun absent => unsettled (.inl absent)
  have open_ : epochState.statusAt slot ≠ .closed := by
    cases slot with
    | epochState => exact absurd trivial unsettled
    | operatorSnapshot index => exact fun closed => unsettled (.inr closed)
    | ncnRewardRouter index => exact fun closed => unsettled (.inr closed)
    | _ => exact unsettled
  obtain ⟨account, own, rfl⟩ := mirror.exists_account made
  have notEpochState : account ≠ .epochState := by
    rintro rfl
    exact unsettled trivial
  exact ⟨account, own, rfl, notEpochState, mirror.isFilled own notEpochState made open_⟩

/-- Closing one account more. -/
theorem close {daoWallet : Pubkey} (closing : accounts.Closing runtime indexOf before)
    (distinct : Function.Injective indexOf) (own : account.IsOwn)
    (notEpochState : account ≠ .epochState) (filled : accounts.IsFilled account)
    (closable : ClosableIn runtime before context daoWallet) :
    ∃ next after,
      accounts.process runtime (context, .closeEpochAccount account daoWallet true) = .ok next ∧
        next.Closing runtime indexOf after ∧ ClosableIn runtime after context daoWallet ∧
        after.statusAt = Function.update before.statusAt (account.slot indexOf) .closed := by
  have unmarked := closing.regular.unmarked closing.loaded
  have mirrored := closing.regular.mirrored
  have mirror := (mirrored.opened before closing.loaded).setClosing
  obtain ⟨next, after, closed, still⟩ :=
    closeAccount_of_filled mirror closing.funded own notEpochState filled
  have there : accounts.dataIsEmpty account = false := dataIsEmpty_of_filled filled
  have processed := (processCloseEpochAccount_eq closing.loaded unmarked there closable.wallet
    closable.late).trans closed
  have effect := effect_of_closeEpochAccount processed
  have indexed : EpochInstruction.Indexed indexOf (.closeEpochAccount account daoWallet true) :=
    trivial
  obtain ⟨stillClosing, statuses⟩ := mirror.statusClosed closed still
  rw [EpochState.setIsClosing_statusAt] at statuses
  have advances := mirrored.advances distinct indexed closing.loaded still effect
  refine ⟨next, after, processed, ?_, closable.advances advances, statuses⟩
  refine ⟨still, closing.regular.effect distinct indexed effect, closing.funded.effect effect,
    stillClosing, ?_⟩
  exact EpochState.made_of_close closing.routed statuses

/-- One entry after the other is settled, by closing its account unless it is settled
already. -/
theorem closeAll {daoWallet : Pubkey} (distinct : Function.Injective indexOf)
    (slots : List StatusSlot) {accounts : EpochAccounts} {before : EpochState}
    (closing : accounts.Closing runtime indexOf before)
    (closable : ClosableIn runtime before context daoWallet) :
    ∃ (toClose : List AccountToClose) (last : EpochAccounts) (after : EpochState),
      run (process runtime) (toClose.map fun account =>
          (context, .closeEpochAccount account daoWallet true)) accounts = .ok last ∧
        last.epochState = .ready after ∧ (∀ slot ∈ slots, after.Settled slot) ∧
        ∀ slot, before.Settled slot → after.Settled slot := by
  induction slots generalizing accounts before with
  | nil => exact ⟨[], accounts, before, rfl, closing.loaded, by simp, fun _ settled => settled⟩
  | cons slot rest ih =>
    by_cases settled : before.Settled slot
    · obtain ⟨toClose, last, after, ran, still, others, kept⟩ := ih closing closable
      refine ⟨toClose, last, after, ran, still, ?_, kept⟩
      exact List.forall_mem_cons.mpr ⟨kept slot settled, others⟩
    · obtain ⟨account, own, rfl, notEpochState, filled⟩ := closing.exists_filled settled
      obtain ⟨next, middle, processed, nextClosing, nextClosable, statuses⟩ :=
        closing.close distinct own notEpochState filled closable
      obtain ⟨toClose, last, after, ran, still, others, kept⟩ := ih nextClosing nextClosable
      have here : middle.Settled (account.slot indexOf) := by
        apply EpochState.settled_of_closed
        rw [statuses, Function.update_self]
      refine ⟨account :: toClose, last, after, ?_, still, ?_, fun slot settled => ?_⟩
      · rw [List.map_cons, run_cons, processed, ok_bind, ran]
      · exact List.forall_mem_cons.mpr ⟨kept _ here, others⟩
      · exact kept slot (settled.close statuses)

end Closing

/-! ## Runs -/

/-- Nothing is closed before the base router is complete. -/
def BaseRouterFirst (runtime : Runtime) (ncn : Pubkey) (epoch : ℕ)
    (history : List (Context × EpochInstruction)) : Prop :=
  ∀ past context account daoWallet withReceiver rest middle before,
    history = past ++ (context, .closeEpochAccount account daoWallet withReceiver) :: rest →
    run (process runtime) past (EpochAccounts.absent ncn epoch) = .ok middle →
    middle.epochState = .ready before → before.isClosing = false →
    middle.IsFilled .baseRewardRouter

/-- What a run leads to, with the base router complete before anything is closed. -/
structure Prepared (runtime : Runtime) (indexOf : Pubkey → ℕ)
    (past : List (Context × EpochInstruction)) (accounts : EpochAccounts) : Prop where
  regular : accounts.Regular indexOf
  funded : accounts.Funded runtime
  routed : ∀ epochState, accounts.epochState = .ready epochState → epochState.isClosing = true →
    epochState.statusAt .baseRewardRouter ≠ .dne
  closable : ∀ epochState, accounts.epochState = .ready epochState → epochState.isClosing = true →
    ∃ timed ∈ past, ∃ daoWallet, ClosableIn runtime epochState timed.1 daoWallet

namespace Prepared

variable {past : List (Context × EpochInstruction)}

theorem absent (ncn : Pubkey) (epoch : ℕ) :
    (EpochAccounts.absent ncn epoch).Prepared runtime indexOf [] where
  regular := .absent ncn epoch
  funded := .absent ncn epoch
  routed epochState loaded := by cases loaded
  closable epochState loaded := by cases loaded

/-- An instruction that closes nothing. -/
theorem goOn (prepared : accounts.Prepared runtime indexOf past)
    (distinct : Function.Injective indexOf) (indexed : instruction.Indexed indexOf)
    (goesOn : ∀ account daoWallet withReceiver,
      instruction ≠ .closeEpochAccount account daoWallet withReceiver)
    (effect : Effect runtime accounts next context instruction) :
    next.Prepared runtime indexOf (past ++ [(context, instruction)]) := by
  have mirrored := prepared.regular.mirrored
  have kept : ∀ after, next.epochState = .ready after → after.isClosing = true →
      ∃ before, accounts.epochState = .ready before ∧ before.isClosing = true ∧
        before.StatusFilled after ∧ before.Advances after := by
    intro after still closing
    by_cases ready : ∃ epochState, accounts.epochState = .ready epochState
    · obtain ⟨before, loaded⟩ := ready
      have filled := mirrored.statusFilled indexed loaded still goesOn effect
      exact ⟨before, loaded, filled.isClosing.symm.trans closing, filled,
        mirrored.advances distinct indexed loaded still effect⟩
    · have absent := not_exists.mp ready
      obtain ⟨account, base, ncn, appears, rfl⟩ := effect.of_absent absent
      obtain ⟨-, bump, slot, rfl⟩ := appears.fresh absent still
      cases closing
  refine ⟨prepared.regular.effect distinct indexed effect, prepared.funded.effect effect, ?_, ?_⟩
  · intro after still closing
    obtain ⟨before, loaded, closingBefore, filled, -⟩ := kept after still closing
    have made := prepared.routed before loaded closingBefore
    rw [filled.kept made]
    exact made
  · intro after still closing
    obtain ⟨before, loaded, closingBefore, -, advances⟩ := kept after still closing
    obtain ⟨timed, member, daoWallet, closable⟩ := prepared.closable before loaded closingBefore
    exact ⟨timed, List.mem_append_left _ member, daoWallet, closable.advances advances⟩

/-- An instruction that closes an account, if it is the first one with the base router
complete. -/
theorem close {daoWallet : Pubkey} {withReceiver : Bool}
    (prepared : accounts.Prepared runtime indexOf past) (distinct : Function.Injective indexOf)
    (first : ∀ before, accounts.epochState = .ready before → before.isClosing = false →
      accounts.IsFilled .baseRewardRouter)
    (processed : accounts.processCloseEpochAccount runtime context account daoWallet withReceiver =
      .ok next) :
    next.Prepared runtime indexOf
      (past ++ [(context, .closeEpochAccount account daoWallet withReceiver)]) := by
  have effect := effect_of_closeEpochAccount processed
  have indexed : EpochInstruction.Indexed indexOf
      (.closeEpochAccount account daoWallet withReceiver) := trivial
  have mirrored := prepared.regular.mirrored
  obtain ⟨before, loaded, -, wallet, late, close⟩ := processCloseEpochAccount_eq_ok processed
  have mirror := mirrored.opened before loaded
  have made : before.statusAt .baseRewardRouter ≠ .dne := by
    cases closing : before.isClosing with
    | true => exact prepared.routed before loaded closing
    | false =>
      obtain ⟨router, ready⟩ := first before loaded closing
      intro absent
      cases (mirror.base.tracked.filled_of_ready ready).symm.trans absent
  refine ⟨prepared.regular.effect distinct indexed effect, prepared.funded.effect effect, ?_, ?_⟩
  · intro after still _
    obtain ⟨-, statuses⟩ := mirror.setClosing.statusClosed close still
    exact EpochState.made_of_close made statuses
  · intro after still _
    have closable : ClosableIn runtime before context daoWallet := ⟨wallet, late⟩
    refine ⟨_, List.mem_append_right past (List.mem_singleton.mpr rfl), daoWallet, ?_⟩
    exact closable.advances (mirrored.advances distinct indexed loaded still effect)

end Prepared

theorem run_prepared {history : List (Context × EpochInstruction)} {ncn : Pubkey} {epoch : ℕ}
    (distinct : Function.Injective indexOf)
    (indexed : ∀ timed ∈ history, timed.2.Indexed indexOf)
    (first : BaseRouterFirst runtime ncn epoch history)
    (ran : run (process runtime) history (EpochAccounts.absent ncn epoch) = .ok next) :
    next.Prepared runtime indexOf history := by
  refine run_split_induction
    (motive := fun past (state : EpochAccounts) => state.Prepared runtime indexOf past)
    (.absent ncn epoch) ?_ ran
  rintro past middle ⟨context, instruction⟩ rest later split reached prepared processed
  have member : (context, instruction) ∈ history := by simp [split]
  rcases closes_or_goesOn instruction with ⟨account, daoWallet, withReceiver, rfl⟩ | goesOn
  · refine prepared.close distinct (fun before loaded closing => ?_) processed
    exact first past context account daoWallet withReceiver rest middle before split reached loaded
      closing
  · exact prepared.goOn distinct (indexed _ member) goesOn (process_effect processed)

/-- What was late enough stays so, at every later slot. -/
theorem ClosableIn.later {daoWallet : Pubkey} {clock : Clock}
    (closable : ClosableIn runtime epochState context daoWallet)
    (scheduled : Monotone runtime.getEpoch) (le : context.clock.slot ≤ clock.slot) :
    ClosableIn runtime epochState { context with clock := clock } daoWallet where
  wallet := closable.wallet
  late := (EpochState.Advances.refl epochState).canCloseEpochAccounts scheduled le closable.late

/-- The accounts that the epoch state waits for, each of which has to be closed. -/
def awaited : List AccountToClose := [.weightTable, .epochSnapshot, .ballotBox, .baseRewardRouter]

/-- If the base router is complete before anything is closed, the closing of an epoch
comes to its end: every account that is waited for is closed or can be closed, and
instructions that close one account after the other bring all of them to it. -/
theorem closing_never_deadlocks (runtime : Runtime) (scheduled : Monotone runtime.getEpoch)
    (ncn : Pubkey) (epoch : ℕ) {indexOf : Pubkey → ℕ} (distinct : Function.Injective indexOf)
    {history : List (Context × EpochInstruction)}
    (indexed : ∀ timed ∈ history, timed.2.Indexed indexOf)
    (first : BaseRouterFirst runtime ncn epoch history) {accounts : EpochAccounts}
    (ran : run (process runtime) history (EpochAccounts.absent ncn epoch) = .ok accounts)
    {epochState : EpochState} (loaded : accounts.epochState = .ready epochState)
    (isClosing : epochState.isClosing = true) :
    (∀ account ∈ awaited, epochState.statusAt (account.slot indexOf) = .closed ∨
      accounts.IsFilled account ∧ ∀ context daoWallet,
        ClosableIn runtime epochState context daoWallet → ∃ next after,
          accounts.process runtime (context, .closeEpochAccount account daoWallet true) = .ok next ∧
            next.epochState = .ready after ∧ after.statusAt (account.slot indexOf) = .closed) ∧
    (∃ timed ∈ history, ∃ daoWallet, ∀ clock, timed.1.clock.slot ≤ clock.slot →
      ClosableIn runtime epochState { timed.1 with clock := clock } daoWallet) ∧
    ∀ context daoWallet, ClosableIn runtime epochState context daoWallet →
      ∃ (toClose : List AccountToClose) (last : EpochAccounts) (after : EpochState),
        run (process runtime) (toClose.map fun account =>
            (context, .closeEpochAccount account daoWallet true)) accounts = .ok last ∧
          last.epochState = .ready after ∧ after.accountStatus.areAllClosed = true := by
  have prepared := run_prepared distinct indexed first ran
  have closing : accounts.Closing runtime indexOf epochState :=
    ⟨loaded, prepared.regular, prepared.funded, isClosing,
      prepared.routed epochState loaded isClosing⟩
  refine ⟨fun account waited => ?_, ?_, fun context daoWallet closable => ?_⟩
  · have own : account.IsOwn ∧ account ≠ .epochState ∧
        (epochState.Settled (account.slot indexOf) →
          epochState.statusAt (account.slot indexOf) = .closed) := by
      simp only [awaited, List.mem_cons, List.not_mem_nil, or_false] at waited
      rcases waited with rfl | rfl | rfl | rfl <;> exact ⟨trivial, nofun, id⟩
    obtain ⟨isOwn, notEpochState, closedOf⟩ := own
    by_cases settled : epochState.Settled (account.slot indexOf)
    · exact .inl (closedOf settled)
    · obtain ⟨other, otherOwn, same, -, filled⟩ := closing.exists_filled settled
      obtain rfl := AccountToClose.slot_injOn distinct otherOwn isOwn same
      refine .inr ⟨filled, fun context daoWallet closable => ?_⟩
      obtain ⟨next, after, processed, nextClosing, -, statuses⟩ :=
        closing.close distinct isOwn notEpochState filled closable
      refine ⟨next, after, processed, nextClosing.loaded, ?_⟩
      rw [statuses, Function.update_self]
  · obtain ⟨timed, member, daoWallet, closable⟩ := prepared.closable epochState loaded isClosing
    exact ⟨timed, member, daoWallet, fun clock le => closable.later scheduled le⟩
  · obtain ⟨toClose, last, after, ranLast, still, settled, -⟩ :=
      closing.closeAll distinct EpochState.statusSlots closable
    refine ⟨toClose, last, after, ranLast, still, ?_⟩
    exact EpochState.areAllClosed_iff.mpr (EpochState.settled_of_statusSlots settled)

/-- One account is closed at the end, with the base router complete. -/
theorem BaseRouterFirst.of_last {ncn : Pubkey} {epoch : ℕ}
    {opening : List (Context × EpochInstruction)} (last : Context × EpochInstruction)
    (goesOn : ∀ timed ∈ opening, ∀ account daoWallet withReceiver,
      timed.2 ≠ .closeEpochAccount account daoWallet withReceiver)
    (ran : Runs.run (process runtime) opening (EpochAccounts.absent ncn epoch) = .ok accounts)
    (complete : accounts.IsFilled .baseRewardRouter) :
    BaseRouterFirst runtime ncn epoch (opening ++ [last]) := by
  intro past context account daoWallet withReceiver rest middle before split ranPast _ _
  rcases List.eq_nil_or_concat rest with rfl | ⟨others, final, rfl⟩
  · obtain ⟨rfl, -⟩ := List.append_inj' split rfl
    cases ran.symm.trans ranPast
    exact complete
  · rw [List.concat_eq_append, ← List.cons_append, ← List.append_assoc] at split
    obtain ⟨rfl, -⟩ := List.append_inj' split rfl
    exact absurd rfl (goesOn _ (List.mem_append_right past List.mem_cons_self) _ _ _)

/-- The weight table of the sample epoch is closed first. -/
def firstClosed : Context × EpochInstruction :=
  (sampleContext 5184000, .closeEpochAccount .weightTable sampleWallet true)

theorem closing_never_deadlocks_with_baseRouter :
    ∃ (accounts : EpochAccounts) (epochState : EpochState),
      Runs.run (process sampleRuntime) (sampleEpoch ++ [firstClosed])
          (EpochAccounts.absent .default 0) = .ok accounts ∧
        accounts.epochState = .ready epochState ∧ epochState.isClosing = true ∧
        ∃ history last after, Runs.run (process sampleRuntime) history accounts = .ok last ∧
          last.epochState = .ready after ∧ after.accountStatus.areAllClosed = true := by
  have runs : (do
      let complete ← Runs.run (process sampleRuntime) sampleEpoch (EpochAccounts.absent .default 0)
      let router ← complete.baseRewardRouter.load
      let accounts ← process sampleRuntime complete firstClosed
      let epochState ← accounts.epochState.load
      return (complete, router, accounts, epochState)).toOption.any
        (fun result : EpochAccounts × BaseRewardRouter × EpochAccounts × EpochState =>
          result.2.2.2.isClosing) = true := by
    decide +kernel
  obtain ⟨⟨complete, router, accounts, epochState⟩, all, isClosing⟩ := exists_of_any runs
  obtain ⟨_, ranOpening, all⟩ := bind_eq_ok.mp all
  obtain ⟨_, found, all⟩ := bind_eq_ok.mp all
  obtain ⟨_, processed, all⟩ := bind_eq_ok.mp all
  obtain ⟨_, loaded, same⟩ := bind_eq_ok.mp all
  cases same
  have ready := Account.load_eq_ok_iff.mp loaded
  have goesOn : ∀ timed ∈ sampleEpoch, ∀ account daoWallet withReceiver,
      timed.2 ≠ .closeEpochAccount account daoWallet withReceiver := by
    simp [sampleEpoch, epochWeighed, epochSnapshotted, epochVoted, epochRouted]
  have first := BaseRouterFirst.of_last firstClosed goesOn ranOpening
    ⟨router, Account.load_eq_ok_iff.mp found⟩
  have ran : Runs.run (process sampleRuntime) (sampleEpoch ++ [firstClosed])
      (EpochAccounts.absent .default 0) = .ok accounts := by
    rw [run_append, ranOpening, ok_bind, run_singleton, processed]
  have indexed : ∀ timed ∈ sampleEpoch ++ [firstClosed], timed.2.Indexed sampleIndex :=
    List.forall_mem_append.mpr ⟨sampleEpoch_indexed, by simp [firstClosed, EpochInstruction.Indexed]⟩
  obtain ⟨-, ⟨timed, -, daoWallet, closable⟩, closeAll⟩ := closing_never_deadlocks sampleRuntime
    (fun _ _ le => Nat.div_le_div_right le) .default 0 sampleIndex_injective indexed first ran ready
    isClosing
  obtain ⟨toClose, last, after, ranLast, still, allClosed⟩ := closeAll _ _ (closable _ le_rfl)
  exact ⟨accounts, epochState, ran, ready, isClosing, _, last, after, ranLast, still, allClosed⟩

/-! ## Without a base router -/

/-- The closing has begun and there is no base router. -/
structure Stranded (indexOf : Pubkey → ℕ) (accounts : EpochAccounts) (epochState : EpochState) :
    Prop where
  loaded : accounts.epochState = .ready epochState
  mirrored : accounts.Mirrored indexOf
  isClosing : epochState.isClosing = true
  missing : accounts.baseRewardRouter = .missing
  unmade : epochState.statusAt .baseRewardRouter = .dne

namespace Stranded

/-- A closing epoch creates no base router, and what is missing cannot be filled. -/
theorem stillMissing (stranded : accounts.Stranded indexOf before)
    (effect : Effect runtime accounts next context instruction) :
    next.baseRewardRouter = .missing := by
  have missing := stranded.missing
  cases effect with
  | operatorSnapshotAllocated here snapshot unfilled listed written =>
    cases written
    exact missing
  | baseRouterAllocated here unfilled paid rent written =>
    cases here.symm.trans stranded.loaded
    rw [missing] at unfilled
    cases stranded.isClosing.symm.trans unfilled
  | baseRouterFilled here allocated written => cases missing.symm.trans allocated
  | baseRouted here ready route written => cases missing.symm.trans ready
  | baseDistributed here ready distribute sent update written => cases missing.symm.trans ready
  | baseNcnDistributed here ready distribute sent paid update written =>
    cases missing.symm.trans ready
  | @closed account _ _ _ here open_ canClose close =>
    cases account with
    | operatorSnapshot operator =>
      obtain ⟨_, -, close⟩ := bind_eq_ok.mp close
      obtain ⟨_, -, same⟩ := bind_eq_ok.mp close
      cases same
      exact missing
    | ncnRewardRouter operator group =>
      obtain ⟨_, -, close⟩ := bind_eq_ok.mp close
      obtain ⟨_, -, close⟩ := bind_eq_ok.mp close
      obtain ⟨_, -, same⟩ := bind_eq_ok.mp close
      cases same
      exact missing
    | baseRewardRouter =>
      obtain ⟨_, -, close⟩ := bind_eq_ok.mp close
      obtain ⟨_, -, same⟩ := bind_eq_ok.mp close
      cases same
      rfl
    | _ =>
      obtain ⟨_, -, same⟩ := bind_eq_ok.mp close
      cases same
      exact missing
  | _ =>
    rename_i written
    cases written
    exact missing

theorem not_allClosed (stranded : accounts.Stranded indexOf epochState) :
    epochState.accountStatus.areAllClosed = false := by
  refine Bool.eq_false_iff.mpr fun allClosed => ?_
  have closed := EpochState.areAllClosed_iff.mp allClosed .baseRewardRouter
  cases stranded.unmade.symm.trans closed

theorem close {daoWallet : Pubkey} {withReceiver : Bool}
    (stranded : accounts.Stranded indexOf before) (distinct : Function.Injective indexOf)
    (processed : accounts.processCloseEpochAccount runtime context account daoWallet withReceiver =
      .ok next) : ∃ after, next.Stranded indexOf after := by
  have effect := effect_of_closeEpochAccount processed
  have indexed : EpochInstruction.Indexed indexOf
      (.closeEpochAccount account daoWallet withReceiver) := trivial
  obtain ⟨epochState, loaded, -, -, -, close⟩ := processCloseEpochAccount_eq_ok processed
  cases loaded.symm.trans stranded.loaded
  have mirror := (stranded.mirrored.opened before loaded).setClosing
  rcases closeAccount_eq_ok close with ⟨-, allowed, -⟩ | ⟨-, after, still, -⟩
  · cases stranded.not_allClosed.symm.trans (EpochState.loadToClose_areAllClosed allowed)
  · obtain ⟨closing, statuses⟩ := mirror.statusClosed close still
    refine ⟨after, still, stranded.mirrored.effect distinct indexed effect, closing,
      stranded.stillMissing effect, ?_⟩
    have other : StatusSlot.baseRewardRouter ≠ account.slot indexOf := by
      cases account with
      | baseRewardRouter =>
        obtain ⟨router, found, -⟩ := bind_eq_ok.mp close
        cases stranded.missing.symm.trans (loadToClose_eq_ok found)
      | _ => nofun
    rw [statuses, Function.update_of_ne other]
    exact stranded.unmade

theorem goOn (stranded : accounts.Stranded indexOf before) (distinct : Function.Injective indexOf)
    (indexed : instruction.Indexed indexOf)
    (goesOn : ∀ account daoWallet withReceiver,
      instruction ≠ .closeEpochAccount account daoWallet withReceiver)
    (effect : Effect runtime accounts next context instruction) :
    ∃ after, next.Stranded indexOf after := by
  have loaded := stranded.loaded
  have unmarked := stranded.mirrored.unmarked (by rw [loaded]; nofun)
  rcases effect.still_or_gone loaded with ⟨after, still⟩ | gone
  · have filled := stranded.mirrored.statusFilled indexed loaded still goesOn effect
    have mirrored := stranded.mirrored.effect distinct indexed effect
    have missing := stranded.stillMissing effect
    refine ⟨after, still, mirrored, filled.isClosing.trans stranded.isClosing, missing, ?_⟩
    have tracked := (mirrored.opened after still).base.tracked
    rw [missing] at tracked
    refine tracked.resolve_right fun closed => ?_
    have wasClosed := (filled.closed_iff .baseRewardRouter).mp closed.1
    cases stranded.unmade.symm.trans wasClosed
  · cases unmarked.symm.trans ((effect.marker goesOn).symm.trans gone.1)

/-- No instruction leads out of it. -/
theorem run {history : List (Context × EpochInstruction)} (distinct : Function.Injective indexOf)
    (indexed : ∀ timed ∈ history, timed.2.Indexed indexOf)
    (stranded : accounts.Stranded indexOf before)
    (ran : Runs.run (process runtime) history accounts = .ok next) :
    ∃ after, next.Stranded indexOf after := by
  refine foldlM_invariant (motive := fun state : EpochAccounts =>
    ∃ epochState, state.Stranded indexOf epochState) ?_ ⟨before, stranded⟩ ran
  rintro ⟨context, instruction⟩ member state later ⟨epochState, stranded⟩ processed
  rcases closes_or_goesOn instruction with ⟨account, daoWallet, withReceiver, rfl⟩ | goesOn
  · exact stranded.close distinct processed
  · exact stranded.goOn distinct (indexed _ member) goesOn (process_effect processed)

end Stranded

/-- Nobody made a base router before the weight table was closed. The epoch is closing,
no instruction closes or creates the router, and the rest is never all closed. -/
theorem closing_deadlocks_without_baseRouter :
    ∃ (accounts : EpochAccounts) (epochState : EpochState),
      Runs.run (process sampleRuntime)
          (epochWeighed ++ epochSnapshotted ++ epochVoted ++ [firstClosed])
          (EpochAccounts.absent .default 0) = .ok accounts ∧
        accounts.epochState = .ready epochState ∧ epochState.isClosing = true ∧
        epochState.statusAt .baseRewardRouter ≠ .closed ∧ accounts.baseRewardRouter = .missing ∧
        ∀ history last, (∀ timed ∈ history, timed.2.Indexed sampleIndex) →
          Runs.run (process sampleRuntime) history accounts = .ok last →
          ∃ after, last.epochState = .ready after ∧ after.accountStatus.areAllClosed = false := by
  have runs : (do
      let accounts ← Runs.run (process sampleRuntime)
        (epochWeighed ++ epochSnapshotted ++ epochVoted ++ [firstClosed])
        (EpochAccounts.absent .default 0)
      accounts.baseRewardRouter.loadSystemAccount
      let epochState ← accounts.epochState.load
      return (accounts, epochState)).toOption.any (fun result : EpochAccounts × EpochState =>
        result.2.isClosing && result.2.accountStatus.baseRewardRouter == AccountStatus.dne) = true := by
    decide +kernel
  obtain ⟨⟨accounts, epochState⟩, all, outcome⟩ := exists_of_any runs
  obtain ⟨_, ran, all⟩ := bind_eq_ok.mp all
  obtain ⟨_, unused, all⟩ := bind_eq_ok.mp all
  obtain ⟨_, loaded, same⟩ := bind_eq_ok.mp all
  cases same
  simp only [Bool.and_eq_true, beq_iff_eq] at outcome
  obtain ⟨isClosing, unmade⟩ := outcome
  have ready := Account.load_eq_ok_iff.mp loaded
  have missing := Account.loadSystemAccount_eq_ok_iff.mp unused
  have indexed : ∀ timed ∈ epochWeighed ++ epochSnapshotted ++ epochVoted ++ [firstClosed],
      timed.2.Indexed sampleIndex := by
    have earlier := sampleEpoch_indexed
    simp only [sampleEpoch, List.forall_mem_append] at earlier ⊢
    exact ⟨earlier.1, by simp [firstClosed, EpochInstruction.Indexed]⟩
  have mirrored := run_mirrored sampleIndex_injective indexed ran
  have stranded : accounts.Stranded sampleIndex epochState :=
    ⟨ready, mirrored, isClosing, missing, unmade⟩
  refine ⟨accounts, epochState, ran, ready, isClosing, ?_, missing, fun history last own later => ?_⟩
  · intro closed
    cases closed.symm.trans unmade
  · obtain ⟨after, strandedLast⟩ := stranded.run sampleIndex_injective own later
    exact ⟨after, strandedLast.loaded, strandedLast.not_allClosed⟩

end EpochAccounts

end TipRouter
