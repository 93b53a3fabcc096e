import TipRouter.CrankDistribution

/-! The closing crank. From an epoch that is due it comes to its end, and if the base router
is there or can still be made it leaves nothing of the epoch but its marker: the
distribution makes the base router, whatever else of it fails, and then every account is
closed in its turn. -/
namespace TipRouter
open Runs Clients

/-! ## Making the base router -/

namespace EpochAccounts

variable {runtime : Runtime} {accounts : EpochAccounts} {context : Context}
variable {epochState : EpochState}

theorem getNewSize_of_lt {currentSize targetSize : ℕ} (small : currentSize < targetSize)
    (target : targetSize < 2 ^ 63) :
    getNewSize currentSize targetSize = .ok (min (currentSize + maxReallocBytes) targetSize) := by
  have fits : currentSize + maxReallocBytes < 2 ^ 64 := by
    unfold maxReallocBytes
    omega
  unfold getNewSize
  rw [checkedAdd_of_lt fits]

theorem initializeBaseRewardRouter_of_missing (loaded : accounts.epochState = .ready epochState)
    (open_ : epochState.isClosing = false) (unmarked : accounts.epochMarker = false)
    (missing : accounts.baseRewardRouter = .missing)
    (fits : accounts.baseRewardReceiver + runtime.rentCost < 2 ^ 64) :
    accounts.process runtime (context, .initializeBaseRewardRouter) = .ok { accounts with
      baseRewardRouter := .allocated maxReallocBytes
      baseRewardReceiver := accounts.baseRewardReceiver + runtime.rentCost } := by
  refine bind_eq_ok.mpr ⟨epochState, loadAndCheckIsClosing_eq_ok_iff.mpr ⟨loaded, open_⟩, ?_⟩
  refine bind_eq_ok.mpr ⟨(), checkDne_eq_ok_iff.mpr unmarked, ?_⟩
  refine bind_eq_ok.mpr ⟨(), Account.loadSystemAccount_eq_ok_iff.mpr missing, ?_⟩
  refine bind_eq_ok.mpr ⟨accounts.baseRewardReceiver + runtime.rentCost, ?_, rfl⟩
  unfold receiveLamports
  rw [checkedAdd_of_lt fits]

/-- One more realloc of the base router: the last one fills it, later ones do nothing. -/
theorem reallocBaseRewardRouter_step (loaded : accounts.epochState = .ready epochState) {bump : ℕ}
    (there : (∃ router, accounts.baseRewardRouter = .ready router) ∨
      ∃ dataLen, accounts.baseRewardRouter = .allocated dataLen ∧ dataLen < BaseRewardRouter.size) :
    ∃ next after, accounts.process runtime (context, .reallocBaseRewardRouter bump) = .ok next ∧
      next.epochState = .ready after ∧
      ((∃ router, next.baseRewardRouter = .ready router) ∨
        ∃ dataLen, accounts.baseRewardRouter = .allocated dataLen ∧
          next.baseRewardRouter = .allocated (dataLen + maxReallocBytes) ∧
          dataLen + maxReallocBytes < BaseRewardRouter.size) := by
  have target : BaseRewardRouter.size < 2 ^ 63 := by norm_num [BaseRewardRouter.size]
  rcases there with ⟨router, ready⟩ | ⟨dataLen, allocated, short⟩
  · have grown : accounts.baseRewardRouter.resize BaseRewardRouter.size = .ok .initialized := by
      rw [ready]
      rfl
    exact ⟨accounts, epochState, bind_eq_ok.mpr ⟨epochState, Account.load_eq_ok_iff.mpr loaded,
      bind_eq_ok.mpr ⟨_, grown, rfl⟩⟩, loaded, .inl ⟨router, ready⟩⟩
  have resized : accounts.baseRewardRouter.resize BaseRewardRouter.size =
      .ok (if min (dataLen + maxReallocBytes) BaseRewardRouter.size < BaseRewardRouter.size then
        .short (min (dataLen + maxReallocBytes) BaseRewardRouter.size) else .fullSize) := by
    rw [allocated, Account.resize, if_pos short, getNewSize_of_lt short target]
    rfl
  by_cases far : dataLen + maxReallocBytes < BaseRewardRouter.size
  · rw [Nat.min_eq_left far.le, if_pos far] at resized
    exact ⟨_, epochState, bind_eq_ok.mpr ⟨epochState, Account.load_eq_ok_iff.mpr loaded,
      bind_eq_ok.mpr ⟨_, resized, rfl⟩⟩, loaded, .inr ⟨dataLen, allocated, rfl, far⟩⟩
  · rw [Nat.min_eq_right (Nat.not_lt.mp far), if_neg (Nat.lt_irrefl _)] at resized
    exact ⟨_, _, bind_eq_ok.mpr ⟨epochState, Account.load_eq_ok_iff.mpr loaded,
      bind_eq_ok.mpr ⟨_, resized, rfl⟩⟩, rfl, .inl ⟨_, rfl⟩⟩

/-- So many reallocs are enough. -/
theorem reallocBaseRewardRouter_all (runtime : Runtime) (context : Context) (bump count : ℕ)
    {accounts : EpochAccounts} {epochState : EpochState}
    (loaded : accounts.epochState = .ready epochState)
    (there : (∃ router, accounts.baseRewardRouter = .ready router) ∨
      ∃ dataLen, accounts.baseRewardRouter = .allocated dataLen ∧ dataLen < BaseRewardRouter.size ∧
        BaseRewardRouter.size ≤ dataLen + count * maxReallocBytes) :
    ∃ last router, run (process runtime)
        ((List.replicate count (.reallocBaseRewardRouter bump)).map (context, ·)) accounts =
          .ok last ∧ last.baseRewardRouter = .ready router := by
  induction count generalizing accounts epochState with
  | zero =>
    rcases there with ⟨router, ready⟩ | ⟨dataLen, -, short, reached⟩
    · exact ⟨accounts, router, rfl, ready⟩
    · omega
  | succ count ih =>
    have unfinished : (∃ router, accounts.baseRewardRouter = .ready router) ∨
        ∃ dataLen, accounts.baseRewardRouter = .allocated dataLen ∧
          dataLen < BaseRewardRouter.size := by
      rcases there with ready | ⟨dataLen, allocated, short, -⟩
      · exact .inl ready
      · exact .inr ⟨dataLen, allocated, short⟩
    obtain ⟨next, after, processed, still, reaches⟩ :=
      @reallocBaseRewardRouter_step runtime accounts context epochState loaded bump unfinished
    have rest : ∃ last router, run (process runtime)
        ((List.replicate count (.reallocBaseRewardRouter bump)).map (context, ·)) next = .ok last ∧
          last.baseRewardRouter = .ready router := by
      refine ih still ?_
      rcases reaches with ready | ⟨dataLen, allocated, grown, short⟩
      · exact .inl ready
      · rcases there with ⟨router, ready⟩ | ⟨_, same, -, enough⟩
        · cases ready.symm.trans allocated
        · cases same.symm.trans allocated
          refine .inr ⟨_, grown, short, ?_⟩
          rw [Nat.succ_mul] at enough
          omega
    obtain ⟨last, router, ran, ready⟩ := rest
    refine ⟨last, router, ?_, ready⟩
    rw [List.replicate_succ, List.map_cons, run_cons, processed, ok_bind, ran]

theorem numReallocs_baseRewardRouter : BaseRewardRouter.size ≤
    maxReallocBytes + numReallocs BaseRewardRouter.size * maxReallocBytes := by
  decide

end EpochAccounts

namespace CliHandler

variable {handler : CliHandler} {indexOf : Pubkey → ℕ} {since : ℕ} {condition : EpochState → Prop}
variable {accounts : EpochAccounts}

/-- The base router is there or was. -/
def Routed (epochState : EpochState) : Prop := epochState.statusAt .baseRewardRouter ≠ .dne

/-- No account was closed yet, and the receiver of the base router can take its rent. -/
def Opening (handler : CliHandler) (indexOf : Pubkey → ℕ) (since : ℕ) (chain : Chain) : Prop :=
  handler.DueAt indexOf since (fun epochState => epochState.isClosing = false) chain ∧
    chain.accounts.baseRewardReceiver + handler.runtime.rentCost < 2 ^ 64

theorem Due.reached (due : handler.Due indexOf since condition accounts) :
    ∃ epochState, accounts.epochState = .ready epochState ∧ condition epochState ∧
      epochState.isConsensusReached = true := by
  obtain ⟨epochState, loaded, holds, closable⟩ := due.ready
  obtain ⟨daoWallet, now⟩ := closable since le_rfl
  exact ⟨epochState, loaded, holds,
    (EpochState.canCloseEpochAccounts_eq_ok_true_iff.mp now.late).1⟩

/-- Without its snapshot there would be no consensus. -/
theorem Due.snapshot_ready
    (due : handler.Due indexOf since (fun epochState => epochState.isClosing = false) accounts) :
    ∃ epochSnapshot, accounts.epochSnapshot = .ready epochSnapshot := by
  obtain ⟨epochState, loaded, open_, reached⟩ := due.reached
  have tracked := (due.tended.regular.mirrored.opened epochState loaded).snapshots.tracked
  have made := ((due.tended.regular.registered epochState loaded).decided reached).1.1
  cases account : accounts.epochSnapshot with
  | ready epochSnapshot => exact ⟨epochSnapshot, rfl⟩
  | missing =>
    rw [account] at tracked
    rcases tracked with absent | ⟨-, closing⟩
    · exact absurd absent made
    · cases open_.symm.trans closing
  | allocated dataLen =>
    rw [account] at tracked
    exact absurd tracked made

section Reading

variable {α : Type} {pre failed : Chain → Prop} {read : EpochAccounts → Account α}

theorem getAccount_of_ready
    (there : ∀ chain, pre chain → ∃ data, read chain.accounts = .ready data) :
    Triple pre (Cli.getAccount read)
      (fun data chain => pre chain ∧ read chain.accounts = .ready data) failed := by
  refine Triple.get_bind fun chain here => ?_
  obtain ⟨data, ready⟩ := there chain here
  rw [ready]
  exact ⟨here, ready⟩

theorem checkCreated_of_ready
    (there : ∀ chain, pre chain → ∃ data, read chain.accounts = .ready data) :
    Triple pre (Cli.checkCreated read) (fun _ => pre) failed := by
  refine Triple.get_bind fun chain here => ?_
  obtain ⟨data, ready⟩ := there chain here
  rw [ready]
  exact here

/-- What is there is not made. -/
theorem getOrCreate_of_ready {size : ℕ} {create : Cli Unit}
    (there : ∀ chain, pre chain → ∃ data, read chain.accounts = .ready data) :
    Triple pre (Cli.getOrCreate read size create)
      (fun data chain => pre chain ∧ read chain.accounts = .ready data) failed := by
  refine Triple.get_bind fun chain here => ?_
  obtain ⟨data, ready⟩ := there chain here
  have whole : (read chain.accounts).isShort size = false := by
    rw [ready]
    rfl
  rw [whole, if_neg Bool.false_ne_true]
  exact getAccount_of_ready there chain here

/-- What is not whole is made, and is there then. -/
theorem getOrCreate_of_short {size : ℕ} {create : Cli Unit} {made : Chain → Prop}
    (short : ∀ chain, pre chain → (read chain.accounts).isShort size = true)
    (creates : Triple pre create
      (fun _ chain => made chain ∧ ∃ data, read chain.accounts = .ready data) failed) :
    Triple pre (Cli.getOrCreate read size create)
      (fun data chain => made chain ∧ read chain.accounts = .ready data) failed := by
  refine Triple.get_bind fun chain here => ?_
  rw [short chain here, if_pos rfl]
  refine Triple.bind creates (fun _ => ?_) chain here
  refine Triple.bind (checkCreated_of_ready fun _ here => here.2) fun _ => ?_
  exact (getAccount_of_ready fun _ here => here.2).ending (fun _ _ here => ⟨here.1.1, here.2⟩) fun _ here => here

end Reading

/-- A transaction that goes through. -/
theorem sendAndLogTransaction_succeeds {pre failed : Chain → Prop}
    {instructions : List EpochInstruction}
    (works : ∀ chain, pre chain → ∃ last, run (EpochAccounts.process handler.runtime)
      (instructions.map (handler.context chain.transactions, ·)) chain.accounts = .ok last) :
    Triple pre (handler.sendAndLogTransaction instructions)
      (fun _ chain => ∃ before, pre before ∧ chain.transactions = before.transactions + 1 ∧
        run (EpochAccounts.process handler.runtime)
          (instructions.map (handler.context before.transactions, ·)) before.accounts =
            .ok chain.accounts) failed := by
  refine (handler.sendAndLogTransaction_triple instructions).ending (fun _ _ here => here) ?_
  rintro _ ⟨before, failure, here, -, refused⟩
  obtain ⟨last, ran⟩ := works before here
  cases refused.symm.trans ran

section Making

variable (distinct : Function.Injective indexOf)
include distinct

/-- A base router that was begun is finished in one transaction. -/
theorem finishBaseRewardRouter_makes {failed : Chain → Prop} :
    Triple (fun chain => handler.DueAt indexOf since (fun epochState => epochState.isClosing = false)
        chain ∧ ∃ dataLen, chain.accounts.baseRewardRouter = .allocated dataLen)
      (handler.sendAndLogTransaction (List.replicate (numReallocs BaseRewardRouter.size)
        (.reallocBaseRewardRouter (handler.bump .baseRewardRouter))))
      (fun _ chain => handler.DueAt indexOf since (fun epochState => epochState.isClosing = false)
        chain ∧ ∃ router, chain.accounts.baseRewardRouter = .ready router) failed := by
  have finishes : ∀ (chain : Chain) dataLen, handler.DueAt indexOf since
      (fun epochState => epochState.isClosing = false) chain →
      chain.accounts.baseRewardRouter = .allocated dataLen →
      ∃ last router, run (EpochAccounts.process handler.runtime)
        ((List.replicate (numReallocs BaseRewardRouter.size)
          (.reallocBaseRewardRouter (handler.bump .baseRewardRouter))).map
            (handler.context chain.transactions, ·)) chain.accounts = .ok last ∧
        last.baseRewardRouter = .ready router := by
    intro chain dataLen due allocated
    obtain ⟨epochState, loaded, -⟩ := due.2.ready
    obtain ⟨large, short⟩ := due.2.tended.present.short .baseRewardRouter dataLen
      (congrArg Account.status allocated)
    refine EpochAccounts.reallocBaseRewardRouter_all _ _ _ _ loaded
      (.inr ⟨dataLen, allocated, short, ?_⟩)
    have enough := EpochAccounts.numReallocs_baseRewardRouter
    omega
  refine (sendAndLogTransaction_succeeds ?_).ending ?_ (fun _ here => here)
  · rintro chain ⟨due, dataLen, allocated⟩
    obtain ⟨last, router, ran, -⟩ := finishes chain dataLen due allocated
    exact ⟨last, ran⟩
  · rintro _ chain ⟨before, ⟨due, dataLen, allocated⟩, counted, ran⟩
    obtain ⟨last, router, ranLast, ready⟩ := finishes before dataLen due allocated
    cases ran.symm.trans ranLast
    have reached := due.1
    have later := due.2.run distinct (.isClosing false) (goesOn_reallocs _ _) ran
    exact ⟨⟨by omega, later⟩, router, ready⟩

theorem initializeBaseRewardRouter_makes {failed : Chain → Prop} :
    Triple (fun chain => handler.Opening indexOf since chain ∧
        chain.accounts.baseRewardRouter = .missing)
      (handler.sendAndLogTransaction [.initializeBaseRewardRouter])
      (fun _ chain => handler.DueAt indexOf since (fun epochState => epochState.isClosing = false)
        chain ∧ ∃ dataLen, chain.accounts.baseRewardRouter = .allocated dataLen) failed := by
  have works : ∀ chain, handler.Opening indexOf since chain →
      chain.accounts.baseRewardRouter = .missing →
      chain.accounts.process handler.runtime (handler.context chain.transactions,
        .initializeBaseRewardRouter) = .ok { chain.accounts with
          baseRewardRouter := .allocated maxReallocBytes
          baseRewardReceiver := chain.accounts.baseRewardReceiver + handler.runtime.rentCost } := by
    rintro chain ⟨due, fits⟩ missing
    obtain ⟨epochState, loaded, open_, -⟩ := due.2.ready
    exact EpochAccounts.initializeBaseRewardRouter_of_missing loaded open_
      (due.2.tended.regular.unmarked loaded) missing fits
  refine (sendAndLogTransaction_succeeds ?_).ending ?_ (fun _ here => here)
  · rintro chain ⟨opening, missing⟩
    exact ⟨_, run_singleton.trans (works chain opening missing)⟩
  · rintro _ chain ⟨before, ⟨opening, missing⟩, counted, ran⟩
    have reached := opening.1.1
    have goesOn : EpochInstruction.GoesOn indexOf handler.operators .initializeBaseRewardRouter :=
      ⟨trivial, trivial, by rintro _ _ _ ⟨⟩⟩
    have due := opening.1.2.run distinct (.isClosing false)
      (List.forall_mem_singleton.mpr goesOn) ran
    refine ⟨⟨by omega, due⟩, maxReallocBytes, ?_⟩
    have same := (works before opening missing).symm.trans (run_singleton.symm.trans ran)
    rw [← Except.ok.inj same]

theorem createBaseRewardRouter_makes {failed : Chain → Prop} :
    Triple (fun chain => handler.Opening indexOf since chain ∧
        ∀ router, chain.accounts.baseRewardRouter ≠ .ready router) handler.createBaseRewardRouter
      (fun _ chain => handler.DueAt indexOf since (fun epochState => epochState.isClosing = false)
        chain ∧ ∃ router, chain.accounts.baseRewardRouter = .ready router) failed := by
  refine Triple.get_bind fun chain here => ?_
  obtain ⟨opening, unfinished⟩ := here
  cases account : chain.accounts.baseRewardRouter with
  | ready router => exact absurd account (unfinished router)
  | missing =>
    exact Triple.bind (initializeBaseRewardRouter_makes distinct)
      (fun _ => finishBaseRewardRouter_makes distinct) chain ⟨opening, account⟩
  | allocated dataLen =>
    exact finishBaseRewardRouter_makes distinct chain ⟨opening.1, dataLen, account⟩

/-- A base router that is missing, begun or there is there in the end. -/
theorem getOrCreateBaseRewardRouter_makes {failed : Chain → Prop} :
    Triple (handler.Opening indexOf since) handler.getOrCreateBaseRewardRouter
      (fun router chain => handler.DueAt indexOf since (fun epochState => epochState.isClosing = false)
        chain ∧ chain.accounts.baseRewardRouter = .ready router) failed := by
  intro chain opening
  by_cases there : ∃ router, chain.accounts.baseRewardRouter = .ready router
  · have found : Triple (fun chain => handler.Opening indexOf since chain ∧
        ∃ router, chain.accounts.baseRewardRouter = .ready router)
        handler.getOrCreateBaseRewardRouter (fun router chain => (handler.Opening indexOf since chain ∧
          ∃ router, chain.accounts.baseRewardRouter = .ready router) ∧
            chain.accounts.baseRewardRouter = .ready router) failed :=
      getOrCreate_of_ready fun _ here => here.2
    exact (found chain ⟨opening, there⟩).mono (fun _ _ here => ⟨here.1.1.1, here.2⟩)
      fun _ here => here
  · refine getOrCreate_of_short (fun chain here => ?_) (createBaseRewardRouter_makes distinct) chain
      ⟨opening, not_exists.mp there⟩
    obtain ⟨opening, unfinished⟩ := here
    cases account : chain.accounts.baseRewardRouter with
    | ready router => exact absurd account (unfinished router)
    | missing => rfl
    | allocated dataLen =>
      have present := opening.1.2.tended.present
      exact decide_eq_true (present.short .baseRewardRouter dataLen
        (congrArg Account.status account)).2

/-- The distribution makes the base router, if nothing was closed before. -/
theorem crankDistribute_opens {fuel : ℕ} (enough : 2050 ≤ fuel) :
    Triple (handler.Opening indexOf since) (handler.crankDistribute fuel)
      (fun _ => handler.DueAt indexOf since Routed) (handler.DueAt indexOf since Routed) := by
  refine Triple.bind (getOrCreate_of_ready fun chain opening => opening.1.2.snapshot_ready)
    fun epochSnapshot => ?_
  refine Triple.bind ((getOrCreateBaseRewardRouter_makes distinct).starting fun _ here => here.1) fun baseRewardRouter => ?_
  have routed : ∀ chain, handler.DueAt indexOf since (fun epochState =>
      epochState.isClosing = false ∧ epochState.statusAt .baseRewardRouter = .createdWithReceiver)
        chain → handler.DueAt indexOf since Routed chain := by
    rintro chain ⟨reached, due⟩
    refine ⟨reached, due.mono fun epochState here absent => ?_⟩
    cases here.2.symm.trans absent
  exact (distributeAll_keeps distinct (.isClosing false) enough epochSnapshot.fees
    baseRewardRouter).ending (fun _ => routed) routed

end Making

end CliHandler

/-! ## Closing what is left -/

namespace EpochAccounts

variable {runtime : Runtime} {indexOf : Pubkey → ℕ} {accounts : EpochAccounts}
variable {epochState : EpochState}

/-- The accounts as the first closing finds them, apart from the flag that it sets. -/
theorem Regular.closing (regular : accounts.Regular indexOf) (funded : accounts.Funded runtime)
    (loaded : accounts.epochState = .ready epochState)
    (reached : epochState.isConsensusReached = true)
    (routed : epochState.statusAt .baseRewardRouter ≠ .dne) :
    ({ accounts with epochState := .ready epochState.setIsClosing } : EpochAccounts).Closing runtime
      indexOf epochState.setIsClosing where
  loaded := rfl
  regular := by
    refine ⟨⟨fun marked => ?_, fun _ absent => absurd rfl (absent _), ?_⟩, ?_⟩
    · cases (regular.unmarked loaded).symm.trans marked
    · rintro _ ⟨⟩
      exact { (regular.mirrored.opened epochState loaded).setClosing with }
    · rintro _ ⟨⟩
      exact { (regular.registered epochState loaded).setClosing reached with }
  funded := { funded with }
  isClosing := rfl
  routed := routed

/-- Only a router is closed together with a receiver. -/
theorem closeAccount_withReceiver {accountToClose : AccountToClose} {withReceiver : Bool}
    (receiver : accountToClose.account.isRouter = true → withReceiver = true) :
    accounts.closeAccount runtime epochState withReceiver accountToClose =
      accounts.closeAccount runtime epochState true accountToClose := by
  cases accountToClose with
  | baseRewardRouter => rw [receiver rfl]
  | ncnRewardRouter operator group => rw [receiver rfl]
  | _ => rfl

end EpochAccounts

namespace CliHandler

variable {handler : CliHandler} {indexOf : Pubkey → ℕ} {since : ℕ} {condition : EpochState → Prop}
variable {accounts next : EpochAccounts} {context : Context} {epochState : EpochState}
variable {account : AccountToClose} {withReceiver : Bool} {done : List AccountToClose}

/-- These accounts are closed or were never made. -/
def Settling (indexOf : Pubkey → ℕ) (done : List AccountToClose) (epochState : EpochState) : Prop :=
  Routed epochState ∧ ∀ account ∈ done, epochState.Settled (account.slot indexOf)

/-- An entry that is not settled is that of an account which is there. -/
theorem Due.exists_filled (due : handler.Due indexOf since Routed accounts)
    (loaded : accounts.epochState = .ready epochState) {slot : StatusSlot}
    (unsettled : ¬ epochState.Settled slot) :
    ∃ account : AccountToClose, account.IsOwn ∧ account.slot indexOf = slot ∧
      account ≠ .epochState ∧ accounts.IsFilled account := by
  obtain ⟨found, same, routed, reached⟩ := due.reached
  cases same.symm.trans loaded
  have closing := due.tended.regular.closing due.tended.funded loaded reached routed
  have stillUnsettled : ¬ epochState.setIsClosing.Settled slot :=
    fun settled => unsettled (settled.congr rfl)
  obtain ⟨account, own, here, notEpochState, filled⟩ := closing.exists_filled stillUnsettled
  refine ⟨account, own, here, notEpochState, ?_⟩
  cases account with
  | epochState => exact absurd rfl notEpochState
  | _ => exact filled

theorem Due.filled (due : handler.Due indexOf since Routed accounts)
    (distinct : Function.Injective indexOf) (loaded : accounts.epochState = .ready epochState)
    (own : account.IsOwn) (unsettled : ¬ epochState.Settled (account.slot indexOf)) :
    accounts.IsFilled account := by
  obtain ⟨other, otherOwn, same, -, filled⟩ := due.exists_filled loaded unsettled
  obtain rfl := AccountToClose.slot_injOn distinct otherOwn own same
  exact filled

/-- As long as its entry is not settled an account can be closed. -/
theorem Due.closes (due : handler.Due indexOf since Routed accounts)
    (distinct : Function.Injective indexOf) (loaded : accounts.epochState = .ready epochState)
    (own : account.IsOwn) (notEpochState : account ≠ .epochState)
    (receiver : account.account.isRouter = true → withReceiver = true) {daoWallet : Pubkey}
    (closable : EpochAccounts.ClosableIn handler.runtime epochState context daoWallet)
    (unsettled : ¬ epochState.Settled (account.slot indexOf)) :
    ∃ next, accounts.process handler.runtime
      (context, .closeEpochAccount account daoWallet withReceiver) = .ok next := by
  have filled := due.filled distinct loaded own unsettled
  have regular := due.tended.regular
  have mirror := (regular.mirrored.opened epochState loaded).setClosing
  obtain ⟨next, after, closed, -⟩ :=
    EpochAccounts.closeAccount_of_filled mirror due.tended.funded own notEpochState filled
  refine ⟨next, (EpochAccounts.processCloseEpochAccount_eq loaded (regular.unmarked loaded)
    (EpochAccounts.dataIsEmpty_of_filled filled) closable.wallet closable.late).trans ?_⟩
  rw [EpochAccounts.closeAccount_withReceiver receiver, closed]

/-- What is closed is settled, and what was settled stays so. -/
theorem Due.close (due : handler.Due indexOf since (Settling indexOf done) accounts)
    (distinct : Function.Injective indexOf) (notEpochState : account ≠ .epochState)
    {daoWallet : Pubkey} (closed : accounts.process handler.runtime
      (context, .closeEpochAccount account daoWallet withReceiver) = .ok next) :
    handler.Due indexOf since (Settling indexOf (done ++ [account])) next := by
  obtain ⟨epochState, loaded, ⟨routed, settled⟩, closable⟩ := due.ready
  have indexed : EpochInstruction.Indexed indexOf
      (.closeEpochAccount account daoWallet withReceiver) := trivial
  have effect := EpochAccounts.process_effect closed
  obtain ⟨found, same, -, -, -, close⟩ := EpochAccounts.processCloseEpochAccount_eq_ok closed
  cases same.symm.trans loaded
  have mirrored := due.tended.regular.mirrored
  refine ⟨due.tended.process distinct indexed trivial closed, ?_⟩
  rcases EpochAccounts.closeAccount_eq_ok close with ⟨other, -⟩ | ⟨-, after, still, -⟩
  · exact absurd other notEpochState
  obtain ⟨-, statuses⟩ :=
    (mirrored.opened epochState loaded).setClosing.statusClosed close still
  rw [EpochState.setIsClosing_statusAt] at statuses
  refine ⟨after, still, ⟨EpochState.made_of_close routed statuses, ?_⟩, fun n reached => ?_⟩
  · refine List.forall_mem_append.mpr
      ⟨fun other member => (settled other member).close statuses, ?_⟩
    refine List.forall_mem_singleton.mpr (EpochState.settled_of_closed ?_)
    rw [statuses, Function.update_self]
  · obtain ⟨wallet, now⟩ := closable n reached
    exact ⟨wallet, now.advances (mirrored.advances distinct indexed loaded still effect)⟩

/-- With its entry settled already nothing needs to be closed any more. -/
theorem Due.settled (due : handler.Due indexOf since (Settling indexOf done) accounts)
    (settled : ∀ epochState, accounts.epochState = .ready epochState →
      epochState.Settled (account.slot indexOf)) :
    handler.Due indexOf since (Settling indexOf (done ++ [account])) accounts := by
  obtain ⟨epochState, loaded, ⟨routed, others⟩, closable⟩ := due.ready
  refine ⟨due.tended, epochState, loaded, ⟨routed, ?_⟩, closable⟩
  exact List.forall_mem_append.mpr
    ⟨others, List.forall_mem_singleton.mpr (settled epochState loaded)⟩

/-- What is there is closed by one transaction, for the wallet of the DAO. -/
theorem closeEpochAccount_eq {chain : Chain} {daoWallet : Pubkey}
    (there : chain.accounts.dataIsEmpty account = false)
    (wallet : (handler.context chain.transactions).config.feeConfig.baseFeeWallet .dao =
      .ok daoWallet) :
    handler.closeEpochAccount account withReceiver chain =
      handler.sendAndLogTransaction [.closeEpochAccount account daoWallet withReceiver] chain := by
  change (if chain.accounts.dataIsEmpty account then (pure () : Cli Unit) else do
    let config ← handler.getTipRouterConfig
    let daoWallet ← Cli.lift (config.feeConfig.baseFeeWallet .dao)
    handler.sendAndLogTransaction [.closeEpochAccount account daoWallet withReceiver]) chain = _
  rw [there, if_neg Bool.false_ne_true]
  change (do
    let daoWallet ← Cli.lift
      ((handler.context chain.transactions).config.feeConfig.baseFeeWallet .dao)
    handler.sendAndLogTransaction
      [.closeEpochAccount account daoWallet withReceiver] : Cli Unit) chain = _
  rw [wallet]
  rfl

theorem closeEpochAccount_skips {chain : Chain}
    (empty : chain.accounts.dataIsEmpty account = true) :
    handler.closeEpochAccount account withReceiver chain = (.ok (), chain) := by
  change (if chain.accounts.dataIsEmpty account then (pure () : Cli Unit) else do
    let config ← handler.getTipRouterConfig
    let daoWallet ← Cli.lift (config.feeConfig.baseFeeWallet .dao)
    handler.sendAndLogTransaction [.closeEpochAccount account daoWallet withReceiver]) chain = _
  rw [empty, if_pos rfl]
  rfl

/-- After its turn an account is settled, whether it was closed or not. -/
theorem closeEpochAccount_settles (distinct : Function.Injective indexOf) (own : account.IsOwn)
    (notEpochState : account ≠ .epochState)
    (receiver : account.account.isRouter = true → withReceiver = true) :
    Triple (handler.DueAt indexOf since (Settling indexOf done))
      (handler.closeEpochAccount account withReceiver)
      (fun _ => handler.DueAt indexOf since (Settling indexOf (done ++ [account])))
      (handler.DueAt indexOf since (Settling indexOf (done ++ [account]))) := by
  rintro chain ⟨reached, due⟩
  have routed := due.mono fun epochState here => And.left here
  cases empty : chain.accounts.dataIsEmpty account with
  | true =>
    rw [closeEpochAccount_skips empty]
    refine ⟨reached, due.settled fun epochState loaded => ?_⟩
    by_contra unsettled
    have filled := routed.filled distinct loaded own unsettled
    cases empty.symm.trans (EpochAccounts.dataIsEmpty_of_filled filled)
  | false =>
    obtain ⟨epochState, loaded, -, closable⟩ := due.ready
    obtain ⟨daoWallet, now⟩ := closable chain.transactions reached
    rw [closeEpochAccount_eq empty now.wallet]
    refine (handler.sendAndLogTransaction_triple _ chain rfl).mono ?_ ?_
    · rintro _ after ⟨_, rfl, counted, ran⟩
      exact ⟨by omega, due.close distinct notEpochState (run_singleton.symm.trans ran)⟩
    · rintro _ ⟨_, failure, rfl, rfl, refused⟩
      refine ⟨Nat.le_succ_of_le reached, due.settled fun found same => ?_⟩
      cases loaded.symm.trans same
      by_contra unsettled
      obtain ⟨next, closed⟩ :=
        routed.closes distinct loaded own notEpochState receiver now unsettled
      cases closed.symm.trans (run_singleton.symm.trans refused)

/-- All of the accounts but the epoch state, in the order in which they are closed. -/
def accountsBefore (handler : CliHandler) : List (AccountToClose × Bool) :=
  handler.operators.flatMap (fun operator =>
      NcnFeeGroup.allGroups.map fun group => (.ncnRewardRouter operator group, true)) ++
    [(.baseRewardRouter, true), (.ballotBox, false)] ++
    handler.operators.map (fun operator => (.operatorSnapshot operator, false)) ++
    [(.epochSnapshot, false), (.weightTable, false)]

theorem accountsToClose_eq :
    handler.accountsToClose = handler.accountsBefore ++ [(.epochState, false)] := by
  rw [accountsToClose, accountsBefore, List.append_assoc _ [_, _] [_]]
  rfl

theorem mem_accountsBefore (member : (account, withReceiver) ∈ handler.accountsBefore) :
    account.IsOwn ∧ account ≠ .epochState ∧
      (account.account.isRouter = true → withReceiver = true) := by
  simp only [accountsBefore, List.mem_append, List.mem_flatMap, List.mem_map, List.mem_cons,
    List.not_mem_nil, or_false, Prod.mk.injEq] at member
  rcases member with ((⟨operator, -, group, valid, rfl, rfl⟩ | ⟨rfl, rfl⟩ | ⟨rfl, rfl⟩) |
    ⟨operator, -, rfl, rfl⟩) | ⟨rfl, rfl⟩ | ⟨rfl, rfl⟩
  · exact ⟨NcnFeeGroup.mem_allGroups_iff.mp valid, by rintro ⟨⟩, fun _ => rfl⟩
  · exact ⟨trivial, by rintro ⟨⟩, fun _ => rfl⟩
  · exact ⟨trivial, by rintro ⟨⟩, by rintro ⟨⟩⟩
  · exact ⟨trivial, by rintro ⟨⟩, by rintro ⟨⟩⟩
  · exact ⟨trivial, by rintro ⟨⟩, by rintro ⟨⟩⟩
  · exact ⟨trivial, by rintro ⟨⟩, by rintro ⟨⟩⟩

/-- What is there has its turn. -/
theorem Due.mem_accountsBefore (due : handler.Due indexOf since condition accounts)
    (own : account.IsOwn) (notEpochState : account ≠ .epochState)
    (filled : accounts.IsFilled account) :
    account ∈ handler.accountsBefore.map Prod.fst := by
  have there : accounts.status account.account ≠ .missing := by
    intro missing
    cases account with
    | otherEpochState => exact own.elim
    | _ =>
      obtain ⟨data, ready⟩ := filled
      cases (Account.status_eq_missing_iff.mp missing).symm.trans ready
  have listed := due.tended.present.listed _ there
  rw [List.mem_map]
  simp only [accountsBefore, List.mem_append, List.mem_flatMap, List.mem_map, List.mem_cons,
    List.not_mem_nil, or_false]
  cases account with
  | epochState => exact absurd rfl notEpochState
  | otherEpochState => exact own.elim
  | weightTable => exact ⟨_, .inr (.inr rfl), rfl⟩
  | epochSnapshot => exact ⟨_, .inr (.inl rfl), rfl⟩
  | operatorSnapshot operator => exact ⟨_, .inl (.inr ⟨operator, listed, rfl⟩), rfl⟩
  | ballotBox => exact ⟨_, .inl (.inl (.inr (.inr rfl))), rfl⟩
  | baseRewardRouter => exact ⟨_, .inl (.inl (.inr (.inl rfl))), rfl⟩
  | ncnRewardRouter operator group =>
    exact ⟨_, .inl (.inl (.inl
      ⟨operator, listed, group, NcnFeeGroup.mem_allGroups_iff.mpr own, rfl⟩)), rfl⟩

/-- When all of them had their turn the epoch state is the last. -/
theorem Due.allSettled (due : handler.Due indexOf since
      (Settling indexOf (handler.accountsBefore.map Prod.fst)) accounts) :
    ∃ epochState, accounts.epochState = .ready epochState ∧
      epochState.isConsensusReached = true ∧ ∀ slot, epochState.Settled slot := by
  obtain ⟨epochState, loaded, ⟨routed, settled⟩, reached⟩ := due.reached
  refine ⟨epochState, loaded, reached, fun slot => ?_⟩
  by_contra unsettled
  have here := due.mono fun epochState here => And.left here
  obtain ⟨account, own, rfl, notEpochState, filled⟩ := here.exists_filled loaded unsettled
  exact unsettled (settled account (due.mem_accountsBefore own notEpochState filled))

/-- Nothing is left of the epoch but its marker. -/
def Finished (accounts : EpochAccounts) : Prop :=
  accounts.Gone ∧ accounts.Unopened

theorem closeEpochState_finishes {failed : Chain → Prop} :
    Triple (handler.DueAt indexOf since
        (Settling indexOf (handler.accountsBefore.map Prod.fst)))
      (handler.closeEpochAccount .epochState false)
      (fun _ chain => Finished chain.accounts) failed := by
  rintro chain ⟨reached, due⟩
  obtain ⟨epochState, loaded, consensus, settled⟩ := due.allSettled
  obtain ⟨found, same, -, closable⟩ := due.ready
  cases same.symm.trans loaded
  obtain ⟨daoWallet, now⟩ := closable chain.transactions reached
  have there : chain.accounts.dataIsEmpty .epochState = false := by
    rw [EpochAccounts.dataIsEmpty, loaded]
    rfl
  have regular := due.tended.regular
  have mirror := regular.mirrored.opened epochState loaded
  have allowed : epochState.setIsClosing.loadToClose chain.accounts.ncn chain.accounts.epoch =
      .ok () := by
    obtain ⟨sameNcn, sameEpoch⟩ := Prod.mk.inj (due.tended.named epochState loaded)
    rw [← sameNcn, ← sameEpoch]
    have allClosed : epochState.setIsClosing.accountStatus.areAllClosed = true :=
      EpochState.areAllClosed_iff.mpr fun slot => (settled slot).congr rfl
    exact EpochState.loadToClose_eq_ok allClosed
  have closed : chain.accounts.process handler.runtime (handler.context chain.transactions,
      .closeEpochAccount .epochState daoWallet false) = .ok { chain.accounts with
        epochState := .missing
        epochMarker := true } := by
    refine (EpochAccounts.processCloseEpochAccount_eq loaded (regular.unmarked loaded) there
      now.wallet now.late).trans ?_
    exact bind_eq_ok.mpr ⟨(), lift_eq_ok_iff.mpr allowed, rfl⟩
  rw [closeEpochAccount_eq there now.wallet]
  have unopened := mirror.unopened (regular.registered epochState loaded) consensus settled
  refine (handler.sendAndLogTransaction_triple _ chain rfl).mono ?_ ?_
  · rintro _ after ⟨_, rfl, counted, ran⟩
    have same := closed.symm.trans (run_singleton.symm.trans ran)
    rw [← Except.ok.inj same]
    exact ⟨⟨rfl, rfl⟩, { unopened with }⟩
  · rintro _ ⟨_, failure, rfl, rfl, refused⟩
    cases closed.symm.trans (run_singleton.symm.trans refused)

/-- Closing an account sends a transaction or nothing; neither panics. -/
theorem closeEpochAccount_ends :
    Keeps (fun _ : Chain => True) (handler.closeEpochAccount account withReceiver) := by
  refine Triple.get_bind fun chain _ => ?_
  split
  · trivial
  · refine Keeps.bind handler.getTipRouterConfig_keeps (fun config => ?_) chain trivial
    refine Keeps.bind (Cli.lift_keeps _) fun daoWallet => ?_
    exact (handler.sendAndLogTransaction_triple _).ending (fun _ _ _ => trivial) fun _ _ => trivial

/-- From a due epoch the crank returns, with a base router or without. -/
theorem crankCloseEpochAccounts_ends (distinct : Function.Injective indexOf) {fuel : ℕ}
    (enough : 2050 ≤ fuel) {failed : Chain → Prop} :
    Triple (handler.DueAt indexOf since fun _ => True) (handler.crankCloseEpochAccounts fuel)
      (fun _ _ => True) failed := by
  have distributes : Keeps (handler.DueAt indexOf since fun _ => True)
      (handler.crankDistribute fuel) :=
    crankDistribute_keeps distinct (fun _ _ _ here => here) enough
  refine Triple.bind (Triple.logged distributes) fun _ => ?_
  have closes : Triple (fun _ : Chain => True)
      (Client.forEach (fun item => Client.logged (handler.closeEpochAccount item.1 item.2))
        handler.accountsToClose) (fun _ _ => True) failed :=
    @Triple.forEach _ _ _ failed _ (fun _ _ => True) _
      (fun _ _ _ => Triple.logged closeEpochAccount_ends) []
  exact closes.starting fun _ _ => trivial

/-- From a due epoch with a base router, or one that can still be made, the crank returns
and leaves the epoch finished. -/
theorem crankCloseEpochAccounts_finishes (distinct : Function.Injective indexOf) {fuel : ℕ}
    (enough : 2050 ≤ fuel) {failed : Chain → Prop} :
    Triple (fun chain => handler.Opening indexOf since chain ∨
        handler.DueAt indexOf since Routed chain)
      (handler.crankCloseEpochAccounts fuel) (fun _ chain => Finished chain.accounts) failed := by
  have distributes : Triple (fun chain => handler.Opening indexOf since chain ∨
      handler.DueAt indexOf since Routed chain) (handler.crankDistribute fuel)
      (fun _ => handler.DueAt indexOf since Routed) (handler.DueAt indexOf since Routed) := by
    rintro chain (opening | due)
    · exact crankDistribute_opens distinct enough chain opening
    · exact crankDistribute_keeps distinct (.made .baseRewardRouter) enough chain due
  refine Triple.bind (Triple.logged distributes) fun _ => ?_
  rw [accountsToClose_eq]
  have turns : ∀ past, ∀ item ∈ handler.accountsBefore,
      Triple (handler.DueAt indexOf since (Settling indexOf (past.map Prod.fst)))
        (Client.logged (handler.closeEpochAccount item.1 item.2))
        (fun _ => handler.DueAt indexOf since (Settling indexOf ((past ++ [item]).map Prod.fst)))
        failed := by
    rintro past ⟨account, withReceiver⟩ member
    obtain ⟨own, notEpochState, receiver⟩ := mem_accountsBefore member
    rw [List.map_append]
    exact Triple.logged (closeEpochAccount_settles distinct own notEpochState receiver)
  refine Triple.forEach_append ((Triple.forEach turns []).starting ?_) ?_
  · rintro chain ⟨reached, due⟩
    exact ⟨reached, due.mono fun epochState routed => ⟨routed, by simp⟩⟩
  · exact Triple.bind (Triple.logged closeEpochState_finishes) fun _ =>
      Triple.pure fun _ here => here

end CliHandler

/-! ## The epoch at its end -/

/-- In the last phase it is late enough to close. -/
theorem EpochState.canCloseEpochAccounts_of_currentState {epochState : EpochState}
    {getEpoch : ℕ → ℕ} {validSlotsAfterConsensus epochsAfterConsensusBeforeClose currentSlot : ℕ}
    (current : epochState.currentState getEpoch validSlotsAfterConsensus
      epochsAfterConsensusBeforeClose currentSlot = .ok .close) :
    epochState.canCloseEpochAccounts getEpoch epochsAfterConsensusBeforeClose currentSlot =
      .ok true := by
  unfold currentState at current
  split at current
  · cases current
  split at current
  · cases current
  split at current
  · cases current
  obtain ⟨canStart, -, current⟩ := bind_eq_ok.mp current
  split at current
  · cases current
  obtain ⟨canClose, closable, current⟩ := bind_eq_ok.mp current
  cases canClose with
  | true => exact closable
  | false => cases current

/-- The keeper's crank for the last phase of an epoch. From every state that the epoch's
instructions lead to, under one config and with slots that do not go back, its distribution
and its loops come to their end without a panic, whatever the program refuses. If moreover
the base router was made, or no account is closed yet and its receiver can take the rent,
then nothing is left of the epoch but the marker that keeps it from being opened again. -/
theorem close_crank_finishes_the_epoch (handler : CliHandler)
    (scheduled : Monotone handler.runtime.getEpoch)
    (inOrder : Monotone fun n => (handler.context n).clock.slot) {config : Config}
    (configured : ∀ n, (handler.context n).config = config) (ncn : Pubkey) (epoch : ℕ)
    {indexOf : Pubkey → ℕ} (distinct : Function.Injective indexOf)
    {history : List (Context × EpochInstruction)}
    (indexed : ∀ timed ∈ history, timed.2.Indexed indexOf)
    (listed : ∀ timed ∈ history, timed.2.ListedIn handler.operators) {accounts : EpochAccounts}
    (ran : run (EpochAccounts.process handler.runtime) history (EpochAccounts.absent ncn epoch) =
      .ok accounts)
    {epochState : EpochState} (loaded : accounts.epochState = .ready epochState)
    {transactions : ℕ}
    (current : epochState.currentState handler.runtime.getEpoch config.validSlotsAfterConsensus
      config.epochsAfterConsensusBeforeClose (handler.context transactions).clock.slot = .ok .close)
    {fuel : ℕ} (enough : 2050 ≤ fuel) :
    ∃ chain, handler.crankCloseEpochAccounts fuel ⟨accounts, transactions⟩ = (.ok (), chain) ∧
      ((epochState.statusAt .baseRewardRouter ≠ .dne ∨ epochState.isClosing = false ∧
          accounts.baseRewardReceiver + handler.runtime.rentCost < 2 ^ 64) →
        chain.accounts.epochMarker = true ∧ chain.accounts.epochState = .missing ∧
          chain.accounts.Unopened) := by
  have tended := EpochAccounts.run_tended distinct indexed listed ran
  have late := EpochState.canCloseEpochAccounts_of_currentState current
  obtain ⟨daoWallet, wallet⟩ : ∃ daoWallet, config.feeConfig.baseFeeWallet .dao = .ok daoWallet :=
    ⟨_, rfl⟩
  have closable : ∀ n, transactions ≤ n → ∃ daoWallet,
      EpochAccounts.ClosableIn handler.runtime epochState (handler.context n) daoWallet := by
    refine fun n reached => ⟨daoWallet, (configured n).symm ▸ wallet, ?_⟩
    rw [configured n]
    exact (EpochState.Advances.refl epochState).canCloseEpochAccounts scheduled (inOrder reached)
      late
  have due : handler.DueAt indexOf transactions (fun _ => True) ⟨accounts, transactions⟩ :=
    ⟨le_rfl, tended, epochState, loaded, trivial, closable⟩
  obtain ⟨_, chain, returned, -⟩ :=
    (CliHandler.crankCloseEpochAccounts_ends distinct enough).returns due
  refine ⟨chain, returned, fun routable => ?_⟩
  have start : handler.Opening indexOf transactions ⟨accounts, transactions⟩ ∨
      handler.DueAt indexOf transactions CliHandler.Routed ⟨accounts, transactions⟩ := by
    rcases routable with routed | ⟨open_, fits⟩
    · exact .inr ⟨le_rfl, tended, epochState, loaded, routed, closable⟩
    · exact .inl ⟨⟨le_rfl, tended, epochState, loaded, open_, closable⟩, fits⟩
  obtain ⟨_, last, finished, gone, unopened⟩ :=
    (CliHandler.crankCloseEpochAccounts_finishes distinct enough).returns start
  obtain rfl : chain = last := (Prod.mk.inj (returned.symm.trans finished)).2
  exact ⟨gone.1, gone.2, unopened⟩

/-- A client of the sample epoch, one slot for each transaction. -/
def sampleHandler : CliHandler where
  runtime := EpochAccounts.sampleRuntime
  context n := EpochAccounts.sampleContext (5184000 + n)
  operatorCount := 2
  operators := [EpochAccounts.firstOperator, EpochAccounts.secondOperator]
  bump _ := 255

theorem close_crank_finishes_sampleEpoch : ∃ accounts chain,
    run (EpochAccounts.process EpochAccounts.sampleRuntime) EpochAccounts.sampleEpoch
        (EpochAccounts.absent .default 0) = .ok accounts ∧
      sampleHandler.crankCloseEpochAccounts 2050 ⟨accounts, 0⟩ = (.ok (), chain) ∧
      chain.accounts.epochMarker = true ∧ chain.accounts.Unopened := by
  have runs : (do
      let accounts ← run (EpochAccounts.process EpochAccounts.sampleRuntime)
        EpochAccounts.sampleEpoch (EpochAccounts.absent .default 0)
      let epochState ← accounts.epochState.load
      return (accounts, epochState)).toOption.any (fun result : EpochAccounts × EpochState =>
        result.2.currentState EpochAccounts.sampleRuntime.getEpoch 1000 10 5184000 ==
            Except.ok EpochState.Phase.close &&
          result.2.accountStatus.baseRewardRouter == AccountStatus.createdWithReceiver) = true := by
    decide +kernel
  obtain ⟨⟨accounts, epochState⟩, all, outcome⟩ := exists_of_any runs
  obtain ⟨_, ran, all⟩ := bind_eq_ok.mp all
  obtain ⟨_, loaded, same⟩ := bind_eq_ok.mp all
  cases same
  simp only [Bool.and_eq_true, beq_iff_eq] at outcome
  have listed : ∀ timed ∈ EpochAccounts.sampleEpoch,
      timed.2.ListedIn sampleHandler.operators := by
    simp [EpochAccounts.sampleEpoch, EpochAccounts.epochWeighed, EpochAccounts.epochSnapshotted,
      EpochAccounts.epochVoted, EpochAccounts.epochRouted, EpochInstruction.ListedIn, sampleHandler]
  have routed : epochState.statusAt .baseRewardRouter ≠ .dne := by
    intro absent
    cases outcome.2.symm.trans absent
  have slots : ∀ n, (sampleHandler.context n).clock.slot = 5184000 + n := fun _ => rfl
  have configured : ∀ n,
      (sampleHandler.context n).config = (EpochAccounts.sampleContext 0).config := fun _ => rfl
  have inOrder : Monotone fun n => (sampleHandler.context n).clock.slot := by
    intro n later le
    dsimp only
    rw [slots, slots]
    exact Nat.add_le_add_left le 5184000
  have current : epochState.currentState sampleHandler.runtime.getEpoch
      (EpochAccounts.sampleContext 0).config.validSlotsAfterConsensus
      (EpochAccounts.sampleContext 0).config.epochsAfterConsensusBeforeClose
      (sampleHandler.context 0).clock.slot = .ok .close := by
    rw [slots, Nat.add_zero]
    exact outcome.1
  obtain ⟨chain, returned, finishes⟩ := close_crank_finishes_the_epoch sampleHandler
    (fun _ _ le => Nat.div_le_div_right le) inOrder configured .default 0
    EpochAccounts.sampleIndex_injective EpochAccounts.sampleEpoch_indexed listed ran
    (Account.load_eq_ok_iff.mp loaded) current (le_refl 2050)
  obtain ⟨marked, -, unopened⟩ := finishes (.inl routed)
  exact ⟨accounts, chain, ran, returned, marked, unopened⟩

end TipRouter
