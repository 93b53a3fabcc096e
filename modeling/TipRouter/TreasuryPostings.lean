import TipRouter.EpochWrites

/-! How the instructions post to the books of an epoch: the account payer pays for data
and for the rent of the receivers and takes back what a closed account held, and the
rewards go from receiver to receiver until they are deposited or left to the DAO. -/
namespace TipRouter
open Runs Ledgers

/-- The rewards that come in with an instruction. -/
def EpochInstruction.rewards : EpochInstruction → ℕ
  | .transferToBaseReceiver lamports => lamports
  | .transferToNcnReceiver _ _ lamports => lamports
  | _ => 0

/-- No account that is not filled has reached its full size. -/
def EpochAccounts.Growing (accounts : EpochAccounts) : Prop :=
  ∀ account : DataAccount, (accounts.status account).Growing account.size

namespace Treasury

variable {runtime : Runtime} {minimumBalance : ℕ → ℕ} {before after : Treasury}

/-! ## Payments -/

/-- The treasury after the account payer has paid for the data of an account. -/
def paidFor (self : Treasury) (minimumBalance : ℕ → ℕ) (account : DataAccount) (space : ℕ)
    (accountPayer : ℕ) : Treasury :=
  { self with
    accountPayer := accountPayer
    lamports := Function.update self.lamports account
      (max (minimumBalance space) (self.lamports account)) }

/-- The treasury after the account payer has taken what an account holds. -/
def closed (self : Treasury) (account : DataAccount) : Treasury :=
  { self with
    accountPayer := self.accountPayer + self.lamports account
    lamports := Function.update self.lamports account 0 }

theorem transfer_eq_ok {account : DataAccount} {lamports : ℕ}
    (paid : before.transfer account lamports = .ok after) :
    ∃ accountPayer, before.accountPayer = accountPayer + lamports ∧
      after = { before with
        accountPayer := accountPayer
        lamports := Function.update before.lamports account
          (before.lamports account + lamports) } := by
  obtain ⟨accountPayer, sent, paid⟩ := bind_eq_ok.mp paid
  obtain ⟨received, arrived, same⟩ := bind_eq_ok.mp paid
  cases same
  obtain rfl := EpochAccounts.receiveLamports_eq_ok arrived
  exact ⟨accountPayer, EpochAccounts.sendLamports_eq_ok sent, rfl⟩

/-- An account that holds enough is not paid for again. -/
theorem payFor_eq_ok {account : DataAccount} {space : ℕ}
    (paid : before.payFor minimumBalance account space = .ok after) :
    ∃ accountPayer,
      before.accountPayer + before.lamports account =
        accountPayer + max (minimumBalance space) (before.lamports account) ∧
      after = before.paidFor minimumBalance account space accountPayer := by
  unfold payFor at paid
  dsimp only at paid
  split at paid
  · rename_i short
    obtain ⟨accountPayer, sent, rfl⟩ := transfer_eq_ok paid
    have reached : before.lamports account + (minimumBalance space - before.lamports account) =
        max (minimumBalance space) (before.lamports account) := by omega
    refine ⟨accountPayer, by omega, ?_⟩
    rw [paidFor, reached]
  · rename_i enough
    cases paid
    have held : max (minimumBalance space) (before.lamports account) = before.lamports account := by
      omega
    refine ⟨before.accountPayer, by rw [held], ?_⟩
    rw [paidFor, held, Function.update_eq_self]

theorem payAndRealloc_eq_payFor {α : Type} {size dataLen newSize : ℕ} {account : DataAccount}
    {found : Account α} (allocated : found = .allocated dataLen) (short : dataLen < size)
    (grown : getNewSize dataLen size = .ok newSize) :
    before.payAndRealloc minimumBalance account size found =
      before.payFor minimumBalance account newSize := by
  rw [allocated, payAndRealloc, if_pos short, grown, ok_bind]

theorem payReceiver_eq_ok {rentCost : ℕ} (paid : before.payReceiver rentCost = .ok after) :
    ∃ accountPayer, before.accountPayer = accountPayer + rentCost ∧
      after = { before with accountPayer := accountPayer } := by
  obtain ⟨accountPayer, sent, same⟩ := bind_eq_ok.mp paid
  cases same
  exact ⟨accountPayer, EpochAccounts.sendLamports_eq_ok sent, rfl⟩

theorem closeAccount_eq_ok {account : DataAccount}
    (close : before.closeAccount account = .ok after) : after = before.closed account := by
  obtain ⟨accountPayer, arrived, same⟩ := bind_eq_ok.mp close
  cases same
  obtain rfl := EpochAccounts.receiveLamports_eq_ok arrived
  rfl

theorem closeReceiver_eq_ok {rentCost lamports : ℕ}
    (close : before.closeReceiver rentCost lamports = .ok after) :
    after = { before with
      accountPayer := before.accountPayer + rentCost
      daoWallet := before.daoWallet + (lamports - rentCost) } := by
  unfold closeReceiver at close
  dsimp only at close
  split at close
  · obtain ⟨daoWallet, left, close⟩ := bind_eq_ok.mp close
    obtain ⟨accountPayer, arrived, same⟩ := bind_eq_ok.mp close
    cases same
    obtain rfl := EpochAccounts.receiveLamports_eq_ok left
    obtain rfl := EpochAccounts.receiveLamports_eq_ok arrived
    rfl
  · rename_i none
    rw [ok_bind] at close
    obtain ⟨accountPayer, arrived, same⟩ := bind_eq_ok.mp close
    cases same
    obtain rfl := EpochAccounts.receiveLamports_eq_ok arrived
    rw [Nat.eq_zero_of_not_pos none, Nat.add_zero]

/-! ## Postings -/

open EpochAccounts

/-- What an instruction of the epoch does to the books, given the rewards that come in. -/
inductive Posting (minimumBalance : ℕ → ℕ) (rentCost : ℕ) (before after : Treasury) : ℕ → Prop
  | kept (keeps : Keeps before.accounts after.accounts)
      (same : after = { before with accounts := after.accounts }) :
      Posting minimumBalance rentCost before after 0
  | received {receiver : Receiver} {rewards : ℕ}
      (status : after.accounts.status = before.accounts.status)
      (receivers : after.accounts.receiver = Function.update before.accounts.receiver receiver
        (before.accounts.receiver receiver + rewards))
      (same : after = { before with accounts := after.accounts }) :
      Posting minimumBalance rentCost before after rewards
  | passed {sender recipient : Receiver} {left rewards : ℕ} (different : recipient ≠ sender)
      (covered : before.accounts.receiver sender = left + rewards)
      (status : after.accounts.status = before.accounts.status)
      (receivers : after.accounts.receiver =
        Function.update (Function.update before.accounts.receiver sender left) recipient
          (before.accounts.receiver recipient + rewards))
      (same : after = { before with accounts := after.accounts }) :
      Posting minimumBalance rentCost before after 0
  | deposited {receiver : Receiver} {rewards : ℕ}
      (sends : Sends before.accounts after.accounts receiver rewards)
      (same : after = { before with
        accounts := after.accounts
        deposited := before.deposited + rewards }) :
      Posting minimumBalance rentCost before after 0
  | paid {account : DataAccount} {written : Account Unit} {space accountPayer : ℕ}
      (writes : Writes before.accounts after.accounts account written)
      (growing : written.Growing account.size) (dataLen : written.dataLen account.size = some space)
      (grows : ∀ old, before.accounts.dataLen account = some old → old ≤ space)
      (known : before.accounts.status account = .missing →
        ∀ receiver : Receiver, account ≠ receiver.router)
      (payer : before.accountPayer + before.lamports account =
        accountPayer + max (minimumBalance space) (before.lamports account))
      (same : after = { before.paidFor minimumBalance account space accountPayer with
        accounts := after.accounts }) :
      Posting minimumBalance rentCost before after 0
  | routerCreated {receiver : Receiver} {written : Account Unit} {space accountPayer : ℕ}
      (unused : before.accounts.status receiver.router = .missing)
      (status : after.accounts.status =
        Function.update before.accounts.status receiver.router written)
      (receivers : after.accounts.receiver = Function.update before.accounts.receiver receiver
        (before.accounts.receiver receiver + rentCost))
      (growing : written.Growing receiver.router.size)
      (dataLen : written.dataLen receiver.router.size = some space)
      (payer : before.accountPayer + before.lamports receiver.router = accountPayer + rentCost +
        max (minimumBalance space) (before.lamports receiver.router))
      (same : after = { before.paidFor minimumBalance receiver.router space accountPayer with
        accounts := after.accounts }) :
      Posting minimumBalance rentCost before after 0
  | closed {account : DataAccount}
      (writes : Writes before.accounts after.accounts account .missing)
      (notRouter : ∀ receiver : Receiver, account ≠ receiver.router)
      (same : after = { before.closed account with accounts := after.accounts }) :
      Posting minimumBalance rentCost before after 0
  | routerClosed {receiver : Receiver}
      (closes : ClosesRouter rentCost before.accounts after.accounts receiver)
      (same : after = { before.closed receiver.router with
        accounts := after.accounts
        accountPayer := before.accountPayer + rentCost + before.lamports receiver.router
        daoWallet := before.daoWallet + (before.accounts.receiver receiver - rentCost) }) :
      Posting minimumBalance rentCost before after 0
  | stateClosed {accountPayer : ℕ} (unmarked : before.accounts.status .epochMarker = .missing)
      (status : after.accounts.status =
        Function.update (Function.update before.accounts.status .epochState .missing) .epochMarker
          (.ready ()))
      (receivers : after.accounts.receiver = before.accounts.receiver)
      (payer : before.accountPayer + before.lamports .epochMarker = accountPayer +
        max (minimumBalance EpochMarker.size) (before.lamports .epochMarker))
      (same : after = { (before.paidFor minimumBalance .epochMarker EpochMarker.size
          accountPayer).closed .epochState with accounts := after.accounts }) :
      Posting minimumBalance rentCost before after 0

/-! ### Reading an instruction -/

/-- An account that is created is paid for at once. -/
theorem Posting.of_created {settled : Treasury} {account : DataAccount} {written : Account Unit}
    {space rentCost : ℕ} {accounts : EpochAccounts}
    (unused : before.accounts.status account = .missing)
    (writes : Writes before.accounts accounts account written)
    (growing : written.Growing account.size) (dataLen : written.dataLen account.size = some space)
    (notRouter : ∀ receiver : Receiver, account ≠ receiver.router)
    (paid : before.payFor minimumBalance account space = .ok settled) :
    Posting minimumBalance rentCost before { settled with accounts := accounts } 0 := by
  obtain ⟨accountPayer, payer, rfl⟩ := payFor_eq_ok paid
  refine .paid writes growing dataLen (fun old found => ?_) (fun _ => notRouter) payer rfl
  rw [EpochAccounts.dataLen, unused] at found
  cases found

/-- An account that is made larger is paid for as far as it comes. -/
theorem Posting.of_realloc {α : Type} {settled : Treasury} {account : DataAccount}
    {found : Account α} {resized : Resized} {rentCost : ℕ} {accounts : EpochAccounts}
    (status : before.accounts.status account = found.status)
    (growing : (before.accounts.status account).Growing account.size)
    (grown : found.resize account.size = .ok resized)
    (writes : Writes before.accounts accounts account resized.written)
    (paid : before.payAndRealloc minimumBalance account account.size found = .ok settled) :
    Posting minimumBalance rentCost before { settled with accounts := accounts } 0 := by
  rw [status] at growing
  have known : found ≠ .missing → before.accounts.status account = .missing →
      ∀ receiver : Receiver, account ≠ receiver.router := by
    intro present missing
    exact absurd (Account.status_eq_missing_iff.mp (status.symm.trans missing)) present
  have grows {dataLen newSize : ℕ} (allocated : found = .allocated dataLen)
      (short : dataLen < account.size) (newSized : getNewSize dataLen account.size = .ok newSize)
      (old : ℕ) (held : before.accounts.dataLen account = some old) : old ≤ newSize := by
    rw [EpochAccounts.dataLen, status, allocated] at held
    cases held
    exact le_getNewSize short newSized
  cases resized with
  | short newSize =>
    obtain ⟨dataLen, rfl, short, newSized, still⟩ := Account.resize_short grown
    rw [payAndRealloc_eq_payFor rfl short newSized] at paid
    obtain ⟨accountPayer, payer, rfl⟩ := payFor_eq_ok paid
    refine .paid writes ?_ rfl (grows rfl short newSized) (known (by rintro ⟨⟩)) payer rfl
    rintro _ ⟨⟩
    exact still
  | fullSize =>
    obtain ⟨dataLen, rfl, short, newSized⟩ :=
      Account.resize_fullSize (Account.growing_of_status growing) grown
    rw [payAndRealloc_eq_payFor rfl short newSized] at paid
    obtain ⟨accountPayer, payer, rfl⟩ := payFor_eq_ok paid
    exact .paid writes (by rintro _ ⟨⟩) rfl (grows rfl short newSized) (known (by rintro ⟨⟩)) payer rfl
  | initialized =>
    obtain ⟨data, rfl⟩ := Account.resize_initialized grown
    cases paid
    exact .kept (writes.keeps status) rfl

theorem maxReallocBytes_growing {account : DataAccount} (large : maxReallocBytes < account.size) :
    (Account.allocated maxReallocBytes : Account Unit).Growing account.size := by
  rintro _ ⟨⟩
  exact large

theorem Posting.of_deposit {receiver : Receiver} {rewards rentCost : ℕ} {accounts : EpochAccounts}
    (sends : Sends before.accounts accounts receiver rewards) :
    Posting minimumBalance rentCost before
      { before.deposit accounts receiver with accounts := accounts } 0 := by
  refine .deposited sends ?_
  have sent : before.accounts.receiver receiver - accounts.receiver receiver = rewards := by
    have covered := sends.covered
    omega
  rw [deposit, sent]

theorem posting_of_closing {accounts : EpochAccounts} {epochState found : EpochState}
    {withReceiver : Bool} {accountToClose : AccountToClose} {settled : Treasury}
    (loaded : before.accounts.epochState = .ready found)
    (unmarked : before.accounts.epochMarker = false)
    (close : before.accounts.closeAccount runtime epochState withReceiver accountToClose =
      .ok accounts)
    (settle : before.settleClosing runtime minimumBalance accountToClose = .ok settled) :
    Posting minimumBalance runtime.rentCost before { settled with accounts := accounts } 0 := by
  have plain (notState : accountToClose ≠ .epochState)
      (notRouter : ∀ receiver : Receiver, accountToClose.account ≠ receiver.router)
      (settle : before.closeAccount accountToClose.account = .ok settled) :
      Posting minimumBalance runtime.rentCost before { settled with accounts := accounts } 0 := by
    obtain rfl := closeAccount_eq_ok settle
    exact .closed (closeAccount_writes loaded close notState notRouter) notRouter rfl
  cases accountToClose with
  | epochState =>
    obtain ⟨paidMarker, paid, settle⟩ := bind_eq_ok.mp settle
    obtain ⟨accountPayer, payer, rfl⟩ := payFor_eq_ok paid
    obtain rfl := closeAccount_eq_ok settle
    obtain ⟨status, receivers⟩ := closeAccount_epochState close
    have noMarker : before.accounts.status .epochMarker = .missing := by
      rw [EpochAccounts.status, unmarked, if_neg Bool.false_ne_true]
    exact .stateClosed noMarker status receivers payer rfl
  | baseRewardRouter =>
    obtain ⟨emptied, left, settle⟩ := bind_eq_ok.mp settle
    obtain rfl := closeReceiver_eq_ok left
    obtain rfl := closeAccount_eq_ok settle
    exact .routerClosed (closeAccount_baseRewardRouter loaded close) rfl
  | ncnRewardRouter operator group =>
    obtain ⟨emptied, left, settle⟩ := bind_eq_ok.mp settle
    obtain rfl := closeReceiver_eq_ok left
    obtain rfl := closeAccount_eq_ok settle
    exact .routerClosed (closeAccount_ncnRewardRouter loaded close) rfl
  | otherEpochState => exact plain (by rintro ⟨⟩) (DataAccount.ne_router rfl) settle
  | weightTable => exact plain (by rintro ⟨⟩) (DataAccount.ne_router rfl) settle
  | epochSnapshot => exact plain (by rintro ⟨⟩) (DataAccount.ne_router rfl) settle
  | operatorSnapshot operator => exact plain (by rintro ⟨⟩) (DataAccount.ne_router rfl) settle
  | ballotBox => exact plain (by rintro ⟨⟩) (DataAccount.ne_router rfl) settle

/-- Every instruction posts in one of these ways. -/
theorem process_posting {context : Context} {instruction : EpochInstruction}
    (growing : before.accounts.Growing)
    (processed : before.process runtime minimumBalance (.epoch context instruction) = .ok after) :
    Posting minimumBalance runtime.rentCost before after instruction.rewards := by
  obtain ⟨accounts, changed, settling⟩ := bind_eq_ok.mp processed
  obtain ⟨settled, settle, same⟩ := bind_eq_ok.mp settling
  cases same
  clear processed settling
  have kept (keeps : Keeps before.accounts accounts)
      (settle : (.ok before : Except InstructionError Treasury) = .ok settled) :
      Posting minimumBalance runtime.rentCost before { settled with accounts := accounts } 0 := by
    cases settle
    exact .kept keeps rfl
  cases instruction with
  | initializeEpochState =>
    obtain ⟨unused, writes⟩ := initializeEpochState_writes changed
    exact .of_created unused writes (maxReallocBytes_growing (by decide)) rfl (DataAccount.ne_router rfl) settle
  | reallocEpochState bump =>
    obtain ⟨resized, grown, writes⟩ := reallocEpochState_writes changed
    exact .of_realloc rfl (growing .epochState) grown writes settle
  | initializeWeightTable ncnVaultCount =>
    obtain ⟨unused, writes⟩ := initializeWeightTable_writes changed
    exact .of_created unused writes (maxReallocBytes_growing (by decide)) rfl (DataAccount.ne_router rfl) settle
  | reallocWeightTable bump =>
    obtain ⟨resized, grown, writes⟩ := reallocWeightTable_writes changed
    exact .of_realloc rfl (growing .weightTable) grown writes settle
  | adminSetWeight ncnWeightTableAdmin weightTableAdmin stMint weight =>
    exact kept (setWeight_keeps changed) settle
  | switchboardSetWeight stMint feed => exact kept (setWeight_keeps changed) settle
  | initializeEpochSnapshot operatorCount bump =>
    obtain ⟨unused, writes⟩ := initializeEpochSnapshot_writes changed
    exact .of_created unused writes (by rintro _ ⟨⟩) rfl (DataAccount.ne_router rfl) settle
  | initializeOperatorSnapshot operator ncnOperatorIndex =>
    obtain ⟨unused, writes⟩ := initializeOperatorSnapshot_writes changed
    have large : maxReallocBytes < OperatorSnapshot.size := by decide
    exact .of_created unused writes (maxReallocBytes_growing large) rfl (DataAccount.ne_router rfl) settle
  | reallocOperatorSnapshot reading bump =>
    obtain ⟨resized, grown, writes⟩ := reallocOperatorSnapshot_writes changed
    exact .of_realloc rfl (growing (.operatorSnapshot reading.operator)) grown writes settle
  | snapshotVaultOperatorDelegation operator reading =>
    exact kept (snapshotVaultOperatorDelegation_keeps changed) settle
  | initializeBallotBox =>
    obtain ⟨unused, writes⟩ := initializeBallotBox_writes changed
    exact .of_created unused writes (maxReallocBytes_growing (by decide)) rfl (DataAccount.ne_router rfl) settle
  | reallocBallotBox bump =>
    obtain ⟨resized, grown, writes⟩ := reallocBallotBox_writes changed
    exact .of_realloc rfl (growing .ballotBox) grown writes settle
  | castVote operator voter operatorAdmin metaMerkleRoot =>
    exact kept (castVote_keeps changed) settle
  | adminSetTieBreaker tieBreakerAdmin metaMerkleRoot =>
    exact kept (adminSetTieBreaker_keeps changed) settle
  | setMerkleRoot tipDistributionAddress proof merkleRoot maxTotalClaim maxNumNodes =>
    exact kept (setMerkleRoot_keeps changed) settle
  | initializeBaseRewardRouter =>
    obtain ⟨unused, status, receivers⟩ := initializeBaseRewardRouter_writes changed
    obtain ⟨paid, payment, settle⟩ := bind_eq_ok.mp settle
    obtain ⟨accountPayer, payer, rfl⟩ := payFor_eq_ok payment
    obtain ⟨left, rent, rfl⟩ := payReceiver_eq_ok settle
    have here : before.accounts.status (Receiver.router .base) = .missing := unused
    refine .routerCreated here status receivers (maxReallocBytes_growing (by decide)) rfl ?_ rfl
    change accountPayer = left + runtime.rentCost at rent
    rw [← rent]
    exact payer
  | reallocBaseRewardRouter bump =>
    obtain ⟨resized, grown, writes⟩ := reallocBaseRewardRouter_writes changed
    exact .of_realloc rfl (growing .baseRewardRouter) grown writes settle
  | initializeNcnRewardRouter operator ncnFeeGroup bump =>
    obtain ⟨group, parsed, unused, status, receivers⟩ := initializeNcnRewardRouter_writes changed
    obtain ⟨group', parsed', settle⟩ := bind_eq_ok.mp settle
    obtain rfl : group = group' :=
      Except.ok.inj (parsed.symm.trans (lift_eq_ok_iff.mp parsed'))
    obtain ⟨paid, payment, settle⟩ := bind_eq_ok.mp settle
    obtain ⟨accountPayer, payer, rfl⟩ := payFor_eq_ok payment
    obtain ⟨left, rent, rfl⟩ := payReceiver_eq_ok settle
    have here : before.accounts.status (Receiver.router (.ncn operator group)) = .missing := unused
    refine .routerCreated here status receivers (by rintro _ ⟨⟩) rfl ?_ rfl
    change accountPayer = left + runtime.rentCost at rent
    rw [← rent]
    exact payer
  | routeBaseRewards maxIterations => exact kept (routeBaseRewards_keeps changed) settle
  | routeNcnRewards operator ncnFeeGroup maxIterations =>
    exact kept (routeNcnRewards_keeps changed) settle
  | distributeBaseRewards baseFeeGroup baseFeeWallet =>
    obtain ⟨rewards, sends⟩ := distributeBaseRewards_sends changed
    cases settle
    exact .of_deposit sends
  | distributeBaseNcnRewardRoute operator ncnFeeGroup =>
    obtain ⟨group, rewards, left, covered, status, receivers⟩ :=
      distributeBaseNcnRewardRoute_passes changed
    cases settle
    have different : Receiver.ncn operator group ≠ .base := by rintro ⟨⟩
    exact .passed different covered status receivers rfl
  | distributeNcnOperatorRewards operator ncnFeeGroup =>
    obtain ⟨group, rewards, parsed, sends⟩ := distributeNcnRewards_sends changed
    obtain ⟨group', parsed', same⟩ := bind_eq_ok.mp settle
    obtain rfl : group = group' :=
      Except.ok.inj (parsed.symm.trans (lift_eq_ok_iff.mp parsed'))
    cases same
    exact .of_deposit sends
  | distributeNcnVaultRewards operator vault ncnFeeGroup =>
    obtain ⟨group, rewards, parsed, sends⟩ := distributeNcnRewards_sends changed
    obtain ⟨group', parsed', same⟩ := bind_eq_ok.mp settle
    obtain rfl : group = group' :=
      Except.ok.inj (parsed.symm.trans (lift_eq_ok_iff.mp parsed'))
    cases same
    exact .of_deposit sends
  | closeEpochAccount accountToClose daoWallet withReceiver =>
    obtain ⟨epochState, loaded, unmarked, -, -, close⟩ := processCloseEpochAccount_eq_ok changed
    exact posting_of_closing loaded unmarked close settle
  | transferToBaseReceiver lamports =>
    obtain ⟨received, paid, same⟩ := bind_eq_ok.mp changed
    cases same
    cases settle
    obtain rfl := receiveLamports_eq_ok paid
    exact .received rfl (receiver_base before.accounts _) rfl
  | transferToNcnReceiver operator group lamports =>
    obtain ⟨received, paid, same⟩ := bind_eq_ok.mp changed
    cases same
    cases settle
    obtain rfl := receiveLamports_eq_ok paid
    exact .received rfl (receiver_ncn before.accounts operator group _) rfl

end Treasury

end TipRouter
