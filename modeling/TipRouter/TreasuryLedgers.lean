import TipRouter.EpochClosability
import TipRouter.TreasuryPostings

/-! The books of an epoch over all its instructions, in any order, whatever anyone
transfers to its accounts in between and whatever else the account payer pays for. The rent
and the rewards are two ledgers that never mix, every account is rent exempt as long
as it exists, and what is closed gives back what it has cost. -/
namespace TipRouter
open Runs Ledgers

theorem Receiver.router_injective : Function.Injective Receiver.router := by
  intro receiver other same
  cases receiver <;> cases other <;> cases same <;> rfl

/-- The rent that a receiver holds for the account payer, from when its router is
created. -/
def EpochAccounts.rent (rentCost : ℕ) (accounts : EpochAccounts) (receiver : Receiver) : ℕ :=
  if accounts.status receiver.router = .missing then 0 else rentCost

/-- The rent of an account that exists. -/
def EpochAccounts.rentOf (minimumBalance : ℕ → ℕ) (accounts : EpochAccounts)
    (account : DataAccount) : ℕ :=
  (accounts.dataLen account).elim 0 minimumBalance

namespace TreasuryInstruction

/-- What comes in without being a reward. -/
def funds : TreasuryInstruction → ℕ
  | .epoch _ _ => 0
  | .transferToAccount _ lamports => lamports
  | .transferToPayer lamports => lamports
  | .transferFromPayer _ => 0

/-- What the account payer pays for elsewhere. -/
def spent : TreasuryInstruction → ℕ
  | .transferFromPayer lamports => lamports
  | _ => 0

def rewards : TreasuryInstruction → ℕ
  | .epoch _ instruction => instruction.rewards
  | _ => 0

end TreasuryInstruction

namespace Treasury

variable {runtime : Runtime} {minimumBalance : ℕ → ℕ} {before after treasury : Treasury}
variable {rentCost rewards : ℕ}

/-! ## Accounts that grow -/

theorem growing_update {accounts : EpochAccounts} {account : DataAccount} {written : Account Unit}
    (growing : ∀ account : DataAccount, (accounts.status account).Growing account.size)
    (next : written.Growing account.size) (other : DataAccount) :
    (Function.update accounts.status account written other).Growing other.size := by
  by_cases here : other = account
  · rw [here, Function.update_self]
    exact next
  · rw [Function.update_of_ne here]
    exact growing other

theorem Posting.growing (posting : Posting minimumBalance rentCost before after rewards)
    (growing : before.accounts.Growing) : after.accounts.Growing := by
  intro other
  cases posting with
  | kept keeps same =>
    rw [keeps.status]
    exact growing other
  | received status receivers same =>
    rw [status]
    exact growing other
  | passed different covered status receivers same =>
    rw [status]
    exact growing other
  | deposited sends same =>
    rw [sends.status]
    exact growing other
  | paid writes next dataLen grows known payer same =>
    rw [writes.status]
    exact growing_update growing next other
  | routerCreated unused status receivers next dataLen payer same =>
    rw [status]
    exact growing_update growing next other
  | closed writes notRouter same =>
    rw [writes.status]
    exact growing_update growing Account.growing_missing other
  | routerClosed closes same =>
    rw [closes.status]
    exact growing_update growing Account.growing_missing other
  | stateClosed unmarked status receivers payer same =>
    rw [status]
    by_cases marker : other = .epochMarker
    · rw [marker, Function.update_self]
      exact Account.growing_ready
    · rw [Function.update_of_ne marker]
      exact growing_update growing Account.growing_missing other

/-! ## The rent of the receivers -/

section
variable {accounts next : EpochAccounts} {receiver : Receiver} {written : Account Unit}

theorem rent_congr (same : ∀ receiver : Receiver,
      next.status receiver.router = .missing ↔ accounts.status receiver.router = .missing) :
    next.rent rentCost = accounts.rent rentCost := by
  funext receiver
  unfold EpochAccounts.rent
  simp only [same receiver]

theorem rent_of_status (same : next.status = accounts.status) :
    next.rent rentCost = accounts.rent rentCost :=
  rent_congr fun _ => by rw [same]

/-- Only the account of a router says whether its receiver holds rent. -/
theorem rent_update {account : DataAccount}
    (status : next.status = Function.update accounts.status account written)
    (others : ∀ receiver : Receiver, account = receiver.router →
      (written = .missing ↔ accounts.status account = .missing)) :
    next.rent rentCost = accounts.rent rentCost := by
  refine rent_congr fun receiver => ?_
  rw [status]
  by_cases here : receiver.router = account
  · rw [here, Function.update_self]
    exact others receiver here.symm
  · rw [Function.update_of_ne here]

theorem rent_router (status : next.status = Function.update accounts.status receiver.router written) :
    next.rent rentCost = Function.update (accounts.rent rentCost) receiver
      (if written = .missing then 0 else rentCost) := by
  refine Function.eq_update_iff.mpr ⟨?_, fun other different => ?_⟩
  · rw [EpochAccounts.rent, status, Function.update_self]
  · have elsewhere : other.router ≠ receiver.router :=
      fun same => different (Receiver.router_injective same)
    rw [EpochAccounts.rent, status, Function.update_of_ne elsewhere, EpochAccounts.rent]

end

/-! ## The books -/

/-- What the accounts hold, what the receivers hold, and how much of it is rent. -/
structure Books (rentCost : ℕ) (treasury : Treasury) (lamports receivers rents : ℕ) : Prop where
  lamports : HasTotal treasury.lamports lamports
  receivers : HasTotal treasury.accounts.receiver receivers
  rents : HasTotal (treasury.accounts.rent rentCost) rents

/-- A posting moves lamports within one of two ledgers: between the account payer and
what it has paid for, or between the receivers and where the rewards end up. -/
theorem Posting.books (posting : Posting minimumBalance rentCost before after rewards)
    {lamports receivers rents : ℕ} (books : before.Books rentCost lamports receivers rents) :
    ∃ lamports' receivers' rents', after.Books rentCost lamports' receivers' rents' ∧
      after.accountPayer + lamports' + rents' = before.accountPayer + lamports + rents ∧
      after.deposited + after.daoWallet + receivers' + rents =
        before.deposited + before.daoWallet + receivers + rents' + rewards := by
  cases posting with
  | kept keeps same =>
    rw [same]
    refine ⟨lamports, receivers, rents, ⟨books.lamports, ?_, ?_⟩, rfl, rfl⟩
    · rw [keeps.receivers]
      exact books.receivers
    · rw [rent_of_status keeps.status]
      exact books.rents
  | @received receiver rewards status changed same =>
    rw [same]
    refine ⟨lamports, receivers + rewards, rents, ⟨books.lamports, ?_, ?_⟩, rfl, ?_⟩
    · rw [changed]
      exact books.receivers.credit receiver rewards
    · rw [rent_of_status status]
      exact books.rents
    · dsimp only
      omega
  | @passed sender recipient left amount different covered status changed same =>
    rw [same]
    obtain ⟨between, hasBetween, taken⟩ := books.receivers.update sender left
    obtain ⟨changed', hasChanged, given⟩ :=
      hasBetween.update recipient (before.accounts.receiver recipient + amount)
    rw [Function.update_of_ne different] at given
    refine ⟨lamports, changed', rents, ⟨books.lamports, ?_, ?_⟩, rfl, ?_⟩
    · rw [changed]
      exact hasChanged
    · rw [rent_of_status status]
      exact books.rents
    · dsimp only
      omega
  | @deposited receiver amount sends same =>
    have covered := sends.covered
    obtain ⟨left, hasLeft, taken⟩ :=
      books.receivers.update receiver (after.accounts.receiver receiver)
    rw [← sends.others] at hasLeft
    rw [same]
    refine ⟨lamports, left, rents, ⟨books.lamports, hasLeft, ?_⟩, rfl, ?_⟩
    · rw [rent_of_status sends.status]
      exact books.rents
    · dsimp only
      omega
  | @paid account written space accountPayer writes growing dataLen grows known payer same =>
    obtain ⟨held, hasHeld, balanced⟩ := books.lamports.update account
      (max (minimumBalance space) (before.lamports account))
    rw [same]
    refine ⟨held, receivers, rents, ⟨hasHeld, ?_, ?_⟩, ?_, rfl⟩
    · rw [writes.receivers]
      exact books.receivers
    · rw [rent_update writes.status]
      · exact books.rents
      · intro receiver router
        exact iff_of_false (Account.ne_missing_of_dataLen dataLen) fun missing =>
          known missing receiver router
    · dsimp only [paidFor]
      omega
  | @routerCreated receiver written space accountPayer unused status changed growing dataLen payer same =>
    obtain ⟨held, hasHeld, balanced⟩ := books.lamports.update receiver.router
      (max (minimumBalance space) (before.lamports receiver.router))
    obtain ⟨rented, hasRented, added⟩ := books.rents.update receiver rentCost
    have before_rent : before.accounts.rent rentCost receiver = 0 := if_pos unused
    rw [same]
    refine ⟨held, receivers + rentCost, rented, ⟨hasHeld, ?_, ?_⟩, ?_, ?_⟩
    · rw [changed]
      exact books.receivers.credit receiver rentCost
    · rw [rent_router status, if_neg (Account.ne_missing_of_dataLen dataLen)]
      exact hasRented
    · dsimp only [paidFor]
      omega
    · dsimp only [paidFor]
      omega
  | @closed account writes notRouter same =>
    obtain ⟨held, hasHeld, balanced⟩ := books.lamports.update account 0
    rw [same]
    refine ⟨held, receivers, rents, ⟨hasHeld, ?_, ?_⟩, ?_, rfl⟩
    · rw [writes.receivers]
      exact books.receivers
    · rw [rent_update writes.status fun receiver router => absurd router (notRouter receiver)]
      exact books.rents
    · dsimp only [Treasury.closed]
      omega
  | @routerClosed receiver closes same =>
    have covered := closes.covered
    obtain ⟨held, hasHeld, balanced⟩ := books.lamports.update receiver.router 0
    obtain ⟨left, hasLeft, emptied⟩ := books.receivers.update receiver 0
    obtain ⟨rented, hasRented, returned⟩ := books.rents.update receiver 0
    have before_rent : before.accounts.rent rentCost receiver = rentCost := by
      rw [EpochAccounts.rent, closes.found, if_neg (by rintro ⟨⟩)]
    rw [same]
    refine ⟨held, left, rented, ⟨hasHeld, ?_, ?_⟩, ?_, ?_⟩
    · rw [closes.receivers]
      exact hasLeft
    · rw [rent_router closes.status, if_pos rfl]
      exact hasRented
    · dsimp only [Treasury.closed]
      omega
    · dsimp only [Treasury.closed]
      omega
  | @stateClosed accountPayer unmarked status changed payer same =>
    obtain ⟨marked, hasMarked, paid⟩ := books.lamports.update .epochMarker
      (max (minimumBalance EpochMarker.size) (before.lamports .epochMarker))
    obtain ⟨held, hasHeld, balanced⟩ := hasMarked.update .epochState 0
    rw [same]
    refine ⟨held, receivers, rents, ⟨hasHeld, ?_, ?_⟩, ?_, rfl⟩
    · rw [changed]
      exact books.receivers
    · rw [rent_congr fun receiver => ?_]
      · exact books.rents
      · have notState : receiver.router ≠ .epochState := (DataAccount.ne_router rfl receiver).symm
        have notMarker : receiver.router ≠ .epochMarker :=
          (DataAccount.ne_router rfl receiver).symm
        rw [status, Function.update_of_ne notMarker, Function.update_of_ne notState]
    · dsimp only [Treasury.closed, paidFor]
      omega

/-- The same of every instruction. -/
theorem process_books {instruction : TreasuryInstruction} (growing : before.accounts.Growing)
    {lamports receivers rents : ℕ} (books : before.Books runtime.rentCost lamports receivers rents)
    (processed : before.process runtime minimumBalance instruction = .ok after) :
    ∃ lamports' receivers' rents', after.Books runtime.rentCost lamports' receivers' rents' ∧
      after.accountPayer + lamports' + rents' + instruction.spent =
        before.accountPayer + lamports + rents + instruction.funds ∧
      after.deposited + after.daoWallet + receivers' + rents =
        before.deposited + before.daoWallet + receivers + rents' + instruction.rewards := by
  cases instruction with
  | epoch context instruction => exact (process_posting growing processed).books books
  | transferToAccount account amount =>
    obtain ⟨received, arrived, same⟩ := bind_eq_ok.mp processed
    cases same
    obtain rfl := EpochAccounts.receiveLamports_eq_ok arrived
    refine ⟨lamports + amount, receivers, rents,
      ⟨books.lamports.credit account amount, books.receivers, books.rents⟩, ?_, rfl⟩
    dsimp only [TreasuryInstruction.spent, TreasuryInstruction.funds]
    omega
  | transferToPayer amount =>
    obtain ⟨received, arrived, same⟩ := bind_eq_ok.mp processed
    cases same
    obtain rfl := EpochAccounts.receiveLamports_eq_ok arrived
    refine ⟨lamports, receivers, rents, ⟨books.lamports, books.receivers, books.rents⟩, ?_, rfl⟩
    dsimp only [TreasuryInstruction.spent, TreasuryInstruction.funds]
    omega
  | transferFromPayer amount =>
    obtain ⟨left, sent, same⟩ := bind_eq_ok.mp processed
    cases same
    have covered := EpochAccounts.sendLamports_eq_ok sent
    refine ⟨lamports, receivers, rents, ⟨books.lamports, books.receivers, books.rents⟩, ?_, rfl⟩
    dsimp only [TreasuryInstruction.spent, TreasuryInstruction.funds]
    omega

theorem process_growing {instruction : TreasuryInstruction} (growing : before.accounts.Growing)
    (processed : before.process runtime minimumBalance instruction = .ok after) :
    after.accounts.Growing := by
  cases instruction with
  | epoch context instruction => exact (process_posting growing processed).growing growing
  | transferToAccount account amount =>
    obtain ⟨_, -, same⟩ := bind_eq_ok.mp processed
    cases same
    exact growing
  | transferToPayer amount =>
    obtain ⟨_, -, same⟩ := bind_eq_ok.mp processed
    cases same
    exact growing
  | transferFromPayer amount =>
    obtain ⟨_, -, same⟩ := bind_eq_ok.mp processed
    cases same
    exact growing

/-! ## Whole epochs -/

/-- Before an epoch, whatever is in the wallets and at the addresses of its accounts. -/
def opening (ncn : Pubkey) (epoch : ℕ) (lamports : DataAccount → ℕ) (accountPayer daoWallet : ℕ) :
    Treasury where
  accounts := .absent ncn epoch
  lamports := lamports
  accountPayer := accountPayer
  daoWallet := daoWallet
  deposited := 0

variable {ncn : Pubkey} {epoch : ℕ} {lamports : DataAccount → ℕ} {accountPayer daoWallet : ℕ}
variable {history : List TreasuryInstruction}

theorem status_absent : (EpochAccounts.absent ncn epoch).status = fun _ => .missing := by
  funext account
  cases account <;> rfl

theorem opening_growing : (opening ncn epoch lamports accountPayer daoWallet).accounts.Growing := by
  intro account
  rw [opening, status_absent]
  exact Account.growing_missing

theorem run_growing
    (ran : run (process runtime minimumBalance) history
      (opening ncn epoch lamports accountPayer daoWallet) = .ok treasury) :
    treasury.accounts.Growing :=
  run_invariant (motive := fun treasury : Treasury => treasury.accounts.Growing)
    (fun _ _ _ => process_growing) opening_growing ran

theorem opening_books {held : ℕ} (has : HasTotal lamports held) :
    (opening ncn epoch lamports accountPayer daoWallet).Books rentCost held 0 0 where
  lamports := has
  receivers := by
    have empty : (EpochAccounts.absent ncn epoch).receiver = fun _ => 0 := by
      funext receiver
      cases receiver <;> rfl
    rw [opening, empty]
    exact .zero
  rents := by
    have empty : (EpochAccounts.absent ncn epoch).rent rentCost = fun _ => 0 := by
      funext receiver
      rw [EpochAccounts.rent, status_absent, if_pos rfl]
    rw [opening, empty]
    exact .zero

theorem run_books {held : ℕ} (has : HasTotal lamports held)
    (ran : run (process runtime minimumBalance) history
      (opening ncn epoch lamports accountPayer daoWallet) = .ok treasury) :
    ∃ total receivers rents, treasury.Books runtime.rentCost total receivers rents ∧
      treasury.accountPayer + total + rents + (history.map (·.spent)).sum =
        accountPayer + held + (history.map (·.funds)).sum ∧
      treasury.deposited + treasury.daoWallet + receivers =
        daoWallet + rents + (history.map (·.rewards)).sum := by
  refine run_induction (motive := fun past (treasury : Treasury) =>
    ∃ total receivers rents, treasury.Books runtime.rentCost total receivers rents ∧
      treasury.accountPayer + total + rents + (past.map (·.spent)).sum =
        accountPayer + held + (past.map (·.funds)).sum ∧
      treasury.deposited + treasury.daoWallet + receivers =
        daoWallet + rents + (past.map (·.rewards)).sum)
    ⟨held, 0, 0, opening_books has, rfl, Nat.zero_add _⟩ ?_ ran
  rintro past middle instruction next before ⟨total, receivers, rents, books, funds, rewards⟩ stepped
  obtain ⟨total', receivers', rents', books', funds', rewards'⟩ :=
    process_books (run_growing before) books stepped
  refine ⟨total', receivers', rents', books', ?_, ?_⟩
  · simp only [List.map_append, List.map_singleton, List.sum_append, List.sum_singleton]
    omega
  · simp only [List.map_append, List.map_singleton, List.sum_append, List.sum_singleton]
    omega

/-! ## Rent exemption -/

/-- What happens to one account: nothing, or it is made longer and paid for, or closed. -/
inductive AccountStep (minimumBalance : ℕ → ℕ) (before after : Treasury) (account : DataAccount) :
    Prop
  | same (dataLen : after.accounts.dataLen account = before.accounts.dataLen account)
      (lamports : after.lamports account = before.lamports account) :
      AccountStep minimumBalance before after account
  | paid {space : ℕ} (dataLen : after.accounts.dataLen account = some space)
      (grows : ∀ old, before.accounts.dataLen account = some old → old ≤ space)
      (lamports : after.lamports account =
        max (minimumBalance space) (before.lamports account)) :
      AccountStep minimumBalance before after account
  | closed (dataLen : after.accounts.dataLen account = none)
      (lamports : after.lamports account = 0) : AccountStep minimumBalance before after account

theorem AccountStep.of_status {account : DataAccount}
    (status : after.accounts.status account = before.accounts.status account)
    (lamports : after.lamports account = before.lamports account) :
    AccountStep minimumBalance before after account :=
  .same (by rw [EpochAccounts.dataLen, EpochAccounts.dataLen, status]) lamports

theorem AccountStep.of_paid {account other : DataAccount} {written : Account Unit} {space : ℕ}
    (status : after.accounts.status = Function.update before.accounts.status account written)
    (dataLen : written.dataLen account.size = some space)
    (grows : ∀ old, before.accounts.dataLen account = some old → old ≤ space)
    (lamports : after.lamports = Function.update before.lamports account
      (max (minimumBalance space) (before.lamports account))) :
    AccountStep minimumBalance before after other := by
  by_cases here : other = account
  · rw [here]
    refine .paid ?_ grows ?_
    · rw [EpochAccounts.dataLen, status, Function.update_self]
      exact dataLen
    · rw [lamports, Function.update_self]
  · refine .of_status ?_ ?_
    · rw [status, Function.update_of_ne here]
    · rw [lamports, Function.update_of_ne here]

theorem AccountStep.of_closed {account other : DataAccount}
    (status : after.accounts.status = Function.update before.accounts.status account .missing)
    (lamports : after.lamports = Function.update before.lamports account 0) :
    AccountStep minimumBalance before after other := by
  by_cases here : other = account
  · rw [here]
    refine .closed ?_ ?_
    · rw [EpochAccounts.dataLen, status, Function.update_self]
      rfl
    · rw [lamports, Function.update_self]
  · refine .of_status ?_ ?_
    · rw [status, Function.update_of_ne here]
    · rw [lamports, Function.update_of_ne here]

theorem Posting.accountStep (posting : Posting minimumBalance rentCost before after rewards)
    (account : DataAccount) : AccountStep minimumBalance before after account := by
  cases posting with
  | kept keeps same =>
    exact .of_status (by rw [keeps.status]) (by rw [same])
  | received status receivers same =>
    exact .of_status (by rw [status]) (by rw [same])
  | passed different covered status receivers same =>
    exact .of_status (by rw [status]) (by rw [same])
  | deposited sends same =>
    exact .of_status (by rw [sends.status]) (by rw [same])
  | paid writes growing dataLen grows known payer same =>
    exact .of_paid writes.status dataLen grows (by rw [same, paidFor])
  | routerCreated unused status receivers growing dataLen payer same =>
    refine .of_paid status dataLen (fun old found => ?_) (by rw [same, paidFor])
    rw [EpochAccounts.dataLen, unused] at found
    cases found
  | closed writes notRouter same =>
    exact .of_closed writes.status (by rw [same, Treasury.closed])
  | routerClosed closes same =>
    exact .of_closed closes.status (by rw [same, Treasury.closed])
  | stateClosed unmarked status receivers payer same =>
    have lamports : after.lamports = Function.update (Function.update before.lamports .epochMarker
        (max (minimumBalance EpochMarker.size) (before.lamports .epochMarker))) .epochState 0 := by
      rw [same, Treasury.closed, paidFor]
    have apart : DataAccount.epochState ≠ .epochMarker := by rintro ⟨⟩
    by_cases marker : account = .epochMarker
    · have made : after.accounts.dataLen .epochMarker = some EpochMarker.size := by
        rw [EpochAccounts.dataLen, status, Function.update_self]
        rfl
      rw [marker]
      refine .paid made (fun old found => ?_) ?_
      · rw [EpochAccounts.dataLen, unmarked] at found
        cases found
      · rw [lamports, Function.update_of_ne apart.symm, Function.update_self]
    · by_cases state : account = .epochState
      · rw [state]
        refine .closed ?_ ?_
        · rw [EpochAccounts.dataLen, status, Function.update_of_ne apart, Function.update_self]
          rfl
        · rw [lamports, Function.update_self]
      · refine .of_status ?_ ?_
        · rw [status, Function.update_of_ne marker, Function.update_of_ne state]
        · rw [lamports, Function.update_of_ne state, Function.update_of_ne marker]

/-- Nobody but the closing of an account takes lamports from it. -/
theorem process_exempt {instruction : TreasuryInstruction} (growing : before.accounts.Growing)
    (exempt : ∀ account,
      before.accounts.rentOf minimumBalance account ≤ before.lamports account)
    (processed : before.process runtime minimumBalance instruction = .ok after)
    (account : DataAccount) :
    after.accounts.rentOf minimumBalance account ≤ after.lamports account := by
  have held := exempt account
  cases instruction with
  | epoch context instruction =>
    cases (process_posting growing processed).accountStep account with
    | same dataLen lamports =>
      rw [EpochAccounts.rentOf, dataLen, lamports]
      exact held
    | paid dataLen grows lamports =>
      rw [EpochAccounts.rentOf, dataLen, lamports]
      exact Nat.le_max_left _ _
    | closed dataLen lamports =>
      rw [EpochAccounts.rentOf, dataLen]
      exact Nat.zero_le _
  | transferToAccount recipient amount =>
    obtain ⟨received, arrived, same⟩ := bind_eq_ok.mp processed
    cases same
    obtain rfl := EpochAccounts.receiveLamports_eq_ok arrived
    refine held.trans ?_
    by_cases here : account = recipient
    · rw [here]
      dsimp only
      rw [Function.update_self]
      exact Nat.le_add_right _ _
    · dsimp only
      rw [Function.update_of_ne here]
  | transferToPayer amount =>
    obtain ⟨_, -, same⟩ := bind_eq_ok.mp processed
    cases same
    exact held
  | transferFromPayer amount =>
    obtain ⟨_, -, same⟩ := bind_eq_ok.mp processed
    cases same
    exact held

/-- Where nobody else transfers to an account, it holds its rent and nothing more. -/
theorem process_exact {instruction : TreasuryInstruction} (monotone : Monotone minimumBalance)
    (growing : before.accounts.Growing) {account : DataAccount}
    (held : before.lamports account = before.accounts.rentOf minimumBalance account)
    (own : ∀ lamports, instruction ≠ .transferToAccount account lamports)
    (processed : before.process runtime minimumBalance instruction = .ok after) :
    after.lamports account = after.accounts.rentOf minimumBalance account := by
  cases instruction with
  | epoch context instruction =>
    cases (process_posting growing processed).accountStep account with
    | same dataLen lamports =>
      rw [EpochAccounts.rentOf, dataLen, lamports]
      exact held
    | @paid space dataLen grows lamports =>
      have less : before.accounts.rentOf minimumBalance account ≤ minimumBalance space := by
        unfold EpochAccounts.rentOf
        cases found : before.accounts.dataLen account with
        | none => exact Nat.zero_le _
        | some old => exact monotone (grows old found)
      rw [lamports, held, Nat.max_eq_left less, EpochAccounts.rentOf, dataLen]
      rfl
    | closed dataLen lamports =>
      rw [EpochAccounts.rentOf, dataLen, lamports]
      rfl
  | transferToAccount recipient amount =>
    obtain ⟨_, -, same⟩ := bind_eq_ok.mp processed
    cases same
    have other : account ≠ recipient := by
      rintro rfl
      exact own amount rfl
    exact (Function.update_of_ne other ..).trans held
  | transferToPayer amount =>
    obtain ⟨_, -, same⟩ := bind_eq_ok.mp processed
    cases same
    exact held
  | transferFromPayer amount =>
    obtain ⟨_, -, same⟩ := bind_eq_ok.mp processed
    cases same
    exact held

theorem process_funded {instruction : TreasuryInstruction}
    (funded : before.accounts.Funded runtime)
    (processed : before.process runtime minimumBalance instruction = .ok after) :
    after.accounts.Funded runtime := by
  cases instruction with
  | epoch context instruction =>
    obtain ⟨accounts, changed, settling⟩ := bind_eq_ok.mp processed
    obtain ⟨settled, -, same⟩ := bind_eq_ok.mp settling
    cases same
    exact funded.effect (EpochAccounts.process_effect changed)
  | transferToAccount account amount =>
    obtain ⟨_, -, same⟩ := bind_eq_ok.mp processed
    cases same
    exact funded
  | transferToPayer amount =>
    obtain ⟨_, -, same⟩ := bind_eq_ok.mp processed
    cases same
    exact funded
  | transferFromPayer amount =>
    obtain ⟨_, -, same⟩ := bind_eq_ok.mp processed
    cases same
    exact funded

theorem rentCost_le_of_backed {α : Type} {transit : α → ℕ} {account : Account α} {lamports : ℕ}
    (backed : account.Backed transit rentCost lamports) (found : account.status ≠ .missing) :
    rentCost ≤ lamports := by
  cases account with
  | missing => exact absurd rfl found
  | allocated dataLen => exact backed
  | ready data => exact Nat.le_trans (Nat.le_add_left _ _) backed

theorem rentCost_le_receiver {accounts : EpochAccounts} (funded : accounts.Funded runtime)
    {receiver : Receiver} (found : accounts.status receiver.router ≠ .missing) :
    runtime.rentCost ≤ accounts.receiver receiver := by
  cases receiver with
  | base => exact rentCost_le_of_backed funded.base found
  | ncn operator group => exact rentCost_le_of_backed (funded.ncn (operator, group)) found

/-! ## The epoch apart from its lamports -/

/-- The instructions of the epoch. -/
def epochHistory (history : List TreasuryInstruction) : List (Context × EpochInstruction) :=
  history.filterMap fun instruction =>
    match instruction with
    | .epoch context instruction => some (context, instruction)
    | _ => none

/-- The accounts are those of the epoch's own instructions. -/
theorem run_epochHistory
    (ran : run (process runtime minimumBalance) history before = .ok after) :
    run (EpochAccounts.process runtime) (epochHistory history) before.accounts =
      .ok after.accounts := by
  refine run_induction (motive := fun past (state : Treasury) =>
    run (EpochAccounts.process runtime) (epochHistory past) before.accounts =
      .ok state.accounts) rfl ?_ ran
  intro past middle instruction next _ reached stepped
  cases instruction with
  | epoch context instruction =>
    obtain ⟨accounts, changed, settling⟩ := bind_eq_ok.mp stepped
    obtain ⟨settled, -, same⟩ := bind_eq_ok.mp settling
    cases same
    rw [epochHistory, List.filterMap_append, run_append, ← epochHistory, reached, ok_bind]
    exact run_singleton.trans changed
  | transferToAccount account amount =>
    obtain ⟨_, -, same⟩ := bind_eq_ok.mp stepped
    cases same
    rw [epochHistory, List.filterMap_append, run_append, ← epochHistory, reached, ok_bind]
    rfl
  | transferToPayer amount =>
    obtain ⟨_, -, same⟩ := bind_eq_ok.mp stepped
    cases same
    rw [epochHistory, List.filterMap_append, run_append, ← epochHistory, reached, ok_bind]
    rfl
  | transferFromPayer amount =>
    obtain ⟨_, -, same⟩ := bind_eq_ok.mp stepped
    cases same
    rw [epochHistory, List.filterMap_append, run_append, ← epochHistory, reached, ok_bind]
    rfl

theorem rentOf_of_unopened {accounts : EpochAccounts} (unopened : accounts.Unopened)
    (marked : accounts.epochMarker = true) (gone : accounts.epochState = .missing) :
    accounts.rentOf minimumBalance =
      Function.update (fun _ => 0) .epochMarker (minimumBalance EpochMarker.size) := by
  refine Function.eq_update_iff.mpr ⟨?_, fun account different => ?_⟩
  · simp only [EpochAccounts.rentOf, EpochAccounts.dataLen, EpochAccounts.status, marked]
    rfl
  · have missing : accounts.status account = .missing := by
      cases account with
      | epochMarker => exact absurd rfl different
      | epochState => exact Account.status_eq_missing_iff.mpr gone
      | otherEpochState => rfl
      | weightTable => exact Account.status_eq_missing_iff.mpr unopened.weightTable
      | epochSnapshot => exact Account.status_eq_missing_iff.mpr unopened.epochSnapshot
      | operatorSnapshot operator =>
        exact Account.status_eq_missing_iff.mpr (unopened.operatorSnapshots operator)
      | ballotBox => exact Account.status_eq_missing_iff.mpr unopened.ballotBox
      | baseRewardRouter => exact Account.status_eq_missing_iff.mpr unopened.baseRewardRouter
      | ncnRewardRouter operator group =>
        exact Account.status_eq_missing_iff.mpr (unopened.ncnRewardRouters (operator, group))
    rw [EpochAccounts.rentOf, EpochAccounts.dataLen, missing]
    rfl

/-! ## Results -/

/-- A history that pays for an epoch out of one transfer to the account payer. -/
def fundedHistory (timed : List (Context × EpochInstruction)) : List TreasuryInstruction :=
  .transferToPayer 3000000000 :: timed.map fun timed => .epoch timed.1 timed.2

def sampleHistory : List TreasuryInstruction := fundedHistory EpochAccounts.sampleEpoch

/-- `Rent::minimum_balance` at its default rate. -/
def sampleMinimumBalance (dataLen : ℕ) : ℕ := (128 + dataLen) * 6960

theorem sampleMinimumBalance_monotone : Monotone sampleMinimumBalance :=
  fun _ _ less => Nat.mul_le_mul_right _ (Nat.add_le_add_left less _)

/-- The treasury after the whole epoch, and that it has a full ballot box. -/
theorem exists_sampleTreasury : ∃ treasury,
    run (process EpochAccounts.sampleRuntime sampleMinimumBalance) sampleHistory
      (opening .default 0 (fun _ => 0) 0 0) = .ok treasury ∧
    treasury.accounts.dataLen .ballotBox = some BallotBox.size := by
  have runs : (run (process EpochAccounts.sampleRuntime sampleMinimumBalance) sampleHistory
      (opening .default 0 (fun _ => 0) 0 0)).toOption.any
        (fun treasury => treasury.accounts.dataLen .ballotBox == some BallotBox.size) = true := by
    decide +kernel
  obtain ⟨treasury, ran, full⟩ := exists_of_any runs
  exact ⟨treasury, ran, beq_iff_eq.mp full⟩

/-- **Rent and rewards never mix.** Whatever the instructions of an epoch do, and in any
order, what the account payer has paid is in the accounts or in the rent of the receivers
until it comes back, and what has come in as rewards is in the receivers above their
rent until it is deposited or left to the DAO. -/
theorem rent_and_rewards_stay_apart {held : ℕ} (has : HasTotal lamports held)
    (ran : run (process runtime minimumBalance) history
      (opening ncn epoch lamports accountPayer daoWallet) = .ok treasury) :
    ∃ total receivers rents, treasury.Books runtime.rentCost total receivers rents ∧
      treasury.accountPayer + total + rents + (history.map (·.spent)).sum =
        accountPayer + held + (history.map (·.funds)).sum ∧
      treasury.deposited + treasury.daoWallet + receivers =
        daoWallet + rents + (history.map (·.rewards)).sum :=
  run_books has ran

theorem rent_and_rewards_stay_apart_in_sampleHistory :
    ∃ (treasury : Treasury) (total receivers rents : ℕ),
      treasury.Books 890880 total receivers rents ∧
      treasury.accountPayer + total + rents = 3000000000 ∧
      treasury.deposited + treasury.daoWallet + receivers = rents + 1872 := by
  obtain ⟨treasury, ran, -⟩ := exists_sampleTreasury
  obtain ⟨total, receivers, rents, books, funds, rewards⟩ :=
    rent_and_rewards_stay_apart .zero ran
  have spent : (sampleHistory.map (·.spent)).sum = 0 := by decide +kernel
  have funded : (sampleHistory.map (·.funds)).sum = 3000000000 := by decide +kernel
  have rewarded : (sampleHistory.map (·.rewards)).sum = 1872 := by decide +kernel
  refine ⟨treasury, total, receivers, rents, books, ?_, ?_⟩
  · omega
  · omega

/-- **Every account is rent exempt** from the instruction that creates it to the one that
closes it: what it holds covers the data it has, however far it has grown, and the
receiver of a router keeps its rent through every distribution. -/
theorem every_account_is_rent_exempt
    (ran : run (process runtime minimumBalance) history
      (opening ncn epoch lamports accountPayer daoWallet) = .ok treasury) :
    (∀ account space, treasury.accounts.dataLen account = some space →
      minimumBalance space ≤ treasury.lamports account) ∧
    ∀ receiver : Receiver, treasury.accounts.status receiver.router ≠ .missing →
      runtime.rentCost ≤ treasury.accounts.receiver receiver := by
  obtain ⟨-, exempt, funded⟩ := run_invariant
    (motive := fun treasury : Treasury => treasury.accounts.Growing ∧
      (∀ account, treasury.accounts.rentOf minimumBalance account ≤ treasury.lamports account) ∧
      treasury.accounts.Funded runtime)
    (fun state instruction next ⟨growing, exempt, funded⟩ processed =>
      ⟨process_growing growing processed, process_exempt growing exempt processed,
        process_funded funded processed⟩)
    ⟨opening_growing, fun account => by
        rw [opening, EpochAccounts.rentOf, EpochAccounts.dataLen, status_absent]
        exact Nat.zero_le _,
      EpochAccounts.Funded.absent ncn epoch⟩ ran
  refine ⟨fun account space found => ?_, fun receiver found => rentCost_le_receiver funded found⟩
  have held := exempt account
  rw [EpochAccounts.rentOf, found] at held
  exact held

theorem every_account_is_rent_exempt_in_sampleHistory : ∃ treasury : Treasury,
    treasury.accounts.dataLen .ballotBox = some BallotBox.size ∧
      sampleMinimumBalance BallotBox.size ≤ treasury.lamports .ballotBox := by
  obtain ⟨treasury, ran, full⟩ := exists_sampleTreasury
  exact ⟨treasury, full, (every_account_is_rent_exempt ran).1 .ballotBox BallotBox.size full⟩

/-- Where nobody else transfers to an account of the epoch, it holds its rent all along. -/
theorem run_exact (monotone : Monotone minimumBalance) {account : DataAccount}
    (empty : lamports account = 0)
    (own : ∀ instruction ∈ history, ∀ lamports, instruction ≠ .transferToAccount account lamports)
    (ran : run (process runtime minimumBalance) history
      (opening ncn epoch lamports accountPayer daoWallet) = .ok treasury) :
    treasury.lamports account = treasury.accounts.rentOf minimumBalance account := by
  obtain ⟨-, exact_⟩ := foldlM_invariant
    (motive := fun treasury : Treasury => treasury.accounts.Growing ∧
      treasury.lamports account = treasury.accounts.rentOf minimumBalance account)
    (fun instruction member state next ⟨growing, held⟩ processed =>
      ⟨process_growing growing processed,
        process_exact monotone growing held (own instruction member) processed⟩)
    ⟨opening_growing, by
        rw [opening, EpochAccounts.rentOf, EpochAccounts.dataLen, status_absent]
        exact empty⟩ ran
  exact exact_

/-- **A closed epoch costs its marker.** Where nobody else transfers to the accounts of an
epoch, the account payer has everything back that it has paid for the epoch once the
epoch state is closed, except for the rent of the marker. What the epoch state of another
epoch holds is there or, where that one was closed in its place, with the account payer. -/
theorem closed_epoch_costs_its_marker (monotone : Monotone minimumBalance)
    {indexOf : Pubkey → ℕ} (distinct : Function.Injective indexOf)
    (indexed : ∀ timed ∈ epochHistory history, timed.2.Indexed indexOf)
    (own : ∀ instruction ∈ history, ∀ account ≠ DataAccount.otherEpochState, ∀ lamports,
      instruction ≠ .transferToAccount account lamports) {others : ℕ}
    (ran : run (process runtime minimumBalance) history
      (opening ncn epoch (Function.update (fun _ => 0) .otherEpochState others) accountPayer
        daoWallet) = .ok treasury)
    (closed : ClosedIn (epochHistory history) .epochState) :
    treasury.accountPayer + minimumBalance EpochMarker.size +
        treasury.lamports .otherEpochState + (history.map (·.spent)).sum =
      accountPayer + others + (history.map (·.funds)).sum := by
  have ended := EpochAccounts.run_ended distinct indexed (run_epochHistory ran)
  have marked := ended.marked.mpr closed
  have unopened := ended.unopened marked
  have gone : treasury.accounts.epochState = .missing := by
    by_contra present
    cases marked.symm.trans (ended.regular.mirrored.unmarked present)
  have onlyMarker : treasury.lamports = Function.update
      (Function.update (fun _ => 0) .epochMarker (0 + minimumBalance EpochMarker.size))
      .otherEpochState (0 + treasury.lamports .otherEpochState) := by
    refine Function.eq_update_iff.mpr ⟨(Nat.zero_add _).symm, fun account different => ?_⟩
    have empty := Function.update_of_ne different others (fun _ : DataAccount => 0)
    rw [run_exact monotone empty (fun instruction member => own instruction member account different)
      ran, rentOf_of_unopened unopened marked gone, Nat.zero_add]
  have noRents : treasury.accounts.rent runtime.rentCost = fun _ => 0 := by
    funext receiver
    rw [EpochAccounts.rent, if_pos]
    cases receiver with
    | base => exact Account.status_eq_missing_iff.mpr unopened.baseRewardRouter
    | ncn operator group =>
      exact Account.status_eq_missing_iff.mpr (unopened.ncnRewardRouters (operator, group))
  have held := HasTotal.zero.credit DataAccount.otherEpochState others
  rw [Nat.zero_add] at held
  obtain ⟨total, receivers, rents, books, funds, -⟩ := run_books held ran
  have hasTotal := books.lamports
  rw [onlyMarker] at hasTotal
  have hasRents := books.rents
  rw [noRents] at hasRents
  obtain rfl := hasRents.unique .zero
  obtain rfl := hasTotal.unique ((HasTotal.zero.credit DataAccount.epochMarker _).credit _ _)
  omega

theorem epochHistory_fundedHistory (timed : List (Context × EpochInstruction)) :
    epochHistory (fundedHistory timed) = timed := by
  have same : epochHistory (timed.map fun timed => .epoch timed.1 timed.2) = timed := by
    induction timed with
    | nil => rfl
    | cons first rest ih => exact congrArg (first :: ·) ih
  exact same

/-- The whole epoch and everything closed in the end. -/
def sampleClosedHistory : List TreasuryInstruction :=
  fundedHistory (EpochAccounts.sampleEpoch ++ EpochAccounts.sampleEnd .epochState)

/-- The instructions before the last one pay for what they create, and what they leave
can be settled. -/
theorem exists_settledTreasury : ∃ emptied settled : Treasury,
    run (process EpochAccounts.sampleRuntime sampleMinimumBalance)
      (fundedHistory (EpochAccounts.sampleEpoch ++ EpochAccounts.sampleClosing))
      (opening .default 0 (fun _ => 0) 0 0) = .ok emptied ∧
    emptied.settleClosing EpochAccounts.sampleRuntime sampleMinimumBalance .epochState =
      .ok settled := by
  have runs : (do
      let emptied ← run (process EpochAccounts.sampleRuntime sampleMinimumBalance)
        (fundedHistory (EpochAccounts.sampleEpoch ++ EpochAccounts.sampleClosing))
        (opening .default 0 (fun _ => 0) 0 0)
      let settled ←
        emptied.settleClosing EpochAccounts.sampleRuntime sampleMinimumBalance .epochState
      return (emptied, settled)).toOption.any (fun _ : Treasury × Treasury => true) = true := by
    decide +kernel
  obtain ⟨⟨emptied, settled⟩, all, -⟩ := exists_of_any runs
  obtain ⟨_, ran, all⟩ := bind_eq_ok.mp all
  obtain ⟨_, settle, same⟩ := bind_eq_ok.mp all
  cases same
  exact ⟨emptied, settled, ran, settle⟩

theorem closed_epoch_costs_its_marker_in_sampleClosedHistory : ∃ treasury : Treasury,
    run (process EpochAccounts.sampleRuntime sampleMinimumBalance) sampleClosedHistory
      (opening .default 0 (fun _ => 0) 0 0) = .ok treasury ∧
    treasury.accountPayer + sampleMinimumBalance EpochMarker.size +
      treasury.lamports .otherEpochState = 3000000000 := by
  obtain ⟨emptied, settled, ran, settle⟩ := exists_settledTreasury
  obtain ⟨middle, accounts, epochState, ranPast, ranClosing, loaded, unmarked, allowed, canClose⟩ :=
    EpochAccounts.sampleClosing_allClosed
  have accountsRan := run_epochHistory ran
  rw [epochHistory_fundedHistory, run_append, opening, ranPast, ok_bind, ranClosing] at accountsRan
  have same : accounts = emptied.accounts := Except.ok.inj accountsRan
  subst same
  have there : emptied.accounts.dataIsEmpty .epochState = false := by
    rw [EpochAccounts.dataIsEmpty, loaded]
    rfl
  have last : emptied.accounts.process EpochAccounts.sampleRuntime
      (EpochAccounts.sampleContext 5184001, .closeEpochAccount .epochState sampleWallet true) =
        .ok { emptied.accounts with
          epochState := .missing
          epochMarker := true } := by
    refine (EpochAccounts.processCloseEpochAccount_eq loaded unmarked there rfl canClose).trans ?_
    exact bind_eq_ok.mpr ⟨(), lift_eq_ok_iff.mpr allowed, rfl⟩
  have closes : run (process EpochAccounts.sampleRuntime sampleMinimumBalance) sampleClosedHistory
      (opening .default 0 (fun _ => 0) 0 0) = .ok { settled with accounts := { emptied.accounts with
        epochState := .missing
        epochMarker := true } } := by
    rw [sampleClosedHistory, EpochAccounts.sampleEnd, ← List.append_assoc, fundedHistory,
      List.map_append, ← List.cons_append, ← fundedHistory, run_append, ran, ok_bind]
    refine run_singleton.trans (bind_eq_ok.mpr ⟨_, last, bind_eq_ok.mpr ⟨settled, settle, rfl⟩⟩)
  have timed : epochHistory sampleClosedHistory =
      EpochAccounts.sampleEpoch ++ EpochAccounts.sampleEnd .epochState :=
    epochHistory_fundedHistory _
  have closed : ClosedIn (epochHistory sampleClosedHistory) .epochState := by
    rw [timed, EpochAccounts.sampleEnd, ← List.append_assoc]
    exact closedIn_append_close.mpr (.inl rfl)
  have own : ∀ instruction ∈ sampleClosedHistory, ∀ account ≠ DataAccount.otherEpochState,
      ∀ lamports, instruction ≠ .transferToAccount account lamports := by
    intro instruction member account _ lamports
    rcases List.mem_cons.mp member with rfl | member
    · rintro ⟨⟩
    · obtain ⟨timed, -, rfl⟩ := List.mem_map.mp member
      rintro ⟨⟩
  have cost := closed_epoch_costs_its_marker sampleMinimumBalance_monotone
    EpochAccounts.sampleIndex_injective
    (timed ▸ EpochAccounts.sampleEnd_indexed .epochState) own
    (by rw [Function.update_eq_self]; exact closes) closed
  have spent : (sampleClosedHistory.map (·.spent)).sum = 0 := by decide +kernel
  have funded : (sampleClosedHistory.map (·.funds)).sum = 3000000000 := by decide +kernel
  refine ⟨_, closes, ?_⟩
  omega

end Treasury

end TipRouter
