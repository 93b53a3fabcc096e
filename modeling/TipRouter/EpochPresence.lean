import TipRouter.RoutingPositions
import TipRouter.TreasuryPostings

/-! Which accounts of an epoch can be there. Accounts of an operator appear only in
instructions about that operator. What is not filled has as much data as one instruction
may give it, becomes no smaller and is short of its full size. -/
namespace TipRouter
open Runs

/-- What an instruction creates belongs to one of these operators, if to any. -/
def EpochInstruction.ListedIn (operators : List Pubkey) : EpochInstruction → Prop
  | initializeOperatorSnapshot operator _ => operator ∈ operators
  | initializeNcnRewardRouter operator _ _ => operator ∈ operators
  | _ => True

def DataAccount.ListedIn (operators : List Pubkey) : DataAccount → Prop
  | operatorSnapshot operator => operator ∈ operators
  | ncnRewardRouter operator _ => operator ∈ operators
  | _ => True

namespace EpochAccounts

variable {runtime : Runtime} {before after : EpochAccounts} {context : Context}
variable {instruction : EpochInstruction} {account place : DataAccount} {written : Account Unit}

/-- What is not filled has as much data as one instruction gives it, and not all of it. -/
def Partial (account : DataAccount) (status : Account Unit) : Prop :=
  ∀ dataLen, status = .allocated dataLen → maxReallocBytes ≤ dataLen ∧ dataLen < account.size

theorem partial_of_ready : Partial account (.ready ()) := by
  rintro _ ⟨⟩

theorem partial_of_created (short : maxReallocBytes < account.size) :
    Partial account (.allocated maxReallocBytes) := by
  rintro _ ⟨⟩
  exact ⟨le_rfl, short⟩

/-- How an instruction may change whether an account is there. -/
inductive Presence (instruction : EpochInstruction) (account : DataAccount) :
    Account Unit → Account Unit → Prop
  | kept (status : Account Unit) : Presence instruction account status status
  | created {written : Account Unit}
      (listed : ∀ operators, instruction.ListedIn operators → account.ListedIn operators)
      (short : Partial account written) : Presence instruction account .missing written
  | grown {dataLen : ℕ} {written : Account Unit}
      (larger : ∀ newSize, written = .allocated newSize →
        dataLen ≤ newSize ∧ newSize < account.size) :
      Presence instruction account (.allocated dataLen) written
  | closed (status : Account Unit) : Presence instruction account status .missing

namespace Presence

theorem of_same (same : after.status = before.status) (account : DataAccount) :
    Presence instruction account (before.status account) (after.status account) := by
  rw [same]
  exact .kept _

theorem of_update (update : after.status = Function.update before.status place written)
    (here : Presence instruction place (before.status place) written) (account : DataAccount) :
    Presence instruction account (before.status account) (after.status account) := by
  rw [update]
  by_cases same : account = place
  · rw [same, Function.update_self]
    exact here
  · rw [Function.update_of_ne same]
    exact .kept _

theorem of_created (unused : before.status place = .missing)
    (writes : Writes before after place written)
    (listed : ∀ operators, instruction.ListedIn operators → place.ListedIn operators)
    (short : Partial place written) (account : DataAccount) :
    Presence instruction account (before.status account) (after.status account) := by
  refine of_update writes.status ?_ account
  rw [unused]
  exact .created listed short

theorem of_realloc {α : Type} {held : Account α} {resized : Resized}
    (writes : Writes before after place resized.written)
    (here : before.status place = held.status) (grown : held.resize place.size = .ok resized)
    (account : DataAccount) :
    Presence instruction account (before.status account) (after.status account) := by
  refine of_update writes.status ?_ account
  rw [here]
  cases resized with
  | short newSize =>
    obtain ⟨dataLen, rfl, short, reached, stillShort⟩ := Account.resize_short grown
    refine .grown fun other same => ?_
    cases same
    exact ⟨le_getNewSize short reached, stillShort⟩
  | fullSize =>
    rcases Account.resize_eq_ok grown with ⟨data, -, other⟩ | ⟨_, _, -, other⟩ | ⟨dataLen, rfl, -⟩
    · cases other
    · cases other
    · exact .grown (by rintro _ ⟨⟩)
  | initialized =>
    obtain ⟨data, rfl⟩ := Account.resize_initialized grown
    exact .kept _

theorem of_closing {epochState found : EpochState} {withReceiver : Bool}
    {accountToClose : AccountToClose} (loaded : before.epochState = .ready found)
    (unmarked : before.epochMarker = false)
    (close : before.closeAccount runtime epochState withReceiver accountToClose = .ok after)
    (account : DataAccount) :
    Presence instruction account (before.status account) (after.status account) := by
  have plain (notState : accountToClose ≠ .epochState)
      (other : accountToClose.account.isRouter = false) :
      Presence instruction account (before.status account) (after.status account) :=
    of_update (closeAccount_writes loaded close notState (DataAccount.ne_router other)).status
      (.closed _) account
  cases accountToClose with
  | epochState =>
    obtain ⟨status, -⟩ := closeAccount_epochState close
    rw [status]
    cases account with
    | epochMarker =>
      rw [Function.update_self, EpochAccounts.status, unmarked, if_neg Bool.false_ne_true]
      exact .created (fun _ _ => trivial) (by rintro _ ⟨⟩)
    | epochState => exact .closed _
    | _ => exact .kept _
  | baseRewardRouter =>
    exact of_update (closeAccount_baseRewardRouter loaded close).status (.closed _) account
  | ncnRewardRouter operator group =>
    exact of_update (closeAccount_ncnRewardRouter loaded close).status (.closed _) account
  | otherEpochState => exact plain (by rintro ⟨⟩) rfl
  | weightTable => exact plain (by rintro ⟨⟩) rfl
  | epochSnapshot => exact plain (by rintro ⟨⟩) rfl
  | operatorSnapshot operator => exact plain (by rintro ⟨⟩) rfl
  | ballotBox => exact plain (by rintro ⟨⟩) rfl

end Presence

/-- Every instruction changes each account in one of these ways. -/
theorem process_presence (processed : before.process runtime (context, instruction) = .ok after)
    (account : DataAccount) :
    Presence instruction account (before.status account) (after.status account) := by
  cases instruction with
  | initializeEpochState =>
    obtain ⟨unused, writes⟩ := initializeEpochState_writes processed
    exact .of_created unused writes (fun _ _ => trivial) (partial_of_created (by decide)) account
  | reallocEpochState bump =>
    obtain ⟨resized, grown, writes⟩ := reallocEpochState_writes processed
    exact .of_realloc writes rfl grown account
  | initializeWeightTable ncnVaultCount =>
    obtain ⟨unused, writes⟩ := initializeWeightTable_writes processed
    exact .of_created unused writes (fun _ _ => trivial) (partial_of_created (by decide)) account
  | reallocWeightTable bump =>
    obtain ⟨resized, grown, writes⟩ := reallocWeightTable_writes processed
    exact .of_realloc writes rfl grown account
  | adminSetWeight ncnWeightTableAdmin weightTableAdmin stMint weight =>
    exact .of_same (setWeight_keeps processed).status account
  | switchboardSetWeight stMint feed => exact .of_same (setWeight_keeps processed).status account
  | initializeEpochSnapshot operatorCount bump =>
    obtain ⟨unused, writes⟩ := initializeEpochSnapshot_writes processed
    exact .of_created unused writes (fun _ _ => trivial) partial_of_ready account
  | initializeOperatorSnapshot operator ncnOperatorIndex =>
    obtain ⟨unused, writes⟩ := initializeOperatorSnapshot_writes processed
    have short : maxReallocBytes < OperatorSnapshot.size := by decide
    refine .of_created unused writes ?_ (partial_of_created short) account
    exact fun _ listed => listed
  | reallocOperatorSnapshot reading bump =>
    obtain ⟨resized, grown, writes⟩ := reallocOperatorSnapshot_writes processed
    exact .of_realloc writes rfl grown account
  | snapshotVaultOperatorDelegation operator reading =>
    exact .of_same (snapshotVaultOperatorDelegation_keeps processed).status account
  | initializeBallotBox =>
    obtain ⟨unused, writes⟩ := initializeBallotBox_writes processed
    exact .of_created unused writes (fun _ _ => trivial) (partial_of_created (by decide)) account
  | reallocBallotBox bump =>
    obtain ⟨resized, grown, writes⟩ := reallocBallotBox_writes processed
    exact .of_realloc writes rfl grown account
  | castVote operator voter operatorAdmin metaMerkleRoot =>
    exact .of_same (castVote_keeps processed).status account
  | adminSetTieBreaker tieBreakerAdmin metaMerkleRoot =>
    exact .of_same (adminSetTieBreaker_keeps processed).status account
  | setMerkleRoot tipDistributionAddress proof merkleRoot maxTotalClaim maxNumNodes =>
    exact .of_same (setMerkleRoot_keeps processed).status account
  | initializeBaseRewardRouter =>
    obtain ⟨unused, status, -⟩ := initializeBaseRewardRouter_writes processed
    refine .of_update status ?_ account
    rw [unused]
    exact .created (fun _ _ => trivial) (partial_of_created (by decide))
  | reallocBaseRewardRouter bump =>
    obtain ⟨resized, grown, writes⟩ := reallocBaseRewardRouter_writes processed
    exact .of_realloc writes rfl grown account
  | initializeNcnRewardRouter operator ncnFeeGroup bump =>
    obtain ⟨group, -, unused, status, -⟩ := initializeNcnRewardRouter_writes processed
    refine .of_update status ?_ account
    rw [unused]
    exact .created (fun _ listed => listed) partial_of_ready
  | routeBaseRewards maxIterations =>
    exact .of_same (routeBaseRewards_keeps processed).status account
  | routeNcnRewards operator ncnFeeGroup maxIterations =>
    exact .of_same (routeNcnRewards_keeps processed).status account
  | distributeBaseRewards baseFeeGroup baseFeeWallet =>
    obtain ⟨rewards, sends⟩ := distributeBaseRewards_sends processed
    exact .of_same sends.status account
  | distributeBaseNcnRewardRoute operator ncnFeeGroup =>
    obtain ⟨group, rewards, left, -, status, -⟩ := distributeBaseNcnRewardRoute_passes processed
    exact .of_same status account
  | distributeNcnOperatorRewards operator ncnFeeGroup =>
    obtain ⟨group, rewards, -, sends⟩ := distributeNcnRewards_sends processed
    exact .of_same sends.status account
  | distributeNcnVaultRewards operator vault ncnFeeGroup =>
    obtain ⟨group, rewards, -, sends⟩ := distributeNcnRewards_sends processed
    exact .of_same sends.status account
  | closeEpochAccount accountToClose daoWallet withReceiver =>
    obtain ⟨epochState, loaded, unmarked, -, -, close⟩ := processCloseEpochAccount_eq_ok processed
    exact .of_closing loaded unmarked close account
  | transferToBaseReceiver lamports =>
    obtain ⟨received, -, same⟩ := bind_eq_ok.mp processed
    cases same
    exact .kept _
  | transferToNcnReceiver operator group lamports =>
    obtain ⟨received, -, same⟩ := bind_eq_ok.mp processed
    cases same
    exact .kept _

/-! ## What is there -/

/-- The accounts that are there belong to these operators, and are filled or part of the
way there. -/
structure Present (operators : List Pubkey) (accounts : EpochAccounts) : Prop where
  listed : ∀ account, accounts.status account ≠ .missing → account.ListedIn operators
  short : ∀ account, Partial account (accounts.status account)

namespace Present

variable {operators : List Pubkey}

theorem absent (ncn : Pubkey) (epoch : ℕ) : (absent ncn epoch).Present operators := by
  have nothing : ∀ account, (EpochAccounts.absent ncn epoch).status account = .missing := by
    intro account
    cases account <;> rfl
  refine ⟨fun account there => absurd (nothing account) there, fun account dataLen there => ?_⟩
  cases (nothing account).symm.trans there

theorem process (present : before.Present operators) (listed : instruction.ListedIn operators)
    (processed : before.process runtime (context, instruction) = .ok after) :
    after.Present operators := by
  constructor
  · intro account there
    have step := process_presence processed account
    have was := present.listed account
    generalize before.status account = earlier at step was
    generalize after.status account = later at step there
    cases step with
    | kept => exact was there
    | created creates short => exact creates operators listed
    | grown larger => exact was (by rintro ⟨⟩)
    | closed => exact absurd rfl there
  · intro account dataLen there
    have step := process_presence processed account
    have was := present.short account
    generalize before.status account = earlier at step was
    rw [there] at step
    cases step with
    | kept => exact was dataLen rfl
    | created creates short => exact short dataLen rfl
    | grown larger => exact ⟨(was _ rfl).1.trans (larger dataLen rfl).1, (larger dataLen rfl).2⟩

end Present

end EpochAccounts

end TipRouter
