import TipRouter.EpochProgress
import TipRouter.Treasury

/-! Which accounts of an epoch an instruction creates, makes larger and closes, and which
receivers gain or lose lamports, read off the processors. What an account says does
not matter here: most instructions leave all of them as long as they were. -/
namespace TipRouter
open Runs

/-! ## Accounts that grow -/

theorem getNewSize_le {currentSize targetSize newSize : ℕ}
    (grown : getNewSize currentSize targetSize = .ok newSize) : newSize ≤ targetSize := by
  unfold getNewSize at grown
  split at grown
  · cases grown
    exact Nat.min_le_right _ _
  · cases grown

theorem le_getNewSize {currentSize targetSize newSize : ℕ} (short : currentSize < targetSize)
    (grown : getNewSize currentSize targetSize = .ok newSize) : currentSize ≤ newSize := by
  unfold getNewSize at grown
  split at grown
  · rename_i added
    cases grown
    have sum := (checkedAdd_eq_some_iff.mp added).2
    omega
  · cases grown

namespace Account

variable {α : Type} {size newSize : ℕ} {account : Account α}

@[simp] theorem status_missing : (missing : Account α).status = .missing := rfl

@[simp] theorem status_allocated {dataLen : ℕ} :
    (allocated dataLen : Account α).status = .allocated dataLen := rfl

@[simp] theorem status_ready {data : α} : (ready data).status = .ready () := rfl

theorem status_eq_missing_iff : account.status = .missing ↔ account = .missing := by
  cases account <;> simp [status]

/-- An account that is not filled yet is shorter than it is to be. -/
def Growing (size : ℕ) (account : Account α) : Prop :=
  ∀ dataLen, account = .allocated dataLen → dataLen < size

theorem growing_missing : (missing : Account α).Growing size := by
  rintro _ ⟨⟩

theorem growing_ready {data : α} : (ready data).Growing size := by
  rintro _ ⟨⟩

/-- Data is what makes an account one that exists. -/
theorem ne_missing_of_dataLen {dataLen : ℕ} (found : account.dataLen size = some dataLen) :
    account ≠ .missing := by
  rintro rfl
  cases found

theorem growing_of_status (growing : account.status.Growing size) : account.Growing size := by
  rintro dataLen rfl
  exact growing dataLen rfl

theorem resize_short (grown : account.resize size = .ok (.short newSize)) :
    ∃ dataLen, account = .allocated dataLen ∧ dataLen < size ∧
      getNewSize dataLen size = .ok newSize ∧ newSize < size := by
  cases account with
  | missing => cases grown
  | ready data => cases grown
  | allocated dataLen =>
    rw [resize] at grown
    split at grown
    · rename_i short
      obtain ⟨reached, newSized, same⟩ := bind_eq_ok.mp grown
      rw [pure_eq_ok_iff] at same
      split at same
      · rename_i still
        cases same
        exact ⟨dataLen, rfl, short, newSized, still⟩
      · cases same
    · cases grown

/-- An account that grows is filled by the instruction that gives it its last bytes. -/
theorem resize_fullSize (growing : account.Growing size)
    (grown : account.resize size = .ok .fullSize) :
    ∃ dataLen, account = .allocated dataLen ∧ dataLen < size ∧
      getNewSize dataLen size = .ok size := by
  cases account with
  | missing => cases grown
  | ready data => cases grown
  | allocated dataLen =>
    rw [resize, if_pos (growing dataLen rfl)] at grown
    obtain ⟨reached, newSized, same⟩ := bind_eq_ok.mp grown
    rw [pure_eq_ok_iff] at same
    split at same
    · cases same
    · rename_i full
      obtain rfl : reached = size := Nat.le_antisymm (getNewSize_le newSized) (Nat.le_of_not_lt full)
      exact ⟨dataLen, rfl, growing dataLen rfl, newSized⟩

theorem resize_initialized (grown : account.resize size = .ok .initialized) :
    ∃ data, account = .ready data := by
  rcases resize_eq_ok grown with ⟨data, ready, -⟩ | ⟨_, _, -, other⟩ | ⟨_, -, other⟩
  · exact ⟨data, ready⟩
  · cases other
  · cases other

end Account

/-- What a realloc instruction leaves behind. -/
def Resized.written : Resized → Account Unit
  | .short dataLen => .allocated dataLen
  | .fullSize => .ready ()
  | .initialized => .ready ()

/-! ## What the instructions do to the accounts -/

namespace EpochAccounts

variable {runtime : Runtime} {before after : EpochAccounts} {context : Context}

/-- No account comes or goes or becomes larger, and the receivers are left alone. -/
structure Keeps (before after : EpochAccounts) : Prop where
  status : after.status = before.status
  receivers : after.receiver = before.receiver

/-- One account is written. -/
structure Writes (before after : EpochAccounts) (account : DataAccount) (written : Account Unit) :
    Prop where
  status : after.status = Function.update before.status account written
  receivers : after.receiver = before.receiver

theorem Keeps.refl : Keeps before before := ⟨rfl, rfl⟩

/-- Writing what is there changes nothing. -/
theorem Writes.keeps {account : DataAccount} {written : Account Unit}
    (writes : Writes before after account written) (same : before.status account = written) :
    Keeps before after :=
  ⟨by rw [writes.status, ← same, Function.update_eq_self], writes.receivers⟩

theorem Keeps.writes {account : DataAccount} {written : Account Unit} (keeps : Keeps before after)
    (same : before.status account = written) : Writes before after account written :=
  ⟨by rw [keeps.status, ← same, Function.update_eq_self], keeps.receivers⟩

/-! ### Writing one account -/

section
variable (before : EpochAccounts)

theorem status_epochState (account : Account EpochState) :
    { before with epochState := account }.status =
      Function.update before.status .epochState account.status := by
  funext other
  cases other <;> rfl

theorem status_weightTable (account : Account WeightTable) :
    { before with weightTable := account }.status =
      Function.update before.status .weightTable account.status := by
  funext other
  cases other <;> rfl

theorem status_epochSnapshot (account : Account EpochSnapshot) :
    { before with epochSnapshot := account }.status =
      Function.update before.status .epochSnapshot account.status := by
  funext other
  cases other <;> rfl

theorem status_operatorSnapshot (operator : Pubkey) (account : Account OperatorSnapshot) :
    { before with
        operatorSnapshots := Function.update before.operatorSnapshots operator account }.status =
      Function.update before.status (.operatorSnapshot operator) account.status := by
  refine Function.eq_update_iff.mpr ⟨?_, fun other different => ?_⟩
  · simp only [status, Function.update_self]
  · cases other with
    | operatorSnapshot other =>
      have elsewhere : other ≠ operator := fun same => different (congrArg _ same)
      simp only [status, Function.update_of_ne elsewhere]
    | _ => rfl

theorem status_ballotBox (account : Account BallotBox) :
    { before with ballotBox := account }.status =
      Function.update before.status .ballotBox account.status := by
  funext other
  cases other <;> rfl

theorem status_baseRewardRouter (account : Account BaseRewardRouter) :
    { before with baseRewardRouter := account }.status =
      Function.update before.status .baseRewardRouter account.status := by
  funext other
  cases other <;> rfl

theorem status_ncnRewardRouter (operator : Pubkey) (group : NcnFeeGroup)
    (account : Account NcnRewardRouter) :
    { before with ncnRewardRouters :=
        Function.update before.ncnRewardRouters (operator, group) account }.status =
      Function.update before.status (.ncnRewardRouter operator group) account.status := by
  refine Function.eq_update_iff.mpr ⟨?_, fun other different => ?_⟩
  · simp only [status, Function.update_self]
  · cases other with
    | ncnRewardRouter other otherGroup =>
      have elsewhere : (other, otherGroup) ≠ (operator, group) := by
        intro same
        cases same
        exact different rfl
      simp only [status, Function.update_of_ne elsewhere]
    | _ => rfl

theorem receiver_base (lamports : ℕ) :
    { before with baseRewardReceiver := lamports }.receiver =
      Function.update before.receiver .base lamports := by
  funext other
  cases other <;> rfl

theorem receiver_ncn (operator : Pubkey) (group : NcnFeeGroup) (lamports : ℕ) :
    (before.withNcnReceiver operator group lamports).receiver =
      Function.update before.receiver (.ncn operator group) lamports := by
  refine Function.eq_update_iff.mpr ⟨?_, fun other different => ?_⟩
  · simp only [receiver, withNcnReceiver, Function.update_self]
  · cases other with
    | base => rfl
    | ncn other otherGroup =>
      have elsewhere : (other, otherGroup) ≠ (operator, group) := by
        intro same
        cases same
        exact different rfl
      simp only [receiver, withNcnReceiver, Function.update_of_ne elsewhere]

theorem receiver_withNcnRouter (operator : Pubkey) (group : NcnFeeGroup) (updated : EpochState)
    (account : Account NcnRewardRouter) (lamports : ℕ) :
    (before.withNcnRouter operator group updated account lamports).receiver =
      Function.update before.receiver (.ncn operator group) lamports :=
  receiver_ncn before operator group lamports

end

/-! ### Writing several of them back -/

/-- The epoch state stays an epoch state. -/
theorem keeps_withEpochState (before : EpochAccounts) {epochState : EpochState}
    (loaded : before.epochState = .ready epochState) (updated : EpochState) :
    Keeps before { before with epochState := .ready updated } := by
  refine Writes.keeps ⟨status_epochState before _, rfl⟩ ?_
  simp only [status, loaded, Account.status_ready]

section
variable {epochState : EpochState} (loaded : before.epochState = .ready epochState)
include loaded

theorem keeps_withWeighing {weightTable : WeightTable} (table : before.weightTable = .ready weightTable)
    (weighing : Weighing) : Keeps before (before.withWeighing weighing) := by
  refine ⟨?_, rfl⟩
  funext account
  cases account with
  | epochMarker => rfl
  | _ => simp only [status, withWeighing, loaded, table, Account.status_ready]

theorem keeps_withVoting {ballotBox : BallotBox} (box : before.ballotBox = .ready ballotBox)
    (voting : VotingAccounts) : Keeps before (before.withVoting voting) := by
  refine ⟨?_, rfl⟩
  funext account
  cases account with
  | epochMarker => rfl
  | _ => simp only [status, withVoting, loaded, box, Account.status_ready]

/-- The first table is filled together with the epoch state that records it. -/
theorem writes_withWeighing (weighing : Weighing) :
    Writes before (before.withWeighing weighing) .weightTable (.ready ()) :=
  ⟨(keeps_withEpochState { before with weightTable := .ready weighing.weightTable }
      loaded weighing.epochState).status.trans (status_weightTable before _), rfl⟩

theorem writes_withVoting (voting : VotingAccounts) :
    Writes before (before.withVoting voting) .ballotBox (.ready ()) :=
  ⟨(keeps_withEpochState { before with ballotBox := .ready voting.ballotBox }
      loaded voting.epochState).status.trans (status_ballotBox before _), rfl⟩

theorem status_withBaseRouter (updated : EpochState) (router : BaseRewardRouter) (lamports : ℕ) :
    (before.withBaseRouter updated router lamports).status =
      Function.update before.status .baseRewardRouter (.ready ()) :=
  (keeps_withEpochState { before with
      baseRewardRouter := .ready router
      baseRewardReceiver := lamports } loaded updated).status.trans
    (status_baseRewardRouter { before with baseRewardReceiver := lamports } _)

theorem status_withNcnRouter (operator : Pubkey) (group : NcnFeeGroup) (updated : EpochState)
    (account : Account NcnRewardRouter) (lamports : ℕ) :
    (before.withNcnRouter operator group updated account lamports).status =
      Function.update before.status (.ncnRewardRouter operator group) account.status :=
  (keeps_withEpochState { before.withNcnReceiver operator group lamports with
      ncnRewardRouters :=
        Function.update before.ncnRewardRouters (operator, group) account } loaded updated).status.trans
    (status_ncnRewardRouter (before.withNcnReceiver operator group lamports) operator group
      account)

/-- An operator snapshot is written together with the totals it counts towards. -/
theorem writes_withSnapshots {epochSnapshot : EpochSnapshot}
    (snapshot : before.epochSnapshot = .ready epochSnapshot) (snapshots : Snapshots)
    (same : snapshots.operatorSnapshots = before.operatorSnapshots) (operator : Pubkey)
    (account : Account OperatorSnapshot) :
    Writes before (before.withSnapshots (snapshots.setOperatorSnapshot operator account))
      (.operatorSnapshot operator) account.status := by
  refine ⟨?_, rfl⟩
  rw [← status_operatorSnapshot]
  funext other
  cases other with
  | epochMarker => rfl
  | _ =>
    simp only [status, withSnapshots, Snapshots.setOperatorSnapshot, same, loaded, snapshot,
      Account.status_ready]

end

/-! ### Reading an instruction -/

theorem initializeEpochState_writes
    (processed : before.processInitializeEpochState context = .ok after) :
    before.status .epochState = .missing ∧
      Writes before after .epochState (.allocated maxReallocBytes) := by
  unfold processInitializeEpochState at processed
  split at processed
  · cases processed
  obtain ⟨_, unused, processed⟩ := bind_eq_ok.mp processed
  obtain ⟨_, -, processed⟩ := bind_eq_ok.mp processed
  split at processed
  · cases processed
  cases processed
  have missing := Account.loadSystemAccount_eq_ok_iff.mp unused
  exact ⟨Account.status_eq_missing_iff.mpr missing, status_epochState before _, rfl⟩

theorem initializeWeightTable_writes {ncnVaultCount : ℕ}
    (processed : before.processInitializeWeightTable context ncnVaultCount = .ok after) :
    before.status .weightTable = .missing ∧
      Writes before after .weightTable (.allocated maxReallocBytes) := by
  obtain ⟨epochState, -, processed⟩ := bind_eq_ok.mp processed
  obtain ⟨_, -, processed⟩ := bind_eq_ok.mp processed
  obtain ⟨_, unused, processed⟩ := bind_eq_ok.mp processed
  split at processed
  · cases processed
  cases processed
  have missing := Account.loadSystemAccount_eq_ok_iff.mp unused
  exact ⟨Account.status_eq_missing_iff.mpr missing, status_weightTable before _, rfl⟩

theorem initializeEpochSnapshot_writes {operatorCount bump : ℕ}
    (processed : before.processInitializeEpochSnapshot context operatorCount bump = .ok after) :
    before.status .epochSnapshot = .missing ∧ Writes before after .epochSnapshot (.ready ()) := by
  obtain ⟨epochState, loaded, processed⟩ := bind_eq_ok.mp processed
  obtain ⟨_, -, processed⟩ := bind_eq_ok.mp processed
  obtain ⟨_, unused, processed⟩ := bind_eq_ok.mp processed
  obtain ⟨weightTable, -, processed⟩ := bind_eq_ok.mp processed
  split at processed
  · cases processed
  split at processed
  · cases processed
  cases processed
  have missing := Account.loadSystemAccount_eq_ok_iff.mp unused
  have ready := (loadAndCheckIsClosing_eq_ok_iff.mp loaded).1
  exact ⟨Account.status_eq_missing_iff.mpr missing,
    (keeps_withEpochState { before with epochSnapshot := .ready _ } ready _).status.trans
      (status_epochSnapshot before _), rfl⟩

theorem initializeOperatorSnapshot_writes {operator : Pubkey} {ncnOperatorIndex : ℕ}
    (processed : before.processInitializeOperatorSnapshot operator ncnOperatorIndex = .ok after) :
    before.status (.operatorSnapshot operator) = .missing ∧
      Writes before after (.operatorSnapshot operator) (.allocated maxReallocBytes) := by
  obtain ⟨epochState, loaded, processed⟩ := bind_eq_ok.mp processed
  obtain ⟨epochSnapshot, snapshot, processed⟩ := bind_eq_ok.mp processed
  obtain ⟨_, unused, processed⟩ := bind_eq_ok.mp processed
  obtain ⟨_, -, processed⟩ := bind_eq_ok.mp processed
  obtain ⟨snapshots, initialized, same⟩ := bind_eq_ok.mp processed
  cases same
  obtain ⟨_, -, initialized⟩ := bind_eq_ok.mp initialized
  split at initialized
  · cases initialized
  cases initialized
  have missing := Account.loadSystemAccount_eq_ok_iff.mp unused
  exact ⟨Account.status_eq_missing_iff.mpr missing,
    writes_withSnapshots (loadAndCheckIsClosing_eq_ok_iff.mp loaded).1
      (Account.load_eq_ok_iff.mp snapshot) _ rfl operator _⟩

theorem initializeBallotBox_writes (processed : before.processInitializeBallotBox = .ok after) :
    before.status .ballotBox = .missing ∧
      Writes before after .ballotBox (.allocated maxReallocBytes) := by
  obtain ⟨_, unused, processed⟩ := bind_eq_ok.mp processed
  obtain ⟨epochState, -, processed⟩ := bind_eq_ok.mp processed
  obtain ⟨_, -, same⟩ := bind_eq_ok.mp processed
  cases same
  have missing := Account.loadSystemAccount_eq_ok_iff.mp unused
  exact ⟨Account.status_eq_missing_iff.mpr missing, status_ballotBox before _, rfl⟩

/-! ### Growing an account -/

theorem reallocEpochState_writes {bump : ℕ}
    (processed : before.processReallocEpochState context bump = .ok after) :
    ∃ resized, before.epochState.resize EpochState.size = .ok resized ∧
      Writes before after .epochState resized.written := by
  obtain ⟨resized, grown, processed⟩ := bind_eq_ok.mp processed
  refine ⟨resized, grown, ?_⟩
  cases resized with
  | short dataLen =>
    cases processed
    exact ⟨status_epochState before _, rfl⟩
  | fullSize =>
    cases processed
    exact ⟨status_epochState before _, rfl⟩
  | initialized =>
    cases processed
    obtain ⟨data, ready⟩ := Account.resize_initialized grown
    exact Keeps.refl.writes (congrArg Account.status ready)

theorem reallocWeightTable_writes {bump : ℕ}
    (processed : before.processReallocWeightTable context bump = .ok after) :
    ∃ resized, before.weightTable.resize WeightTable.size = .ok resized ∧
      Writes before after .weightTable resized.written := by
  obtain ⟨epochState, loaded, processed⟩ := bind_eq_ok.mp processed
  obtain ⟨resized, grown, processed⟩ := bind_eq_ok.mp processed
  refine ⟨resized, grown, ?_⟩
  cases resized with
  | short dataLen =>
    cases processed
    exact ⟨status_weightTable before _, rfl⟩
  | fullSize =>
    obtain ⟨weighing, -, same⟩ := bind_eq_ok.mp processed
    cases same
    exact writes_withWeighing (Account.load_eq_ok_iff.mp loaded) weighing
  | initialized =>
    cases processed
    obtain ⟨data, ready⟩ := Account.resize_initialized grown
    exact Keeps.refl.writes (congrArg Account.status ready)

theorem reallocOperatorSnapshot_writes {reading : OperatorReading} {bump : ℕ}
    (processed : before.processReallocOperatorSnapshot context reading bump = .ok after) :
    ∃ resized,
      (before.operatorSnapshots reading.operator).resize OperatorSnapshot.size = .ok resized ∧
      Writes before after (.operatorSnapshot reading.operator) resized.written := by
  obtain ⟨epochState, loaded, processed⟩ := bind_eq_ok.mp processed
  obtain ⟨epochSnapshot, snapshot, processed⟩ := bind_eq_ok.mp processed
  obtain ⟨snapshots, realloc, same⟩ := bind_eq_ok.mp processed
  cases same
  obtain ⟨resized, grown, processed⟩ := bind_eq_ok.mp realloc
  have ready := Account.load_eq_ok_iff.mp loaded
  have snapshotReady := Account.load_eq_ok_iff.mp snapshot
  refine ⟨resized, grown, ?_⟩
  cases resized with
  | short dataLen =>
    cases processed
    exact writes_withSnapshots ready snapshotReady _ rfl _ _
  | fullSize =>
    obtain ⟨data, counted, updated, -, -, -, rfl⟩ :=
      Snapshots.initializeOperatorSnapshot_eq_ok processed
    exact writes_withSnapshots ready snapshotReady ⟨updated, counted, before.operatorSnapshots⟩ rfl
      _ (.ready data)
  | initialized =>
    cases processed
    obtain ⟨data, filled⟩ := Account.resize_initialized grown
    have same : before.withSnapshots ⟨epochState, epochSnapshot, before.operatorSnapshots⟩ = before := by
      simp only [withSnapshots, ← ready, ← snapshotReady]
    rw [same]
    exact Keeps.refl.writes (congrArg Account.status filled)

theorem reallocBallotBox_writes {bump : ℕ}
    (processed : before.processReallocBallotBox context bump = .ok after) :
    ∃ resized, before.ballotBox.resize BallotBox.size = .ok resized ∧
      Writes before after .ballotBox resized.written := by
  obtain ⟨epochState, loaded, processed⟩ := bind_eq_ok.mp processed
  obtain ⟨resized, grown, processed⟩ := bind_eq_ok.mp processed
  refine ⟨resized, grown, ?_⟩
  cases resized with
  | short dataLen =>
    cases processed
    exact ⟨status_ballotBox before _, rfl⟩
  | fullSize =>
    cases processed
    exact writes_withVoting (Account.load_eq_ok_iff.mp loaded) _
  | initialized =>
    cases processed
    obtain ⟨data, ready⟩ := Account.resize_initialized grown
    exact Keeps.refl.writes (congrArg Account.status ready)

theorem reallocBaseRewardRouter_writes {bump : ℕ}
    (processed : before.processReallocBaseRewardRouter context bump = .ok after) :
    ∃ resized, before.baseRewardRouter.resize BaseRewardRouter.size = .ok resized ∧
      Writes before after .baseRewardRouter resized.written := by
  obtain ⟨epochState, loaded, processed⟩ := bind_eq_ok.mp processed
  obtain ⟨resized, grown, processed⟩ := bind_eq_ok.mp processed
  refine ⟨resized, grown, ?_⟩
  cases resized with
  | short dataLen =>
    cases processed
    exact ⟨status_baseRewardRouter before _, rfl⟩
  | fullSize =>
    cases processed
    exact ⟨status_withBaseRouter (Account.load_eq_ok_iff.mp loaded) _ _ _, rfl⟩
  | initialized =>
    cases processed
    obtain ⟨data, ready⟩ := Account.resize_initialized grown
    exact Keeps.refl.writes (congrArg Account.status ready)

/-! ### Instructions that keep the accounts -/

theorem setWeight_keeps {instruction : WeightInstruction}
    (processed : before.processSetWeight runtime instruction = .ok after) : Keeps before after := by
  obtain ⟨epochState, loaded, processed⟩ := bind_eq_ok.mp processed
  obtain ⟨weightTable, table, processed⟩ := bind_eq_ok.mp processed
  obtain ⟨weighing, -, same⟩ := bind_eq_ok.mp processed
  cases same
  exact keeps_withWeighing (Account.load_eq_ok_iff.mp loaded) (Account.load_eq_ok_iff.mp table) _

theorem snapshotVaultOperatorDelegation_keeps {operator : Pubkey} {reading : VaultReading}
    (processed : before.processSnapshotVaultOperatorDelegation runtime context operator reading =
      .ok after) : Keeps before after := by
  obtain ⟨epochState, loaded, processed⟩ := bind_eq_ok.mp processed
  obtain ⟨weightTable, -, processed⟩ := bind_eq_ok.mp processed
  obtain ⟨epochSnapshot, snapshot, processed⟩ := bind_eq_ok.mp processed
  obtain ⟨snapshots, taken, same⟩ := bind_eq_ok.mp processed
  cases same
  obtain ⟨earlier, -, -, data, counted, updated, ready, -, -, -, -, rfl⟩ :=
    Snapshots.processSnapshotVaultOperatorDelegation_eq_ok taken
  have writes := writes_withSnapshots (Account.load_eq_ok_iff.mp loaded)
    (Account.load_eq_ok_iff.mp snapshot) ⟨updated, counted, before.operatorSnapshots⟩ rfl operator
    (.ready data)
  have here : before.status (.operatorSnapshot operator) = .ready () :=
    congrArg Account.status ready
  exact writes.keeps here

theorem castVote_keeps {operator voter operatorAdmin : Pubkey} {metaMerkleRoot : Bytes32}
    (processed : before.processCastVote runtime context operator voter operatorAdmin
      metaMerkleRoot = .ok after) : Keeps before after := by
  obtain ⟨epochState, loaded, processed⟩ := bind_eq_ok.mp processed
  obtain ⟨ballotBox, box, processed⟩ := bind_eq_ok.mp processed
  obtain ⟨epochSnapshot, -, processed⟩ := bind_eq_ok.mp processed
  obtain ⟨operatorSnapshot, -, processed⟩ := bind_eq_ok.mp processed
  obtain ⟨voting, -, same⟩ := bind_eq_ok.mp processed
  cases same
  exact keeps_withVoting (Account.load_eq_ok_iff.mp loaded) (Account.load_eq_ok_iff.mp box) _

theorem adminSetTieBreaker_keeps {tieBreakerAdmin : Pubkey} {metaMerkleRoot : Bytes32}
    (processed : before.processAdminSetTieBreaker context tieBreakerAdmin metaMerkleRoot =
      .ok after) : Keeps before after := by
  obtain ⟨epochState, loaded, processed⟩ := bind_eq_ok.mp processed
  obtain ⟨ballotBox, box, processed⟩ := bind_eq_ok.mp processed
  obtain ⟨voting, -, same⟩ := bind_eq_ok.mp processed
  cases same
  exact keeps_withVoting (Account.load_eq_ok_iff.mp loaded) (Account.load_eq_ok_iff.mp box) _

theorem setMerkleRoot_keeps {tipDistributionAddress : Pubkey} {proof : List Bytes32}
    {merkleRoot : Bytes32} {maxTotalClaim maxNumNodes : UInt64}
    (processed : before.processSetMerkleRoot runtime tipDistributionAddress proof merkleRoot
      maxTotalClaim maxNumNodes = .ok after) : Keeps before after := by
  obtain ⟨epochState, loaded, processed⟩ := bind_eq_ok.mp processed
  obtain ⟨ballotBox, -, processed⟩ := bind_eq_ok.mp processed
  split at processed
  · cases processed
  split at processed
  · cases processed
  obtain ⟨_, -, processed⟩ := bind_eq_ok.mp processed
  obtain ⟨updated, -, same⟩ := bind_eq_ok.mp processed
  cases same
  exact keeps_withEpochState before (Account.load_eq_ok_iff.mp loaded) _

theorem routeBaseRewards_keeps {maxIterations : ℕ}
    (processed : before.processRouteBaseRewards runtime context maxIterations = .ok after) :
    Keeps before after := by
  obtain ⟨epochState, loaded, processed⟩ := bind_eq_ok.mp processed
  obtain ⟨epochSnapshot, -, processed⟩ := bind_eq_ok.mp processed
  obtain ⟨router, ready, processed⟩ := bind_eq_ok.mp processed
  obtain ⟨ballotBox, -, processed⟩ := bind_eq_ok.mp processed
  obtain ⟨routed, -, same⟩ := bind_eq_ok.mp processed
  cases same
  exact Writes.keeps ⟨status_withBaseRouter (Account.load_eq_ok_iff.mp loaded) _ _ _, rfl⟩
    (congrArg Account.status (Account.load_eq_ok_iff.mp ready))

theorem routeNcnRewards_keeps {operator : Pubkey} {ncnFeeGroup maxIterations : ℕ}
    (processed : before.processRouteNcnRewards runtime operator ncnFeeGroup maxIterations =
      .ok after) : Keeps before after := by
  obtain ⟨epochState, loaded, processed⟩ := bind_eq_ok.mp processed
  obtain ⟨group, -, processed⟩ := bind_eq_ok.mp processed
  obtain ⟨operatorSnapshot, -, processed⟩ := bind_eq_ok.mp processed
  obtain ⟨router, ready, processed⟩ := bind_eq_ok.mp processed
  obtain ⟨routed, -, processed⟩ := bind_eq_ok.mp processed
  obtain ⟨updated, -, same⟩ := bind_eq_ok.mp processed
  cases same
  have here : before.status (.ncnRewardRouter operator group) = .ready () :=
    congrArg Account.status (Account.load_eq_ok_iff.mp ready)
  refine Writes.keeps ⟨status_withNcnRouter (Account.load_eq_ok_iff.mp loaded) operator group _ _ _,
    ?_⟩ here
  rw [receiver_withNcnRouter]
  exact Function.update_eq_self (Receiver.ncn operator group) before.receiver

/-! ### Instructions about the routers -/

theorem initializeBaseRewardRouter_writes
    (processed : before.processInitializeBaseRewardRouter runtime = .ok after) :
    before.status .baseRewardRouter = .missing ∧
      after.status =
        Function.update before.status .baseRewardRouter (.allocated maxReallocBytes) ∧
      after.receiver =
        Function.update before.receiver .base (before.receiver .base + runtime.rentCost) := by
  obtain ⟨epochState, -, processed⟩ := bind_eq_ok.mp processed
  obtain ⟨_, -, processed⟩ := bind_eq_ok.mp processed
  obtain ⟨_, unused, processed⟩ := bind_eq_ok.mp processed
  obtain ⟨lamports, paid, same⟩ := bind_eq_ok.mp processed
  cases same
  obtain rfl := receiveLamports_eq_ok paid
  have missing := Account.loadSystemAccount_eq_ok_iff.mp unused
  exact ⟨Account.status_eq_missing_iff.mpr missing,
    status_baseRewardRouter { before with baseRewardReceiver := _ } _,
    receiver_base { before with baseRewardRouter := _ } _⟩

theorem initializeNcnRewardRouter_writes {operator : Pubkey} {ncnFeeGroup bump : ℕ}
    (processed : before.processInitializeNcnRewardRouter runtime context operator ncnFeeGroup
      bump = .ok after) :
    ∃ group, NcnFeeGroup.tryFrom ncnFeeGroup = .ok group ∧
      before.status (.ncnRewardRouter operator group) = .missing ∧
      after.status = Function.update before.status (.ncnRewardRouter operator group) (.ready ()) ∧
      after.receiver = Function.update before.receiver (.ncn operator group)
        (before.receiver (.ncn operator group) + runtime.rentCost) := by
  obtain ⟨epochState, loaded, processed⟩ := bind_eq_ok.mp processed
  obtain ⟨operatorSnapshot, -, processed⟩ := bind_eq_ok.mp processed
  obtain ⟨group, parsed, processed⟩ := bind_eq_ok.mp processed
  obtain ⟨_, unused, processed⟩ := bind_eq_ok.mp processed
  obtain ⟨_, -, processed⟩ := bind_eq_ok.mp processed
  obtain ⟨lamports, paid, processed⟩ := bind_eq_ok.mp processed
  obtain ⟨updated, -, same⟩ := bind_eq_ok.mp processed
  cases same
  obtain rfl := receiveLamports_eq_ok paid
  have missing := Account.loadSystemAccount_eq_ok_iff.mp unused
  exact ⟨group, lift_eq_ok_iff.mp parsed, Account.status_eq_missing_iff.mpr missing,
    status_withNcnRouter (loadAndCheckIsClosing_eq_ok_iff.mp loaded).1 operator group _ _ _,
    receiver_withNcnRouter before operator group _ _ _⟩

/-- Rewards leave a receiver. -/
structure Sends (before after : EpochAccounts) (receiver : Receiver) (rewards : ℕ) : Prop where
  status : after.status = before.status
  covered : before.receiver receiver = after.receiver receiver + rewards
  others : after.receiver =
    Function.update before.receiver receiver (after.receiver receiver)

theorem distributeBaseRewards_sends {baseFeeGroup : ℕ} {baseFeeWallet : Pubkey}
    (processed : before.processDistributeBaseRewards context baseFeeGroup baseFeeWallet =
      .ok after) : ∃ rewards, Sends before after .base rewards := by
  obtain ⟨epochState, loaded, processed⟩ := bind_eq_ok.mp processed
  obtain ⟨router, ready, processed⟩ := bind_eq_ok.mp processed
  obtain ⟨group, -, processed⟩ := bind_eq_ok.mp processed
  obtain ⟨feeWallet, -, processed⟩ := bind_eq_ok.mp processed
  split at processed
  · cases processed
  obtain ⟨⟨rewards, distributed⟩, -, processed⟩ := bind_eq_ok.mp processed
  obtain ⟨lamports, sent, processed⟩ := bind_eq_ok.mp processed
  obtain ⟨updated, -, same⟩ := bind_eq_ok.mp processed
  cases same
  refine ⟨rewards, ?_, sendLamports_eq_ok sent,
    receiver_base (before.withBaseRouter updated distributed _) _⟩
  exact (Writes.keeps ⟨status_withBaseRouter (Account.load_eq_ok_iff.mp loaded) updated distributed
    before.baseRewardReceiver, rfl⟩
    (congrArg Account.status (Account.load_eq_ok_iff.mp ready))).status

theorem distributeNcnRewards_sends {operator : Pubkey} {ncnFeeGroup : ℕ}
    {distribute : NcnRewardRouter → Except TipRouterError (ℕ × NcnRewardRouter)}
    (processed : before.processDistributeNcnRewards operator ncnFeeGroup distribute = .ok after) :
    ∃ group rewards, NcnFeeGroup.tryFrom ncnFeeGroup = .ok group ∧
      Sends before after (.ncn operator group) rewards := by
  obtain ⟨epochState, loaded, processed⟩ := bind_eq_ok.mp processed
  obtain ⟨operatorSnapshot, -, processed⟩ := bind_eq_ok.mp processed
  obtain ⟨group, parsed, processed⟩ := bind_eq_ok.mp processed
  obtain ⟨router, ready, processed⟩ := bind_eq_ok.mp processed
  obtain ⟨⟨rewards, distributed⟩, -, processed⟩ := bind_eq_ok.mp processed
  obtain ⟨lamports, sent, processed⟩ := bind_eq_ok.mp processed
  obtain ⟨updated, -, same⟩ := bind_eq_ok.mp processed
  cases same
  have here : before.status (.ncnRewardRouter operator group) = .ready () :=
    congrArg Account.status (Account.load_eq_ok_iff.mp ready)
  have received := receiver_withNcnRouter before operator group updated (.ready distributed) lamports
  have left : (before.withNcnRouter operator group updated (.ready distributed) lamports).receiver
      (.ncn operator group) = lamports := by
    rw [received, Function.update_self]
  refine ⟨group, rewards, lift_eq_ok_iff.mp parsed, ?_, ?_, ?_⟩
  · rw [status_withNcnRouter (Account.load_eq_ok_iff.mp loaded), Account.status_ready, ← here,
      Function.update_eq_self]
  · rw [left]
    exact sendLamports_eq_ok sent
  · rw [left, received]

/-- Rewards go on from the base receiver to one of an operator's. -/
theorem distributeBaseNcnRewardRoute_passes {operator : Pubkey} {ncnFeeGroup : ℕ}
    (processed : before.processDistributeBaseNcnRewardRoute operator ncnFeeGroup = .ok after) :
    ∃ group rewards left, before.receiver .base = left + rewards ∧ after.status = before.status ∧
      after.receiver = Function.update (Function.update before.receiver .base left)
        (.ncn operator group) (before.receiver (.ncn operator group) + rewards) := by
  obtain ⟨epochState, loaded, processed⟩ := bind_eq_ok.mp processed
  obtain ⟨group, -, processed⟩ := bind_eq_ok.mp processed
  obtain ⟨router, ready, processed⟩ := bind_eq_ok.mp processed
  obtain ⟨_, -, processed⟩ := bind_eq_ok.mp processed
  obtain ⟨⟨rewards, distributed⟩, -, processed⟩ := bind_eq_ok.mp processed
  obtain ⟨left, sent, processed⟩ := bind_eq_ok.mp processed
  obtain ⟨received, paid, processed⟩ := bind_eq_ok.mp processed
  obtain ⟨updated, -, same⟩ := bind_eq_ok.mp processed
  cases same
  obtain rfl := receiveLamports_eq_ok paid
  have here : before.status .baseRewardRouter = .ready () :=
    congrArg Account.status (Account.load_eq_ok_iff.mp ready)
  refine ⟨group, rewards, left, sendLamports_eq_ok sent, ?_, ?_⟩
  · have wrote := status_withBaseRouter (Account.load_eq_ok_iff.mp loaded) updated distributed left
    rw [← here, Function.update_eq_self] at wrote
    exact wrote
  · rw [receiver_ncn]
    congr 1
    exact receiver_base before left

/-! ### Closing -/

theorem closeReceiver_covered {withReceiver : Bool} {lamports left : ℕ}
    (closed : closeReceiver runtime withReceiver lamports = .ok left) :
    runtime.rentCost ≤ lamports ∧ left = 0 := by
  unfold closeReceiver at closed
  split at closed
  · cases closed
  split at closed
  · cases closed
  · rename_i covered
    cases closed
    exact ⟨Nat.le_of_not_lt covered, rfl⟩

/-- A router is closed together with its receiver. -/
structure ClosesRouter (rentCost : ℕ) (before after : EpochAccounts) (receiver : Receiver) :
    Prop where
  found : before.status receiver.router = .ready ()
  covered : rentCost ≤ before.receiver receiver
  status : after.status = Function.update before.status receiver.router .missing
  receivers : after.receiver = Function.update before.receiver receiver 0

section
variable {epochState found : EpochState} {withReceiver : Bool}
variable (loaded : before.epochState = .ready found)
include loaded

theorem closeAccount_baseRewardRouter (closed : before.closeAccount runtime epochState withReceiver
      .baseRewardRouter = .ok after) : ClosesRouter runtime.rentCost before after .base := by
  obtain ⟨router, ready, closed⟩ := bind_eq_ok.mp closed
  obtain ⟨left, emptied, same⟩ := bind_eq_ok.mp closed
  cases same
  obtain ⟨covered, rfl⟩ := closeReceiver_covered emptied
  refine ⟨congrArg Account.status (loadToClose_eq_ok ready), covered, ?_,
    receiver_base { before with epochState := _, baseRewardRouter := _ } 0⟩
  exact (keeps_withEpochState { before with baseRewardRouter := .missing, baseRewardReceiver := 0 }
    loaded _).status.trans (status_baseRewardRouter { before with baseRewardReceiver := 0 } _)

theorem closeAccount_ncnRewardRouter {operator : Pubkey} {group : NcnFeeGroup}
    (closed : before.closeAccount runtime epochState withReceiver
      (.ncnRewardRouter operator group) = .ok after) :
    ClosesRouter runtime.rentCost before after (.ncn operator group) := by
  obtain ⟨router, ready, closed⟩ := bind_eq_ok.mp closed
  obtain ⟨left, emptied, closed⟩ := bind_eq_ok.mp closed
  obtain ⟨updated, -, same⟩ := bind_eq_ok.mp closed
  cases same
  obtain ⟨covered, rfl⟩ := closeReceiver_covered emptied
  exact ⟨congrArg Account.status (loadToClose_eq_ok ready), covered,
    status_withNcnRouter loaded operator group _ _ _,
    receiver_withNcnRouter before operator group _ _ _⟩

omit loaded in
theorem closeAccount_epochState (closed : before.closeAccount runtime epochState withReceiver
      .epochState = .ok after) :
    after.status =
        Function.update (Function.update before.status .epochState .missing) .epochMarker
          (.ready ()) ∧
      after.receiver = before.receiver := by
  obtain ⟨_, -, same⟩ := bind_eq_ok.mp closed
  cases same
  refine ⟨?_, rfl⟩
  funext other
  cases other <;> rfl

theorem closeAccount_writes {accountToClose : AccountToClose}
    (closed : before.closeAccount runtime epochState withReceiver accountToClose = .ok after)
    (notState : accountToClose ≠ .epochState)
    (notRouter : ∀ receiver : Receiver, accountToClose.account ≠ receiver.router) :
    Writes before after accountToClose.account .missing := by
  cases accountToClose with
  | epochState => exact absurd rfl notState
  | otherEpochState =>
    obtain ⟨_, -, same⟩ := bind_eq_ok.mp closed
    cases same
    exact (keeps_withEpochState before loaded _).writes rfl
  | weightTable =>
    obtain ⟨_, -, same⟩ := bind_eq_ok.mp closed
    cases same
    exact ⟨(keeps_withEpochState { before with weightTable := .missing } loaded _).status.trans
      (status_weightTable before _), rfl⟩
  | epochSnapshot =>
    obtain ⟨_, -, same⟩ := bind_eq_ok.mp closed
    cases same
    exact ⟨(keeps_withEpochState { before with epochSnapshot := .missing } loaded _).status.trans
      (status_epochSnapshot before _), rfl⟩
  | operatorSnapshot operator =>
    obtain ⟨_, -, closed⟩ := bind_eq_ok.mp closed
    obtain ⟨updated, -, same⟩ := bind_eq_ok.mp closed
    cases same
    let without : EpochAccounts := { before with
      operatorSnapshots := Function.update before.operatorSnapshots operator .missing }
    exact ⟨(keeps_withEpochState without loaded updated).status.trans
      (status_operatorSnapshot before operator _), rfl⟩
  | ballotBox =>
    obtain ⟨_, -, same⟩ := bind_eq_ok.mp closed
    cases same
    exact ⟨(keeps_withEpochState { before with ballotBox := .missing } loaded _).status.trans
      (status_ballotBox before _), rfl⟩
  | baseRewardRouter => exact absurd rfl (notRouter .base)
  | ncnRewardRouter operator group => exact absurd rfl (notRouter (.ncn operator group))

end

end EpochAccounts

end TipRouter
