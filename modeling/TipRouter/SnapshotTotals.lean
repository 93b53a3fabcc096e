import TipRouter.EpochSnapshot
import TipRouter.WeightFinality

/-! Taking the snapshot of an epoch: `program/src/initialize_epoch_snapshot.rs`,
`realloc_operator_snapshot.rs` and `snapshot_vault_operator_delegation.rs`. An
operator is added to the epoch's totals when its own snapshot becomes final,
an inactive one as soon as it exists and an active one with its last vault. -/
namespace TipRouter
open Runs

/-! ## The instructions -/

/-- An operator of the restaking program, and its state with the NCN at the
slot of the instruction. -/
structure OperatorReading where
  operator : Pubkey
  operatorIndex : ℕ
  operatorFeeBps : ℕ
  ncnOperatorIndex : ℕ
  ncnOptInIsActive : Bool
  operatorOptInIsActiveOrCooldown : Bool

/-- A vault with its tickets and its delegation at the slot of the instruction;
an account that does not exist is `none`. -/
structure VaultReading where
  vault : Pubkey
  vaultIndex : ℕ
  supportedMint : Pubkey
  isUpdateNeeded : Bool
  ncnVaultTicketIsActive : Bool
  vaultNcnTicketIsActiveOrCooldown : Option Bool
  totalSecurity : Option ℕ

inductive SnapshotInstruction where
  | initializeOperatorSnapshot (operator : Pubkey) (ncnOperatorIndex : ℕ)
  | reallocOperatorSnapshot (reading : OperatorReading) (bump slot : ℕ)
  | snapshotVaultOperatorDelegation (operator : Pubkey) (reading : VaultReading) (slot : ℕ)

/-- The accounts the instructions change. -/
structure Snapshots where
  epochState : EpochState
  epochSnapshot : EpochSnapshot
  operatorSnapshots : Pubkey → Account OperatorSnapshot

namespace Snapshots

/-- `process_initialize_epoch_snapshot`; nobody has an operator snapshot yet. -/
def start (epochState : EpochState) (weightTable : WeightTable) (feeConfig : FeeConfig) (ncn : Pubkey)
    (epoch bump slot operatorCount : ℕ) : Except InstructionError Snapshots :=
  if !weightTable.finalized then .error (.custom .weightTableNotFinalized)
  else if operatorCount = 0 then .error (.custom .noOperators)
  else .ok
    { epochState := epochState.updateInitializeEpochSnapshot operatorCount
      epochSnapshot := .new ncn epoch bump slot (feeConfig.currentFees epoch) operatorCount
        weightTable.vaultCount
      operatorSnapshots := fun _ => .missing }

def setOperatorSnapshot (self : Snapshots) (operator : Pubkey) (account : Account OperatorSnapshot) :
    Snapshots :=
  { self with operatorSnapshots := Function.update self.operatorSnapshots operator account }

/-- `process_initialize_operator_snapshot`. -/
def processInitializeOperatorSnapshot (self : Snapshots) (operator : Pubkey)
    (ncnOperatorIndex : ℕ) : Except InstructionError Snapshots := do
  (self.operatorSnapshots operator).loadSystemAccount
  if self.epochSnapshot.operatorCount ≤ ncnOperatorIndex then
    .error (.custom .operatorIsNotInSnapshot)
  else return self.setOperatorSnapshot operator (.allocated maxReallocBytes)

/-- The part of `process_realloc_operator_snapshot` that fills the full-size account. -/
def initializeOperatorSnapshot (self : Snapshots) (reading : OperatorReading) (bump slot : ℕ) :
    Except InstructionError Snapshots := do
  let isActive := reading.ncnOptInIsActive && reading.operatorOptInIsActiveOrCooldown
  let operatorSnapshot ← OperatorSnapshot.initializeSnapshot reading.operator self.epochSnapshot.ncn
    self.epochSnapshot.epoch bump slot isActive reading.ncnOperatorIndex reading.operatorIndex
    reading.operatorFeeBps self.epochSnapshot.vaultCount
  let epochSnapshot ←
    (if !isActive then
      liftM (self.epochSnapshot.incrementOperatorRegistration slot 0 .default)
    else .ok self.epochSnapshot : Except InstructionError EpochSnapshot)
  let epochState ←
    self.epochState.updateReallocOperatorSnapshot reading.ncnOperatorIndex isActive
  return { self with epochState := epochState, epochSnapshot := epochSnapshot }
    |>.setOperatorSnapshot reading.operator (.ready operatorSnapshot)

/-- `process_realloc_operator_snapshot`. -/
def processReallocOperatorSnapshot (self : Snapshots) (reading : OperatorReading)
    (bump slot : ℕ) : Except InstructionError Snapshots := do
  match ← (self.operatorSnapshots reading.operator).resize OperatorSnapshot.size with
  | .short dataLen => return self.setOperatorSnapshot reading.operator (.allocated dataLen)
  | .fullSize => self.initializeOperatorSnapshot reading bump slot
  | .initialized => return self

/-- The weight of a vault's delegation, zero when the vault, the NCN or the
delegation is not active. -/
def vaultStakeWeights (spl : SplMath) (weightTable : WeightTable) (reading : VaultReading) :
    Except InstructionError (NcnFeeGroup × StakeWeights) := do
  if reading.isUpdateNeeded then .error (.custom .vaultNeedsUpdate)
  else do
    let vaultNcnOkay := reading.vaultNcnTicketIsActiveOrCooldown.getD false
    let weightEntry ← weightTable.getWeightEntry reading.supportedMint
    weightTable.checkRegistryForVault reading.vaultIndex
    let totalStakeWeight ←
      (match reading.totalSecurity with
      | some totalSecurity =>
        if vaultNcnOkay && reading.ncnVaultTicketIsActive then
          liftM (OperatorSnapshot.calculateTotalStakeWeight spl totalSecurity weightTable
            reading.supportedMint)
        else .ok 0
      | none => .ok 0 : Except InstructionError ℕ)
    let ncnFeeGroup := weightEntry.stMintEntry.ncnFeeGroup
    let stakeWeights ← StakeWeights.snapshot ncnFeeGroup totalStakeWeight
      weightEntry.stMintEntry.rewardMultiplierBps
    return (ncnFeeGroup, stakeWeights)

/-- `process_snapshot_vault_operator_delegation`. -/
def processSnapshotVaultOperatorDelegation (spl : SplMath) (weightTable : WeightTable)
    (self : Snapshots) (operator : Pubkey) (reading : VaultReading) (slot : ℕ) :
    Except InstructionError Snapshots := do
  let operatorSnapshot ← (self.operatorSnapshots operator).load
  let (ncnFeeGroup, stakeWeights) ← vaultStakeWeights spl weightTable reading
  let operatorSnapshot ← operatorSnapshot.incrementVaultOperatorDelegationRegistration slot
    reading.vault reading.vaultIndex ncnFeeGroup stakeWeights
  let epochSnapshot ←
    (if operatorSnapshot.finalized then
      liftM (self.epochSnapshot.incrementOperatorRegistration slot
        operatorSnapshot.validOperatorVaultDelegations operatorSnapshot.stakeWeights)
    else .ok self.epochSnapshot : Except InstructionError EpochSnapshot)
  let epochState ← self.epochState.updateSnapshotVaultOperatorDelegation
    operatorSnapshot.ncnOperatorIndex operatorSnapshot.finalized
  return { self with epochState := epochState, epochSnapshot := epochSnapshot }
    |>.setOperatorSnapshot operator (.ready operatorSnapshot)

def process (spl : SplMath) (weightTable : WeightTable) (self : Snapshots) :
    SnapshotInstruction → Except InstructionError Snapshots
  | .initializeOperatorSnapshot operator ncnOperatorIndex =>
    self.processInitializeOperatorSnapshot operator ncnOperatorIndex
  | .reallocOperatorSnapshot reading bump slot =>
    self.processReallocOperatorSnapshot reading bump slot
  | .snapshotVaultOperatorDelegation operator reading slot =>
    processSnapshotVaultOperatorDelegation spl weightTable self operator reading slot

end Snapshots

@[simp] theorem Snapshots.setOperatorSnapshot_self {self : Snapshots} {operator : Pubkey}
    {account : Account OperatorSnapshot} :
    (self.setOperatorSnapshot operator account).operatorSnapshots operator = account :=
  Function.update_self ..

theorem Snapshots.setOperatorSnapshot_of_ne {self : Snapshots} {operator other : Pubkey}
    {account : Account OperatorSnapshot} (different : other ≠ operator) :
    (self.setOperatorSnapshot operator account).operatorSnapshots other =
      self.operatorSnapshots other :=
  Function.update_of_ne different ..

/-- An operator that is final is registered with the epoch; any other leaves the
epoch snapshot as it is. -/
def EpochSnapshot.Registers (before after : EpochSnapshot) (final : Bool) (slot delegations : ℕ)
    (stakeWeights : StakeWeights) : Prop :=
  final = true ∧
      before.incrementOperatorRegistration slot delegations stakeWeights = .ok after ∨
    final = false ∧ after = before

namespace EpochSnapshot.Registers
variable {before after : EpochSnapshot} {final : Bool} {slot delegations : ℕ}
variable {stakeWeights : StakeWeights}

theorem of_eq_ok
    (counted : (if final then
        liftM (before.incrementOperatorRegistration slot delegations stakeWeights)
      else .ok before : Except InstructionError EpochSnapshot) = .ok after) :
    before.Registers after final slot delegations stakeWeights := by
  cases final with
  | true => exact .inl ⟨rfl, lift_eq_ok_iff.mp counted⟩
  | false =>
    cases counted
    exact .inr ⟨rfl, rfl⟩

theorem operatorCount (registers : before.Registers after final slot delegations stakeWeights) :
    after.operatorCount = before.operatorCount := by
  rcases registers with ⟨-, registered⟩ | ⟨-, rfl⟩
  · obtain ⟨-, -, -, -, sameCount, -⟩ := incrementOperatorRegistration_eq_ok registered
    exact sameCount
  · rfl

/-- Once all operators are registered the epoch snapshot is not changed any more. -/
theorem of_finalized (registers : before.Registers after final slot delegations stakeWeights)
    (done : before.finalized = true) : after = before := by
  rcases registers with ⟨-, registered⟩ | ⟨-, same⟩
  · obtain ⟨pending, -⟩ := incrementOperatorRegistration_eq_ok registered
    cases done.symm.trans pending
  · exact same

end EpochSnapshot.Registers

theorem Snapshots.initializeOperatorSnapshot_eq_ok {snapshots next : Snapshots}
    {reading : OperatorReading} {bump slot : ℕ}
    (filled : snapshots.initializeOperatorSnapshot reading bump slot = .ok next) :
    ∃ data after epochState,
      OperatorSnapshot.initializeSnapshot reading.operator snapshots.epochSnapshot.ncn
        snapshots.epochSnapshot.epoch bump slot
        (reading.ncnOptInIsActive && reading.operatorOptInIsActiveOrCooldown)
        reading.ncnOperatorIndex reading.operatorIndex reading.operatorFeeBps
        snapshots.epochSnapshot.vaultCount = .ok data ∧
      snapshots.epochSnapshot.Registers after
        (!(reading.ncnOptInIsActive && reading.operatorOptInIsActiveOrCooldown)) slot 0 .default ∧
      snapshots.epochState.updateReallocOperatorSnapshot reading.ncnOperatorIndex
        (reading.ncnOptInIsActive && reading.operatorOptInIsActiveOrCooldown) = .ok epochState ∧
      next = { snapshots with epochState := epochState, epochSnapshot := after }.setOperatorSnapshot
        reading.operator (.ready data) := by
  obtain ⟨data, initialized, filled⟩ := bind_eq_ok.mp filled
  obtain ⟨after, counted, filled⟩ := bind_eq_ok.mp filled
  obtain ⟨epochState, update, same⟩ := bind_eq_ok.mp filled
  cases same
  exact ⟨data, after, epochState, lift_eq_ok_iff.mp initialized, .of_eq_ok counted, update, rfl⟩

theorem Snapshots.processSnapshotVaultOperatorDelegation_eq_ok {spl : SplMath}
    {weightTable : WeightTable} {snapshots next : Snapshots} {operator : Pubkey}
    {reading : VaultReading} {slot : ℕ}
    (taken : snapshots.processSnapshotVaultOperatorDelegation spl weightTable operator reading
      slot = .ok next) :
    ∃ before ncnFeeGroup stakeWeights data after epochState,
      snapshots.operatorSnapshots operator = .ready before ∧
      vaultStakeWeights spl weightTable reading = .ok (ncnFeeGroup, stakeWeights) ∧
      before.incrementVaultOperatorDelegationRegistration slot reading.vault reading.vaultIndex
        ncnFeeGroup stakeWeights = .ok data ∧
      snapshots.epochSnapshot.Registers after data.finalized slot
        data.validOperatorVaultDelegations data.stakeWeights ∧
      snapshots.epochState.updateSnapshotVaultOperatorDelegation data.ncnOperatorIndex
        data.finalized = .ok epochState ∧
      next = { snapshots with epochState := epochState, epochSnapshot := after }.setOperatorSnapshot
        operator (.ready data) := by
  obtain ⟨before, loaded, taken⟩ := bind_eq_ok.mp taken
  obtain ⟨⟨ncnFeeGroup, stakeWeights⟩, weighed, taken⟩ := bind_eq_ok.mp taken
  obtain ⟨data, registered, taken⟩ := bind_eq_ok.mp taken
  obtain ⟨after, counted, taken⟩ := bind_eq_ok.mp taken
  obtain ⟨epochState, update, same⟩ := bind_eq_ok.mp taken
  cases same
  exact ⟨before, ncnFeeGroup, stakeWeights, data, after, epochState,
    Account.load_eq_ok_iff.mp loaded, weighed, lift_eq_ok_iff.mp registered, .of_eq_ok counted,
    update, rfl⟩

/-- What one instruction does to the snapshot account of an operator: an account
that is ready stays ready, and only takes in vaults. -/
inductive Snapshots.OperatorStep (spl : SplMath) (weightTable : WeightTable) (operator : Pubkey) :
    SnapshotInstruction → Account OperatorSnapshot → Account OperatorSnapshot → Prop
  | unchanged {instruction : SnapshotInstruction} {account : Account OperatorSnapshot} :
      OperatorStep spl weightTable operator instruction account account
  | resized {instruction : SnapshotInstruction} {account : Account OperatorSnapshot} {dataLen : ℕ}
      (pending : ∀ snapshot, account ≠ .ready snapshot) :
      OperatorStep spl weightTable operator instruction account (.allocated dataLen)
  | filled {reading : OperatorReading} {account : Account OperatorSnapshot} {ncn : Pubkey}
      {ncnEpoch bump slot delegations : ℕ} {isActive : Bool} {snapshot : OperatorSnapshot}
      (pending : ∀ snapshot, account ≠ .ready snapshot)
      (initialized : OperatorSnapshot.initializeSnapshot reading.operator ncn ncnEpoch bump slot
        isActive reading.ncnOperatorIndex reading.operatorIndex reading.operatorFeeBps delegations =
          .ok snapshot) :
      OperatorStep spl weightTable operator (.reallocOperatorSnapshot reading bump slot) account
        (.ready snapshot)
  | registered {reading : VaultReading} {slot : ℕ} {ncnFeeGroup : NcnFeeGroup}
      {stakeWeights : StakeWeights} {before after : OperatorSnapshot}
      (weighed : Snapshots.vaultStakeWeights spl weightTable reading =
        .ok (ncnFeeGroup, stakeWeights))
      (registered : before.incrementVaultOperatorDelegationRegistration slot reading.vault
        reading.vaultIndex ncnFeeGroup stakeWeights = .ok after) :
      OperatorStep spl weightTable operator
        (.snapshotVaultOperatorDelegation operator reading slot) (.ready before) (.ready after)

theorem Snapshots.process_operatorStep {spl : SplMath} {weightTable : WeightTable}
    {snapshots next : Snapshots} {instruction : SnapshotInstruction}
    (processed : process spl weightTable snapshots instruction = .ok next) (operator : Pubkey) :
    OperatorStep spl weightTable operator instruction (snapshots.operatorSnapshots operator)
      (next.operatorSnapshots operator) := by
  cases instruction with
  | initializeOperatorSnapshot other ncnOperatorIndex =>
    obtain ⟨_, unused, processed⟩ := bind_eq_ok.mp processed
    split at processed
    · cases processed
    cases processed
    have missing := Account.loadSystemAccount_eq_ok_iff.mp unused
    by_cases same : operator = other
    · rw [same, setOperatorSnapshot_self, missing]
      exact .resized fun _ => nofun
    · rw [setOperatorSnapshot_of_ne same]
      exact .unchanged
  | reallocOperatorSnapshot reading bump slot =>
    obtain ⟨resized, grown, processed⟩ := bind_eq_ok.mp processed
    rcases Account.resize_eq_ok grown with
      ⟨snapshot, -, rfl⟩ | ⟨dataLen, newSize, allocated, rfl⟩ | ⟨dataLen, allocated, rfl⟩
    · cases processed
      exact .unchanged
    · cases processed
      by_cases same : operator = reading.operator
      · rw [same, setOperatorSnapshot_self, allocated]
        exact .resized fun _ => nofun
      · rw [setOperatorSnapshot_of_ne same]
        exact .unchanged
    · obtain ⟨snapshot, _, _, initialized, -, -, rfl⟩ :=
        initializeOperatorSnapshot_eq_ok processed
      by_cases same : operator = reading.operator
      · rw [same, setOperatorSnapshot_self, allocated]
        exact .filled (fun _ => nofun) initialized
      · rw [setOperatorSnapshot_of_ne same]
        exact .unchanged
  | snapshotVaultOperatorDelegation other reading slot =>
    obtain ⟨before, _, _, after, _, _, ready, weighed, registered, -, -, rfl⟩ :=
      processSnapshotVaultOperatorDelegation_eq_ok processed
    by_cases same : operator = other
    · rw [same, setOperatorSnapshot_self, ready]
      exact .registered weighed registered
    · rw [setOperatorSnapshot_of_ne same]
      exact .unchanged

/-! ## One operator -/

/-- The vaults registered so far fill the first slots, each vault once, and the
operator's own totals are the totals over them. -/
structure OperatorSnapshot.Exact (snapshot : OperatorSnapshot) : Prop where
  registered : snapshot.vaultOperatorDelegationsRegistered ≤ snapshot.vaultOperatorDelegationCount
  few : snapshot.vaultOperatorDelegationCount ≤ maxVaults
  filled : ∀ i : Fin maxVaults, i.val < snapshot.vaultOperatorDelegationsRegistered →
    snapshot.vaultOperatorStakeWeight[i].isEmpty = false
  unused : ∀ i : Fin maxVaults, snapshot.vaultOperatorDelegationsRegistered ≤ i.val →
    snapshot.vaultOperatorStakeWeight[i] = .default
  distinct : ∀ i j : Fin maxVaults, i.val < snapshot.vaultOperatorDelegationsRegistered →
    j.val < snapshot.vaultOperatorDelegationsRegistered →
    snapshot.vaultOperatorStakeWeight[i].vaultIndex =
      snapshot.vaultOperatorStakeWeight[j].vaultIndex → i = j
  weighed : ∀ component, snapshot.stakeWeights.get component =
    Slots.total (fun entry => entry.stakeWeights.get component) snapshot.vaultOperatorStakeWeight
  counted : snapshot.validOperatorVaultDelegations =
    Slots.count (fun entry => decide (0 < entry.stakeWeights.stakeWeight))
      snapshot.vaultOperatorStakeWeight

theorem OperatorSnapshot.initializeSnapshot_exact {snapshot : OperatorSnapshot}
    {operator ncn : Pubkey} {ncnEpoch bump currentSlot : ℕ} {isActive : Bool}
    {ncnOperatorIndex operatorIndex operatorFeeBps delegations : ℕ}
    (initialized : initializeSnapshot operator ncn ncnEpoch bump currentSlot isActive
      ncnOperatorIndex operatorIndex operatorFeeBps delegations = .ok snapshot) :
    snapshot.Exact := by
  obtain ⟨none, -, few, invalid, weightless, empty, -, -⟩ := initializeSnapshot_eq_ok initialized
  refine ⟨none ▸ Nat.zero_le _, few, fun i used => ?_, fun i _ => ?_, fun i j used => ?_,
    fun component => ?_, ?_⟩
  · exact absurd used (none ▸ Nat.not_lt_zero _)
  · rw [empty]
    exact Vector.getElem_replicate _
  · exact absurd used (none ▸ Nat.not_lt_zero _)
  · have noWeight : ∀ i : Fin maxVaults,
        (Vector.replicate maxVaults VaultOperatorStakeWeight.default)[i].stakeWeights.get
          component = 0 := by
      intro i
      rw [Slots.getElem_fin, Vector.getElem_replicate]
      exact StakeWeights.default_get component
    rw [empty, weightless, StakeWeights.default_get, Slots.total_eq_zero_iff.mpr noWeight]
  · rw [empty, invalid, Slots.count_replicate rfl]

theorem OperatorSnapshot.Exact.register {snapshot next : OperatorSnapshot}
    {stakeWeights : StakeWeights} {currentSlot vaultIndex : ℕ} {vault : Pubkey}
    {ncnFeeGroup : NcnFeeGroup} (exact : snapshot.Exact)
    (registered : snapshot.incrementVaultOperatorDelegationRegistration currentSlot vault vaultIndex
      ncnFeeGroup stakeWeights = .ok next) : next.Exact := by
  obtain ⟨pending, slot, here, fresh, written, one, sameCount, valid, sums, -, -⟩ :=
    incrementVaultOperatorDelegationRegistration_eq_ok registered
  have unusedHere := exact.unused slot here.ge
  have open_ : snapshot.vaultOperatorDelegationsRegistered <
      snapshot.vaultOperatorDelegationCount :=
    Nat.lt_of_le_of_ne exact.registered (beq_eq_false_iff_ne.mp pending)
  -- the free slot carries the sentinel index, so the new vault does not
  have indexed : vaultIndex ≠ u64Max := fun same => fresh slot (by rw [unusedHere, same]; rfl)
  have earlier : ∀ i : Fin maxVaults, i.val < slot + 1 → i ≠ slot →
      i.val < snapshot.vaultOperatorDelegationsRegistered := by
    intro i before other
    have apart := Fin.val_ne_of_ne other
    omega
  constructor
  · omega
  · rw [sameCount]
    exact exact.few
  · rw [one, written]
    exact Slots.forall_put
      (P := fun i (entry : VaultOperatorStakeWeight) => i.val < slot + 1 → entry.isEmpty = false)
      (fun _ => beq_eq_false_iff_ne.mpr indexed)
      fun i other before => exact.filled i (earlier i before other)
  · rw [one, written]
    refine Slots.forall_put
      (P := fun i (entry : VaultOperatorStakeWeight) => slot + 1 ≤ i.val → entry = .default)
      (fun beyond => absurd beyond (by omega)) fun i _ beyond => exact.unused i (by omega)
  · rw [one, written]
    intro i j beforeI beforeJ same
    by_cases atI : i = slot <;> by_cases atJ : j = slot
    · rw [atI, atJ]
    · rw [atI, Slots.getElem_put_self, Slots.getElem_put_ne _ _ (Ne.symm atJ)] at same
      exact absurd same.symm (fresh j)
    · rw [atJ, Slots.getElem_put_self, Slots.getElem_put_ne _ _ (Ne.symm atI)] at same
      exact absurd same (fresh i)
    · rw [Slots.getElem_put_ne _ _ (Ne.symm atI), Slots.getElem_put_ne _ _ (Ne.symm atJ)] at same
      exact exact.distinct i j (earlier i beforeI atI) (earlier j beforeJ atJ) same
  · intro component
    have weightless : snapshot.vaultOperatorStakeWeight[slot].stakeWeights.get component = 0 := by
      rw [unusedHere]
      exact StakeWeights.default_get component
    rw [written, sums, exact.weighed, Slots.total_put_of_zero
      (fun entry : VaultOperatorStakeWeight => entry.stakeWeights.get component) _ _ _ weightless]
    rfl
  · have weightless : snapshot.vaultOperatorStakeWeight[slot].stakeWeights.stakeWeight = 0 := by
      rw [unusedHere]
      rfl
    have traded := Slots.count_put
      (fun entry : VaultOperatorStakeWeight => decide (0 < entry.stakeWeights.stakeWeight))
      snapshot.vaultOperatorStakeWeight slot (.new vault vaultIndex ncnFeeGroup stakeWeights)
    have newWeight : (VaultOperatorStakeWeight.new vault vaultIndex ncnFeeGroup
        stakeWeights).stakeWeights.stakeWeight = stakeWeights.stakeWeight := rfl
    rw [weightless, newWeight] at traded
    simp only [Nat.lt_irrefl, decide_false, Bool.false_eq_true, if_false, decide_eq_true_eq] at traded
    rw [written, valid, exact.counted]
    omega

/-! ## All operators -/

/-- What an operator's account adds to the epoch once it is final. -/
def Account.weight (account : Account OperatorSnapshot) (component : StakeWeights.Component) : ℕ :=
  match account with
  | .ready snapshot => snapshot.stakeWeights.get component
  | _ => 0

def Account.delegations (account : Account OperatorSnapshot) : ℕ :=
  match account with
  | .ready snapshot => snapshot.validOperatorVaultDelegations
  | _ => 0

def Account.isFinalized (account : Account OperatorSnapshot) : Bool :=
  match account with
  | .ready snapshot => snapshot.finalized
  | _ => false

theorem Account.isFinalized_iff {account : Account OperatorSnapshot} :
    account.isFinalized = true ↔ ∃ data, account = .ready data ∧ data.finalized = true := by
  cases account <;> simp [isFinalized]

/-- The epoch's totals are the totals over the final operator snapshots. -/
structure EpochSnapshot.Totals (epochSnapshot : EpochSnapshot)
    (accounts : Pubkey → Account OperatorSnapshot) (finalized : Finset Pubkey) : Prop where
  members : ∀ operator, operator ∈ finalized ↔ (accounts operator).isFinalized = true
  registered : epochSnapshot.operatorsRegistered = finalized.card
  bounded : epochSnapshot.operatorsRegistered ≤ epochSnapshot.operatorCount
  weighed : ∀ component, epochSnapshot.stakeWeights.get component =
    ∑ operator ∈ finalized, (accounts operator).weight component
  counted : epochSnapshot.validOperatorVaultDelegations =
    ∑ operator ∈ finalized, (accounts operator).delegations

namespace EpochSnapshot.Totals
variable {epochSnapshot next : EpochSnapshot} {accounts : Pubkey → Account OperatorSnapshot}
variable {finalized : Finset Pubkey} {operator : Pubkey} {account : Account OperatorSnapshot}

/-- An account that is not final, before and after, plays no part. -/
theorem unchanged (totals : epochSnapshot.Totals accounts finalized)
    (before : (accounts operator).isFinalized = false) (after : account.isFinalized = false) :
    epochSnapshot.Totals (Function.update accounts operator account) finalized := by
  have other : ∀ member ∈ finalized, Function.update accounts operator account member =
      accounts member := by
    intro member final
    refine Function.update_of_ne (fun same => ?_) _ _
    rw [totals.members, same, before] at final
    cases final
  refine ⟨fun member => ?_, totals.registered, totals.bounded, fun component => ?_, ?_⟩
  · by_cases same : member = operator
    · rw [same, Function.update_self, totals.members, before, after]
    · rw [Function.update_of_ne same, totals.members]
  · rw [totals.weighed]
    exact Finset.sum_congr rfl fun member final => by rw [other member final]
  · rw [totals.counted]
    exact Finset.sum_congr rfl fun member final => by rw [other member final]

/-- An account that becomes final is added, once. -/
theorem insert {currentSlot : ℕ} {snapshot : OperatorSnapshot}
    (totals : epochSnapshot.Totals accounts finalized)
    (before : (accounts operator).isFinalized = false) (after : snapshot.finalized = true)
    (registered : epochSnapshot.incrementOperatorRegistration currentSlot
      snapshot.validOperatorVaultDelegations snapshot.stakeWeights = .ok next) :
    next.Totals (Function.update accounts operator (.ready snapshot))
      (Insert.insert operator finalized) := by
  obtain ⟨pending, one, delegations, weights, sameCount, -⟩ :=
    incrementOperatorRegistration_eq_ok registered
  have fresh : operator ∉ finalized := fun final => by
    rw [totals.members, before] at final
    cases final
  have other : ∀ member ∈ finalized, Function.update accounts operator (.ready snapshot) member =
      accounts member := by
    intro member final
    refine Function.update_of_ne (fun same => fresh ?_) _ _
    rw [← same]
    exact final
  have room : epochSnapshot.operatorsRegistered < epochSnapshot.operatorCount :=
    Nat.lt_of_le_of_ne totals.bounded (beq_eq_false_iff_ne.mp pending)
  refine ⟨fun member => ?_, ?_, by omega, fun component => ?_, ?_⟩
  · by_cases same : member = operator
    · rw [same, Function.update_self]
      exact ⟨fun _ => after, fun _ => Finset.mem_insert_self _ _⟩
    · rw [Function.update_of_ne same, Finset.mem_insert, totals.members]
      exact or_iff_right same
  · rw [one, Finset.card_insert_of_notMem fresh, totals.registered]
  · have others := Finset.sum_congr (Eq.refl finalized) fun member final =>
      congrArg (fun account => Account.weight account component) (other member final)
    rw [weights, Finset.sum_insert fresh, Function.update_self, others, ← totals.weighed]
    exact Nat.add_comm _ _
  · have others := Finset.sum_congr (Eq.refl finalized) fun member final =>
      congrArg Account.delegations (other member final)
    rw [delegations, Finset.sum_insert fresh, Function.update_self, others, ← totals.counted]
    exact Nat.add_comm _ _

end EpochSnapshot.Totals

/-! ## Whole runs -/

variable {spl : SplMath} {weightTable : WeightTable} {snapshots next : Snapshots}

/-- What every instruction keeps. An epoch has vaults, so that an active operator
is never final before its first vault. -/
structure Snapshots.Sound (snapshots : Snapshots) : Prop where
  vaults : 0 < snapshots.epochSnapshot.vaultCount
  exact : ∀ operator snapshot, snapshots.operatorSnapshots operator = .ready snapshot →
    snapshot.Exact
  totals : ∃ finalized, snapshots.epochSnapshot.Totals snapshots.operatorSnapshots finalized

theorem Snapshots.start_sound {epochState : EpochState} {feeConfig : FeeConfig} {ncn : Pubkey}
    {epoch bump slot operatorCount : ℕ} (registered : 0 < weightTable.vaultCount)
    (started : start epochState weightTable feeConfig ncn epoch bump slot operatorCount =
      .ok snapshots) : snapshots.Sound := by
  unfold start at started
  split at started
  · cases started
  split at started
  · cases started
  cases started
  refine ⟨registered, ?_, ∅, ?_, rfl, Nat.zero_le _, ?_, rfl⟩
  · intro operator snapshot ready
    cases ready
  · intro operator
    simp [Account.isFinalized]
  · intro component
    rw [Finset.sum_empty]
    exact StakeWeights.default_get component

/-- An account that becomes ready keeps every snapshot exact when its own is. -/
theorem Snapshots.Sound.exact_update (sound : snapshots.Sound) (operator : Pubkey)
    (account : Account OperatorSnapshot)
    (here : ∀ snapshot, account = .ready snapshot → snapshot.Exact) (member : Pubkey)
    (snapshot : OperatorSnapshot)
    (ready : Function.update snapshots.operatorSnapshots operator account member =
      .ready snapshot) : snapshot.Exact :=
  Account.forall_ready_update (P := fun _ snapshot => snapshot.Exact) here
    (fun other _ => sound.exact other) member snapshot ready

theorem Snapshots.Sound.allocate (sound : snapshots.Sound) {operator : Pubkey} {dataLen : ℕ}
    (before : (snapshots.operatorSnapshots operator).isFinalized = false) :
    (snapshots.setOperatorSnapshot operator (.allocated dataLen)).Sound := by
  obtain ⟨finalized, totals⟩ := sound.totals
  refine ⟨sound.vaults, sound.exact_update _ _ fun snapshot ready => ?_, finalized,
    totals.unchanged before rfl⟩
  cases ready

theorem Snapshots.Sound.initializeOperatorSnapshot (sound : snapshots.Sound)
    {reading : OperatorReading} {bump slot : ℕ}
    (before : (snapshots.operatorSnapshots reading.operator).isFinalized = false)
    (initialized : snapshots.initializeOperatorSnapshot reading bump slot = .ok next) :
    next.Sound := by
  obtain ⟨snapshot, epochSnapshot, _, filled, counted, -, rfl⟩ :=
    initializeOperatorSnapshot_eq_ok initialized
  obtain ⟨none, count, -, valid, weightless, -⟩ :=
    OperatorSnapshot.initializeSnapshot_eq_ok filled
  have exact := sound.exact_update reading.operator (.ready snapshot)
    fun other ready => by
      cases ready
      exact OperatorSnapshot.initializeSnapshot_exact filled
  obtain ⟨finalized, totals⟩ := sound.totals
  rcases counted with ⟨inactive, counted⟩ | ⟨active, rfl⟩
  · obtain ⟨-, -, -, -, -, sameVaults⟩ :=
      EpochSnapshot.incrementOperatorRegistration_eq_ok counted
    have final : snapshot.finalized = true := by
      rw [Bool.not_eq_true'] at inactive
      simp only [OperatorSnapshot.finalized, none, count, inactive, Bool.false_eq_true, if_false,
        beq_self_eq_true]
    rw [← valid, ← weightless] at counted
    exact ⟨sameVaults ▸ sound.vaults, exact, insert reading.operator finalized,
      totals.insert before final counted⟩
  · refine ⟨sound.vaults, exact, finalized, totals.unchanged before ?_⟩
    have vaults := sound.vaults
    rw [Bool.not_eq_false'] at active
    rw [if_pos active] at count
    simp only [Account.isFinalized, OperatorSnapshot.finalized, none, count, beq_eq_false_iff_ne]
    omega

theorem Snapshots.Sound.snapshotVaultOperatorDelegation (sound : snapshots.Sound)
    {operator : Pubkey} {reading : VaultReading} {slot : ℕ}
    (taken : snapshots.processSnapshotVaultOperatorDelegation spl weightTable operator reading slot =
      .ok next) : next.Sound := by
  obtain ⟨snapshot, _, _, registered, epochSnapshot, _, ready, -, increment, counted, -, rfl⟩ :=
    processSnapshotVaultOperatorDelegation_eq_ok taken
  obtain ⟨pending, -⟩ :=
    OperatorSnapshot.incrementVaultOperatorDelegationRegistration_eq_ok increment
  have before : (snapshots.operatorSnapshots operator).isFinalized = false := by
    rw [ready]
    exact pending
  have exact := sound.exact_update operator (.ready registered)
    fun other same => by
      cases same
      exact (sound.exact operator snapshot ready).register increment
  obtain ⟨finalized, totals⟩ := sound.totals
  rcases counted with ⟨final, counted⟩ | ⟨pending, rfl⟩
  · obtain ⟨-, -, -, -, -, sameVaults⟩ :=
      EpochSnapshot.incrementOperatorRegistration_eq_ok counted
    exact ⟨sameVaults ▸ sound.vaults, exact, insert operator finalized,
      totals.insert before final counted⟩
  · exact ⟨sound.vaults, exact, finalized, totals.unchanged before pending⟩

theorem Snapshots.Sound.process (sound : snapshots.Sound) {instruction : SnapshotInstruction}
    (processed : process spl weightTable snapshots instruction = .ok next) : next.Sound := by
  cases instruction with
  | initializeOperatorSnapshot operator ncnOperatorIndex =>
    obtain ⟨_, unused, processed⟩ := bind_eq_ok.mp processed
    split at processed
    · cases processed
    cases processed
    refine sound.allocate ?_
    rw [Account.loadSystemAccount_eq_ok_iff.mp unused]
    rfl
  | reallocOperatorSnapshot reading bump slot =>
    obtain ⟨resized, grown, processed⟩ := bind_eq_ok.mp processed
    rcases Account.resize_eq_ok grown with
      ⟨snapshot, -, rfl⟩ | ⟨dataLen, newSize, allocated, rfl⟩ | ⟨dataLen, allocated, rfl⟩
    · cases processed
      exact sound
    · cases processed
      refine sound.allocate ?_
      rw [allocated]
      rfl
    · refine sound.initializeOperatorSnapshot ?_ processed
      rw [allocated]
      rfl
  | snapshotVaultOperatorDelegation operator reading slot =>
    exact sound.snapshotVaultOperatorDelegation processed

theorem Snapshots.Sound.run {history : List SnapshotInstruction} (sound : snapshots.Sound)
    (ran : run (Snapshots.process spl weightTable) history snapshots = .ok next) : next.Sound :=
  run_invariant (fun _ _ _ holds processed => holds.process processed) sound ran

/-- However the snapshot of an epoch is taken, every operator snapshot adds up to
its vaults and the epoch snapshot to the final operator snapshots. -/
theorem snapshot_totals_are_exact (switchboard : Switchboard) (spl : SplMath)
    (weights : List WeightInstruction) (history : List SnapshotInstruction)
    {epochState : EpochState} {vaultRegistry : VaultRegistry} {feeConfig : FeeConfig} {ncn : Pubkey}
    {epoch slot bump slot' bump' operatorCount : ℕ} {initial weighed : Weighing}
    {start finish : Snapshots}
    (initialized : Weighing.start epochState vaultRegistry ncn epoch slot bump = .ok initial)
    (set : Runs.run (Weighing.process switchboard) weights initial = .ok weighed)
    (started : Snapshots.start weighed.epochState weighed.weightTable feeConfig ncn epoch bump' slot'
      operatorCount = .ok start)
    (ran : Runs.run (Snapshots.process spl weighed.weightTable) history start = .ok finish) :
    (∀ operator snapshot, finish.operatorSnapshots operator = .ready snapshot → snapshot.Exact) ∧
      ∃ finalized : Finset Pubkey,
        finish.epochSnapshot.Totals finish.operatorSnapshots finalized := by
  have counted := Weighing.run_counted initialized set
  have sound := (Snapshots.start_sound counted.registered started).run ran
  exact ⟨sound.exact, sound.totals⟩

/-- An inactive operator and one with a delegation of 10 at weight 7. -/
theorem snapshot_totals_are_exact_for_two :
    ∃ finish : Snapshots, finish.epochSnapshot.stakeWeights.stakeWeight = 70 ∧
      finish.epochSnapshot.operatorsRegistered = 2 ∧ ∃ finalized : Finset Pubkey,
        finish.epochSnapshot.Totals finish.operatorSnapshots finalized := by
  have runs : (do
      let initial ← (Weighing.start .zeroed twoMints .default 3 5 255).mapError
        InstructionError.custom
      let weighed ← run (Weighing.process .withoutFeeds)
        [.adminSetWeight .default .default ⟨Vector.replicate 32 1⟩ 7 6,
          .adminSetWeight .default .default ⟨Vector.replicate 32 2⟩ 9 6] initial
      let start ← Snapshots.start weighed.epochState weighed.weightTable .sample .default 3 255 7 2
      let finish ← run (Snapshots.process .u256 weighed.weightTable)
        [.initializeOperatorSnapshot ⟨Vector.replicate 32 4⟩ 0,
          .initializeOperatorSnapshot ⟨Vector.replicate 32 5⟩ 1,
          .reallocOperatorSnapshot ⟨⟨Vector.replicate 32 5⟩, 8, 100, 1, true, true⟩ 255 8,
          .snapshotVaultOperatorDelegation ⟨Vector.replicate 32 5⟩
            ⟨⟨Vector.replicate 32 3⟩, 0, ⟨Vector.replicate 32 1⟩, false, true, some true, some 10⟩ 9,
          .reallocOperatorSnapshot ⟨⟨Vector.replicate 32 4⟩, 7, 100, 0, true, false⟩ 255 9] start
      return (initial, weighed, start, finish)).toOption.any
        (fun result : Weighing × Weighing × Snapshots × Snapshots =>
          result.2.2.2.epochSnapshot.stakeWeights.stakeWeight == 70 &&
          result.2.2.2.epochSnapshot.operatorsRegistered == 2) = true := by
    decide +kernel
  obtain ⟨⟨initial, weighed, start, finish⟩, all, outcome⟩ := exists_of_any runs
  obtain ⟨_, initialized, all⟩ := bind_eq_ok.mp all
  obtain ⟨_, set, all⟩ := bind_eq_ok.mp all
  obtain ⟨_, started, all⟩ := bind_eq_ok.mp all
  obtain ⟨_, ran, same⟩ := bind_eq_ok.mp all
  cases same
  simp only [Bool.and_eq_true, beq_iff_eq] at outcome
  exact ⟨finish, outcome.1, outcome.2, (snapshot_totals_are_exact .withoutFeeds .u256 _ _
    (mapError_eq_ok.mp initialized) set started ran).2⟩

end TipRouter
