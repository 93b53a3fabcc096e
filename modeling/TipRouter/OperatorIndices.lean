import TipRouter.NcnRouterRecovery

/-! The index of an operator in the epoch state. The restaking program numbers
the operators of an NCN without a bound, `InitializeOperatorSnapshot` compares
the number with the operator count only, and the arrays of the epoch state have
places for 256 operators and eight times as many routers. -/
namespace TipRouter
open Runs

/-! ## Instructions that do not abort -/

/-- An out-of-bounds access stops a program where it stands; every other failure
is an error it returns. -/
def Completes {α : Type} (result : Except InstructionError α) : Prop :=
  result ≠ .error .programFailedToComplete

instance {α : Type} : (result : Except InstructionError α) → Decidable (Completes result)
  | .ok _ => isTrue nofun
  | .error failure =>
    decidable_of_iff (failure ≠ .programFailedToComplete) (by rw [Completes, ne_eq, ne_eq,
      Except.error.injEq])

namespace Completes
variable {α β : Type} {first : Except InstructionError α} {next : α → Except InstructionError β}

theorem ok {value : α} : Completes (.ok value) := nofun

theorem custom {failure : TipRouterError} : Completes (α := α) (.error (.custom failure)) := nofun

theorem bind (here : Completes first) (after : ∀ middle, first = .ok middle → Completes (next middle)) :
    Completes (first >>= next) := by
  intro aborted
  rcases bind_eq_error.mp aborted with failed | ⟨middle, done, failed⟩
  · exact here failed
  · exact after middle done failed

/-- The `?` operator turns an error of the core library into a custom one. -/
theorem lift (result : Except TipRouterError α) :
    Completes (liftM result : Except InstructionError α) := by
  cases result with
  | ok value => exact nofun
  | error failure => exact nofun

end Completes

/-! ## The accesses of one operator -/

/-- Everything that writes the entries of an operator in the epoch state. -/
inductive OperatorUpdate where
  | reallocOperatorSnapshot (isActive : Bool)
  | snapshotVaultOperatorDelegation (finalized : Bool)
  | reallocNcnRewardRouter (group : Fin feeGroupCount)
  | routeNcnRewards (group : Fin feeGroupCount) (totalRewards : ℕ)
  | distributeNcnRewards (group : Fin feeGroupCount) (rewards : ℕ)
  | closeOperatorSnapshot
  | closeNcnRewardRouter (group : Fin feeGroupCount)

namespace EpochState

def updateOperator (self : EpochState) (ncnOperatorIndex : ℕ) :
    OperatorUpdate → Except InstructionError EpochState
  | .reallocOperatorSnapshot isActive =>
    self.updateReallocOperatorSnapshot ncnOperatorIndex isActive
  | .snapshotVaultOperatorDelegation finalized =>
    self.updateSnapshotVaultOperatorDelegation ncnOperatorIndex finalized
  | .reallocNcnRewardRouter group =>
    self.updateReallocNcnRewardRouter ncnOperatorIndex (.ofIndex group)
  | .routeNcnRewards group totalRewards =>
    self.updateRouteNcnRewards ncnOperatorIndex (.ofIndex group) totalRewards
  | .distributeNcnRewards group rewards =>
    self.updateDistributeNcnRewards ncnOperatorIndex (.ofIndex group) rewards
  | .closeOperatorSnapshot => self.closeOperatorSnapshot ncnOperatorIndex
  | .closeNcnRewardRouter group => self.closeNcnRewardRouter ncnOperatorIndex (.ofIndex group)

/-- `EpochAccountStatus::operator_snapshot`. -/
def operatorSnapshotStatus (self : EpochState) (ncnOperatorIndex : ℕ) :
    Except InstructionError AccountStatus :=
  readAt self.accountStatus.operatorSnapshot ncnOperatorIndex

/-- `EpochAccountStatus::ncn_reward_router`. -/
def ncnRewardRouterStatus (self : EpochState) (ncnOperatorIndex : ℕ) (group : NcnFeeGroup) :
    Except InstructionError AccountStatus := do
  let index ← getNcnRewardRouterIndex ncnOperatorIndex group
  readAt self.accountStatus.ncnRewardRouter index

def operatorSnapshotProgressAt (self : EpochState) (ncnOperatorIndex : ℕ) :
    Except InstructionError Progress :=
  readAt self.operatorSnapshotProgress ncnOperatorIndex

def ncnDistributionProgressAt (self : EpochState) (ncnOperatorIndex : ℕ) (group : NcnFeeGroup) :
    Except InstructionError Progress := do
  let index ← getNcnRewardRouterIndex ncnOperatorIndex group
  readAt self.ncnDistributionProgress index

end EpochState

/-- No access of an operator is out of bounds, and it shares no router's entries
with another operator or another group. -/
structure OperatorSafe (ncnOperatorIndex : ℕ) : Prop where
  updates : ∀ (epochState : EpochState) (update : OperatorUpdate),
    Completes (epochState.updateOperator ncnOperatorIndex update)
  reads : ∀ (epochState : EpochState) (group : Fin feeGroupCount),
    Completes (epochState.operatorSnapshotStatus ncnOperatorIndex) ∧
      Completes (epochState.ncnRewardRouterStatus ncnOperatorIndex (.ofIndex group)) ∧
      Completes (epochState.operatorSnapshotProgressAt ncnOperatorIndex) ∧
      Completes (epochState.ncnDistributionProgressAt ncnOperatorIndex (.ofIndex group))
  apart : ∀ (other index : ℕ) (group group' : Fin feeGroupCount),
    getNcnRewardRouterIndex ncnOperatorIndex (.ofIndex group) = .ok index →
    getNcnRewardRouterIndex other (.ofIndex group') = .ok index →
    other = ncnOperatorIndex ∧ group' = group

variable {ncnOperatorIndex : ℕ} {group : Fin feeGroupCount}

theorem assignAt_completes {α : Type} {n index : ℕ} {array : Vector α n} {entry : α}
    (bound : index < n) : Completes (assignAt array index entry) := by
  rw [assignAt, dif_pos bound]
  exact .ok

theorem readAt_completes {α : Type} {n index : ℕ} {array : Vector α n} (bound : index < n) :
    Completes (readAt array index) := by
  rw [readAt_of_lt bound]
  exact .ok

/-- Eight entries for each operator. -/
theorem ncnRewardRouterIndex_lt {index : ℕ} (inside : ncnOperatorIndex < maxOperators)
    (found : getNcnRewardRouterIndex ncnOperatorIndex (.ofIndex group) = .ok index) :
    index < maxNcnRewardRouters := by
  have isIndex := getNcnRewardRouterIndex_eq_ok found
  have small := group.isLt
  unfold maxNcnRewardRouters maxOperators at *
  simp only [NcnFeeGroup.ofIndex] at isIndex
  unfold feeGroupCount at *
  omega

theorem ncnRewardRouterIndex_injective {other index : ℕ} {group' : Fin feeGroupCount}
    (found : getNcnRewardRouterIndex ncnOperatorIndex (.ofIndex group) = .ok index)
    (found' : getNcnRewardRouterIndex other (.ofIndex group') = .ok index) :
    other = ncnOperatorIndex ∧ group' = group := by
  have isIndex := getNcnRewardRouterIndex_eq_ok found
  have isIndex' := getNcnRewardRouterIndex_eq_ok found'
  have small := group.isLt
  have small' := group'.isLt
  rw [Fin.ext_iff]
  simp only [NcnFeeGroup.ofIndex] at isIndex isIndex'
  unfold feeGroupCount at *
  omega

namespace EpochState
variable {self : EpochState}

theorem setNcnRewardRouter_completes (status : AccountStatus)
    (inside : ncnOperatorIndex < maxOperators) :
    Completes (self.accountStatus.setNcnRewardRouter ncnOperatorIndex (.ofIndex group) status) := by
  refine (Completes.lift _).bind fun index found => ?_
  refine (assignAt_completes ?_).bind fun _ _ => .ok
  exact ncnRewardRouterIndex_lt inside (lift_eq_ok_iff.mp found)

theorem setOperatorSnapshot_completes (status : AccountStatus)
    (inside : ncnOperatorIndex < maxOperators) :
    Completes (self.accountStatus.setOperatorSnapshot ncnOperatorIndex status) :=
  (assignAt_completes inside).bind fun _ _ => .ok

/-- An index below 256 is in bounds for every update. -/
theorem updateOperator_completes (inside : ncnOperatorIndex < maxOperators)
    (update : OperatorUpdate) : Completes (self.updateOperator ncnOperatorIndex update) := by
  cases update with
  | reallocOperatorSnapshot isActive =>
    refine (setOperatorSnapshot_completes .created inside).bind fun accountStatus _ => ?_
    cases isActive with
    | true => exact (assignAt_completes inside).bind fun _ _ => .ok
    | false =>
      refine (Completes.lift _).bind fun progress _ => ?_
      refine (assignAt_completes inside).bind fun _ _ => ?_
      exact (Completes.lift _).bind fun _ _ => .ok
  | snapshotVaultOperatorDelegation finalized =>
    refine (readAt_completes inside).bind fun progress _ => ?_
    refine (Completes.lift _).bind fun progress _ => ?_
    refine (assignAt_completes inside).bind fun _ _ => ?_
    cases finalized with
    | true => exact (Completes.lift _).bind fun _ _ => .ok
    | false => exact Completes.ok.bind fun _ _ => .ok
  | reallocNcnRewardRouter group =>
    refine (setNcnRewardRouter_completes .createdWithReceiver inside).bind fun _ _ => ?_
    refine (Completes.lift _).bind fun index found => ?_
    refine (assignAt_completes ?_).bind fun _ _ => .ok
    exact ncnRewardRouterIndex_lt inside (lift_eq_ok_iff.mp found)
  | routeNcnRewards group totalRewards =>
    refine (Completes.lift _).bind fun index found => ?_
    have bound := ncnRewardRouterIndex_lt inside (lift_eq_ok_iff.mp found)
    refine (readAt_completes bound).bind fun _ _ => ?_
    exact (assignAt_completes bound).bind fun _ _ => .ok
  | distributeNcnRewards group rewards =>
    refine (Completes.lift _).bind fun _ _ => ?_
    refine (Completes.lift _).bind fun index found => ?_
    have bound := ncnRewardRouterIndex_lt inside (lift_eq_ok_iff.mp found)
    refine (readAt_completes bound).bind fun _ _ => ?_
    refine (Completes.lift _).bind fun _ _ => ?_
    exact (assignAt_completes bound).bind fun _ _ => .ok
  | closeOperatorSnapshot =>
    exact (setOperatorSnapshot_completes .closed inside).bind fun _ _ => .ok
  | closeNcnRewardRouter group =>
    exact (setNcnRewardRouter_completes .closed inside).bind fun _ _ => .ok

end EpochState

/-- The arrays hold the operators with an index below 256, and no others. -/
theorem operatorSafe_iff : OperatorSafe ncnOperatorIndex ↔ ncnOperatorIndex < maxOperators := by
  constructor
  · intro safe
    by_contra outside
    apply safe.updates .zeroed .closeOperatorSnapshot
    rw [EpochState.updateOperator, EpochState.closeOperatorSnapshot,
      EpochAccountStatus.setOperatorSnapshot, assignAt, dif_neg outside]
    rfl
  · intro inside
    refine ⟨fun epochState update => EpochState.updateOperator_completes inside update, ?_, ?_⟩
    · intro epochState group
      refine ⟨readAt_completes inside, ?_, readAt_completes inside, ?_⟩
      · refine (Completes.lift _).bind fun index found => ?_
        exact readAt_completes (ncnRewardRouterIndex_lt inside (lift_eq_ok_iff.mp found))
      · refine (Completes.lift _).bind fun index found => ?_
        exact readAt_completes (ncnRewardRouterIndex_lt inside (lift_eq_ok_iff.mp found))
    · intro other index group group' found found'
      exact ncnRewardRouterIndex_injective found found'

/-! ## Runs -/

/-- The operator index an instruction reads from the restaking program fits. -/
def SnapshotInstruction.IndexInside : SnapshotInstruction → Prop
  | .reallocOperatorSnapshot reading _ _ => reading.ncnOperatorIndex < maxOperators
  | _ => True

def RoutingInstruction.IndexInside : RoutingInstruction → Prop
  | .snapshot instruction => instruction.IndexInside
  | _ => True

/-- Every operator snapshot carries an index that fits. -/
def Snapshots.Indexed (snapshots : Snapshots) : Prop :=
  ∀ operator snapshot, snapshots.operatorSnapshots operator = .ready snapshot →
    snapshot.ncnOperatorIndex < maxOperators

variable {spl : SplMath} {weightTable : WeightTable} {snapshots next : Snapshots}

theorem Snapshots.Indexed.process {instruction : SnapshotInstruction} (indexed : snapshots.Indexed)
    (inside : instruction.IndexInside)
    (processed : process spl weightTable snapshots instruction = .ok next) : next.Indexed := by
  intro operator snapshot ready
  have known := indexed operator
  have stepped := process_operatorStep processed operator
  rw [ready] at stepped
  generalize snapshots.operatorSnapshots operator = account at known stepped
  cases stepped with
  | unchanged => exact known snapshot rfl
  | filled pending initialized =>
    obtain ⟨-, -, -, -, -, -, -, index⟩ := OperatorSnapshot.initializeSnapshot_eq_ok initialized
    rw [index]
    exact inside
  | registered weighed registered =>
    obtain ⟨-, slot, -, -, -, -, -, -, -, -, index⟩ :=
      OperatorSnapshot.incrementVaultOperatorDelegationRegistration_eq_ok registered
    rw [index]
    exact known _ rfl

theorem Account.resize_completes {α : Type} (size : ℕ) (account : Account α) :
    Completes (account.resize size) := by
  intro aborted
  cases account with
  | missing => cases aborted
  | ready data => cases aborted
  | allocated dataLen =>
    rw [resize] at aborted
    split at aborted
    · refine Completes.bind ?_ (fun _ _ => .ok) aborted
      intro failed
      unfold getNewSize at failed
      split at failed <;> cases failed
    · cases aborted

theorem Account.loadSystemAccount_completes {α : Type} (account : Account α) :
    Completes account.loadSystemAccount := by
  cases account <;> exact nofun

theorem Account.load_completes {α : Type} (account : Account α) : Completes account.load := by
  cases account <;> exact nofun

theorem Snapshots.vaultStakeWeights_completes (reading : VaultReading) :
    Completes (vaultStakeWeights spl weightTable reading) := by
  unfold vaultStakeWeights
  split
  · exact .custom
  · refine (Completes.lift _).bind fun _ _ => ?_
    refine (Completes.lift _).bind fun _ _ => ?_
    refine Completes.bind ?_ fun _ _ => (Completes.lift _).bind fun _ _ => .ok
    split
    · split
      · exact Completes.lift _
      · exact .ok
    · exact .ok

/-- No instruction of the snapshot phase aborts. -/
theorem Snapshots.process_completes (indexed : snapshots.Indexed) (instruction : SnapshotInstruction)
    (inside : instruction.IndexInside) :
    Completes (process spl weightTable snapshots instruction) := by
  cases instruction with
  | initializeOperatorSnapshot operator index =>
    refine (Account.loadSystemAccount_completes _).bind fun _ _ => ?_
    split
    · exact .custom
    · exact .ok
  | reallocOperatorSnapshot reading bump slot =>
    refine (Account.resize_completes _ _).bind fun resized _ => ?_
    cases resized with
    | short dataLen => exact .ok
    | initialized => exact .ok
    | fullSize =>
      refine (Completes.lift _).bind fun _ _ => ?_
      refine Completes.bind ?_ fun _ _ => Completes.bind ?_ fun _ _ => .ok
      · split
        · exact Completes.lift _
        · exact .ok
      · exact EpochState.updateOperator_completes inside (.reallocOperatorSnapshot _)
  | snapshotVaultOperatorDelegation operator reading slot =>
    refine (Account.load_completes _).bind fun before loaded => ?_
    refine (vaultStakeWeights_completes reading).bind fun weighed _ => ?_
    refine (Completes.lift _).bind fun after registered => ?_
    have index : after.ncnOperatorIndex < maxOperators := by
      obtain ⟨-, _, -, -, -, -, -, -, -, -, same⟩ :=
        OperatorSnapshot.incrementVaultOperatorDelegationRegistration_eq_ok
          (lift_eq_ok_iff.mp registered)
      rw [same]
      exact indexed operator before (Account.load_eq_ok_iff.mp loaded)
    refine Completes.bind ?_ fun _ _ => Completes.bind ?_ fun _ _ => .ok
    · split
      · exact Completes.lift _
      · exact .ok
    · exact EpochState.updateOperator_completes index (.snapshotVaultOperatorDelegation _)

/-- Nor does one of the routing to the operator and its vaults. -/
theorem NcnRouting.process_completes {routing : NcnRouting} {operator : Pubkey}
    {ncnFeeGroup rentCost : ℕ} (indexed : routing.snapshots.Indexed)
    (instruction : RoutingInstruction) (inside : instruction.IndexInside) :
    Completes (process spl weightTable operator ncnFeeGroup rentCost routing instruction) := by
  cases instruction with
  | snapshot instruction =>
    exact (Snapshots.process_completes indexed instruction inside).bind fun _ _ => .ok
  | initializeNcnRewardRouter bump slot =>
    refine (Account.load_completes _).bind fun snapshot loaded => ?_
    refine (Completes.lift _).bind fun group parsed => ?_
    obtain ⟨group, rfl⟩ := NcnFeeGroup.tryFrom_eq_ok (lift_eq_ok_iff.mp parsed)
    refine (Account.loadSystemAccount_completes _).bind fun _ _ => ?_
    split
    · exact nofun
    · refine Completes.bind ?_ fun _ _ => .ok
      exact EpochState.updateOperator_completes
        (indexed operator snapshot (Account.load_eq_ok_iff.mp loaded)) (.reallocNcnRewardRouter group)
  | deposit lamports =>
    rw [process]
    split
    · exact nofun
    · exact .ok
  | routeNcnRewards maxIterations =>
    refine (Completes.lift _).bind fun group parsed => ?_
    obtain ⟨group, rfl⟩ := NcnFeeGroup.tryFrom_eq_ok (lift_eq_ok_iff.mp parsed)
    refine (Account.load_completes _).bind fun snapshot loaded => ?_
    refine (Account.load_completes _).bind fun _ _ => ?_
    refine (Completes.lift _).bind fun _ _ => ?_
    refine Completes.bind ?_ fun _ _ => .ok
    exact EpochState.updateOperator_completes
      (indexed operator snapshot (Account.load_eq_ok_iff.mp loaded)) (.routeNcnRewards group _)

/-- Only the snapshot instructions write operator snapshots. -/
theorem Snapshots.Indexed.routing {routing later : NcnRouting} {operator : Pubkey}
    {ncnFeeGroup rentCost : ℕ} {instruction : RoutingInstruction}
    (indexed : routing.snapshots.Indexed) (inside : instruction.IndexInside)
    (processed : NcnRouting.process spl weightTable operator ncnFeeGroup rentCost routing
      instruction = .ok later) : later.snapshots.Indexed := by
  cases instruction with
  | snapshot instruction =>
    obtain ⟨snapshots, taken, same⟩ := bind_eq_ok.mp processed
    cases same
    exact indexed.process inside taken
  | initializeNcnRewardRouter bump slot =>
    obtain ⟨snapshot, -, processed⟩ := bind_eq_ok.mp processed
    obtain ⟨group, -, processed⟩ := bind_eq_ok.mp processed
    obtain ⟨_, -, processed⟩ := bind_eq_ok.mp processed
    split at processed
    · cases processed
    obtain ⟨epochState, -, same⟩ := bind_eq_ok.mp processed
    cases same
    exact indexed
  | deposit lamports =>
    rw [NcnRouting.process] at processed
    split at processed
    · cases processed
    cases processed
    exact indexed
  | routeNcnRewards maxIterations =>
    obtain ⟨group, -, processed⟩ := bind_eq_ok.mp processed
    obtain ⟨snapshot, -, processed⟩ := bind_eq_ok.mp processed
    obtain ⟨router, -, processed⟩ := bind_eq_ok.mp processed
    obtain ⟨routed, -, processed⟩ := bind_eq_ok.mp processed
    obtain ⟨epochState, -, same⟩ := bind_eq_ok.mp processed
    cases same
    exact indexed

/-- In a run over operators whose indices fit, no instruction ever aborts. -/
theorem operators_never_abort {routing later : NcnRouting} {operator : Pubkey}
    {ncnFeeGroup rentCost : ℕ} {history : List RoutingInstruction}
    (indexed : routing.snapshots.Indexed) (inside : ∀ instruction ∈ history, instruction.IndexInside)
    (ran : run (NcnRouting.process spl weightTable operator ncnFeeGroup rentCost) history routing =
      .ok later) (instruction : RoutingInstruction) (last : instruction.IndexInside) :
    Completes (NcnRouting.process spl weightTable operator ncnFeeGroup rentCost later instruction) := by
  refine NcnRouting.process_completes ?_ instruction last
  refine foldlM_invariant (motive := fun routing => routing.snapshots.Indexed)
    (fun step member state next indexed processed => ?_) indexed ran
  exact indexed.routing (inside step member) processed

/-! ## Admission -/

theorem Snapshots.processInitializeOperatorSnapshot_lt {operator : Pubkey}
    (admitted : snapshots.processInitializeOperatorSnapshot operator ncnOperatorIndex = .ok next) :
    ncnOperatorIndex < snapshots.epochSnapshot.operatorCount := by
  obtain ⟨_, -, admitted⟩ := bind_eq_ok.mp admitted
  split at admitted
  · cases admitted
  · rename_i registered
    exact Nat.lt_of_not_le registered

theorem Snapshots.processInitializeOperatorSnapshot_of_missing {operator : Pubkey}
    (missing : snapshots.operatorSnapshots operator = .missing)
    (registered : ncnOperatorIndex < snapshots.epochSnapshot.operatorCount) :
    snapshots.processInitializeOperatorSnapshot operator ncnOperatorIndex =
      .ok (snapshots.setOperatorSnapshot operator (.allocated maxReallocBytes)) := by
  unfold processInitializeOperatorSnapshot
  rw [missing, Account.loadSystemAccount_eq_ok_iff.mpr rfl, ok_bind,
    if_neg (Nat.not_le.mpr registered)]
  rfl

/-- At the start every index below the operator count is admitted. -/
theorem Snapshots.start_admits {epochState : EpochState} {feeConfig : FeeConfig} {ncn : Pubkey}
    {epoch bump slot operatorCount : ℕ}
    (started : start epochState weightTable feeConfig ncn epoch bump slot operatorCount =
      .ok snapshots) :
    snapshots.epochSnapshot.operatorCount = operatorCount ∧
      ∀ operator index, index < operatorCount →
        ∃ next, snapshots.processInitializeOperatorSnapshot operator index = .ok next := by
  unfold start at started
  split at started
  · cases started
  split at started
  · cases started
  cases started
  refine ⟨rfl, fun operator index registered => ?_⟩
  exact ⟨_, processInitializeOperatorSnapshot_of_missing rfl registered⟩

/-- An operator that is admitted stays in bounds exactly when its index is below
256, and so all that can be admitted do exactly when the operator count is at most
256. -/
theorem operators_safe_iff {epochState : EpochState} {feeConfig : FeeConfig} {ncn : Pubkey}
    {epoch bump slot operatorCount : ℕ}
    (started : Snapshots.start epochState weightTable feeConfig ncn epoch bump slot operatorCount =
      .ok snapshots) :
    (∀ operator index next, snapshots.processInitializeOperatorSnapshot operator index = .ok next →
      (OperatorSafe index ↔ index < maxOperators)) ∧
    ((∀ operator index next,
        snapshots.processInitializeOperatorSnapshot operator index = .ok next → OperatorSafe index) ↔
      operatorCount ≤ maxOperators) := by
  refine ⟨fun operator index next _ => operatorSafe_iff, ?_, ?_⟩
  · intro safe
    by_contra many
    obtain ⟨next, admitted⟩ :=
      (Snapshots.start_admits started).2 .default maxOperators (Nat.lt_of_not_le many)
    exact absurd (operatorSafe_iff.mp (safe .default maxOperators next admitted)) (lt_irrefl _)
  · intro few operator index next admitted
    have registered := Snapshots.processInitializeOperatorSnapshot_lt admitted
    rw [(Snapshots.start_admits started).1] at registered
    exact operatorSafe_iff.mpr (registered.trans_le few)

/-- Two operators, both in bounds. -/
theorem operators_safe_iff_two : ∃ snapshots : Snapshots, snapshots.epochSnapshot.operatorCount = 2 ∧
    ∀ operator index next,
      snapshots.processInitializeOperatorSnapshot operator index = .ok next → OperatorSafe index := by
  have runs : (do
      let initial ← (Weighing.start .zeroed twoMints .default 3 5 255).mapError
        InstructionError.custom
      let weighed ← run (Weighing.process .withoutFeeds)
        [.adminSetWeight .default .default ⟨Vector.replicate 32 1⟩ 7 6,
          .adminSetWeight .default .default ⟨Vector.replicate 32 2⟩ 9 6] initial
      let start ← Snapshots.start weighed.epochState weighed.weightTable .sample .default 3 255 7 2
      return (weighed, start)).toOption.any (fun result : Weighing × Snapshots =>
        result.2.epochSnapshot.operatorCount == 2) = true := by
    decide +kernel
  obtain ⟨⟨weighed, start⟩, all, counted⟩ := exists_of_any runs
  obtain ⟨_, -, all⟩ := bind_eq_ok.mp all
  obtain ⟨_, -, all⟩ := bind_eq_ok.mp all
  obtain ⟨_, started, same⟩ := bind_eq_ok.mp all
  cases same
  exact ⟨start, of_decide_eq_true counted, (operators_safe_iff started).2.mpr (by decide)⟩

/-- With 257 operators the last one is admitted, and its snapshot can never be
initialised. -/
theorem admitted_operator_aborts :
    ∃ weightTable snapshots next,
      Snapshots.start .zeroed weightTable .sample .default 3 255 7 257 = .ok snapshots ∧
      snapshots.processInitializeOperatorSnapshot .default 256 = .ok next ∧
      ¬ Completes (next.processReallocOperatorSnapshot ⟨.default, 0, 100, 256, true, true⟩ 255 8) := by
  have runs : (do
      let initial ← (Weighing.start .zeroed twoMints .default 3 5 255).mapError
        InstructionError.custom
      let weighed ← run (Weighing.process .withoutFeeds)
        [.adminSetWeight .default .default ⟨Vector.replicate 32 1⟩ 7 6,
          .adminSetWeight .default .default ⟨Vector.replicate 32 2⟩ 9 6] initial
      let start ← Snapshots.start .zeroed weighed.weightTable .sample .default 3 255 7 257
      let next ← start.processInitializeOperatorSnapshot .default 256
      return (weighed, start, next)).toOption.any (fun result : Weighing × Snapshots × Snapshots =>
        !decide (Completes (result.2.2.processReallocOperatorSnapshot
          ⟨.default, 0, 100, 256, true, true⟩ 255 8))) = true := by
    decide +kernel
  obtain ⟨⟨weighed, start, next⟩, all, aborted⟩ := exists_of_any runs
  obtain ⟨_, -, all⟩ := bind_eq_ok.mp all
  obtain ⟨_, -, all⟩ := bind_eq_ok.mp all
  obtain ⟨_, started, all⟩ := bind_eq_ok.mp all
  obtain ⟨_, admitted, same⟩ := bind_eq_ok.mp all
  cases same
  rw [Bool.not_eq_true', decide_eq_false_iff_not] at aborted
  exact ⟨weighed.weightTable, start, next, started, admitted, aborted⟩

end TipRouter
