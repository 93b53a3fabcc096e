import TipRouter.EpochEffects
import TipRouter.RewardsInTransit
import Mathlib.Algebra.BigOperators.Group.Finset.Piecewise

/-! What the epoch state says about the other accounts, part by part: a status
for every account, and for every phase how far it has come. Each part names the
accounts it is about and the fields of the epoch state that speak of them, so
that an instruction on other accounts leaves it alone, and each says what the
steps of its own accounts do to it. -/
namespace TipRouter
open Runs

/-! ## Statuses -/

/-- The account is as its status says: it was filled exactly when it is created,
and it can only have been closed while the epoch is closing. -/
def Account.Tracked {α : Type} (filled : AccountStatus) (isClosing : Bool)
    (status : AccountStatus) : Account α → Prop
  | .missing => status = .dne ∨ (status = .closed ∧ isClosing = true)
  | .allocated _ => status = .dne
  | .ready _ => status = filled

namespace Account

variable {α : Type} {account : Account α} {filled status : AccountStatus} {isClosing : Bool}

/-- An account that may be created or grown was never filled. -/
theorem Tracked.dne (tracked : account.Tracked filled isClosing status)
    (unfilled : account.Unfilled isClosing) : status = .dne := by
  cases account with
  | missing =>
    rcases tracked with absent | ⟨-, closing⟩
    · exact absent
    · exact absurd (closing.symm.trans unfilled) (by simp)
  | allocated dataLen => exact tracked
  | ready data => exact unfilled.elim

theorem Tracked.dne_of_allocated {dataLen : ℕ}
    (tracked : account.Tracked filled isClosing status) (allocated : account = .allocated dataLen) :
    status = .dne := by
  rw [allocated] at tracked
  exact tracked

theorem Tracked.filled_of_ready {data : α} (tracked : account.Tracked filled isClosing status)
    (ready : account = .ready data) : status = filled := by
  rw [ready] at tracked
  exact tracked

theorem Tracked.setClosing (tracked : account.Tracked filled isClosing status) :
    account.Tracked filled true status := by
  cases account with
  | missing => exact tracked.imp_right fun closed => ⟨closed.1, rfl⟩
  | allocated dataLen => exact tracked
  | ready data => exact tracked

theorem tracked_closed : (missing : Account α).Tracked filled true .closed := .inr ⟨rfl, rfl⟩

theorem tracked_missing : (missing : Account α).Tracked filled isClosing .dne := .inl rfl

end Account

/-! ## The weight table -/

/-- The weight table beside its status, its number of vaults and its progress. -/
structure TableMirrored (table : Account WeightTable) (isClosing : Bool) (status : AccountStatus)
    (vaultCount : ℕ) (progress : Progress) : Prop where
  tracked : table.Tracked .created isClosing status
  counted : ∀ data, table = .ready data → ∀ epochState : EpochState,
    epochState.setWeightProgress = progress → Weighing.Counted ⟨data, epochState⟩
  vaults : ∀ data, table = .ready data → vaultCount = data.vaultCount
  tally : progress.tally ≤ progress.total
  total : progress.total ≤ maxStMints

theorem Weighing.Counted.congr {weighing : Weighing} {epochState : EpochState}
    (counted : weighing.Counted)
    (same : epochState.setWeightProgress = weighing.epochState.setWeightProgress) :
    Weighing.Counted ⟨weighing.weightTable, epochState⟩ :=
  ⟨counted.registered, counted.vaults, counted.mints, counted.bounded, same.trans counted.progress⟩

namespace TableMirrored

variable {table : Account WeightTable} {isClosing : Bool} {status : AccountStatus} {vaultCount : ℕ}
variable {progress : Progress}

/-- A table whose weights are counted, with the epoch state that counts them. -/
theorem of_counted {weighing : Weighing} (counted : weighing.Counted)
    (vaults : weighing.epochState.vaultCount = weighing.weightTable.vaultCount) :
    TableMirrored (.ready weighing.weightTable) isClosing .created weighing.epochState.vaultCount
      weighing.epochState.setWeightProgress where
  tracked := rfl
  counted data ready epochState same := by
    cases ready
    exact counted.congr same
  vaults data ready := by
    cases ready
    exact vaults
  tally := by
    rw [counted.progress]
    exact counted.bounded
  total := by
    have few : weighing.weightTable.mintCount ≤ maxStMints := Slots.count_le_length
    rw [counted.progress]
    exact few

theorem grow {dataLen : ℕ} (mirrored : TableMirrored table isClosing status vaultCount progress)
    (unfilled : table.Unfilled isClosing) :
    TableMirrored (.allocated dataLen) isClosing status vaultCount progress where
  tracked := mirrored.tracked.dne unfilled
  counted data ready := by cases ready
  vaults data ready := by cases ready
  tally := mirrored.tally
  total := mirrored.total

theorem setClosing (mirrored : TableMirrored table isClosing status vaultCount progress) :
    TableMirrored table true status vaultCount progress :=
  { mirrored with tracked := mirrored.tracked.setClosing }

theorem close (mirrored : TableMirrored table isClosing status vaultCount progress) :
    TableMirrored .missing true .closed vaultCount progress where
  tracked := Account.tracked_closed
  counted data ready := by cases ready
  vaults data ready := by cases ready
  tally := mirrored.tally
  total := mirrored.total

end TableMirrored

theorem Weighing.start_vaultCount {epochState : EpochState} {vaultRegistry : VaultRegistry}
    {ncn : Pubkey} {epoch slot bump : ℕ} {weighing : Weighing}
    (started : start epochState vaultRegistry ncn epoch slot bump = .ok weighing) :
    ∃ table stMintCount, weighing = ⟨table, epochState.updateReallocWeightTable table.vaultCount
      stMintCount⟩ := by
  obtain ⟨table, initialized, same⟩ := bind_eq_ok.mp started
  cases same
  obtain ⟨vaulted, vaults, mints⟩ := bind_eq_ok.mp initialized
  obtain ⟨-, -, rfl⟩ := WeightTable.setVaultEntries_eq_ok vaults
  obtain ⟨-, rfl⟩ := WeightTable.setMintEntries_eq_ok mints
  exact ⟨_, _, rfl⟩

/-- Setting a weight changes the table's weights and the progress, nothing else. -/
theorem Weighing.process_frame {switchboard : Switchboard} {weighing next : Weighing}
    {instruction : WeightInstruction}
    (processed : weighing.process switchboard instruction = .ok next) :
    next.weightTable.vaultCount = weighing.weightTable.vaultCount ∧
      next.epochState = { weighing.epochState with
        setWeightProgress := next.epochState.setWeightProgress } := by
  obtain ⟨weight, set⟩ := process_eq_ok processed
  obtain ⟨-, index, -, written, updated⟩ := setWeight_eq_ok set
  rw [written, updated]
  exact ⟨rfl, rfl⟩

/-! ## The routers -/

/-- A router beside its status and its progress. -/
structure BaseMirrored (router : Account BaseRewardRouter) (isClosing : Bool)
    (status : AccountStatus) (progress : Progress) : Prop where
  tracked : router.Tracked .createdWithReceiver isClosing status
  flow : ∀ data, router = .ready data → data.flow.Mirrored progress

namespace BaseMirrored

variable {router : Account BaseRewardRouter} {isClosing : Bool} {status : AccountStatus}
variable {progress : Progress}

theorem of_flow {data : BaseRewardRouter} (flow : data.flow.Mirrored progress) :
    BaseMirrored (.ready data) isClosing .createdWithReceiver progress where
  tracked := rfl
  flow other ready := by
    cases ready
    exact flow

theorem grow {dataLen : ℕ} (mirrored : BaseMirrored router isClosing status progress)
    (unfilled : router.Unfilled isClosing) :
    BaseMirrored (.allocated dataLen) isClosing status progress where
  tracked := mirrored.tracked.dne unfilled
  flow data ready := by cases ready

theorem setClosing (mirrored : BaseMirrored router isClosing status progress) :
    BaseMirrored router true status progress :=
  { mirrored with tracked := mirrored.tracked.setClosing }

theorem closed : BaseMirrored .missing true .closed progress where
  tracked := Account.tracked_closed
  flow data ready := by cases ready

end BaseMirrored

/-! ## Tables of accounts -/

/-- The status at an index that may lie outside the table. -/
def statusOf {n : ℕ} (statuses : Vector AccountStatus n) (index : ℕ) : AccountStatus :=
  if inside : index < n then statuses[(⟨index, inside⟩ : Fin n)] else .dne

section StatusOf
variable {n index other : ℕ} {statuses : Vector AccountStatus n} {status : AccountStatus}

theorem statusOf_of_lt (inside : index < n) :
    statusOf statuses index = statuses[(⟨index, inside⟩ : Fin n)] := dif_pos inside

theorem lt_of_statusOf (used : statusOf statuses index ≠ .dne) : index < n := by
  by_contra outside
  exact used (dif_neg outside)

/-- In the zeroed memory no account was created. -/
theorem statusOf_replicate : statusOf (Vector.replicate n .dne) index = .dne := by
  unfold statusOf
  split
  · exact Vector.getElem_replicate ..
  · rfl

theorem statusOf_put_self (inside : index < n) :
    statusOf (statuses.put ⟨index, inside⟩ status) index = status := by
  rw [statusOf_of_lt inside, Slots.getElem_put_self]

theorem statusOf_put_ne (inside : index < n) (different : other ≠ index) :
    statusOf (statuses.put ⟨index, inside⟩ status) other = statusOf statuses other := by
  unfold statusOf
  split
  · rename_i otherInside
    exact Slots.getElem_put_ne _ _ fun same => different (congrArg Fin.val same).symm
  · rfl

end StatusOf

/-- Where the routers of an operator stand. -/
theorem ncnRouterIndex_ne {indexOf : Pubkey → ℕ} (distinct : Function.Injective indexOf)
    {operator other : Pubkey} {group otherGroup : Fin feeGroupCount}
    (different : (other, NcnFeeGroup.ofIndex otherGroup) ≠ (operator, .ofIndex group)) :
    indexOf other * feeGroupCount + otherGroup ≠ indexOf operator * feeGroupCount + group := by
  intro same
  have below := group.isLt
  have otherBelow := otherGroup.isLt
  unfold feeGroupCount at below otherBelow same
  have sameOperator : indexOf other = indexOf operator := by omega
  have sameGroup : otherGroup = group := Fin.ext (by omega)
  exact different (by rw [distinct sameOperator, sameGroup])

/-- The NCN routers beside their statuses and their progress; `indexOf` is the index
an operator has with the NCN. -/
structure NcnMirrored (indexOf : Pubkey → ℕ)
    (routers : Pubkey × NcnFeeGroup → Account NcnRewardRouter) (isClosing : Bool)
    (statuses : Vector AccountStatus maxNcnRewardRouters)
    (progresses : Vector Progress maxNcnRewardRouters) : Prop where
  tracked : ∀ operator (group : Fin feeGroupCount), (routers (operator, .ofIndex group)).Tracked
    .createdWithReceiver isClosing (statusOf statuses (indexOf operator * feeGroupCount + group))
  owned : ∀ i : Fin maxNcnRewardRouters, statuses[i] ≠ .dne →
    ∃ operator, ∃ group : Fin feeGroupCount, indexOf operator * feeGroupCount + group = i
  groups : ∀ key, routers key ≠ .missing → ∃ group, key.2 = .ofIndex group
  identity : ∀ operator (group : Fin feeGroupCount) data,
    routers (operator, .ofIndex group) = .ready data →
    data.identity = (indexOf operator, .ofIndex group)
  flow : ∀ operator (group : Fin feeGroupCount) data,
    routers (operator, .ofIndex group) = .ready data →
    ∃ inside : indexOf operator * feeGroupCount + group < maxNcnRewardRouters,
      data.flow.Mirrored progresses[(⟨_, inside⟩ : Fin maxNcnRewardRouters)]

namespace NcnMirrored

variable {indexOf : Pubkey → ℕ} {routers : Pubkey × NcnFeeGroup → Account NcnRewardRouter}
variable {isClosing : Bool} {statuses : Vector AccountStatus maxNcnRewardRouters}
variable {progresses : Vector Progress maxNcnRewardRouters} {operator : Pubkey}
variable {group : Fin feeGroupCount} {account : Account NcnRewardRouter} {status : AccountStatus}
variable {progress : Progress}

/-- A router that exists has one of the fee groups. -/
theorem exists_group {key : Pubkey × NcnFeeGroup} {data : NcnRewardRouter}
    (mirrored : NcnMirrored indexOf routers isClosing statuses progresses)
    (ready : routers key = .ready data) : ∃ group, key.2 = .ofIndex group := by
  refine mirrored.groups key fun missing => ?_
  cases missing.symm.trans ready

/-- Writing one router with its status and its progress leaves the others alone. -/
theorem write (mirrored : NcnMirrored indexOf routers isClosing statuses progresses)
    (distinct : Function.Injective indexOf)
    (inside : indexOf operator * feeGroupCount + group < maxNcnRewardRouters)
    (tracked : account.Tracked .createdWithReceiver isClosing status)
    (own : ∀ data, account = .ready data →
      data.identity = (indexOf operator, .ofIndex group) ∧ data.flow.Mirrored progress) :
    NcnMirrored indexOf (Function.update routers (operator, .ofIndex group) account) isClosing
      (statuses.put ⟨_, inside⟩ status) (progresses.put ⟨_, inside⟩ progress) where
  tracked other otherGroup := by
    by_cases here : (other, NcnFeeGroup.ofIndex otherGroup) = (operator, .ofIndex group)
    · obtain ⟨rfl, sameGroup⟩ := Prod.mk.inj here
      obtain rfl : otherGroup = group := Fin.ext (NcnFeeGroup.mk.inj sameGroup)
      rw [Function.update_self, statusOf_put_self]
      exact tracked
    · rw [Function.update_of_ne here, statusOf_put_ne inside (ncnRouterIndex_ne distinct here)]
      exact mirrored.tracked other otherGroup
  owned i used := by
    by_cases here : (⟨_, inside⟩ : Fin maxNcnRewardRouters) = i
    · exact ⟨operator, group, congrArg Fin.val here⟩
    · rw [Slots.getElem_put_ne _ _ here] at used
      exact mirrored.owned i used
  groups key used := by
    by_cases here : key = (operator, .ofIndex group)
    · exact ⟨group, by rw [here]⟩
    · rw [Function.update_of_ne here] at used
      exact mirrored.groups key used
  identity other otherGroup data ready := by
    by_cases here : (other, NcnFeeGroup.ofIndex otherGroup) = (operator, .ofIndex group)
    · rw [here, Function.update_self] at ready
      obtain ⟨rfl, sameGroup⟩ := Prod.mk.inj here
      rw [sameGroup]
      exact (own data ready).1
    · rw [Function.update_of_ne here] at ready
      exact mirrored.identity other otherGroup data ready
  flow other otherGroup data ready := by
    by_cases here : (other, NcnFeeGroup.ofIndex otherGroup) = (operator, .ofIndex group)
    · rw [here, Function.update_self] at ready
      obtain ⟨rfl, sameGroup⟩ := Prod.mk.inj here
      obtain rfl : otherGroup = group := Fin.ext (NcnFeeGroup.mk.inj sameGroup)
      refine ⟨inside, ?_⟩
      rw [Slots.getElem_put_self]
      exact (own data ready).2
    · rw [Function.update_of_ne here] at ready
      obtain ⟨otherInside, mirroredFlow⟩ := mirrored.flow other otherGroup data ready
      refine ⟨otherInside, ?_⟩
      rw [Slots.getElem_put_ne _ _ fun same =>
        ncnRouterIndex_ne distinct here (congrArg Fin.val same).symm]
      exact mirroredFlow

/-- A router that is routed or distributed keeps its status. -/
theorem update (mirrored : NcnMirrored indexOf routers isClosing statuses progresses)
    (distinct : Function.Injective indexOf) {before after : NcnRewardRouter}
    (inside : indexOf operator * feeGroupCount + group < maxNcnRewardRouters)
    (ready : routers (operator, .ofIndex group) = .ready before)
    (same : after.identity = before.identity) (flow : after.flow.Mirrored progress) :
    NcnMirrored indexOf (Function.update routers (operator, .ofIndex group) (.ready after))
      isClosing statuses (progresses.put ⟨_, inside⟩ progress) := by
  have status : statuses[(⟨_, inside⟩ : Fin maxNcnRewardRouters)] = .createdWithReceiver := by
    rw [← statusOf_of_lt inside]
    exact (mirrored.tracked operator group).filled_of_ready ready
  have written := mirrored.write distinct inside
    (show (Account.ready after).Tracked .createdWithReceiver isClosing
      statuses[(⟨_, inside⟩ : Fin maxNcnRewardRouters)] from status)
    (fun data here => by
      cases here
      exact ⟨same.trans (mirrored.identity operator group before ready), flow⟩)
  rw [Slots.getElem_fin, Slots.put_getElem] at written
  exact written

theorem setClosing (mirrored : NcnMirrored indexOf routers isClosing statuses progresses) :
    NcnMirrored indexOf routers true statuses progresses :=
  { mirrored with tracked := fun operator group => (mirrored.tracked operator group).setClosing }

/-- Closing a router leaves the progress as it is. -/
theorem close (mirrored : NcnMirrored indexOf routers true statuses progresses)
    (distinct : Function.Injective indexOf)
    (inside : indexOf operator * feeGroupCount + group < maxNcnRewardRouters) :
    NcnMirrored indexOf (Function.update routers (operator, .ofIndex group) .missing) true
      (statuses.put ⟨_, inside⟩ .closed) progresses := by
  have nothing : ∀ data, (Account.missing : Account NcnRewardRouter) = .ready data →
      data.identity = (indexOf operator, .ofIndex group) ∧
        data.flow.Mirrored progresses[(⟨_, inside⟩ : Fin maxNcnRewardRouters)] :=
    fun data here => by cases here
  have written := mirrored.write distinct inside Account.tracked_closed nothing
  rw [Slots.getElem_fin, Slots.put_getElem] at written
  exact written

end NcnMirrored

/-! ## The snapshots -/

/-- What the epoch state records of the snapshots. -/
structure SnapshotRecord where
  isClosing : Bool
  tableStatus : AccountStatus
  vaultCount : ℕ
  status : AccountStatus
  statuses : Vector AccountStatus maxOperators
  progress : Progress
  progresses : Vector Progress maxOperators

def EpochState.snapshotRecord (self : EpochState) : SnapshotRecord where
  isClosing := self.isClosing
  tableStatus := self.accountStatus.weightTable
  vaultCount := self.vaultCount
  status := self.accountStatus.epochSnapshot
  statuses := self.accountStatus.operatorSnapshot
  progress := self.epochSnapshotProgress
  progresses := self.operatorSnapshotProgress

/-- The indices whose operator snapshots are complete, closed ones included. -/
def SnapshotRecord.completed (record : SnapshotRecord) : Finset (Fin maxOperators) :=
  Finset.univ.filter fun i => record.statuses[i] ≠ .dne ∧ record.progresses[i].isComplete = true

/-- Far from the sentinel a progress is complete when all is counted. -/
theorem Progress.isComplete_of_lt {tally total : ℕ} (tallied : tally < invalid)
    (totalled : total < invalid) : isComplete ⟨tally, total⟩ = decide (total ≤ tally) := by
  unfold isComplete isInvalid
  rw [beq_false_of_ne tallied.ne, beq_false_of_ne totalled.ne]
  rfl

theorem Progress.maxOperators_lt_invalid : maxOperators < invalid := by
  unfold maxOperators invalid u64Max
  omega

/-- The progress of an operator snapshot counts its vaults, or marks an inactive
operator, which has none, as done. -/
def OperatorSnapshot.Mirrored (snapshot : OperatorSnapshot) (progress : Progress) : Prop :=
  progress = ⟨snapshot.vaultOperatorDelegationsRegistered, snapshot.vaultOperatorDelegationCount⟩ ∨
    (snapshot.finalized = true ∧ progress = ⟨1, 1⟩)

theorem OperatorSnapshot.Mirrored.isComplete_eq {snapshot : OperatorSnapshot} {progress : Progress}
    (mirrored : snapshot.Mirrored progress) (exact : snapshot.Exact) :
    progress.isComplete = snapshot.finalized := by
  have registered := exact.registered
  have few := exact.few
  have small : maxVaults < Progress.invalid := lt_trans (by decide) Progress.maxOperators_lt_invalid
  rcases mirrored with rfl | ⟨final, rfl⟩
  · rw [Progress.isComplete_of_lt (by omega) (by omega), finalized, Bool.eq_iff_iff,
      decide_eq_true_eq, beq_iff_eq]
    omega
  · have one : 1 < Progress.invalid :=
      lt_trans (by decide) Progress.maxOperators_lt_invalid
    rw [final, Progress.isComplete_of_lt one one]
    rfl

/-- The snapshots beside their statuses and their progress. -/
structure SnapshotsMirrored (indexOf : Pubkey → ℕ) (snapshot : Account EpochSnapshot)
    (operators : Pubkey → Account OperatorSnapshot) (record : SnapshotRecord) : Prop where
  tracked : snapshot.Tracked .created record.isClosing record.status
  operatorsTracked : ∀ operator, (operators operator).Tracked .created record.isClosing
    (statusOf record.statuses (indexOf operator))
  owned : ∀ i : Fin maxOperators, record.statuses[i] ≠ .dne → ∃ operator, indexOf operator = i
  index : ∀ operator data, operators operator = .ready data →
    data.ncnOperatorIndex = indexOf operator
  exact : ∀ operator data, operators operator = .ready data → data.Exact
  rows : ∀ operator data, operators operator = .ready data →
    ∃ inside : indexOf operator < maxOperators,
      data.Mirrored record.progresses[(⟨_, inside⟩ : Fin maxOperators)]
  unstarted : record.status = .dne → ∀ i : Fin maxOperators, record.statuses[i] = .dne
  tabled : record.status ≠ .dne → record.tableStatus ≠ .dne
  progress : ∀ data, snapshot = .ready data →
    record.progress = ⟨data.operatorsRegistered, data.operatorCount⟩
  registered : ∀ data, snapshot = .ready data → data.operatorsRegistered = record.completed.card
  bounded : ∀ data, snapshot = .ready data → data.operatorsRegistered ≤ data.operatorCount
  vaults : ∀ data, snapshot = .ready data →
    record.vaultCount = data.vaultCount ∧ 0 < data.vaultCount

namespace SnapshotsMirrored

variable {indexOf : Pubkey → ℕ} {snapshot : Account EpochSnapshot}
variable {operators : Pubkey → Account OperatorSnapshot} {record : SnapshotRecord}
variable {operator : Pubkey} {before after : EpochSnapshot}

/-- The epoch snapshot is finalized exactly when its progress is complete. At most
256 operators are registered, so that a count beyond is never reached. -/
theorem isComplete_eq (mirrored : SnapshotsMirrored indexOf snapshot operators record)
    (ready : snapshot = .ready before) : record.progress.isComplete = before.finalized := by
  have few : record.completed.card ≤ maxOperators := card_finset_fin_le _
  have bounded := mirrored.bounded before ready
  have small := Progress.maxOperators_lt_invalid
  have registered := mirrored.registered before ready
  rw [mirrored.progress before ready, EpochSnapshot.finalized]
  by_cases large : before.operatorCount < Progress.invalid
  · rw [Progress.isComplete_of_lt (by omega) large, Bool.eq_iff_iff, decide_eq_true_eq, beq_iff_eq]
    omega
  · have unreached : before.operatorsRegistered ≠ before.operatorCount := by omega
    rw [beq_false_of_ne unreached]
    unfold Progress.isComplete
    split
    · rfl
    · exact decide_eq_false (Nat.not_le.mpr (Nat.lt_of_le_of_ne bounded unreached))

theorem allocateOperator {dataLen : ℕ}
    (mirrored : SnapshotsMirrored indexOf snapshot operators record)
    (unfilled : (operators operator).Unfilled record.isClosing) :
    SnapshotsMirrored indexOf snapshot
      (Function.update operators operator (.allocated dataLen)) record := by
  have kept : ∀ other data,
      Function.update operators operator (.allocated dataLen) other = .ready data →
      operators other = .ready data :=
    fun other data ready => Account.of_update_eq ready nofun
  exact { mirrored with
    operatorsTracked := by
      intro other
      by_cases here : other = operator
      · rw [here, Function.update_self]
        exact (mirrored.operatorsTracked operator).dne unfilled
      · rw [Function.update_of_ne here]
        exact mirrored.operatorsTracked other
    index := fun other data ready => mirrored.index other data (kept other data ready)
    exact := fun other data ready => mirrored.exact other data (kept other data ready)
    rows := fun other data ready => mirrored.rows other data (kept other data ready) }

/-- Writing one progress can complete one more operator. -/
theorem completed_write {inside : indexOf operator < maxOperators} {progress : Progress}
    (fresh : (⟨_, inside⟩ : Fin maxOperators) ∉ record.completed) (total : Progress) :
    SnapshotRecord.completed { record with
      statuses := record.statuses.put ⟨_, inside⟩ .created
      progress := total
      progresses := record.progresses.put ⟨_, inside⟩ progress } =
      if progress.isComplete = true then insert ⟨_, inside⟩ record.completed
      else record.completed := by
  ext i
  by_cases here : (⟨_, inside⟩ : Fin maxOperators) = i
  · rw [← here]
    simp only [SnapshotRecord.completed, Finset.mem_filter, Finset.mem_univ, true_and,
      Slots.getElem_put_self] at fresh ⊢
    split
    · rename_i complete
      simp [complete]
    · rename_i incomplete
      simpa [incomplete] using fresh
  · have other : i ≠ ⟨_, inside⟩ := Ne.symm here
    split
    · rw [Finset.mem_insert, or_iff_right other]
      simp only [SnapshotRecord.completed, Finset.mem_filter, Finset.mem_univ, true_and,
        Slots.getElem_put_ne _ _ here]
    · simp only [SnapshotRecord.completed, Finset.mem_filter, Finset.mem_univ, true_and,
        Slots.getElem_put_ne _ _ here]

/-- Writing one operator snapshot with its progress, which was not complete, and
counting it in the epoch snapshot if it is complete now. -/
theorem write {data : OperatorSnapshot} {progress : Progress}
    (mirrored : SnapshotsMirrored indexOf snapshot operators record)
    (distinct : Function.Injective indexOf) (ready : snapshot = .ready before)
    (inside : indexOf operator < maxOperators)
    (fresh : (⟨_, inside⟩ : Fin maxOperators) ∉ record.completed)
    (index : data.ncnOperatorIndex = indexOf operator) (exact : data.Exact)
    (row : data.Mirrored progress)
    (registered : after.operatorsRegistered =
      before.operatorsRegistered + if progress.isComplete = true then 1 else 0)
    (bounded : after.operatorsRegistered ≤ after.operatorCount)
    (sameVaults : after.vaultCount = before.vaultCount) :
    SnapshotsMirrored indexOf (.ready after) (Function.update operators operator (.ready data))
      { record with
        statuses := record.statuses.put ⟨_, inside⟩ .created
        progress := ⟨after.operatorsRegistered, after.operatorCount⟩
        progresses := record.progresses.put ⟨_, inside⟩ progress } := by
  have started : record.status = .created := mirrored.tracked.filled_of_ready ready
  have apart : ∀ other, other ≠ operator → indexOf other ≠ indexOf operator :=
    fun other different same => different (distinct same)
  constructor
  · exact started
  · intro other
    by_cases here : other = operator
    · rw [here, Function.update_self]
      exact statusOf_put_self inside
    · rw [Function.update_of_ne here]
      dsimp only
      rw [statusOf_put_ne inside (apart other here)]
      exact mirrored.operatorsTracked other
  · intro i used
    by_cases here : (⟨_, inside⟩ : Fin maxOperators) = i
    · exact ⟨operator, congrArg Fin.val here⟩
    · dsimp only at used
      rw [Slots.getElem_put_ne _ _ here] at used
      exact mirrored.owned i used
  · refine Account.forall_ready_update (P := fun other (data : OperatorSnapshot) =>
      data.ncnOperatorIndex = indexOf other) ?_ fun other _ => mirrored.index other
    rintro _ ⟨⟩
    exact index
  · refine Account.forall_ready_update (P := fun _ (data : OperatorSnapshot) => data.Exact) ?_
      fun other _ => mirrored.exact other
    rintro _ ⟨⟩
    exact exact
  · refine Account.forall_ready_update ?_ fun other different otherData otherReady => ?_
    · rintro _ ⟨⟩
      refine ⟨inside, ?_⟩
      dsimp only
      rw [Slots.getElem_put_self]
      exact row
    · obtain ⟨otherInside, otherRow⟩ := mirrored.rows other otherData otherReady
      refine ⟨otherInside, ?_⟩
      dsimp only
      rw [Slots.getElem_put_ne _ _ fun same => apart other different (congrArg Fin.val same).symm]
      exact otherRow
  · intro unstarted
    cases started.symm.trans unstarted
  · exact mirrored.tabled
  · intro other same
    cases same
    rfl
  · intro other same
    cases same
    rw [completed_write fresh, registered, mirrored.registered before ready]
    split
    · rw [Finset.card_insert_of_notMem fresh]
    · rfl
  · intro other same
    cases same
    exact bounded
  · intro other same
    cases same
    rw [sameVaults]
    exact mirrored.vaults before ready

/-- An operator whose snapshot is not there yet is not complete. -/
theorem fresh_of_dne {inside : indexOf operator < maxOperators}
    (unfilled : statusOf record.statuses (indexOf operator) = .dne) :
    (⟨_, inside⟩ : Fin maxOperators) ∉ record.completed := by
  rw [statusOf_of_lt inside] at unfilled
  simp only [SnapshotRecord.completed, Finset.mem_filter, Finset.mem_univ, true_and]
  exact fun completed => completed.1 unfilled

/-! ### Creating and closing -/

/-- A new epoch snapshot has no operators. -/
theorem start {operatorCount : ℕ}
    (mirrored : SnapshotsMirrored indexOf snapshot operators record)
    (absent : record.status = .dne) (tabled : record.tableStatus ≠ .dne)
    (vaults : record.vaultCount = after.vaultCount ∧ 0 < after.vaultCount)
    (none : after.operatorsRegistered = 0) (count : after.operatorCount = operatorCount) :
    SnapshotsMirrored indexOf (.ready after) operators
      { record with status := .created, progress := .new operatorCount } := by
  have unused := mirrored.unstarted absent
  exact { mirrored with
    tracked := rfl
    unstarted := fun absent => by cases absent
    tabled := fun _ => tabled
    progress := fun data ready => by
      cases ready
      rw [none, count]
      rfl
    registered := fun data ready => by
      cases ready
      rw [none, eq_comm, Finset.card_eq_zero, SnapshotRecord.completed]
      exact Finset.filter_eq_empty_iff.mpr fun i _ completed => completed.1 (unused i)
    bounded := fun data ready => by
      cases ready
      rw [none]
      exact Nat.zero_le _
    vaults := fun data ready => by
      cases ready
      exact vaults }

/-- Before the weight table is filled there is no snapshot that could disagree. -/
theorem fillTable {vaultCount : ℕ}
    (mirrored : SnapshotsMirrored indexOf snapshot operators record)
    (unfilled : record.tableStatus = .dne) :
    SnapshotsMirrored indexOf snapshot operators
      { record with tableStatus := .created, vaultCount := vaultCount } := by
  exact { mirrored with
    tabled := fun _ tabled => by cases tabled
    vaults := fun data ready => by
      have started := mirrored.tracked.filled_of_ready ready
      refine absurd unfilled (mirrored.tabled ?_)
      rw [started]
      exact fun same => by cases same }

theorem closeTable (mirrored : SnapshotsMirrored indexOf snapshot operators record) :
    SnapshotsMirrored indexOf snapshot operators { record with tableStatus := .closed } :=
  { mirrored with tabled := fun _ tabled => by cases tabled }

theorem setClosing (mirrored : SnapshotsMirrored indexOf snapshot operators record) :
    SnapshotsMirrored indexOf snapshot operators { record with isClosing := true } :=
  { mirrored with
    tracked := mirrored.tracked.setClosing
    operatorsTracked := fun operator => (mirrored.operatorsTracked operator).setClosing }

theorem close (mirrored : SnapshotsMirrored indexOf snapshot operators record)
    (closing : record.isClosing = true) (ready : snapshot = .ready before) :
    SnapshotsMirrored indexOf .missing operators { record with status := .closed } := by
  have started := mirrored.tracked.filled_of_ready ready
  exact { mirrored with
    tracked := .inr ⟨rfl, closing⟩
    unstarted := fun absent => by cases absent
    tabled := fun _ => mirrored.tabled (by rw [started]; exact fun same => by cases same)
    progress := fun data ready => by cases ready
    registered := fun data ready => by cases ready
    bounded := fun data ready => by cases ready
    vaults := fun data ready => by cases ready }

/-- A closed operator snapshot still counts as complete if it was. -/
theorem closeOperator (mirrored : SnapshotsMirrored indexOf snapshot operators record)
    (distinct : Function.Injective indexOf) (closing : record.isClosing = true)
    (inside : indexOf operator < maxOperators) {data : OperatorSnapshot}
    (ready : operators operator = .ready data) :
    SnapshotsMirrored indexOf snapshot (Function.update operators operator .missing)
      { record with statuses := record.statuses.put ⟨_, inside⟩ .closed } := by
  have filled := (mirrored.operatorsTracked operator).filled_of_ready ready
  rw [statusOf_of_lt inside] at filled
  have kept : ∀ other data, Function.update operators operator .missing other = .ready data →
      operators other = .ready data :=
    fun other data ready => Account.of_update_eq ready nofun
  have sameCompleted : SnapshotRecord.completed
      { record with statuses := record.statuses.put ⟨_, inside⟩ .closed } = record.completed := by
    ext i
    simp only [SnapshotRecord.completed, Finset.mem_filter, Finset.mem_univ, true_and]
    by_cases here : (⟨_, inside⟩ : Fin maxOperators) = i
    · rw [← here, Slots.getElem_put_self, filled]
      simp
    · rw [Slots.getElem_put_ne _ _ here]
  exact { mirrored with
    operatorsTracked := fun other => by
      by_cases here : other = operator
      · rw [here, Function.update_self]
        exact .inr ⟨statusOf_put_self inside, closing⟩
      · rw [Function.update_of_ne here]
        dsimp only
        rw [statusOf_put_ne inside fun same => here (distinct same)]
        exact mirrored.operatorsTracked other
    owned := fun i used => by
      by_cases here : (⟨_, inside⟩ : Fin maxOperators) = i
      · exact ⟨operator, congrArg Fin.val here⟩
      · dsimp only at used
        rw [Slots.getElem_put_ne _ _ here] at used
        exact mirrored.owned i used
    index := fun other data ready => mirrored.index other data (kept other data ready)
    exact := fun other data ready => mirrored.exact other data (kept other data ready)
    rows := fun other data ready => mirrored.rows other data (kept other data ready)
    unstarted := fun absent => by
      have none := mirrored.unstarted absent ⟨_, inside⟩
      cases filled.symm.trans none
    registered := fun data ready => by
      rw [sameCompleted]
      exact mirrored.registered data ready }

end SnapshotsMirrored

/-! ### Filling an operator snapshot -/

/-- Only these fields of the epoch state change when snapshots are taken. -/
def EpochState.SnapshotsChanged (before after : EpochState) : Prop :=
  ∃ statuses progress progresses, after = { before with
    accountStatus := { before.accountStatus with operatorSnapshot := statuses }
    epochSnapshotProgress := progress
    operatorSnapshotProgress := progresses }

section Filling
variable {indexOf : Pubkey → ℕ} {epochState : EpochState} {before : EpochSnapshot}
variable {operators : Pubkey → Account OperatorSnapshot} {snapshots : Snapshots}

theorem SnapshotsMirrored.fill {reading : OperatorReading} {bump slot dataLen : ℕ}
    (mirrored : SnapshotsMirrored indexOf (.ready before) operators epochState.snapshotRecord)
    (distinct : Function.Injective indexOf)
    (indexed : reading.ncnOperatorIndex = indexOf reading.operator)
    (allocated : operators reading.operator = .allocated dataLen)
    (filled : Snapshots.initializeOperatorSnapshot ⟨epochState, before, operators⟩ reading bump
      slot = .ok snapshots) :
    epochState.SnapshotsChanged snapshots.epochState ∧
      SnapshotsMirrored indexOf (.ready snapshots.epochSnapshot) snapshots.operatorSnapshots
        snapshots.epochState.snapshotRecord := by
  obtain ⟨data, after, updated, initialized, registers, update, rfl⟩ :=
    Snapshots.initializeOperatorSnapshot_eq_ok filled
  obtain ⟨none, count, few, -, -, -, -, index⟩ :=
    OperatorSnapshot.initializeSnapshot_eq_ok initialized
  rw [indexed] at index update
  obtain ⟨inside, rfl⟩ := EpochState.updateReallocOperatorSnapshot_eq_ok update
  have unfilled := (mirrored.operatorsTracked reading.operator).dne_of_allocated allocated
  have fresh : (⟨_, inside⟩ : Fin maxOperators) ∉ epochState.snapshotRecord.completed :=
    SnapshotsMirrored.fresh_of_dne unfilled
  have exact := OperatorSnapshot.initializeSnapshot_exact initialized
  obtain ⟨sameVaults, vaults⟩ := mirrored.vaults before rfl
  have total := mirrored.progress before rfl
  refine ⟨⟨_, _, _, rfl⟩, ?_⟩
  rcases registers with ⟨inactive, counted⟩ | ⟨active, rfl⟩
  · rw [Bool.not_eq_true'] at inactive
    rw [inactive] at count ⊢
    obtain ⟨pending, one, -, -, sameCount, sameVaults⟩ :=
      EpochSnapshot.incrementOperatorRegistration_eq_ok counted
    have final : data.finalized = true := by
      rw [OperatorSnapshot.finalized, none, count]
      rfl
    have row : data.Mirrored ⟨1, 1⟩ := .inr ⟨final, rfl⟩
    have open_ := beq_eq_false_iff_ne.mp pending
    have bounded := mirrored.bounded before rfl
    dsimp only at one sameCount open_
    have written := mirrored.write distinct rfl inside fresh index exact row
      (by rw [row.isComplete_eq exact, final, one]; rfl)
      (by omega : after.operatorsRegistered ≤ after.operatorCount) sameVaults
    have progress : (⟨after.operatorsRegistered, after.operatorCount⟩ : Progress) =
        ⟨epochState.epochSnapshotProgress.tally + 1,
          epochState.epochSnapshotProgress.total⟩ := by
      rw [one, sameCount, show epochState.epochSnapshotProgress = _ from total]
    rw [progress] at written
    exact written
  · rw [Bool.not_eq_false'] at active
    rw [active] at count ⊢
    have row : data.Mirrored (.new epochState.vaultCount) := by
      refine .inl ?_
      rw [none, count, if_pos rfl, ← sameVaults]
      rfl
    have incomplete : (Progress.new epochState.vaultCount).isComplete = false := by
      rw [row.isComplete_eq exact, OperatorSnapshot.finalized, none, count, if_pos rfl]
      exact beq_false_of_ne vaults.ne
    have written := mirrored.write distinct rfl inside fresh index exact row
      (by rw [incomplete]; rfl) (mirrored.bounded _ rfl) rfl
    rw [← total] at written
    exact written

theorem SnapshotsMirrored.register {spl : SplMath} {weightTable : WeightTable}
    {operator : Pubkey} {reading : VaultReading} {slot : ℕ}
    (mirrored : SnapshotsMirrored indexOf (.ready before) operators epochState.snapshotRecord)
    (distinct : Function.Injective indexOf)
    (taken : Snapshots.processSnapshotVaultOperatorDelegation spl weightTable
      ⟨epochState, before, operators⟩ operator reading slot = .ok snapshots) :
    epochState.SnapshotsChanged snapshots.epochState ∧
      SnapshotsMirrored indexOf (.ready snapshots.epochSnapshot) snapshots.operatorSnapshots
        snapshots.epochState.snapshotRecord := by
  obtain ⟨earlier, _, _, later, after, updated, ready, -, increment, registers, update, rfl⟩ :=
    Snapshots.processSnapshotVaultOperatorDelegation_eq_ok taken
  obtain ⟨unfinished, slot, here, -, -, one, sameCount, -, -, -, sameIndex⟩ :=
    OperatorSnapshot.incrementVaultOperatorDelegationRegistration_eq_ok increment
  have index := sameIndex.trans (mirrored.index operator earlier ready)
  have exactBefore := mirrored.exact operator earlier ready
  have exact := exactBefore.register increment
  rw [index] at update
  obtain ⟨inside, rfl⟩ := EpochState.updateSnapshotVaultOperatorDelegation_eq_ok update
  obtain ⟨_, rowBefore⟩ := mirrored.rows operator earlier ready
  have total := mirrored.progress before rfl
  have counting : epochState.operatorSnapshotProgress[(⟨_, inside⟩ : Fin maxOperators)] =
      ⟨earlier.vaultOperatorDelegationsRegistered, earlier.vaultOperatorDelegationCount⟩ := by
    rcases rowBefore with counting | ⟨final, -⟩
    · exact counting
    · rw [unfinished] at final
      cases final
  have fresh : (⟨_, inside⟩ : Fin maxOperators) ∉ epochState.snapshotRecord.completed := by
    simp only [SnapshotRecord.completed, Finset.mem_filter, Finset.mem_univ, true_and]
    rintro ⟨-, complete⟩
    rw [rowBefore.isComplete_eq exactBefore, unfinished] at complete
    cases complete
  have status : epochState.accountStatus.operatorSnapshot[(⟨_, inside⟩ : Fin maxOperators)] =
      .created := by
    rw [← statusOf_of_lt inside]
    exact (mirrored.operatorsTracked operator).filled_of_ready ready
  have row : later.Mirrored
      ⟨epochState.operatorSnapshotProgress[(⟨_, inside⟩ : Fin maxOperators)].tally + 1,
        epochState.operatorSnapshotProgress[(⟨_, inside⟩ : Fin maxOperators)].total⟩ := by
    refine .inl ?_
    rw [counting, one, here, sameCount]
  have sameStatuses : epochState.accountStatus.operatorSnapshot.put ⟨_, inside⟩ .created =
      epochState.accountStatus.operatorSnapshot := by
    rw [← status, Slots.getElem_fin, Slots.put_getElem]
  refine ⟨⟨epochState.accountStatus.operatorSnapshot, _, _, rfl⟩, ?_⟩
  rcases registers with ⟨final, counted⟩ | ⟨final, rfl⟩
  · obtain ⟨pending, more, -, -, sameOperators, sameVaults⟩ :=
      EpochSnapshot.incrementOperatorRegistration_eq_ok counted
    have open_ := beq_eq_false_iff_ne.mp pending
    have bounded := mirrored.bounded before rfl
    dsimp only at more sameOperators open_
    have written := mirrored.write distinct rfl inside fresh index exact row
      (by rw [row.isComplete_eq exact, final, more]; rfl)
      (by omega : after.operatorsRegistered ≤ after.operatorCount) sameVaults
    have progress : (⟨after.operatorsRegistered, after.operatorCount⟩ : Progress) =
        ⟨epochState.epochSnapshotProgress.tally + 1,
          epochState.epochSnapshotProgress.total⟩ := by
      rw [more, sameOperators, show epochState.epochSnapshotProgress = _ from total]
    rw [progress, show epochState.snapshotRecord.statuses.put _ _ = _ from sameStatuses] at written
    rw [final]
    exact written
  · have incomplete : ¬ Progress.isComplete
        ⟨epochState.operatorSnapshotProgress[(⟨_, inside⟩ : Fin maxOperators)].tally + 1,
          epochState.operatorSnapshotProgress[(⟨_, inside⟩ : Fin maxOperators)].total⟩ = true := by
      rw [row.isComplete_eq exact, final]
      exact Bool.false_ne_true
    have written := mirrored.write distinct rfl inside fresh index exact row
      (by rw [if_neg incomplete, Nat.add_zero]) (mirrored.bounded _ rfl) rfl
    rw [← total, show epochState.snapshotRecord.statuses.put _ _ = _ from sameStatuses] at written
    rw [final]
    exact written

end Filling

end TipRouter
