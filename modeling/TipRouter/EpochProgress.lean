import TipRouter.EpochMirror
import Mathlib.Data.Nat.Digits.Defs

/-! The epoch state mirrors the accounts of its epoch, in every state that the
instructions reach in any order. The parts of the mirror are kept one by one: an
instruction changes the part of its own account and leaves the others as they
are. -/
namespace TipRouter
open Runs

/-! ## The mirror -/

/-- All parts of the epoch state that speak of other accounts. -/
structure EpochAccounts.MirroredBy (indexOf : Pubkey → ℕ) (accounts : EpochAccounts)
    (epochState : EpochState) : Prop where
  table : TableMirrored accounts.weightTable epochState.isClosing
    epochState.accountStatus.weightTable epochState.vaultCount epochState.setWeightProgress
  snapshots : SnapshotsMirrored indexOf accounts.epochSnapshot accounts.operatorSnapshots
    epochState.snapshotRecord
  ballotBox : accounts.ballotBox.Tracked .created epochState.isClosing
    epochState.accountStatus.ballotBox
  base : BaseMirrored accounts.baseRewardRouter epochState.isClosing
    epochState.accountStatus.baseRewardRouter epochState.baseDistributionProgress
  ncn : NcnMirrored indexOf accounts.ncnRewardRouters epochState.isClosing
    epochState.accountStatus.ncnRewardRouter epochState.ncnDistributionProgress

/-- No account of the epoch but its epoch state exists. -/
structure EpochAccounts.Unopened (accounts : EpochAccounts) : Prop where
  weightTable : accounts.weightTable = .missing
  epochSnapshot : accounts.epochSnapshot = .missing
  operatorSnapshots : ∀ operator, accounts.operatorSnapshots operator = .missing
  ballotBox : accounts.ballotBox = .missing
  baseRewardRouter : accounts.baseRewardRouter = .missing
  ncnRewardRouters : ∀ key, accounts.ncnRewardRouters key = .missing

/-- What holds of the accounts before the epoch state is filled, while it is there
and after it is gone. -/
structure EpochAccounts.Mirrored (indexOf : Pubkey → ℕ) (accounts : EpochAccounts) : Prop where
  marked : accounts.epochMarker = true → accounts.epochState = .missing
  unopened : accounts.epochMarker = false → (∀ epochState, accounts.epochState ≠ .ready epochState) →
    accounts.Unopened
  opened : ∀ epochState, accounts.epochState = .ready epochState →
    accounts.MirroredBy indexOf epochState

/-- The restaking program gives every operator of an NCN an index of its own. -/
def EpochInstruction.Indexed (indexOf : Pubkey → ℕ) : EpochInstruction → Prop
  | initializeOperatorSnapshot operator ncnOperatorIndex => ncnOperatorIndex = indexOf operator
  | reallocOperatorSnapshot reading _ => reading.ncnOperatorIndex = indexOf reading.operator
  | _ => True

namespace EpochAccounts

variable {runtime : Runtime} {indexOf : Pubkey → ℕ} {accounts next : EpochAccounts}
variable {context : Context} {instruction : EpochInstruction} {epochState updated : EpochState}

theorem absent_mirrored (ncn : Pubkey) (epoch : ℕ) : (absent ncn epoch).Mirrored indexOf where
  marked marked := by cases marked
  unopened _ _ := ⟨rfl, rfl, fun _ => rfl, rfl, rfl, fun _ => rfl⟩
  opened epochState loaded := by cases loaded

/-- A filled epoch state has no marker beside it. -/
theorem Mirrored.unmarked (mirrored : accounts.Mirrored indexOf)
    (present : accounts.epochState ≠ .missing) : accounts.epochMarker = false := by
  cases marker : accounts.epochMarker with
  | false => rfl
  | true => exact absurd (mirrored.marked marker) present

/-- While the epoch state is there, its mirror is all there is to say. -/
theorem Mirrored.of_ready (unmarked : next.epochMarker = false)
    (loaded : next.epochState = .ready epochState) (mirrored : next.MirroredBy indexOf epochState) :
    next.Mirrored indexOf where
  marked marked := by
    rw [unmarked] at marked
    cases marked
  unopened _ unfilled := absurd loaded (unfilled epochState)
  opened other ready := by
    rw [loaded] at ready
    cases ready
    exact mirrored

/-- A new epoch state says that there is nothing. -/
theorem Unopened.mirroredBy (unopened : accounts.Unopened) (ncn : Pubkey) (epoch bump slot : ℕ) :
    accounts.MirroredBy indexOf
      (EpochState.zeroed.initializeState ncn epoch bump slot).updateReallocEpochState where
  table := by
    rw [unopened.weightTable]
    refine ⟨Account.tracked_missing, ?_, ?_, le_rfl, Nat.zero_le _⟩
    · intro data ready
      cases ready
    · intro data ready
      cases ready
  snapshots := by
    have noOperator : ∀ operator data, accounts.operatorSnapshots operator ≠ .ready data := by
      intro operator data ready
      rw [unopened.operatorSnapshots] at ready
      cases ready
    have untouched : ∀ i : Fin maxOperators, (Vector.replicate maxOperators AccountStatus.dne)[i] =
        .dne := fun i => Vector.getElem_replicate ..
    rw [unopened.epochSnapshot]
    refine ⟨Account.tracked_missing, ?_, ?_, ?_, ?_, ?_, fun _ => untouched, ?_, ?_, ?_, ?_, ?_⟩
    · intro operator
      rw [unopened.operatorSnapshots]
      exact .inl statusOf_replicate
    · intro i used
      exact absurd (untouched i) used
    · intro operator data ready
      exact absurd ready (noOperator operator data)
    · intro operator data ready
      exact absurd ready (noOperator operator data)
    · intro operator data ready
      exact absurd ready (noOperator operator data)
    · intro started
      exact absurd rfl started
    all_goals
      intro data ready
      cases ready
  ballotBox := by
    rw [unopened.ballotBox]
    exact Account.tracked_missing
  base := by
    rw [unopened.baseRewardRouter]
    refine ⟨Account.tracked_missing, fun data ready => ?_⟩
    cases ready
  ncn := by
    have noRouter : ∀ key data, accounts.ncnRewardRouters key ≠ .ready data := by
      intro key data ready
      rw [unopened.ncnRewardRouters] at ready
      cases ready
    refine ⟨?_, ?_, ?_, ?_, ?_⟩
    · intro operator group
      rw [unopened.ncnRewardRouters]
      exact .inl statusOf_replicate
    · intro i used
      exact absurd (Vector.getElem_replicate ..) used
    · intro key used
      exact absurd (unopened.ncnRewardRouters key) used
    · intro operator group data ready
      exact absurd ready (noRouter _ data)
    · intro operator group data ready
      exact absurd ready (noRouter _ data)

theorem loadToClose_eq_ok {α : Type} {account : Account α} {data : α}
    (found : loadToClose account = .ok data) : account = .ready data := by
  cases account with
  | missing => cases found
  | allocated dataLen => cases found
  | ready other =>
    cases found
    rfl

/-- Closing the epoch state leaves the marker; closing anything else leaves an epoch
state that was told of it. -/
theorem closeAccount_eq_ok {accountToClose : AccountToClose} {withReceiver : Bool}
    (closed : accounts.closeAccount runtime epochState withReceiver accountToClose = .ok next) :
    (accountToClose = .epochState ∧
      epochState.loadToClose accounts.ncn accounts.epoch = .ok () ∧
      next = { accounts with epochState := .missing, epochMarker := true }) ∨
    (accountToClose ≠ .epochState ∧ ∃ updated, next.epochState = .ready updated ∧
      next.epochMarker = accounts.epochMarker) := by
  cases accountToClose with
  | epochState =>
    obtain ⟨_, loaded, same⟩ := bind_eq_ok.mp closed
    cases same
    exact .inl ⟨rfl, lift_eq_ok_iff.mp loaded, rfl⟩
  | otherEpochState =>
    obtain ⟨_, -, same⟩ := bind_eq_ok.mp closed
    cases same
    exact .inr ⟨nofun, _, rfl, rfl⟩
  | weightTable =>
    obtain ⟨_, -, same⟩ := bind_eq_ok.mp closed
    cases same
    exact .inr ⟨nofun, _, rfl, rfl⟩
  | epochSnapshot =>
    obtain ⟨_, -, same⟩ := bind_eq_ok.mp closed
    cases same
    exact .inr ⟨nofun, _, rfl, rfl⟩
  | operatorSnapshot operator =>
    obtain ⟨_, -, closed⟩ := bind_eq_ok.mp closed
    obtain ⟨_, -, same⟩ := bind_eq_ok.mp closed
    cases same
    exact .inr ⟨nofun, _, rfl, rfl⟩
  | ballotBox =>
    obtain ⟨_, -, same⟩ := bind_eq_ok.mp closed
    cases same
    exact .inr ⟨nofun, _, rfl, rfl⟩
  | baseRewardRouter =>
    obtain ⟨_, -, closed⟩ := bind_eq_ok.mp closed
    obtain ⟨_, -, same⟩ := bind_eq_ok.mp closed
    cases same
    exact .inr ⟨nofun, _, rfl, rfl⟩
  | ncnRewardRouter operator group =>
    obtain ⟨_, -, closed⟩ := bind_eq_ok.mp closed
    obtain ⟨_, -, closed⟩ := bind_eq_ok.mp closed
    obtain ⟨_, -, same⟩ := bind_eq_ok.mp closed
    cases same
    exact .inr ⟨nofun, _, rfl, rfl⟩

namespace MirroredBy

/-! ### Filling and changing an account -/

theorem startTable {vaultRegistry : VaultRegistry} {slot bump dataLen : ℕ} {weighing : Weighing}
    (mirrored : accounts.MirroredBy indexOf epochState)
    (allocated : accounts.weightTable = .allocated dataLen)
    (started : Weighing.start epochState vaultRegistry accounts.ncn accounts.epoch slot bump =
      .ok weighing) :
    (accounts.withWeighing weighing).MirroredBy indexOf weighing.epochState := by
  have counted := Weighing.start_counted started
  have unfilled := mirrored.table.tracked.dne_of_allocated allocated
  obtain ⟨table, stMintCount, rfl⟩ := Weighing.start_vaultCount started
  exact { mirrored with
    table := .of_counted counted rfl
    snapshots := mirrored.snapshots.fillTable unfilled }

theorem setWeight {switchboard : Switchboard} {weightTable : WeightTable}
    {weightInstruction : WeightInstruction} {weighing : Weighing}
    (mirrored : accounts.MirroredBy indexOf epochState)
    (ready : accounts.weightTable = .ready weightTable)
    (processed : Weighing.process switchboard ⟨weightTable, epochState⟩ weightInstruction =
      .ok weighing) :
    (accounts.withWeighing weighing).MirroredBy indexOf weighing.epochState := by
  have created := mirrored.table.tracked.filled_of_ready ready
  have before := mirrored.table.counted weightTable ready epochState rfl
  have vaults := mirrored.table.vaults weightTable ready
  obtain ⟨weight, set⟩ := Weighing.process_eq_ok processed
  have counted := before.setWeight set
  obtain ⟨sameVaults, same⟩ := Weighing.process_frame processed
  obtain ⟨table, progressed⟩ := weighing
  dsimp only at same sameVaults
  have mirroredTable : TableMirrored (.ready table) epochState.isClosing .created
      progressed.vaultCount progressed.setWeightProgress := by
    refine .of_counted counted ?_
    rw [sameVaults, ← vaults, same]
  rw [same] at mirroredTable ⊢
  rw [← created] at mirroredTable
  exact { mirrored with table := mirroredTable }

theorem startSnapshot {ncn : Pubkey} {epoch bump slot operatorCount : ℕ} {fees : Fees}
    {weightTable : WeightTable} (mirrored : accounts.MirroredBy indexOf epochState)
    (opened : epochState.isClosing = false) (unused : accounts.epochSnapshot = .missing)
    (ready : accounts.weightTable = .ready weightTable) :
    MirroredBy indexOf { accounts with
      epochState := .ready (epochState.updateInitializeEpochSnapshot operatorCount)
      epochSnapshot := .ready (.new ncn epoch bump slot fees operatorCount weightTable.vaultCount) }
      (epochState.updateInitializeEpochSnapshot operatorCount) := by
  have unfilled : accounts.epochSnapshot.Unfilled epochState.isClosing := by
    rw [unused]
    exact opened
  have created := mirrored.table.tracked.filled_of_ready ready
  have counted := mirrored.table.counted weightTable ready epochState rfl
  have vaults := mirrored.table.vaults weightTable ready
  have tabled : epochState.snapshotRecord.tableStatus ≠ .dne := by
    intro absent
    cases created.symm.trans absent
  exact { mirrored with
    snapshots := mirrored.snapshots.start (mirrored.snapshots.tracked.dne unfilled) tabled
      ⟨vaults, counted.registered⟩ rfl rfl }

theorem changeSnapshots {snapshots : Snapshots} (mirrored : accounts.MirroredBy indexOf epochState)
    (changed : epochState.SnapshotsChanged snapshots.epochState)
    (mirroredSnapshots : SnapshotsMirrored indexOf (.ready snapshots.epochSnapshot)
      snapshots.operatorSnapshots snapshots.epochState.snapshotRecord) :
    (accounts.withSnapshots snapshots).MirroredBy indexOf snapshots.epochState := by
  obtain ⟨statuses, progress, progresses, same⟩ := changed
  obtain ⟨after, snapshot, operators⟩ := snapshots
  subst same
  exact { mirrored with snapshots := mirroredSnapshots }

theorem startVoting {ncn : Pubkey} {epoch bump slot : ℕ}
    (mirrored : accounts.MirroredBy indexOf epochState) :
    (accounts.withVoting (.start epochState ncn epoch bump slot)).MirroredBy indexOf
      epochState.updateReallocBallotBox :=
  { mirrored with ballotBox := rfl }

/-- Votes and the tie breaker are not mirrored by any status. -/
theorem vote {box : BallotBox} {voting : VotingAccounts}
    (mirrored : accounts.MirroredBy indexOf epochState) (ready : accounts.ballotBox = .ready box)
    (changed : ∃ slotConsensusReached wasTieBreakerSet votingProgress,
      voting.epochState = { epochState with
        slotConsensusReached := slotConsensusReached
        wasTieBreakerSet := wasTieBreakerSet
        votingProgress := votingProgress }) :
    (accounts.withVoting voting).MirroredBy indexOf voting.epochState := by
  obtain ⟨slot, flag, progress, same⟩ := changed
  rw [same]
  exact { mirrored with ballotBox := mirrored.ballotBox.filled_of_ready ready }

theorem startBase {ncn : Pubkey} {epoch bump slot lamports : ℕ}
    (mirrored : accounts.MirroredBy indexOf epochState) :
    (accounts.withBaseRouter epochState.updateReallocBaseRewardRouter (.new ncn epoch bump slot)
      lamports).MirroredBy indexOf epochState.updateReallocBaseRewardRouter :=
  { mirrored with base := .of_flow RewardFlow.mirrored_zero }

/-- Routing and distributing change the router and the two progresses. -/
theorem changeBase {router changed : BaseRewardRouter} {lamports : ℕ} {total progress : Progress}
    (mirrored : accounts.MirroredBy indexOf epochState)
    (ready : accounts.baseRewardRouter = .ready router) (flow : changed.flow.Mirrored progress) :
    (accounts.withBaseRouter { epochState with
        totalDistributionProgress := total
        baseDistributionProgress := progress } changed lamports).MirroredBy indexOf
      { epochState with
        totalDistributionProgress := total
        baseDistributionProgress := progress } := by
  have created := mirrored.base.tracked.filled_of_ready ready
  have base : BaseMirrored (.ready changed) epochState.isClosing
      epochState.accountStatus.baseRewardRouter progress := by
    rw [created]
    exact .of_flow flow
  exact { mirrored with base := base }

theorem routeBase {spl : SplMath} {fees : Fees} {ballotBox : BallotBox}
    {router routed : BaseRewardRouter}
    {slot validSlotsAfterConsensus rentCost lamports maxIterations : ℕ}
    (mirrored : accounts.MirroredBy indexOf epochState)
    (ready : accounts.baseRewardRouter = .ready router)
    (route : router.processRouteBaseRewards spl fees ballotBox slot validSlotsAfterConsensus
      rentCost lamports maxIterations = .ok routed) :
    (accounts.withBaseRouter (epochState.updateRouteBaseRewards routed.totalRewards) routed
      lamports).MirroredBy indexOf (epochState.updateRouteBaseRewards routed.totalRewards) := by
  have flow := mirrored.base.flow router ready
  have routedFlow := BaseRewardRouter.processRouteBaseRewards_flow route
  exact mirrored.changeBase ready (flow.routed routedFlow)

theorem distributeBase {router distributed : BaseRewardRouter} {rewards lamports : ℕ}
    (mirrored : accounts.MirroredBy indexOf epochState)
    (ready : accounts.baseRewardRouter = .ready router)
    (flow : router.flow.Distributed distributed.flow rewards)
    (update : epochState.updateDistributeBaseRewards rewards = .ok updated ∨
      epochState.updateDistributeBaseNcnRewards rewards = .ok updated) :
    (accounts.withBaseRouter updated distributed lamports).MirroredBy indexOf updated := by
  have before := mirrored.base.flow router ready
  rcases update with update | update
  · obtain ⟨total, progress, increment, rfl⟩ := EpochState.updateDistributeBaseRewards_eq_ok update
    exact mirrored.changeBase ready (before.distributed flow increment)
  · obtain ⟨progress, increment, rfl⟩ := EpochState.updateDistributeBaseNcnRewards_eq_ok update
    exact mirrored.changeBase ready (before.distributed flow increment)

theorem startNcn {operator ncn : Pubkey} {group : Fin feeGroupCount} {epoch bump slot lamports : ℕ}
    {snapshot : OperatorSnapshot} (mirrored : accounts.MirroredBy indexOf epochState)
    (distinct : Function.Injective indexOf)
    (ready : accounts.operatorSnapshots operator = .ready snapshot)
    (update : epochState.updateReallocNcnRewardRouter snapshot.ncnOperatorIndex (.ofIndex group) =
      .ok updated) :
    (accounts.withNcnRouter operator (.ofIndex group) updated (.ready (.new (.ofIndex group)
      operator snapshot.ncnOperatorIndex ncn epoch bump slot)) lamports).MirroredBy indexOf
        updated := by
  rw [mirrored.snapshots.index operator snapshot ready] at update ⊢
  obtain ⟨inside, rfl⟩ := EpochState.updateReallocNcnRewardRouter_eq update
  refine { mirrored with ncn := mirrored.ncn.write distinct inside rfl fun data same => ?_ }
  cases same
  exact ⟨rfl, RewardFlow.mirrored_zero⟩

theorem routeNcn {spl : SplMath} {operator : Pubkey} {group : Fin feeGroupCount}
    {rentCost lamports maxIterations : ℕ} {snapshot : OperatorSnapshot}
    {router routed : NcnRewardRouter} (mirrored : accounts.MirroredBy indexOf epochState)
    (distinct : Function.Injective indexOf)
    (snapshotReady : accounts.operatorSnapshots operator = .ready snapshot)
    (ready : accounts.ncnRewardRouters (operator, .ofIndex group) = .ready router)
    (route : router.processRouteNcnRewards spl snapshot rentCost lamports maxIterations =
      .ok routed)
    (update : epochState.updateRouteNcnRewards snapshot.ncnOperatorIndex (.ofIndex group)
      routed.totalRewards = .ok updated) :
    (accounts.withNcnRouter operator (.ofIndex group) updated (.ready routed) lamports).MirroredBy
      indexOf updated := by
  rw [mirrored.snapshots.index operator snapshot snapshotReady] at update
  obtain ⟨inside, rfl⟩ := EpochState.updateRouteNcnRewards_eq_ok update
  obtain ⟨_, flow⟩ := mirrored.ncn.flow operator group router ready
  obtain ⟨routedFlow, same⟩ := NcnRewardRouter.processRouteNcnRewards_flow route
  exact { mirrored with
    ncn := mirrored.ncn.update distinct inside ready same (flow.routed routedFlow) }

theorem distributeNcn {operator : Pubkey} {group : Fin feeGroupCount} {rewards lamports : ℕ}
    {snapshot : OperatorSnapshot} {router distributed : NcnRewardRouter}
    (mirrored : accounts.MirroredBy indexOf epochState) (distinct : Function.Injective indexOf)
    (snapshotReady : accounts.operatorSnapshots operator = .ready snapshot)
    (ready : accounts.ncnRewardRouters (operator, .ofIndex group) = .ready router)
    (distribute : router.processDistributeNcnOperatorRewards = .ok (rewards, distributed) ∨
      ∃ vault, router.processDistributeNcnVaultRewards vault = .ok (rewards, distributed))
    (update : epochState.updateDistributeNcnRewards snapshot.ncnOperatorIndex (.ofIndex group)
      rewards = .ok updated) :
    (accounts.withNcnRouter operator (.ofIndex group) updated (.ready distributed)
      lamports).MirroredBy indexOf updated := by
  rw [mirrored.snapshots.index operator snapshot snapshotReady] at update
  obtain ⟨inside, total, progress, increment, rfl⟩ :=
    EpochState.updateDistributeNcnRewards_eq_ok update
  obtain ⟨_, flow⟩ := mirrored.ncn.flow operator group router ready
  obtain ⟨distributedFlow, same⟩ := NcnRewardRouter.distribute_flow distribute
  exact { mirrored with
    ncn := mirrored.ncn.update distinct inside ready same
      (flow.distributed distributedFlow increment) }

/-! ### Closing an account -/

theorem setClosing (mirrored : accounts.MirroredBy indexOf epochState) :
    accounts.MirroredBy indexOf epochState.setIsClosing where
  table := mirrored.table.setClosing
  snapshots := mirrored.snapshots.setClosing
  ballotBox := mirrored.ballotBox.setClosing
  base := mirrored.base.setClosing
  ncn := mirrored.ncn.setClosing

/-- Whatever account is closed, if the epoch state is still there then it says so. -/
theorem close {accountToClose : AccountToClose} {withReceiver : Bool}
    (mirrored : accounts.MirroredBy indexOf epochState) (distinct : Function.Injective indexOf)
    (closing : epochState.isClosing = true)
    (closed : accounts.closeAccount runtime epochState withReceiver accountToClose = .ok next)
    (loaded : next.epochState = .ready updated) : next.MirroredBy indexOf updated := by
  cases accountToClose with
  | epochState =>
    obtain ⟨_, -, same⟩ := bind_eq_ok.mp closed
    cases same
    cases loaded
  | otherEpochState =>
    obtain ⟨_, -, same⟩ := bind_eq_ok.mp closed
    cases same
    cases loaded
    exact { mirrored with }
  | weightTable =>
    obtain ⟨_, -, same⟩ := bind_eq_ok.mp closed
    cases same
    cases loaded
    have table := mirrored.table.close
    rw [← closing] at table
    exact { mirrored with
      table := table
      snapshots := mirrored.snapshots.closeTable }
  | epochSnapshot =>
    obtain ⟨snapshot, found, same⟩ := bind_eq_ok.mp closed
    cases same
    cases loaded
    exact { mirrored with
      snapshots := mirrored.snapshots.close closing (loadToClose_eq_ok found) }
  | operatorSnapshot operator =>
    obtain ⟨snapshot, found, closed⟩ := bind_eq_ok.mp closed
    obtain ⟨recorded, update, same⟩ := bind_eq_ok.mp closed
    cases same
    cases loaded
    have ready := loadToClose_eq_ok found
    rw [mirrored.snapshots.index operator snapshot ready] at update
    obtain ⟨inside, rfl⟩ := EpochState.closeOperatorSnapshot_eq_ok update
    exact { mirrored with
      snapshots := mirrored.snapshots.closeOperator distinct closing inside ready }
  | ballotBox =>
    obtain ⟨_, -, same⟩ := bind_eq_ok.mp closed
    cases same
    cases loaded
    exact { mirrored with ballotBox := .inr ⟨rfl, closing⟩ }
  | baseRewardRouter =>
    obtain ⟨_, -, closed⟩ := bind_eq_ok.mp closed
    obtain ⟨lamports, -, same⟩ := bind_eq_ok.mp closed
    cases same
    cases loaded
    have base : BaseMirrored .missing true .closed epochState.baseDistributionProgress := .closed
    rw [← closing] at base
    exact { mirrored with base := base }
  | ncnRewardRouter operator group =>
    obtain ⟨router, found, closed⟩ := bind_eq_ok.mp closed
    obtain ⟨lamports, -, closed⟩ := bind_eq_ok.mp closed
    obtain ⟨recorded, update, same⟩ := bind_eq_ok.mp closed
    cases same
    cases loaded
    have ready := loadToClose_eq_ok found
    obtain ⟨index, rfl⟩ := mirrored.ncn.exists_group ready
    obtain ⟨sameIndex, sameGroup⟩ :=
      Prod.mk.inj (mirrored.ncn.identity operator index router ready)
    rw [sameIndex, sameGroup] at update
    obtain ⟨inside, rfl⟩ := EpochState.closeNcnRewardRouter_eq_ok update
    have before := mirrored.ncn
    rw [closing] at before
    have ncn := before.close distinct inside
    rw [← closing] at ncn
    exact { mirrored with ncn := ncn }

end MirroredBy

/-! ## Runs -/

/-- Whatever an instruction does, the epoch state it leaves mirrors the accounts. -/
theorem Mirrored.effect (mirrored : accounts.Mirrored indexOf)
    (distinct : Function.Injective indexOf) (indexed : instruction.Indexed indexOf)
    (effect : Effect runtime accounts next context instruction) : next.Mirrored indexOf := by
  have ready : ∀ epochState, accounts.epochState = .ready epochState →
      accounts.MirroredBy indexOf epochState ∧ accounts.epochMarker = false := by
    intro epochState loaded
    refine ⟨mirrored.opened epochState loaded, mirrored.unmarked ?_⟩
    rw [loaded]
    intro missing
    cases missing
  cases effect with
  | received base_le ncn_le same =>
    cases same
    exact ⟨mirrored.marked, fun unmarked unfilled => { mirrored.unopened unmarked unfilled with },
      fun epochState loaded => { mirrored.opened epochState loaded with }⟩
  | epochStateAllocated unfilled same =>
    cases same
    refine ⟨fun marked => ?_, fun unmarked _ => { mirrored.unopened unmarked ?_ with },
      fun epochState loaded => by cases loaded⟩
    · have missing := mirrored.marked marked
      rw [missing, marked] at unfilled
      cases unfilled
    · intro epochState loaded
      rw [loaded] at unfilled
      exact unfilled
  | epochStateFilled allocated same =>
    have unmarked := mirrored.unmarked (by rw [allocated]; exact fun missing => by cases missing)
    have unopened : accounts.Unopened := by
      refine mirrored.unopened unmarked fun epochState loaded => ?_
      cases allocated.symm.trans loaded
    cases same
    exact .of_ready unmarked rfl { unopened.mirroredBy .. with }
  | weightTableAllocated loaded unfilled same =>
    obtain ⟨before, unmarked⟩ := ready _ loaded
    cases same
    exact .of_ready unmarked loaded { before with table := before.table.grow unfilled }
  | weightTableFilled loaded allocated started same =>
    obtain ⟨before, unmarked⟩ := ready _ loaded
    cases same
    exact .of_ready unmarked rfl (before.startTable allocated started)
  | weightSet loaded table processed same =>
    obtain ⟨before, unmarked⟩ := ready _ loaded
    cases same
    exact .of_ready unmarked rfl (before.setWeight table processed)
  | epochSnapshotFilled loaded opened unused table finalized same =>
    obtain ⟨before, unmarked⟩ := ready _ loaded
    cases same
    exact .of_ready unmarked rfl (before.startSnapshot opened unused table)
  | operatorSnapshotAllocated loaded snapshot unfilled listed same =>
    obtain ⟨before, unmarked⟩ := ready _ loaded
    cases same
    exact .of_ready unmarked loaded
      { before with snapshots := before.snapshots.allocateOperator unfilled }
  | operatorSnapshotFilled loaded snapshot allocated filled same =>
    obtain ⟨before, unmarked⟩ := ready _ loaded
    cases same
    have snapshots := before.snapshots
    rw [snapshot] at snapshots
    obtain ⟨changed, after⟩ := snapshots.fill distinct indexed allocated filled
    exact .of_ready unmarked rfl (before.changeSnapshots changed after)
  | delegationSnapshotted loaded table snapshot taken same =>
    obtain ⟨before, unmarked⟩ := ready _ loaded
    cases same
    have snapshots := before.snapshots
    rw [snapshot] at snapshots
    obtain ⟨changed, after⟩ := snapshots.register distinct taken
    exact .of_ready unmarked rfl (before.changeSnapshots changed after)
  | ballotBoxAllocated loaded unfilled same =>
    obtain ⟨before, unmarked⟩ := ready _ loaded
    cases same
    exact .of_ready unmarked loaded { before with ballotBox := before.ballotBox.dne unfilled }
  | ballotBoxFilled loaded allocated same =>
    obtain ⟨before, unmarked⟩ := ready _ loaded
    cases same
    exact .of_ready unmarked rfl before.startVoting
  | voteCast loaded box snapshot cast same =>
    obtain ⟨before, unmarked⟩ := ready _ loaded
    cases same
    obtain ⟨_, -, -, updated⟩ := VotingAccounts.processCastVote_calls cast
    exact .of_ready unmarked rfl (before.vote box ⟨_, _, _, updated⟩)
  | tieBreakerSet loaded box set same =>
    obtain ⟨before, unmarked⟩ := ready _ loaded
    cases same
    obtain ⟨-, -, -, updated⟩ := VotingAccounts.processAdminSetTieBreaker_eq_ok set
    obtain ⟨slot, flag, changed⟩ := EpochState.updateSetTieBreaker_eq _ true context.clock.slot
    exact .of_ready unmarked rfl (before.vote box ⟨slot, flag, _, updated.trans changed⟩)
  | merkleRootSet loaded update same =>
    obtain ⟨before, unmarked⟩ := ready _ loaded
    obtain ⟨progress, rfl⟩ := EpochState.updateSetMerkleRoot_eq_ok update
    cases same
    exact .of_ready unmarked rfl { before with }
  | baseRouterAllocated loaded unfilled paid rent same =>
    obtain ⟨before, unmarked⟩ := ready _ loaded
    cases same
    exact .of_ready unmarked loaded { before with base := before.base.grow unfilled }
  | baseRouterFilled loaded allocated same =>
    obtain ⟨before, unmarked⟩ := ready _ loaded
    cases same
    exact .of_ready unmarked rfl before.startBase
  | baseRouted loaded router route same =>
    obtain ⟨before, unmarked⟩ := ready _ loaded
    cases same
    exact .of_ready unmarked rfl (before.routeBase router route)
  | baseDistributed loaded router distribute sent update same =>
    obtain ⟨before, unmarked⟩ := ready _ loaded
    cases same
    have flow := BaseRewardRouter.processDistributeBaseRewards_flow distribute
    exact .of_ready unmarked rfl (before.distributeBase router flow (.inl update))
  | baseNcnDistributed loaded router distribute sent paid update same =>
    obtain ⟨before, unmarked⟩ := ready _ loaded
    cases same
    have flow := BaseRewardRouter.processDistributeBaseNcnRewardRoute_flow distribute
    have after : (accounts.withBaseRouter _ _ 0).MirroredBy indexOf _ :=
      before.distributeBase router flow (.inr update)
    exact .of_ready unmarked rfl { after with }
  | ncnRouterFilled loaded opened snapshot unused rent update same =>
    obtain ⟨before, unmarked⟩ := ready _ loaded
    cases same
    exact .of_ready unmarked rfl (before.startNcn distinct snapshot update)
  | ncnRouted loaded snapshot router route update same =>
    obtain ⟨before, unmarked⟩ := ready _ loaded
    cases same
    exact .of_ready unmarked rfl (before.routeNcn distinct snapshot router route update)
  | ncnDistributed loaded snapshot router distribute sent update same =>
    obtain ⟨before, unmarked⟩ := ready _ loaded
    cases same
    exact .of_ready unmarked rfl
      (before.distributeNcn distinct snapshot router distribute update)
  | closed loaded open_ canClose close =>
    obtain ⟨before, unmarked⟩ := ready _ loaded
    rcases closeAccount_eq_ok close with ⟨-, -, rfl⟩ | ⟨-, updated, loaded, sameMarker⟩
    · refine ⟨fun _ => rfl, fun unmarked => ?_, fun epochState loaded => ?_⟩
      · cases unmarked
      · cases loaded
    · exact .of_ready (sameMarker.trans unmarked) loaded
        (before.setClosing.close distinct rfl close loaded)

theorem run_mirrored {ncn : Pubkey} {epoch : ℕ} {history : List (Context × EpochInstruction)}
    (distinct : Function.Injective indexOf)
    (indexed : ∀ timed ∈ history, timed.2.Indexed indexOf)
    (ran : run (process runtime) history (absent ncn epoch) = .ok accounts) :
    accounts.Mirrored indexOf := by
  refine foldlM_invariant (motive := fun accounts => accounts.Mirrored indexOf) ?_
    (absent_mirrored ncn epoch) ran
  intro timed member before after mirrored processed
  exact mirrored.effect distinct (indexed timed member) (process_effect processed)

/-- In every state that the instructions of an epoch reach, the progress in the epoch
state is that of the accounts: the registered operators of the epoch snapshot, the
vaults of the operator snapshots, and what of the rewards each router still has. -/
theorem progress_mirrors_accounts (runtime : Runtime) (ncn : Pubkey) (epoch : ℕ)
    {indexOf : Pubkey → ℕ} (distinct : Function.Injective indexOf)
    {history : List (Context × EpochInstruction)}
    (indexed : ∀ timed ∈ history, timed.2.Indexed indexOf) {accounts : EpochAccounts}
    (ran : run (process runtime) history (absent ncn epoch) = .ok accounts)
    {epochState : EpochState} (loaded : accounts.epochState = .ready epochState) :
    (∀ snapshot, accounts.epochSnapshot = .ready snapshot →
      epochState.epochSnapshotProgress = ⟨snapshot.operatorsRegistered, snapshot.operatorCount⟩ ∧
        epochState.epochSnapshotProgress.isComplete = snapshot.finalized) ∧
    (∀ operator snapshot, accounts.operatorSnapshots operator = .ready snapshot →
      ∃ progress, epochState.operatorSnapshotProgress[snapshot.ncnOperatorIndex]? = some progress ∧
        progress.isComplete = snapshot.finalized) ∧
    (∀ router, accounts.baseRewardRouter = .ready router →
      epochState.baseDistributionProgress.tally ≤ epochState.baseDistributionProgress.total ∧
        epochState.baseDistributionProgress.total - epochState.baseDistributionProgress.tally =
          router.rewardPool + router.rewardsProcessed) ∧
    ∀ operator group router, accounts.ncnRewardRouters (operator, group) = .ready router →
      ∃ progress, epochState.ncnDistributionProgress[router.ncnOperatorIndex * feeGroupCount +
          group.group]? = some progress ∧
        progress.tally ≤ progress.total ∧
        progress.total - progress.tally = router.rewardPool + router.rewardsProcessed := by
  have mirrored := (run_mirrored distinct indexed ran).opened epochState loaded
  refine ⟨?_, ?_, ?_, ?_⟩
  · intro snapshot ready
    exact ⟨mirrored.snapshots.progress snapshot ready, mirrored.snapshots.isComplete_eq ready⟩
  · intro operator snapshot ready
    obtain ⟨inside, row⟩ := mirrored.snapshots.rows operator snapshot ready
    have exact := mirrored.snapshots.exact operator snapshot ready
    rw [mirrored.snapshots.index operator snapshot ready, Vector.getElem?_eq_getElem inside]
    exact ⟨_, rfl, row.isComplete_eq exact⟩
  · intro router ready
    have transit := (mirrored.base.flow router ready).transit
    simp only [BaseRewardRouter.flow] at transit
    omega
  · intro operator group router ready
    obtain ⟨index, rfl⟩ := mirrored.ncn.exists_group ready
    obtain ⟨inside, flow⟩ := mirrored.ncn.flow operator index router ready
    obtain ⟨sameIndex, -⟩ := Prod.mk.inj (mirrored.ncn.identity operator index router ready)
    have transit := flow.transit
    simp only [NcnRewardRouter.flow] at transit
    refine ⟨epochState.ncnDistributionProgress[(⟨_, inside⟩ : Fin maxNcnRewardRouters)], ?_, ?_, ?_⟩
    · rw [sameIndex]
      exact Vector.getElem?_eq_getElem inside
    · omega
    · omega

end EpochAccounts

/-! ## An epoch of one operator -/

/-- A key as a number. -/
def Pubkey.number (key : Pubkey) : ℕ := Nat.ofDigits 256 (key.toBytes.toList.map UInt8.toNat)

theorem Pubkey.number_injective : Function.Injective number := by
  rintro ⟨bytes⟩ ⟨others⟩ same
  have small : ∀ bytes : Bytes32, ∀ digit ∈ bytes.toList.map UInt8.toNat, digit < 256 := by
    intro bytes digit member
    obtain ⟨byte, -, rfl⟩ := List.mem_map.mp member
    exact byte.toNat_lt
  have digits := Nat.ofDigits_inj_of_len_eq (by norm_num) (by simp) (small bytes) (small others) same
  have bytesSame := List.map_injective_iff.mpr (fun _ _ => UInt8.toNat_inj.mp) digits
  rw [Vector.toList_inj.mp bytesSame]

namespace EpochAccounts

/-- Epochs of 432000 slots; nothing is hashed and there are no feeds. -/
def sampleRuntime : Runtime where
  spl := .u256
  switchboard := .withoutFeeds
  hashv _ := Vector.replicate 32 0
  getEpoch slot := slot / 432000
  rentCost := 890880

def sampleContext (slot : ℕ) : Context where
  clock := ⟨slot, slot / 432000⟩
  config := {
    ncn := .default
    tieBreakerAdmin := .default
    feeAdmin := .default
    validSlotsAfterConsensus := 1000
    epochsBeforeStall := 10
    feeConfig := .sample
    bump := 255
    epochsAfterConsensusBeforeClose := 10
    startingValidEpoch := 0 }
  vaultRegistry := twoMints

example : Config.processAdminInitializeConfig .u256 .default .default .default sampleWallet .default
    300 300 700 10 10 1000 255 0 = .ok (sampleContext 0).config := by decide +kernel

def firstOperator : Pubkey := ⟨Vector.replicate 32 4⟩
def secondOperator : Pubkey := ⟨Vector.replicate 32 5⟩

/-- The two operators were the first to join. -/
def sampleIndex (operator : Pubkey) : ℕ :=
  if operator = firstOperator then 0 else if operator = secondOperator then 1
  else operator.number + 2

theorem sampleIndex_injective : Function.Injective sampleIndex := by
  intro operator other same
  have numbered := @Pubkey.number_injective operator other
  unfold sampleIndex at same
  split_ifs at same with first first' _ second _ second'
  · exact first.trans first'.symm
  · exact second.trans second'.symm
  · omega
  · omega
  · exact numbered (Nat.add_right_cancel same)

def epochWeighed : List (Context × EpochInstruction) :=
  (sampleContext 5, .initializeEpochState) ::
    List.replicate 5 (sampleContext 5, .reallocEpochState 255) ++
    (sampleContext 5, .initializeWeightTable 1) ::
    List.replicate 3 (sampleContext 5, .reallocWeightTable 255) ++
    [(sampleContext 6, .adminSetWeight .default .default ⟨Vector.replicate 32 1⟩ 7),
      (sampleContext 6, .adminSetWeight .default .default ⟨Vector.replicate 32 2⟩ 9)]

/-- The only vault delegates 10 to the first operator and 4 to the second one. -/
def epochSnapshotted : List (Context × EpochInstruction) :=
  [(sampleContext 7, .initializeEpochSnapshot 2 255),
    (sampleContext 7, .initializeOperatorSnapshot firstOperator 0),
    (sampleContext 7, .initializeOperatorSnapshot secondOperator 1),
    (sampleContext 8, .reallocOperatorSnapshot ⟨firstOperator, 8, 100, 0, true, true⟩ 255),
    (sampleContext 8, .reallocOperatorSnapshot ⟨secondOperator, 8, 100, 1, true, true⟩ 255),
    (sampleContext 9, .snapshotVaultOperatorDelegation firstOperator
      ⟨⟨Vector.replicate 32 3⟩, 0, ⟨Vector.replicate 32 1⟩, false, true, some true, some 10⟩),
    (sampleContext 9, .snapshotVaultOperatorDelegation secondOperator
      ⟨⟨Vector.replicate 32 3⟩, 0, ⟨Vector.replicate 32 1⟩, false, true, some true, some 4⟩)]

def epochVoted : List (Context × EpochInstruction) :=
  (sampleContext 10, .initializeBallotBox) ::
    List.replicate 12 (sampleContext 10, .reallocBallotBox 255) ++
    [(sampleContext 11, .castVote secondOperator .default .default (Vector.replicate 32 8)),
      (sampleContext 11, .castVote firstOperator .default .default (Vector.replicate 32 7))]

/-- The routers of the epoch take in 1001 and 371 lamports and pay them out, and the
second one takes in 500 more. -/
def epochRouted : List (Context × EpochInstruction) :=
  (sampleContext 12, .initializeBaseRewardRouter) ::
    List.replicate 2 (sampleContext 12, .reallocBaseRewardRouter 255) ++
    [(sampleContext 12, .initializeNcnRewardRouter firstOperator 0 255),
      (sampleContext 13, .transferToBaseReceiver 1001),
      (sampleContext 1200, .routeBaseRewards 64),
      (sampleContext 1201, .distributeBaseRewards 0 sampleWallet),
      (sampleContext 1201, .transferToNcnReceiver firstOperator .default 371),
      (sampleContext 1202, .routeNcnRewards firstOperator 0 64),
      (sampleContext 1203, .distributeNcnOperatorRewards firstOperator 0),
      (sampleContext 1203, .distributeNcnVaultRewards firstOperator ⟨Vector.replicate 32 3⟩ 0),
      (sampleContext 1204, .transferToNcnReceiver firstOperator .default 500),
      (sampleContext 1205, .routeNcnRewards firstOperator 0 64)]

def sampleEpoch : List (Context × EpochInstruction) :=
  epochWeighed ++ epochSnapshotted ++ epochVoted ++ epochRouted

theorem sampleEpoch_indexed : ∀ timed ∈ sampleEpoch, timed.2.Indexed sampleIndex := by
  have different : secondOperator ≠ firstOperator := by decide
  simp [sampleEpoch, epochWeighed, epochSnapshotted, epochVoted, epochRouted,
    EpochInstruction.Indexed, sampleIndex, different]

/-- The 500 lamports that came in last are in transit. -/
theorem progress_mirrors_accounts_while_routed :
    ∃ (epochState : EpochState) (router : NcnRewardRouter) (progress : Progress),
      epochState.ncnDistributionProgress[router.ncnOperatorIndex * feeGroupCount + 0]? =
        some progress ∧ router.totalRewards = 871 ∧ progress.total - progress.tally = 500 := by
  have runs : (do
      let accounts ← run (process sampleRuntime) sampleEpoch (absent .default 0)
      let epochState ← accounts.epochState.load
      let router ← (accounts.ncnRewardRouters (firstOperator, .default)).load
      return (accounts, epochState, router)).toOption.any
        (fun result : EpochAccounts × EpochState × NcnRewardRouter =>
          result.2.2.totalRewards == 871 &&
            result.2.2.rewardPool + result.2.2.rewardsProcessed == 500) = true := by
    decide +kernel
  obtain ⟨⟨accounts, epochState, router⟩, all, outcome⟩ := exists_of_any runs
  obtain ⟨_, ran, all⟩ := bind_eq_ok.mp all
  obtain ⟨_, loaded, all⟩ := bind_eq_ok.mp all
  obtain ⟨_, found, same⟩ := bind_eq_ok.mp all
  cases same
  simp only [Bool.and_eq_true, beq_iff_eq] at outcome
  obtain ⟨-, -, -, ncn⟩ := progress_mirrors_accounts sampleRuntime .default 0
    sampleIndex_injective sampleEpoch_indexed ran (Account.load_eq_ok_iff.mp loaded)
  obtain ⟨progress, here, -, transit⟩ :=
    ncn firstOperator .default router (Account.load_eq_ok_iff.mp found)
  exact ⟨epochState, router, progress, here, outcome.1, transit.trans outcome.2⟩

end EpochAccounts

end TipRouter
