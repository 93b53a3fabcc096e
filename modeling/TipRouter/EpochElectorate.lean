import TipRouter.BallotQuorums
import TipRouter.EpochConsensus

/-! Who votes in an epoch, and with how much weight. The first vote needs a final epoch
snapshot, after which no operator snapshot changes any more; it is closed or stays as
it is. So all votes of an epoch are votes of one electorate, made up of the operator
snapshots at the first vote, and the ballot box is what these votes lead to. -/
namespace TipRouter
open Runs

/-! ## What reaches the ballot box -/

/-- What an instruction asks of the ballot box. -/
def ballotRequest : Context × EpochInstruction → Option BallotRequest
  | (context, .castVote operator _ _ metaMerkleRoot) =>
    some (.castVote operator metaMerkleRoot context.clock.slot
      context.config.validSlotsAfterConsensus)
  | (context, .adminSetTieBreaker _ metaMerkleRoot) =>
    some (.setTieBreaker metaMerkleRoot context.clock.epoch context.config.epochsBeforeStall)
  | _ => none

def ballotRequests (history : List (Context × EpochInstruction)) : List BallotRequest :=
  history.filterMap ballotRequest

/-- The program loads the operator account before it creates a snapshot for it, so the
key is never the empty one. -/
def EpochInstruction.LoadsOperator : EpochInstruction → Prop
  | initializeOperatorSnapshot operator _ => operator ≠ .default
  | _ => True

/-- While nothing is decided a tally divides by the total weight. -/
theorem BallotBox.positive_of_tallyVotes {spl : SplMath} (documented : spl.Documented)
    {box next : BallotBox} {totalStakeWeight slot : ℕ}
    (undecided : box.slotConsensusReached = defaultConsensusReachedSlot)
    (tallied : box.tallyVotes spl totalStakeWeight slot = .ok next) : 0 < totalStakeWeight := by
  obtain ⟨raw, fixed⟩ := documented
  rw [tallyVotes, if_neg (not_not_intro undecided)] at tallied
  simp only [bind_eq_ok, okOr_eq_ok_iff] at tallied
  obtain ⟨weight, -, total, newTotal, percentage, divided, -⟩ := tallied
  by_contra none
  have isZero : totalStakeWeight = 0 := by omega
  have quotient := fixed.checkedDiv weight total
  rw [divided, fixed.raw_of_new newTotal, isZero, Nat.zero_mul, FixedPoint.div, if_pos rfl] at quotient
  cases quotient

/-- What an operator's vote carries, as its snapshot has it. -/
def Account.stakeWeights : Account OperatorSnapshot → StakeWeights
  | ready snapshot => snapshot.stakeWeights
  | _ => .default

theorem Account.stakeWeights_total (account : Account OperatorSnapshot) :
    account.stakeWeights.stakeWeight = account.weight .total := by
  cases account <;> rfl

namespace EpochAccounts

variable {runtime : Runtime} {indexOf : Pubkey → ℕ} {accounts next : EpochAccounts}
variable {context : Context} {instruction : EpochInstruction} {electorate : Electorate}
variable {epochState : EpochState} {past rest : List (Context × EpochInstruction)}

/-- No snapshot of an epoch changes: it is closed or stays as it is. -/
structure SnapshotsKept (accounts next : EpochAccounts) : Prop where
  epochSnapshot : next.epochSnapshot = .missing ∨ next.epochSnapshot = accounts.epochSnapshot
  operators : ∀ operator, next.operatorSnapshots operator = .missing ∨
    next.operatorSnapshots operator = accounts.operatorSnapshots operator

namespace SnapshotsKept

theorem of_eq (epochSnapshot : next.epochSnapshot = accounts.epochSnapshot)
    (operators : next.operatorSnapshots = accounts.operatorSnapshots) :
    accounts.SnapshotsKept next :=
  ⟨.inr epochSnapshot, fun operator => .inr (congrFun operators operator)⟩

theorem trans {middle : EpochAccounts} (first : accounts.SnapshotsKept middle)
    (second : middle.SnapshotsKept next) : accounts.SnapshotsKept next where
  epochSnapshot := by
    rcases second.epochSnapshot with closed | same
    · exact .inl closed
    · rw [same]
      exact first.epochSnapshot
  operators operator := by
    rcases second.operators operator with closed | same
    · exact .inl closed
    · rw [same]
      exact first.operators operator

theorem epochSnapshot_ready (kept : accounts.SnapshotsKept next) {snapshot : EpochSnapshot}
    (ready : next.epochSnapshot = .ready snapshot) : accounts.epochSnapshot = .ready snapshot := by
  rcases kept.epochSnapshot with closed | same
  · cases closed.symm.trans ready
  · exact same.symm.trans ready

theorem operator_ready (kept : accounts.SnapshotsKept next) {operator : Pubkey}
    {data : OperatorSnapshot} (ready : next.operatorSnapshots operator = .ready data) :
    accounts.operatorSnapshots operator = .ready data := by
  rcases kept.operators operator with closed | same
  · cases closed.symm.trans ready
  · exact same.symm.trans ready

end SnapshotsKept

/-- Closing takes away one account, and changes no other but the epoch state. -/
theorem closeAccount_frame {account : AccountToClose} {withReceiver : Bool}
    (closed : accounts.closeAccount runtime epochState withReceiver account = .ok next) :
    (next.ncn = accounts.ncn ∧ next.epoch = accounts.epoch) ∧ accounts.SnapshotsKept next ∧
      ∀ box, next.ballotBox = .ready box → accounts.ballotBox = .ready box := by
  cases account with
  | epochSnapshot =>
    obtain ⟨_, -, same⟩ := bind_eq_ok.mp closed
    cases same
    exact ⟨⟨rfl, rfl⟩, ⟨.inl rfl, fun _ => .inr rfl⟩, fun _ => id⟩
  | operatorSnapshot operator =>
    obtain ⟨_, -, closed⟩ := bind_eq_ok.mp closed
    obtain ⟨_, -, same⟩ := bind_eq_ok.mp closed
    cases same
    refine ⟨⟨rfl, rfl⟩, ⟨.inr rfl, fun other => ?_⟩, fun _ => id⟩
    by_cases own : other = operator
    · exact .inl (by rw [own]; exact Function.update_self ..)
    · exact .inr (Function.update_of_ne own ..)
  | ballotBox =>
    obtain ⟨_, -, same⟩ := bind_eq_ok.mp closed
    cases same
    exact ⟨⟨rfl, rfl⟩, .of_eq rfl rfl, by rintro _ ⟨⟩⟩
  | baseRewardRouter =>
    obtain ⟨_, -, closed⟩ := bind_eq_ok.mp closed
    obtain ⟨_, -, same⟩ := bind_eq_ok.mp closed
    cases same
    exact ⟨⟨rfl, rfl⟩, .of_eq rfl rfl, fun _ => id⟩
  | ncnRewardRouter operator group =>
    obtain ⟨_, -, closed⟩ := bind_eq_ok.mp closed
    obtain ⟨_, -, closed⟩ := bind_eq_ok.mp closed
    obtain ⟨_, -, same⟩ := bind_eq_ok.mp closed
    cases same
    exact ⟨⟨rfl, rfl⟩, .of_eq rfl rfl, fun _ => id⟩
  | _ =>
    obtain ⟨_, -, same⟩ := bind_eq_ok.mp closed
    cases same
    exact ⟨⟨rfl, rfl⟩, .of_eq rfl rfl, fun _ => id⟩

/-- The accounts stay those of one epoch of one NCN. -/
theorem Effect.sameEpoch (effect : Effect runtime accounts next context instruction) :
    next.ncn = accounts.ncn ∧ next.epoch = accounts.epoch := by
  cases effect with
  | closed loaded open_ canClose close => exact (closeAccount_frame close).1
  | operatorSnapshotAllocated loaded snapshot unfilled listed same =>
    cases same
    exact ⟨rfl, rfl⟩
  | _ =>
    rename_i same
    cases same
    exact ⟨rfl, rfl⟩

/-! ## The final snapshot -/

/-- Once the epoch snapshot is final there is no operator snapshot left to be created. -/
theorem Regular.noneCreated (regular : accounts.Regular indexOf)
    (loaded : accounts.epochState = .ready epochState) (done : epochState.SnapshotDone)
    {operator : Pubkey} (below : indexOf operator < epochState.operatorCount) :
    ¬ (accounts.operatorSnapshots operator).Unfilled epochState.isClosing := by
  intro unfilled
  have mirror := (regular.mirrored.opened epochState loaded).snapshots
  obtain ⟨few, full⟩ := (regular.registered epochState loaded).operators.full done.1 done.2
  have inside : indexOf operator < maxOperators := below.trans_le few
  have absent := (mirror.operatorsTracked operator).dne unfilled
  rw [statusOf_of_lt inside] at absent
  exact full ⟨_, inside⟩ below absent

theorem Regular.notAllocated (regular : accounts.Regular indexOf)
    (loaded : accounts.epochState = .ready epochState) (done : epochState.SnapshotDone)
    {operator : Pubkey} {dataLen : ℕ} :
    accounts.operatorSnapshots operator ≠ .allocated dataLen := by
  intro allocated
  refine regular.noneCreated loaded done
    ((regular.registered epochState loaded).operators.listed operator dataLen allocated) ?_
  exact Account.unfilled_of_allocated allocated

/-- All operators are complete by then: as many are as the epoch snapshot counts, and
none beyond its count has begun. -/
theorem Regular.operatorFinalized (regular : accounts.Regular indexOf)
    (loaded : accounts.epochState = .ready epochState) (done : epochState.SnapshotDone)
    {snapshot : EpochSnapshot} (ready : accounts.epochSnapshot = .ready snapshot)
    {operator : Pubkey} {data : OperatorSnapshot}
    (filled : accounts.operatorSnapshots operator = .ready data) : data.finalized = true := by
  have mirror := (regular.mirrored.opened epochState loaded).snapshots
  have listed := (regular.registered epochState loaded).operators
  obtain ⟨inside, row⟩ := mirror.rows operator data filled
  rw [← row.isComplete_eq (mirror.exact operator data filled)]
  have created := (mirror.operatorsTracked operator).filled_of_ready filled
  rw [statusOf_of_lt inside] at created
  have final : snapshot.finalized = true := (mirror.isComplete_eq ready).symm.trans done.2
  have counted : epochState.snapshotRecord.completed.card = epochState.operatorCount := by
    rw [← mirror.registered snapshot ready, ← listed.count snapshot ready]
    exact beq_iff_eq.mp final
  by_contra incomplete
  have others : epochState.snapshotRecord.completed.map Fin.valEmbedding ⊆
      (Finset.range epochState.operatorCount).erase (indexOf operator) := by
    intro value member
    obtain ⟨i, completed, rfl⟩ := Finset.mem_map.mp member
    obtain ⟨begun, complete⟩ := (Finset.mem_filter.mp completed).2
    refine Finset.mem_erase.mpr ⟨fun same => incomplete ?_,
      Finset.mem_range.mpr (listed.inRange i begun)⟩
    cases Fin.ext (a := i) (b := ⟨_, inside⟩) same
    exact complete
  have below : indexOf operator ∈ Finset.range epochState.operatorCount :=
    Finset.mem_range.mpr (listed.inRange ⟨_, inside⟩ (by rw [created]; rintro ⟨⟩))
  have few := Finset.card_le_card others
  rw [Finset.card_map, counted, Finset.card_erase_of_mem below, Finset.card_range] at few
  have some := Finset.mem_range.mp below
  omega

/-- A final snapshot is frozen: no instruction adds an operator or a delegation. -/
theorem Effect.snapshotsKept (effect : Effect runtime accounts next context instruction)
    (regular : accounts.Regular indexOf) (indexed : instruction.Indexed indexOf)
    (loaded : accounts.epochState = .ready epochState) (done : epochState.SnapshotDone) :
    accounts.SnapshotsKept next := by
  have mirror := (regular.mirrored.opened epochState loaded).snapshots
  cases effect with
  | epochSnapshotFilled here opened unused table finalized same =>
    cases here.symm.trans loaded
    exact absurd (mirror.tracked.dne (by rw [unused]; exact opened)) done.1
  | @operatorSnapshotAllocated _ operator _ snapshot _ here ready unfilled listed same =>
    cases here.symm.trans loaded
    cases account : accounts.operatorSnapshots operator with
    | missing =>
      obtain ⟨index, rfl, below⟩ := listed account
      rw [show index = indexOf operator from indexed,
        (regular.registered epochState loaded).operators.count snapshot ready] at below
      exact absurd unfilled (regular.noneCreated loaded done below)
    | allocated dataLen => exact absurd account (regular.notAllocated loaded done)
    | ready data =>
      rw [account] at unfilled
      exact unfilled.elim
  | operatorSnapshotFilled here snapshot allocated =>
    cases here.symm.trans loaded
    exact absurd allocated (regular.notAllocated loaded done)
  | delegationSnapshotted here table snapshot taken =>
    cases here.symm.trans loaded
    obtain ⟨before, _, _, data, _, _, ready, -, increment, -⟩ :=
      Snapshots.processSnapshotVaultOperatorDelegation_eq_ok taken
    obtain ⟨pending, -⟩ :=
      OperatorSnapshot.incrementVaultOperatorDelegationRegistration_eq_ok increment
    cases pending.symm.trans (regular.operatorFinalized loaded done snapshot ready)
  | closed here open_ canClose close => exact (closeAccount_frame close).2.1
  | _ =>
    rename_i same
    cases same
    exact .of_eq rfl rfl

/-! ## After the first vote -/

/-- The snapshots are those of the electorate, as far as they are still there. -/
structure Elects (electorate : Electorate) (accounts : EpochAccounts) : Prop where
  voting : (∃ epochState, accounts.epochState = .ready epochState ∧ epochState.SnapshotDone ∧
    epochState.accountStatus.ballotBox ≠ .dne) ∨ accounts.Gone
  total : ∀ snapshot, accounts.epochSnapshot = .ready snapshot →
    snapshot.stakeWeights.stakeWeight = electorate.totalStakeWeight
  members : ∀ operator data, accounts.operatorSnapshots operator = .ready data →
    operator ∈ electorate.operators ∧ electorate.snapshot operator = data.stakeWeights

namespace Elects

theorem kept (elects : accounts.Elects electorate) (kept : accounts.SnapshotsKept next)
    (voting : (∃ epochState, next.epochState = .ready epochState ∧ epochState.SnapshotDone ∧
      epochState.accountStatus.ballotBox ≠ .dne) ∨ next.Gone) : next.Elects electorate where
  voting := voting
  total snapshot ready := elects.total snapshot (kept.epochSnapshot_ready ready)
  members operator data ready := elects.members operator data (kept.operator_ready ready)

/-- Also with the epoch state gone no snapshot comes back. -/
theorem snapshotsKept (elects : accounts.Elects electorate) (regular : accounts.Regular indexOf)
    (indexed : instruction.Indexed indexOf)
    (effect : Effect runtime accounts next context instruction) : accounts.SnapshotsKept next := by
  rcases elects.voting with ⟨before, loaded, done, -⟩ | gone
  · exact effect.snapshotsKept regular indexed loaded done
  · obtain ⟨account, base, ncn, -, rfl⟩ := effect.of_absent fun epochState loaded => by
      cases gone.2.symm.trans loaded
    exact .of_eq rfl rfl

theorem effect (elects : accounts.Elects electorate) (regular : accounts.Regular indexOf)
    (distinct : Function.Injective indexOf) (indexed : instruction.Indexed indexOf)
    (effect : Effect runtime accounts next context instruction) : next.Elects electorate := by
  refine elects.kept (elects.snapshotsKept regular indexed effect) ?_
  rcases elects.voting with ⟨before, loaded, done, created⟩ | gone
  · rcases effect.still_or_gone loaded with ⟨after, still⟩ | gone
    · have advances := regular.mirrored.advances distinct indexed loaded still effect
      exact .inl ⟨after, still, advances.snapshot done, advances.ballotBox created⟩
    · exact .inr gone
  · exact .inr (gone.effect effect)

end Elects

/-! ## Before the first vote -/

/-- Nothing is decided, and the epoch snapshot adds up the operators that are final. -/
structure Unvoted (accounts : EpochAccounts) : Prop where
  box : ∀ box, accounts.ballotBox = .ready box →
    ∃ bump slot, box = .new accounts.ncn accounts.epoch bump slot
  undecided : ∀ epochState, accounts.epochState = .ready epochState →
    epochState.isConsensusReached = false
  totals : ∀ snapshot, accounts.epochSnapshot = .ready snapshot →
    snapshot.stakeWeights.stakeWeight < 2 ^ 128 ∧
      ∃ finalized, snapshot.Totals accounts.operatorSnapshots finalized
  unnamed : accounts.operatorSnapshots .default = .missing

namespace Unvoted

theorem absent (ncn : Pubkey) (epoch : ℕ) : (EpochAccounts.absent ncn epoch).Unvoted where
  box box ready := by cases ready
  undecided epochState loaded := by cases loaded
  totals snapshot ready := by cases ready
  unnamed := rfl

/-- Without a vote or a tie breaker there is no consensus, and nothing is closed. -/
theorem undecidedAfter (unvoted : accounts.Unvoted)
    (quiet : ballotRequest (context, instruction) = none)
    (effect : Effect runtime accounts next context instruction) (after : EpochState)
    (still : next.epochState = .ready after) : after.isConsensusReached = false := by
  have undecided : ∀ {before : EpochState}, accounts.epochState = .ready before →
      before.isConsensusReached = false := unvoted.undecided _
  cases effect with
  | epochStateAllocated unfilled same =>
    cases same
    cases still
  | epochStateFilled allocated same =>
    cases same
    cases still
    rfl
  | weightTableFilled loaded allocated started same =>
    cases same
    cases still
    obtain ⟨table, stMintCount, rfl⟩ := Weighing.start_vaultCount started
    exact (undecided loaded :)
  | weightSet loaded table processed same =>
    cases same
    cases still
    obtain ⟨-, changed⟩ := Weighing.process_frame processed
    rw [changed]
    exact (undecided loaded :)
  | operatorSnapshotAllocated loaded snapshot unfilled listed same =>
    cases same
    exact undecided still
  | operatorSnapshotFilled loaded snapshot allocated filled same =>
    cases same
    cases still
    obtain ⟨_, _, _, -, -, update, rfl⟩ := Snapshots.initializeOperatorSnapshot_eq_ok filled
    obtain ⟨_, rfl⟩ := EpochState.updateReallocOperatorSnapshot_eq_ok update
    exact (undecided loaded :)
  | delegationSnapshotted loaded table snapshot taken same =>
    cases same
    cases still
    obtain ⟨_, _, _, _, _, _, -, -, -, -, update, rfl⟩ :=
      Snapshots.processSnapshotVaultOperatorDelegation_eq_ok taken
    obtain ⟨_, rfl⟩ := EpochState.updateSnapshotVaultOperatorDelegation_eq_ok update
    exact (undecided loaded :)
  | voteCast => cases quiet
  | tieBreakerSet => cases quiet
  | merkleRootSet loaded update same =>
    cases same
    cases still
    obtain ⟨_, rfl⟩ := EpochState.updateSetMerkleRoot_eq_ok update
    exact (undecided loaded :)
  | baseDistributed loaded ready distribute sent update same =>
    cases same
    cases still
    obtain ⟨_, _, -, rfl⟩ := EpochState.updateDistributeBaseRewards_eq_ok update
    exact (undecided loaded :)
  | baseNcnDistributed loaded ready distribute sent paid update same =>
    cases same
    cases still
    obtain ⟨_, -, rfl⟩ := EpochState.updateDistributeBaseNcnRewards_eq_ok update
    exact (undecided loaded :)
  | ncnRouterFilled loaded opened snapshot unused rent update same =>
    cases same
    cases still
    obtain ⟨_, rfl⟩ := EpochState.updateReallocNcnRewardRouter_eq update
    exact (undecided loaded :)
  | ncnRouted loaded snapshot ready route update same =>
    cases same
    cases still
    obtain ⟨_, rfl⟩ := EpochState.updateRouteNcnRewards_eq_ok update
    exact (undecided loaded :)
  | ncnDistributed loaded snapshot ready distribute sent update same =>
    cases same
    cases still
    obtain ⟨_, _, _, -, rfl⟩ := EpochState.updateDistributeNcnRewards_eq_ok update
    exact (undecided loaded :)
  | closed loaded open_ canClose close =>
    obtain ⟨reached, -⟩ := EpochState.canCloseEpochAccounts_eq_ok_true_iff.mp canClose
    cases reached.symm.trans (undecided loaded)
  | epochSnapshotFilled loaded opened unused table finalized same
  | ballotBoxFilled loaded allocated same
  | baseRouterFilled loaded allocated same
  | baseRouted loaded ready route same =>
    cases same
    cases still
    exact (undecided loaded :)
  | received base_le ncn_le same
  | weightTableAllocated loaded unfilled same
  | ballotBoxAllocated loaded unfilled same
  | baseRouterAllocated loaded unfilled paid rent same =>
    cases same
    exact undecided still

/-- The snapshots as the instructions see them. -/
theorem sound (unvoted : accounts.Unvoted) (regular : accounts.Regular indexOf)
    (loaded : accounts.epochState = .ready epochState) {snapshot : EpochSnapshot}
    (ready : accounts.epochSnapshot = .ready snapshot) :
    Snapshots.Sound ⟨epochState, snapshot, accounts.operatorSnapshots⟩ where
  vaults := ((regular.mirrored.opened epochState loaded).snapshots.vaults snapshot ready).2
  exact := (regular.mirrored.opened epochState loaded).snapshots.exact
  totals := (unvoted.totals snapshot ready).2

/-- An instruction on other accounts. -/
theorem keep (unvoted : accounts.Unvoted)
    (snapshot : next.epochSnapshot = accounts.epochSnapshot)
    (operators : next.operatorSnapshots = accounts.operatorSnapshots)
    (sameEpoch : next.ncn = accounts.ncn ∧ next.epoch = accounts.epoch)
    (box : ∀ box, next.ballotBox = .ready box → accounts.ballotBox = .ready box)
    (undecided : ∀ after, next.epochState = .ready after → after.isConsensusReached = false) :
    next.Unvoted where
  box data ready := by
    rw [sameEpoch.1, sameEpoch.2]
    exact unvoted.box data (box data ready)
  undecided := undecided
  totals data ready := by
    rw [snapshot] at ready
    rw [operators]
    exact unvoted.totals data ready
  unnamed := by
    rw [operators]
    exact unvoted.unnamed

/-- Whose account is there has a name. -/
theorem named (unvoted : accounts.Unvoted) {operator : Pubkey} {account : Account OperatorSnapshot}
    (used : accounts.operatorSnapshots operator = account) (there : account ≠ .missing) :
    Pubkey.default ≠ operator := by
  rintro rfl
  exact there (used.symm.trans unvoted.unnamed)

/-- A registration is checked to fit. -/
theorem registered_fits {before after : EpochSnapshot} {final : Bool} {slot delegations : ℕ}
    {stakeWeights : StakeWeights} (fits : before.stakeWeights.stakeWeight < 2 ^ 128)
    (registers : before.Registers after final slot delegations stakeWeights) :
    after.stakeWeights.stakeWeight < 2 ^ 128 := by
  rcases registers with ⟨-, registered⟩ | ⟨-, rfl⟩
  · unfold EpochSnapshot.incrementOperatorRegistration at registered
    split at registered
    · cases registered
    simp only [bind_eq_ok, okOr_eq_ok_iff, pure_eq_ok_iff] at registered
    obtain ⟨_, -, _, -, weights, added, rfl⟩ := registered
    have fits := (StakeWeights.increment_get added .total).2
    split <;> exact fits
  · exact fits

theorem effect (unvoted : accounts.Unvoted) (regular : accounts.Regular indexOf)
    (loads : instruction.LoadsOperator) (quiet : ballotRequest (context, instruction) = none)
    (effect : Effect runtime accounts next context instruction) : next.Unvoted := by
  have undecided := unvoted.undecidedAfter quiet effect
  have sameEpoch := effect.sameEpoch
  cases effect with
  | epochSnapshotFilled loaded opened unused table finalized same =>
    cases same
    have mirror := (regular.mirrored.opened _ loaded).snapshots
    have none := (regular.registered _ loaded).operators.unopened
      (mirror.tracked.dne (by rw [unused]; exact opened))
    refine ⟨unvoted.box, undecided, fun snapshot ready => ?_, unvoted.unnamed⟩
    cases ready
    refine ⟨show 0 < 2 ^ 128 by norm_num, ∅, ⟨fun operator => ?_, rfl, Nat.zero_le _,
      fun component => ?_, rfl⟩⟩
    · dsimp only
      rw [none operator]
      simp [Account.isFinalized]
    · rw [Finset.sum_empty]
      exact StakeWeights.default_get component
  | @operatorSnapshotAllocated _ operator _ snapshot _ loaded ready unfilled listed same =>
    cases same
    have pending : (accounts.operatorSnapshots operator).isFinalized = false := by
      cases account : accounts.operatorSnapshots operator with
      | missing => rfl
      | allocated dataLen => rfl
      | ready data =>
        rw [account] at unfilled
        exact unfilled.elim
    refine ⟨unvoted.box, undecided, fun data here => ?_, ?_⟩
    · obtain ⟨fits, finalized, totals⟩ := unvoted.totals data here
      exact ⟨fits, finalized, totals.unchanged pending rfl⟩
    · have named : Pubkey.default ≠ operator := by
        intro same
        obtain ⟨index, rfl, -⟩ := listed (same ▸ unvoted.unnamed)
        exact loads same.symm
      dsimp only
      rw [Function.update_of_ne named]
      exact unvoted.unnamed
  | operatorSnapshotFilled loaded snapshot allocated filled same =>
    cases same
    have pending := congrArg Account.isFinalized allocated
    have sound :=
      (unvoted.sound regular loaded snapshot).initializeOperatorSnapshot pending filled
    obtain ⟨_, _, _, -, registers, -, rfl⟩ := Snapshots.initializeOperatorSnapshot_eq_ok filled
    refine ⟨unvoted.box, undecided, fun data here => ?_, ?_⟩
    · cases here
      exact ⟨registered_fits (unvoted.totals _ snapshot).1 registers, sound.totals⟩
    · dsimp only [withSnapshots]
      rw [Snapshots.setOperatorSnapshot_of_ne (unvoted.named allocated (by rintro ⟨⟩))]
      exact unvoted.unnamed
  | delegationSnapshotted loaded table snapshot taken same =>
    cases same
    have sound := (unvoted.sound regular loaded snapshot).snapshotVaultOperatorDelegation taken
    obtain ⟨_, _, _, _, _, _, ready, -, -, registers, -, rfl⟩ :=
      Snapshots.processSnapshotVaultOperatorDelegation_eq_ok taken
    refine ⟨unvoted.box, undecided, fun data here => ?_, ?_⟩
    · cases here
      exact ⟨registered_fits (unvoted.totals _ snapshot).1 registers, sound.totals⟩
    · dsimp only [withSnapshots]
      rw [Snapshots.setOperatorSnapshot_of_ne (unvoted.named ready (by rintro ⟨⟩))]
      exact unvoted.unnamed
  | ballotBoxAllocated loaded unfilled same =>
    cases same
    exact unvoted.keep rfl rfl sameEpoch (fun _ ready => by cases ready) undecided
  | ballotBoxFilled loaded allocated same =>
    cases same
    refine ⟨fun box ready => ?_, undecided, unvoted.totals, unvoted.unnamed⟩
    cases ready
    exact ⟨_, _, rfl⟩
  | voteCast => cases quiet
  | tieBreakerSet => cases quiet
  | closed loaded open_ canClose close =>
    obtain ⟨reached, -⟩ := EpochState.canCloseEpochAccounts_eq_ok_true_iff.mp canClose
    cases reached.symm.trans (unvoted.undecided _ loaded)
  | _ =>
    rename_i same
    cases same
    exact unvoted.keep rfl rfl sameEpoch (fun _ => id) undecided

end Unvoted

/-! ## The ballot box -/

theorem processCastVote_eq_ok {operator voter operatorAdmin : Pubkey} {metaMerkleRoot : Bytes32}
    (processed : accounts.processCastVote runtime context operator voter operatorAdmin
      metaMerkleRoot = .ok next) :
    ∃ epochState box snapshot data voting, accounts.epochState = .ready epochState ∧
      accounts.ballotBox = .ready box ∧ accounts.epochSnapshot = .ready snapshot ∧
      accounts.operatorSnapshots operator = .ready data ∧
      VotingAccounts.processCastVote runtime.spl ⟨box, epochState⟩ operator voter operatorAdmin
        snapshot data metaMerkleRoot context.config.validSlotsAfterConsensus context.clock.slot =
          .ok voting ∧
      next = accounts.withVoting voting := by
  obtain ⟨epochState, loaded, processed⟩ := bind_eq_ok.mp processed
  obtain ⟨box, ready, processed⟩ := bind_eq_ok.mp processed
  obtain ⟨snapshot, final, processed⟩ := bind_eq_ok.mp processed
  obtain ⟨data, filled, processed⟩ := bind_eq_ok.mp processed
  obtain ⟨voting, cast, same⟩ := bind_eq_ok.mp processed
  cases same
  exact ⟨epochState, box, snapshot, data, voting, Account.load_eq_ok_iff.mp loaded,
    Account.load_eq_ok_iff.mp ready, Account.load_eq_ok_iff.mp final,
    Account.load_eq_ok_iff.mp filled, lift_eq_ok_iff.mp cast, rfl⟩

theorem processAdminSetTieBreaker_eq_ok {tieBreakerAdmin : Pubkey} {metaMerkleRoot : Bytes32}
    (processed : accounts.processAdminSetTieBreaker context tieBreakerAdmin metaMerkleRoot =
      .ok next) :
    ∃ box voting, accounts.ballotBox = .ready box ∧ next = accounts.withVoting voting ∧
      box.setTieBreakerBallot metaMerkleRoot context.clock.epoch
        context.config.epochsBeforeStall = .ok voting.ballotBox := by
  obtain ⟨epochState, -, processed⟩ := bind_eq_ok.mp processed
  obtain ⟨box, ready, processed⟩ := bind_eq_ok.mp processed
  obtain ⟨voting, set, same⟩ := bind_eq_ok.mp processed
  cases same
  have set := lift_eq_ok_iff.mp set
  unfold VotingAccounts.processAdminSetTieBreaker at set
  split at set
  · cases set
  obtain ⟨decided, tie, same⟩ := bind_eq_ok.mp set
  cases same
  exact ⟨box, _, Account.load_eq_ok_iff.mp ready, rfl, tie⟩

/-- An instruction that asks nothing of a box with votes leaves it or closes it. -/
theorem Elects.box_kept (elects : accounts.Elects electorate) (regular : accounts.Regular indexOf)
    (quiet : ballotRequest (context, instruction) = none)
    (effect : Effect runtime accounts next context instruction) {box : BallotBox}
    (ready : next.ballotBox = .ready box) : accounts.ballotBox = .ready box := by
  cases effect with
  | ballotBoxAllocated loaded unfilled same =>
    cases same
    cases ready
  | ballotBoxFilled loaded allocated same =>
    rcases elects.voting with ⟨before, here, -, created⟩ | gone
    · cases here.symm.trans loaded
      exact absurd ((regular.mirrored.opened _ loaded).ballotBox.dne_of_allocated allocated) created
    · cases gone.2.symm.trans loaded
  | voteCast => cases quiet
  | tieBreakerSet => cases quiet
  | operatorSnapshotAllocated loaded snapshot unfilled listed same =>
    cases same
    exact ready
  | closed loaded open_ canClose close => exact (closeAccount_frame close).2.2 box ready
  | _ =>
    rename_i same
    cases same
    exact ready

/-- What happens to the box of an epoch is what happens to the box of its electorate: a
vote weighs what the snapshot of its operator says, out of the total of the epoch. -/
theorem Elects.box_step (elects : accounts.Elects electorate) (regular : accounts.Regular indexOf)
    (processed : accounts.process runtime (context, instruction) = .ok next) {later : BallotBox}
    (still : next.ballotBox = .ready later) :
    ∃ box, accounts.ballotBox = .ready box ∧
      ((ballotRequest (context, instruction) = none ∧ later = box) ∨
        ∃ vote : BallotInstruction electorate,
          ballotRequest (context, instruction) = some vote.request ∧
          box.process runtime.spl electorate vote = .ok later) := by
  cases requested : ballotRequest (context, instruction) with
  | none =>
    exact ⟨later, elects.box_kept regular requested (process_effect processed) still,
      .inl ⟨rfl, rfl⟩⟩
  | some request =>
    cases instruction with
    | castVote operator voter operatorAdmin metaMerkleRoot =>
      cases requested
      obtain ⟨epochState, box, snapshot, data, voting, -, ready, final, filled, cast, rfl⟩ :=
        processCastVote_eq_ok processed
      cases still
      obtain ⟨member, weights⟩ := elects.members operator data filled
      obtain ⟨voted, castVote, tallied, -⟩ := VotingAccounts.processCastVote_calls cast
      rw [← weights] at castVote
      rw [elects.total snapshot final] at tallied
      refine ⟨box, ready, .inr ⟨.castVote ⟨operator, member⟩ metaMerkleRoot context.clock.slot
        context.config.validSlotsAfterConsensus, rfl, ?_⟩⟩
      rw [BallotBox.process, castVote, ok_bind, tallied]
    | adminSetTieBreaker tieBreakerAdmin metaMerkleRoot =>
      cases requested
      obtain ⟨box, voting, ready, rfl, set⟩ := processAdminSetTieBreaker_eq_ok processed
      cases still
      exact ⟨box, ready, .inr ⟨.setTieBreaker metaMerkleRoot context.clock.epoch
        context.config.epochsBeforeStall, rfl, set⟩⟩
    | _ => cases requested

/-- The ballot box is what the votes so far lead to, weighed by the electorate. -/
def Replays (spl : SplMath) (electorate : Electorate) (past : List (Context × EpochInstruction))
    (accounts : EpochAccounts) : Prop :=
  ∀ box, accounts.ballotBox = .ready box →
    ∃ (votes : List (BallotInstruction electorate)) (bump slot : ℕ),
      votes.map BallotInstruction.request = ballotRequests past ∧
      run (BallotBox.process spl electorate) votes
        (.new accounts.ncn accounts.epoch bump slot) = .ok box

theorem ballotRequests_append : ballotRequests (past ++ rest) =
    ballotRequests past ++ ballotRequests rest := List.filterMap_append

theorem ballotRequests_singleton {timed : Context × EpochInstruction} :
    ballotRequests [timed] = (ballotRequest timed).toList := by
  cases request : ballotRequest timed <;> simp [ballotRequests, request]

theorem Unvoted.replays (unvoted : accounts.Unvoted) (none : ballotRequests past = []) :
    accounts.Replays runtime.spl electorate past := by
  intro box ready
  obtain ⟨bump, slot, rfl⟩ := unvoted.box box ready
  exact ⟨[], bump, slot, none.symm, rfl⟩

theorem Replays.process (replays : accounts.Replays runtime.spl electorate past)
    (elects : accounts.Elects electorate) (regular : accounts.Regular indexOf)
    (processed : accounts.process runtime (context, instruction) = .ok next) :
    next.Replays runtime.spl electorate (past ++ [(context, instruction)]) := by
  intro later still
  obtain ⟨sameNcn, sameEpoch⟩ := (process_effect processed).sameEpoch
  rw [sameNcn, sameEpoch, ballotRequests_append, ballotRequests_singleton]
  obtain ⟨box, ready, step⟩ := elects.box_step regular processed still
  obtain ⟨votes, bump, slot, requests, ran⟩ := replays box ready
  rcases step with ⟨quiet, rfl⟩ | ⟨vote, requested, voted⟩
  · rw [quiet, Option.toList_none, List.append_nil]
    exact ⟨votes, bump, slot, requests, ran⟩
  · refine ⟨votes ++ [vote], bump, slot, ?_, ?_⟩
    · rw [List.map_append, requests, requested]
      rfl
    · rw [run_append, ran, ok_bind, run_singleton]
      exact voted

/-! ## The first vote -/

/-- The operators of a final epoch snapshot are an electorate. -/
theorem exists_electorate {snapshot : EpochSnapshot} {finalized : Finset Pubkey}
    (totals : snapshot.Totals accounts.operatorSnapshots finalized)
    (positive : 0 < snapshot.stakeWeights.stakeWeight)
    (fits : snapshot.stakeWeights.stakeWeight < 2 ^ 128)
    (unnamed : accounts.operatorSnapshots .default = .missing) :
    ∃ electorate : Electorate, electorate.operators = finalized ∧
      electorate.totalStakeWeight = snapshot.stakeWeights.stakeWeight ∧
      ∀ operator data, accounts.operatorSnapshots operator = .ready data →
        electorate.snapshot operator = data.stakeWeights := by
  refine ⟨⟨finalized, fun operator => (accounts.operatorSnapshots operator).stakeWeights,
    snapshot.stakeWeights.stakeWeight, ?_, ?_, positive, fits⟩, rfl, rfl, ?_⟩
  · intro member
    rw [totals.members, unnamed] at member
    cases member
  · rw [← StakeWeights.get_total, totals.weighed]
    exact Finset.sum_congr rfl fun operator _ => Account.stakeWeights_total _
  · intro operator data ready
    dsimp only
    rw [ready, Account.stakeWeights]

/-- The epoch snapshot is final, and the operator snapshots are the electorate. -/
structure Constitutes (electorate : Electorate) (accounts : EpochAccounts) : Prop where
  final : ∃ snapshot, accounts.epochSnapshot = .ready snapshot ∧ snapshot.finalized = true ∧
    snapshot.stakeWeights.stakeWeight = electorate.totalStakeWeight
  members : ∀ operator, operator ∈ electorate.operators ↔ ∃ data,
    accounts.operatorSnapshots operator = .ready data ∧ data.finalized = true
  weights : ∀ operator data, accounts.operatorSnapshots operator = .ready data →
    data.finalized = true ∧ data.stakeWeights = electorate.snapshot operator

/-- The first instruction that the ballot box takes is a vote, on a final snapshot. -/
theorem Unvoted.firstVote (unvoted : accounts.Unvoted) (documented : runtime.spl.Documented)
    (regular : accounts.Regular indexOf) (none : ballotRequests past = [])
    (requested : ballotRequest (context, instruction) ≠ .none)
    (processed : accounts.process runtime (context, instruction) = .ok next) :
    ∃ electorate, accounts.Constitutes electorate ∧ accounts.Elects electorate ∧
      next.Replays runtime.spl electorate (past ++ [(context, instruction)]) := by
  cases instruction with
  | castVote operator voter operatorAdmin metaMerkleRoot =>
    obtain ⟨epochState, box, snapshot, data, voting, loaded, ready, final, filled, cast, -⟩ :=
      processCastVote_eq_ok processed
    have mirror := regular.mirrored.opened epochState loaded
    have finalized := VotingAccounts.processCastVote_finalized cast
    have done : epochState.SnapshotDone := by
      refine ⟨fun absent => ?_, (mirror.snapshots.isComplete_eq final).trans finalized⟩
      cases (mirror.snapshots.tracked.filled_of_ready final).symm.trans absent
    have created : epochState.accountStatus.ballotBox ≠ .dne := fun absent => by
      cases (mirror.ballotBox.filled_of_ready ready).symm.trans absent
    obtain ⟨voted, castVote, tallied, -⟩ := VotingAccounts.processCastVote_calls cast
    obtain ⟨bump, slot, rfl⟩ := unvoted.box box ready
    have positive := BallotBox.positive_of_tallyVotes documented
      (BallotBox.castVote_frame castVote).1 tallied
    obtain ⟨fits, registered, totals⟩ := unvoted.totals snapshot final
    obtain ⟨electorate, operators, total, weights⟩ :=
      exists_electorate totals positive fits unvoted.unnamed
    have complete : ∀ {operator data}, accounts.operatorSnapshots operator = .ready data →
        data.finalized = true := regular.operatorFinalized loaded done final
    have elects : accounts.Elects electorate := by
      refine ⟨.inl ⟨epochState, loaded, done, created⟩, fun other here => ?_,
        fun member other here => ⟨?_, weights member other here⟩⟩
      · cases final.symm.trans here
        exact total.symm
      · rw [operators, totals.members, here]
        exact complete here
    have constitutes : accounts.Constitutes electorate := by
      refine ⟨⟨snapshot, final, finalized, total.symm⟩, fun member => ?_,
        fun member other here => ⟨complete here, (weights member other here).symm⟩⟩
      rw [operators, totals.members, Account.isFinalized_iff]
    exact ⟨electorate, constitutes, elects, (unvoted.replays none).process elects regular processed⟩
  | adminSetTieBreaker tieBreakerAdmin metaMerkleRoot =>
    obtain ⟨epochState, loaded, processed⟩ := bind_eq_ok.mp processed
    obtain ⟨box, ready, processed⟩ := bind_eq_ok.mp processed
    obtain ⟨voting, set, -⟩ := bind_eq_ok.mp processed
    obtain ⟨i, valid⟩ := VotingAccounts.processAdminSetTieBreaker_listed (lift_eq_ok_iff.mp set)
    obtain ⟨bump, slot, rfl⟩ := unvoted.box box (Account.load_eq_ok_iff.mp ready)
    have empty : (Vector.replicate maxOperators BallotTally.default)[i] = .default :=
      Vector.getElem_replicate ..
    cases (congrArg BallotTally.isValid empty).symm.trans valid
  | _ => exact absurd rfl requested

/-! ## Whole runs -/

section Runs
variable {ncn : Pubkey} {epoch : ℕ} {history : List (Context × EpochInstruction)}

theorem run_regular (distinct : Function.Injective indexOf)
    (indexed : ∀ timed ∈ history, timed.2.Indexed indexOf) (regular : accounts.Regular indexOf)
    (ran : run (process runtime) history accounts = .ok next) : next.Regular indexOf := by
  refine foldlM_invariant (motive := fun state => state.Regular indexOf) ?_ regular ran
  intro timed member before after regular processed
  exact regular.effect distinct (indexed timed member) (process_effect processed)

theorem run_unvoted (distinct : Function.Injective indexOf)
    (indexed : ∀ timed ∈ history, timed.2.Indexed indexOf)
    (loads : ∀ timed ∈ history, timed.2.LoadsOperator) (none : ballotRequests history = [])
    (ran : run (process runtime) history (absent ncn epoch) = .ok next) :
    next.Regular indexOf ∧ next.Unvoted := by
  have quiet : ∀ timed ∈ history, ballotRequest timed = .none := List.filterMap_eq_nil_iff.mp none
  refine foldlM_invariant (motive := fun state => state.Regular indexOf ∧ state.Unvoted) ?_
    ⟨.absent ncn epoch, .absent ncn epoch⟩ ran
  rintro ⟨context, instruction⟩ member before after ⟨regular, unvoted⟩ processed
  have effect := process_effect processed
  exact ⟨regular.effect distinct (indexed _ member) effect,
    unvoted.effect regular (loads _ member) (quiet _ member) effect⟩

theorem run_replays (distinct : Function.Injective indexOf)
    (indexed : ∀ timed ∈ history, timed.2.Indexed indexOf) (regular : accounts.Regular indexOf)
    (elects : accounts.Elects electorate)
    (replays : accounts.Replays runtime.spl electorate past)
    (ran : run (process runtime) history accounts = .ok next) :
    next.Elects electorate ∧ next.Replays runtime.spl electorate (past ++ history) := by
  suffices both : next.Regular indexOf ∧ next.Elects electorate ∧
      next.Replays runtime.spl electorate (past ++ history) from both.2
  refine run_split_induction (motive := fun later (state : EpochAccounts) =>
    state.Regular indexOf ∧ state.Elects electorate ∧
      state.Replays runtime.spl electorate (past ++ later))
    ⟨regular, elects, by rw [List.append_nil]; exact replays⟩ ?_ ran
  rintro later middle ⟨context, instruction⟩ rest after split - ⟨regular, elects, replays⟩ processed
  have own := indexed (context, instruction) (by simp [split])
  have effect := process_effect processed
  refine ⟨regular.effect distinct own effect, elects.effect regular distinct own effect, ?_⟩
  rw [← List.append_assoc]
  exact replays.process elects regular processed

/-- What comes before the first request to the ballot box. -/
theorem exists_firstRequest (voted : ballotRequests history ≠ []) :
    ∃ quiet timed rest, history = quiet ++ timed :: rest ∧ ballotRequests quiet = [] ∧
      ballotRequest timed ≠ none := by
  induction history with
  | nil => exact absurd rfl voted
  | cons timed rest ih =>
    by_cases requested : ballotRequest timed = none
    · rw [ballotRequests, List.filterMap_cons_none requested] at voted
      obtain ⟨quiet, first, later, rfl, none, asked⟩ := ih voted
      refine ⟨timed :: quiet, first, later, rfl, ?_, asked⟩
      rw [ballotRequests, List.filterMap_cons_none requested]
      exact none
    · exact ⟨[], timed, rest, rfl, rfl, requested⟩

/-- From the first vote on the snapshots are closed or stay as they are. -/
theorem run_snapshotsKept (distinct : Function.Injective indexOf)
    (indexed : ∀ timed ∈ history, timed.2.Indexed indexOf) (regular : accounts.Regular indexOf)
    (elects : accounts.Elects electorate)
    (ran : run (process runtime) history accounts = .ok next) : accounts.SnapshotsKept next := by
  suffices all : next.Regular indexOf ∧ next.Elects electorate ∧ accounts.SnapshotsKept next from
    all.2.2
  refine foldlM_invariant (motive := fun state =>
    state.Regular indexOf ∧ state.Elects electorate ∧ accounts.SnapshotsKept state) ?_
    ⟨regular, elects, .of_eq rfl rfl⟩ ran
  intro timed member before after ⟨regular, elects, kept⟩ processed
  have own := indexed timed member
  have effect := process_effect processed
  exact ⟨regular.effect distinct own effect, elects.effect regular distinct own effect,
    kept.trans (elects.snapshotsKept regular own effect)⟩

/-- The first request to the ballot box splits a history in one way. -/
theorem firstRequest_unique {quiet : List (Context × EpochInstruction)}
    {first timed : Context × EpochInstruction} {later : List (Context × EpochInstruction)}
    (split : quiet ++ first :: later = past ++ timed :: rest)
    (none : ballotRequests quiet = []) (requested : ballotRequest first ≠ .none)
    (noneBefore : ballotRequests past = []) (requestedThen : ballotRequest timed ≠ .none) :
    quiet = past ∧ first = timed := by
  rw [ballotRequests, List.filterMap_eq_nil_iff] at none noneBefore
  rcases List.append_eq_append_iff.mp split with ⟨more, rfl, same⟩ | ⟨more, rfl, same⟩
  · cases more with
    | nil => exact ⟨(List.append_nil _).symm, (List.cons_eq_cons.mp same).1⟩
    | cons middle more =>
      obtain ⟨rfl, -⟩ := List.cons_eq_cons.mp same
      exact absurd (noneBefore first (by simp)) requested
  · cases more with
    | nil => exact ⟨List.append_nil _, (List.cons_eq_cons.mp same).1.symm⟩
    | cons middle more =>
      obtain ⟨rfl, -⟩ := List.cons_eq_cons.mp same
      exact absurd (none timed (by simp)) requestedThen

/-- The first vote finds the electorate of the epoch, and from then on the box is all
along a replay of its votes. -/
theorem run_electorate (documented : runtime.spl.Documented) (distinct : Function.Injective indexOf)
    (indexed : ∀ timed ∈ history, timed.2.Indexed indexOf)
    (loads : ∀ timed ∈ history, timed.2.LoadsOperator) (voted : ballotRequests history ≠ [])
    (ran : run (process runtime) history (absent ncn epoch) = .ok next) :
    ∃ electorate : Electorate,
      (∀ past timed rest before, history = past ++ timed :: rest → ballotRequests past = [] →
        ballotRequest timed ≠ none → run (process runtime) past (absent ncn epoch) = .ok before →
        before.Constitutes electorate ∧ before.Elects electorate) ∧
      ∀ past rest middle, history = past ++ rest →
        run (process runtime) past (absent ncn epoch) = .ok middle →
        middle.Replays runtime.spl electorate past ∧
          (ballotRequests past ≠ [] → middle.Elects electorate) := by
  obtain ⟨quiet, ⟨context, instruction⟩, later, rfl, none, requested⟩ := exists_firstRequest voted
  rw [run_append] at ran
  obtain ⟨before, ranQuiet, ran⟩ := bind_eq_ok.mp ran
  obtain ⟨first, processed, -⟩ := bind_eq_ok.mp ran
  obtain ⟨regular, unvoted⟩ := run_unvoted distinct
    (fun timed member => indexed timed (List.mem_append_left _ member))
    (fun timed member => loads timed (List.mem_append_left _ member)) none ranQuiet
  have own := indexed (context, instruction) (by simp)
  obtain ⟨electorate, constitutes, elects, replays⟩ :=
    unvoted.firstVote documented regular none requested processed
  refine ⟨electorate, ?_, fun past rest middle split reached => ?_⟩
  · intro past timed rest state split noneBefore requestedThen reached
    obtain ⟨rfl, -⟩ := firstRequest_unique split none requested noneBefore requestedThen
    cases ranQuiet.symm.trans reached
    exact ⟨constitutes, elects⟩
  have start : ∀ more, quiet = past ++ more → middle.Replays runtime.spl electorate past ∧
      (ballotRequests past ≠ [] → middle.Elects electorate) := by
    rintro more rfl
    have nothing : ballotRequests past = [] := by
      rw [ballotRequests_append] at none
      exact (List.append_eq_nil_iff.mp none).1
    refine ⟨?_, absurd nothing⟩
    refine (run_unvoted distinct ?_ ?_ nothing reached).2.replays nothing
    · exact fun timed member => indexed timed (by simp [member])
    · exact fun timed member => loads timed (by simp [member])
  rcases List.append_eq_append_iff.mp split with ⟨more, rfl, same⟩ | ⟨more, same, -⟩
  · cases more with
    | nil => exact start [] (by simp)
    | cons timed more =>
      obtain ⟨rfl, rfl⟩ := List.cons_eq_cons.mp same
      rw [run_append, ranQuiet, ok_bind, run_cons, processed, ok_bind] at reached
      have effect := process_effect processed
      obtain ⟨electsLater, replaysLater⟩ := run_replays distinct
        (fun timed member => indexed timed (by simp [member])) (regular.effect distinct own effect)
        (elects.effect regular distinct own effect) replays reached
      rw [List.append_assoc, List.singleton_append] at replaysLater
      exact ⟨replaysLater, fun _ => electsLater⟩
  · exact start more same

/-- The accounts stay those of one NCN and one epoch. -/
theorem run_sameEpoch {start : EpochAccounts} (ran : run (process runtime) history start = .ok finish) :
    finish.ncn = start.ncn ∧ finish.epoch = start.epoch := by
  refine run_invariant (motive := fun state : EpochAccounts =>
    state.ncn = start.ncn ∧ state.epoch = start.epoch) ?_ ⟨rfl, rfl⟩ ran
  rintro state ⟨context, instruction⟩ later ⟨sameNcn, sameEpoch⟩ processed
  obtain ⟨keptNcn, keptEpoch⟩ := (process_effect processed).sameEpoch
  exact ⟨keptNcn.trans sameNcn, keptEpoch.trans sameEpoch⟩

/-- The votes of an epoch are votes of one electorate. When the first vote comes in the
epoch snapshot is final and the operator snapshots are the electorate, and from then on
each snapshot is closed or stays as it is. Whatever the order of the instructions, the
ballot box is in every state what the votes so far lead to when each operator votes with
the weight of its snapshot, out of the total of the epoch snapshot. -/
theorem votes_weigh_final_snapshots (runtime : Runtime) (documented : runtime.spl.Documented)
    (ncn : Pubkey) (epoch : ℕ) {indexOf : Pubkey → ℕ} (distinct : Function.Injective indexOf)
    {history : List (Context × EpochInstruction)}
    (indexed : ∀ timed ∈ history, timed.2.Indexed indexOf)
    (loads : ∀ timed ∈ history, timed.2.LoadsOperator) (voted : ballotRequests history ≠ [])
    {finish : EpochAccounts}
    (ran : run (process runtime) history (absent ncn epoch) = .ok finish) :
    ∃ electorate : Electorate,
      (∀ past timed rest before, history = past ++ timed :: rest → ballotRequests past = [] →
        ballotRequest timed ≠ none → run (process runtime) past (absent ncn epoch) = .ok before →
        before.Constitutes electorate) ∧
      (∀ past timed more rest before later, history = past ++ timed :: more ++ rest →
        ballotRequests (past ++ [timed]) ≠ [] →
        run (process runtime) past (absent ncn epoch) = .ok before →
        run (process runtime) (timed :: more) before = .ok later → before.SnapshotsKept later) ∧
      ∀ past rest middle, history = past ++ rest →
        run (process runtime) past (absent ncn epoch) = .ok middle →
        (∀ box, middle.ballotBox = .ready box →
          ∃ (votes : List (BallotInstruction electorate)) (bump slot : ℕ),
            votes.map BallotInstruction.request = ballotRequests past ∧
            run (BallotBox.process runtime.spl electorate) votes (.new ncn epoch bump slot) =
              .ok box) ∧
        (ballotRequests past ≠ [] →
          (∀ snapshot, middle.epochSnapshot = .ready snapshot →
            snapshot.stakeWeights.stakeWeight = electorate.totalStakeWeight) ∧
          ∀ operator data, middle.operatorSnapshots operator = .ready data →
            operator ∈ electorate.operators ∧
              data.stakeWeights = electorate.snapshot operator) := by
  obtain ⟨electorate, first, along⟩ := run_electorate documented distinct indexed loads voted ran
  refine ⟨electorate, ?_, ?_, fun past rest middle split reached => ?_⟩
  · intro past timed rest before split none requested reached
    exact (first past timed rest before split none requested reached).1
  · intro past timed more rest before later split voting reached ranMore
    have elects : before.Elects electorate := by
      by_cases none : ballotRequests past = []
      · refine (first past timed (more ++ rest) before (by simpa using split) none ?_ reached).2
        rintro quiet
        rw [ballotRequests_append, none, ballotRequests_singleton, quiet] at voting
        exact voting rfl
      · exact (along past (timed :: more ++ rest) before (by simpa using split) reached).2 none
    have regular := run_regular distinct (fun timed member => indexed timed (by simp [split, member]))
      (.absent ncn epoch) reached
    refine run_snapshotsKept distinct (fun other member => indexed other ?_) regular elects ranMore
    rw [split]
    exact List.mem_append_left _ (List.mem_append_right _ member)
  · obtain ⟨replays, elects⟩ := along past rest middle split reached
    have same := run_sameEpoch reached
    refine ⟨fun box ready => ?_, fun some => ⟨(elects some).total, fun operator data filled => ?_⟩⟩
    · have replayed := replays box ready
      rw [same.1, same.2] at replayed
      exact replayed
    · obtain ⟨member, weights⟩ := (elects some).members operator data filled
      exact ⟨member, weights.symm⟩

end Runs

/-! ### Two operators -/

def sampleVoting : List (Context × EpochInstruction) :=
  epochWeighed ++ epochSnapshotted ++ epochVoted

theorem sampleVoting_indexed : ∀ timed ∈ sampleVoting, timed.2.Indexed sampleIndex :=
  fun timed member => sampleEpoch_indexed timed (List.mem_append_left _ member)

theorem sampleVoting_loads : ∀ timed ∈ sampleVoting, timed.2.LoadsOperator := by
  have named : firstOperator ≠ .default ∧ secondOperator ≠ .default := by decide
  simp [sampleVoting, epochWeighed, epochSnapshotted, epochVoted, EpochInstruction.LoadsOperator,
    named]

/-- Ten and four tokens at weight 7 are the electorate. -/
theorem votes_weigh_final_snapshots_of_firstOperator :
    ∃ electorate : Electorate, electorate.totalStakeWeight = 98 ∧
      firstOperator ∈ electorate.operators ∧
      (electorate.snapshot firstOperator).stakeWeight = 70 := by
  have runs : (do
      let accounts ← run (process sampleRuntime) sampleVoting (absent .default 0)
      let snapshot ← accounts.epochSnapshot.load
      let data ← (accounts.operatorSnapshots firstOperator).load
      return (accounts, snapshot, data)).toOption.any
        (fun result : EpochAccounts × EpochSnapshot × OperatorSnapshot =>
          result.2.1.stakeWeights.stakeWeight == 98 &&
            result.2.2.stakeWeights.stakeWeight == 70) = true := by
    decide +kernel
  obtain ⟨⟨accounts, snapshot, data⟩, all, outcome⟩ := exists_of_any runs
  obtain ⟨_, ran, all⟩ := bind_eq_ok.mp all
  obtain ⟨_, final, all⟩ := bind_eq_ok.mp all
  obtain ⟨_, filled, same⟩ := bind_eq_ok.mp all
  cases same
  simp only [Bool.and_eq_true, beq_iff_eq] at outcome
  have voted : ballotRequests sampleVoting ≠ [] := by decide +kernel
  obtain ⟨electorate, -, -, along⟩ := votes_weigh_final_snapshots sampleRuntime SplMath.u256_documented
    .default 0 sampleIndex_injective sampleVoting_indexed sampleVoting_loads voted ran
  obtain ⟨-, weights⟩ := along sampleVoting [] accounts (List.append_nil _).symm ran
  obtain ⟨total, members⟩ := weights voted
  obtain ⟨member, same⟩ := members firstOperator data (Account.load_eq_ok_iff.mp filled)
  refine ⟨electorate, ?_, member, ?_⟩
  · rw [← total snapshot (Account.load_eq_ok_iff.mp final)]
    exact outcome.1
  · rw [← same]
    exact outcome.2

end EpochAccounts

end TipRouter
