import TipRouter.Fees

/-! The fee schedule. Two tables with activation epochs represent a schedule
in which every update takes effect one epoch later: what is charged in an
epoch is the initial fees with all updates of earlier epochs applied. The
tables trade places at every change, also when their epochs tie. -/
namespace TipRouter
open Runs

/-! ## Updates of the group fees -/

/-- One of the sixteen groups. -/
inductive FeeGroup where
  | base (index : Fin feeGroupCount)
  | ncn (index : Fin feeGroupCount)
  deriving DecidableEq

/-- A fee for each group. -/
abbrev GroupFees := FeeGroup → ℕ

def Fees.groupFees (self : Fees) : GroupFees
  | .base index => self.baseFeeGroupsBps[index]
  | .ncn index => self.ncnFeeGroupsBps[index]

/-- The fee an update gives a group, if it gives it one. An update that names no group means
the first one, which is the DAO or the default NCN group. -/
def FeeUpdate.newFee (self : FeeUpdate) : FeeGroup → Option ℕ
  | .base index => if self.baseFeeGroup.elim 0 (·.group) = index then self.newBaseFeeBps else none
  | .ncn index => if self.ncnFeeGroup.elim 0 (·.group) = index then self.newNcnFeeBps else none

theorem FeeUpdate.newFee_base (self : FeeUpdate) (index : Fin feeGroupCount) :
    self.newFee (.base index) =
      if self.baseGroup = .ofIndex index then self.newBaseFeeBps else none := by
  have same : self.baseFeeGroup.elim 0 (·.group) = index ↔ self.baseGroup = .ofIndex index := by
    rw [baseGroup]
    cases self.baseFeeGroup with
    | none => exact (BaseFeeGroup.mk.injEq 0 index).symm.to_iff
    | some group => exact (BaseFeeGroup.mk.injEq group.group index).symm.to_iff
  simp only [newFee, same]

theorem FeeUpdate.newFee_ncn (self : FeeUpdate) (index : Fin feeGroupCount) :
    self.newFee (.ncn index) =
      if self.ncnGroup = .ofIndex index then self.newNcnFeeBps else none := by
  have same : self.ncnFeeGroup.elim 0 (·.group) = index ↔ self.ncnGroup = .ofIndex index := by
    rw [ncnGroup]
    cases self.ncnFeeGroup with
    | none => exact (NcnFeeGroup.mk.injEq 0 index).symm.to_iff
    | some group => exact (NcnFeeGroup.mk.injEq group.group index).symm.to_iff
  simp only [newFee, same]

/-- The group fees after an update. -/
def FeeUpdate.applyTo (self : FeeUpdate) (fees : GroupFees) : GroupFees :=
  fun group => (self.newFee group).getD (fees group)

/-- The fees a config starts with: one for the DAO, one for the default NCN group. -/
def initialFees (daoFeeBps defaultNcnFeeBps : ℕ) : GroupFees
  | .base index => if index.val = 0 then daoFeeBps else 0
  | .ncn index => if index.val = 0 then defaultNcnFeeBps else 0

/-- An update with the epoch it is made in. -/
structure TimedUpdate where
  epoch : ℕ
  update : FeeUpdate
  deriving DecidableEq

/-- The initial fees with all updates applied in order. -/
def feesAfter (initial : GroupFees) (updates : List TimedUpdate) : GroupFees :=
  updates.foldl (fun fees timed => timed.update.applyTo fees) initial

/-- What the schedule charges in an epoch. -/
def scheduledFees (initial : GroupFees) (updates : List TimedUpdate) (epoch : ℕ) : GroupFees :=
  feesAfter initial (updates.filter fun timed => decide (timed.epoch < epoch))

variable {spl : SplMath} {config next : FeeConfig} {slot other : FeeSlot} {fees : Fees}
variable {update : FeeUpdate} {currentEpoch : ℕ}

/-! ## The two slots -/

@[simp] theorem FeeConfig.fees_setFees_self : (config.setFees slot fees).fees slot = fees := by
  cases slot <;> rfl

theorem FeeConfig.fees_setFees_ne (different : other ≠ slot) :
    (config.setFees slot fees).fees other = config.fees other := by
  cases slot <;> cases other <;> first | rfl | exact absurd rfl different

@[simp] theorem FeeConfig.setFees_setFees {fees' : Fees} :
    (config.setFees slot fees).setFees slot fees' = config.setFees slot fees' := by
  cases slot <;> rfl

@[simp] theorem FeeConfig.blockEngineFeeBps_setFees :
    (config.setFees slot fees).blockEngineFeeBps = config.blockEngineFeeBps := by
  cases slot <;> rfl

theorem FeeConfig.fees_setBlockEngine {blockEngineFeeBps : ℕ} :
    { config with blockEngineFeeBps := blockEngineFeeBps }.fees slot = config.fees slot := by
  cases slot <;> rfl

/-- The choice of the table to update depends on the activation epochs only. -/
theorem FeeConfig.updatableFees_congr (currentEpoch : ℕ)
    (same : ∀ slot, (next.fees slot).activationEpoch = (config.fees slot).activationEpoch) :
    next.updatableFees currentEpoch = config.updatableFees currentEpoch := by
  have first := same .fee1
  have second := same .fee2
  simp only [fees] at first second
  rw [updatableFees, updatableFees, first, second]

/-! ## What the setters do -/

theorem Fees.setBaseFeeBps_eq_ok {baseFeeGroup : BaseFeeGroup} {value : ℕ} {fees' : Fees}
    (set : fees.setBaseFeeBps baseFeeGroup value = .ok fees') :
    fees'.activationEpoch = fees.activationEpoch ∧ ∀ group, fees'.groupFees group =
      match group with
      | .base index => if baseFeeGroup = .ofIndex index then value else fees.groupFees (.base index)
      | .ncn index => fees.groupFees (.ncn index) := by
  unfold setBaseFeeBps at set
  split at set
  · cases set
  · obtain ⟨groupIndex, found, same⟩ := bind_eq_ok.mp set
    cases same
    rw [BaseFeeGroup.groupIndex_eq_ok_iff] at found
    subst found
    refine ⟨rfl, fun group => ?_⟩
    cases group with
    | base index =>
      simp only [groupFees, Slots.getElem_put_fin, BaseFeeGroup.ofIndex, BaseFeeGroup.mk.injEq,
        Fin.ext_iff]
    | ncn index => rfl

theorem Fees.setNcnFeeBps_eq_ok {ncnFeeGroup : NcnFeeGroup} {value : ℕ} {fees' : Fees}
    (set : fees.setNcnFeeBps ncnFeeGroup value = .ok fees') :
    fees'.activationEpoch = fees.activationEpoch ∧ ∀ group, fees'.groupFees group =
      match group with
      | .base index => fees.groupFees (.base index)
      | .ncn index =>
        if ncnFeeGroup = .ofIndex index then value else fees.groupFees (.ncn index) := by
  unfold setNcnFeeBps at set
  split at set
  · cases set
  · obtain ⟨groupIndex, found, same⟩ := bind_eq_ok.mp set
    cases same
    rw [NcnFeeGroup.groupIndex_eq_ok_iff] at found
    subst found
    refine ⟨rfl, fun group => ?_⟩
    cases group with
    | base index => rfl
    | ncn index =>
      simp only [groupFees, Slots.getElem_put_fin, NcnFeeGroup.ofIndex, NcnFeeGroup.mk.injEq,
        Fin.ext_iff]

theorem Fees.new_eq_ok {daoFeeBps defaultNcnFeeBps : ℕ}
    (made : Fees.new daoFeeBps defaultNcnFeeBps currentEpoch = .ok fees) :
    fees.activationEpoch = currentEpoch ∧
      fees.groupFees = initialFees daoFeeBps defaultNcnFeeBps := by
  obtain ⟨based, base, ncn⟩ := bind_eq_ok.mp made
  obtain ⟨baseEpoch, baseFees⟩ := setBaseFeeBps_eq_ok base
  obtain ⟨ncnEpoch, ncnFees⟩ := setNcnFeeBps_eq_ok ncn
  refine ⟨ncnEpoch.trans baseEpoch, funext fun group => ?_⟩
  cases group with
  | base index =>
    rw [ncnFees]
    simp only
    rw [baseFees]
    fin_cases index <;> rfl
  | ncn index =>
    rw [ncnFees]
    simp only
    rw [baseFees]
    fin_cases index <;> rfl

/-- An edit of the group fees of one table that keeps every activation epoch. -/
structure FeeConfig.Edited (slot : FeeSlot) (edit : GroupFees → GroupFees)
    (before after : FeeConfig) : Prop where
  groups : (after.fees slot).groupFees = edit (before.fees slot).groupFees
  epochs : ∀ slot, (after.fees slot).activationEpoch = (before.fees slot).activationEpoch
  others : ∀ other ≠ slot, after.fees other = before.fees other
  blockEngine : after.blockEngineFeeBps = before.blockEngineFeeBps

namespace FeeConfig

theorem Edited.trans {first second third : FeeConfig} {edit edit' : GroupFees → GroupFees}
    (earlier : Edited slot edit first second) (later : Edited slot edit' second third) :
    Edited slot (fun fees => edit' (edit fees)) first third where
  groups := by rw [later.groups, earlier.groups]
  epochs := fun slot => (later.epochs slot).trans (earlier.epochs slot)
  others := fun other different => (later.others other different).trans
    (earlier.others other different)
  blockEngine := later.blockEngine.trans earlier.blockEngine

theorem Edited.of_setFees {edit : GroupFees → GroupFees}
    (epoch : fees.activationEpoch = (config.fees slot).activationEpoch)
    (groups : fees.groupFees = edit (config.fees slot).groupFees) :
    Edited slot edit config (config.setFees slot fees) where
  groups := by rw [fees_setFees_self, groups]
  epochs := by
    intro other
    by_cases same : other = slot
    · rw [same, fees_setFees_self, epoch]
    · rw [fees_setFees_ne same]
  others := fun _ different => fees_setFees_ne different
  blockEngine := blockEngineFeeBps_setFees

theorem Edited.of_fees {edit : GroupFees → GroupFees} (same : ∀ slot, next.fees slot = config.fees slot)
    (blockEngine : next.blockEngineFeeBps = config.blockEngineFeeBps)
    (still : edit (config.fees slot).groupFees = (config.fees slot).groupFees) :
    Edited slot edit config next where
  groups := by rw [same, still]
  epochs := fun slot => by rw [same]
  others := fun other _ => same other
  blockEngine := blockEngine

/-- The effect of an update on the base groups alone, and on the NCN groups alone. -/
private def editBase (update : FeeUpdate) (fees : GroupFees) : GroupFees
  | .base index => update.applyTo fees (.base index)
  | .ncn index => fees (.ncn index)

private def editNcn (update : FeeUpdate) (fees : GroupFees) : GroupFees
  | .base index => fees (.base index)
  | .ncn index => update.applyTo fees (.ncn index)

private theorem editNcn_editBase (fees : GroupFees) :
    editNcn update (editBase update fees) = update.applyTo fees := by
  funext group
  cases group <;> rfl

private theorem setBaseFeeWallet_edited (slot : FeeSlot)
    (set : config.ifSome update.newBaseFeeWallet (fun config wallet =>
      config.setBaseFeeWallet update.baseGroup wallet) = .ok next) :
    Edited slot (fun fees => fees) config next := by
  unfold ifSome at set
  split at set
  · obtain ⟨groupIndex, -, same⟩ := bind_eq_ok.mp set
    cases same
    exact .of_fees (fun slot => by cases slot <;> rfl) rfl rfl
  · cases set
    exact .of_fees (fun _ => rfl) rfl rfl

private theorem setBaseFeeBps_edited
    (set : config.ifSome update.newBaseFeeBps (fun config value =>
      config.setBaseFeeBps update.baseGroup value currentEpoch) = .ok next) :
    Edited (config.updatableFees currentEpoch) (editBase update) config next := by
  unfold ifSome at set
  split at set
  · rename_i value given
    obtain ⟨fees', written, same⟩ := bind_eq_ok.mp set
    cases same
    obtain ⟨epoch, groups⟩ := Fees.setBaseFeeBps_eq_ok written
    refine .of_setFees epoch (funext fun group => ?_)
    rw [groups]
    cases group with
    | base index =>
      simp only [editBase, FeeUpdate.applyTo, FeeUpdate.newFee_base, given]
      split <;> rfl
    | ncn index => rfl
  · rename_i absent
    cases set
    refine .of_fees (fun _ => rfl) rfl (funext fun group => ?_)
    cases group with
    | base index => simp [editBase, FeeUpdate.applyTo, FeeUpdate.newFee_base, absent]
    | ncn index => rfl

private theorem setNcnFeeBps_edited
    (set : config.ifSome update.newNcnFeeBps (fun config value =>
      config.setNcnFeeBps update.ncnGroup value currentEpoch) = .ok next) :
    Edited (config.updatableFees currentEpoch) (editNcn update) config next := by
  unfold ifSome at set
  split at set
  · rename_i value given
    obtain ⟨fees', written, same⟩ := bind_eq_ok.mp set
    cases same
    obtain ⟨epoch, groups⟩ := Fees.setNcnFeeBps_eq_ok written
    refine .of_setFees epoch (funext fun group => ?_)
    rw [groups]
    cases group with
    | base index => rfl
    | ncn index =>
      simp only [editNcn, FeeUpdate.applyTo, FeeUpdate.newFee_ncn, given]
      split <;> rfl
  · rename_i absent
    cases set
    refine .of_fees (fun _ => rfl) rfl (funext fun group => ?_)
    cases group with
    | base index => rfl
    | ncn index => simp [editNcn, FeeUpdate.applyTo, FeeUpdate.newFee_ncn, absent]

/-- A new config holds the same table twice. -/
theorem new_cases {daoFeeWallet : Pubkey} {blockEngineFeeBps daoFeeBps defaultNcnFeeBps : ℕ}
    (made : new spl daoFeeWallet blockEngineFeeBps daoFeeBps defaultNcnFeeBps currentEpoch =
      .ok config) :
    Fees.new daoFeeBps defaultNcnFeeBps currentEpoch = .ok config.fee1 ∧
      config.fee1 = config.fee2 ∧ config.blockEngineFeeBps = blockEngineFeeBps ∧
      config.checkFeesOkay spl currentEpoch = .ok () := by
  unfold new at made
  split at made
  · cases made
  split at made
  · cases made
  simp only [setBaseFeeWallet, bind_eq_ok, pure_eq_ok_iff] at made
  obtain ⟨initial, first, _, ⟨groupIndex, -, rfl⟩, ⟨⟩, okay, rfl⟩ := made
  exact ⟨first, rfl, rfl, okay⟩

/-- Everything a successful update does, after the copy it may start with. -/
theorem updateFeeConfig_cases
    (updated : config.updateFeeConfig spl update currentEpoch = .ok next) :
    ∃ copied : FeeConfig, config.copyCurrentFees currentEpoch = .ok copied ∧
      (next.fees (copied.updatableFees currentEpoch)).groupFees =
        update.applyTo (copied.fees (copied.updatableFees currentEpoch)).groupFees ∧
      (next.fees (copied.updatableFees currentEpoch)).activationEpoch = currentEpoch + 1 ∧
      (∀ other ≠ copied.updatableFees currentEpoch, next.fees other = copied.fees other) ∧
      next.blockEngineFeeBps = update.newBlockEngineFeeBps.getD copied.blockEngineFeeBps ∧
      next.checkFeesOkay spl currentEpoch = .ok () ∧
      next.checkFeesOkay spl (currentEpoch + 1) = .ok () := by
  simp only [updateFeeConfig, bind_eq_ok, okOr_eq_ok_iff, checkedAdd_eq_some_iff,
    pure_eq_ok_iff] at updated
  obtain ⟨copied, copy, walleted, setWallet, based, setBase, ncned, setNcn, scheduled, setEpoch,
    ⟨⟩, okayNow, _, ⟨-, rfl⟩, ⟨⟩, okayNext, rfl⟩ := updated
  have wallet := setBaseFeeWallet_edited (copied.updatableFees currentEpoch) setWallet
  have base := setBaseFeeBps_edited setBase
  have ncn := setNcnFeeBps_edited setNcn
  -- no edit moves an activation epoch, so all of them go to one table
  have sameSlot : walleted.updatableFees currentEpoch = copied.updatableFees currentEpoch :=
    updatableFees_congr _ fun slot => (wallet.epochs slot).trans (by rw [fees_setBlockEngine])
  have sameSlot' : based.updatableFees currentEpoch = copied.updatableFees currentEpoch :=
    (updatableFees_congr _ base.epochs).trans sameSlot
  have sameSlot'' : ncned.updatableFees currentEpoch = copied.updatableFees currentEpoch :=
    (updatableFees_congr _ ncn.epochs).trans sameSlot'
  rw [sameSlot] at base
  rw [sameSlot'] at ncn
  have edits := (wallet.trans base).trans ncn
  simp only [updateUpdatableEpoch, bind_eq_ok, okOr_eq_ok_iff, checkedAdd_eq_some_iff,
    pure_eq_ok_iff, sameSlot''] at setEpoch
  obtain ⟨_, ⟨-, rfl⟩, rfl⟩ := setEpoch
  refine ⟨copied, copy, ?groups, ?epoch, ?others, ?blockEngine, okayNow, okayNext⟩
  case groups =>
    rw [fees_setFees_self]
    refine edits.groups.trans ?_
    rw [editNcn_editBase, fees_setBlockEngine]
  case epoch => rw [fees_setFees_self, Fees.setActivationEpoch]
  case others =>
    intro other different
    rw [fees_setFees_ne different, edits.others other different, fees_setBlockEngine]
  case blockEngine => rw [blockEngineFeeBps_setFees, edits.blockEngine]

end FeeConfig

/-! ## What the two tables stand for -/

/-- What a config charges now and from the next epoch on. Either both tables
are active, and only one of them counts, or one of them is waiting. -/
inductive FeeConfig.Scheduled (config : FeeConfig) (epoch : ℕ) : GroupFees → GroupFees → Prop
  | settled (active : ∀ slot, (config.fees slot).activationEpoch ≤ epoch)
      (agree : config.fee1.activationEpoch = config.fee2.activationEpoch →
        config.fee1 = config.fee2) :
      Scheduled config epoch (config.currentFees epoch).groupFees (config.currentFees epoch).groupFees
  | pending (slot other : FeeSlot) (different : other ≠ slot)
      (waiting : (config.fees slot).activationEpoch = epoch + 1)
      (active : (config.fees other).activationEpoch ≤ epoch) :
      Scheduled config epoch (config.fees other).groupFees (config.fees slot).groupFees

namespace FeeConfig
variable {epoch : ℕ} {now soon : GroupFees}

theorem currentFees_of_active (active : ∀ slot, (config.fees slot).activationEpoch ≤ epoch)
    {later : ℕ} (after : epoch ≤ later) : config.currentFees later = config.currentFees epoch := by
  have first := active .fee1
  have second := active .fee2
  simp only [fees] at first second
  unfold currentFees
  split_ifs <;> first | rfl | omega

theorem currentFees_of_waiting (different : other ≠ slot)
    (waiting : (config.fees slot).activationEpoch = epoch + 1)
    (active : (config.fees other).activationEpoch ≤ epoch) :
    config.currentFees epoch = config.fees other ∧
      ∀ later > epoch, config.currentFees later = config.fees slot := by
  unfold currentFees
  cases slot <;> cases other <;> simp only [fees, ne_eq, not_true_eq_false] at * <;>
    refine ⟨by split_ifs <;> first | rfl | omega, fun later after => ?_⟩ <;>
    split_ifs <;> first | rfl | omega

/-- A schedule is what `current_fees` reads from it. -/
theorem Scheduled.currentFees (scheduled : config.Scheduled epoch now soon) :
    (config.currentFees epoch).groupFees = now ∧
      ∀ later > epoch, (config.currentFees later).groupFees = soon := by
  cases scheduled with
  | settled active agree =>
    exact ⟨rfl, fun later after => by rw [currentFees_of_active active after.le]⟩
  | pending slot other different waiting active =>
    obtain ⟨current, following⟩ := currentFees_of_waiting different waiting active
    exact ⟨by rw [current], fun later after => by rw [following later after]⟩

/-- All later epochs are charged alike. -/
theorem Scheduled.currentFees_succ (scheduled : config.Scheduled epoch now soon) {later : ℕ}
    (after : epoch < later) :
    config.currentFees later = config.currentFees (epoch + 1) := by
  cases scheduled with
  | settled active agree =>
    rw [currentFees_of_active active after.le, currentFees_of_active active (Nat.le_succ epoch)]
  | pending slot other different waiting active =>
    obtain ⟨-, following⟩ := currentFees_of_waiting different waiting active
    rw [following later after, following (epoch + 1) (Nat.lt_succ_self epoch)]

/-- In the next epoch the waiting table is the current one. -/
theorem Scheduled.advance (scheduled : config.Scheduled epoch now soon) {later : ℕ}
    (after : epoch < later) :
    config.Scheduled later soon soon := by
  have read := scheduled.currentFees.2 later after
  cases scheduled with
  | settled active agree =>
    rw [← read]
    exact .settled (fun slot => (active slot).trans after.le) agree
  | pending slot other different waiting active =>
    rw [← read]
    refine .settled (fun any => ?_) fun tie => ?_
    · by_cases same : any = slot
      · rw [same, waiting]
        exact after
      · have : any = other := by cases any <;> cases slot <;> cases other <;> simp_all
        rw [this]
        exact active.trans after.le
    · cases slot <;> cases other <;> simp only [fees, ne_eq, not_true_eq_false] at * <;> omega

/-- Before the first change of an epoch both tables become the current one. -/
theorem copyCurrentFees_of_active (active : ∀ slot, (config.fees slot).activationEpoch ≤ epoch)
    (agree : config.fee1.activationEpoch = config.fee2.activationEpoch → config.fee1 = config.fee2)
    (copy : config.copyCurrentFees epoch = .ok next) :
    (∀ slot, next.fees slot = config.currentFees epoch) ∧
      next.blockEngineFeeBps = config.blockEngineFeeBps := by
  have first := active .fee1
  have second := active .fee2
  rw [copyCurrentFees, if_pos (active _)] at copy
  simp only [fees] at first second
  unfold setFeesToCurrent at copy
  split at copy
  · cases copy
  · cases copy
    refine ⟨fun slot => ?_, blockEngineFeeBps_setFees⟩
    by_cases same : slot = config.updatableFees epoch
    · rw [same, fees_setFees_self]
    · rw [fees_setFees_ne same]
      unfold updatableFees at same
      unfold currentFees
      cases slot <;> simp only [fees] <;> split_ifs at same ⊢ <;>
        first | rfl | omega | exact absurd rfl same | exact (agree (by omega)).symm

/-- Within an epoch that has seen a change nothing is copied again. -/
theorem copyCurrentFees_of_waiting (different : other ≠ slot)
    (waiting : (config.fees slot).activationEpoch = epoch + 1)
    (active : (config.fees other).activationEpoch ≤ epoch)
    (copy : config.copyCurrentFees epoch = .ok next) :
    next = config ∧ config.updatableFees epoch = slot := by
  have chosen : config.updatableFees epoch = slot := by
    unfold updatableFees
    cases slot <;> cases other <;> simp only [fees, ne_eq, not_true_eq_false] at * <;>
      split_ifs <;> first | rfl | omega
  rw [copyCurrentFees, chosen, if_neg (by omega)] at copy
  cases copy
  exact ⟨rfl, chosen⟩

/-- The copy that starts an update leaves two different tables: one to change,
and one that is charged meanwhile. -/
theorem Scheduled.copy (scheduled : config.Scheduled epoch now soon)
    (copy : config.copyCurrentFees epoch = .ok next) :
    (next.fees (next.updatableFees epoch)).groupFees = soon ∧
      (∀ other ≠ next.updatableFees epoch,
        (next.fees other).groupFees = now ∧ (next.fees other).activationEpoch ≤ epoch) ∧
      next.blockEngineFeeBps = config.blockEngineFeeBps := by
  cases scheduled with
  | settled active agree =>
    obtain ⟨both, blockEngine⟩ := copyCurrentFees_of_active active agree copy
    have current : (config.currentFees epoch).activationEpoch ≤ epoch := by
      unfold FeeConfig.currentFees
      split_ifs <;> first | exact active .fee1 | exact active .fee2
    exact ⟨by rw [both], fun other _ => by rw [both]; exact ⟨rfl, current⟩, blockEngine⟩
  | pending slot other different waiting active =>
    obtain ⟨rfl, chosen⟩ := copyCurrentFees_of_waiting different waiting active copy
    refine ⟨by rw [chosen], fun another distinct => ?_, rfl⟩
    have same : another = other := by
      rw [chosen] at distinct
      cases another <;> cases slot <;> cases other <;> simp_all
    rw [same]
    exact ⟨rfl, active⟩

/-- An update adds to what is charged from the next epoch on, and to nothing
else. -/
theorem Scheduled.updateFeeConfig (scheduled : config.Scheduled epoch now soon)
    (updated : config.updateFeeConfig spl update epoch = .ok next) :
    next.Scheduled epoch now (update.applyTo soon) := by
  obtain ⟨copied, copy, groups, waiting, others, -⟩ := updateFeeConfig_cases updated
  obtain ⟨changing, charged, -⟩ := scheduled.copy copy
  obtain ⟨other, different⟩ : ∃ other, other ≠ copied.updatableFees epoch := by
    cases copied.updatableFees epoch
    · exact ⟨.fee2, by decide⟩
    · exact ⟨.fee1, by decide⟩
  obtain ⟨unchanged, active⟩ := charged other different
  rw [← others other different] at unchanged active
  rw [← unchanged, ← changing, ← groups]
  exact .pending _ other different waiting active

/-- A new config charges its initial fees from the start. -/
theorem new_scheduled {daoFeeWallet : Pubkey} {blockEngineFeeBps daoFeeBps defaultNcnFeeBps : ℕ}
    (made : new spl daoFeeWallet blockEngineFeeBps daoFeeBps defaultNcnFeeBps epoch = .ok config) :
    config.Scheduled epoch (initialFees daoFeeBps defaultNcnFeeBps)
      (initialFees daoFeeBps defaultNcnFeeBps) := by
  obtain ⟨first, second, -⟩ := new_cases made
  obtain ⟨activation, groups⟩ := Fees.new_eq_ok first
  have current : config.currentFees epoch = config.fee1 := by
    unfold FeeConfig.currentFees
    rw [← second]
    split_ifs <;> rfl
  rw [← groups, ← current]
  refine .settled (fun slot => ?_) fun _ => second
  cases slot
  · exact activation.le
  · rw [fees, ← second]
    exact activation.le

end FeeConfig

/-! ## Whole histories -/

/-- A config with the updates it has seen since its creation. The clock never
goes back, so their epochs do not decrease. -/
inductive FeeHistory (spl : SplMath) (startEpoch : ℕ) (initial : GroupFees) :
    List TimedUpdate → FeeConfig → Prop
  | create {daoFeeWallet : Pubkey} {blockEngineFeeBps daoFeeBps defaultNcnFeeBps : ℕ}
      {config : FeeConfig}
      (made : FeeConfig.new spl daoFeeWallet blockEngineFeeBps daoFeeBps defaultNcnFeeBps
        startEpoch = .ok config)
      (first : initialFees daoFeeBps defaultNcnFeeBps = initial) :
      FeeHistory spl startEpoch initial [] config
  | update {updates : List TimedUpdate} (timed : TimedUpdate) {config next : FeeConfig}
      (history : FeeHistory spl startEpoch initial updates config)
      (begun : startEpoch ≤ timed.epoch)
      (past : ∀ earlier ∈ updates, earlier.epoch ≤ timed.epoch)
      (updated : config.updateFeeConfig spl timed.update timed.epoch = .ok next) :
      FeeHistory spl startEpoch initial (updates ++ [timed]) next

variable {startEpoch : ℕ} {initial : GroupFees} {updates : List TimedUpdate} {timed : TimedUpdate}

private theorem feesAfter_append :
    feesAfter initial (updates ++ [timed]) = timed.update.applyTo (feesAfter initial updates) := by
  simp [feesAfter]

private theorem scheduledFees_of_lt {epoch : ℕ} (past : ∀ timed ∈ updates, timed.epoch < epoch) :
    scheduledFees initial updates epoch = feesAfter initial updates := by
  rw [scheduledFees, List.filter_eq_self.mpr fun timed member => decide_eq_true (past timed member)]

private theorem scheduledFees_append {epoch : ℕ} (now : epoch ≤ timed.epoch) :
    scheduledFees initial (updates ++ [timed]) epoch = scheduledFees initial updates epoch := by
  rw [scheduledFees, List.filter_append, List.filter_singleton, decide_eq_false (by omega)]
  simp [scheduledFees]

/-- In every epoch the two tables stand for the schedule of all updates so far. -/
theorem FeeHistory.scheduled (history : FeeHistory spl startEpoch initial updates config)
    {epoch : ℕ} (begun : startEpoch ≤ epoch) (past : ∀ timed ∈ updates, timed.epoch ≤ epoch) :
    config.Scheduled epoch (scheduledFees initial updates epoch) (feesAfter initial updates) := by
  induction history generalizing epoch with
  | create made first =>
    subst first
    have scheduled := FeeConfig.new_scheduled made
    rcases begun.lt_or_eq with after | rfl
    · exact scheduled.advance after
    · exact scheduled
  | @update updates timed config next history first before updated ih =>
    have scheduled := (ih first before).updateFeeConfig updated
    have latest := past timed (by simp)
    rw [feesAfter_append]
    rcases latest.lt_or_eq with after | rfl
    · rw [scheduledFees_of_lt, feesAfter_append]
      · exact scheduled.advance after
      · intro earlier member
        rcases List.mem_append.mp member with member | member
        · exact (before earlier member).trans_lt after
        · rw [List.mem_singleton.mp member]
          exact after
    · rw [scheduledFees_append le_rfl]
      exact scheduled

/-- What is charged in an epoch is the initial fees with every update of an
earlier epoch applied; the updates of the epoch itself come in with the next
one, all of them. -/
theorem fee_schedule_is_correct (history : FeeHistory spl startEpoch initial updates config)
    {currentEpoch : ℕ} (begun : startEpoch ≤ currentEpoch)
    (past : ∀ timed ∈ updates, timed.epoch ≤ currentEpoch) :
    (config.currentFees currentEpoch).groupFees = scheduledFees initial updates currentEpoch ∧
      ∀ later > currentEpoch,
        (config.currentFees later).groupFees = feesAfter initial updates :=
  (history.scheduled begun past).currentFees

/-- Two updates in one epoch and a third after a pause, on alternating tables. -/
theorem fee_schedule_is_correct_over_three_updates :
    ∃ config : FeeConfig, (config.currentFees 9).groupFees (.base 0) = 500 ∧
      (config.currentFees 9).groupFees (.ncn 1) = 40 ∧
      (config.currentFees 10).groupFees (.base 0) = 700 := by
  have runs : ((FeeConfig.new .u256 ⟨Vector.replicate 32 1⟩ 300 400 0 5).bind fun start =>
      (start.updateFeeConfig .u256 ⟨none, none, none, some 500, none, none⟩ 5).bind fun first =>
      (first.updateFeeConfig .u256 ⟨none, none, none, none, some ⟨1⟩, some 40⟩ 5).bind fun second =>
      second.updateFeeConfig .u256 ⟨none, none, none, some 700, none, none⟩ 9).toOption.any
        (fun _ => true) = true := by decide +kernel
  obtain ⟨config, ran, -⟩ := exists_of_any runs
  obtain ⟨start, made, ran⟩ := bind_eq_ok.mp ran
  obtain ⟨first, update1, ran⟩ := bind_eq_ok.mp ran
  obtain ⟨second, update2, update3⟩ := bind_eq_ok.mp ran
  have history1 := FeeHistory.update ⟨5, _⟩ (.create made rfl) le_rfl (by simp) update1
  have history2 := FeeHistory.update ⟨5, _⟩ history1 le_rfl (by simp) update2
  have history3 := FeeHistory.update ⟨9, _⟩ history2 (by decide) (by simp) update3
  obtain ⟨now, next⟩ := fee_schedule_is_correct history3 (by decide : 5 ≤ 9) (by simp)
  refine ⟨config, ?_, ?_, ?_⟩
  · rw [now]
    decide
  · rw [now]
    decide
  · rw [next 10 (by decide)]
    decide

end TipRouter
