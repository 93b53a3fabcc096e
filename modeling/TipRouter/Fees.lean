import TipRouter.FeeGroups
import TipRouter.PreciseNumber
import TipRouter.Slots

/-! Fees, `core/src/fees.rs`: sixteen group fees with the epoch they become
active, and the config that keeps two of these tables so that one can be
updated while the other one is charged. -/
namespace TipRouter
open Runs

/-! ## One table of fees -/

/-- `Fees`: an activation epoch and one fee in basis points for each group. -/
structure Fees where
  activationEpoch : ℕ
  baseFeeGroupsBps : Vector ℕ feeGroupCount
  ncnFeeGroupsBps : Vector ℕ feeGroupCount
  deriving DecidableEq

namespace Fees

def setBaseFeeBps (self : Fees) (baseFeeGroup : BaseFeeGroup) (value : ℕ) :
    Except TipRouterError Fees :=
  if maxFeeBps < value then .error .feeCapExceeded
  else do
    let groupIndex ← baseFeeGroup.groupIndex
    return { self with baseFeeGroupsBps := self.baseFeeGroupsBps.put groupIndex value }

def setNcnFeeBps (self : Fees) (ncnFeeGroup : NcnFeeGroup) (value : ℕ) :
    Except TipRouterError Fees :=
  if maxFeeBps < value then .error .feeCapExceeded
  else do
    let groupIndex ← ncnFeeGroup.groupIndex
    return { self with ncnFeeGroupsBps := self.ncnFeeGroupsBps.put groupIndex value }

def new (daoFeeBps defaultNcnFeeBps epoch : ℕ) : Except TipRouterError Fees := do
  let fees : Fees := {
    activationEpoch := epoch
    baseFeeGroupsBps := Vector.replicate feeGroupCount 0
    ncnFeeGroupsBps := Vector.replicate feeGroupCount 0 }
  let fees ← fees.setBaseFeeBps .default daoFeeBps
  fees.setNcnFeeBps .default defaultNcnFeeBps

def baseFeeBps (self : Fees) (baseFeeGroup : BaseFeeGroup) : Except TipRouterError ℕ := do
  let groupIndex ← baseFeeGroup.groupIndex
  return self.baseFeeGroupsBps[groupIndex]

def ncnFeeBps (self : Fees) (ncnFeeGroup : NcnFeeGroup) : Except TipRouterError ℕ := do
  let groupIndex ← ncnFeeGroup.groupIndex
  return self.ncnFeeGroupsBps[groupIndex]

/-- The sum of all sixteen fees, one group after the other. -/
def totalFeesBps (self : Fees) : Except TipRouterError ℕ := do
  let totalFeeBps ← BaseFeeGroup.allGroups.foldlM (fun totalFeeBps group => do
    let baseFeeBps ← self.baseFeeBps group
    okOr (checkedAdd 64 totalFeeBps baseFeeBps) .arithmeticOverflow) 0
  NcnFeeGroup.allGroups.foldlM (fun totalFeeBps group => do
    let ncnFeeBps ← self.ncnFeeBps group
    okOr (checkedAdd 64 totalFeeBps ncnFeeBps) .arithmeticOverflow) totalFeeBps

def setActivationEpoch (self : Fees) (value : ℕ) : Fees := { self with activationEpoch := value }

/-- All sixteen fees together. -/
def total (self : Fees) : ℕ :=
  Slots.total (fun fee => fee) self.baseFeeGroupsBps +
    Slots.total (fun fee => fee) self.ncnFeeGroupsBps

@[simp] theorem baseFeeBps_ofIndex (self : Fees) (index : Fin feeGroupCount) :
    self.baseFeeBps (.ofIndex index) = .ok self.baseFeeGroupsBps[index] := by
  simp [baseFeeBps, pure, Except.pure]

@[simp] theorem ncnFeeBps_ofIndex (self : Fees) (index : Fin feeGroupCount) :
    self.ncnFeeBps (.ofIndex index) = .ok self.ncnFeeGroupsBps[index] := by
  simp [ncnFeeBps, pure, Except.pure]

private theorem foldlM_checkedAdd {fee : Fin feeGroupCount → ℕ} (groups : List (Fin feeGroupCount))
    {start result : ℕ} :
    groups.foldlM (fun total index =>
      okOr (checkedAdd 64 total (fee index)) TipRouterError.arithmeticOverflow) start = .ok result →
      result = start + (groups.map fee).sum := by
  induction groups generalizing start with
  | nil =>
    intro folded
    cases folded
    simp
  | cons index rest ih =>
    intro folded
    rw [List.foldlM_cons, bind_eq_ok] at folded
    obtain ⟨middle, added, remaining⟩ := folded
    rw [okOr_eq_ok_iff, checkedAdd_eq_some_iff] at added
    rw [ih remaining, ← added.2, List.map_cons, List.sum_cons, Nat.add_assoc]

theorem totalFeesBps_eq_ok {self : Fees} {result : ℕ} (summed : self.totalFeesBps = .ok result) :
    result = self.total := by
  simp only [totalFeesBps, BaseFeeGroup.allGroups_eq, NcnFeeGroup.allGroups_eq, List.foldlM_map,
    baseFeeBps_ofIndex, ncnFeeBps_ofIndex, ok_bind] at summed
  obtain ⟨base, baseSum, ncnSum⟩ := bind_eq_ok.mp summed
  rw [foldlM_checkedAdd _ ncnSum, foldlM_checkedAdd _ baseSum, total, Slots.total, Slots.total,
    Fin.sum_univ_def, Fin.sum_univ_def, Nat.zero_add]

/-- The sum is a `u64` whenever it fits one. -/
theorem totalFeesBps_of_lt {self : Fees} (fits : self.total < 2 ^ 64) :
    self.totalFeesBps = .ok self.total := by
  have folded : ∀ (fee : Fin feeGroupCount → ℕ) (groups : List (Fin feeGroupCount)) (start : ℕ),
      start + (groups.map fee).sum < 2 ^ 64 →
      groups.foldlM (fun total index =>
        okOr (checkedAdd 64 total (fee index)) TipRouterError.arithmeticOverflow) start =
          .ok (start + (groups.map fee).sum) := by
    intro fee groups
    induction groups with
    | nil => exact fun start _ => rfl
    | cons index rest ih =>
      intro start small
      rw [List.map_cons, List.sum_cons] at small ⊢
      rw [List.foldlM_cons, checkedAdd_of_lt (by omega), okOr_some, ok_bind, ih _ (by omega),
        Nat.add_assoc]
  simp only [total, Slots.total, Fin.sum_univ_def] at fits ⊢
  simp only [totalFeesBps, BaseFeeGroup.allGroups_eq, NcnFeeGroup.allGroups_eq, List.foldlM_map,
    baseFeeBps_ofIndex, ncnFeeBps_ofIndex, ok_bind]
  rw [folded _ _ 0 (by omega), ok_bind, folded _ _ _ (by omega), Nat.zero_add]

end Fees

/-! ## The config with its two tables -/

/-- Which of the two tables of a config. -/
inductive FeeSlot where
  | fee1 | fee2
  deriving DecidableEq

structure FeeConfig where
  blockEngineFeeBps : ℕ
  baseFeeWallets : Vector Pubkey feeGroupCount
  fee1 : Fees
  fee2 : Fees
  deriving DecidableEq

namespace FeeConfig

def fees (self : FeeConfig) : FeeSlot → Fees
  | .fee1 => self.fee1
  | .fee2 => self.fee2

def setFees (self : FeeConfig) (slot : FeeSlot) (fees : Fees) : FeeConfig :=
  match slot with
  | .fee1 => { self with fee1 := fees }
  | .fee2 => { self with fee2 := fees }

def currentFees (self : FeeConfig) (currentEpoch : ℕ) : Fees :=
  if self.fee1.activationEpoch > currentEpoch then self.fee2
  else if self.fee2.activationEpoch > currentEpoch then self.fee1
  else if self.fee1.activationEpoch ≥ self.fee2.activationEpoch then self.fee1
  else self.fee2

/-- `updatable_fees`, the table the returned reference points to. -/
def updatableFees (self : FeeConfig) (currentEpoch : ℕ) : FeeSlot :=
  if self.fee1.activationEpoch > currentEpoch then .fee1
  else if self.fee2.activationEpoch > currentEpoch then .fee2
  else if self.fee1.activationEpoch ≤ self.fee2.activationEpoch then .fee1
  else .fee2

def updateUpdatableEpoch (self : FeeConfig) (currentEpoch : ℕ) :
    Except TipRouterError FeeConfig := do
  let nextEpoch ← okOr (checkedAdd 64 currentEpoch 1) .arithmeticOverflow
  let slot := self.updatableFees currentEpoch
  return self.setFees slot ((self.fees slot).setActivationEpoch nextEpoch)

def totalFeesBps (self : FeeConfig) (currentEpoch : ℕ) : Except TipRouterError ℕ :=
  (self.currentFees currentEpoch).totalFeesBps

def adjustedFeeBps (self : FeeConfig) (fee : ℕ) : Except TipRouterError ℕ := do
  let remainingBps ← okOr (checkedSub maxFeeBps self.blockEngineFeeBps) .arithmeticUnderflowError
  okOr ((checkedMul 64 fee maxFeeBps).bind fun x => checkedDiv x remainingBps) .denominatorIsZero

def adjustedTotalFeesBps (self : FeeConfig) (currentEpoch : ℕ) : Except TipRouterError ℕ := do
  let totalFeesBps ← self.totalFeesBps currentEpoch
  let fee ← okOr (tryFrom 16 totalFeesBps) .arithmeticOverflow
  self.adjustedFeeBps fee

def adjustedPreciseFeeBps (spl : SplMath) (self : FeeConfig) (fee : ℕ) :
    Except TipRouterError spl.PreciseNumber := do
  let remainingBps ← okOr (checkedSub maxFeeBps self.blockEngineFeeBps) .arithmeticOverflow
  let preciseRemainingBps ← okOr (spl.new remainingBps) .newPreciseNumberError
  let adjustedFee ← okOr (checkedMul 64 fee maxFeeBps) .arithmeticOverflow
  let preciseAdjustedFee ← okOr (spl.new adjustedFee) .newPreciseNumberError
  okOr (spl.checkedDiv preciseAdjustedFee preciseRemainingBps) .denominatorIsZero

def adjustedPreciseBaseFeeBps (spl : SplMath) (self : FeeConfig) (baseFeeGroup : BaseFeeGroup)
    (currentEpoch : ℕ) : Except TipRouterError spl.PreciseNumber := do
  let fee ← (self.currentFees currentEpoch).baseFeeBps baseFeeGroup
  self.adjustedPreciseFeeBps spl fee

def adjustedPreciseNcnFeeBps (spl : SplMath) (self : FeeConfig) (ncnFeeGroup : NcnFeeGroup)
    (currentEpoch : ℕ) : Except TipRouterError spl.PreciseNumber := do
  let fee ← (self.currentFees currentEpoch).ncnFeeBps ncnFeeGroup
  self.adjustedPreciseFeeBps spl fee

/-- The adjusted fees are only computed to see that they can be; the cap is on
the unadjusted total. -/
def checkFeesOkay (spl : SplMath) (self : FeeConfig) (currentEpoch : ℕ) :
    Except TipRouterError Unit :=
  if maxFeeBps < self.blockEngineFeeBps then .error .feeCapExceeded
  else do
    for group in BaseFeeGroup.allGroups do
      let _ ← self.adjustedPreciseBaseFeeBps spl group currentEpoch
    for group in NcnFeeGroup.allGroups do
      let _ ← self.adjustedPreciseNcnFeeBps spl group currentEpoch
    let totalFeesBps ← self.totalFeesBps currentEpoch
    if maxFeeBps < totalFeesBps then .error .feeCapExceeded
    else if totalFeesBps = 0 then .error .totalFeesCannotBeZero
    else return ()

def baseFeeWallet (self : FeeConfig) (baseFeeGroup : BaseFeeGroup) : Except TipRouterError Pubkey := do
  let groupIndex ← baseFeeGroup.groupIndex
  return self.baseFeeWallets[groupIndex]

def setBaseFeeWallet (self : FeeConfig) (baseFeeGroup : BaseFeeGroup) (wallet : Pubkey) :
    Except TipRouterError FeeConfig := do
  let groupIndex ← baseFeeGroup.groupIndex
  return { self with baseFeeWallets := self.baseFeeWallets.put groupIndex wallet }

def setBaseFeeBps (self : FeeConfig) (baseFeeGroup : BaseFeeGroup) (value currentEpoch : ℕ) :
    Except TipRouterError FeeConfig := do
  let slot := self.updatableFees currentEpoch
  let fees ← (self.fees slot).setBaseFeeBps baseFeeGroup value
  return self.setFees slot fees

def setNcnFeeBps (self : FeeConfig) (ncnFeeGroup : NcnFeeGroup) (value currentEpoch : ℕ) :
    Except TipRouterError FeeConfig := do
  let slot := self.updatableFees currentEpoch
  let fees ← (self.fees slot).setNcnFeeBps ncnFeeGroup value
  return self.setFees slot fees

def new (spl : SplMath) (daoFeeWallet : Pubkey)
    (blockEngineFeeBps daoFeeBps defaultNcnFeeBps currentEpoch : ℕ) :
    Except TipRouterError FeeConfig :=
  if daoFeeWallet = .default then .error .defaultDaoWallet
  else if maxFeeBps < blockEngineFeeBps then .error .feeCapExceeded
  else do
    let fee ← Fees.new daoFeeBps defaultNcnFeeBps currentEpoch
    let feeConfig : FeeConfig := {
      blockEngineFeeBps := blockEngineFeeBps
      baseFeeWallets := Vector.replicate feeGroupCount daoFeeWallet
      fee1 := fee
      fee2 := fee }
    let feeConfig ← feeConfig.setBaseFeeWallet .default daoFeeWallet
    let _ ← feeConfig.checkFeesOkay spl currentEpoch
    return feeConfig

def setFeesToCurrent (self : FeeConfig) (currentEpoch : ℕ) : Except TipRouterError FeeConfig :=
  if self.fee1.activationEpoch > currentEpoch || self.fee2.activationEpoch > currentEpoch then
    .error .feeNotActive
  else
    let clonedCurrentFees := self.currentFees currentEpoch
    .ok (self.setFees (self.updatableFees currentEpoch) clonedCurrentFees)

end FeeConfig

/-- The optional arguments of `update_fee_config`. -/
structure FeeUpdate where
  newBlockEngineFeeBps : Option ℕ
  baseFeeGroup : Option BaseFeeGroup
  newBaseFeeWallet : Option Pubkey
  newBaseFeeBps : Option ℕ
  ncnFeeGroup : Option NcnFeeGroup
  newNcnFeeBps : Option ℕ
  deriving DecidableEq

/-- `unwrap_or_default` on the two groups. -/
def FeeUpdate.baseGroup (self : FeeUpdate) : BaseFeeGroup := self.baseFeeGroup.getD .default

def FeeUpdate.ncnGroup (self : FeeUpdate) : NcnFeeGroup := self.ncnFeeGroup.getD .default

namespace FeeConfig

/-- The first block of `update_fee_config`: the current fees are copied over
once, before the first change of an epoch. -/
def copyCurrentFees (self : FeeConfig) (currentEpoch : ℕ) : Except TipRouterError FeeConfig :=
  if (self.fees (self.updatableFees currentEpoch)).activationEpoch ≤ currentEpoch then
    self.setFeesToCurrent currentEpoch
  else .ok self

/-- `if let Some(value) = value { self.set(value)?; }`. -/
def ifSome {α : Type} (self : FeeConfig) (value : Option α)
    (set : FeeConfig → α → Except TipRouterError FeeConfig) : Except TipRouterError FeeConfig :=
  match value with
  | some value => set self value
  | none => .ok self

def updateFeeConfig (spl : SplMath) (self : FeeConfig) (update : FeeUpdate) (currentEpoch : ℕ) :
    Except TipRouterError FeeConfig := do
  let self ← self.copyCurrentFees currentEpoch
  let self := { self with
    blockEngineFeeBps := update.newBlockEngineFeeBps.getD self.blockEngineFeeBps }
  let self ← self.ifSome update.newBaseFeeWallet fun self newBaseFeeWallet =>
    self.setBaseFeeWallet update.baseGroup newBaseFeeWallet
  let self ← self.ifSome update.newBaseFeeBps fun self newBaseFeeBps =>
    self.setBaseFeeBps update.baseGroup newBaseFeeBps currentEpoch
  let self ← self.ifSome update.newNcnFeeBps fun self newNcnFeeBps =>
    self.setNcnFeeBps update.ncnGroup newNcnFeeBps currentEpoch
  let self ← self.updateUpdatableEpoch currentEpoch
  let _ ← self.checkFeesOkay spl currentEpoch
  let nextEpoch ← okOr (checkedAdd 64 currentEpoch 1) .arithmeticOverflow
  let _ ← self.checkFeesOkay spl nextEpoch
  return self

end FeeConfig

/-- 3% for the DAO and 7% for the first NCN group. -/
def Fees.sample : Fees where
  activationEpoch := 0
  baseFeeGroupsBps := Vector.ofFn fun group => if group = 0 then 300 else 0
  ncnFeeGroupsBps := Vector.ofFn fun group => if group = 0 then 700 else 0

def sampleWallet : Pubkey := ⟨Vector.replicate 32 6⟩

/-- With 3% for the block engine and all fees to one wallet. -/
def FeeConfig.sample : FeeConfig := ⟨300, Vector.replicate _ sampleWallet, .sample, .sample⟩

example : FeeConfig.new .u256 sampleWallet 300 300 700 0 = .ok .sample := by decide +kernel

end TipRouter
