import TipRouter.FeeGroups
import TipRouter.Runs
import TipRouter.Slots

/-! Stake weights, `core/src/stake_weight.rs`: a total used for voting and one
weight for each NCN fee group used for rewards. All nine numbers are `u128`
and always move together, so most statements range over a `Component`. -/
namespace TipRouter
open Runs

structure StakeWeights where
  stakeWeight : ℕ
  ncnFeeGroupStakeWeights : Vector ℕ feeGroupCount
  deriving DecidableEq

namespace StakeWeights

def new (stakeWeight : ℕ) : StakeWeights where
  stakeWeight := stakeWeight
  ncnFeeGroupStakeWeights := Vector.replicate feeGroupCount 0

def default : StakeWeights := new 0

def ncnFeeGroupStakeWeight (self : StakeWeights) (ncnFeeGroup : NcnFeeGroup) :
    Except TipRouterError ℕ := do
  let groupIndex ← ncnFeeGroup.groupIndex
  return self.ncnFeeGroupStakeWeights[groupIndex]

/-- The body `increment_stake_weight` and `decrement_stake_weight` share. -/
def updateStakeWeight (checked : ℕ → ℕ → Option ℕ) (self : StakeWeights) (stakeWeight : ℕ) :
    Except TipRouterError StakeWeights := do
  let updated ← okOr (checked self.stakeWeight stakeWeight) .arithmeticOverflow
  return { self with stakeWeight := updated }

/-- The body `increment_ncn_fee_group_stake_weight` and
`decrement_ncn_fee_group_stake_weight` share. -/
def updateNcnFeeGroupStakeWeight (checked : ℕ → ℕ → Option ℕ) (self : StakeWeights)
    (ncnFeeGroup : NcnFeeGroup) (stakeWeight : ℕ) : Except TipRouterError StakeWeights := do
  let groupIndex ← ncnFeeGroup.groupIndex
  let weight ← self.ncnFeeGroupStakeWeight ncnFeeGroup
  let updated ← okOr (checked weight stakeWeight) .arithmeticOverflow
  return { self with
    ncnFeeGroupStakeWeights := self.ncnFeeGroupStakeWeights.put groupIndex updated }

/-- The body `increment` and `decrement` share. -/
def update (checked : ℕ → ℕ → Option ℕ) (self other : StakeWeights) :
    Except TipRouterError StakeWeights := do
  let self ← self.updateStakeWeight checked other.stakeWeight
  NcnFeeGroup.allGroups.foldlM (fun self group => do
    let stakeWeight ← other.ncnFeeGroupStakeWeight group
    self.updateNcnFeeGroupStakeWeight checked group stakeWeight) self

def incrementStakeWeight : StakeWeights → ℕ → Except TipRouterError StakeWeights :=
  updateStakeWeight (checkedAdd 128)

def incrementNcnFeeGroupStakeWeight :
    StakeWeights → NcnFeeGroup → ℕ → Except TipRouterError StakeWeights :=
  updateNcnFeeGroupStakeWeight (checkedAdd 128)

def increment : StakeWeights → StakeWeights → Except TipRouterError StakeWeights :=
  update (checkedAdd 128)

def decrement : StakeWeights → StakeWeights → Except TipRouterError StakeWeights :=
  update checkedSub

def snapshot (ncnFeeGroup : NcnFeeGroup) (stakeWeight rewardMultiplierBps : ℕ) :
    Except TipRouterError StakeWeights := do
  let rewardStakeWeight ← okOr (checkedMul 128 rewardMultiplierBps stakeWeight) .arithmeticOverflow
  let stakeWeights ← default.incrementStakeWeight stakeWeight
  stakeWeights.incrementNcnFeeGroupStakeWeight ncnFeeGroup rewardStakeWeight

/-! ## Components -/

/-- One of the nine numbers. -/
inductive Component where
  | total
  | group (index : Fin feeGroupCount)
  deriving DecidableEq

/-- The value of one component. -/
def get (self : StakeWeights) : Component → ℕ
  | .total => self.stakeWeight
  | .group index => self.ncnFeeGroupStakeWeights[index]

/-- Every component is a `u128`. -/
def Fits (self : StakeWeights) : Prop := ∀ component, self.get component < 2 ^ 128

@[simp] theorem get_total (self : StakeWeights) : self.get .total = self.stakeWeight := rfl

@[simp] theorem get_group (self : StakeWeights) (index : Fin feeGroupCount) :
    self.get (.group index) = self.ncnFeeGroupStakeWeights[index] := rfl

@[simp] theorem default_get (component : Component) : default.get component = 0 := by
  cases component with
  | total => rfl
  | group index => exact Vector.getElem_replicate _

@[simp] theorem ncnFeeGroupStakeWeight_ofIndex (self : StakeWeights) (index : Fin feeGroupCount) :
    self.ncnFeeGroupStakeWeight (.ofIndex index) = .ok (self.get (.group index)) := by
  simp [ncnFeeGroupStakeWeight, pure, Except.pure]

private theorem updateNcnFeeGroupStakeWeight_ofIndex {checked : ℕ → ℕ → Option ℕ}
    {self result : StakeWeights} {index : Fin feeGroupCount} {stakeWeight : ℕ} :
    self.updateNcnFeeGroupStakeWeight checked (.ofIndex index) stakeWeight = .ok result ↔
      ∃ updated, checked (self.get (.group index)) stakeWeight = some updated ∧
        { self with
          ncnFeeGroupStakeWeights := self.ncnFeeGroupStakeWeights.put index updated } = result := by
  simp only [updateNcnFeeGroupStakeWeight, NcnFeeGroup.groupIndex_ofIndex, ok_bind,
    ncnFeeGroupStakeWeight_ofIndex, bind_eq_ok, okOr_eq_ok_iff, pure_eq_ok_iff]

/-- Visiting distinct groups updates exactly those groups. -/
private theorem update_groups {checked : ℕ → ℕ → Option ℕ} {other : StakeWeights}
    (groups : List (Fin feeGroupCount)) (distinct : groups.Nodup) {self result : StakeWeights}
    (updated : groups.foldlM (fun self index => do
      let stakeWeight ← other.ncnFeeGroupStakeWeight (.ofIndex index)
      self.updateNcnFeeGroupStakeWeight checked (.ofIndex index) stakeWeight) self = .ok result) :
    result.stakeWeight = self.stakeWeight ∧
      (∀ index ∈ groups, checked (self.get (.group index)) (other.get (.group index)) =
        some (result.get (.group index))) ∧
      ∀ index ∉ groups, result.get (.group index) = self.get (.group index) := by
  induction groups generalizing self with
  | nil =>
    cases updated
    simp
  | cons first rest ih =>
    obtain ⟨fresh, restDistinct⟩ := List.nodup_cons.mp distinct
    simp only [List.foldlM_cons, ncnFeeGroupStakeWeight_ofIndex, ok_bind] at updated
    obtain ⟨middle, step, remaining⟩ := bind_eq_ok.mp updated
    obtain ⟨value, computed, rfl⟩ := updateNcnFeeGroupStakeWeight_ofIndex.mp step
    obtain ⟨total, visited, others⟩ := ih restDistinct (by
      simpa only [ncnFeeGroupStakeWeight_ofIndex, ok_bind] using remaining)
    refine ⟨total, ?_, ?_⟩
    · intro index member
      rcases List.mem_cons.mp member with rfl | member
      · rw [others index fresh, computed, get_group, Slots.getElem_put_self]
      · have different : first ≠ index := fun same => fresh (same ▸ member)
        have seen := visited index member
        rwa [get_group, Slots.getElem_put_ne _ _ different] at seen
    · intro index absent
      have different : first ≠ index := fun same => absent (same ▸ List.mem_cons_self)
      rw [others index fun member => absent (List.mem_cons_of_mem _ member), get_group, get_group,
        Slots.getElem_put_ne _ _ different]

/-- Visiting distinct groups succeeds when the checked operation does on each. -/
private theorem exists_update_groups {checked : ℕ → ℕ → Option ℕ} {other : StakeWeights}
    (groups : List (Fin feeGroupCount)) (distinct : groups.Nodup) {self : StakeWeights}
    (allowed : ∀ index ∈ groups, ∃ updated,
      checked (self.get (.group index)) (other.get (.group index)) = some updated) :
    ∃ result, groups.foldlM (fun self index => do
      let stakeWeight ← other.ncnFeeGroupStakeWeight (.ofIndex index)
      self.updateNcnFeeGroupStakeWeight checked (.ofIndex index) stakeWeight) self = .ok result := by
  induction groups generalizing self with
  | nil => exact ⟨self, rfl⟩
  | cons first rest ih =>
    obtain ⟨fresh, restDistinct⟩ := List.nodup_cons.mp distinct
    obtain ⟨updated, computed⟩ := allowed first List.mem_cons_self
    have step := updateNcnFeeGroupStakeWeight_ofIndex.mpr ⟨updated, computed, rfl⟩
    obtain ⟨result, remaining⟩ := @ih restDistinct { self with
        ncnFeeGroupStakeWeights := self.ncnFeeGroupStakeWeights.put first updated }
        fun index member => by
      have different : first ≠ index := fun same => fresh (same ▸ member)
      rw [get_group, Slots.getElem_put_ne _ _ different]
      exact allowed index (List.mem_cons_of_mem _ member)
    refine ⟨result, ?_⟩
    rw [List.foldlM_cons, ncnFeeGroupStakeWeight_ofIndex, ok_bind, step, ok_bind]
    exact remaining

/-- A successful update applies the checked operation to every component. -/
theorem update_eq_ok {checked : ℕ → ℕ → Option ℕ} {self other result : StakeWeights}
    (updated : self.update checked other = .ok result) (component : Component) :
    checked (self.get component) (other.get component) = some (result.get component) := by
  simp only [update, updateStakeWeight, bind_eq_ok, okOr_eq_ok_iff, pure_eq_ok_iff,
    NcnFeeGroup.allGroups_eq, List.foldlM_map] at updated
  obtain ⟨middle, ⟨sum, computed, rfl⟩, groups⟩ := updated
  obtain ⟨total, visited, -⟩ := update_groups _ (List.nodup_finRange _) groups
  cases component with
  | total => rw [get_total, get_total, get_total, total, computed]
  | group index => exact visited index (List.mem_finRange index)

theorem exists_update {checked : ℕ → ℕ → Option ℕ} {self other : StakeWeights}
    (allowed : ∀ component, ∃ updated,
      checked (self.get component) (other.get component) = some updated) :
    ∃ result, self.update checked other = .ok result := by
  obtain ⟨total, computed⟩ := allowed .total
  have others : ∀ index ∈ List.finRange feeGroupCount, ∃ updated,
      checked (StakeWeights.get { self with stakeWeight := total } (.group index))
        (other.get (.group index)) = some updated := fun index _ => allowed (.group index)
  obtain ⟨result, groups⟩ := exists_update_groups _ (List.nodup_finRange _) others
  refine ⟨result, ?_⟩
  simp only [get_total] at computed
  simp only [update, updateStakeWeight, computed, okOr_some, ok_bind, NcnFeeGroup.allGroups_eq,
    List.foldlM_map]
  exact groups

theorem exists_increment {self other : StakeWeights}
    (fits : ∀ component, self.get component + other.get component < 2 ^ 128) :
    ∃ result, self.increment other = .ok result :=
  exists_update fun component => ⟨_, checkedAdd_of_lt (fits component)⟩

theorem exists_decrement {self other : StakeWeights}
    (covered : ∀ component, other.get component ≤ self.get component) :
    ∃ result, self.decrement other = .ok result :=
  exists_update fun component => ⟨_, checkedSub_of_le (covered component)⟩

theorem increment_get {self other result : StakeWeights} (added : self.increment other = .ok result)
    (component : Component) :
    result.get component = self.get component + other.get component ∧
      result.get component < 2 ^ 128 := by
  have checked := update_eq_ok added component
  rw [checkedAdd_eq_some_iff] at checked
  omega

theorem decrement_get {self other result : StakeWeights}
    (removed : self.decrement other = .ok result) (component : Component) :
    result.get component + other.get component = self.get component := by
  have checked := update_eq_ok removed component
  rw [checkedSub_eq_some_iff] at checked
  omega

end StakeWeights

end TipRouter
