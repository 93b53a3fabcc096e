import TipRouter.Core
import Mathlib.Data.List.FinRange
import Mathlib.Data.Fintype.Basic
import Mathlib.Tactic.FinCases

/-! The two families of eight fee groups, `core/src/ncn_fee_group.rs` and
`core/src/base_fee_group.rs`. A group is a `u8` that may name no group at all;
`group_index` is where that is found out. -/
namespace TipRouter

/-- A lookup that finds the numbers below a bound where they are, and no others. -/
theorem lookup_eq_ok_iff {ε : Type} {n group : ℕ} {index : Fin n} (lookup : ℕ → Except ε (Fin n))
    (known : ∀ index : Fin n, lookup index = .ok index)
    (unknown : ∀ more index, lookup (more + n) ≠ .ok index) :
    lookup group = .ok index ↔ group = index := by
  constructor
  · intro found
    by_cases valid : group < n
    · have same := Except.ok.inj ((known ⟨group, valid⟩).symm.trans found)
      rw [← same]
    · obtain ⟨more, rfl⟩ := Nat.exists_eq_add_of_le' (Nat.le_of_not_lt valid)
      exact absurd found (unknown more index)
  · rintro rfl
    exact known index

/-! ## NCN fee groups -/

inductive NcnFeeGroupType where
  | default | jto | reserved2 | reserved3 | reserved4 | reserved5 | reserved6 | reserved7
  deriving DecidableEq, Repr

/-- The discriminant, `group as u8` and `group as usize` alike. -/
def NcnFeeGroupType.discriminant : NcnFeeGroupType → Fin feeGroupCount
  | .default => 0
  | .jto => 1
  | .reserved2 => 2
  | .reserved3 => 3
  | .reserved4 => 4
  | .reserved5 => 5
  | .reserved6 => 6
  | .reserved7 => 7

structure NcnFeeGroup where
  group : ℕ
  deriving DecidableEq, Repr

namespace NcnFeeGroup

def new (group : NcnFeeGroupType) : NcnFeeGroup := ⟨group.discriminant⟩

def default : NcnFeeGroup := new .default

def tryFrom : ℕ → Except TipRouterError NcnFeeGroup
  | 0x0 => .ok (new .default)
  | 0x1 => .ok (new .jto)
  | 0x2 => .ok (new .reserved2)
  | 0x3 => .ok (new .reserved3)
  | 0x4 => .ok (new .reserved4)
  | 0x5 => .ok (new .reserved5)
  | 0x6 => .ok (new .reserved6)
  | 0x7 => .ok (new .reserved7)
  | _ => .error .invalidNcnFeeGroup

def groupType (self : NcnFeeGroup) : Except TipRouterError NcnFeeGroupType :=
  match self.group with
  | 0x0 => .ok .default
  | 0x1 => .ok .jto
  | 0x2 => .ok .reserved2
  | 0x3 => .ok .reserved3
  | 0x4 => .ok .reserved4
  | 0x5 => .ok .reserved5
  | 0x6 => .ok .reserved6
  | 0x7 => .ok .reserved7
  | _ => .error .invalidNcnFeeGroup

def groupIndex (self : NcnFeeGroup) : Except TipRouterError (Fin feeGroupCount) := do
  let group ← self.groupType
  return group.discriminant

def allGroups : List NcnFeeGroup :=
  [new .default, new .jto, new .reserved2, new .reserved3, new .reserved4, new .reserved5,
    new .reserved6, new .reserved7]

/-- The valid group at an index. -/
def ofIndex (index : Fin feeGroupCount) : NcnFeeGroup := ⟨index⟩

@[simp] theorem groupIndex_ofIndex (index : Fin feeGroupCount) :
    (ofIndex index).groupIndex = .ok index := by
  fin_cases index <;> rfl

@[simp] theorem tryFrom_val (index : Fin feeGroupCount) : tryFrom index.val = .ok (ofIndex index) := by
  fin_cases index <;> rfl

/-- Only the eight valid groups have an index. -/
theorem groupIndex_eq_ok_iff {self : NcnFeeGroup} {index : Fin feeGroupCount} :
    self.groupIndex = .ok index ↔ self = ofIndex index := by
  obtain ⟨group⟩ := self
  rw [ofIndex, mk.injEq]
  exact lookup_eq_ok_iff (fun group => groupIndex ⟨group⟩) groupIndex_ofIndex nofun

theorem allGroups_eq : allGroups = (List.finRange feeGroupCount).map ofIndex := by decide

theorem allGroups_zipIdx :
    allGroups.zipIdx = (List.finRange feeGroupCount).map fun index => (ofIndex index, index.val) := by
  decide

theorem tryFrom_eq_ok {group : ℕ} {result : NcnFeeGroup} (parsed : tryFrom group = .ok result) :
    ∃ index, result = ofIndex index := by
  unfold tryFrom at parsed
  split at parsed <;> cases parsed <;> exact ⟨_, rfl⟩

end NcnFeeGroup

/-! ## Base fee groups -/

inductive BaseFeeGroupType where
  | dao | reserved1 | reserved2 | reserved3 | reserved4 | reserved5 | reserved6 | reserved7
  deriving DecidableEq, Repr

/-- The discriminant, `group as u8` and `group as usize` alike. -/
def BaseFeeGroupType.discriminant : BaseFeeGroupType → Fin feeGroupCount
  | .dao => 0
  | .reserved1 => 1
  | .reserved2 => 2
  | .reserved3 => 3
  | .reserved4 => 4
  | .reserved5 => 5
  | .reserved6 => 6
  | .reserved7 => 7

structure BaseFeeGroup where
  group : ℕ
  deriving DecidableEq, Repr

namespace BaseFeeGroup

def new (group : BaseFeeGroupType) : BaseFeeGroup := ⟨group.discriminant⟩

def default : BaseFeeGroup := new .dao

def dao : BaseFeeGroup := new .dao

def tryFrom : ℕ → Except TipRouterError BaseFeeGroup
  | 0x0 => .ok (new .dao)
  | 0x1 => .ok (new .reserved1)
  | 0x2 => .ok (new .reserved2)
  | 0x3 => .ok (new .reserved3)
  | 0x4 => .ok (new .reserved4)
  | 0x5 => .ok (new .reserved5)
  | 0x6 => .ok (new .reserved6)
  | 0x7 => .ok (new .reserved7)
  | _ => .error .invalidBaseFeeGroup

/-- An unknown group is reported as an NCN group here, unlike in `try_from`. -/
def groupType (self : BaseFeeGroup) : Except TipRouterError BaseFeeGroupType :=
  match self.group with
  | 0x0 => .ok .dao
  | 0x1 => .ok .reserved1
  | 0x2 => .ok .reserved2
  | 0x3 => .ok .reserved3
  | 0x4 => .ok .reserved4
  | 0x5 => .ok .reserved5
  | 0x6 => .ok .reserved6
  | 0x7 => .ok .reserved7
  | _ => .error .invalidNcnFeeGroup

def groupIndex (self : BaseFeeGroup) : Except TipRouterError (Fin feeGroupCount) := do
  let group ← self.groupType
  return group.discriminant

def allGroups : List BaseFeeGroup :=
  [new .dao, new .reserved1, new .reserved2, new .reserved3, new .reserved4, new .reserved5,
    new .reserved6, new .reserved7]

/-- The valid group at an index. -/
def ofIndex (index : Fin feeGroupCount) : BaseFeeGroup := ⟨index⟩

@[simp] theorem groupIndex_ofIndex (index : Fin feeGroupCount) :
    (ofIndex index).groupIndex = .ok index := by
  fin_cases index <;> rfl

/-- Only the eight valid groups have an index. -/
theorem groupIndex_eq_ok_iff {self : BaseFeeGroup} {index : Fin feeGroupCount} :
    self.groupIndex = .ok index ↔ self = ofIndex index := by
  obtain ⟨group⟩ := self
  rw [ofIndex, mk.injEq]
  exact lookup_eq_ok_iff (fun group => groupIndex ⟨group⟩) groupIndex_ofIndex nofun

theorem allGroups_eq : allGroups = (List.finRange feeGroupCount).map ofIndex := by decide

theorem dao_eq : dao = ofIndex 0 := rfl

end BaseFeeGroup

end TipRouter
