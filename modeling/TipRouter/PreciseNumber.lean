import TipRouter.Core
import TipRouter.Runs
import TipRouter.FixedPoint

/-! `spl_math::precise_number::PreciseNumber`. The package is not part of this
repository, so its operations are a parameter of every function that calls
them, and what the program relies on is one named hypothesis: the numbers are
12-digit fixed point in a 256-bit unsigned integer. -/
namespace TipRouter
open Runs

/-- The operations of `PreciseNumber` the program calls. -/
structure SplMath where
  PreciseNumber : Type
  new : ℕ → Option PreciseNumber
  checkedMul : PreciseNumber → PreciseNumber → Option PreciseNumber
  checkedDiv : PreciseNumber → PreciseNumber → Option PreciseNumber
  floor : PreciseNumber → Option PreciseNumber
  toImprecise : PreciseNumber → Option ℕ
  greaterThanOrEqual : PreciseNumber → PreciseNumber → Bool

namespace SplMath

/-- `ONE`, the raw value of the integer 1. -/
abbrev one : ℕ := 10 ^ 12

/-- The raw values fit a `U256`. -/
abbrev limit : ℕ := 2 ^ 256

/-- The documented behaviour: through its raw value every operation is the
12-digit fixed-point operation, and reading a number back as `u128` succeeds
when the nearest integer fits. -/
structure IsFixedPoint (spl : SplMath) (raw : spl.PreciseNumber → ℕ) : Prop where
  new : ∀ n, (spl.new n).map raw = FixedPoint.ofInt limit one n
  checkedMul : ∀ left right,
    (spl.checkedMul left right).map raw = FixedPoint.mul limit one (raw left) (raw right)
  checkedDiv : ∀ left right,
    (spl.checkedDiv left right).map raw = FixedPoint.div limit one (raw left) (raw right)
  floor : ∀ number, (spl.floor number).map raw = FixedPoint.floor limit one (raw number)
  toImprecise : ∀ number n, FixedPoint.toInt limit one (raw number) = some n → n < 2 ^ 128 →
    spl.toImprecise number = some n
  greaterThanOrEqual : ∀ left right,
    spl.greaterThanOrEqual left right = decide (raw right ≤ raw left)

/-- The hypothesis under which the numeric results hold. -/
def Documented (spl : SplMath) : Prop := ∃ raw, spl.IsFixedPoint raw

/-- The fixed-point numbers themselves, an instance of the parameter. -/
def u256 : SplMath where
  PreciseNumber := ℕ
  new := FixedPoint.ofInt limit one
  checkedMul := FixedPoint.mul limit one
  checkedDiv := FixedPoint.div limit one
  floor := FixedPoint.floor limit one
  toImprecise := fun number => (FixedPoint.toInt limit one number).bind (tryFrom 128)
  greaterThanOrEqual := fun left right => decide (right ≤ left)

theorem u256_documented : u256.Documented := by
  refine ⟨(fun number : ℕ => number), ?_⟩
  constructor
  · intro n
    exact Option.map_id'
  · intro left right
    exact Option.map_id'
  · intro left right
    exact Option.map_id'
  · intro number
    exact Option.map_id'
  · intro number n nearest fits
    simp only [u256] at nearest ⊢
    rw [nearest, Option.bind_some, tryFrom_eq_some_iff]
    exact ⟨fits, rfl⟩
  · intro left right
    rfl

private theorem room : one / 2 < limit % (one * one) := by norm_num [one, limit]

variable {spl : SplMath} {raw : spl.PreciseNumber → ℕ}

/-- An integer of at most 128 bits always has a precise number. -/
theorem IsFixedPoint.new_eq (fixed : spl.IsFixedPoint raw) {n : ℕ} (fits : n < 2 ^ 128) :
    ∃ number, spl.new n = some number ∧ raw number = n * one := by
  have scaled : n * one < limit := by unfold one limit; omega
  have made := fixed.new n
  rw [FixedPoint.ofInt, FixedPoint.narrow_of_lt scaled] at made
  exact Option.map_eq_some_iff.mp made

theorem IsFixedPoint.raw_of_new (fixed : spl.IsFixedPoint raw) {n : ℕ} {number : spl.PreciseNumber}
    (made : spl.new n = some number) : raw number = n * one := by
  have mapped := fixed.new n
  rw [made, Option.map_some, FixedPoint.ofInt] at mapped
  exact (FixedPoint.narrow_eq_some_iff.mp mapped.symm).2.symm

/-- The quotient of two 128-bit integers, as a raw value. -/
theorem IsFixedPoint.div_eq (fixed : spl.IsFixedPoint raw) {left right : spl.PreciseNumber}
    {n m : ℕ} (leftIs : raw left = n * one) (rightIs : raw right = m * one)
    (fits : n < 2 ^ 128) (positive : 0 < m) :
    ∃ number, spl.checkedDiv left right = some number ∧
      raw number = (n * one * one + one / 2) / (m * one) := by
  have made := fixed.checkedDiv left right
  have small : n * one * one < limit := by unfold one limit; omega
  have divisor : m * one ≠ 0 := by unfold one; omega
  rw [leftIs, rightIs, FixedPoint.div_ofInt (by norm_num) room divisor small] at made
  exact Option.map_eq_some_iff.mp made

end SplMath

/-- The fixed-point computation inside `calculate_reward_split`,
`calculate_ncn_fee_group_route_reward`, `calculate_operator_reward` and
`calculate_vault_reward`: `floor(rewards * part / whole)` as a `u64`. -/
def preciseShare (spl : SplMath) (part whole rewards : ℕ) : Except TipRouterError ℕ := do
  let precisePart ← okOr (spl.new part) .newPreciseNumberError
  let preciseWhole ← okOr (spl.new whole) .newPreciseNumberError
  let preciseRewards ← okOr (spl.new rewards) .newPreciseNumberError
  let preciseShare ← okOr
    ((spl.checkedMul preciseRewards precisePart).bind fun product =>
      spl.checkedDiv product preciseWhole) .arithmeticOverflow
  let flooredShare ← okOr (spl.floor preciseShare) .arithmeticFloorError
  let shareU128 ← okOr (spl.toImprecise flooredShare) .castToImpreciseNumberError
  okOr (tryFrom 64 shareU128) .castToU64Error

/-- A part of a whole takes exactly the floor of its proportional share of a
`u64` amount, whatever the 128-bit weights are. -/
theorem preciseShare_exact {spl : SplMath} (documented : spl.Documented) {part whole rewards : ℕ}
    (within : part ≤ whole) (positive : 0 < whole) (wholeFits : whole < 2 ^ 128)
    (rewardsFit : rewards < 2 ^ 64) :
    preciseShare spl part whole rewards = .ok (rewards * part / whole) := by
  obtain ⟨raw, fixed⟩ := documented
  have productFits : rewards * part < 2 ^ 192 := by
    calc rewards * part ≤ rewards * 2 ^ 128 := Nat.mul_le_mul_left _ (by omega)
      _ < 2 ^ 64 * 2 ^ 128 := Nat.mul_lt_mul_of_pos_right rewardsFit (by norm_num)
      _ = 2 ^ 192 := by norm_num
  have shareLe : rewards * part / whole ≤ rewards :=
    Nat.div_le_of_le_mul (by rw [Nat.mul_comm whole]; exact Nat.mul_le_mul_left _ within)
  obtain ⟨precisePart, newPart, rawPart⟩ := fixed.new_eq (n := part) (by omega)
  obtain ⟨preciseWhole, newWhole, rawWhole⟩ := fixed.new_eq wholeFits
  obtain ⟨preciseRewards, newRewards, rawRewards⟩ := fixed.new_eq (n := rewards) (by omega)
  have multiplied := fixed.checkedMul preciseRewards precisePart
  rw [rawRewards, rawPart, FixedPoint.mul_ofInt (by norm_num) SplMath.room
    (by unfold SplMath.one SplMath.limit; omega)] at multiplied
  obtain ⟨product, mulIs, rawProduct⟩ := Option.map_eq_some_iff.mp multiplied
  have floored :
      (FixedPoint.div SplMath.limit SplMath.one (rewards * part * SplMath.one)
        (whole * SplMath.one)).bind (FixedPoint.floor SplMath.limit SplMath.one) =
          some (rewards * part / whole * SplMath.one) :=
    FixedPoint.floor_div_ofInt (by norm_num) SplMath.room positive
      (by unfold SplMath.one SplMath.limit; omega) (by unfold SplMath.one SplMath.limit; omega)
  rw [← rawProduct, ← rawWhole, ← fixed.checkedDiv product preciseWhole] at floored
  obtain ⟨_, mapped, flooredIs⟩ := Option.bind_eq_some_iff.mp floored
  obtain ⟨share, divIs, rfl⟩ := Option.map_eq_some_iff.mp mapped
  rw [← fixed.floor share] at flooredIs
  obtain ⟨flooredShare, floorIs, rawFloored⟩ := Option.map_eq_some_iff.mp flooredIs
  have imprecise : spl.toImprecise flooredShare = some (rewards * part / whole) := by
    apply fixed.toImprecise
    · rw [rawFloored]
      exact FixedPoint.toInt_ofInt (by norm_num) (by unfold SplMath.one SplMath.limit; omega)
    · omega
  simp only [preciseShare, newPart, newWhole, newRewards, mulIs, divIs, floorIs, imprecise,
    okOr_some, ok_bind, Option.bind_some, okOr_eq_ok_iff, tryFrom_eq_some_iff, and_true]
  omega

/-- A part that weighs nothing gets nothing, whatever the amount. -/
theorem preciseShare_zero_part {spl : SplMath} (documented : spl.Documented)
    {whole rewards share : ℕ} (positive : 0 < whole)
    (shared : preciseShare spl 0 whole rewards = .ok share) : share = 0 := by
  obtain ⟨raw, fixed⟩ := documented
  have half : SplMath.one / 2 < SplMath.limit := by norm_num [SplMath.one, SplMath.limit]
  simp only [preciseShare, bind_eq_ok, okOr_eq_ok_iff, Option.bind_eq_some_iff,
    tryFrom_eq_some_iff] at shared
  obtain ⟨zero, newZero, total, newTotal, amount, -, quotient, ⟨product, multiplied, divided⟩,
    floored, dropped, share, imprecise, -, rfl⟩ := shared
  have rawZero := fixed.raw_of_new newZero
  have rawTotal := fixed.raw_of_new newTotal
  have rawProduct := fixed.checkedMul amount zero
  rw [multiplied, rawZero, Nat.zero_mul, FixedPoint.mul_zero_right (by norm_num) half] at rawProduct
  have rawQuotient := fixed.checkedDiv product total
  rw [divided, Option.some.inj rawProduct, rawTotal,
    FixedPoint.div_zero_left (by norm_num) half positive] at rawQuotient
  have rawFloored := fixed.floor quotient
  rw [dropped, Option.some.inj rawQuotient, FixedPoint.floor, Nat.zero_div, Nat.zero_mul,
    FixedPoint.narrow_of_lt (by norm_num)] at rawFloored
  have nearest := fixed.toImprecise floored 0
  rw [Option.some.inj rawFloored, ← Nat.zero_mul SplMath.one,
    FixedPoint.toInt_ofInt (by norm_num) (by norm_num)] at nearest
  exact Option.some.inj (imprecise.symm.trans (nearest rfl (by norm_num)))

/-- The floors of the shares of all parts of a whole are together at most what is
shared. -/
theorem sum_shares_le (rewards : ℕ) {whole : ℕ} {parts : List ℕ} (total : parts.sum = whole) :
    (parts.map fun part => rewards * part / whole).sum ≤ rewards := by
  have shared : (parts.map fun part => rewards * part / whole).sum ≤
      rewards * parts.sum / whole := by
    clear total
    induction parts with
    | nil => exact Nat.zero_le _
    | cons part rest ih =>
      simp only [List.map_cons, List.sum_cons, Nat.mul_add] at ih ⊢
      exact (Nat.add_le_add_left ih _).trans Nat.div_add_div_le_add_div
  rw [total] at shared
  exact shared.trans (Nat.div_le_of_le_mul (Nat.mul_comm rewards whole).le)

/-- And short of it by less than one unit for each part. -/
theorem lt_sum_shares (rewards : ℕ) {whole : ℕ} {parts : List ℕ} (total : parts.sum = whole)
    (positive : 0 < whole) (nonempty : parts ≠ []) :
    rewards < (parts.map fun part => rewards * part / whole).sum + parts.length := by
  have lost : rewards * parts.sum + parts.length ≤
      ((parts.map fun part => rewards * part / whole).sum + parts.length) * whole := by
    clear total nonempty
    induction parts with
    | nil => simp
    | cons part rest ih =>
      have floored := Nat.lt_div_mul_add positive (a := rewards * part)
      simp only [List.map_cons, List.sum_cons, List.length_cons, Nat.mul_add, Nat.add_mul,
        Nat.one_mul] at ih floored ⊢
      omega
  have counted := List.length_pos_iff.mpr nonempty
  rw [total] at lost
  exact Nat.lt_of_mul_lt_mul_right (a := whole) (by omega)

end TipRouter
