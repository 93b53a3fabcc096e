import TipRouter.BaseRewardRouter
import TipRouter.NcnRewardRouter

/-! The splits of rewards, `CALCULATIONS` of `core/src/base_reward_router.rs` and
`core/src/ncn_reward_router.rs`. All four divide a product by fixed-point numbers,
which round, and take another way where the product does not fit; what comes out is
the exact floor in every case, so that the shares of a whole never exceed it. -/
namespace TipRouter

variable {spl : SplMath} {part whole rewards : ℕ}

/-- The share of an amount, unless there is nothing to share. -/
theorem share_exact_unless {nothing : Prop} [Decidable nothing] (documented : spl.Documented)
    (empty : nothing → rewards * part / whole = 0) (positive : ¬ nothing → 0 < whole)
    (within : part ≤ whole) (wholeFits : whole < 2 ^ 128) (rewardsFit : rewards < 2 ^ 64) :
    (if nothing then .ok 0 else preciseShare spl part whole rewards) =
      Except.ok (rewards * part / whole) := by
  by_cases none : nothing
  · rw [if_pos none, empty none]
  · rw [if_neg none]
    exact preciseShare_exact documented within (positive none) wholeFits rewardsFit

/-- Nothing of an amount, or anything of no amount. -/
theorem share_of_nothing (nothing : part = 0 ∨ rewards = 0) : rewards * part / whole = 0 := by
  rcases nothing with rfl | rfl
  · rw [Nat.mul_zero, Nat.zero_div]
  · rw [Nat.zero_mul, Nat.zero_div]

namespace BaseRewardRouter

/-- The share of a fee group is the exact floor. -/
theorem calculateRewardSplit_exact (documented : spl.Documented) {feeBps totalFeeBps rewards : ℕ}
    (within : feeBps ≤ totalFeeBps) (totalFits : totalFeeBps < 2 ^ 128)
    (rewardsFit : rewards < 2 ^ 64) :
    calculateRewardSplit spl feeBps totalFeeBps rewards =
      .ok (rewards * feeBps / totalFeeBps) :=
  share_exact_unless documented share_of_nothing (by omega) within totalFits rewardsFit

/-- The share of a vote is the exact floor. -/
theorem calculateNcnFeeGroupRouteReward_exact (documented : spl.Documented)
    (within : part ≤ whole) (wholeFits : whole < 2 ^ 128) (rewardsFit : rewards < 2 ^ 64) :
    calculateNcnFeeGroupRouteReward spl part whole rewards = .ok (rewards * part / whole) :=
  share_exact_unless documented share_of_nothing (by omega) within wholeFits rewardsFit

end BaseRewardRouter

namespace NcnRewardRouter

/-- The fee of the operator is the exact floor. -/
theorem calculateOperatorReward_exact (documented : spl.Documented) {feeBps rewards : ℕ}
    (within : feeBps ≤ maxBps) (rewardsFit : rewards < 2 ^ 64) :
    calculateOperatorReward spl feeBps rewards = .ok (rewards * feeBps / maxBps) := by
  have positive : 0 < maxBps := by norm_num [maxBps]
  have fits : maxBps < 2 ^ 128 := by norm_num [maxBps]
  exact share_exact_unless documented share_of_nothing (fun _ => positive) within fits rewardsFit

/-- The share of a vault is the exact floor. -/
theorem calculateVaultReward_exact (documented : spl.Documented)
    (within : part ≤ whole) (wholeFits : whole < 2 ^ 128) (rewardsFit : rewards < 2 ^ 64) :
    calculateVaultReward spl part whole rewards = .ok (rewards * part / whole) := by
  refine share_exact_unless documented ?_ (by omega) within wholeFits rewardsFit
  rintro (rfl | rfl)
  · exact Nat.div_zero _
  · rw [Nat.zero_mul, Nat.zero_div]

end NcnRewardRouter

/-- Every split of a `u64` amount is the exact floor of its share, for any part of any
128-bit whole. No fixed-point number overflows on the way, and nothing is rounded up. -/
theorem splits_are_exact_floors (documented : spl.Documented) (rewardsFit : rewards < 2 ^ 64) :
    (∀ part whole, part ≤ whole → 0 < whole → whole < 2 ^ 128 →
      BaseRewardRouter.calculateNcnFeeGroupRouteReward spl part whole rewards =
          .ok (rewards * part / whole) ∧
        NcnRewardRouter.calculateVaultReward spl part whole rewards =
          .ok (rewards * part / whole) ∧
        BaseRewardRouter.calculateRewardSplit spl part whole rewards =
          .ok (rewards * part / whole)) ∧
    ∀ feeBps ≤ maxBps, NcnRewardRouter.calculateOperatorReward spl feeBps rewards =
      .ok (rewards * feeBps / maxBps) := by
  refine ⟨fun part whole within _ fits => ⟨?_, ?_, ?_⟩, fun feeBps within => ?_⟩
  · exact BaseRewardRouter.calculateNcnFeeGroupRouteReward_exact documented within fits rewardsFit
  · exact NcnRewardRouter.calculateVaultReward_exact documented within fits rewardsFit
  · exact BaseRewardRouter.calculateRewardSplit_exact documented within fits rewardsFit
  · exact NcnRewardRouter.calculateOperatorReward_exact documented within rewardsFit

/-- The largest weights, whose product with the largest amount does not fit, and a fee
of 9 percent. -/
theorem splits_are_exact_floors_at_limits :
    NcnRewardRouter.calculateVaultReward .u256 (2 ^ 128 - 2) (2 ^ 128 - 1) (2 ^ 64 - 1) =
        .ok (2 ^ 64 - 2) ∧
      NcnRewardRouter.calculateOperatorReward .u256 900 (2 ^ 64 - 1) =
        .ok 1660206966633859645 := by
  obtain ⟨shares, operatorFee⟩ :=
    splits_are_exact_floors SplMath.u256_documented (by norm_num : 2 ^ 64 - 1 < 2 ^ 64)
  obtain ⟨-, vault, -⟩ :=
    shares (2 ^ 128 - 2) (2 ^ 128 - 1) (by norm_num) (by norm_num) (by norm_num)
  refine ⟨vault.trans ?_, (operatorFee 900 (by norm_num [maxBps])).trans ?_⟩
  · norm_num
  · norm_num [maxBps]

end TipRouter
