import TipRouter.FeeSchedule
import TipRouter.GeneratedMerkleTree

/-! What operators charge. They take the total fee of an epoch, scale it up by
the share of tips the block engine leaves, and put it into the Merkle root.
The cap of `check_fees_okay` is on the total before scaling, and the block
engine fee is not part of the two-slot schedule; both show here. -/
namespace TipRouter
open Runs

variable {spl : SplMath} {config next : FeeConfig} {fees fees' : Fees} {epoch : ℕ}

theorem Fees.total_congr (same : fees.groupFees = fees'.groupFees) : fees.total = fees'.total := by
  have base : ∀ index : Fin feeGroupCount,
      fees.baseFeeGroupsBps[index] = fees'.baseFeeGroupsBps[index] :=
    fun index => congrFun same (.base index)
  have ncn : ∀ index : Fin feeGroupCount,
      fees.ncnFeeGroupsBps[index] = fees'.ncnFeeGroupsBps[index] :=
    fun index => congrFun same (.ncn index)
  rw [total, total, Slots.ext_fin base, Slots.ext_fin ncn]

namespace FeeConfig

/-- What a passed check guarantees. -/
structure Okay (config : FeeConfig) (epoch : ℕ) : Prop where
  blockEngine : config.blockEngineFeeBps ≤ maxFeeBps
  summed : config.totalFeesBps epoch = .ok (config.currentFees epoch).total
  positive : 0 < (config.currentFees epoch).total
  capped : (config.currentFees epoch).total ≤ maxFeeBps

theorem okay_of_checkFeesOkay (okay : config.checkFeesOkay spl epoch = .ok ()) :
    config.Okay epoch := by
  unfold checkFeesOkay at okay
  split at okay
  · cases okay
  · rename_i blockEngine
    obtain ⟨_, -, okay⟩ := bind_eq_ok.mp okay
    obtain ⟨_, -, okay⟩ := bind_eq_ok.mp okay
    obtain ⟨total, summed, okay⟩ := bind_eq_ok.mp okay
    have same := Fees.totalFeesBps_eq_ok summed
    subst same
    split at okay
    · cases okay
    split at okay
    · cases okay
    exact ⟨by omega, summed, by omega, by omega⟩

/-- The check reads an epoch only through the fees that are current in it. -/
theorem Okay.congr {other : ℕ} (okay : config.Okay epoch)
    (same : config.currentFees other = config.currentFees epoch) : config.Okay other where
  blockEngine := okay.blockEngine
  summed := by
    rw [totalFeesBps, same]
    exact okay.summed
  positive := by
    rw [same]
    exact okay.positive
  capped := by
    rw [same]
    exact okay.capped

/-- The total over what the block engine leaves of the tips, rounded down. -/
def adjustedCharge (total blockEngine : ℕ) : Except TipRouterError ℕ :=
  if blockEngine = maxFeeBps then .error .denominatorIsZero
  else .ok (total * maxFeeBps / (maxFeeBps - blockEngine))

theorem Okay.adjustedTotalFeesBps (okay : config.Okay epoch) :
    config.adjustedTotalFeesBps epoch =
      adjustedCharge (config.currentFees epoch).total config.blockEngineFeeBps := by
  have blockEngine := okay.blockEngine
  have capped := okay.capped
  unfold adjustedCharge maxFeeBps at *
  have fits : tryFrom 16 (config.currentFees epoch).total = some (config.currentFees epoch).total :=
    if_pos (by omega)
  have scaled : (config.currentFees epoch).total * 10000 < 2 ^ 64 := by omega
  rw [FeeConfig.adjustedTotalFeesBps, okay.summed, ok_bind, fits, okOr_some, ok_bind,
    adjustedFeeBps, maxFeeBps, checkedSub_of_le blockEngine, okOr_some, ok_bind,
    checkedMul_of_lt scaled, Option.bind_some, checkedDiv]
  by_cases all : config.blockEngineFeeBps = 10000
  · rw [if_pos all, if_pos (by omega)]
    rfl
  · rw [if_neg all, if_neg (by omega), okOr_some]

end FeeConfig

variable {startEpoch : ℕ} {initial : GroupFees} {updates : List TimedUpdate} {timed : TimedUpdate}

/-- The last update or the creation checked the fees of every epoch from then on. -/
theorem FeeHistory.okay (history : FeeHistory spl startEpoch initial updates config)
    (begun : startEpoch ≤ epoch) (past : ∀ timed ∈ updates, timed.epoch ≤ epoch) :
    config.Okay epoch := by
  cases history with
  | create made first =>
    obtain ⟨fee1, same, -, okay⟩ := FeeConfig.new_cases made
    have active : ∀ slot, (config.fees slot).activationEpoch ≤ startEpoch := by
      have activation := (Fees.new_eq_ok fee1).1.le
      intro slot
      cases slot
      · exact activation
      · rw [FeeConfig.fees, ← same]
        exact activation
    exact (FeeConfig.okay_of_checkFeesOkay okay).congr
      (FeeConfig.currentFees_of_active active begun)
  | @update updates timed before _ history first earlier updated =>
    obtain ⟨copied, -, -, -, -, -, okayNow, okayNext⟩ := FeeConfig.updateFeeConfig_cases updated
    have scheduled := (history.scheduled first earlier).updateFeeConfig updated
    rcases (past timed (by simp)).lt_or_eq with after | rfl
    · exact (FeeConfig.okay_of_checkFeesOkay okayNext).congr (scheduled.currentFees_succ after)
    · exact FeeConfig.okay_of_checkFeesOkay okayNow

/-! ## The cap -/

/-- The adjusted total is at most all tips, and so every validator's tips can
be split. -/
def FeeConfig.Chargeable (config : FeeConfig) (epoch : ℕ) : Prop :=
  ∃ adjusted, config.adjustedTotalFeesBps epoch = .ok adjusted ∧ adjusted ≤ maxFeeBps ∧
    ∀ (sdk : GeneratedMerkleTree.TipDistribution) (stakeMeta : GeneratedMerkleTree.StakeMeta)
      (ncnAddress : Pubkey) (tipEpoch : ℕ) (tipDistributionProgramId tipRouterProgramId : Pubkey),
      stakeMeta.WellFormed → tipEpoch + 1 < 2 ^ 64 →
      ∃ nodes, GeneratedMerkleTree.TreeNode.vecFromStakeMeta sdk stakeMeta adjusted ncnAddress
        tipEpoch tipDistributionProgramId tipRouterProgramId = .ok nodes

/-- A scaled total stays within the whole exactly when total and block engine
fee together do, whatever the rounding. -/
theorem adjusted_le_iff {total blockEngine : ℕ} (blockEngineLt : blockEngine < maxFeeBps) :
    total * maxFeeBps / (maxFeeBps - blockEngine) ≤ maxFeeBps ↔
      total + blockEngine ≤ maxFeeBps := by
  unfold maxFeeBps at *
  rw [← Nat.lt_succ_iff, Nat.div_lt_iff_lt_mul (by omega)]
  constructor
  · intro less
    by_contra more
    omega
  · intro within
    omega

/-- Accepted fees can be charged exactly when the group fees and the block
engine fee together are at most all tips. -/
theorem fees_chargeable_iff (history : FeeHistory spl startEpoch initial updates config)
    (begun : startEpoch ≤ epoch) (past : ∀ timed ∈ updates, timed.epoch ≤ epoch) :
    config.Chargeable epoch ↔
      (config.currentFees epoch).total + config.blockEngineFeeBps ≤ maxFeeBps := by
  have okay := history.okay begun past
  have positive := okay.positive
  have adjusted := okay.adjustedTotalFeesBps
  unfold FeeConfig.adjustedCharge at adjusted
  constructor
  · rintro ⟨result, charged, capped, -⟩
    rw [adjusted] at charged
    split at charged
    · cases charged
    · rename_i partial_
      cases charged
      exact (adjusted_le_iff (lt_of_le_of_ne okay.blockEngine partial_)).mp capped
  · intro within
    have blockEngineLt : config.blockEngineFeeBps < maxFeeBps := by omega
    have capped := (adjusted_le_iff blockEngineLt).mpr within
    refine ⟨_, by rw [adjusted, if_neg blockEngineLt.ne], capped, ?_⟩
    intro sdk stakeMeta ncnAddress tipEpoch tipDistributionProgramId tipRouterProgramId wellFormed
      epochs
    exact GeneratedMerkleTree.vecFromStakeMeta_ok wellFormed capped epochs ncnAddress
      tipDistributionProgramId tipRouterProgramId

/-- A block engine fee of 3% over a total of 20% is charged as 20.61%. -/
theorem fees_chargeable_iff_three_percent :
    ∃ config : FeeConfig, FeeConfig.new .u256 ⟨Vector.replicate 32 1⟩ 300 2000 0 5 = .ok config ∧
      (config.currentFees 5).total + config.blockEngineFeeBps = 2300 ∧
      config.adjustedTotalFeesBps 5 = .ok 2061 ∧ config.Chargeable 5 := by
  have runs : (FeeConfig.new .u256 ⟨Vector.replicate 32 1⟩ 300 2000 0 5).toOption.any
      (fun config => decide ((config.currentFees 5).total + config.blockEngineFeeBps = 2300) &&
        decide (config.adjustedTotalFeesBps 5 = .ok 2061)) = true := by decide +kernel
  obtain ⟨config, made, values⟩ := exists_of_any runs
  rw [Bool.and_eq_true, decide_eq_true_eq, decide_eq_true_eq] at values
  have within : (config.currentFees 5).total + config.blockEngineFeeBps ≤ maxFeeBps := by
    rw [values.1]
    decide
  exact ⟨config, made, values.1, values.2,
    (fees_chargeable_iff (.create made rfl) le_rfl (by simp)).mpr within⟩

/-- A total of 100% passes the check, yet with a block engine fee of 3% it is
charged as 103.09%, and no tips can be split. -/
theorem accepted_fees_not_chargeable :
    ∃ config, FeeConfig.new .u256 ⟨Vector.replicate 32 1⟩ 300 10000 0 0 = .ok config ∧
      config.adjustedTotalFeesBps 0 = .ok 10309 ∧
      ∃ stakeMeta : GeneratedMerkleTree.StakeMeta, stakeMeta.WellFormed ∧
        ∀ sdk ncnAddress tipEpoch tipDistributionProgramId tipRouterProgramId,
          GeneratedMerkleTree.TreeNode.vecFromStakeMeta sdk stakeMeta 10309 ncnAddress tipEpoch
            tipDistributionProgramId tipRouterProgramId = .error .checkedMathError := by
  have runs : (FeeConfig.new .u256 ⟨Vector.replicate 32 1⟩ 300 10000 0 0).toOption.any
      (fun config => decide (config.adjustedTotalFeesBps 0 = .ok 10309)) = true := by
    decide +kernel
  obtain ⟨config, made, charged⟩ := exists_of_any runs
  refine ⟨config, made, of_decide_eq_true charged, ⟨.default, .default,
    some ⟨.default, .default, 10000, 0⟩, [], 0, 0⟩, ⟨?_, by decide, by simp⟩, ?_⟩
  · rintro _ ⟨⟩
    decide
  · intro sdk ncnAddress tipEpoch tipDistributionProgramId tipRouterProgramId
    have fee : GeneratedMerkleTree.feeAmount 10000 10309 = .ok 10309 := by decide
    exact GeneratedMerkleTree.vecFromStakeMeta_error rfl rfl fee (by decide) ncnAddress
      tipDistributionProgramId tipRouterProgramId

/-! ## The epoch of a change -/

/-- Two divisors give one quotient while the second stays close to the first: it may grow by
what the remainder leaves to the quotient, and shrink by what is missing to the next one. -/
theorem div_eq_div_iff_near {scaled rest other : ℕ} (positive : 0 < other)
    (quotient : 0 < scaled / rest) :
    scaled / other = scaled / rest ↔
      other - rest ≤ scaled % rest / (scaled / rest) ∧
        rest - other ≤ (rest - 1 - scaled % rest) / (scaled / rest + 1) := by
  have restPos : 0 < rest := by
    rcases Nat.eq_zero_or_pos rest with rfl | restPos
    · rw [Nat.div_zero] at quotient
      cases quotient
    · exact restPos
  have split : scaled / rest * rest + scaled % rest = scaled := Nat.div_add_mod' scaled rest
  have small : scaled % rest < rest := Nat.mod_lt scaled restPos
  have between : scaled / other = scaled / rest ↔
      scaled / rest * other ≤ scaled ∧ scaled < (scaled / rest + 1) * other := by
    rw [← Nat.le_div_iff_mul_le positive, ← Nat.div_lt_iff_lt_mul positive]
    omega
  rw [between, Nat.le_div_iff_mul_le quotient, Nat.le_div_iff_mul_le (Nat.succ_pos _)]
  generalize scaled / rest = q at *
  generalize scaled % rest = r at *
  refine and_congr ?_ ?_
  · rcases Nat.le_total other rest with less | more
    · have fits : q * other ≤ q * rest := Nat.mul_le_mul_left q less
      rw [Nat.sub_eq_zero_of_le less, Nat.zero_mul]
      omega
    · obtain ⟨extra, rfl⟩ := Nat.exists_eq_add_of_le more
      rw [Nat.add_sub_cancel_left, Nat.mul_add, Nat.mul_comm extra q]
      omega
  · rcases Nat.le_total rest other with more | less
    · have fits : (q + 1) * rest ≤ (q + 1) * other := Nat.mul_le_mul_left (q + 1) more
      rw [Nat.sub_eq_zero_of_le more, Nat.zero_mul]
      rw [Nat.add_mul q 1 rest] at fits
      omega
    · obtain ⟨lost, rfl⟩ := Nat.exists_eq_add_of_le less
      have whole : (q + 1) * other + (q + 1) * lost = q * (other + lost) + (other + lost) := by
        rw [← Nat.mul_add, Nat.add_mul, Nat.one_mul]
      rw [Nat.add_sub_cancel_left, Nat.mul_comm lost (q + 1)]
      omega

/-- The block engine fees over which a total is scaled up to the same charge as over
`blockEngine`: `blockEngine` itself and those so close to it that the rounding hides them. -/
def FeeConfig.blockEngineWindow (total blockEngine : ℕ) : Finset ℕ :=
  let rest := maxFeeBps - blockEngine
  let charge := total * maxFeeBps / rest
  let remainder := total * maxFeeBps % rest
  Finset.Icc (blockEngine - remainder / charge) (blockEngine + (rest - 1 - remainder) / (charge + 1))

theorem FeeConfig.blockEngineWindow_all (total : ℕ) :
    blockEngineWindow total maxFeeBps = {maxFeeBps} := by
  simp [blockEngineWindow, maxFeeBps]

theorem FeeConfig.mem_blockEngineWindow_self (total blockEngine : ℕ) :
    blockEngine ∈ blockEngineWindow total blockEngine :=
  Finset.mem_Icc.mpr ⟨Nat.sub_le _ _, Nat.le_add_right _ _⟩

/-- A window ends before everything goes to the block engine. -/
theorem FeeConfig.lt_of_mem_blockEngineWindow {total blockEngine other : ℕ}
    (less : blockEngine < maxFeeBps) (inside : other ∈ blockEngineWindow total blockEngine) :
    other < maxFeeBps := by
  have upper := (Finset.mem_Icc.mp inside).2
  generalize total * maxFeeBps % (maxFeeBps - blockEngine) = remainder at upper
  generalize total * maxFeeBps / (maxFeeBps - blockEngine) = charge at upper
  have shrunk := Nat.div_le_self (maxFeeBps - blockEngine - 1 - remainder) (charge + 1)
  omega

theorem FeeConfig.adjustedCharge_eq_iff {total left right : ℕ} (positive : 0 < total)
    (leftLe : left ≤ maxFeeBps) (rightLe : right ≤ maxFeeBps) :
    FeeConfig.adjustedCharge total left = FeeConfig.adjustedCharge total right ↔
      left ∈ blockEngineWindow total right := by
  rcases rightLe.lt_or_eq with rightLt | rfl
  · rcases leftLe.lt_or_eq with leftLt | rfl
    · have charged : 0 < total * maxFeeBps / (maxFeeBps - right) := by
        refine Nat.div_pos ?_ (Nat.sub_pos_of_lt rightLt)
        exact le_trans (Nat.sub_le _ _) (Nat.le_mul_of_pos_left _ positive)
      rw [adjustedCharge, adjustedCharge, if_neg leftLt.ne, if_neg rightLt.ne, Except.ok.injEq,
        div_eq_div_iff_near (Nat.sub_pos_of_lt leftLt) charged, blockEngineWindow, Finset.mem_Icc]
      generalize total * maxFeeBps % (maxFeeBps - right) = remainder
      generalize total * maxFeeBps / (maxFeeBps - right) = charge
      generalize remainder / charge = down
      generalize (maxFeeBps - right - 1 - remainder) / (charge + 1) = up
      omega
    · refine iff_of_false (fun same => ?_) fun inside =>
        (lt_of_mem_blockEngineWindow rightLt inside).ne rfl
      rw [adjustedCharge, adjustedCharge, if_pos rfl, if_neg rightLt.ne] at same
      cases same
  · rw [blockEngineWindow_all, Finset.mem_singleton]
    constructor
    · intro same
      by_contra less
      rw [adjustedCharge, adjustedCharge, if_neg less, if_pos rfl] at same
      cases same
    · rintro rfl
      rfl

/-- An update leaves the fee charged in its own epoch alone exactly when it leaves the block
engine fee alone, or moves it within the window that the rounding hides. -/
theorem update_keeps_charge_iff (history : FeeHistory spl startEpoch initial updates config)
    (begun : startEpoch ≤ timed.epoch)
    (past : ∀ earlier ∈ updates, earlier.epoch ≤ timed.epoch)
    (updated : config.updateFeeConfig spl timed.update timed.epoch = .ok next) :
    next.adjustedTotalFeesBps timed.epoch = config.adjustedTotalFeesBps timed.epoch ↔
      ∀ newBlockEngineFeeBps ∈ timed.update.newBlockEngineFeeBps,
        newBlockEngineFeeBps ∈ FeeConfig.blockEngineWindow
          (config.currentFees timed.epoch).total config.blockEngineFeeBps := by
  have before := history.okay begun past
  have after := (history.update timed begun past updated).okay begun (by
    intro earlier member
    rcases List.mem_append.mp member with member | member
    · exact past earlier member
    · rw [List.mem_singleton.mp member])
  have scheduled := history.scheduled begun past
  have sameTotal : (next.currentFees timed.epoch).total = (config.currentFees timed.epoch).total :=
    Fees.total_congr ((scheduled.updateFeeConfig updated).currentFees.1.trans
      scheduled.currentFees.1.symm)
  obtain ⟨copied, copy, -, -, -, blockEngine, -⟩ := FeeConfig.updateFeeConfig_cases updated
  rw [(scheduled.copy copy).2.2] at blockEngine
  rw [after.adjustedTotalFeesBps, before.adjustedTotalFeesBps, sameTotal,
    FeeConfig.adjustedCharge_eq_iff before.positive after.blockEngine before.blockEngine,
    blockEngine]
  cases timed.update.newBlockEngineFeeBps with
  | none =>
    refine iff_of_true (FeeConfig.mem_blockEngineWindow_self _ _) fun _ given => ?_
    cases given
  | some newBlockEngineFeeBps =>
    refine ⟨fun inside _ given => ?_, fun inside => inside _ rfl⟩
    cases given
    exact inside

/-- Raising the block engine fee to a half doubles the charge of the epoch the
update is made in. -/
theorem update_changes_charge :
    ∃ config next, FeeConfig.new .u256 ⟨Vector.replicate 32 1⟩ 0 1000 0 5 = .ok config ∧
      config.updateFeeConfig .u256 ⟨some 5000, none, none, none, none, none⟩ 5 = .ok next ∧
      config.adjustedTotalFeesBps 5 = .ok 1000 ∧ next.adjustedTotalFeesBps 5 = .ok 2000 := by
  have runs : ((FeeConfig.new .u256 ⟨Vector.replicate 32 1⟩ 0 1000 0 5).bind fun config =>
      (config.updateFeeConfig .u256 ⟨some 5000, none, none, none, none, none⟩ 5).map fun next =>
        (config, next)).toOption.any (fun configs =>
          decide (configs.1.adjustedTotalFeesBps 5 = .ok 1000) &&
            decide (configs.2.adjustedTotalFeesBps 5 = .ok 2000)) = true := by decide +kernel
  obtain ⟨⟨config, next⟩, both, charges⟩ := exists_of_any runs
  obtain ⟨_, made, rest⟩ := bind_eq_ok.mp both
  obtain ⟨_, updated, same⟩ := map_eq_ok.mp rest
  cases same
  rw [Bool.and_eq_true, decide_eq_true_eq, decide_eq_true_eq] at charges
  exact ⟨config, next, made, updated, charges.1, charges.2⟩

/-- A new group fee and a block engine fee of 3% in place of 2.95% keep a charge of 10.3%. -/
theorem update_keeps_charge_iff_within_window :
    ∃ config next : FeeConfig, FeeConfig.new .u256 ⟨Vector.replicate 32 1⟩ 295 1000 0 5 = .ok config ∧
      config.updateFeeConfig .u256 ⟨some 300, none, none, some 400, none, none⟩ 5 = .ok next ∧
      config.adjustedTotalFeesBps 5 = .ok 1030 ∧ next.adjustedTotalFeesBps 5 = .ok 1030 := by
  have runs : ((FeeConfig.new .u256 ⟨Vector.replicate 32 1⟩ 295 1000 0 5).bind fun config =>
      (config.updateFeeConfig .u256 ⟨some 300, none, none, some 400, none, none⟩ 5).map fun next =>
        (config, next)).toOption.any (fun configs =>
          decide (configs.1.adjustedTotalFeesBps 5 = .ok 1030) &&
            decide (300 ∈ FeeConfig.blockEngineWindow (configs.1.currentFees 5).total
              configs.1.blockEngineFeeBps)) = true := by decide +kernel
  obtain ⟨⟨config, next⟩, both, charged⟩ := exists_of_any runs
  obtain ⟨_, made, rest⟩ := bind_eq_ok.mp both
  obtain ⟨_, updated, same⟩ := map_eq_ok.mp rest
  cases same
  rw [Bool.and_eq_true, decide_eq_true_eq, decide_eq_true_eq] at charged
  let timed : TimedUpdate := ⟨5, ⟨some 300, none, none, some 400, none, none⟩⟩
  have keeps : next.adjustedTotalFeesBps timed.epoch = config.adjustedTotalFeesBps timed.epoch := by
    refine (update_keeps_charge_iff (.create made rfl) le_rfl (by simp) updated).mpr ?_
    rintro _ ⟨⟩
    exact charged.2
  exact ⟨config, next, made, updated, charged.1, keeps.trans charged.1⟩

end TipRouter
