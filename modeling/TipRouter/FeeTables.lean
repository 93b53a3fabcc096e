import TipRouter.BaseRouterShares
import TipRouter.FeeCharging
import TipRouter.SnapshotTotals

/-! The two physical tables. An epoch may be read at any time, also one long
past, and then `current_fees` picks a table by its activation epoch alone: both
tables stay valid whatever the epoch, but only one earlier change is
remembered. -/
namespace TipRouter
open Runs

variable {spl : SplMath} {config next before after : FeeConfig} {slot other : FeeSlot}
variable {epoch startEpoch : ℕ} {initial : GroupFees} {updates earlier later : List TimedUpdate}
variable {timed : TimedUpdate}

/-! ## What an update leaves in the tables -/

/-- One table was changed in an epoch and waits for the next one, the other is
charged meanwhile. -/
structure FeeConfig.Changed (config : FeeConfig) (epoch : ℕ) (slot other : FeeSlot) : Prop where
  different : other ≠ slot
  waiting : (config.fees slot).activationEpoch = epoch + 1
  active : (config.fees other).activationEpoch ≤ epoch

namespace FeeConfig

/-- Two tables are all there are. -/
theorem Changed.slots (changed : config.Changed epoch slot other) (any : FeeSlot) :
    any = slot ∨ any = other := by
  have different := changed.different
  cases any <;> cases slot <;> cases other <;> simp_all

theorem Changed.currentFees (changed : config.Changed epoch slot other) :
    config.currentFees epoch = config.fees other ∧
      ∀ later > epoch, config.currentFees later = config.fees slot :=
  currentFees_of_waiting changed.different changed.waiting changed.active

/-- An earlier epoch is charged the same table when that was active by then. -/
theorem Changed.currentFees_before {last : ℕ} (changed : config.Changed last slot other)
    (since : epoch ≤ last) (active : (config.fees other).activationEpoch ≤ epoch) :
    config.currentFees epoch = config.fees other := by
  obtain ⟨different, waiting, -⟩ := changed
  unfold FeeConfig.currentFees
  cases slot <;> cases other <;> simp only [fees, ne_eq, not_true_eq_false] at * <;>
    split_ifs <;> first | rfl | omega

/-- What is current in an epoch is always one of the tables. -/
theorem currentFees_mem (config : FeeConfig) (epoch : ℕ) :
    ∃ slot, config.currentFees epoch = config.fees slot := by
  unfold currentFees
  split_ifs
  · exact ⟨.fee2, rfl⟩
  · exact ⟨.fee1, rfl⟩
  · exact ⟨.fee1, rfl⟩
  · exact ⟨.fee2, rfl⟩

/-- The copy that starts an update keeps the charged table as it is. -/
theorem Scheduled.copy_keeps_current {now soon : GroupFees}
    (scheduled : config.Scheduled epoch now soon) (copy : config.copyCurrentFees epoch = .ok next)
    (different : other ≠ next.updatableFees epoch) :
    next.fees other = config.currentFees epoch := by
  cases scheduled with
  | settled active agree => exact (copyCurrentFees_of_active active agree copy).1 other
  | pending slot another distinct waits charges =>
    obtain ⟨rfl, chosen⟩ := copyCurrentFees_of_waiting distinct waits charges copy
    have held : Changed next epoch slot another := ⟨distinct, waits, charges⟩
    rw [chosen] at different
    rw [held.currentFees.1, (held.slots other).resolve_left different]

end FeeConfig

/-- After an update one table waits, and the other holds what was charged in
the epoch of the update all along. -/
theorem FeeHistory.changed (history : FeeHistory spl startEpoch initial updates config)
    (begun : startEpoch ≤ timed.epoch)
    (past : ∀ earlier ∈ updates, earlier.epoch ≤ timed.epoch)
    (updated : config.updateFeeConfig spl timed.update timed.epoch = .ok next) :
    ∃ slot other, next.Changed timed.epoch slot other ∧
      next.fees other = config.currentFees timed.epoch := by
  obtain ⟨copied, copy, -, waiting, others, -⟩ := FeeConfig.updateFeeConfig_cases updated
  have scheduled := history.scheduled begun past
  obtain ⟨-, charged, -⟩ := scheduled.copy copy
  obtain ⟨other, different⟩ : ∃ other, other ≠ copied.updatableFees timed.epoch := by
    cases copied.updatableFees timed.epoch
    · exact ⟨.fee2, by decide⟩
    · exact ⟨.fee1, by decide⟩
  have active := (charged other different).2
  rw [← others other different] at active
  refine ⟨_, other, ⟨different, waiting, active⟩, ?_⟩
  rw [others other different, scheduled.copy_keeps_current copy different]

/-! ## Both tables are valid -/

/-- A table whose fees can be charged. -/
def Fees.Valid (fees : Fees) : Prop := 0 < fees.total ∧ fees.total ≤ maxFeeBps

theorem FeeConfig.Okay.valid (okay : config.Okay epoch) : (config.currentFees epoch).Valid :=
  ⟨okay.positive, okay.capped⟩

/-- The check computes an adjusted fee, which the whole of the tips going to the
block engine would not allow. -/
theorem FeeConfig.blockEngine_lt_of_checkFeesOkay (documented : spl.Documented)
    (okay : config.checkFeesOkay spl epoch = .ok ()) : config.blockEngineFeeBps < maxFeeBps := by
  obtain ⟨raw, fixed⟩ := documented
  have within := (FeeConfig.okay_of_checkFeesOkay okay).blockEngine
  refine lt_of_le_of_ne within fun all => ?_
  unfold checkFeesOkay at okay
  split at okay
  · cases okay
  obtain ⟨_, looped, -⟩ := bind_eq_ok.mp okay
  rw [BaseFeeGroup.allGroups_eq, show List.finRange feeGroupCount =
    0 :: (List.finRange feeGroupCount).tail by rfl, List.map_cons, List.forIn_cons] at looped
  obtain ⟨_, adjusting, -⟩ := bind_eq_ok.mp looped
  obtain ⟨_, adjusted, -⟩ := bind_eq_ok.mp adjusting
  simp only [adjustedPreciseBaseFeeBps, adjustedPreciseFeeBps, bind_eq_ok, okOr_eq_ok_iff] at adjusted
  obtain ⟨fee, -, remaining, left, preciseRemaining, made, _, -, adjustedFee, -, divided⟩ := adjusted
  rw [all, checkedSub_of_le le_rfl, Nat.sub_self, Option.some_inj] at left
  subst left
  have isZero := fixed.raw_of_new made
  have quotient := fixed.checkedDiv adjustedFee preciseRemaining
  rw [divided, isZero, Nat.zero_mul, FixedPoint.div, if_pos rfl] at quotient
  cases quotient

/-- The check covers the current and the next epoch, and these are read from
different tables. -/
theorem FeeHistory.tables_valid (history : FeeHistory spl startEpoch initial updates config)
    (slot : FeeSlot) : (config.fees slot).Valid := by
  cases history with
  | create made first =>
    obtain ⟨-, same, -, okay⟩ := FeeConfig.new_cases made
    have valid := (FeeConfig.okay_of_checkFeesOkay okay).valid
    obtain ⟨any, read⟩ := config.currentFees_mem startEpoch
    rw [read] at valid
    cases slot <;> cases any <;> simp only [FeeConfig.fees, ← same] at valid ⊢ <;> exact valid
  | @update updates timed before _ history first earlier updated =>
    obtain ⟨copied, -, -, -, -, -, okayNow, okayNext⟩ := FeeConfig.updateFeeConfig_cases updated
    obtain ⟨waiting, charged, changed, -⟩ := history.changed first earlier updated
    obtain ⟨now, soon⟩ := changed.currentFees
    rcases changed.slots slot with rfl | rfl
    · have valid := (FeeConfig.okay_of_checkFeesOkay okayNext).valid
      rwa [soon _ (Nat.lt_succ_self _)] at valid
    · have valid := (FeeConfig.okay_of_checkFeesOkay okayNow).valid
      rwa [now] at valid

theorem FeeHistory.blockEngine_lt (documented : spl.Documented)
    (history : FeeHistory spl startEpoch initial updates config) :
    config.blockEngineFeeBps < maxFeeBps := by
  cases history with
  | create made first =>
    obtain ⟨-, -, -, okay⟩ := FeeConfig.new_cases made
    exact FeeConfig.blockEngine_lt_of_checkFeesOkay documented okay
  | update timed history first earlier updated =>
    obtain ⟨copied, -, -, -, -, -, okay, -⟩ := FeeConfig.updateFeeConfig_cases updated
    exact FeeConfig.blockEngine_lt_of_checkFeesOkay documented okay

theorem FeeHistory.currentFees_valid (history : FeeHistory spl startEpoch initial updates config)
    (epoch : ℕ) : (config.currentFees epoch).Valid := by
  obtain ⟨slot, read⟩ := config.currentFees_mem epoch
  rw [read]
  exact history.tables_valid slot

theorem Fees.Valid.fits {fees : Fees} (valid : fees.Valid) : fees.total < 2 ^ 64 := by
  have capped := valid.2
  unfold maxFeeBps at capped
  omega

theorem Fees.groupFees_le_total (fees : Fees) (group : FeeGroup) :
    fees.groupFees group ≤ fees.total := by
  cases group with
  | base index => exact (BaseRewardRouter.fee_le_total fees index).1
  | ncn index => exact (BaseRewardRouter.fee_le_total fees index).2

/-- The snapshot of an epoch copies the fees current in that epoch, whenever it
is taken. -/
theorem Snapshots.start_fees {epochState : EpochState} {weightTable : WeightTable} {ncn : Pubkey}
    {bump slot operatorCount : ℕ} {snapshots : Snapshots}
    (started : Snapshots.start epochState weightTable config ncn epoch bump slot operatorCount =
      .ok snapshots) : snapshots.epochSnapshot.fees = config.currentFees epoch := by
  unfold Snapshots.start at started
  split at started
  · cases started
  split at started
  · cases started
  cases started
  rfl

/-- Whatever epoch is asked for, the fees are between one basis point and the
whole in total, and what a snapshot copies of them splits a pool exactly. -/
theorem fee_tables_stay_valid (documented : spl.Documented)
    (history : FeeHistory spl startEpoch initial updates config) (epoch : ℕ) :
    (∃ total, config.totalFeesBps epoch = .ok total ∧ 1 ≤ total ∧ total ≤ maxFeeBps) ∧
      (∀ group, (config.currentFees epoch).groupFees group ≤ maxFeeBps) ∧
      config.blockEngineFeeBps < maxFeeBps ∧
      ∀ epochState weightTable ncn bump slot operatorCount snapshots,
        Snapshots.start epochState weightTable config ncn epoch bump slot operatorCount =
          .ok snapshots →
        (∃ total, snapshots.epochSnapshot.fees.totalFeesBps = .ok total ∧ total ≠ 0) ∧
        (∀ rewards, BaseRewardRouter.shares snapshots.epochSnapshot.fees rewards ≤ rewards) ∧
        ∀ router : BaseRewardRouter, router.rewardPool + router.rewardsProcessed < 2 ^ 64 →
          router.allocated + router.rewardPool < 2 ^ 64 →
          ∃ routed, router.routeRewardPool spl snapshots.epochSnapshot.fees = .ok routed ∧
            BaseRewardRouter.PoolPaid snapshots.epochSnapshot.fees router routed := by
  have valid := history.currentFees_valid epoch
  have summed := Fees.totalFeesBps_of_lt valid.fits
  refine ⟨⟨_, summed, valid.1, valid.2⟩, ?_, history.blockEngine_lt documented, ?_⟩
  · intro group
    exact (Fees.groupFees_le_total _ group).trans valid.2
  · intro epochState weightTable ncn bump slot operatorCount snapshots started
    rw [Snapshots.start_fees started]
    refine ⟨⟨_, summed, valid.1.ne'⟩, BaseRewardRouter.shares_le _, ?_⟩
    intro router transit fits
    exact BaseRewardRouter.routeRewardPool_exact documented valid.fits transit fits

/-- After two updates, also in the epochs before the creation. -/
theorem fee_tables_stay_valid_after_two_updates :
    ∃ before after : FeeConfig, FeeConfig.new .u256 ⟨Vector.replicate 32 1⟩ 300 2000 0 5 = .ok before ∧
      run (fun config (timed : TimedUpdate) =>
          config.updateFeeConfig .u256 timed.update timed.epoch)
        [⟨10, ⟨none, none, none, some 500, none, none⟩⟩,
          ⟨20, ⟨some 0, none, none, none, some (.new .jto), some 700⟩⟩] before = .ok after ∧
      after.totalFeesBps 0 = .ok 500 ∧ after.totalFeesBps 21 = .ok 1200 ∧
      after.blockEngineFeeBps < maxFeeBps ∧
      ∃ total, after.totalFeesBps 0 = .ok total ∧ 1 ≤ total ∧ total ≤ maxFeeBps := by
  have runs : ((FeeConfig.new .u256 ⟨Vector.replicate 32 1⟩ 300 2000 0 5).bind fun before =>
      (before.updateFeeConfig .u256 ⟨none, none, none, some 500, none, none⟩ 10).bind fun middle =>
        (middle.updateFeeConfig .u256
          ⟨some 0, none, none, none, some (.new .jto), some 700⟩ 20).map fun after =>
            (before, middle, after)).toOption.any (fun configs =>
              decide (configs.2.2.totalFeesBps 0 = .ok 500) &&
                decide (configs.2.2.totalFeesBps 21 = .ok 1200)) = true := by decide +kernel
  obtain ⟨⟨before, middle, after⟩, all, totals⟩ := exists_of_any runs
  obtain ⟨_, made, rest⟩ := bind_eq_ok.mp all
  obtain ⟨_, first, rest⟩ := bind_eq_ok.mp rest
  obtain ⟨_, second, same⟩ := map_eq_ok.mp rest
  cases same
  rw [Bool.and_eq_true, decide_eq_true_eq, decide_eq_true_eq] at totals
  have history : FeeHistory .u256 5 (initialFees 2000 0)
      [⟨10, ⟨none, none, none, some 500, none, none⟩⟩] middle :=
    .update ⟨10, ⟨none, none, none, some 500, none, none⟩⟩ (.create made rfl) (by decide) (by simp)
      first
  have longer := FeeHistory.update
    ⟨20, ⟨some 0, none, none, none, some (.new .jto), some 700⟩⟩ history (by decide) (by simp) second
  obtain ⟨total, -, blockEngine, -⟩ := fee_tables_stay_valid SplMath.u256_documented longer 0
  refine ⟨before, after, made, ?_, totals.1, totals.2, blockEngine, total⟩
  rw [run_cons, first, ok_bind, run_singleton, second]

/-! ## Reading a past epoch -/

/-- `process_admin_set_config_fees`, with the epoch of the clock. -/
def FeeConfig.applyUpdate (spl : SplMath) (config : FeeConfig) (timed : TimedUpdate) :
    Except TipRouterError FeeConfig :=
  config.updateFeeConfig spl timed.update timed.epoch

/-- What the tables hold of the fees of an epoch, after updates in it and later
ones. The first epoch with a change leaves them in one table; a change in a
further epoch overwrites it. -/
inductive FeeConfig.Remembers (config : FeeConfig) (epoch : ℕ) (fees : Fees)
    (updates : List TimedUpdate) : Prop
  | untouched (settled : ∀ timed ∈ updates, timed.epoch < epoch)
      (active : ∀ slot, (config.fees slot).activationEpoch ≤ epoch)
      (current : config.currentFees epoch = fees)
  | kept {last : ℕ} {slot other : FeeSlot} (changed : config.Changed last slot other)
      (since : epoch ≤ last) (only : ∀ timed ∈ updates, epoch ≤ timed.epoch → timed.epoch = last)
      (latest : ∃ timed ∈ updates, timed.epoch = last) (current : config.fees other = fees)
  | lost {first second : TimedUpdate} (firstMem : first ∈ updates) (secondMem : second ∈ updates)
      (firstSince : epoch ≤ first.epoch) (secondSince : epoch ≤ second.epoch)
      (different : first.epoch ≠ second.epoch)
      (overwritten : ∀ slot, epoch < (config.fees slot).activationEpoch)

namespace FeeConfig
variable {fees : Fees}

/-- At the end of an epoch its fees are there. -/
theorem remembers_of_history (history : FeeHistory spl startEpoch initial updates config)
    (begun : startEpoch ≤ epoch) (past : ∀ timed ∈ updates, timed.epoch ≤ epoch) :
    config.Remembers epoch (config.currentFees epoch) updates := by
  cases history with
  | create made first =>
    obtain ⟨fee1, same, -, -⟩ := new_cases made
    have activation := (Fees.new_eq_ok fee1).1
    refine .untouched (by simp) (fun slot => ?_) rfl
    cases slot
    · exact activation.le.trans begun
    · rw [FeeConfig.fees, ← same]
      exact activation.le.trans begun
  | @update updates timed before _ history first earlier updated =>
    obtain ⟨slot, other, changed, -⟩ := history.changed first earlier updated
    rcases (past timed (by simp)).lt_or_eq with after | rfl
    · refine .untouched (fun any member => ?_) (fun any => ?_) rfl
      · rcases List.mem_append.mp member with member | member
        · exact (earlier any member).trans_lt after
        · rwa [List.mem_singleton.mp member]
      · rcases changed.slots any with rfl | rfl
        · rw [changed.waiting]
          exact after
        · exact changed.active.trans after.le
    · refine .kept changed le_rfl (fun any member since => ?_) ⟨timed, by simp, rfl⟩
        changed.currentFees.1.symm
      exact Nat.le_antisymm (past any member) since

/-- What one more update does to it. -/
theorem Remembers.update (remembers : config.Remembers epoch fees updates)
    (history : FeeHistory spl startEpoch initial updates config)
    (begun : startEpoch ≤ timed.epoch) (past : ∀ earlier ∈ updates, earlier.epoch ≤ timed.epoch)
    (since : epoch ≤ timed.epoch)
    (updated : config.updateFeeConfig spl timed.update timed.epoch = .ok next) :
    next.Remembers epoch fees (updates ++ [timed]) := by
  obtain ⟨slot, other, changed, same⟩ := history.changed begun past updated
  have overwrites (charged : epoch < (config.currentFees timed.epoch).activationEpoch) :
      ∀ any, epoch < (next.fees any).activationEpoch := by
    intro any
    rcases changed.slots any with rfl | rfl
    · rw [changed.waiting]
      omega
    · rwa [same]
  cases remembers with
  | untouched settled active current =>
    refine .kept changed since (fun any member later => ?_) ⟨timed, by simp, rfl⟩ ?_
    · rcases List.mem_append.mp member with member | member
      · exact absurd (settled any member) (by omega)
      · rw [List.mem_singleton.mp member]
    · rw [same, currentFees_of_active active since, current]
  | @kept last slot' other' held begins only latest current =>
    obtain ⟨latest, member, atLast⟩ := latest
    rcases (past latest member).lt_or_eq with after | sameEpoch
    · -- the waiting table has become the current one, and the update copies it
      refine .lost (List.mem_append_left _ member) (by simp) (by omega) since after.ne
        (overwrites ?_)
      rw [held.currentFees.2 _ (by omega), held.waiting]
      omega
    · have sameLast : timed.epoch = last := by omega
      refine .kept changed since (fun any member later => ?_) ⟨timed, by simp, rfl⟩ ?_
      · rcases List.mem_append.mp member with member | member
        · rw [only any member later, sameLast]
        · rw [List.mem_singleton.mp member]
      · rw [same, sameLast, held.currentFees.1, current]
  | @lost first second firstMem secondMem firstSince secondSince different overwritten =>
    refine .lost (List.mem_append_left _ firstMem) (List.mem_append_left _ secondMem) firstSince
      secondSince different (overwrites ?_)
    obtain ⟨any, read⟩ := config.currentFees_mem timed.epoch
    rw [read]
    exact overwritten any

/-- Reading the epoch again finds its fees unless they have been overwritten. -/
theorem Remembers.currentFees_eq_iff (remembers : config.Remembers epoch fees updates)
    (early : fees.activationEpoch ≤ epoch) :
    config.currentFees epoch = fees ↔
      ∀ first ∈ updates, ∀ second ∈ updates, epoch ≤ first.epoch → epoch ≤ second.epoch →
        first.epoch = second.epoch := by
  cases remembers with
  | untouched settled active current =>
    refine iff_of_true current ?_
    intro first firstMem second secondMem since
    exact absurd (settled first firstMem) (by omega)
  | @kept last slot other held begins only latest current =>
    refine iff_of_true ?_ ?_
    · rw [← current] at early ⊢
      exact held.currentFees_before begins early
    · intro first firstMem second secondMem firstSince secondSince
      rw [only first firstMem firstSince, only second secondMem secondSince]
  | lost firstMem secondMem firstSince secondSince different overwritten =>
    refine iff_of_false ?_ ?_
    · intro same
      obtain ⟨any, read⟩ := config.currentFees_mem epoch
      have late := overwritten any
      rw [← read, same] at late
      omega
    · intro all
      exact different (all _ firstMem _ secondMem firstSince secondSince)

/-- The current fees of an epoch are never ahead of it at its end. -/
theorem Scheduled.currentFees_active {now soon : GroupFees}
    (scheduled : config.Scheduled epoch now soon) :
    (config.currentFees epoch).activationEpoch ≤ epoch := by
  cases scheduled with
  | settled active agree =>
    obtain ⟨slot, read⟩ := config.currentFees_mem epoch
    rw [read]
    exact active slot
  | pending slot other different waiting active =>
    rw [(currentFees_of_waiting different waiting active).1]
    exact active

/-- What the tables hold of an epoch after all the updates made since its end. -/
theorem remembers_of_run (history : FeeHistory spl startEpoch initial earlier before)
    (begun : startEpoch ≤ epoch) (past : ∀ timed ∈ earlier, timed.epoch ≤ epoch)
    (since : ∀ timed ∈ later, epoch < timed.epoch)
    (ordered : later.Pairwise fun first second => first.epoch ≤ second.epoch)
    (ran : run (applyUpdate spl) later before = .ok after) :
    after.Remembers epoch (before.currentFees epoch) (earlier ++ later) := by
  have holds := run_split_induction
    (motive := fun past config => FeeHistory spl startEpoch initial (earlier ++ past) config ∧
      config.Remembers epoch (before.currentFees epoch) (earlier ++ past))
    ?initial ?advance ran
  · exact holds.2
  case initial =>
    rw [List.append_nil]
    exact ⟨history, remembers_of_history history begun past⟩
  case advance =>
    rintro done config timed rest next split - ⟨history, remembers⟩ updated
    have after := since timed (by simp [split])
    have clock : ∀ any ∈ earlier ++ done, any.epoch ≤ timed.epoch := by
      intro any member
      rcases List.mem_append.mp member with member | member
      · exact (past any member).trans after.le
      · rw [split] at ordered
        exact (List.pairwise_append.mp ordered).2.2 any member timed List.mem_cons_self
    rw [← List.append_assoc]
    exact ⟨history.update timed (begun.trans after.le) clock updated,
      remembers.update history (begun.trans after.le) clock after.le updated⟩

end FeeConfig

/-- A snapshot taken later copies the fees that were charged in its epoch
exactly when all updates made in that epoch or after it were made in a single
epoch. -/
theorem backfilled_fees_iff (history : FeeHistory spl startEpoch initial earlier before)
    (begun : startEpoch ≤ epoch) (past : ∀ timed ∈ earlier, timed.epoch ≤ epoch)
    (since : ∀ timed ∈ later, epoch < timed.epoch)
    (ordered : later.Pairwise fun first second => first.epoch ≤ second.epoch)
    (ran : run (FeeConfig.applyUpdate spl) later before = .ok after) :
    (∀ epochState weightTable ncn bump slot operatorCount snapshots,
      Snapshots.start epochState weightTable after ncn epoch bump slot operatorCount =
        .ok snapshots → snapshots.epochSnapshot.fees = after.currentFees epoch) ∧
    (after.currentFees epoch = before.currentFees epoch ↔
      ∀ first ∈ earlier ++ later, ∀ second ∈ earlier ++ later, epoch ≤ first.epoch →
        epoch ≤ second.epoch → first.epoch = second.epoch) := by
  refine ⟨?_, ?_⟩
  · intro epochState weightTable ncn bump slot operatorCount snapshots started
    exact Snapshots.start_fees started
  · have remembers := FeeConfig.remembers_of_run history begun past since ordered ran
    exact remembers.currentFees_eq_iff (history.scheduled begun past).currentFees_active

/-- One later update, and epoch 7 is still read with its DAO fee of 3%. -/
theorem backfilled_fees_iff_one_update :
    ∃ before after : FeeConfig, FeeConfig.new .u256 ⟨Vector.replicate 32 1⟩ 0 300 0 5 = .ok before ∧
      run (FeeConfig.applyUpdate .u256) [⟨10, ⟨none, none, none, some 500, none, none⟩⟩] before =
        .ok after ∧
      (after.currentFees 7).groupFees (.base 0) = 300 ∧
      after.currentFees 7 = before.currentFees 7 := by
  have runs : ((FeeConfig.new .u256 ⟨Vector.replicate 32 1⟩ 0 300 0 5).bind fun before =>
      (run (FeeConfig.applyUpdate .u256) [⟨10, ⟨none, none, none, some 500, none, none⟩⟩]
        before).map fun after => (before, after)).toOption.any (fun configs =>
          decide ((configs.2.currentFees 7).groupFees (.base 0) = 300)) = true := by
    decide +kernel
  obtain ⟨⟨before, after⟩, both, daoFee⟩ := exists_of_any runs
  obtain ⟨_, made, rest⟩ := bind_eq_ok.mp both
  obtain ⟨_, ran, same⟩ := map_eq_ok.mp rest
  cases same
  refine ⟨before, after, made, ran, of_decide_eq_true daoFee,
    ((backfilled_fees_iff (.create made rfl) (by decide : 5 ≤ 7) (by simp)
      (by simp) (by simp) ran).2).mpr ?_⟩
  simp

/-- The DAO fee of epoch 7 was 3%. After updates in epochs 10 and 20 it is read
as the 5% that came with epoch 11. -/
theorem backfill_reads_later_fees :
    ∃ before after, FeeConfig.new .u256 ⟨Vector.replicate 32 1⟩ 0 300 0 5 = .ok before ∧
      run (FeeConfig.applyUpdate .u256) [⟨10, ⟨none, none, none, some 500, none, none⟩⟩,
        ⟨20, ⟨none, none, none, some 700, none, none⟩⟩] before = .ok after ∧
      (before.currentFees 7).groupFees (.base 0) = 300 ∧
      (after.currentFees 7).groupFees (.base 0) = 500 := by
  have runs : ((FeeConfig.new .u256 ⟨Vector.replicate 32 1⟩ 0 300 0 5).bind fun before =>
      (run (FeeConfig.applyUpdate .u256) [⟨10, ⟨none, none, none, some 500, none, none⟩⟩,
        ⟨20, ⟨none, none, none, some 700, none, none⟩⟩] before).map fun after =>
          (before, after)).toOption.any (fun configs =>
            decide ((configs.1.currentFees 7).groupFees (.base 0) = 300) &&
              decide ((configs.2.currentFees 7).groupFees (.base 0) = 500)) = true := by
    decide +kernel
  obtain ⟨⟨before, after⟩, both, fees⟩ := exists_of_any runs
  obtain ⟨_, made, rest⟩ := bind_eq_ok.mp both
  obtain ⟨_, ran, same⟩ := map_eq_ok.mp rest
  cases same
  rw [Bool.and_eq_true, decide_eq_true_eq, decide_eq_true_eq] at fees
  exact ⟨before, after, made, ran, fees.1, fees.2⟩

end TipRouter
