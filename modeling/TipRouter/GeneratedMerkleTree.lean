import TipRouter.Core
import TipRouter.Runs

/-! How an operator splits a validator's tips into claims,
`meta_merkle_tree/src/generated_merkle_tree.rs`: the protocol fee first, the
validator's cut from what that leaves, the rest to the delegators. -/
namespace TipRouter.GeneratedMerkleTree
open Runs

inductive MerkleRootGeneratorError where
  | checkedMathError
  deriving DecidableEq, Repr

/-- `ok_or(CheckedMathError)`, the one way this function fails. -/
def okOr {α : Type} (value : Option α) : Except MerkleRootGeneratorError α :=
  match value with
  | some result => .ok result
  | none => .error .checkedMathError

@[simp] theorem okOr_eq_ok_iff {α : Type} {value : Option α} {result : α} :
    okOr value = .ok result ↔ value = some result := by
  cases value <;> simp [okOr]

@[simp] theorem okOr_some {α : Type} {result : α} : okOr (some result) = .ok result := rfl

structure TipDistributionMeta where
  merkleRootUploadAuthority : Pubkey
  tipDistributionPubkey : Pubkey
  totalTips : ℕ
  validatorFeeBps : ℕ
  deriving DecidableEq

structure Delegation where
  stakeAccountPubkey : Pubkey
  stakerPubkey : Pubkey
  withdrawerPubkey : Pubkey
  lamportsDelegated : ℕ
  deriving DecidableEq

structure StakeMeta where
  validatorVoteAccount : Pubkey
  validatorNodePubkey : Pubkey
  maybeTipDistributionMeta : Option TipDistributionMeta
  delegations : List Delegation
  totalDelegated : ℕ
  commission : ℕ
  deriving DecidableEq

structure TreeNode where
  claimant : Pubkey
  claimStatusPubkey : Pubkey
  claimStatusBump : ℕ
  stakerPubkey : Pubkey
  withdrawerPubkey : Pubkey
  amount : ℕ
  proof : Option (List Bytes32)
  deriving DecidableEq

/-- Address derivation, which is Solana's, and two constants of
`tip_distribution_sdk`: `CLAIM_STATUS_SEED`, which is `CLAIM_STATUS`, and the program id
of its IDL, which is not the id that comes as an argument. What is proved holds for
any of them. -/
structure TipDistribution where
  findProgramAddress : List (List UInt8) → Pubkey → Pubkey × ℕ
  claimStatusSeed : List UInt8
  programId : Pubkey

/-- `total_tips * bps / MAX_BPS` as a `u64`: the protocol fee and the validator's cut. -/
def feeAmount (totalTips bps : ℕ) : Except MerkleRootGeneratorError ℕ := do
  let product ← okOr (checkedMul 128 totalTips bps)
  let quotient ← okOr (checkedDiv product maxBps)
  okOr (tryFrom 64 quotient)

/-- The validator's amount and what remains for the delegators. Where the two
fees exceed the tips the validator gets less; where the protocol fee alone
does, nothing remains. -/
def splitTips (totalTips validatorAmount protocolFeeAmount : ℕ) : ℕ × Option ℕ :=
  match checkedAdd 64 validatorAmount protocolFeeAmount with
  | none => (validatorAmount, none)
  | some totalFees =>
    if totalFees > totalTips then
      match checkedSub totalTips protocolFeeAmount with
      | some adjustedValidatorAmount => (adjustedValidatorAmount, some 0)
      | none => (0, none)
    else
      (validatorAmount, (checkedSub totalTips protocolFeeAmount).bind fun v =>
        checkedSub v validatorAmount)

namespace TreeNode

/-- The claim of one delegator. -/
def fromDelegation (sdk : TipDistribution) (tipDistributionPubkey : Pubkey)
    (remainingTotalRewards totalDelegated tipRouterTargetEpoch : ℕ) (delegation : Delegation) :
    Except MerkleRootGeneratorError TreeNode := do
  let product ← okOr (checkedMul 128 delegation.lamportsDelegated remainingTotalRewards)
  let quotient ← okOr (checkedDiv product totalDelegated)
  let rewardAmount ← okOr (tryFrom 64 quotient)
  let (claimStatusPubkey, claimStatusBump) := sdk.findProgramAddress
    [sdk.claimStatusSeed, delegation.stakerPubkey.toBytes.toList,
      tipDistributionPubkey.toBytes.toList] sdk.programId
  return {
    claimant :=
      if tipRouterTargetEpoch > 737 then delegation.stakeAccountPubkey
      else delegation.stakerPubkey
    claimStatusPubkey := claimStatusPubkey
    claimStatusBump := claimStatusBump
    stakerPubkey := delegation.stakerPubkey
    withdrawerPubkey := delegation.withdrawerPubkey
    amount := rewardAmount
    proof := none }

def vecFromStakeMeta (sdk : TipDistribution) (stakeMeta : StakeMeta) (protocolFeeBps : ℕ)
    (ncnAddress : Pubkey) (epoch : ℕ) (tipDistributionProgramId tipRouterProgramId : Pubkey) :
    Except MerkleRootGeneratorError (Option (List TreeNode)) :=
  match stakeMeta.maybeTipDistributionMeta with
  | none => .ok none
  | some tipDistributionMeta => do
    let protocolFeeAmount ← feeAmount tipDistributionMeta.totalTips protocolFeeBps
    let validatorAmount ←
      feeAmount tipDistributionMeta.totalTips tipDistributionMeta.validatorFeeBps
    let (validatorAmount, remainingTotalRewards) :=
      splitTips tipDistributionMeta.totalTips validatorAmount protocolFeeAmount
    let remainingTotalRewards ← okOr remainingTotalRewards
    let tipRouterTargetEpoch ← okOr (checkedAdd 64 epoch 1)
    let baseRewardReceiver := (sdk.findProgramAddress
      ["base_reward_receiver".toUTF8.toList, ncnAddress.toBytes.toList,
        toLeBytes tipRouterTargetEpoch] tipRouterProgramId).1
    let (protocolClaimStatusPubkey, protocolClaimStatusBump) := sdk.findProgramAddress
      [sdk.claimStatusSeed, baseRewardReceiver.toBytes.toList,
        tipDistributionMeta.tipDistributionPubkey.toBytes.toList] tipDistributionProgramId
    let (validatorClaimStatusPubkey, validatorClaimStatusBump) := sdk.findProgramAddress
      [sdk.claimStatusSeed, stakeMeta.validatorNodePubkey.toBytes.toList,
        tipDistributionMeta.tipDistributionPubkey.toBytes.toList] tipDistributionProgramId
    let delegated ← stakeMeta.delegations.mapM
      (fromDelegation sdk tipDistributionMeta.tipDistributionPubkey remainingTotalRewards
        stakeMeta.totalDelegated tipRouterTargetEpoch)
    return some ({
        claimant := baseRewardReceiver
        claimStatusPubkey := protocolClaimStatusPubkey
        claimStatusBump := protocolClaimStatusBump
        stakerPubkey := .default
        withdrawerPubkey := .default
        amount := protocolFeeAmount
        proof := none } :: {
        claimant := stakeMeta.validatorNodePubkey
        claimStatusPubkey := validatorClaimStatusPubkey
        claimStatusBump := validatorClaimStatusBump
        stakerPubkey := .default
        withdrawerPubkey := .default
        amount := validatorAmount
        proof := none } :: delegated)

end TreeNode

/-! ## When the split succeeds -/

/-- A stake meta as the collector builds it: lamports that a `u64` holds twice
over, a commission of at most all tips, and delegations that are parts of the
total. -/
structure StakeMeta.WellFormed (stakeMeta : StakeMeta) : Prop where
  tips : ∀ tipDistributionMeta, stakeMeta.maybeTipDistributionMeta = some tipDistributionMeta →
    tipDistributionMeta.totalTips < 2 ^ 63 ∧ tipDistributionMeta.validatorFeeBps ≤ maxBps
  total : stakeMeta.totalDelegated < 2 ^ 64
  parts : ∀ delegation ∈ stakeMeta.delegations, 0 < stakeMeta.totalDelegated ∧
    delegation.lamportsDelegated ≤ stakeMeta.totalDelegated

variable {sdk : TipDistribution} {stakeMeta : StakeMeta}

theorem feeAmount_eq {totalTips bps : ℕ} (tips : totalTips < 2 ^ 64) (part : bps ≤ maxBps) :
    feeAmount totalTips bps = .ok (totalTips * bps / maxBps) ∧
      totalTips * bps / maxBps ≤ totalTips := by
  have product : totalTips * bps ≤ totalTips * maxBps := Nat.mul_le_mul_left _ part
  have quotient : totalTips * bps / maxBps ≤ totalTips :=
    Nat.div_le_of_le_mul (by rw [Nat.mul_comm maxBps]; exact product)
  refine ⟨?_, quotient⟩
  simp only [feeAmount, bind_eq_ok, okOr_eq_ok_iff, checkedMul_eq_some_iff, checkedDiv_eq_some_iff,
    tryFrom_eq_some_iff]
  unfold maxBps at *
  exact ⟨_, ⟨by omega, rfl⟩, _, ⟨by norm_num, rfl⟩, by omega, rfl⟩

/-- A protocol fee within the tips always leaves a remainder, possibly zero. -/
theorem splitTips_of_le {totalTips validatorAmount protocolFeeAmount : ℕ}
    (tips : totalTips < 2 ^ 63) (validator : validatorAmount ≤ totalTips)
    (protocol : protocolFeeAmount ≤ totalTips) :
    ∃ remaining ≤ totalTips,
      (splitTips totalTips validatorAmount protocolFeeAmount).2 = some remaining := by
  rw [splitTips, checkedAdd_of_lt (by omega), checkedSub_of_le protocol]
  dsimp only
  split
  · exact ⟨0, Nat.zero_le _, rfl⟩
  · refine ⟨totalTips - protocolFeeAmount - validatorAmount, by omega, ?_⟩
    rw [Option.bind_some, checkedSub_of_le (by omega)]

theorem fromDelegation_ok (sdk : TipDistribution) (tipDistributionPubkey : Pubkey)
    (tipRouterTargetEpoch : ℕ) {delegation : Delegation} {remaining totalDelegated : ℕ} (fits : remaining < 2 ^ 64)
    (total : totalDelegated < 2 ^ 64) (positive : 0 < totalDelegated)
    (part : delegation.lamportsDelegated ≤ totalDelegated) :
    ∃ node, TreeNode.fromDelegation sdk tipDistributionPubkey remaining totalDelegated
      tipRouterTargetEpoch delegation = .ok node := by
  have product : delegation.lamportsDelegated * remaining ≤ totalDelegated * remaining :=
    Nat.mul_le_mul_right _ part
  have small : totalDelegated * remaining < 2 ^ 64 * 2 ^ 64 := Nat.mul_lt_mul'' total fits
  have share : delegation.lamportsDelegated * remaining / totalDelegated ≤ remaining :=
    Nat.div_le_of_le_mul product
  simp only [TreeNode.fromDelegation, bind_eq_ok, okOr_eq_ok_iff, checkedMul_eq_some_iff,
    checkedDiv_eq_some_iff, tryFrom_eq_some_iff, pure_eq_ok_iff]
  exact ⟨_, _, ⟨by omega, rfl⟩, _, ⟨positive.ne', rfl⟩, _, ⟨by omega, rfl⟩, rfl⟩

/-- With at most all tips as the protocol fee, a well-formed stake meta is
always split. -/
theorem vecFromStakeMeta_ok (wellFormed : stakeMeta.WellFormed) {protocolFeeBps epoch : ℕ}
    (capped : protocolFeeBps ≤ maxBps) (epochs : epoch + 1 < 2 ^ 64)
    (ncnAddress tipDistributionProgramId tipRouterProgramId : Pubkey) :
    ∃ nodes, TreeNode.vecFromStakeMeta sdk stakeMeta protocolFeeBps ncnAddress epoch
      tipDistributionProgramId tipRouterProgramId = .ok nodes := by
  unfold TreeNode.vecFromStakeMeta
  cases distributed : stakeMeta.maybeTipDistributionMeta with
  | none => exact ⟨none, rfl⟩
  | some tipDistributionMeta =>
    obtain ⟨tips, commission⟩ := wellFormed.tips tipDistributionMeta distributed
    obtain ⟨protocol, protocolLe⟩ := feeAmount_eq (tips.trans (by norm_num)) capped
    obtain ⟨validator, validatorLe⟩ := feeAmount_eq (tips.trans (by norm_num)) commission
    obtain ⟨remaining, remainingLe, split⟩ := splitTips_of_le tips validatorLe protocolLe
    obtain ⟨delegated, claims⟩ := exists_mapM_ok fun delegation member =>
      fromDelegation_ok sdk tipDistributionMeta.tipDistributionPubkey (epoch + 1)
        (remainingLe.trans_lt (tips.trans (by norm_num))) wellFormed.total
        (wellFormed.parts delegation member).1 (wellFormed.parts delegation member).2
    dsimp only
    rw [protocol, ok_bind, validator, ok_bind, split, okOr_some, ok_bind,
      checkedAdd_of_lt epochs, okOr_some, ok_bind, claims]
    exact ⟨_, rfl⟩

/-- With a protocol fee above all tips there is nothing to split. -/
theorem vecFromStakeMeta_error {protocolFeeBps epoch totalTips protocolFeeAmount : ℕ}
    {tipDistributionMeta : TipDistributionMeta}
    (distributed : stakeMeta.maybeTipDistributionMeta = some tipDistributionMeta)
    (tips : tipDistributionMeta.totalTips = totalTips)
    (fee : feeAmount totalTips protocolFeeBps = .ok protocolFeeAmount)
    (exceeds : totalTips < protocolFeeAmount)
    (ncnAddress tipDistributionProgramId tipRouterProgramId : Pubkey) :
    TreeNode.vecFromStakeMeta sdk stakeMeta protocolFeeBps ncnAddress epoch
      tipDistributionProgramId tipRouterProgramId = .error .checkedMathError := by
  subst tips
  unfold TreeNode.vecFromStakeMeta
  rw [distributed]
  dsimp only
  rw [fee, ok_bind]
  cases validator : feeAmount tipDistributionMeta.totalTips tipDistributionMeta.validatorFeeBps with
  | error failure =>
    cases failure
    rfl
  | ok validatorAmount =>
    have nothing : (splitTips tipDistributionMeta.totalTips validatorAmount protocolFeeAmount).2 =
        none := by
      unfold splitTips
      split
      · rfl
      · rename_i totalFees sum
        have short : checkedSub tipDistributionMeta.totalTips protocolFeeAmount = none :=
          if_neg (by omega)
        rw [checkedAdd_eq_some_iff] at sum
        rw [if_pos (by omega), short]
    rw [ok_bind, nothing]
    rfl

end TipRouter.GeneratedMerkleTree
