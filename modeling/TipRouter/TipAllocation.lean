import TipRouter.MevClaims

/-! How much of a validator's tips its claims promise. Three roundings cut
something off, and the claims of a tree are paid out of one account that holds
the tips and nothing else, so their sum may fall short of the tips but never
exceed them. -/
namespace TipRouter.GeneratedMerkleTree
open Runs

variable {sdk : TipDistribution} {stakeMeta : StakeMeta} {tipDistributionMeta : TipDistributionMeta}
variable {protocolFeeBps epoch : ℕ}

/-- The integers of a stake meta fit their fields, and its delegations make up
the total. -/
structure StakeMeta.Complete (stakeMeta : StakeMeta) : Prop where
  tips : ∀ tipDistributionMeta, stakeMeta.maybeTipDistributionMeta = some tipDistributionMeta →
    tipDistributionMeta.totalTips < 2 ^ 64 ∧ tipDistributionMeta.validatorFeeBps < 2 ^ 16
  total : stakeMeta.totalDelegated < 2 ^ 64
  summed : (stakeMeta.delegations.map (·.lamportsDelegated)).sum = stakeMeta.totalDelegated

/-- The nodes of a stake meta: the floors of the protocol's and the validator's
parts, the latter cut to what the former leaves, and the floors of the
delegators' shares in the rest. -/
structure Allocated (stakeMeta : StakeMeta) (tipDistributionMeta : TipDistributionMeta)
    (protocolFeeBps : ℕ) (protocolNode validatorNode : TreeNode) (delegationNodes : List TreeNode) :
    Prop where
  protocol : protocolNode.amount = tipDistributionMeta.totalTips * protocolFeeBps / maxBps
  validator : validatorNode.amount =
    min (tipDistributionMeta.totalTips * tipDistributionMeta.validatorFeeBps / maxBps)
      (tipDistributionMeta.totalTips - protocolNode.amount)
  delegations : delegationNodes.map (·.amount) = stakeMeta.delegations.map fun delegation =>
    delegation.lamportsDelegated *
      (tipDistributionMeta.totalTips - protocolNode.amount - validatorNode.amount) /
        stakeMeta.totalDelegated
  within : ((protocolNode :: validatorNode :: delegationNodes).map (·.amount)).sum ≤
    tipDistributionMeta.totalTips
  short : stakeMeta.delegations ≠ [] → tipDistributionMeta.totalTips <
    ((protocolNode :: validatorNode :: delegationNodes).map (·.amount)).sum +
      stakeMeta.delegations.length

/-! ## The parts -/

theorem feeAmount_eq_ok_iff {totalTips bps amount : ℕ} :
    feeAmount totalTips bps = .ok amount ↔
      totalTips * bps < 2 ^ 128 ∧ amount < 2 ^ 64 ∧ amount = totalTips * bps / maxBps := by
  simp only [feeAmount, bind_eq_ok, okOr_eq_ok_iff, checkedMul_eq_some_iff, checkedDiv_eq_some_iff,
    tryFrom_eq_some_iff]
  constructor
  · rintro ⟨_, ⟨product, rfl⟩, _, ⟨-, rfl⟩, fits, rfl⟩
    exact ⟨product, fits, rfl⟩
  · rintro ⟨product, fits, rfl⟩
    exact ⟨_, ⟨product, rfl⟩, _, ⟨by norm_num [maxBps], rfl⟩, fits, rfl⟩

/-- Fees that exceed the tips are cut at the validator's expense, but only while
their sum is a `u64`. -/
theorem splitTips_eq_some_iff {totalTips validatorAmount protocolFeeAmount remaining : ℕ} :
    (splitTips totalTips validatorAmount protocolFeeAmount).2 = some remaining ↔
      validatorAmount + protocolFeeAmount < 2 ^ 64 ∧ protocolFeeAmount ≤ totalTips ∧
        remaining = totalTips - protocolFeeAmount - validatorAmount := by
  unfold splitTips
  by_cases sum : validatorAmount + protocolFeeAmount < 2 ^ 64
  · rw [checkedAdd_of_lt sum]
    dsimp only
    by_cases covered : protocolFeeAmount ≤ totalTips
    · rw [checkedSub_of_le covered]
      split
      · simp only [Option.some.injEq]
        omega
      · rw [Option.bind_some, checkedSub_of_le (by omega), Option.some.injEq]
        omega
    · have short : checkedSub totalTips protocolFeeAmount = none := if_neg covered
      rw [short]
      split <;> simp [covered]
  · have overflow : checkedAdd 64 validatorAmount protocolFeeAmount = none := if_neg sum
    rw [overflow]
    constructor
    · intro nothing
      cases nothing
    · rintro ⟨fits, -⟩
      exact absurd fits sum

theorem splitTips_fst {totalTips validatorAmount protocolFeeAmount : ℕ}
    (sum : validatorAmount + protocolFeeAmount < 2 ^ 64) (covered : protocolFeeAmount ≤ totalTips) :
    (splitTips totalTips validatorAmount protocolFeeAmount).1 =
      min validatorAmount (totalTips - protocolFeeAmount) := by
  rw [splitTips, checkedAdd_of_lt sum, checkedSub_of_le covered]
  dsimp only
  split
  · exact (min_eq_right (by omega)).symm
  · exact (min_eq_left (by omega)).symm

theorem TreeNode.fromDelegation_amount {tipDistributionPubkey : Pubkey}
    {remaining total targetEpoch : ℕ} {delegation : Delegation} {node : TreeNode}
    (made : TreeNode.fromDelegation sdk tipDistributionPubkey remaining total targetEpoch
      delegation = .ok node) :
    total ≠ 0 ∧ node.amount = delegation.lamportsDelegated * remaining / total := by
  simp only [fromDelegation, bind_eq_ok, okOr_eq_ok_iff, checkedMul_eq_some_iff,
    checkedDiv_eq_some_iff, tryFrom_eq_some_iff, pure_eq_ok_iff] at made
  obtain ⟨_, ⟨-, rfl⟩, _, ⟨some, rfl⟩, _, ⟨-, rfl⟩, rfl⟩ := made
  exact ⟨some, rfl⟩

/-- The delegators' claims share what is left among them. -/
theorem delegated_amounts {tipDistributionPubkey : Pubkey} {remaining total targetEpoch : ℕ}
    {delegations : List Delegation} {delegated : List TreeNode}
    (mapped : delegations.mapM (TreeNode.fromDelegation sdk tipDistributionPubkey remaining total
      targetEpoch) = .ok delegated) :
    delegated.map (·.amount) =
      delegations.map fun delegation => delegation.lamportsDelegated * remaining / total := by
  have related := forall₂_of_mapM mapped
  clear mapped
  induction related with
  | nil => rfl
  | cons made _ ih =>
    rw [List.map_cons, List.map_cons, ih, (TreeNode.fromDelegation_amount made).2]

/-- Their sum loses less than a lamport for each of them. -/
theorem delegated_sum {tipDistributionPubkey : Pubkey} {remaining targetEpoch : ℕ}
    {delegated : List TreeNode} (complete : stakeMeta.Complete)
    (mapped : stakeMeta.delegations.mapM (TreeNode.fromDelegation sdk tipDistributionPubkey
      remaining stakeMeta.totalDelegated targetEpoch) = .ok delegated) :
    (delegated.map (·.amount)).sum ≤ remaining ∧ (stakeMeta.delegations ≠ [] →
      remaining < (delegated.map (·.amount)).sum + stakeMeta.delegations.length) := by
  have shares : delegated.map (·.amount) =
      (stakeMeta.delegations.map (·.lamportsDelegated)).map fun part =>
        remaining * part / stakeMeta.totalDelegated := by
    rw [delegated_amounts mapped, List.map_map]
    simp only [Function.comp_def, Nat.mul_comm remaining]
  rw [shares]
  refine ⟨sum_shares_le remaining complete.summed, fun some => ?_⟩
  obtain ⟨delegation, member⟩ := List.exists_mem_of_ne_nil _ some
  obtain ⟨node, -, made⟩ := exists_right_of_forall₂ (forall₂_of_mapM mapped) member
  have positive := Nat.pos_of_ne_zero (TreeNode.fromDelegation_amount made).1
  have short := lt_sum_shares remaining complete.summed positive (by simpa using some)
  rwa [List.length_map] at short

/-! ## The whole -/

/-- What a stake meta that can be split is split into. -/
theorem allocated_of_ok (complete : stakeMeta.Complete)
    (distributed : stakeMeta.maybeTipDistributionMeta = some tipDistributionMeta)
    {ncnAddress tipDistributionProgramId tipRouterProgramId : Pubkey} {nodes : Option (List TreeNode)}
    (returned : TreeNode.vecFromStakeMeta sdk stakeMeta protocolFeeBps ncnAddress epoch
      tipDistributionProgramId tipRouterProgramId = .ok nodes) :
    ∃ protocol validator delegated, nodes = some (protocol :: validator :: delegated) ∧
      Allocated stakeMeta tipDistributionMeta protocolFeeBps protocol validator delegated := by
  unfold TreeNode.vecFromStakeMeta at returned
  rw [distributed] at returned
  simp only [bind_eq_ok, okOr_eq_ok_iff, pure_eq_ok_iff, feeAmount_eq_ok_iff] at returned
  obtain ⟨_, ⟨-, -, rfl⟩, _, ⟨-, -, rfl⟩, remaining, split, targetEpoch, -, delegated, mapped,
    rfl⟩ := returned
  obtain ⟨sum, covered, left⟩ := splitTips_eq_some_iff.mp split
  have cut := splitTips_fst sum covered
  obtain ⟨bounded, short⟩ := delegated_sum complete mapped
  refine ⟨_, _, delegated, rfl, ?_⟩
  constructor
  case protocol => rfl
  case validator => exact cut
  case delegations =>
    have rest : tipDistributionMeta.totalTips -
        tipDistributionMeta.totalTips * protocolFeeBps / maxBps -
          (splitTips tipDistributionMeta.totalTips
            (tipDistributionMeta.totalTips * tipDistributionMeta.validatorFeeBps / maxBps)
            (tipDistributionMeta.totalTips * protocolFeeBps / maxBps)).1 = remaining := by omega
    rw [delegated_amounts mapped, rest]
  case within =>
    simp only [List.map_cons, List.sum_cons, cut]
    omega
  case short =>
    intro some
    have less := short some
    simp only [List.map_cons, List.sum_cons, cut]
    omega

/-- The tree of a stake meta is made for its tips, and promises no more. -/
theorem ofStakeMeta_claims {hashv : Hashv} {ncnAddress tipDistributionProgramId : Pubkey}
    {tipRouterProgramId : Pubkey} {tree : GeneratedMerkleTree} (complete : stakeMeta.Complete)
    (distributed : stakeMeta.maybeTipDistributionMeta = some tipDistributionMeta)
    (made : ofStakeMeta sdk hashv stakeMeta protocolFeeBps ncnAddress epoch
      tipDistributionProgramId tipRouterProgramId = .ok (some tree)) :
    tree.maxTotalClaim = tipDistributionMeta.totalTips ∧
      (tree.treeNodes.map (·.amount)).sum ≤ tree.maxTotalClaim := by
  obtain ⟨_, nodes, distributed', returned, -, claim, proved⟩ := ofStakeMeta_eq_ok made
  obtain rfl := Option.some.inj (distributed'.symm.trans distributed)
  obtain ⟨protocol, validator, delegated, same, allocated⟩ :=
    allocated_of_ok complete distributed returned
  cases same
  have amounts : tree.treeNodes.map (·.amount) =
      (protocol :: validator :: delegated).map (·.amount) := by
    refine List.forall₂_eq_eq_eq ▸ List.forall₂_map_right_iff.mpr ?_
    refine List.forall₂_map_left_iff.mpr (proved.flip.imp ?_)
    rintro _ node ⟨proof, rfl⟩
    rfl
  rw [amounts, claim]
  exact ⟨rfl, allocated.within⟩

/-- A stake meta with delegated stake is split, for every protocol fee of at most
all tips, exactly when the two fees together are a `u64`. -/
theorem vecFromStakeMeta_ok_iff (complete : stakeMeta.Complete)
    (distributed : stakeMeta.maybeTipDistributionMeta = some tipDistributionMeta)
    (capped : protocolFeeBps ≤ maxBps) (epochs : epoch + 1 < 2 ^ 64)
    (delegatedStake : 0 < stakeMeta.totalDelegated)
    (ncnAddress tipDistributionProgramId tipRouterProgramId : Pubkey) :
    (∃ nodes, TreeNode.vecFromStakeMeta sdk stakeMeta protocolFeeBps ncnAddress epoch
      tipDistributionProgramId tipRouterProgramId = .ok nodes) ↔
      tipDistributionMeta.totalTips * tipDistributionMeta.validatorFeeBps / maxBps +
        tipDistributionMeta.totalTips * protocolFeeBps / maxBps < 2 ^ 64 := by
  obtain ⟨tips, commission⟩ := complete.tips tipDistributionMeta distributed
  unfold TreeNode.vecFromStakeMeta
  rw [distributed]
  constructor
  · rintro ⟨nodes, returned⟩
    simp only [bind_eq_ok, okOr_eq_ok_iff, feeAmount_eq_ok_iff] at returned
    obtain ⟨_, ⟨-, -, rfl⟩, _, ⟨-, -, rfl⟩, remaining, split, -⟩ := returned
    exact (splitTips_eq_some_iff.mp split).1
  · intro sum
    obtain ⟨protocol, protocolLe⟩ := feeAmount_eq tips capped
    have validator : feeAmount tipDistributionMeta.totalTips tipDistributionMeta.validatorFeeBps =
        .ok (tipDistributionMeta.totalTips * tipDistributionMeta.validatorFeeBps / maxBps) := by
      refine feeAmount_eq_ok_iff.mpr ⟨?_, (Nat.le_add_right _ _).trans_lt sum, rfl⟩
      calc tipDistributionMeta.totalTips * tipDistributionMeta.validatorFeeBps
          < 2 ^ 64 * 2 ^ 16 := Nat.mul_lt_mul'' tips commission
        _ < 2 ^ 128 := by norm_num
    have split := splitTips_eq_some_iff.mpr ⟨sum, protocolLe, rfl⟩
    have left : tipDistributionMeta.totalTips -
        tipDistributionMeta.totalTips * protocolFeeBps / maxBps -
          tipDistributionMeta.totalTips * tipDistributionMeta.validatorFeeBps / maxBps < 2 ^ 64 :=
      (Nat.sub_le _ _).trans_lt ((Nat.sub_le _ _).trans_lt tips)
    obtain ⟨delegated, claims⟩ := exists_mapM_ok fun delegation member =>
      fromDelegation_ok sdk tipDistributionMeta.tipDistributionPubkey (epoch + 1)
        left complete.total delegatedStake (by
          rw [← complete.summed]
          exact List.single_le_sum (fun _ _ => Nat.zero_le _) _ (List.mem_map_of_mem member))
    dsimp only
    rw [protocol, ok_bind, validator, ok_bind, split, okOr_some, ok_bind,
      checkedAdd_of_lt epochs, okOr_some, ok_bind, claims]
    exact ⟨_, rfl⟩

/-- A stake meta is split into floors that together stay within its tips, which
are what its tree may claim, and lose less than a lamport for each delegation;
and with delegated stake and a protocol fee of at most all tips it is split
exactly when the protocol's and the validator's parts together are a `u64`. -/
theorem tip_allocation (complete : stakeMeta.Complete)
    (distributed : stakeMeta.maybeTipDistributionMeta = some tipDistributionMeta)
    (ncnAddress tipDistributionProgramId tipRouterProgramId : Pubkey) :
    (∀ nodes, TreeNode.vecFromStakeMeta sdk stakeMeta protocolFeeBps ncnAddress epoch
        tipDistributionProgramId tipRouterProgramId = .ok nodes →
      ∃ protocol validator delegated, nodes = some (protocol :: validator :: delegated) ∧
        Allocated stakeMeta tipDistributionMeta protocolFeeBps protocol validator delegated) ∧
    (∀ hashv tree, ofStakeMeta sdk hashv stakeMeta protocolFeeBps ncnAddress epoch
        tipDistributionProgramId tipRouterProgramId = .ok (some tree) →
      tree.maxTotalClaim = tipDistributionMeta.totalTips ∧
        (tree.treeNodes.map (·.amount)).sum ≤ tree.maxTotalClaim) ∧
    (protocolFeeBps ≤ maxBps → epoch < 2 ^ 64 - 1 → 0 < stakeMeta.totalDelegated →
      ((∃ nodes, TreeNode.vecFromStakeMeta sdk stakeMeta protocolFeeBps ncnAddress epoch
          tipDistributionProgramId tipRouterProgramId = .ok nodes) ↔
        tipDistributionMeta.totalTips * tipDistributionMeta.validatorFeeBps / maxBps +
          tipDistributionMeta.totalTips * protocolFeeBps / maxBps < 2 ^ 64)) := by
  refine ⟨fun nodes returned => allocated_of_ok complete distributed returned,
    fun hashv tree made => ofStakeMeta_claims complete distributed made, ?_⟩
  intro capped epochs delegatedStake
  exact vecFromStakeMeta_ok_iff complete distributed capped (by omega) delegatedStake ncnAddress
    tipDistributionProgramId tipRouterProgramId

/-- A thousand lamports among the protocol, the validator and two delegators. -/
theorem tip_allocation_of_thousand :
    ∃ nodes protocol validator delegated,
      TreeNode.vecFromStakeMeta ⟨fun _ _ => (.default, 0), [], .default⟩
        ⟨.default, .default, some ⟨.default, .default, 1000, 500⟩,
          [⟨.default, .default, .default, 1⟩, ⟨.default, .default, .default, 2⟩], 3, 0⟩
        300 .default 7 .default .default = .ok nodes ∧
      nodes = some (protocol :: validator :: delegated) ∧ protocol.amount = 30 := by
  let stakeMeta : StakeMeta := ⟨.default, .default, some ⟨.default, .default, 1000, 500⟩,
    [⟨.default, .default, .default, 1⟩, ⟨.default, .default, .default, 2⟩], 3, 0⟩
  have complete : stakeMeta.Complete := by
    refine ⟨?_, by decide, by decide⟩
    rintro _ ⟨⟩
    decide
  obtain ⟨allocates, -, succeeds⟩ := @tip_allocation ⟨fun _ _ => (.default, 0), [], .default⟩
    stakeMeta _ 300 7 complete rfl .default .default .default
  obtain ⟨nodes, returned⟩ := (succeeds (by decide) (by decide) (by decide)).mpr (by decide)
  obtain ⟨protocol, validator, delegated, split, allocated⟩ := allocates nodes returned
  exact ⟨nodes, protocol, validator, delegated, returned, split, allocated.protocol⟩

/-- With all of `2 ^ 63` lamports promised both to the protocol and to the
validator, the fees are not a `u64` and nothing is split. -/
theorem overflowing_fees_not_split :
    ∃ stakeMeta : StakeMeta, stakeMeta.Complete ∧ 0 < stakeMeta.totalDelegated ∧
      ∀ sdk ncnAddress tipDistributionProgramId tipRouterProgramId nodes,
        TreeNode.vecFromStakeMeta sdk stakeMeta 10000 ncnAddress 7 tipDistributionProgramId
          tipRouterProgramId ≠ .ok nodes := by
  let stakeMeta : StakeMeta := ⟨.default, .default, some ⟨.default, .default, 2 ^ 63, 10000⟩,
    [⟨.default, .default, .default, 1⟩], 1, 0⟩
  have complete : stakeMeta.Complete := by
    refine ⟨?_, by norm_num [stakeMeta], rfl⟩
    rintro _ ⟨⟩
    norm_num
  refine ⟨stakeMeta, complete, Nat.one_pos, ?_⟩
  intro sdk ncnAddress tipDistributionProgramId tipRouterProgramId nodes returned
  have sum := (vecFromStakeMeta_ok_iff complete rfl le_rfl (by norm_num) Nat.one_pos ncnAddress
    tipDistributionProgramId tipRouterProgramId).mp ⟨nodes, returned⟩
  norm_num [maxBps] at sum

/-- No tree promises more than its account holds. -/
theorem claims_le_maxTotalClaim {hashv : Hashv} {collection : StakeMetaCollection}
    {ncnAddress tipRouterProgramId : Pubkey} {merkleTrees : GeneratedMerkleTreeCollection}
    (complete : ∀ stakeMeta ∈ collection.stakeMetas, stakeMeta.Complete)
    (generated : GeneratedMerkleTreeCollection.newFromStakeMetaCollection sdk hashv collection
      ncnAddress epoch protocolFeeBps tipRouterProgramId = .ok merkleTrees) :
    ∀ tree ∈ merkleTrees.generatedMerkleTrees,
      (tree.treeNodes.map (·.amount)).sum ≤ tree.maxTotalClaim := by
  intro tree member
  obtain ⟨stakeMeta, inside, made⟩ := (newFromStakeMetaCollection_eq_ok generated).1 tree member
  obtain ⟨tipDistributionMeta, nodes, distributed, -⟩ := ofStakeMeta_eq_ok made
  exact (ofStakeMeta_claims (complete stakeMeta inside) distributed made).2

end TipRouter.GeneratedMerkleTree
