import Mathlib.Data.List.ReduceOption
import TipRouter.StakeMetaGenerator

/-! The claimer, `tip-router-operator-cli/src/claim.rs`: it passes over the nodes
whose claim status account exists already and claims the others. It looks for
that account under the address the generator wrote into the node, but claims
into the address derived from the node's claimant; the two agree except for
some delegations. -/
namespace TipRouter
open Runs GeneratedMerkleTree

/-- `CONFIG_SEED` of the tip distribution program. -/
def tipDistributionConfigSeed : List UInt8 := "CONFIG_ACCOUNT".toUTF8.toList

/-- The claim status account of an owner, as a seeded address of a program. -/
def GeneratedMerkleTree.TipDistribution.claimStatusAddress (sdk : TipDistribution)
    (owner tipDistributionAccount programId : Pubkey) : Pubkey × ℕ :=
  sdk.findProgramAddress
    [sdk.claimStatusSeed, owner.toBytes.toList, tipDistributionAccount.toBytes.toList] programId

/-- `ClaimWithPayerBuilder`, the accounts and arguments of one claim. -/
structure ClaimWithPayer where
  accountPayer : Pubkey
  ncn : Pubkey
  config : Pubkey
  tipDistributionProgram : Pubkey
  tipDistributionConfig : Pubkey
  tipDistributionAccount : Pubkey
  claimStatus : Pubkey
  claimant : Pubkey
  proof : List Bytes32
  amount : ℕ
  bump : ℕ
  deriving DecidableEq

structure ClaimTransaction where
  computeUnitLimit : ℕ
  computeUnitPrice : ℕ
  claim : ClaimWithPayer
  payer : Pubkey
  deriving DecidableEq

/-- The accounts the claimer has read, each map with the keys that exist. -/
structure ClaimAccounts where
  tdas : Pubkey → Option AccountSharedData
  claimants : Pubkey → Option AccountSharedData
  claimStatus : Pubkey → Option AccountSharedData

namespace MevClaims

variable (sdk : TipSdk) (tipDistributionProgramId tipRouterProgramId : Pubkey)
variable (accounts : ClaimAccounts) (ncnAddress : Pubkey)

def tipRouterConfigAddress : Pubkey :=
  (sdk.findProgramAddress ["config".toUTF8.toList, ncnAddress.toBytes.toList] tipRouterProgramId).1

/-- The seeds of the account payer name the NCN twice. -/
def tipRouterAccountPayer : Pubkey :=
  (sdk.findProgramAddress ["account_payer".toUTF8.toList, ncnAddress.toBytes.toList,
    ncnAddress.toBytes.toList] tipRouterProgramId).1

/-- A key of the map `claim_statuses`: an account laid out as a claim status. -/
def isClaimStatus (claimStatus : Pubkey → Option AccountSharedData) (pubkey : Pubkey) : Bool :=
  (claimStatus pubkey).any fun account => sdk.deserializesClaimStatus account.data

/-- The test at the top of the loop over the nodes. -/
def skipped (node : GeneratedMerkleTree.TreeNode) : Bool :=
  (accounts.claimants node.claimant).isNone ||
    isClaimStatus sdk accounts.claimStatus node.claimStatusPubkey || node.amount == 0

def claimOf (tipDistributionAccount : Pubkey) (node : GeneratedMerkleTree.TreeNode) :
    Except Panic ClaimWithPayer := do
  let (claimStatusPubkey, claimStatusBump) :=
    sdk.claimStatusAddress node.claimant tipDistributionAccount tipDistributionProgramId
  let proof ← unwrap node.proof
  return {
    accountPayer := tipRouterAccountPayer sdk tipRouterProgramId ncnAddress
    ncn := ncnAddress
    config := tipRouterConfigAddress sdk tipRouterProgramId ncnAddress
    tipDistributionProgram := tipDistributionProgramId
    tipDistributionConfig :=
      (sdk.findProgramAddress [tipDistributionConfigSeed] tipDistributionProgramId).1
    tipDistributionAccount := tipDistributionAccount
    claimStatus := claimStatusPubkey
    claimant := node.claimant
    proof := proof
    amount := node.amount
    bump := claimStatusBump }

/-- The claims into one tree. A distribution account that does not exist panics. -/
def claimsOfTree (tree : GeneratedMerkleTree) : Except Panic (List ClaimWithPayer) :=
  if tree.maxTotalClaim = 0 then .ok []
  else do
    let tipDistributionAccount ← unwrap ((accounts.tdas tree.tipDistributionAccount).bind
      fun account => sdk.deserializeTipDistributionAccount account.data)
    if tipDistributionAccount.merkleRoot.isNone ||
        tipDistributionAccount.merkleRootUploadAuthority ≠
          tipRouterConfigAddress sdk tipRouterProgramId ncnAddress then
      return []
    else
      (tree.treeNodes.filter fun node => !skipped sdk accounts node).mapM
        (claimOf sdk tipDistributionProgramId tipRouterProgramId ncnAddress
          tree.tipDistributionAccount)

def buildMevClaimTransactions (merkleTrees : GeneratedMerkleTreeCollection)
    (microLamports : ℕ) (payerPubkey : Pubkey) : Except Panic (List ClaimTransaction) := do
  let instructions ← merkleTrees.generatedMerkleTrees.mapM
    (claimsOfTree sdk tipDistributionProgramId tipRouterProgramId accounts ncnAddress)
  return instructions.flatten.map fun claim => {
    computeUnitLimit := 100000
    computeUnitPrice := microLamports
    claim := claim
    payer := payerPubkey }

end MevClaims

/-! ## What the generator writes into a node -/

namespace GeneratedMerkleTree

variable {sdk : TipDistribution} {tipDistributionProgramId : Pubkey}

/-- A node names the claim status account its claimant claims into. -/
def TreeNode.NamesClaimStatus (sdk : TipDistribution)
    (tipDistributionAccount tipDistributionProgramId : Pubkey) (node : TreeNode) : Prop :=
  node.claimStatusPubkey =
    (sdk.claimStatusAddress node.claimant tipDistributionAccount tipDistributionProgramId).1

/-- When the generator and the claimer derive one address for a delegation. -/
def Delegation.ClaimStatusAgrees (sdk : TipDistribution) (tipDistributionProgramId : Pubkey)
    (epoch : ℕ) (delegation : Delegation) : Prop :=
  tipDistributionProgramId = sdk.programId ∧
    (epoch + 1 ≤ 737 ∨ delegation.stakerPubkey = delegation.stakeAccountPubkey)

/-- Address derivation is injective on the claim statuses that stakers and stake
accounts may be given, under either program. -/
def StakeMeta.SeparatesClaimStatuses (sdk : TipDistribution) (tipDistributionProgramId : Pubkey)
    (stakeMeta : StakeMeta) : Prop :=
  ∀ tipDistributionMeta, stakeMeta.maybeTipDistributionMeta = some tipDistributionMeta →
    ∀ delegation ∈ stakeMeta.delegations,
      ∀ owner ∈ [delegation.stakerPubkey, delegation.stakeAccountPubkey],
        (sdk.claimStatusAddress delegation.stakerPubkey tipDistributionMeta.tipDistributionPubkey
            sdk.programId).1 =
          (sdk.claimStatusAddress owner tipDistributionMeta.tipDistributionPubkey
            tipDistributionProgramId).1 →
        delegation.stakerPubkey = owner ∧ sdk.programId = tipDistributionProgramId

theorem TreeNode.fromDelegation_spec {tipDistributionAccount : Pubkey}
    {remaining total targetEpoch : ℕ} {delegation : Delegation} {node : TreeNode}
    (made : TreeNode.fromDelegation sdk tipDistributionAccount remaining total targetEpoch
      delegation = .ok node) :
    node.claimant = (if targetEpoch > 737 then delegation.stakeAccountPubkey
      else delegation.stakerPubkey) ∧
    node.claimStatusPubkey =
      (sdk.claimStatusAddress delegation.stakerPubkey tipDistributionAccount sdk.programId).1 := by
  simp only [TreeNode.fromDelegation, bind_eq_ok, pure_eq_ok_iff] at made
  obtain ⟨product, -, quotient, -, rewardAmount, -, rfl⟩ := made
  exact ⟨rfl, rfl⟩

/-- The node of a delegation names its claim status exactly where both derive the
same address. -/
theorem fromDelegation_names_iff {tipDistributionAccount : Pubkey} {remaining total epoch : ℕ}
    {delegation : Delegation} {node : TreeNode}
    (separates : ∀ owner ∈ [delegation.stakerPubkey, delegation.stakeAccountPubkey],
      (sdk.claimStatusAddress delegation.stakerPubkey tipDistributionAccount sdk.programId).1 =
        (sdk.claimStatusAddress owner tipDistributionAccount tipDistributionProgramId).1 →
      delegation.stakerPubkey = owner ∧ sdk.programId = tipDistributionProgramId)
    (made : TreeNode.fromDelegation sdk tipDistributionAccount remaining total (epoch + 1)
      delegation = .ok node) :
    node.NamesClaimStatus sdk tipDistributionAccount tipDistributionProgramId ↔
      delegation.ClaimStatusAgrees sdk tipDistributionProgramId epoch := by
  obtain ⟨claimant, claimStatus⟩ := TreeNode.fromDelegation_spec made
  unfold TreeNode.NamesClaimStatus Delegation.ClaimStatusAgrees
  rw [claimant, claimStatus]
  by_cases later : epoch + 1 > 737
  · rw [if_pos later]
    constructor
    · intro same
      obtain ⟨owner, program⟩ := separates delegation.stakeAccountPubkey (by simp) same
      exact ⟨program.symm, .inr owner⟩
    · rintro ⟨program, early | owner⟩
      · omega
      · rw [program, owner]
  · rw [if_neg later]
    constructor
    · intro same
      obtain ⟨-, program⟩ := separates delegation.stakerPubkey (by simp) same
      exact ⟨program.symm, .inl (by omega)⟩
    · rintro ⟨program, -⟩
      rw [program]

/-- The nodes of a stake meta: two that name their own claim statuses, and one
for each delegation. -/
theorem vecFromStakeMeta_eq_ok {stakeMeta : StakeMeta} {protocolFeeBps epoch : ℕ}
    {ncnAddress tipRouterProgramId : Pubkey} {tipDistributionMeta : TipDistributionMeta}
    {nodes : List TreeNode}
    (distributed : stakeMeta.maybeTipDistributionMeta = some tipDistributionMeta)
    (returned : TreeNode.vecFromStakeMeta sdk stakeMeta protocolFeeBps ncnAddress epoch
      tipDistributionProgramId tipRouterProgramId = .ok (some nodes)) :
    ∃ protocol validator delegated remaining,
      nodes = protocol :: validator :: delegated ∧
      protocol.NamesClaimStatus sdk tipDistributionMeta.tipDistributionPubkey
        tipDistributionProgramId ∧
      validator.NamesClaimStatus sdk tipDistributionMeta.tipDistributionPubkey
        tipDistributionProgramId ∧
      stakeMeta.delegations.mapM (TreeNode.fromDelegation sdk
        tipDistributionMeta.tipDistributionPubkey remaining stakeMeta.totalDelegated (epoch + 1)) =
          .ok delegated := by
  unfold TreeNode.vecFromStakeMeta at returned
  rw [distributed] at returned
  simp only [bind_eq_ok, okOr_eq_ok_iff, checkedAdd_eq_some_iff, pure_eq_ok_iff] at returned
  obtain ⟨protocolFee, -, validatorAmount, -, remaining, -, targetEpoch, ⟨-, rfl⟩, delegated, mapped,
    same⟩ := returned
  cases same
  exact ⟨_, _, delegated, remaining, rfl, rfl, rfl, mapped⟩

/-- A stake meta's nodes all name their claim statuses exactly where each of its
delegations does. -/
theorem vecFromStakeMeta_names_iff {stakeMeta : StakeMeta} {protocolFeeBps epoch : ℕ}
    {ncnAddress tipRouterProgramId : Pubkey} {tipDistributionMeta : TipDistributionMeta}
    {nodes : List TreeNode}
    (separates : stakeMeta.SeparatesClaimStatuses sdk tipDistributionProgramId)
    (distributed : stakeMeta.maybeTipDistributionMeta = some tipDistributionMeta)
    (returned : TreeNode.vecFromStakeMeta sdk stakeMeta protocolFeeBps ncnAddress epoch
      tipDistributionProgramId tipRouterProgramId = .ok (some nodes)) :
    (∀ node ∈ nodes, node.NamesClaimStatus sdk tipDistributionMeta.tipDistributionPubkey
      tipDistributionProgramId) ↔
    ∀ delegation ∈ stakeMeta.delegations,
      delegation.ClaimStatusAgrees sdk tipDistributionProgramId epoch := by
  obtain ⟨protocol, validator, delegated, remaining, rfl, ofProtocol, ofValidator, mapped⟩ :=
    vecFromStakeMeta_eq_ok distributed returned
  have related := forall₂_of_mapM mapped
  have apart := separates tipDistributionMeta distributed
  rw [List.forall_mem_cons, List.forall_mem_cons, and_iff_right ofProtocol,
    and_iff_right ofValidator]
  generalize stakeMeta.delegations = delegations at related apart
  clear mapped returned
  induction related with
  | nil => simp
  | cons made _ ih =>
    obtain ⟨here, rest⟩ := List.forall_mem_cons.mp apart
    rw [List.forall_mem_cons, List.forall_mem_cons]
    exact and_congr (fromDelegation_names_iff here made) (ih rest)

/-- Whatever nodes a stake meta is split into, they get their tree. -/
theorem ofStakeMeta_ok (hashv : Hashv) {stakeMeta : StakeMeta} {protocolFeeBps epoch : ℕ}
    {ncnAddress tipRouterProgramId : Pubkey} {tipDistributionMeta : TipDistributionMeta}
    {nodes : List TreeNode}
    (distributed : stakeMeta.maybeTipDistributionMeta = some tipDistributionMeta)
    (returned : TreeNode.vecFromStakeMeta sdk stakeMeta protocolFeeBps ncnAddress epoch
      tipDistributionProgramId tipRouterProgramId = .ok (some nodes)) :
    ∃ tree, ofStakeMeta sdk hashv stakeMeta protocolFeeBps ncnAddress epoch
      tipDistributionProgramId tipRouterProgramId = .ok (some tree) := by
  obtain ⟨protocol, validator, delegated, -, rfl, -⟩ := vecFromStakeMeta_eq_ok distributed returned
  let nodes := protocol :: validator :: delegated
  let leaves := nodes.map fun node => (node.hash hashv).toList
  obtain ⟨merkleTree, built⟩ : ∃ merkleTree, MerkleTree.new hashv leaves true = .ok merkleTree :=
    ⟨_, MerkleTree.new_eq _⟩
  obtain ⟨root, isTop⟩ := HashTree.root_isSome (combineSorted hashv)
    (leaves.map (hashLeaf hashv)) (by simp [leaves, nodes])
  have isRoot := (MerkleTree.getRoot_eq built).trans isTop
  have provable : ∀ item ∈ nodes.zipIdx, ∃ node,
      (do
        let proof ← getProof merkleTree item.2
        return { item.1 with proof := some proof } :
        Except (Failure MerkleRootGeneratorError) TreeNode) = .ok node := by
    rintro ⟨node, i⟩ member
    have here : leaves[i]? = some (node.hash hashv).toList := by
      rw [List.getElem?_map, List.mk_mem_zipIdx_iff_getElem?.mp member, Option.map_some]
    obtain ⟨proof, _, found, -, -⟩ := getProof_eq built here
    exact ⟨_, by rw [found]; rfl⟩
  obtain ⟨proved, mapped⟩ := exists_mapM_ok provable
  refine ⟨⟨tipDistributionMeta.tipDistributionPubkey, tipDistributionMeta.merkleRootUploadAuthority,
    root, proved, tipDistributionMeta.totalTips, nodes.length⟩, ?_⟩
  refine bind_eq_ok.mpr ⟨some nodes, liftFailed_eq_ok_iff.mpr returned, ?_⟩
  refine bind_eq_ok.mpr ⟨tipDistributionMeta,
    liftPanic_eq_ok_iff.mpr (unwrap_eq_ok_iff.mpr distributed), ?_⟩
  refine bind_eq_ok.mpr ⟨merkleTree, liftPanic_eq_ok_iff.mpr built, ?_⟩
  refine bind_eq_ok.mpr ⟨proved, mapped, ?_⟩
  exact bind_eq_ok.mpr ⟨root, liftPanic_eq_ok_iff.mpr (unwrap_eq_ok_iff.mpr isRoot), rfl⟩

/-- A tree made of a stake meta: the nodes it was split into, with proofs. -/
theorem ofStakeMeta_eq_ok {hashv : Hashv} {stakeMeta : StakeMeta} {protocolFeeBps epoch : ℕ}
    {ncnAddress tipRouterProgramId : Pubkey} {tree : GeneratedMerkleTree}
    (made : ofStakeMeta sdk hashv stakeMeta protocolFeeBps ncnAddress epoch
      tipDistributionProgramId tipRouterProgramId = .ok (some tree)) :
    ∃ tipDistributionMeta nodes, stakeMeta.maybeTipDistributionMeta = some tipDistributionMeta ∧
      TreeNode.vecFromStakeMeta sdk stakeMeta protocolFeeBps ncnAddress epoch
        tipDistributionProgramId tipRouterProgramId = .ok (some nodes) ∧
      tree.tipDistributionAccount = tipDistributionMeta.tipDistributionPubkey ∧
      tree.maxTotalClaim = tipDistributionMeta.totalTips ∧
      List.Forall₂ (fun node proved => ∃ proof, proved = { node with proof := some proof })
        nodes tree.treeNodes := by
  obtain ⟨maybeTreeNodes, split, rest⟩ := bind_eq_ok.mp made
  cases maybeTreeNodes with
  | none => cases rest
  | some nodes =>
    simp only [bind_eq_ok, liftPanic_eq_ok_iff, unwrap_eq_ok_iff, pure_eq_ok_iff,
      Option.some.injEq] at rest
    obtain ⟨tipDistributionMeta, distributed, merkleTree, -, treeNodes, proved, merkleRoot, -, rfl⟩ :=
      rest
    refine ⟨tipDistributionMeta, nodes, distributed, by simpa using split, rfl, rfl, ?_⟩
    have related := forall₂_of_mapM proved
    rw [← List.zipIdx_map_fst 0 nodes, List.forall₂_map_left_iff]
    refine related.imp fun item node one => ?_
    obtain ⟨proof, -, same⟩ := bind_eq_ok.mp one
    cases same
    exact ⟨proof, rfl⟩

theorem vecFromStakeMeta_ne_none {stakeMeta : StakeMeta} {protocolFeeBps epoch : ℕ}
    {ncnAddress tipRouterProgramId : Pubkey} {tipDistributionMeta : TipDistributionMeta}
    (distributed : stakeMeta.maybeTipDistributionMeta = some tipDistributionMeta) :
    TreeNode.vecFromStakeMeta sdk stakeMeta protocolFeeBps ncnAddress epoch
      tipDistributionProgramId tipRouterProgramId ≠ .ok none := by
  intro split
  rw [TreeNode.vecFromStakeMeta, distributed] at split
  simp only [bind_eq_ok, pure_eq_ok_iff] at split
  obtain ⟨_, -, _, -, _, -, _, -, _, -, same⟩ := split
  cases same

theorem ofStakeMeta_ne_none {hashv : Hashv} {stakeMeta : StakeMeta} {protocolFeeBps epoch : ℕ}
    {ncnAddress tipRouterProgramId : Pubkey} {tipDistributionMeta : TipDistributionMeta}
    (distributed : stakeMeta.maybeTipDistributionMeta = some tipDistributionMeta) :
    ofStakeMeta sdk hashv stakeMeta protocolFeeBps ncnAddress epoch
      tipDistributionProgramId tipRouterProgramId ≠ .ok none := by
  intro made
  obtain ⟨maybeTreeNodes, split, rest⟩ := bind_eq_ok.mp made
  cases maybeTreeNodes with
  | none => exact vecFromStakeMeta_ne_none distributed (liftFailed_eq_ok_iff.mp split)
  | some nodes =>
    simp only [bind_eq_ok, pure_eq_ok_iff] at rest
    obtain ⟨_, -, _, -, _, -, _, -, same⟩ := rest
    cases same

/-- Every tree of a collection is made of one of its stake metas, and every stake
meta with a distribution account makes one. -/
theorem newFromStakeMetaCollection_eq_ok {hashv : Hashv} {collection : StakeMetaCollection}
    {protocolFeeBps epoch : ℕ} {ncnAddress tipRouterProgramId : Pubkey}
    {merkleTrees : GeneratedMerkleTreeCollection}
    (generated : GeneratedMerkleTreeCollection.newFromStakeMetaCollection sdk hashv collection
      ncnAddress epoch protocolFeeBps tipRouterProgramId = .ok merkleTrees) :
    (∀ tree ∈ merkleTrees.generatedMerkleTrees, ∃ stakeMeta ∈ collection.stakeMetas,
      ofStakeMeta sdk hashv stakeMeta protocolFeeBps ncnAddress epoch
        collection.tipDistributionProgramId tipRouterProgramId = .ok (some tree)) ∧
    ∀ stakeMeta ∈ collection.stakeMetas, stakeMeta.maybeTipDistributionMeta ≠ none →
      ∃ tree ∈ merkleTrees.generatedMerkleTrees,
        ofStakeMeta sdk hashv stakeMeta protocolFeeBps ncnAddress epoch
          collection.tipDistributionProgramId tipRouterProgramId = .ok (some tree) := by
  obtain ⟨maybeTrees, mapped, same⟩ := bind_eq_ok.mp generated
  cases same
  have related := forall₂_of_mapM mapped
  constructor
  · intro tree member
    obtain ⟨stakeMeta, listed, made⟩ :=
      exists_left_of_forall₂ related (List.reduceOption_mem_iff.mp member)
    exact ⟨stakeMeta, (List.mem_filter.mp listed).1, made⟩
  · intro stakeMeta listed distributed
    have kept : stakeMeta ∈ collection.stakeMetas.filter fun stakeMeta =>
        stakeMeta.maybeTipDistributionMeta.isSome :=
      List.mem_filter.mpr ⟨listed, Option.isSome_iff_ne_none.mpr distributed⟩
    obtain ⟨maybeTree, member, made⟩ := exists_right_of_forall₂ related kept
    cases maybeTree with
    | some tree => exact ⟨tree, List.reduceOption_mem_iff.mpr member, made⟩
    | none =>
      -- a stake meta with a distribution account is split into nodes
      obtain ⟨tipDistributionMeta, found⟩ := Option.ne_none_iff_exists'.mp distributed
      exact absurd made (ofStakeMeta_ne_none found)

/-- The nodes of a tree name their claim statuses as the stake meta's nodes do. -/
theorem ofStakeMeta_names_iff {hashv : Hashv} {stakeMeta : StakeMeta} {protocolFeeBps epoch : ℕ}
    {ncnAddress tipRouterProgramId : Pubkey} {tree : GeneratedMerkleTree}
    (separates : stakeMeta.SeparatesClaimStatuses sdk tipDistributionProgramId)
    (made : ofStakeMeta sdk hashv stakeMeta protocolFeeBps ncnAddress epoch
      tipDistributionProgramId tipRouterProgramId = .ok (some tree)) :
    (∀ node ∈ tree.treeNodes,
      node.NamesClaimStatus sdk tree.tipDistributionAccount tipDistributionProgramId) ↔
    ∀ delegation ∈ stakeMeta.delegations,
      delegation.ClaimStatusAgrees sdk tipDistributionProgramId epoch := by
  obtain ⟨tipDistributionMeta, nodes, distributed, returned, account, -, proved⟩ :=
    ofStakeMeta_eq_ok made
  rw [← vecFromStakeMeta_names_iff separates distributed returned, account]
  constructor
  · intro names node member
    obtain ⟨_, inside, proof, rfl⟩ := exists_right_of_forall₂ proved member
    have named := names _ inside
    exact named
  · intro names node member
    obtain ⟨_, inside, proof, rfl⟩ := exists_left_of_forall₂ proved member
    have named := names _ inside
    exact named

end GeneratedMerkleTree

/-! ## What is claimed -/

namespace MevClaims

variable {sdk : TipSdk} {tipDistributionProgramId tipRouterProgramId ncnAddress : Pubkey}
variable {accounts : ClaimAccounts}

/-- A claim is made for a node that is not passed over, into the address derived
from its claimant. -/
theorem of_mem_claimsOfTree {tree : GeneratedMerkleTree} {claims : List ClaimWithPayer}
    (made : claimsOfTree sdk tipDistributionProgramId tipRouterProgramId accounts ncnAddress tree =
      .ok claims) {claim : ClaimWithPayer} (member : claim ∈ claims) :
    ∃ node ∈ tree.treeNodes, skipped sdk accounts node = false ∧
      claim.claimStatus = (sdk.claimStatusAddress node.claimant tree.tipDistributionAccount
        tipDistributionProgramId).1 := by
  unfold claimsOfTree at made
  split at made
  · cases made
    cases member
  obtain ⟨tipDistributionAccount, -, rest⟩ := bind_eq_ok.mp made
  split at rest
  · cases rest
    cases member
  · obtain ⟨node, kept, claimed⟩ := exists_left_of_forall₂ (forall₂_of_mapM rest) member
    obtain ⟨inside, unskipped⟩ := List.mem_filter.mp kept
    obtain ⟨proof, -, same⟩ := bind_eq_ok.mp claimed
    cases same
    exact ⟨node, inside, by simpa using unskipped, rfl⟩

/-- Where the nodes name their claim statuses, and these were read from the
chain, no claim is made into an account that exists. -/
theorem claims_are_new {merkleTrees : GeneratedMerkleTreeCollection}
    {chain : Pubkey → Option AccountSharedData} {microLamports : ℕ} {payerPubkey : Pubkey}
    {transactions : List ClaimTransaction}
    (names : ∀ tree ∈ merkleTrees.generatedMerkleTrees, ∀ node ∈ tree.treeNodes,
      node.NamesClaimStatus sdk.toTipDistribution tree.tipDistributionAccount
        tipDistributionProgramId)
    (current : ∀ tree ∈ merkleTrees.generatedMerkleTrees, ∀ node ∈ tree.treeNodes,
      accounts.claimStatus node.claimStatusPubkey = chain node.claimStatusPubkey)
    (built : buildMevClaimTransactions sdk tipDistributionProgramId tipRouterProgramId accounts
      ncnAddress merkleTrees microLamports payerPubkey = .ok transactions) :
    ∀ transaction ∈ transactions, isClaimStatus sdk chain transaction.claim.claimStatus = false := by
  intro transaction member
  obtain ⟨instructions, mapped, same⟩ := bind_eq_ok.mp built
  cases same
  obtain ⟨claim, listed, rfl⟩ := List.mem_map.mp member
  obtain ⟨claims, inside, isClaim⟩ := List.mem_flatten.mp listed
  obtain ⟨tree, isTree, made⟩ := exists_left_of_forall₂ (forall₂_of_mapM mapped) inside
  obtain ⟨node, isNode, unskipped, address⟩ := of_mem_claimsOfTree made isClaim
  simp only [skipped, Bool.or_eq_false_iff] at unskipped
  obtain ⟨⟨-, unclaimed⟩, -⟩ := unskipped
  have named : claim.claimStatus = node.claimStatusPubkey :=
    address.trans (names tree isTree node isNode).symm
  rw [named]
  unfold isClaimStatus at unclaimed ⊢
  rw [← current tree isTree node isNode]
  exact unclaimed

/-- Where the distribution account can be read and every node has its proof, each
node that is not passed over is claimed. -/
theorem claimsOfTree_ok {tree : GeneratedMerkleTree} {account : AccountSharedData}
    {tipDistributionAccount : TipDistributionAccount} {merkleRoot : Bytes32}
    (some_claim : tree.maxTotalClaim ≠ 0)
    (found : accounts.tdas tree.tipDistributionAccount = some account)
    (read : sdk.deserializeTipDistributionAccount account.data = some tipDistributionAccount)
    (uploaded : tipDistributionAccount.merkleRoot = some merkleRoot)
    (authority : tipDistributionAccount.merkleRootUploadAuthority =
      tipRouterConfigAddress sdk tipRouterProgramId ncnAddress)
    (proved : ∀ node ∈ tree.treeNodes, ∃ proof, node.proof = some proof) :
    ∃ claims, claimsOfTree sdk tipDistributionProgramId tipRouterProgramId accounts ncnAddress tree =
      .ok claims ∧ ∀ node ∈ tree.treeNodes, skipped sdk accounts node = false →
        ∃ claim ∈ claims, claim.claimStatus = (sdk.claimStatusAddress node.claimant
          tree.tipDistributionAccount tipDistributionProgramId).1 := by
  have claimable : ∀ node ∈ tree.treeNodes.filter fun node => !skipped sdk accounts node,
      ∃ claim, claimOf sdk tipDistributionProgramId tipRouterProgramId ncnAddress
        tree.tipDistributionAccount node = .ok claim := by
    intro node kept
    obtain ⟨proof, has⟩ := proved node (List.mem_filter.mp kept).1
    exact ⟨_, bind_eq_ok.mpr ⟨proof, unwrap_eq_ok_iff.mpr has, rfl⟩⟩
  obtain ⟨claims, mapped⟩ := exists_mapM_ok claimable
  refine ⟨claims, ?_, ?_⟩
  · rw [claimsOfTree, if_neg some_claim, found, Option.bind_some, read]
    refine bind_eq_ok.mpr ⟨tipDistributionAccount, rfl, ?_⟩
    rw [uploaded, authority]
    simpa using mapped
  · intro node member unskipped
    have kept : node ∈ tree.treeNodes.filter fun node => !skipped sdk accounts node :=
      List.mem_filter.mpr ⟨member, by rw [unskipped]; rfl⟩
    obtain ⟨claim, inside, claimed⟩ := exists_right_of_forall₂ (forall₂_of_mapM mapped) kept
    obtain ⟨proof, -, same⟩ := bind_eq_ok.mp claimed
    cases same
    exact ⟨_, inside, rfl⟩

end MevClaims

/-- The nodes of a stake meta name the claim status accounts of their claimants,
and no account that exists is claimed into again, exactly where every delegation
has one address under both programs and, after the epoch gate, is staked by its
own stake account. -/
theorem claim_statuses_agree_iff (sdk : TipSdk) (hashv : Hashv) :
    (∀ (stakeMeta : StakeMeta) (protocolFeeBps epoch : ℕ)
      (ncnAddress tipDistributionProgramId tipRouterProgramId : Pubkey)
      (tipDistributionMeta : TipDistributionMeta) (nodes : List GeneratedMerkleTree.TreeNode),
      stakeMeta.SeparatesClaimStatuses sdk.toTipDistribution tipDistributionProgramId →
      stakeMeta.maybeTipDistributionMeta = some tipDistributionMeta →
      GeneratedMerkleTree.TreeNode.vecFromStakeMeta sdk.toTipDistribution stakeMeta protocolFeeBps
        ncnAddress epoch tipDistributionProgramId tipRouterProgramId = .ok (some nodes) →
      ((∀ node ∈ nodes, node.NamesClaimStatus sdk.toTipDistribution
          tipDistributionMeta.tipDistributionPubkey tipDistributionProgramId) ↔
        ∀ delegation ∈ stakeMeta.delegations,
          delegation.ClaimStatusAgrees sdk.toTipDistribution tipDistributionProgramId epoch)) ∧
    (∀ (collection : StakeMetaCollection) (protocolFeeBps epoch : ℕ)
      (ncnAddress tipRouterProgramId : Pubkey) (merkleTrees : GeneratedMerkleTreeCollection),
      (∀ stakeMeta ∈ collection.stakeMetas, stakeMeta.SeparatesClaimStatuses
        sdk.toTipDistribution collection.tipDistributionProgramId) →
      GeneratedMerkleTreeCollection.newFromStakeMetaCollection sdk.toTipDistribution hashv collection
        ncnAddress epoch protocolFeeBps tipRouterProgramId = .ok merkleTrees →
      (((∀ tree ∈ merkleTrees.generatedMerkleTrees, ∀ node ∈ tree.treeNodes,
            node.NamesClaimStatus sdk.toTipDistribution tree.tipDistributionAccount
              collection.tipDistributionProgramId) ∧
          ∀ (accounts : ClaimAccounts) (chain : Pubkey → Option AccountSharedData)
            (claimedBy claimedFor : Pubkey) (microLamports : ℕ) (payerPubkey : Pubkey)
            (transactions : List ClaimTransaction),
            (∀ tree ∈ merkleTrees.generatedMerkleTrees, ∀ node ∈ tree.treeNodes,
              accounts.claimStatus node.claimStatusPubkey = chain node.claimStatusPubkey) →
            MevClaims.buildMevClaimTransactions sdk collection.tipDistributionProgramId
              claimedBy accounts claimedFor merkleTrees microLamports payerPubkey =
                .ok transactions →
            ∀ transaction ∈ transactions,
              MevClaims.isClaimStatus sdk chain transaction.claim.claimStatus = false) ↔
        ∀ stakeMeta ∈ collection.stakeMetas, stakeMeta.maybeTipDistributionMeta ≠ none →
          ∀ delegation ∈ stakeMeta.delegations, delegation.ClaimStatusAgrees sdk.toTipDistribution
            collection.tipDistributionProgramId epoch)) := by
  constructor
  · intro stakeMeta protocolFeeBps epoch ncnAddress tipDistributionProgramId tipRouterProgramId
      tipDistributionMeta nodes separates distributed returned
    exact vecFromStakeMeta_names_iff separates distributed returned
  · intro collection protocolFeeBps epoch ncnAddress tipRouterProgramId merkleTrees separates generated
    obtain ⟨ofTree, ofStakeMeta⟩ := newFromStakeMetaCollection_eq_ok generated
    have names_iff : (∀ tree ∈ merkleTrees.generatedMerkleTrees, ∀ node ∈ tree.treeNodes,
          node.NamesClaimStatus sdk.toTipDistribution tree.tipDistributionAccount
            collection.tipDistributionProgramId) ↔
        ∀ stakeMeta ∈ collection.stakeMetas, stakeMeta.maybeTipDistributionMeta ≠ none →
          ∀ delegation ∈ stakeMeta.delegations, delegation.ClaimStatusAgrees sdk.toTipDistribution
            collection.tipDistributionProgramId epoch := by
      constructor
      · intro names stakeMeta listed distributed
        obtain ⟨tree, member, made⟩ := ofStakeMeta stakeMeta listed distributed
        exact (ofStakeMeta_names_iff (separates stakeMeta listed) made).mp (names tree member)
      · intro agrees tree member
        obtain ⟨stakeMeta, listed, made⟩ := ofTree tree member
        have distributed : stakeMeta.maybeTipDistributionMeta ≠ none := by
          obtain ⟨_, _, distributed, -⟩ := ofStakeMeta_eq_ok made
          rw [distributed]
          exact Option.some_ne_none _
        exact (ofStakeMeta_names_iff (separates stakeMeta listed) made).mpr
          (agrees stakeMeta listed distributed)
    rw [← names_iff]
    refine ⟨fun both => both.1, fun names => ⟨names, ?_⟩⟩
    intro accounts chain claimedBy claimedFor microLamports payerPubkey transactions current built
    exact MevClaims.claims_are_new names current built

/-! ## A delegation whose staker is not its stake account -/

namespace MevClaims

/-- A key from its bytes, most significant first. -/
def keyOf (value : ℕ) : Pubkey :=
  ⟨Vector.ofFn fun i => UInt8.ofNat (value / 256 ^ (31 - i.val))⟩

/-- The program ids of the two programs on mainnet. -/
def mainnetTipDistribution : Pubkey :=
  keyOf 0x32bc07c7fde53f2c9f458ae851f2582a9ec4fb000a87d667c4770f16d1d1fc9c
def mainnetTipRouter : Pubkey :=
  keyOf 0x065afb9df9f60d12f2093a8e82b854afda8c5f860af0738f5d1387152333ee2c

/-- `CLAIM_STATUS_SEED`. -/
def claimStatusSeed : List UInt8 := "CLAIM_STATUS".toUTF8.toList

def baseRewardReceiver : Pubkey :=
  keyOf 0x5d03ba7a68ccb31d3a863e8b4681a5bb5dc81e7d74ace08f1f98ee86350f7b33
def earlyRewardReceiver : Pubkey :=
  keyOf 0x7b0ed6c9f7c2915a5136d16b9bb2a5d8bab7d0bab9bb6fd81219cf3f576af0b8
def routerConfig : Pubkey :=
  keyOf 0x2d0d25bda9d5567883b1b797e3c3da13e8b72bb8b42feaf624ea2da0843b1be4
def stakerClaimStatus : Pubkey :=
  keyOf 0x4de444eefb39e0589fe17aa1a79a3e98e491ca680e43acbbf49fe287cba10a15
def stakeAccountClaimStatus : Pubkey :=
  keyOf 0x5a9e9d271189b5438ce78b756da06ddb7e64066faa75a2167ecab51ac9006c95

/-- The seeded addresses that one stake meta needs before and after the epoch
gate, as the runtime derives them. -/
def derivedAddresses : List ((List (List UInt8) × Pubkey) × Pubkey × ℕ) :=
  [((["base_reward_receiver".toUTF8.toList, (keyOf 23).toBytes.toList, toLeBytes 801],
      mainnetTipRouter), baseRewardReceiver, 255),
    ((["base_reward_receiver".toUTF8.toList, (keyOf 23).toBytes.toList, toLeBytes 701],
      mainnetTipRouter), earlyRewardReceiver, 254),
    ((["config".toUTF8.toList, (keyOf 23).toBytes.toList], mainnetTipRouter), routerConfig, 255),
    ((["account_payer".toUTF8.toList, (keyOf 23).toBytes.toList, (keyOf 23).toBytes.toList],
      mainnetTipRouter),
      keyOf 0x19f50b97b179522df0f27fd49bb1535ccad77e76e6595042074395727ae9104d, 255),
    (([tipDistributionConfigSeed], mainnetTipDistribution),
      keyOf 0x068538135f909a0469249703e31b0b233cd8bcab5a33a044515b02f16b6e49b5, 255),
    (([claimStatusSeed, baseRewardReceiver.toBytes.toList, (keyOf 8).toBytes.toList],
      mainnetTipDistribution),
      keyOf 0x8563f11b827288186b03f3cfe83557e9a34b65d8a33fd9ed3d89546e6e3bffcf, 253),
    (([claimStatusSeed, earlyRewardReceiver.toBytes.toList, (keyOf 8).toBytes.toList],
      mainnetTipDistribution),
      keyOf 0x5737c29bdb92989a9ddb341e0cfa7e4b828aaddd1887e6b052e170b70d5ca765, 255),
    (([claimStatusSeed, (keyOf 3).toBytes.toList, (keyOf 8).toBytes.toList],
      mainnetTipDistribution),
      keyOf 0xd1b56fdb8a50fd50e446bbeb9364ddae1c43dbfa78957a446ac31747859c7bdc, 254),
    (([claimStatusSeed, (keyOf 12).toBytes.toList, (keyOf 8).toBytes.toList],
      mainnetTipDistribution), stakerClaimStatus, 254),
    (([claimStatusSeed, (keyOf 11).toBytes.toList, (keyOf 8).toBytes.toList],
      mainnetTipDistribution), stakeAccountClaimStatus, 255)]

/-- The distribution account with its Merkle root uploaded. -/
def distributionData : List UInt8 :=
  [85, 64, 113, 198, 234, 94, 120, 123] ++ (keyOf 2).toBytes.toList ++
    routerConfig.toBytes.toList ++ [1] ++ (keyOf 40).toBytes.toList ++ toLeBytes 1000 ++
    toLeBytes 3 ++ toLeBytes 920 ++ toLeBytes 1 ++ toLeBytes 800 ++ [244, 1] ++ toLeBytes 810 ++ [255]

/-- The claim status of the stake account, which has claimed its 920 lamports. -/
def claimedData : List UInt8 :=
  [22, 183, 249, 157, 247, 95, 150, 96] ++ [1] ++ (keyOf 11).toBytes.toList ++
    (keyOf 30).toBytes.toList ++ toLeBytes 346000000 ++ toLeBytes 920 ++ toLeBytes 810 ++ [255]

def mainnetSdk : TipSdk where
  findProgramAddress seeds programId :=
    (derivedAddresses.lookup (seeds, programId)).getD (.default, 255)
  claimStatusSeed := claimStatusSeed
  programId := mainnetTipDistribution
  deserializeConfig _ := none
  deserializeTipDistributionAccount data :=
    if data = distributionData then some ⟨500, routerConfig, some (keyOf 40).toBytes⟩ else none
  deserializesClaimStatus data := data == claimedData

/-- One delegation, authorised by another key than its stake account. -/
def delegatedStakeMeta : StakeMeta where
  validatorVoteAccount := keyOf 2
  validatorNodePubkey := keyOf 3
  maybeTipDistributionMeta := some ⟨routerConfig, keyOf 8, 1000, 500⟩
  delegations := [⟨keyOf 11, keyOf 12, keyOf 12, 100⟩]
  totalDelegated := 100
  commission := 5

def delegatedCollection : StakeMetaCollection :=
  ⟨[delegatedStakeMeta], mainnetTipDistribution, "", 800, 345999999⟩

/-- The stake account has claimed already. -/
def claimedAccounts : ClaimAccounts where
  tdas pubkey := if pubkey = keyOf 8 then some ⟨5000, distributionData⟩ else none
  claimants _ := some ⟨5000, []⟩
  claimStatus pubkey := if pubkey = stakeAccountClaimStatus then some ⟨1000, claimedData⟩ else none

private theorem delegatedStakeMeta_split :
    ∃ nodes node, GeneratedMerkleTree.TreeNode.vecFromStakeMeta mainnetSdk.toTipDistribution
        delegatedStakeMeta 300 (keyOf 23) 800 mainnetTipDistribution mainnetTipRouter =
          .ok (some nodes) ∧ node ∈ nodes ∧ node.claimant = keyOf 11 ∧
      node.claimStatusPubkey = stakerClaimStatus ∧ node.amount = 920 := by
  have runs : (GeneratedMerkleTree.TreeNode.vecFromStakeMeta mainnetSdk.toTipDistribution
      delegatedStakeMeta 300 (keyOf 23) 800 mainnetTipDistribution
      mainnetTipRouter).toOption.any (fun nodes => nodes.any fun nodes => nodes.any fun node =>
        decide (node.claimant = keyOf 11) && decide (node.claimStatusPubkey = stakerClaimStatus) &&
          decide (node.amount = 920)) = true := by decide +kernel
  obtain ⟨maybeNodes, split, test⟩ := exists_of_any runs
  obtain ⟨nodes, rfl, test⟩ := (Option.any_eq_true _ _).mp test
  obtain ⟨node, member, test⟩ := List.any_eq_true.mp test
  simp only [Bool.and_eq_true, decide_eq_true_eq] at test
  exact ⟨nodes, node, split, member, test.1.1, test.1.2, test.2⟩

/-- The node of the stake account names another account than it claims into, and
what the stake account has claimed is claimed into again. -/
theorem claimed_stake_account_claimed_again :
    ∃ merkleTrees transactions,
      GeneratedMerkleTreeCollection.newFromStakeMetaCollection mainnetSdk.toTipDistribution
        (fun _ => Vector.replicate 32 0) delegatedCollection (keyOf 23) 800 300 mainnetTipRouter =
          .ok merkleTrees ∧
      buildMevClaimTransactions mainnetSdk mainnetTipDistribution mainnetTipRouter claimedAccounts
        (keyOf 23) merkleTrees 0 (keyOf 30) = .ok transactions ∧
      (∃ tree ∈ merkleTrees.generatedMerkleTrees, ∃ node ∈ tree.treeNodes,
        ¬ node.NamesClaimStatus mainnetSdk.toTipDistribution tree.tipDistributionAccount
          mainnetTipDistribution) ∧
      ∃ transaction ∈ transactions,
        isClaimStatus mainnetSdk claimedAccounts.claimStatus transaction.claim.claimStatus = true := by
  obtain ⟨nodes, node, split, member, claimant, claimStatus, amount⟩ := delegatedStakeMeta_split
  have distribution : delegatedStakeMeta.maybeTipDistributionMeta =
      some ⟨routerConfig, keyOf 8, 1000, 500⟩ := rfl
  obtain ⟨tree, made⟩ := ofStakeMeta_ok (fun _ => Vector.replicate 32 0) distribution split
  obtain ⟨_, _, distributed, split', account, total, proved⟩ := ofStakeMeta_eq_ok made
  cases distribution.symm.trans distributed
  cases split.symm.trans split'
  have address : (mainnetSdk.claimStatusAddress (keyOf 11) (keyOf 8) mainnetTipDistribution).1 =
      stakeAccountClaimStatus := by decide +kernel
  have differs : stakerClaimStatus ≠ stakeAccountClaimStatus := by decide +kernel
  have unclaimed : isClaimStatus mainnetSdk claimedAccounts.claimStatus stakerClaimStatus =
      false := by decide +kernel
  have exists_already : isClaimStatus mainnetSdk claimedAccounts.claimStatus
      stakeAccountClaimStatus = true := by decide +kernel
  obtain ⟨_, inside, proof, rfl⟩ := exists_right_of_forall₂ proved member
  have claimed : ∃ claims, claimsOfTree mainnetSdk mainnetTipDistribution mainnetTipRouter
      claimedAccounts (keyOf 23) tree = .ok claims ∧ ∀ node ∈ tree.treeNodes,
        skipped mainnetSdk claimedAccounts node = false → ∃ claim ∈ claims, claim.claimStatus =
          (mainnetSdk.claimStatusAddress node.claimant tree.tipDistributionAccount
            mainnetTipDistribution).1 := by
    have found : claimedAccounts.tdas tree.tipDistributionAccount = some ⟨5000, distributionData⟩ := by
      rw [account]
      simp only [claimedAccounts, if_true]
    have read : mainnetSdk.deserializeTipDistributionAccount distributionData =
        some ⟨500, routerConfig, some (keyOf 40).toBytes⟩ := by
      simp only [mainnetSdk, if_true]
    have authority : routerConfig =
        tipRouterConfigAddress mainnetSdk mainnetTipRouter (keyOf 23) := by decide +kernel
    refine claimsOfTree_ok (by rw [total]; decide) found read rfl authority ?_
    intro other member
    obtain ⟨_, -, proof, rfl⟩ := exists_left_of_forall₂ proved member
    exact ⟨proof, rfl⟩
  obtain ⟨claims, claimed, each⟩ := claimed
  obtain ⟨claim, isClaim, into⟩ := each _ inside (by
    rw [skipped, claimStatus, unclaimed, amount]
    rfl)
  refine ⟨⟨[tree], "", 800, 345999999⟩, claims.map fun claim => ⟨100000, 0, claim, keyOf 30⟩,
    ?_, ?_, ⟨tree, List.mem_singleton_self _, _, inside, ?_⟩, ⟨_, List.mem_map_of_mem isClaim, ?_⟩⟩
  · refine bind_eq_ok.mpr ⟨[some tree], ?_, rfl⟩
    exact mapM_eq_ok_iff.mpr (.cons made .nil)
  · refine bind_eq_ok.mpr ⟨[claims], mapM_eq_ok_iff.mpr (.cons claimed .nil), ?_⟩
    rw [List.flatten_singleton]
    rfl
  · unfold TreeNode.NamesClaimStatus
    rw [claimStatus, claimant, account, address]
    exact differs
  · rw [into, claimant, account, address]
    exact exists_already

theorem delegatedStakeMeta_separates :
    delegatedStakeMeta.SeparatesClaimStatuses mainnetSdk.toTipDistribution
      mainnetTipDistribution := by
  intro tipDistributionMeta distributed delegation member owner isOwner
  cases distributed
  obtain rfl := List.mem_singleton.mp member
  revert owner
  decide +kernel

/-- After the gate the delegation's node names another account; before it, all
nodes of the same stake meta name their own. -/
theorem claim_statuses_agree_before_the_gate :
    (∃ nodes, GeneratedMerkleTree.TreeNode.vecFromStakeMeta mainnetSdk.toTipDistribution
        delegatedStakeMeta 300 (keyOf 23) 800 mainnetTipDistribution mainnetTipRouter =
          .ok (some nodes) ∧
      ¬ ∀ node ∈ nodes, node.NamesClaimStatus mainnetSdk.toTipDistribution (keyOf 8)
        mainnetTipDistribution) ∧
    ∃ merkleTrees, GeneratedMerkleTreeCollection.newFromStakeMetaCollection
        mainnetSdk.toTipDistribution (fun _ => Vector.replicate 32 0) delegatedCollection (keyOf 23)
        700 300 mainnetTipRouter = .ok merkleTrees ∧
      ∀ tree ∈ merkleTrees.generatedMerkleTrees, ∀ node ∈ tree.treeNodes,
        node.NamesClaimStatus mainnetSdk.toTipDistribution tree.tipDistributionAccount
          mainnetTipDistribution := by
  obtain ⟨ofStakeMeta, ofCollection⟩ :=
    claim_statuses_agree_iff mainnetSdk fun _ => Vector.replicate 32 0
  constructor
  · obtain ⟨nodes, -, split, -⟩ := delegatedStakeMeta_split
    refine ⟨nodes, split, ?_⟩
    have agree_iff := ofStakeMeta _ _ _ _ _ _ _ nodes delegatedStakeMeta_separates rfl split
    intro names
    obtain ⟨-, early | owner⟩ := agree_iff.mp names _ (List.mem_singleton_self _)
    · omega
    · revert owner
      decide +kernel
  · have runs : (GeneratedMerkleTree.TreeNode.vecFromStakeMeta mainnetSdk.toTipDistribution
        delegatedStakeMeta 300 (keyOf 23) 700 mainnetTipDistribution
        mainnetTipRouter).toOption.any Option.isSome = true := by decide +kernel
    obtain ⟨maybeNodes, split, isSome⟩ := exists_of_any runs
    obtain ⟨nodes, rfl⟩ := Option.isSome_iff_exists.mp isSome
    have distribution : delegatedStakeMeta.maybeTipDistributionMeta =
        some ⟨routerConfig, keyOf 8, 1000, 500⟩ := rfl
    obtain ⟨tree, made⟩ := ofStakeMeta_ok (fun _ => Vector.replicate 32 0) distribution split
    have generated : GeneratedMerkleTreeCollection.newFromStakeMetaCollection
        mainnetSdk.toTipDistribution (fun _ => Vector.replicate 32 0) delegatedCollection (keyOf 23)
        700 300 mainnetTipRouter = .ok ⟨[tree], "", 800, 345999999⟩ :=
      bind_eq_ok.mpr ⟨[some tree], mapM_eq_ok_iff.mpr (.cons made .nil), rfl⟩
    refine ⟨_, generated, ((ofCollection _ _ _ _ _ _ ?_ generated).mpr ?_).1⟩
    · intro stakeMeta member
      obtain rfl := List.mem_singleton.mp member
      exact delegatedStakeMeta_separates
    · intro stakeMeta _ _ delegation _
      exact ⟨rfl, .inl (by norm_num)⟩

end MevClaims
end TipRouter
