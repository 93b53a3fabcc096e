import Mathlib.Data.List.ReduceOption
import TipRouter.MetaMerkleProofs
import TipRouter.MevClaims

/-! Operators enumerate hash maps in whatever order they come and still vote for
the same root. Delegations are sorted by all their fields and stake metas by
distinct vote accounts, so both lists are the same however they were
enumerated; the trees of the distribution accounts inherit that order. The
meta tree sorts its nodes by hash, which leaves only equal hashes in doubt. -/
namespace TipRouter
open Runs CanonicalSort GeneratedMerkleTree

namespace GeneratedMerkleTree

instance Delegation.transCmp : Std.TransCmp Delegation.cmp :=
  inferInstanceAs (Std.TransCmp (compareLex (compareOn Delegation.stakeAccountPubkey)
    (compareLex (compareOn Delegation.withdrawerPubkey)
      (compareLex (compareOn Delegation.stakerPubkey) (compareOn Delegation.lamportsDelegated)))))

instance StakeMeta.transCmp : Std.TransCmp StakeMeta.cmp :=
  inferInstanceAs (Std.TransCmp (compareOn StakeMeta.validatorVoteAccount))

/-- No field of a delegation escapes its order. -/
theorem Delegation.eq_of_cmp {left right : Delegation} (same : left.cmp right = .eq) :
    left = right := by
  simp only [Delegation.cmp, compareLex, Ordering.then_eq_eq, compareOn] at same
  obtain ⟨stakeAccount, withdrawer, staker, lamports⟩ := same
  cases left
  cases right
  simp only [Delegation.mk.injEq]
  exact ⟨Pubkey.eq_of_compare stakeAccount, Pubkey.eq_of_compare staker,
    Pubkey.eq_of_compare withdrawer, Std.LawfulEqOrd.eq_of_compare lamports⟩

/-- Delegations are sorted to one list, whatever order they come in. -/
theorem sort_delegations {delegations others : List Delegation} (perm : delegations.Perm others) :
    sort Delegation.cmp delegations = sort Delegation.cmp others := by
  refine mergeSort_cmp_eq_of_perm ?_ perm
  intro left _ right _ same
  exact Delegation.eq_of_cmp same

/-- Stake metas of distinct vote accounts are sorted to one list. -/
theorem sort_stakeMetas {stakeMetas others : List StakeMeta}
    (distinct : (stakeMetas.map StakeMeta.validatorVoteAccount).Nodup)
    (perm : stakeMetas.Perm others) :
    sort StakeMeta.cmp stakeMetas = sort StakeMeta.cmp others := by
  refine mergeSort_cmp_eq_of_perm (separates_of_nodup StakeMeta.validatorVoteAccount ?_ distinct) perm
  intro left right same
  exact Pubkey.eq_of_compare same

/-! ## One stake meta -/

/-- Only the sum decides whether adding up panics. -/
theorem totalDelegated_eq (delegations : List Delegation) :
    totalDelegated delegations =
      if (delegations.map Delegation.lamportsDelegated).sum < 2 ^ 64 then
        .ok (delegations.map Delegation.lamportsDelegated).sum
      else .error .unwrapNone := by
  have fromStart : ∀ start < 2 ^ 64, delegations.foldlM (fun sum delegation =>
      unwrap (checkedAdd 64 sum delegation.lamportsDelegated)) start =
        if start + (delegations.map Delegation.lamportsDelegated).sum < 2 ^ 64 then
          .ok (start + (delegations.map Delegation.lamportsDelegated).sum)
        else .error .unwrapNone := by
    induction delegations with
    | nil =>
      intro start fits
      rw [List.map_nil, List.sum_nil, Nat.add_zero, if_pos fits]
      rfl
    | cons delegation rest ih =>
      intro start fits
      rw [List.foldlM_cons, List.map_cons, List.sum_cons, ← Nat.add_assoc]
      by_cases sum : start + delegation.lamportsDelegated < 2 ^ 64
      · rw [checkedAdd_of_lt sum]
        exact ih _ sum
      · have overflow : checkedAdd 64 start delegation.lamportsDelegated = none := if_neg sum
        rw [overflow, if_neg (by omega)]
        rfl
  rw [totalDelegated, fromStart 0 (by norm_num), Nat.zero_add]

theorem totalDelegated_perm {delegations others : List Delegation}
    (perm : delegations.Perm others) : totalDelegated delegations = totalDelegated others := by
  rw [totalDelegated_eq, totalDelegated_eq, (perm.map _).sum_eq]

variable {bank : Bank} {stakeDelegations : List (Pubkey × StakeAccount)}

/-- A voter's group has the same delegations, if it has an entry at all. -/
theorem group_perm (perm : bank.stakeDelegations.Perm stakeDelegations) (voterPubkey : Pubkey) :
    (groupDelegationsByVoterPubkey bank voterPubkey = none ∧
      groupDelegationsByVoterPubkey { bank with stakeDelegations := stakeDelegations }
        voterPubkey = none) ∨
    ∃ delegations others, groupDelegationsByVoterPubkey bank voterPubkey = some delegations ∧
      groupDelegationsByVoterPubkey { bank with stakeDelegations := stakeDelegations }
        voterPubkey = some others ∧ delegations.Perm others := by
  unfold groupDelegationsByVoterPubkey
  dsimp only
  have grouped := (perm.filter fun entry =>
    decide (bank.effectiveStake entry.2.delegation > 0)).filter fun entry =>
      decide (entry.2.delegation.voterPubkey = voterPubkey)
  rw [← grouped.isEmpty_eq]
  split
  · exact .inl ⟨rfl, rfl⟩
  · exact .inr ⟨_, _, rfl, rfl, grouped.map _⟩

theorem stakeMetaOf_perm (perm : bank.stakeDelegations.Perm stakeDelegations) (votePubkey : Pubkey)
    (voteAccount : VoteAccount) (maybeTda : Option TipDistributionAccountWrapper) :
    stakeMetaOf { bank with stakeDelegations := stakeDelegations } votePubkey voteAccount maybeTda =
      stakeMetaOf bank votePubkey voteAccount maybeTda := by
  unfold stakeMetaOf
  rcases group_perm perm votePubkey with ⟨absent, absent'⟩ | ⟨delegations, others, group, group', same⟩
  · rw [absent, absent']
  · rw [group, group']
    dsimp only
    rw [sort_delegations same, totalDelegated_perm same]

theorem stakeMetaOf_voteAccount {votePubkey : Pubkey} {voteAccount : VoteAccount}
    {maybeTda : Option TipDistributionAccountWrapper} {stakeMeta : StakeMeta}
    (made : stakeMetaOf bank votePubkey voteAccount maybeTda = .ok (some stakeMeta)) :
    stakeMeta.validatorVoteAccount = votePubkey := by
  unfold stakeMetaOf at made
  split at made
  · cases made
  · obtain ⟨total, -, rest⟩ := bind_eq_ok.mp made
    obtain ⟨maybeTipDistributionMeta, -, last⟩ := bind_eq_ok.mp rest
    cases last
    rfl

/-! ## The whole collection -/

variable {sdk : TipSdk} {tipDistributionProgramId tipPaymentProgramId : Pubkey}

/-- A successful generation, pass by pass. -/
theorem generateStakeMetaCollection_eq_ok {collection : StakeMetaCollection} :
    generateStakeMetaCollection sdk bank tipDistributionProgramId tipPaymentProgramId =
        .ok collection ↔
      bank.isFrozen = true ∧ ∃ voteAccounts config tipReceiverFee tdas stakeMetas,
        bank.epochVoteAccounts = some voteAccounts ∧
        sdk.tipPaymentConfig bank tipPaymentProgramId = .ok config ∧
        sdk.tipReceiverFee bank tipPaymentProgramId config.blockBuilderCommissionPct =
          .ok tipReceiverFee ∧
        sdk.votePkAndMaybeTdas bank tipDistributionProgramId config.tipReceiver tipReceiverFee
          voteAccounts = .ok tdas ∧
        (tdas.mapM fun entry => stakeMetaOf bank entry.1.1 entry.1.2 entry.2) = .ok stakeMetas ∧
        collection = {
          stakeMetas := sort StakeMeta.cmp stakeMetas.reduceOption
          tipDistributionProgramId := tipDistributionProgramId
          bankHash := bank.hash
          epoch := bank.epoch
          slot := bank.slot } := by
  unfold generateStakeMetaCollection
  cases bank.isFrozen with
  | false => simp
  | true =>
    simp only [Bool.not_true, Bool.false_eq_true, if_false, bind_eq_ok, liftPanic_eq_ok_iff,
      liftFailed_eq_ok_iff, unwrap_eq_ok_iff, pure_eq_ok_iff, true_and]
    constructor
    · rintro ⟨voteAccounts, found, config, configured, tipReceiverFee, fee, tdas, looked,
        stakeMetas, made, rfl⟩
      exact ⟨voteAccounts, config, tipReceiverFee, tdas, stakeMetas, found, configured, fee, looked,
        made, rfl⟩
    · rintro ⟨voteAccounts, config, tipReceiverFee, tdas, stakeMetas, found, configured, fee, looked,
        made, rfl⟩
      exact ⟨voteAccounts, found, config, configured, tipReceiverFee, fee, tdas, looked,
        stakeMetas, made, rfl⟩

/-- Every stake meta is that of its own vote account. -/
theorem voteAccounts_sublist
    {tdas : List ((Pubkey × VoteAccount) × Option TipDistributionAccountWrapper)}
    {stakeMetas : List (Option StakeMeta)}
    (made : List.Forall₂ (fun entry result => stakeMetaOf bank entry.1.1 entry.1.2 entry.2 =
      .ok result) tdas stakeMetas) :
    (stakeMetas.reduceOption.map StakeMeta.validatorVoteAccount).Sublist
      (tdas.map fun entry => entry.1.1) := by
  induction made with
  | nil => exact .slnil
  | @cons entry result _ _ first _ ih =>
    cases result with
    | none =>
      rw [List.reduceOption_cons_of_none, List.map_cons]
      exact ih.cons _
    | some stakeMeta =>
      rw [List.reduceOption_cons_of_some, List.map_cons, List.map_cons,
        stakeMetaOf_voteAccount first]
      exact ih.cons_cons _

theorem votePubkeys_of_looked {tipReceiver : Pubkey} {tipReceiverFee : ℕ}
    {voteAccounts : List (Pubkey × VoteAccount)}
    {tdas : List ((Pubkey × VoteAccount) × Option TipDistributionAccountWrapper)}
    (looked : sdk.votePkAndMaybeTdas bank tipDistributionProgramId tipReceiver tipReceiverFee
      voteAccounts = .ok tdas) :
    (tdas.map fun entry => entry.1.1) = voteAccounts.map Prod.fst := by
  have related := mapM_eq_ok_iff.mp looked
  clear looked
  induction related with
  | nil => rfl
  | cons first _ ih =>
    obtain ⟨tda, -, same⟩ := bind_eq_ok.mp first
    cases same
    rw [List.map_cons, List.map_cons, ih]

/-- A bank whose hash maps are enumerated in another order. -/
def Bank.enumerated (bank : Bank) (voteAccounts : List (Pubkey × VoteAccount))
    (stakeDelegations : List (Pubkey × StakeAccount)) : Bank :=
  { bank with epochVoteAccounts := some voteAccounts, stakeDelegations := stakeDelegations }

/-- The collection does not show in which order the bank was read. -/
theorem collection_perm {voteAccounts voteAccounts' : List (Pubkey × VoteAccount)}
    {stakeDelegations' : List (Pubkey × StakeAccount)} {collection : StakeMetaCollection}
    (distinct : (voteAccounts.map Prod.fst).Nodup) (votePerm : voteAccounts.Perm voteAccounts')
    (stakePerm : stakeDelegations.Perm stakeDelegations')
    (generated : generateStakeMetaCollection sdk (bank.enumerated voteAccounts stakeDelegations)
      tipDistributionProgramId tipPaymentProgramId = .ok collection) :
    generateStakeMetaCollection sdk (bank.enumerated voteAccounts' stakeDelegations')
      tipDistributionProgramId tipPaymentProgramId = .ok collection := by
  rw [generateStakeMetaCollection_eq_ok] at generated ⊢
  obtain ⟨frozen, _, config, tipReceiverFee, tdas, stakeMetas, found, configured, fee, looked, made,
    rfl⟩ := generated
  cases found
  -- each pass in the other order gives the same results in another order
  obtain ⟨tdas', looked', tdaPerm⟩ := mapM_perm votePerm looked
  obtain ⟨stakeMetas', made', metaPerm⟩ := mapM_perm tdaPerm made
  have distinct' : (stakeMetas.reduceOption.map StakeMeta.validatorVoteAccount).Nodup := by
    refine (voteAccounts_sublist (mapM_eq_ok_iff.mp made)).nodup ?_
    rw [votePubkeys_of_looked looked]
    exact distinct
  refine ⟨frozen, voteAccounts', config, tipReceiverFee, tdas', stakeMetas', rfl, configured, fee,
    looked', ?_, ?_⟩
  · rw [← made']
    congr 1
    funext entry
    have sameGroups : (bank.enumerated voteAccounts stakeDelegations).stakeDelegations.Perm
        stakeDelegations' := stakePerm
    exact stakeMetaOf_perm sameGroups entry.1.1 entry.1.2 entry.2
  · rw [sort_stakeMetas distinct' (metaPerm.filterMap id)]
    rfl

end GeneratedMerkleTree

/-! ## The meta tree -/

namespace MetaMerkleTree

variable {hashv : Hashv}

/-- What is validated is small and has no duplicates. -/
theorem validate_spec {self : MetaMerkleTree} (valid : self.validate hashv = .ok (.ok ())) :
    self.treeNodes.length ≤ 2 ^ 32 - 1 ∧
      (self.treeNodes.map TreeNode.tipDistributionAccount).Nodup := by
  unfold validate at valid
  by_cases large : self.numNodes > 2 ^ 32 - 1
  · rw [if_pos large] at valid
    cases valid
  rw [if_neg large] at valid
  by_cases counted : self.treeNodes.length ≠ self.numNodes
  · rw [if_pos counted] at valid
    cases valid
  rw [if_neg counted] at valid
  by_cases repeated :
      (self.treeNodes.map TreeNode.tipDistributionAccount).toFinset.card ≠ self.treeNodes.length
  · rw [if_pos repeated] at valid
    cases valid
  have unrepeated : (self.treeNodes.map TreeNode.tipDistributionAccount).dedup.length =
      (self.treeNodes.map TreeNode.tipDistributionAccount).length := by
    rw [← List.card_toFinset, not_ne_iff.mp repeated, List.length_map]
  refine ⟨by omega, ?_⟩
  rw [← List.dedup_eq_self]
  exact (List.dedup_sublist _).eq_of_length unrepeated

theorem new_valid {treeNodes : List TreeNode} {result : MetaMerkleTree}
    (returned : new hashv treeNodes = .ok (.ok result)) : result.validate hashv = .ok (.ok ()) := by
  have occupied : treeNodes ≠ [] := by
    rintro rfl
    rw [new_nil] at returned
    cases returned
  obtain ⟨tree, root, proved, built, isRoot, related, steps⟩ := new_steps hashv occupied
  rw [steps, bind_eq_ok] at returned
  obtain ⟨verdict, valid, same⟩ := returned
  cases verdict with
  | error failure => cases same
  | ok _ =>
    cases same
    exact valid

/-- Which nodes get a tree, and its root: that of their sorted hashes. -/
theorem new_root_iff {treeNodes : List TreeNode} {root : Bytes32} :
    (∃ tree, new hashv treeNodes = .ok (.ok tree) ∧ tree.merkleRoot = root) ↔
      treeNodes ≠ [] ∧ treeNodes.length ≤ 2 ^ 32 - 1 ∧
      (treeNodes.map TreeNode.tipDistributionAccount).Nodup ∧
      ∃ tree, MerkleTree.new hashv (hashedNodes hashv (sortByHash hashv treeNodes)) true = .ok tree ∧
        tree.getRoot = some root := by
  constructor
  · rintro ⟨result, returned, rfl⟩
    obtain ⟨tree, built, isRoot, related⟩ := new_returned returned
    obtain ⟨small, distinct⟩ := validate_spec (new_valid returned)
    have sameLength : result.treeNodes.length = treeNodes.length := by
      rw [← related.length_eq, List.length_zipIdx, (sortByHash_perm treeNodes).length_eq]
    have accounts : result.treeNodes.map TreeNode.tipDistributionAccount =
        (sortByHash hashv treeNodes).map TreeNode.tipDistributionAccount := by
      rw [map_proved _ (fun _ _ => rfl) related, List.zipIdx_map_fst]
    rw [accounts, ((sortByHash_perm treeNodes).map _).nodup_iff] at distinct
    refine ⟨?_, sameLength ▸ small, distinct, tree, built, isRoot⟩
    rintro rfl
    rw [new_nil] at returned
    cases returned
  · rintro ⟨occupied, small, distinct, tree, built, isRoot⟩
    obtain ⟨result, returned⟩ := new_ok hashv occupied distinct small
    obtain ⟨tree', built', isRoot', -⟩ := new_returned returned
    rw [built'] at built
    cases built
    exact ⟨result, returned, Option.some.inj (isRoot'.symm.trans isRoot)⟩

/-- Nodes may be sorted differently where hashes agree; the hashes may not. -/
theorem hashedNodes_perm {treeNodes others : List TreeNode} (perm : treeNodes.Perm others) :
    hashedNodes hashv (sortByHash hashv treeNodes) = hashedNodes hashv (sortByHash hashv others) := by
  have hashes : (sortByHash hashv treeNodes).map (TreeNode.hash hashv) =
      (sortByHash hashv others).map (TreeNode.hash hashv) := by
    refine map_mergeSort_eq_of_perm (fun left right => decide (left ≤ right))
      (TreeNode.hash hashv) ?_ ?_ ?_ perm
    · intro left middle right below above
      exact decide_eq_true (Vector.le_trans (of_decide_eq_true below) (of_decide_eq_true above))
    · intro left right
      simpa using Vector.le_total left right
    · intro left right below above
      exact Vector.le_antisymm (of_decide_eq_true below) (of_decide_eq_true above)
  have bytes := congrArg (List.map Vector.toList) hashes
  rwa [List.map_map, List.map_map] at bytes

theorem new_perm {treeNodes others : List TreeNode} (perm : treeNodes.Perm others) (root : Bytes32)
    (returned : ∃ tree, new hashv treeNodes = .ok (.ok tree) ∧ tree.merkleRoot = root) :
    ∃ tree, new hashv others = .ok (.ok tree) ∧ tree.merkleRoot = root := by
  obtain ⟨occupied, small, distinct, tree, built, isRoot⟩ := new_root_iff.mp returned
  refine new_root_iff.mpr ⟨?_, ?_, ?_, tree, ?_, isRoot⟩
  · rintro rfl
    exact occupied (List.perm_nil.mp perm)
  · rwa [← perm.length_eq]
  · rwa [← (perm.map _).nodup_iff]
  · rwa [← hashedNodes_perm perm]

end MetaMerkleTree

/-! ## When there is a tree -/

namespace GeneratedMerkleTree

def StakeMeta.tipDistributionAccount (stakeMeta : StakeMeta) : Option Pubkey :=
  stakeMeta.maybeTipDistributionMeta.map TipDistributionMeta.tipDistributionPubkey

/-- The trees of stake metas are those of their distribution accounts. -/
theorem tipDistributionAccounts_of_made {sdk : TipDistribution} {hashv : Hashv}
    {protocolFeeBps epoch : ℕ} {ncnAddress tipDistributionProgramId tipRouterProgramId : Pubkey}
    {stakeMetas : List StakeMeta} {maybeTrees : List (Option GeneratedMerkleTree)}
    (made : List.Forall₂ (fun stakeMeta maybeTree => ofStakeMeta sdk hashv stakeMeta protocolFeeBps
      ncnAddress epoch tipDistributionProgramId tipRouterProgramId = .ok maybeTree)
      stakeMetas maybeTrees)
    (distributed : ∀ stakeMeta ∈ stakeMetas, stakeMeta.maybeTipDistributionMeta ≠ none) :
    maybeTrees.reduceOption.map (·.tipDistributionAccount) =
      stakeMetas.filterMap StakeMeta.tipDistributionAccount := by
  induction made with
  | nil => rfl
  | @cons stakeMeta maybeTree _ _ first _ ih =>
    obtain ⟨here, rest⟩ := List.forall_mem_cons.mp distributed
    obtain ⟨tipDistributionMeta, found⟩ := Option.ne_none_iff_exists'.mp here
    cases maybeTree with
    | none => exact absurd first (ofStakeMeta_ne_none found)
    | some tree =>
      obtain ⟨_, _, found', -, account, -⟩ := ofStakeMeta_eq_ok first
      rw [List.reduceOption_cons_of_some, List.map_cons, List.filterMap_cons,
        StakeMeta.tipDistributionAccount, found', Option.map_some, ih rest, account]

theorem newFromStakeMetaCollection_ok (sdk : TipDistribution) (hashv : Hashv)
    {collection : StakeMetaCollection} {protocolFeeBps epoch : ℕ}
    (wellFormed : ∀ stakeMeta ∈ collection.stakeMetas, stakeMeta.WellFormed)
    (capped : protocolFeeBps ≤ maxBps) (epochs : epoch + 1 < 2 ^ 64)
    (ncnAddress tipRouterProgramId : Pubkey) :
    ∃ merkleTrees, GeneratedMerkleTreeCollection.newFromStakeMetaCollection sdk hashv collection
        ncnAddress epoch protocolFeeBps tipRouterProgramId = .ok merkleTrees ∧
      merkleTrees.generatedMerkleTrees.map (·.tipDistributionAccount) =
        collection.stakeMetas.filterMap StakeMeta.tipDistributionAccount := by
  have makes : ∀ stakeMeta ∈ collection.stakeMetas.filter fun stakeMeta =>
      stakeMeta.maybeTipDistributionMeta.isSome, ∃ tree, ofStakeMeta sdk hashv stakeMeta
        protocolFeeBps ncnAddress epoch collection.tipDistributionProgramId tipRouterProgramId =
          .ok tree := by
    intro stakeMeta member
    obtain ⟨listed, distributed⟩ := List.mem_filter.mp member
    obtain ⟨tipDistributionMeta, found⟩ := Option.isSome_iff_exists.mp distributed
    obtain ⟨nodes, split⟩ := @vecFromStakeMeta_ok sdk stakeMeta (wellFormed stakeMeta listed) _ _
      capped epochs ncnAddress collection.tipDistributionProgramId tipRouterProgramId
    cases nodes with
    | none => exact absurd split (vecFromStakeMeta_ne_none found)
    | some nodes =>
      obtain ⟨tree, made⟩ := ofStakeMeta_ok hashv found split
      exact ⟨some tree, made⟩
  obtain ⟨maybeTrees, mapped⟩ := exists_mapM_ok makes
  refine ⟨_, bind_eq_ok.mpr ⟨maybeTrees, mapped, rfl⟩, ?_⟩
  dsimp only
  rw [tipDistributionAccounts_of_made (forall₂_of_mapM mapped) ?_, List.filterMap_filter]
  · congr 1
    funext stakeMeta
    unfold StakeMeta.tipDistributionAccount
    cases stakeMeta.maybeTipDistributionMeta <;> rfl
  · intro stakeMeta member
    exact Option.isSome_iff_ne_none.mp (List.mem_filter.mp member).2

end GeneratedMerkleTree

/-- A bank whose stake metas can be split has a meta tree, if some of their distribution
accounts exist and none is that of two vote accounts. -/
theorem getMetaMerkleRoot_ok {sdk : TipSdk} (hashv : Hashv) {bank : Bank}
    {tipDistributionProgramId tipPaymentProgramId : Pubkey} {collection : StakeMetaCollection}
    {epoch protocolFeeBps : ℕ}
    (generated : generateStakeMetaCollection sdk bank tipDistributionProgramId tipPaymentProgramId =
      .ok collection)
    (wellFormed : ∀ stakeMeta ∈ collection.stakeMetas, stakeMeta.WellFormed)
    (occupied : collection.stakeMetas.filterMap StakeMeta.tipDistributionAccount ≠ [])
    (distinct : (collection.stakeMetas.filterMap StakeMeta.tipDistributionAccount).Nodup)
    (small : collection.stakeMetas.length ≤ 2 ^ 32 - 1) (capped : protocolFeeBps ≤ maxBps)
    (epochs : epoch + 1 < 2 ^ 64) (tipRouterProgramId ncnAddress : Pubkey) :
    ∃ tree, getMetaMerkleRoot sdk hashv bank tipDistributionProgramId tipPaymentProgramId
      tipRouterProgramId ncnAddress epoch protocolFeeBps = .ok tree := by
  obtain ⟨merkleTrees, made, accounts⟩ := newFromStakeMetaCollection_ok sdk.toTipDistribution hashv
    wellFormed capped epochs ncnAddress tipRouterProgramId
  let treeNodes := merkleTrees.generatedMerkleTrees.map TreeNode.fromGenerated
  have named : treeNodes.map TreeNode.tipDistributionAccount =
      collection.stakeMetas.filterMap StakeMeta.tipDistributionAccount := by
    rw [← accounts, List.map_map]
    rfl
  have few : treeNodes.length ≤ collection.stakeMetas.length := by
    rw [← List.length_map TreeNode.tipDistributionAccount, named]
    exact List.length_filterMap_le _ _
  have someNode : treeNodes ≠ [] := by
    intro none
    rw [← named, none, List.map_nil] at occupied
    exact occupied rfl
  obtain ⟨tree, returned⟩ := MetaMerkleTree.new_ok hashv someNode (named ▸ distinct)
    (few.trans small)
  refine ⟨tree, bind_eq_ok.mpr ⟨collection, mapError_eq_ok.mpr generated, ?_⟩⟩
  refine bind_eq_ok.mpr ⟨merkleTrees, mapError_eq_ok.mpr made, ?_⟩
  exact bind_eq_ok.mpr ⟨.ok tree, mapError_eq_ok.mpr returned, rfl⟩

/-- The pipeline yields the same tree, and so the same root, for any two
enumerations of a bank's stake delegations and vote accounts, and the meta tree
by itself has the same root for any order of its nodes. -/
theorem merkle_root_independent_of_enumeration (hashv : Hashv) :
    (∀ (sdk : TipSdk) (bank : Bank) (voteAccounts voteAccounts' : List (Pubkey × VoteAccount))
      (stakeDelegations stakeDelegations' : List (Pubkey × StakeAccount))
      (tipDistributionProgramId tipPaymentProgramId tipRouterProgramId ncnAddress : Pubkey)
      (epoch protocolFeeBps : ℕ),
      (voteAccounts.map Prod.fst).Nodup → voteAccounts.Perm voteAccounts' →
      stakeDelegations.Perm stakeDelegations' →
      (getMetaMerkleRoot sdk hashv (bank.enumerated voteAccounts stakeDelegations)
        tipDistributionProgramId tipPaymentProgramId tipRouterProgramId ncnAddress epoch
        protocolFeeBps).toOption =
      (getMetaMerkleRoot sdk hashv (bank.enumerated voteAccounts' stakeDelegations')
        tipDistributionProgramId tipPaymentProgramId tipRouterProgramId ncnAddress epoch
        protocolFeeBps).toOption) ∧
    (∀ (treeNodes treeNodes' : List TreeNode) (root : Bytes32), treeNodes.Perm treeNodes' →
      ((∃ tree, MetaMerkleTree.new hashv treeNodes = .ok (.ok tree) ∧ tree.merkleRoot = root) ↔
        ∃ tree, MetaMerkleTree.new hashv treeNodes' = .ok (.ok tree) ∧ tree.merkleRoot = root)) := by
  constructor
  · intro sdk bank voteAccounts voteAccounts' stakeDelegations stakeDelegations'
      tipDistributionProgramId tipPaymentProgramId tipRouterProgramId ncnAddress epoch
      protocolFeeBps distinct votePerm stakePerm
    have distinct' : (voteAccounts'.map Prod.fst).Nodup := (votePerm.map _).nodup_iff.mp distinct
    have collections : ∀ collection,
        generateStakeMetaCollection sdk (bank.enumerated voteAccounts stakeDelegations)
          tipDistributionProgramId tipPaymentProgramId = .ok collection ↔
        generateStakeMetaCollection sdk (bank.enumerated voteAccounts' stakeDelegations')
          tipDistributionProgramId tipPaymentProgramId = .ok collection := by
      intro collection
      constructor
      · intro generated
        exact collection_perm distinct votePerm stakePerm generated
      · intro generated
        exact collection_perm distinct' votePerm.symm stakePerm.symm generated
    apply toOption_eq_of_ok_iff
    intro tree
    -- what follows the collection reads nothing else of the bank
    simp only [getMetaMerkleRoot, bind_eq_ok, mapError_eq_ok, collections]
  · intro treeNodes treeNodes' root perm
    exact ⟨MetaMerkleTree.new_perm perm root, MetaMerkleTree.new_perm perm.symm root⟩

/-- A key of one repeated byte. -/
def Pubkey.repeated (byte : UInt8) : Pubkey := ⟨Vector.replicate 32 byte⟩

/-- Two vote accounts, and three stakes that they share. -/
def twoVoteAccounts : List (Pubkey × VoteAccount) :=
  [(.repeated 1, ⟨.repeated 3, 5⟩), (.repeated 2, ⟨.repeated 4, 5⟩)]
def threeStakes : List (Pubkey × StakeAccount) :=
  [(.repeated 10, ⟨⟨.repeated 1, 50, 0, u64Max⟩, none⟩),
    (.repeated 11, ⟨⟨.repeated 2, 50, 0, u64Max⟩, none⟩),
    (.repeated 12, ⟨⟨.repeated 1, 50, 0, u64Max⟩, some ⟨.repeated 13, .repeated 14⟩⟩)]

/-- A bank where every account holds 1000 lamports and is whatever it is read as. -/
def bankOfEqualAccounts : Bank where
  isFrozen := true
  epoch := 800
  slot := 345600000
  hash := ""
  epochVoteAccounts := none
  stakeDelegations := []
  effectiveStake := StakeDelegation.stake
  getAccount _ := some ⟨1000, []⟩
  getMinimumBalanceForRentExemption _ := 0

def sdkOfEqualAccounts : TipSdk where
  findProgramAddress seeds programId :=
    (⟨Vector.ofFn fun i => (seeds.getD 1 []).getD i 0 + programId.toBytes[i]⟩, 255)
  claimStatusSeed := "CLAIM_STATUS".toUTF8.toList
  programId := .repeated 20
  deserializeConfig _ := some ⟨4, .repeated 7⟩
  deserializeTipDistributionAccount _ := some ⟨1000, .repeated 8, none⟩
  deserializesClaimStatus _ := false

/-- The tips of the distribution account of a vote account. -/
def sampleTips (votePubkey : Pubkey) : TipDistributionMeta where
  merkleRootUploadAuthority := .repeated 8
  tipDistributionPubkey :=
    sdkOfEqualAccounts.deriveTipDistributionAccountAddress (.repeated 20) votePubkey 800
  totalTips := 1000
  validatorFeeBps := 1000

/-- Each with its delegations in order. -/
def sampleStakeMetas : List StakeMeta :=
  [{ validatorVoteAccount := .repeated 1
     validatorNodePubkey := .repeated 3
     maybeTipDistributionMeta := some (sampleTips (.repeated 1))
     delegations := sort Delegation.cmp [⟨.repeated 10, .default, .default, 50⟩,
       ⟨.repeated 12, .repeated 13, .repeated 14, 50⟩]
     totalDelegated := 100
     commission := 5 },
   { validatorVoteAccount := .repeated 2
     validatorNodePubkey := .repeated 4
     maybeTipDistributionMeta := some (sampleTips (.repeated 2))
     delegations := sort Delegation.cmp [⟨.repeated 11, .default, .default, 50⟩]
     totalDelegated := 50
     commission := 5 }]

theorem sampleStakeMetas_made : ∃ tdas, sdkOfEqualAccounts.votePkAndMaybeTdas
      (bankOfEqualAccounts.enumerated twoVoteAccounts threeStakes) (.repeated 20) (.repeated 7) 7680
      twoVoteAccounts = .ok tdas ∧
    tdas.mapM (fun entry => stakeMetaOf
      (bankOfEqualAccounts.enumerated twoVoteAccounts threeStakes) entry.1.1 entry.1.2 entry.2) =
        .ok (sampleStakeMetas.map some) := by
  let tda (votePubkey : Pubkey) : TipDistributionAccountWrapper :=
    ⟨⟨1000, .repeated 8, none⟩, ⟨1000, []⟩, (sampleTips votePubkey).tipDistributionPubkey⟩
  let bank := bankOfEqualAccounts.enumerated twoVoteAccounts threeStakes
  have ofFirst : groupDelegationsByVoterPubkey bank (.repeated 1) =
      some [⟨.repeated 10, .default, .default, 50⟩,
        ⟨.repeated 12, .repeated 13, .repeated 14, 50⟩] := by decide +kernel
  have ofSecond : groupDelegationsByVoterPubkey bank (.repeated 2) =
      some [⟨.repeated 11, .default, .default, 50⟩] := by decide +kernel
  refine ⟨[((.repeated 1, ⟨.repeated 3, 5⟩), some (tda (.repeated 1))),
    ((.repeated 2, ⟨.repeated 4, 5⟩), some (tda (.repeated 2)))], by decide +kernel, ?_⟩
  have first : stakeMetaOf bank (.repeated 1) ⟨.repeated 3, 5⟩ (some (tda (.repeated 1))) =
      .ok sampleStakeMetas[0]? := by
    unfold stakeMetaOf
    rw [ofFirst]
    rfl
  have second : stakeMetaOf bank (.repeated 2) ⟨.repeated 4, 5⟩ (some (tda (.repeated 2))) =
      .ok sampleStakeMetas[1]? := by
    unfold stakeMetaOf
    rw [ofSecond]
    rfl
  exact mapM_eq_ok_iff.mpr (.cons first (.cons second .nil))

theorem sampleStakeMetas_wellFormed : ∀ stakeMeta ∈ sampleStakeMetas, stakeMeta.WellFormed := by
  have part : ∀ (delegations : List Delegation) (total : ℕ),
      (∀ delegation ∈ delegations, 0 < total ∧ delegation.lamportsDelegated ≤ total) →
      ∀ delegation ∈ sort Delegation.cmp delegations,
        0 < total ∧ delegation.lamportsDelegated ≤ total := by
    intro delegations total parts delegation member
    exact parts delegation (List.mem_mergeSort.mp member)
  intro stakeMeta member
  rcases List.mem_pair.mp member with rfl | rfl
  · refine ⟨?_, by norm_num, part _ _ (by simp)⟩
    rintro _ ⟨⟩
    decide
  · refine ⟨?_, by norm_num, part _ _ (by simp)⟩
    rintro _ ⟨⟩
    decide

theorem sampleBank_root : ∃ tree, getMetaMerkleRoot sdkOfEqualAccounts (fun _ => Vector.replicate 32 0)
    (bankOfEqualAccounts.enumerated twoVoteAccounts threeStakes) (.repeated 20) (.repeated 21)
    (.repeated 22) (.repeated 23) 800 300 = .ok tree := by
  obtain ⟨tdas, looked, made⟩ := sampleStakeMetas_made
  have configured : sdkOfEqualAccounts.tipPaymentConfig
      (bankOfEqualAccounts.enumerated twoVoteAccounts threeStakes) (.repeated 21) =
        .ok ⟨4, .repeated 7⟩ := by decide +kernel
  have fee : sdkOfEqualAccounts.tipReceiverFee
      (bankOfEqualAccounts.enumerated twoVoteAccounts threeStakes) (.repeated 21) 4 = .ok 7680 := by
    decide +kernel
  have generated := generateStakeMetaCollection_eq_ok.mpr ⟨rfl, twoVoteAccounts, _, _, tdas,
    sampleStakeMetas.map some, rfl, configured, fee, looked, made, rfl⟩
  have sorted : (sort StakeMeta.cmp sampleStakeMetas).Perm sampleStakeMetas := List.mergeSort_perm _ _
  have accounts := sorted.filterMap StakeMeta.tipDistributionAccount
  refine getMetaMerkleRoot_ok _ generated ?_ ?_ ?_ ?_ (by decide) (by decide) _ _
  · intro stakeMeta member
    exact sampleStakeMetas_wellFormed stakeMeta (sorted.mem_iff.mp member)
  · intro none
    exact List.cons_ne_nil _ _ (accounts.symm.trans (.of_eq none)).eq_nil
  · exact accounts.nodup_iff.mpr (by decide +kernel)
  · exact sorted.length_eq.trans_le (by decide)

/-- Both lists of a bank with two vote accounts read backwards, and three nodes, for a hash
that mixes nothing. -/
theorem merkle_root_independent_of_reversal :
    (∃ tree, (getMetaMerkleRoot sdkOfEqualAccounts (fun _ => Vector.replicate 32 0)
        (bankOfEqualAccounts.enumerated twoVoteAccounts threeStakes) (.repeated 20) (.repeated 21)
        (.repeated 22) (.repeated 23) 800 300).toOption = some tree ∧
      (getMetaMerkleRoot sdkOfEqualAccounts (fun _ => Vector.replicate 32 0)
        (bankOfEqualAccounts.enumerated twoVoteAccounts.reverse threeStakes.reverse) (.repeated 20)
        (.repeated 21) (.repeated 22) (.repeated 23) 800 300).toOption = some tree) ∧
    ∃ root, (∃ tree, MetaMerkleTree.new (fun _ => Vector.replicate 32 0)
        ((List.range 3).map TreeNode.numbered) = .ok (.ok tree) ∧ tree.merkleRoot = root) ∧
      ∃ tree, MetaMerkleTree.new (fun _ => Vector.replicate 32 0)
        ((List.range 3).map TreeNode.numbered).reverse = .ok (.ok tree) ∧
        tree.merkleRoot = root := by
  obtain ⟨ofBanks, ofNodes⟩ :=
    merkle_root_independent_of_enumeration fun _ => Vector.replicate 32 0
  have reversed := ofBanks sdkOfEqualAccounts bankOfEqualAccounts twoVoteAccounts
    twoVoteAccounts.reverse threeStakes threeStakes.reverse (.repeated 20) (.repeated 21)
    (.repeated 22) (.repeated 23) 800 300 (by decide) (List.reverse_perm _).symm
    (List.reverse_perm _).symm
  obtain ⟨tree, rooted⟩ := sampleBank_root
  obtain ⟨metaTree, returned⟩ := MetaMerkleTree.new_ok (fun _ => Vector.replicate 32 0)
    (by simp : (List.range 3).map TreeNode.numbered ≠ [])
    (TreeNode.numbered_distinct (by norm_num)) (by simp)
  refine ⟨⟨tree, ?_, ?_⟩, metaTree.merkleRoot, ⟨metaTree, returned, rfl⟩, ?_⟩
  · rw [rooted]
    rfl
  · rw [← reversed, rooted]
    rfl
  · exact (ofNodes _ _ _ (List.reverse_perm _).symm).mp ⟨metaTree, returned, rfl⟩

end TipRouter
