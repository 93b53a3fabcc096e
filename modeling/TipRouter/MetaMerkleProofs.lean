import TipRouter.MetaMerkleTree

/-! Completeness of the Merkle tree the operators vote on: whatever the hash
function, every proof the tree hands out is accepted. The tree itself is
returned for up to `2^32 - 1` nodes with distinct accounts, and refused beyond. -/
namespace TipRouter
open Runs

variable {hashv : Hashv}

namespace MetaMerkleTree

theorem sortByHash_perm (treeNodes : List TreeNode) :
    (sortByHash hashv treeNodes).Perm treeNodes :=
  List.mergeSort_perm _ _

/-- A node with the proof it gets; everything else is kept. -/
def Proved (tree : MerkleTree) (item : TreeNode × ℕ) (node : TreeNode) : Prop :=
  ∃ proof, getProof tree item.2 = .ok proof ∧ node = { item.1 with proof := some proof }

/-- All leaves of a tree pass the loop of `verify_proof`. -/
theorem verifyNodes_ok {tree : MerkleTree} {leaves : List (List UInt8)} {root : Bytes32}
    (built : MerkleTree.new hashv leaves true = .ok tree) (isRoot : tree.getRoot = some root)
    (indexed : List (List UInt8 × ℕ)) (listed : ∀ entry ∈ indexed, leaves[entry.2]? = some entry.1) :
    verifyNodes hashv tree root indexed = .ok (.ok ()) := by
  induction indexed with
  | nil => rfl
  | cons entry rest ih =>
    obtain ⟨leaf, i⟩ := entry
    obtain ⟨proof, root', found, isRoot', verified⟩ :=
      getProof_eq built (listed (leaf, i) List.mem_cons_self)
    obtain rfl : root = root' := Option.some.inj (isRoot.symm.trans isRoot')
    have accepted : verify hashv proof root (hashv [leafPrefix, leaf]) = true := verified
    rw [verifyNodes, found, ok_bind, accepted]
    exact ih fun other member => listed other (List.mem_cons_of_mem _ member)

/-- A tree whose root is the root of its nodes, small enough and without
duplicates, is valid. -/
theorem validate_ok (self : MetaMerkleTree) {tree : MerkleTree}
    (built : MerkleTree.new hashv (hashedNodes hashv self.treeNodes) true = .ok tree)
    (isRoot : tree.getRoot = some self.merkleRoot)
    (counted : self.numNodes = self.treeNodes.length) (small : self.treeNodes.length ≤ 2 ^ 32 - 1)
    (distinct : (self.treeNodes.map TreeNode.tipDistributionAccount).Nodup) :
    self.validate hashv = .ok (.ok ()) := by
  have unique : (self.treeNodes.map TreeNode.tipDistributionAccount).toFinset.card =
      self.treeNodes.length := by
    rw [List.toFinset_card_of_nodup distinct, List.length_map]
  have verified : self.verifyProof hashv = .ok (.ok ()) := by
    rw [verifyProof, built, ok_bind, isRoot]
    simp only [ne_eq, not_true_eq_false, if_false]
    refine verifyNodes_ok built isRoot _ fun entry member => ?_
    exact List.mk_mem_zipIdx_iff_getElem?.mp member
  rw [validate, if_neg (by omega), if_neg (by simp [counted]), if_neg (by simp [unique]), verified]
  rfl

/-- Too many nodes are turned down before anything is verified. -/
theorem validate_tooMany (hashv : Hashv) (self : MetaMerkleTree)
    (counted : 2 ^ 32 - 1 < self.numNodes) : ∃ failure, self.validate hashv = .ok (.error failure) := by
  rw [validate, if_pos counted]
  exact ⟨_, rfl⟩

/-- What is read from a node without its proof is the same with it. -/
theorem map_proved {β : Type} {tree : MerkleTree} (read : TreeNode → β)
    (unproved : ∀ node proof, read { node with proof := proof } = read node)
    {indexed : List (TreeNode × ℕ)} {proved : List TreeNode}
    (related : List.Forall₂ (Proved tree) indexed proved) :
    proved.map read = (indexed.map Prod.fst).map read := by
  induction related with
  | nil => rfl
  | cons first _ ih =>
    obtain ⟨proof, -, rfl⟩ := first
    rw [List.map_cons, List.map_cons, List.map_cons, ih, unproved]

/-- `new` up to its call of `validate`. -/
theorem new_steps (hashv : Hashv) {treeNodes : List TreeNode} (occupied : treeNodes ≠ []) :
    ∃ tree root proved,
      MerkleTree.new hashv (hashedNodes hashv (sortByHash hashv treeNodes)) true = .ok tree ∧
      tree.getRoot = some root ∧
      List.Forall₂ (Proved tree) (sortByHash hashv treeNodes).zipIdx proved ∧
      new hashv treeNodes = (do
        match ← (MetaMerkleTree.mk root proved.length proved).validate hashv with
        | .error failure => return .error failure
        | .ok () => return .ok ⟨root, proved.length, proved⟩) := by
  obtain ⟨tree, built⟩ : ∃ tree, MerkleTree.new hashv
      (hashedNodes hashv (sortByHash hashv treeNodes)) true = .ok tree :=
    ⟨_, MerkleTree.new_eq _⟩
  obtain ⟨first, rest, sorted⟩ : ∃ first rest, sortByHash hashv treeNodes = first :: rest :=
    List.exists_cons_of_ne_nil fun empty =>
      occupied (List.perm_nil.mp (empty ▸ (sortByHash_perm treeNodes).symm))
  obtain ⟨root, isRoot⟩ := HashTree.root_isSome (combineSorted hashv)
    ((hashedNodes hashv (sortByHash hashv treeNodes)).map (hashLeaf hashv))
    (by simp [sorted, hashedNodes])
  have provable : ∀ item ∈ (sortByHash hashv treeNodes).zipIdx, ∃ node,
      (do
        let proof ← getProof tree item.2
        return { item.1 with proof := some proof } : Except Panic TreeNode) = .ok node := by
    rintro ⟨node, i⟩ member
    have here : (hashedNodes hashv (sortByHash hashv treeNodes))[i]? =
        some (node.hash hashv).toList := by
      rw [hashedNodes, List.getElem?_map, List.mk_mem_zipIdx_iff_getElem?.mp member, Option.map_some]
    obtain ⟨proof, _, found, -, -⟩ := getProof_eq built here
    exact ⟨_, by rw [found, ok_bind]; rfl⟩
  obtain ⟨proved, mapped⟩ := exists_mapM_ok provable
  refine ⟨tree, root, proved, built, (MerkleTree.getRoot_eq built).trans isRoot, ?_, ?_⟩
  · refine (forall₂_of_mapM mapped).imp fun item node one => ?_
    obtain ⟨proof, found, same⟩ := bind_eq_ok.mp one
    exact ⟨proof, found, (pure_eq_ok_iff.mp same).symm⟩
  · have isTreeRoot := (MerkleTree.getRoot_eq built).trans isRoot
    rw [new, built, ok_bind]
    dsimp only
    rewrite [mapped, ok_bind, isTreeRoot]
    rfl

/-- Few enough nodes with pairwise distinct accounts get their tree. -/
theorem new_ok (hashv : Hashv) {treeNodes : List TreeNode} (occupied : treeNodes ≠ [])
    (distinct : (treeNodes.map TreeNode.tipDistributionAccount).Nodup)
    (small : treeNodes.length ≤ 2 ^ 32 - 1) :
    ∃ tree, new hashv treeNodes = .ok (.ok tree) := by
  obtain ⟨tree, root, proved, built, isRoot, related, steps⟩ := new_steps hashv occupied
  have accounts : proved.map TreeNode.tipDistributionAccount =
      (sortByHash hashv treeNodes).map TreeNode.tipDistributionAccount := by
    rw [map_proved _ (fun _ _ => rfl) related, List.zipIdx_map_fst]
  have hashes : hashedNodes hashv proved = hashedNodes hashv (sortByHash hashv treeNodes) := by
    rw [hashedNodes, map_proved _ (fun _ _ => rfl) related, List.zipIdx_map_fst, hashedNodes]
  have sameLength : proved.length = treeNodes.length := by
    rw [← related.length_eq, List.length_zipIdx, (sortByHash_perm treeNodes).length_eq]
  have valid : (MetaMerkleTree.mk root proved.length proved).validate hashv = .ok (.ok ()) :=
    validate_ok _ (hashes ▸ built) isRoot rfl (sameLength ▸ small)
      (accounts ▸ ((sortByHash_perm treeNodes).map _).nodup_iff.mpr distinct)
  exact ⟨_, by rw [steps, valid]; rfl⟩

/-- Too many nodes are turned down, whatever they are. -/
theorem new_tooMany (hashv : Hashv) {treeNodes : List TreeNode}
    (large : 2 ^ 32 - 1 < treeNodes.length) :
    ∃ failure, new hashv treeNodes = .ok (.error failure) := by
  have occupied : treeNodes ≠ [] := List.ne_nil_of_length_pos (by omega)
  obtain ⟨tree, root, proved, built, isRoot, related, steps⟩ := new_steps hashv occupied
  have sameLength : proved.length = treeNodes.length := by
    rw [← related.length_eq, List.length_zipIdx, (sortByHash_perm treeNodes).length_eq]
  obtain ⟨failure, refused⟩ := validate_tooMany hashv ⟨root, proved.length, proved⟩
    (sameLength ▸ large)
  exact ⟨failure, by rw [steps, refused]; rfl⟩

theorem new_nil (hashv : Hashv) : new hashv [] = .ok (.error .merkleRootError) := by
  obtain ⟨tree, built⟩ : ∃ tree, MerkleTree.new hashv (hashedNodes hashv []) true = .ok tree :=
    ⟨_, MerkleTree.new_eq _⟩
  have noRoot : tree.getRoot = none :=
    (MerkleTree.getRoot_eq built).trans (HashTree.root_of_le (by simp [hashedNodes]))
  rw [new, sortByHash, List.mergeSort_nil, built]
  simp only [ok_bind, List.zipIdx_nil, List.mapM_nil, pure_bind, noRoot]
  rfl

/-- A tree that is returned has the root of the sorted nodes, and those nodes
with their proofs. -/
theorem new_returned {treeNodes : List TreeNode} {result : MetaMerkleTree}
    (returned : new hashv treeNodes = .ok (.ok result)) :
    ∃ tree, MerkleTree.new hashv (hashedNodes hashv (sortByHash hashv treeNodes)) true = .ok tree ∧
      tree.getRoot = some result.merkleRoot ∧
      List.Forall₂ (Proved tree) (sortByHash hashv treeNodes).zipIdx result.treeNodes := by
  have occupied : treeNodes ≠ [] := by
    rintro rfl
    rw [new_nil] at returned
    cases returned
  obtain ⟨tree, root, proved, built, isRoot, related, steps⟩ := new_steps hashv occupied
  rw [steps, bind_eq_ok] at returned
  obtain ⟨verdict, -, same⟩ := returned
  cases verdict with
  | error failure => cases same
  | ok _ =>
    cases same
    exact ⟨tree, built, isRoot, related⟩

/-- A returned node carries a proof that the ballot box accepts. -/
theorem returned_verifies {treeNodes : List TreeNode} {result : MetaMerkleTree}
    (returned : new hashv treeNodes = .ok (.ok result)) {node : TreeNode}
    (member : node ∈ result.treeNodes) :
    ∃ proof, node.proof = some proof ∧
      ∀ box : BallotBox, box.winningBallot.root = result.merkleRoot →
        box.verifyMerkleRoot hashv node.tipDistributionAccount proof node.validatorMerkleRoot
          node.maxTotalClaim node.maxNumNodes = .ok () := by
  obtain ⟨tree, built, isRoot, related⟩ := new_returned returned
  obtain ⟨⟨item, i⟩, inside, proof, found, rfl⟩ := exists_left_of_forall₂ related member
  have here : (hashedNodes hashv (sortByHash hashv treeNodes))[i]? =
      some (item.hash hashv).toList := by
    rw [hashedNodes, List.getElem?_map, List.mk_mem_zipIdx_iff_getElem?.mp inside, Option.map_some]
  obtain ⟨proof', root, found', isRoot', verified⟩ := getProof_eq built here
  obtain rfl : proof = proof' := by
    rw [found'] at found
    exact (Except.ok.inj found).symm
  obtain rfl : result.merkleRoot = root := Option.some.inj (isRoot.symm.trans isRoot')
  refine ⟨proof, rfl, fun box won => ?_⟩
  have accepted : verify hashv proof box.winningBallot.root
      (hashv [leafPrefix, ((TreeNode.new item.tipDistributionAccount item.validatorMerkleRoot
        item.maxTotalClaim item.maxNumNodes).hash hashv).toList]) = true := won ▸ verified
  rw [BallotBox.verifyMerkleRoot, accepted]
  rfl

end MetaMerkleTree

/-- Every generated proof verifies, and up to `2^32 - 1` nodes with pairwise
distinct accounts get a tree whose nodes all carry an accepted proof. -/
theorem generated_proofs_verify (hashv : Hashv) :
    (∀ items : List (List UInt8), items ≠ [] →
      ∃ tree root, MerkleTree.new hashv items true = .ok tree ∧ tree.getRoot = some root ∧
        ∀ i item, items[i]? = some item →
          ∃ proof, getProof tree i = .ok proof ∧
            verify hashv proof root (hashv [[0], item]) = true) ∧
    (∀ treeNodes : List TreeNode, treeNodes ≠ [] →
      (treeNodes.map TreeNode.tipDistributionAccount).Nodup →
      treeNodes.length ≤ 2 ^ 32 - 1 →
      ∃ tree, MetaMerkleTree.new hashv treeNodes = .ok (.ok tree) ∧
        ∀ node ∈ tree.treeNodes, ∃ proof, node.proof = some proof ∧
          ∀ box : BallotBox, box.winningBallot.root = tree.merkleRoot →
            box.verifyMerkleRoot hashv node.tipDistributionAccount proof node.validatorMerkleRoot
              node.maxTotalClaim node.maxNumNodes = .ok ()) := by
  refine ⟨fun items occupied => ?_, fun treeNodes occupied distinct small => ?_⟩
  · obtain ⟨tree, built⟩ : ∃ tree, MerkleTree.new hashv items true = .ok tree :=
      ⟨_, MerkleTree.new_eq _⟩
    obtain ⟨root, isTop⟩ := HashTree.root_isSome (combineSorted hashv)
      (items.map (hashLeaf hashv)) (by simpa using occupied)
    have isRoot := (MerkleTree.getRoot_eq built).trans isTop
    refine ⟨tree, root, built, isRoot, fun i item here => ?_⟩
    obtain ⟨proof, root', found, isRoot', verified⟩ := getProof_eq built here
    obtain rfl : root = root' := Option.some.inj (isRoot.symm.trans isRoot')
    exact ⟨proof, found, verified⟩
  · obtain ⟨tree, returned⟩ := MetaMerkleTree.new_ok hashv occupied distinct small
    exact ⟨tree, returned, fun node member => MetaMerkleTree.returned_verifies returned member⟩

/-- A node whose account is its number. -/
def TreeNode.numbered (number : ℕ) : TreeNode :=
  .new ⟨⟨(toLeBytes number ++ List.replicate 24 0).toArray, by simp [toLeBytes]⟩⟩
    (Vector.replicate 32 0) 0 0

theorem TreeNode.numbered_distinct {count : ℕ} (fits : count ≤ 2 ^ 64) :
    (((List.range count).map TreeNode.numbered).map TreeNode.tipDistributionAccount).Nodup := by
  rw [List.map_map]
  refine List.Nodup.map_on (fun left leftIn right rightIn same => ?_) List.nodup_range
  have leftFits := List.mem_range.mp leftIn
  have rightFits := List.mem_range.mp rightIn
  have bytes : toLeBytes left ++ List.replicate 24 0 = toLeBytes right ++ List.replicate 24 0 :=
    congrArg (fun account : Pubkey => account.toBytes.toList) same
  exact toLeBytes_injective (by omega) (by omega) (List.append_cancel_right bytes)

/-- Three items, where the last one is paired with itself, and three nodes. -/
theorem generated_proofs_verify_for_three (hashv : Hashv) :
    (∃ tree root, MerkleTree.new hashv [[1], [2], [3]] true = .ok tree ∧
      tree.getRoot = some root ∧
      ∃ proof, getProof tree 2 = .ok proof ∧ verify hashv proof root (hashv [[0], [3]]) = true) ∧
    ∃ tree, MetaMerkleTree.new hashv ((List.range 3).map TreeNode.numbered) = .ok (.ok tree) := by
  obtain ⟨ofItems, ofNodes⟩ := generated_proofs_verify hashv
  obtain ⟨tree, root, built, isRoot, proofs⟩ := ofItems [[1], [2], [3]] (by simp)
  obtain ⟨metaTree, returned, -⟩ := ofNodes ((List.range 3).map TreeNode.numbered) (by simp)
    (TreeNode.numbered_distinct (by norm_num)) (by simp)
  exact ⟨⟨tree, root, built, isRoot, proofs 2 [3] rfl⟩, metaTree, returned⟩

private theorem many_numbered_refused (hashv : Hashv) (count : ℕ) (fits : count ≤ 2 ^ 64)
    (large : 2 ^ 32 - 1 < count) :
    ∃ treeNodes : List TreeNode, treeNodes ≠ [] ∧
      (treeNodes.map TreeNode.tipDistributionAccount).Nodup ∧
      ∃ failure, MetaMerkleTree.new hashv treeNodes = .ok (.error failure) := by
  have length : ((List.range count).map TreeNode.numbered).length = count := by
    rw [List.length_map, List.length_range]
  refine ⟨(List.range count).map TreeNode.numbered, List.ne_nil_of_length_pos (by omega),
    TreeNode.numbered_distinct fits, ?_⟩
  exact MetaMerkleTree.new_tooMany hashv (by rw [length]; exact large)

/-- `2^32` nodes with distinct accounts get no tree. -/
theorem too_many_nodes_refused :
    ¬ ∀ (hashv : Hashv) (treeNodes : List TreeNode), treeNodes ≠ [] →
      (treeNodes.map TreeNode.tipDistributionAccount).Nodup →
      ∃ tree, MetaMerkleTree.new hashv treeNodes = .ok (.ok tree) := by
  intro always
  obtain ⟨treeNodes, occupied, distinct, failure, refused⟩ :=
    many_numbered_refused (fun _ => Vector.replicate 32 0) (2 ^ 32) (by norm_num) (by norm_num)
  obtain ⟨tree, returned⟩ := always _ treeNodes occupied distinct
  rw [refused] at returned
  cases returned

end TipRouter
