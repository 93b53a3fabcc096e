import TipRouter.MetaMerkleProofs

/-! Soundness of the Merkle tree the operators vote on. Whatever proof the
ballot box accepts, of any length, belongs to a node of the tree, or shows two
byte strings with the same hash: one among the strings hashed to build the tree
and one among those hashed to check the proof. -/
namespace TipRouter
open Runs HashTree

/-- `hashv` hashes its slices as one byte string. -/
def hashvOf (hash : List UInt8 → Bytes32) : Hashv := fun slices => hash slices.flatten

/-- What is hashed for the node above two digests. -/
def intermediateInput (left right : Bytes32) : List UInt8 :=
  if left ≤ right then intermediatePrefix ++ left.toList ++ right.toList
  else intermediatePrefix ++ right.toList ++ left.toList

private theorem append_digests_inj {left right left' right' : Bytes32}
    (same : intermediatePrefix ++ left.toList ++ right.toList =
      intermediatePrefix ++ left'.toList ++ right'.toList) : left = left' ∧ right = right' := by
  rw [List.append_assoc, List.append_assoc] at same
  obtain ⟨first, second⟩ := List.append_inj (List.append_cancel_left same) (by simp)
  exact ⟨Vector.toList_inj.mp first, Vector.toList_inj.mp second⟩

private theorem mem_of_intermediateInput_eq {left right left' right' : Bytes32}
    (same : intermediateInput left right = intermediateInput left' right') :
    left = left' ∨ left = right' := by
  unfold intermediateInput at same
  split at same <;> split at same
  · exact .inl (append_digests_inj same).1
  · exact .inr (append_digests_inj same).1
  · exact .inr (append_digests_inj same).2
  · exact .inl (append_digests_inj same).2

/-- The tree's two kinds of hashed strings start with different bytes. -/
def merkleHashing (hash : List UInt8 → Bytes32) : Hashing Bytes32 Bytes32 (List UInt8) where
  hash := hash
  leafInput item := leafPrefix ++ item.toList
  innerInput := intermediateInput
  leafInput_injective _ _ same := Vector.toList_inj.mp (List.append_cancel_left same)
  leafInput_ne_innerInput item left right same := by
    unfold intermediateInput at same
    split at same <;> cases same
  mem_of_innerInput_eq := mem_of_intermediateInput_eq

variable {hash : List UInt8 → Bytes32}

theorem merkleHashing_combine :
    (merkleHashing hash).combine = combineSorted (hashvOf hash) := by
  funext left right
  unfold Hashing.combine combineSorted MerkleTree.hashSiblings
  by_cases order : left ≤ right <;>
    simp [merkleHashing, intermediateInput, hashIntermediate, hashvOf, order]

theorem merkleHashing_leaf (item : Bytes32) :
    (merkleHashing hash).leaf item = hashLeaf (hashvOf hash) item.toList := by
  simp [Hashing.leaf, merkleHashing, hashLeaf, hashvOf]

/-- The string a node is hashed as. -/
def TreeNode.serialized (self : TreeNode) : List UInt8 := self.slices.flatten

/-- Every byte string hashed to build the tree over some nodes. -/
def hashedByTree (hash : List UInt8 → Bytes32) (treeNodes : List TreeNode) : List (List UInt8) :=
  let sorted := MetaMerkleTree.sortByHash (hashvOf hash) treeNodes
  sorted.map TreeNode.serialized ++
    (merkleHashing hash).treeInputs (sorted.map (TreeNode.hash (hashvOf hash)))

/-- Every byte string hashed to check a node's proof. -/
def hashedByVerify (hash : List UInt8 → Bytes32) (node : TreeNode) (proof : List Bytes32) :
    List (List UInt8) :=
  let item := node.hash (hashvOf hash)
  node.serialized :: (merkleHashing hash).leafInput item ::
    (merkleHashing hash).pathInputs ((merkleHashing hash).leaf item) proof

/-- The string determines the four fields it is made of. -/
theorem TreeNode.serialized_inj {left right : TreeNode} (same : left.serialized = right.serialized) :
    left.tipDistributionAccount = right.tipDistributionAccount ∧
      left.validatorMerkleRoot = right.validatorMerkleRoot ∧
      left.maxTotalClaim = right.maxTotalClaim ∧ left.maxNumNodes = right.maxNumNodes := by
  simp only [serialized, slices, List.flatten_cons, List.flatten_nil, List.append_nil] at same
  obtain ⟨account, same⟩ := List.append_inj same (by simp)
  obtain ⟨root, same⟩ := List.append_inj same (by simp)
  obtain ⟨claim, nodes⟩ := List.append_inj same (by simp [toLeBytes])
  refine ⟨congrArg Pubkey.mk (Vector.toList_inj.mp account), Vector.toList_inj.mp root, ?_, ?_⟩
  · exact UInt64.toNat_inj.mp (toLeBytes_injective (UInt64.toNat_lt _) (UInt64.toNat_lt _) claim)
  · exact UInt64.toNat_inj.mp (toLeBytes_injective (UInt64.toNat_lt _) (UInt64.toNat_lt _) nodes)

/-- A node whose hash is among the tree's nodes' hashes is one of them, or its
string collides with one of theirs. -/
private theorem node_of_hash {node : TreeNode} {treeNodes : List TreeNode}
    (member : node.hash (hashvOf hash) ∈ treeNodes.map (TreeNode.hash (hashvOf hash))) :
    (∃ own ∈ treeNodes, own.serialized = node.serialized) ∨
      ∃ a ∈ treeNodes.map TreeNode.serialized, a ≠ node.serialized ∧
        hash a = hash node.serialized := by
  obtain ⟨own, inside, sameHash⟩ := List.mem_map.mp member
  by_cases same : own.serialized = node.serialized
  · exact .inl ⟨own, inside, same⟩
  · exact .inr ⟨_, List.mem_map_of_mem inside, same, sameHash⟩

private theorem accepted_ends {box : BallotBox} {tipDistributionAccount : Pubkey}
    {proof : List Bytes32} {merkleRoot : Bytes32} {maxTotalClaim maxNumNodes : UInt64}
    (accepted : box.verifyMerkleRoot (hashvOf hash) tipDistributionAccount proof merkleRoot
      maxTotalClaim maxNumNodes = .ok ()) :
    proof.foldl (combineSorted (hashvOf hash)) (hashLeaf (hashvOf hash)
      ((TreeNode.new tipDistributionAccount merkleRoot maxTotalClaim maxNumNodes).hash
        (hashvOf hash)).toList) = box.winningBallot.root := by
  exact verify_eq_true_iff.mp (BallotBox.verify_of_verifyMerkleRoot accepted)

/-- An accepted proof belongs to a node with exactly the given fields, or two
different strings hashed for the tree and for the proof have the same hash. -/
theorem accepted_proofs_are_sound (hash : List UInt8 → Bytes32) {treeNodes : List TreeNode}
    {tree : MetaMerkleTree} (returned : MetaMerkleTree.new (hashvOf hash) treeNodes = .ok (.ok tree))
    {box : BallotBox} (won : box.winningBallot.root = tree.merkleRoot)
    {tipDistributionAccount : Pubkey} {proof : List Bytes32} {merkleRoot : Bytes32}
    {maxTotalClaim maxNumNodes : UInt64}
    (accepted : box.verifyMerkleRoot (hashvOf hash) tipDistributionAccount proof merkleRoot
      maxTotalClaim maxNumNodes = .ok ()) :
    (∃ node ∈ treeNodes, node.tipDistributionAccount = tipDistributionAccount ∧
      node.validatorMerkleRoot = merkleRoot ∧ node.maxTotalClaim = maxTotalClaim ∧
      node.maxNumNodes = maxNumNodes) ∨
    ∃ a ∈ hashedByTree hash treeNodes,
      ∃ b ∈ hashedByVerify hash
        (.new tipDistributionAccount merkleRoot maxTotalClaim maxNumNodes) proof,
        a ≠ b ∧ hash a = hash b := by
  set node := TreeNode.new tipDistributionAccount merkleRoot maxTotalClaim maxNumNodes
    with isNode
  set sorted := MetaMerkleTree.sortByHash (hashvOf hash) treeNodes with isSorted
  obtain ⟨merkleTree, built, isRoot, -⟩ := MetaMerkleTree.new_returned returned
  have isTop : root (merkleHashing hash).combine
      ((sorted.map (TreeNode.hash (hashvOf hash))).map (merkleHashing hash).leaf) =
        some tree.merkleRoot := by
    rw [← isRoot, MerkleTree.getRoot_eq built, merkleHashing_combine, MetaMerkleTree.hashedNodes,
      List.map_map, List.map_map]
    congr 2
    funext entry
    exact merkleHashing_leaf _
  have ends : proof.foldl (merkleHashing hash).combine
      ((merkleHashing hash).leaf (node.hash (hashvOf hash))) = tree.merkleRoot := by
    rw [merkleHashing_combine, merkleHashing_leaf, ← won]
    exact accepted_ends accepted
  rcases Hashing.mem_of_path isTop ends with member | ⟨a, inTree, b, inProof, different, same⟩
  · rcases node_of_hash member with ⟨own, inside, same⟩ | ⟨a, inTree, different, same⟩
    · refine .inl ⟨own, (MetaMerkleTree.sortByHash_perm treeNodes).mem_iff.mp inside, ?_⟩
      exact TreeNode.serialized_inj same
    · exact .inr ⟨a, List.mem_append_left _ inTree, _, List.mem_cons_self, different, same⟩
  · exact .inr ⟨a, List.mem_append_right _ inTree, b, List.mem_cons_of_mem _ inProof, different,
      same⟩

def TreeNode.sample : TreeNode :=
  .new ⟨Vector.replicate 32 1⟩ (Vector.replicate 32 2) 3 4

def TreeNode.beside : TreeNode :=
  .new ⟨Vector.replicate 32 2⟩ (Vector.replicate 32 3) 4 5

/-- The SHA-256 digests of the two nodes. -/
def sampleDigest : Bytes32 :=
  #v[207, 188, 91, 223, 86, 249, 58, 53, 225, 169, 196, 59, 85, 70, 188, 211,
    32, 132, 227, 46, 196, 161, 156, 165, 27, 91, 153, 227, 165, 41, 243, 168]

def besideDigest : Bytes32 :=
  #v[150, 187, 129, 77, 101, 87, 94, 93, 149, 36, 17, 247, 96, 43, 161, 170,
    114, 208, 61, 37, 49, 180, 209, 52, 47, 18, 201, 117, 68, 102, 39, 249]

/-- SHA-256 on what the tree of the two nodes hashes: the nodes, the leaves and the root. -/
def sampleHash (input : List UInt8) : Bytes32 :=
  if input = TreeNode.sample.serialized then sampleDigest
  else if input = TreeNode.beside.serialized then besideDigest
  else if input = leafPrefix ++ sampleDigest.toList then
    #v[171, 58, 241, 126, 62, 204, 235, 232, 62, 106, 63, 2, 7, 43, 142, 202,
    28, 115, 157, 129, 248, 195, 175, 74, 65, 67, 90, 157, 74, 248, 39, 214]
  else if input = leafPrefix ++ besideDigest.toList then
    #v[194, 183, 161, 208, 61, 240, 211, 193, 106, 81, 221, 76, 206, 192, 52, 17,
    242, 14, 67, 3, 124, 241, 188, 37, 169, 166, 145, 44, 204, 152, 56, 227]
  else
    #v[211, 232, 19, 0, 105, 41, 242, 155, 33, 19, 119, 20, 40, 150, 72, 44,
    58, 167, 16, 146, 151, 16, 188, 238, 21, 44, 171, 101, 94, 196, 187, 42]

theorem sampleHash_sample : TreeNode.sample.hash (hashvOf sampleHash) = sampleDigest := by
  decide +kernel

theorem sampleHash_beside : TreeNode.beside.hash (hashvOf sampleHash) = besideDigest := by
  decide +kernel

theorem sampleHash_sorted :
    MetaMerkleTree.sortByHash (hashvOf sampleHash) [.beside, .sample] = [.beside, .sample] := by
  have ordered : besideDigest ≤ sampleDigest := by
    rw [← Vector.le_toList]
    decide +kernel
  refine List.mergeSort_of_pairwise (List.pairwise_pair.mpr ?_)
  rw [sampleHash_sample, sampleHash_beside]
  exact decide_eq_true ordered

/-- The two leaves are combined in one order or the other, and neither is the root. -/
theorem sampleHash_root_ne_leaf : combineSorted (hashvOf sampleHash)
    (hashLeaf (hashvOf sampleHash) besideDigest.toList)
    (hashLeaf (hashvOf sampleHash) sampleDigest.toList) ≠
      hashLeaf (hashvOf sampleHash) sampleDigest.toList := by
  unfold combineSorted MerkleTree.hashSiblings
  rw [if_pos rfl]
  split
  · decide +kernel
  · decide +kernel

/-- The proof of the one node in the tree of both is accepted, and belongs to it. -/
theorem accepted_proofs_are_sound_for_two_nodes :
    ∃ tree proof,
      MetaMerkleTree.new (hashvOf sampleHash) [.beside, .sample] = .ok (.ok tree) ∧ proof ≠ [] ∧
      ({ BallotBox.new .default 0 0 0 with
          winningBallot := .new tree.merkleRoot }).verifyMerkleRoot (hashvOf sampleHash)
        ⟨Vector.replicate 32 1⟩ proof (Vector.replicate 32 2) 3 4 = .ok () ∧
      ((∃ node ∈ [TreeNode.beside, .sample],
          node.tipDistributionAccount = ⟨Vector.replicate 32 1⟩ ∧
          node.validatorMerkleRoot = Vector.replicate 32 2 ∧ node.maxTotalClaim = 3 ∧
          node.maxNumNodes = 4) ∨
        ∃ a ∈ hashedByTree sampleHash [.beside, .sample], ∃ b ∈ hashedByVerify sampleHash
          (.new ⟨Vector.replicate 32 1⟩ (Vector.replicate 32 2) 3 4) proof,
          a ≠ b ∧ sampleHash a = sampleHash b) := by
  obtain ⟨tree, returned⟩ := MetaMerkleTree.new_ok (hashvOf sampleHash)
    (List.cons_ne_nil TreeNode.beside [.sample]) (by decide) (by decide)
  obtain ⟨merkleTree, built, isRoot, related⟩ := MetaMerkleTree.new_returned returned
  rw [sampleHash_sorted] at built related
  have top : tree.merkleRoot = combineSorted (hashvOf sampleHash)
      (hashLeaf (hashvOf sampleHash) besideDigest.toList)
      (hashLeaf (hashvOf sampleHash) sampleDigest.toList) := by
    have computed := isRoot.symm.trans (MerkleTree.getRoot_eq built)
    rw [MetaMerkleTree.hashedNodes, List.map_cons, List.map_singleton, sampleHash_beside,
      sampleHash_sample, root_of_lt (by decide), root_of_le (by simp)] at computed
    exact Option.some.inj computed
  obtain ⟨_, _, -, remaining, isNodes⟩ := List.forall₂_cons_left_iff.mp related
  obtain ⟨node, rest, ⟨proof, -, rfl⟩, -, isRest⟩ := List.forall₂_cons_left_iff.mp remaining
  have listed : { TreeNode.sample with proof := some proof } ∈ tree.treeNodes := by
    rw [isNodes, isRest]
    exact List.mem_cons_of_mem _ List.mem_cons_self
  obtain ⟨proof', same, verifies⟩ := MetaMerkleTree.returned_verifies returned listed
  obtain rfl : proof = proof' := Option.some.inj same
  have accepted := verifies
    { BallotBox.new .default 0 0 0 with winningBallot := .new tree.merkleRoot } rfl
  refine ⟨tree, proof, returned, ?_, accepted,
    accepted_proofs_are_sound sampleHash returned rfl accepted⟩
  rintro rfl
  refine sampleHash_root_ne_leaf (top.symm.trans ?_)
  rw [← sampleHash_sample]
  exact (accepted_ends accepted).symm

end TipRouter
