import Mathlib.Data.Finset.Card
import TipRouter.BallotBox
import TipRouter.MerkleTree

/-! The tree over all tip distribution accounts,
`meta_merkle_tree/src/meta_merkle_tree.rs`, and the check of the ballot box
against its root. The tree is built from nodes sorted by hash, and validated
before it is returned. -/
namespace TipRouter
open Runs

structure TreeNode where
  tipDistributionAccount : Pubkey
  proof : Option (List Bytes32)
  validatorMerkleRoot : Bytes32
  maxTotalClaim : UInt64
  maxNumNodes : UInt64
  deriving DecidableEq

namespace TreeNode

def new (tipDistributionAccount : Pubkey) (validatorMerkleRoot : Bytes32)
    (maxTotalClaim maxNumNodes : UInt64) : TreeNode where
  tipDistributionAccount := tipDistributionAccount
  proof := none
  validatorMerkleRoot := validatorMerkleRoot
  maxTotalClaim := maxTotalClaim
  maxNumNodes := maxNumNodes

/-- The slices `hash` passes to `hashv`; the proof is not among them. -/
def slices (self : TreeNode) : List (List UInt8) :=
  [self.tipDistributionAccount.toBytes.toList, self.validatorMerkleRoot.toList,
    toLeBytes self.maxTotalClaim.toNat, toLeBytes self.maxNumNodes.toNat]

def hash (hashv : Hashv) (self : TreeNode) : Bytes32 := hashv self.slices

end TreeNode

/-- `MerkleTreeError`. -/
inductive MerkleTreeError where
  | merkleValidationError (message : String)
  | merkleRootError
  deriving DecidableEq

structure MetaMerkleTree where
  merkleRoot : Bytes32
  numNodes : ℕ
  treeNodes : List TreeNode
  deriving DecidableEq

namespace MetaMerkleTree

/-- The bytes of the node hashes, the leaves of the tree. -/
def hashedNodes (hashv : Hashv) (treeNodes : List TreeNode) : List (List UInt8) :=
  treeNodes.map fun node => (node.hash hashv).toList

/-- The loop of `verify_proof` over the leaves and their positions. -/
def verifyNodes (hashv : Hashv) (mk : MerkleTree) (root : Bytes32) :
    List (List UInt8 × ℕ) → Except Panic (Except MerkleTreeError Unit)
  | [] => .ok (.ok ())
  | (hashedNode, i) :: rest => do
    let node := hashv [leafPrefix, hashedNode]
    let proof ← getProof mk i
    if !verify hashv proof root node then
      return .error (.merkleValidationError "invalid merkle proof")
    else verifyNodes hashv mk root rest

def verifyProof (hashv : Hashv) (self : MetaMerkleTree) :
    Except Panic (Except MerkleTreeError Unit) := do
  let root := self.merkleRoot
  let hashedNodes := hashedNodes hashv self.treeNodes
  let mk ← MerkleTree.new hashv hashedNodes true
  match mk.getRoot with
  | none => return .error (.merkleValidationError "invalid merkle proof")
  | some mkRoot =>
    if mkRoot ≠ root then .error .assertionFailed
    else verifyNodes hashv mk root hashedNodes.zipIdx

def validate (hashv : Hashv) (self : MetaMerkleTree) :
    Except Panic (Except MerkleTreeError Unit) := do
  let maxNodes := 2 ^ 32 - 1
  if self.numNodes > maxNodes then
    return .error (.merkleValidationError
      s!"Max num nodes {self.numNodes} is greater than 2^32 - 1")
  else if self.treeNodes.length ≠ self.numNodes then
    return .error (.merkleValidationError
      s!"Tree nodes length {self.treeNodes.length} does not match max_num_nodes {self.numNodes}")
  else
    let uniqueNodes := (self.treeNodes.map TreeNode.tipDistributionAccount).toFinset
    if uniqueNodes.card ≠ self.treeNodes.length then
      return .error (.merkleValidationError "Duplicate vote_accounts found")
    else
      match ← self.verifyProof hashv with
      | .error _ => return .error (.merkleValidationError "Merkle root is invalid given nodes")
      | .ok () => return .ok ()

/-- `sort_by_key(|node| node.hash())`, which is stable. -/
def sortByHash (hashv : Hashv) (treeNodes : List TreeNode) : List TreeNode :=
  treeNodes.mergeSort fun left right => decide (left.hash hashv ≤ right.hash hashv)

def new (hashv : Hashv) (treeNodes : List TreeNode) :
    Except Panic (Except MerkleTreeError MetaMerkleTree) := do
  let treeNodes := sortByHash hashv treeNodes
  let tree ← MerkleTree.new hashv (hashedNodes hashv treeNodes) true
  let treeNodes ← treeNodes.zipIdx.mapM fun (treeNode, i) => do
    let proof ← getProof tree i
    return { treeNode with proof := some proof }
  match tree.getRoot with
  | none => return .error .merkleRootError
  | some merkleRoot =>
    let tree : MetaMerkleTree := ⟨merkleRoot, treeNodes.length, treeNodes⟩
    match ← tree.validate hashv with
    | .error failure => return .error failure
    | .ok () => return .ok tree

end MetaMerkleTree

def BallotBox.verifyMerkleRoot (hashv : Hashv) (self : BallotBox) (tipDistributionAccount : Pubkey)
    (proof : List Bytes32) (merkleRoot : Bytes32) (maxTotalClaim maxNumNodes : UInt64) :
    Except TipRouterError Unit :=
  let treeNode := TreeNode.new tipDistributionAccount merkleRoot maxTotalClaim maxNumNodes
  let nodeHash := hashv [leafPrefix, (treeNode.hash hashv).toList]
  if !verify hashv proof self.winningBallot.root nodeHash then .error .invalidMerkleProof
  else .ok ()

theorem BallotBox.verify_of_verifyMerkleRoot {box : BallotBox} {hashv : Hashv}
    {tipDistributionAddress : Pubkey} {proof : List Bytes32} {merkleRoot : Bytes32}
    {maxTotalClaim maxNumNodes : UInt64}
    (verified : box.verifyMerkleRoot hashv tipDistributionAddress proof merkleRoot maxTotalClaim
      maxNumNodes = .ok ()) :
    verify hashv proof box.winningBallot.root (hashv [leafPrefix,
      ((TreeNode.new tipDistributionAddress merkleRoot maxTotalClaim maxNumNodes).hash
        hashv).toList]) = true := by
  unfold verifyMerkleRoot at verified
  dsimp only at verified
  split at verified
  · cases verified
  · rename_i accepted
    simpa using accepted

end TipRouter
