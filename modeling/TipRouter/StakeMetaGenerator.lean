import TipRouter.CanonicalSort
import TipRouter.GeneratedMerkleTree
import TipRouter.MetaMerkleTree

/-! How an operator gets from a bank to the root it votes for: delegations
grouped by voter and sorted, stake metas sorted by vote account
(`tip-router-operator-cli/src/stake_meta_generator.rs`), one tree for each
distribution account (`meta_merkle_tree/src/generated_merkle_tree.rs`) and the
tree over all of them. The bank hands out vote accounts and stake delegations
in the arbitrary order of its hash maps. -/
namespace TipRouter.GeneratedMerkleTree
open Runs

/-- How this code stops short: it panics, or returns an error. -/
inductive Failure (ε : Type) where
  | panicked (panic : Panic)
  | failed (error : ε)
  deriving DecidableEq

/-- `map_err`; a panic is not caught. -/
def Failure.map {ε δ : Type} (f : ε → δ) : Failure ε → Failure δ
  | .panicked panic => .panicked panic
  | .failed error => .failed (f error)

instance liftPanic {ε : Type} : MonadLift (Except Panic) (Except (Failure ε)) where
  monadLift result := result.mapError .panicked

instance liftFailed {ε : Type} : MonadLift (Except ε) (Except (Failure ε)) where
  monadLift result := result.mapError .failed

@[simp] theorem liftPanic_eq_ok_iff {ε α : Type} {first : Except Panic α} {result : α} :
    (liftM first : Except (Failure ε) α) = .ok result ↔ first = .ok result := by
  cases first <;> simp [liftM, monadLift, MonadLift.monadLift, Except.mapError]

@[simp] theorem liftFailed_eq_ok_iff {ε α : Type} {first : Except ε α} {result : α} :
    (liftM first : Except (Failure ε) α) = .ok result ↔ first = .ok result := by
  cases first <;> simp [liftM, monadLift, MonadLift.monadLift, Except.mapError]

/-- `Option::unwrap` and `Option::expect`. -/
def unwrap {α : Type} (value : Option α) : Except Panic α :=
  match value with
  | some result => .ok result
  | none => .error .unwrapNone

@[simp] theorem unwrap_eq_ok_iff {α : Type} {value : Option α} {result : α} :
    unwrap value = .ok result ↔ value = some result := by
  cases value <;> simp [unwrap]

/-! ## The derived orders -/

end GeneratedMerkleTree

/-- `Ord for Pubkey`: the bytes in lexicographic order. -/
instance Pubkey.ord : Ord Pubkey := ⟨compareOn Pubkey.toBytes⟩

instance Pubkey.transOrd : Std.TransOrd Pubkey :=
  inferInstanceAs (Std.TransCmp (compareOn Pubkey.toBytes))

theorem Pubkey.eq_of_compare {left right : Pubkey} (same : compare left right = .eq) :
    left = right := by
  have bytes : left.toBytes = right.toBytes := Std.LawfulEqOrd.eq_of_compare same
  cases left
  cases right
  exact congrArg Pubkey.mk bytes

namespace GeneratedMerkleTree
open Runs

/-- `Ord for Delegation`: a tuple of all four fields. -/
def Delegation.cmp : Delegation → Delegation → Ordering :=
  compareLex (compareOn Delegation.stakeAccountPubkey)
    (compareLex (compareOn Delegation.withdrawerPubkey)
      (compareLex (compareOn Delegation.stakerPubkey) (compareOn Delegation.lamportsDelegated)))

/-- `Ord for StakeMeta`: the vote account alone. -/
def StakeMeta.cmp : StakeMeta → StakeMeta → Ordering := compareOn StakeMeta.validatorVoteAccount

/-- `Vec::sort`, which is stable. -/
def sort {α : Type} (cmp : α → α → Ordering) (items : List α) : List α :=
  items.mergeSort fun left right => (cmp left right).isLE

/-! ## What is read from the bank -/

structure StakeDelegation where
  voterPubkey : Pubkey
  stake : ℕ
  activationEpoch : ℕ
  deactivationEpoch : ℕ
  deriving DecidableEq

structure Authorized where
  staker : Pubkey
  withdrawer : Pubkey
  deriving DecidableEq

structure StakeAccount where
  delegation : StakeDelegation
  authorized : Option Authorized
  deriving DecidableEq

/-- The fields of a vote account's `vote_state` that are read. -/
structure VoteAccount where
  nodePubkey : Pubkey
  commission : ℕ
  deriving DecidableEq

structure AccountSharedData where
  lamports : ℕ
  data : List UInt8
  deriving DecidableEq

/-- `jito_tip_payment::accounts::Config`, the two fields that are read. -/
structure TipPaymentConfig where
  blockBuilderCommissionPct : ℕ
  tipReceiver : Pubkey
  deriving DecidableEq

/-- `TipDistributionAccount`, the fields that are read; of its Merkle root only
whether it is set. -/
structure TipDistributionAccount where
  validatorCommissionBps : ℕ
  merkleRootUploadAuthority : Pubkey
  merkleRoot : Option Bytes32
  deriving DecidableEq

structure TipDistributionAccountWrapper where
  tipDistributionAccount : TipDistributionAccount
  accountData : AccountSharedData
  tipDistributionPubkey : Pubkey
  deriving DecidableEq

/-- A bank as this code reads it: two of its hash maps as the lists their
iterators yield, the stake it counts at its epoch, its accounts and rent. -/
structure Bank where
  isFrozen : Bool
  epoch : ℕ
  slot : ℕ
  hash : String
  epochVoteAccounts : Option (List (Pubkey × VoteAccount))
  stakeDelegations : List (Pubkey × StakeAccount)
  effectiveStake : StakeDelegation → ℕ
  getAccount : Pubkey → Option AccountSharedData
  getMinimumBalanceForRentExemption : ℕ → ℕ

/-- Address derivation, and the account layouts Anchor reads; of a claim status
only whether it is one. -/
structure TipSdk extends TipDistribution where
  deserializeConfig : List UInt8 → Option TipPaymentConfig
  deserializeTipDistributionAccount : List UInt8 → Option TipDistributionAccount
  deserializesClaimStatus : List UInt8 → Bool

/-- `CONFIG_ACCOUNT_SEED`, `TIP_ACCOUNT_SEED_0` to `TIP_ACCOUNT_SEED_7` and
`TIP_DISTRIBUTION_SEED`. -/
def configAccountSeed : List UInt8 := "CONFIG_ACCOUNT".toUTF8.toList
def tipAccountSeeds : List (List UInt8) :=
  ["TIP_ACCOUNT_0", "TIP_ACCOUNT_1", "TIP_ACCOUNT_2", "TIP_ACCOUNT_3", "TIP_ACCOUNT_4",
    "TIP_ACCOUNT_5", "TIP_ACCOUNT_6", "TIP_ACCOUNT_7"].map fun seed => seed.toUTF8.toList
def tipDistributionSeed : List UInt8 := "TIP_DISTRIBUTION_ACCOUNT".toUTF8.toList

/-! ## The stake metas -/

inductive StakeMetaGeneratorError where
  | anchorError
  | checkedMathError
  deriving DecidableEq, Repr

structure StakeMetaCollection where
  stakeMetas : List StakeMeta
  tipDistributionProgramId : Pubkey
  bankHash : String
  epoch : ℕ
  slot : ℕ
  deriving DecidableEq

def Delegation.ofStakeAccount (stakePubkey : Pubkey) (stakeAccount : StakeAccount) :
    Delegation where
  stakeAccountPubkey := stakePubkey
  stakerPubkey := (stakeAccount.authorized.map Authorized.staker).getD .default
  withdrawerPubkey := (stakeAccount.authorized.map Authorized.withdrawer).getD .default
  lamportsDelegated := stakeAccount.delegation.stake

/-- The hash map this function builds, as a function of the key: a voter
without counted stake has no entry. -/
def groupDelegationsByVoterPubkey (bank : Bank) (voterPubkey : Pubkey) :
    Option (List Delegation) :=
  let counted := bank.stakeDelegations.filter fun entry =>
    bank.effectiveStake entry.2.delegation > 0
  let group := counted.filter fun entry => entry.2.delegation.voterPubkey = voterPubkey
  if group.isEmpty then none
  else some (group.map fun entry => Delegation.ofStakeAccount entry.1 entry.2)

namespace TipSdk

def deriveTipDistributionAccountAddress (sdk : TipSdk) (tipDistributionProgramId votePubkey : Pubkey)
    (epoch : ℕ) : Pubkey :=
  (sdk.findProgramAddress
    [tipDistributionSeed, votePubkey.toBytes.toList, toLeBytes epoch] tipDistributionProgramId).1

def deriveTipPaymentPubkeys (sdk : TipSdk) (programId : Pubkey) : List Pubkey :=
  tipAccountSeeds.map fun seed => (sdk.findProgramAddress [seed] programId).1

/-- The config account of the tip payment program. -/
def tipPaymentConfig (sdk : TipSdk) (bank : Bank) (tipPaymentProgramId : Pubkey) :
    Except StakeMetaGeneratorError TipPaymentConfig :=
  match bank.getAccount (sdk.findProgramAddress [configAccountSeed] tipPaymentProgramId).1 with
  | none => .error .anchorError
  | some configAccount =>
    match sdk.deserializeConfig configAccount.data with
    | none => .error .anchorError
    | some config => .ok config

/-- What the tip accounts hold in excess, less the block builder's commission. -/
def tipReceiverFee (sdk : TipSdk) (bank : Bank) (tipPaymentProgramId : Pubkey)
    (bbCommissionPct : ℕ) : Except Panic ℕ := do
  let excessTipBalances ← (sdk.deriveTipPaymentPubkeys tipPaymentProgramId).foldlM
    (fun sum pubkey => do
      let tipAccount ← unwrap (bank.getAccount pubkey)
      let excess ← unwrap (checkedSub tipAccount.lamports
        (bank.getMinimumBalanceForRentExemption tipAccount.data.length))
      unwrap (checkedAdd 64 sum excess)) 0
  let product ← unwrap (checkedMul 64 excessTipBalances bbCommissionPct)
  let blockBuilderTips ← unwrap (checkedDiv product 100)
  unwrap (checkedSub excessTipBalances blockBuilderTips)

/-- The distribution account of one vote account, if it exists and is laid out
as one. The tip receiver's is credited with the tips not yet cranked. -/
def tipDistributionAccountOf (sdk : TipSdk) (bank : Bank) (tipDistributionProgramId : Pubkey)
    (tipReceiver : Pubkey) (tipReceiverFee : ℕ) (votePubkey : Pubkey) :
    Except Panic (Option TipDistributionAccountWrapper) :=
  let tipDistributionPubkey :=
    sdk.deriveTipDistributionAccountAddress tipDistributionProgramId votePubkey bank.epoch
  match bank.getAccount tipDistributionPubkey with
  | none => .ok none
  | some accountData =>
    match sdk.deserializeTipDistributionAccount accountData.data with
    | none => .ok none
    | some tipDistributionAccount =>
      if tipDistributionPubkey = tipReceiver then do
        let lamports ← unwrap (checkedAdd 64 accountData.lamports tipReceiverFee)
        return some
          ⟨tipDistributionAccount, { accountData with lamports := lamports }, tipDistributionPubkey⟩
      else .ok (some ⟨tipDistributionAccount, accountData, tipDistributionPubkey⟩)

/-- The first pass over the vote accounts, which looks up their distribution accounts. -/
def votePkAndMaybeTdas (sdk : TipSdk) (bank : Bank) (tipDistributionProgramId : Pubkey)
    (tipReceiver : Pubkey) (tipReceiverFee : ℕ) (epochVoteAccounts : List (Pubkey × VoteAccount)) :
    Except Panic (List ((Pubkey × VoteAccount) × Option TipDistributionAccountWrapper)) :=
  epochVoteAccounts.mapM fun (votePubkey, voteAccount) => do
    let tda ← sdk.tipDistributionAccountOf bank tipDistributionProgramId tipReceiver
      tipReceiverFee votePubkey
    return ((votePubkey, voteAccount), tda)

end TipSdk

def tipDistributionAccountFromTdaWrapper (tdaWrapper : TipDistributionAccountWrapper)
    (rentExemptAmount : ℕ) : Except StakeMetaGeneratorError TipDistributionMeta :=
  match checkedSub tdaWrapper.accountData.lamports rentExemptAmount with
  | none => .error .checkedMathError
  | some totalTips => .ok {
      merkleRootUploadAuthority := tdaWrapper.tipDistributionAccount.merkleRootUploadAuthority
      tipDistributionPubkey := tdaWrapper.tipDistributionPubkey
      totalTips := totalTips
      validatorFeeBps := tdaWrapper.tipDistributionAccount.validatorCommissionBps }

/-- The sum of the delegations; an overflow panics. -/
def totalDelegated (delegations : List Delegation) : Except Panic ℕ :=
  delegations.foldlM (fun sum delegation => unwrap (checkedAdd 64 sum delegation.lamportsDelegated)) 0

/-- One round of the loop over the vote accounts. -/
def stakeMetaOf (bank : Bank) (votePubkey : Pubkey) (voteAccount : VoteAccount)
    (maybeTda : Option TipDistributionAccountWrapper) :
    Except (Failure StakeMetaGeneratorError) (Option StakeMeta) :=
  match groupDelegationsByVoterPubkey bank votePubkey with
  | none => .ok none
  | some delegations => do
    let totalDelegated ← totalDelegated delegations
    let maybeTipDistributionMeta ← (match maybeTda with
      | none => .ok none
      | some tda => do
        let rentExemptAmount :=
          bank.getMinimumBalanceForRentExemption tda.accountData.data.length
        let tipDistributionMeta ← tipDistributionAccountFromTdaWrapper tda rentExemptAmount
        return some tipDistributionMeta : Except (Failure StakeMetaGeneratorError) _)
    return some {
      validatorVoteAccount := votePubkey
      validatorNodePubkey := voteAccount.nodePubkey
      maybeTipDistributionMeta := maybeTipDistributionMeta
      delegations := sort Delegation.cmp delegations
      totalDelegated := totalDelegated
      commission := voteAccount.commission }

def generateStakeMetaCollection (sdk : TipSdk) (bank : Bank)
    (tipDistributionProgramId tipPaymentProgramId : Pubkey) :
    Except (Failure StakeMetaGeneratorError) StakeMetaCollection :=
  if !bank.isFrozen then .error (.panicked .assertionFailed)
  else do
    let epochVoteAccounts ← unwrap bank.epochVoteAccounts
    let config ← sdk.tipPaymentConfig bank tipPaymentProgramId
    let tipReceiverFee ←
      sdk.tipReceiverFee bank tipPaymentProgramId config.blockBuilderCommissionPct
    let votePkAndMaybeTdas ← sdk.votePkAndMaybeTdas bank tipDistributionProgramId
      config.tipReceiver tipReceiverFee epochVoteAccounts
    let stakeMetas ← votePkAndMaybeTdas.mapM fun ((votePubkey, voteAccount), maybeTda) =>
      stakeMetaOf bank votePubkey voteAccount maybeTda
    return {
      stakeMetas := sort StakeMeta.cmp stakeMetas.reduceOption
      tipDistributionProgramId := tipDistributionProgramId
      bankHash := bank.hash
      epoch := bank.epoch
      slot := bank.slot }

/-! ## The trees -/

end GeneratedMerkleTree

open GeneratedMerkleTree

structure GeneratedMerkleTree where
  tipDistributionAccount : Pubkey
  merkleRootUploadAuthority : Pubkey
  merkleRoot : Bytes32
  treeNodes : List GeneratedMerkleTree.TreeNode
  maxTotalClaim : ℕ
  maxNumNodes : ℕ
  deriving DecidableEq

structure GeneratedMerkleTreeCollection where
  generatedMerkleTrees : List GeneratedMerkleTree
  bankHash : String
  epoch : ℕ
  slot : ℕ
  deriving DecidableEq

/-- Only the claimant and the amount of a claim are hashed. -/
def GeneratedMerkleTree.TreeNode.hash (hashv : Hashv) (self : GeneratedMerkleTree.TreeNode) :
    Bytes32 :=
  hashv [self.claimant.toBytes.toList, toLeBytes self.amount]

/-- The tree of one stake meta; its claims keep the order they were made in. -/
def GeneratedMerkleTree.ofStakeMeta (sdk : TipDistribution) (hashv : Hashv) (stakeMeta : StakeMeta)
    (protocolFeeBps : ℕ) (ncnAddress : Pubkey) (epoch : ℕ)
    (tipDistributionProgramId tipRouterProgramId : Pubkey) :
    Except (Failure MerkleRootGeneratorError) (Option GeneratedMerkleTree) := do
  let maybeTreeNodes ← GeneratedMerkleTree.TreeNode.vecFromStakeMeta sdk stakeMeta protocolFeeBps
    ncnAddress epoch tipDistributionProgramId tipRouterProgramId
  match maybeTreeNodes with
  | none => return none
  | some treeNodes => do
    let hashedNodes := treeNodes.map fun node => (node.hash hashv).toList
    let tipDistributionMeta ← unwrap stakeMeta.maybeTipDistributionMeta
    let merkleTree ← MerkleTree.new hashv hashedNodes true
    let maxNumNodes := treeNodes.length
    let treeNodes ← treeNodes.zipIdx.mapM fun (treeNode, i) => do
      let proof ← getProof merkleTree i
      return { treeNode with proof := some proof }
    let merkleRoot ← unwrap merkleTree.getRoot
    return some {
      tipDistributionAccount := tipDistributionMeta.tipDistributionPubkey
      merkleRootUploadAuthority := tipDistributionMeta.merkleRootUploadAuthority
      merkleRoot := merkleRoot
      treeNodes := treeNodes
      maxTotalClaim := tipDistributionMeta.totalTips
      maxNumNodes := maxNumNodes }

def GeneratedMerkleTreeCollection.newFromStakeMetaCollection (sdk : TipDistribution)
    (hashv : Hashv) (stakeMetaCollection : StakeMetaCollection) (ncnAddress : Pubkey) (epoch : ℕ)
    (protocolFeeBps : ℕ) (tipRouterProgramId : Pubkey) :
    Except (Failure MerkleRootGeneratorError) GeneratedMerkleTreeCollection := do
  let distributed := stakeMetaCollection.stakeMetas.filter fun stakeMeta =>
    stakeMeta.maybeTipDistributionMeta.isSome
  let generatedMerkleTrees ← distributed.mapM fun stakeMeta =>
    GeneratedMerkleTree.ofStakeMeta sdk hashv stakeMeta protocolFeeBps ncnAddress epoch
      stakeMetaCollection.tipDistributionProgramId tipRouterProgramId
  return {
    generatedMerkleTrees := generatedMerkleTrees.reduceOption
    bankHash := stakeMetaCollection.bankHash
    epoch := stakeMetaCollection.epoch
    slot := stakeMetaCollection.slot }

/-- `From<GeneratedMerkleTree> for TreeNode`. -/
def TreeNode.fromGenerated (generatedMerkleTree : GeneratedMerkleTree) : TreeNode where
  tipDistributionAccount := generatedMerkleTree.tipDistributionAccount
  proof := none
  validatorMerkleRoot := generatedMerkleTree.merkleRoot
  maxTotalClaim := .ofNat generatedMerkleTree.maxTotalClaim
  maxNumNodes := .ofNat generatedMerkleTree.maxNumNodes

def MetaMerkleTree.newFromGeneratedMerkleTreeCollection (hashv : Hashv)
    (generatedMerkleTreeCollection : GeneratedMerkleTreeCollection) :
    Except Panic (Except MerkleTreeError MetaMerkleTree) :=
  MetaMerkleTree.new hashv
    (generatedMerkleTreeCollection.generatedMerkleTrees.map TreeNode.fromGenerated)

/-- `MerkleRootError`, with the causes whose text it holds. -/
inductive MerkleRootError where
  | stakeMetaGeneratorError (cause : StakeMetaGeneratorError)
  | merkleRootGeneratorError
  | merkleTreeError (cause : MerkleTreeError)
  deriving DecidableEq

/-- `get_meta_merkle_root` from the bank on, without the files it writes. -/
def getMetaMerkleRoot (sdk : TipSdk) (hashv : Hashv) (bank : Bank)
    (tipDistributionProgramId tipPaymentProgramId tipRouterProgramId ncnAddress : Pubkey)
    (epoch protocolFeeBps : ℕ) : Except (Failure MerkleRootError) MetaMerkleTree := do
  let stakeMetaCollection ←
    (generateStakeMetaCollection sdk bank tipDistributionProgramId tipPaymentProgramId).mapError
      (Failure.map .stakeMetaGeneratorError)
  let merkleTreeColl ←
    (GeneratedMerkleTreeCollection.newFromStakeMetaCollection sdk.toTipDistribution hashv
      stakeMetaCollection ncnAddress epoch protocolFeeBps tipRouterProgramId).mapError
      (Failure.map fun _ => .merkleRootGeneratorError)
  match ← (MetaMerkleTree.newFromGeneratedMerkleTreeCollection hashv merkleTreeColl).mapError
    .panicked with
  | .error cause => .error (.failed (.merkleTreeError cause))
  | .ok metaMerkleTree => return metaMerkleTree

end TipRouter
