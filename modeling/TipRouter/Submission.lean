import TipRouter.EpochAgreement
import TipRouter.MetaMerkleProofs

/-! What an operator's client sends for an epoch, `submit.rs` and `tip_router.rs` of the
operator's client. Every ten minutes it reads the ballot box, votes unless its own root is
what it voted for already, and once there is consensus uploads the roots of its tree. -/
namespace TipRouter
open Runs

/-! ## The client -/

/-- How `submit_to_ncn` fails; `claimantNotFound` is the panic of `get_node`. -/
inductive SubmitError where
  | program (failure : InstructionError)
  | ballotTallyNotFound
  | claimantNotFound

/-- `SetMerkleRootBuilder`, as far as it is taken from the tree. -/
structure SetMerkleRoot where
  tipDistributionAccount : Pubkey
  proof : List Bytes32
  merkleRoot : Bytes32
  maxTotalClaim : UInt64
  maxNumNodes : UInt64

def SetMerkleRoot.instruction (self : SetMerkleRoot) : EpochInstruction :=
  .setMerkleRoot self.tipDistributionAccount self.proof self.merkleRoot self.maxTotalClaim
    self.maxNumNodes

def MetaMerkleTree.getNode (self : MetaMerkleTree) (tipDistributionAccount : Pubkey) :
    Except SubmitError TreeNode :=
  match self.treeNodes.find? (·.tipDistributionAccount = tipDistributionAccount) with
  | some node => .ok node
  | none => .error .claimantNotFound

/-- The instructions of `set_merkle_roots_batched`, which leaves out nodes without proof. -/
def setMerkleRootsBatched (metaMerkleTree : MetaMerkleTree) :
    List Pubkey → Except SubmitError (List SetMerkleRoot)
  | [] => .ok []
  | key :: rest => do
    let metaMerkleNode ← metaMerkleTree.getNode key
    let uploads ← setMerkleRootsBatched metaMerkleTree rest
    return match metaMerkleNode.proof with
      | none => uploads
      | some proof => ⟨key, proof, metaMerkleNode.validatorMerkleRoot,
          metaMerkleNode.maxTotalClaim, metaMerkleNode.maxNumNodes⟩ :: uploads

/-- `should_cast_vote` of `submit_to_ncn`. -/
def BallotBox.shouldCastVote (ballotBox : BallotBox) (operatorAddress : Pubkey)
    (merkleRoot : Bytes32) : Except SubmitError Bool :=
  match Slots.first (fun vote => decide (vote.operator = operatorAddress))
      ballotBox.operatorVotes with
  | some index =>
    let vote := ballotBox.operatorVotes[index]
    if inside : vote.ballotIndex < maxOperators then
      .ok (decide (ballotBox.ballotTallies[vote.ballotIndex].ballot.root ≠ merkleRoot))
    else .error .ballotTallyNotFound
  | none => .ok true

/-- What `submit_to_ncn` sends: its vote, and then the roots unless collecting them panics. -/
structure Submitted where
  castsVote : Bool
  uploads : Except SubmitError (List SetMerkleRoot)

def submitToNcn (operatorAddress : Pubkey) (metaMerkleTree : MetaMerkleTree)
    (setMerkleRoots : Bool) (tipDistributionAccounts : List Pubkey) (absoluteSlot : ℕ)
    (config : Config) (accounts : EpochAccounts) : Except SubmitError Submitted :=
  match accounts.ballotBox with
  | .missing => .ok ⟨false, .ok []⟩
  | .allocated _ => .error (.program .invalidAccountData)
  | .ready ballotBox =>
    match ballotBox.isVotingValid absoluteSlot config.validSlotsAfterConsensus with
    | .error failure => .error (.program (.custom failure))
    | .ok isVotingValid => do
      let shouldCastVote ← ballotBox.shouldCastVote operatorAddress metaMerkleTree.merkleRoot
      return {
        castsVote := shouldCastVote && isVotingValid
        uploads :=
          if ballotBox.isConsensusReached && setMerkleRoots then
            setMerkleRootsBatched metaMerkleTree tipDistributionAccounts
          else .ok [] }

/-! ## When the client votes -/

section Votes

variable {box : BallotBox} {map : LastVotes} {operator : Pubkey} {root : Bytes32}

/-- The check finds the operator's last vote, and its tally is there. -/
theorem BallotBox.shouldCastVote_eq (consistent : box.Consistent)
    (records : Records box.operatorVotes box.ballotTallies map) (loaded : operator ≠ .default)
    (root : Bytes32) :
    box.shouldCastVote operator root =
      .ok (decide ((map operator).map LastVote.root ≠ some root)) := by
  unfold shouldCastVote
  cases found : Slots.first (fun vote => decide (vote.operator = operator)) box.operatorVotes with
  | none =>
    have absent := Slots.first_eq_none_iff.mp found
    have none : map operator = none := by
      by_contra some
      obtain ⟨vote, here⟩ := Option.ne_none_iff_exists'.mp some
      obtain ⟨i, _, -, own, -⟩ := (records operator vote).mp here
      have other := absent i
      rw [own] at other
      simp at other
    simp [none]
  | some index =>
    have own : box.operatorVotes[index].operator = operator :=
      of_decide_eq_true (Slots.first_eq_some_iff.mp found).1
    have filled := consistent.votes.operator_ne_default loaded own
    have inside := consistent.votes.known index filled
    have valid : box.ballotTallies[box.operatorVotes[index].ballotIndex].isValid = true :=
      consistent.tallies.valid_of_count (i := ⟨_, inside⟩) (voteCount_pos index rfl)
    have recorded := (records operator
      ⟨box.ballotTallies[box.operatorVotes[index].ballotIndex].ballot.root,
        box.operatorVotes[index].stakeWeights, box.operatorVotes[index].slotVoted⟩).mpr
      ⟨index, ⟨_, inside⟩, filled, own, rfl, rfl, rfl, valid, rfl⟩
    dsimp only
    rw [dif_pos inside, recorded]
    simp

end Votes

namespace EpochAccounts

variable {runtime : Runtime} {indexOf : Pubkey → ℕ} {finish : EpochAccounts} {box : BallotBox}
variable {ncn : Pubkey} {epoch : ℕ} {history : List (Context × EpochInstruction)}

/-- In every state of a run the ballot box has the last vote of each operator. -/
theorem exists_records (documented : runtime.spl.Documented)
    (distinct : Function.Injective indexOf)
    (indexed : ∀ timed ∈ history, timed.2.Indexed indexOf)
    (loads : ∀ timed ∈ history, timed.2.LoadsOperator)
    (ran : run (process runtime) history (absent ncn epoch) = .ok finish)
    (ready : finish.ballotBox = .ready box) :
    box.Consistent ∧ ∃ map : LastVotes, Records box.operatorVotes box.ballotTallies map ∧
      ∀ operator, (map operator).map LastVote.root = choices (ballotRequests history) operator := by
  rcases exists_counts documented distinct indexed loads ran ready with
    ⟨none, bump, slot, rfl⟩ | ⟨electorate, -, counts⟩
  · obtain ⟨consistent, records⟩ := BallotBox.new_refines finish.ncn finish.epoch bump slot
    rw [none]
    exact ⟨consistent, _, records, fun _ => rfl⟩
  · exact ⟨counts.elected.consistent, counts.recorded⟩

/-- **The client asks for a vote exactly when its root does not stand.** Whatever else
has happened in the epoch, the check never misses the operator's tally, and it says yes
unless the last vote that the operator got through was for the same root. -/
theorem client_votes_unless_it_stands (runtime : Runtime) (documented : runtime.spl.Documented)
    (ncn : Pubkey) (epoch : ℕ) {indexOf : Pubkey → ℕ} (distinct : Function.Injective indexOf)
    {history : List (Context × EpochInstruction)}
    (indexed : ∀ timed ∈ history, timed.2.Indexed indexOf)
    (loads : ∀ timed ∈ history, timed.2.LoadsOperator) {finish : EpochAccounts}
    (ran : run (process runtime) history (absent ncn epoch) = .ok finish) {box : BallotBox}
    (ready : finish.ballotBox = .ready box) {operator : Pubkey} (loaded : operator ≠ .default)
    (root : Bytes32) :
    box.shouldCastVote operator root =
      .ok (decide (choices (ballotRequests history) operator ≠ some root)) := by
  obtain ⟨consistent, map, records, stands⟩ :=
    exists_records documented distinct indexed loads ran ready
  rw [BallotBox.shouldCastVote_eq consistent records loaded root, stands]

/-! ## Once no client wants to vote -/

/-- Operators that weigh two thirds and stand for one root are a quorum for it. -/
theorem Elects.isQuorum_supporters {accounts : EpochAccounts} {electorate : Electorate}
    {requests : List BallotRequest} {honest : Finset Pubkey} {root : Bytes32}
    (elects : accounts.Elects electorate)
    (heavy : 666666666666 * electorate.totalStakeWeight ≤ 10 ^ 12 * accounts.snapshotWeight honest)
    (stand : ∀ operator ∈ honest, choices requests operator = some root) :
    electorate.IsQuorum (electorate.supporters requests root) := by
  have quorum : electorate.IsQuorum (honest.filter (· ∈ electorate.operators)) :=
    Electorate.isQuorum_iff.mpr
      (heavy.trans (Nat.mul_le_mul_left _ (elects.snapshotWeight_le honest)))
  refine Quorums.IsQuorum.supporters quorum
    (fun operator member => (Finset.mem_filter.mp member).2) ?_
  intro operator member
  exact stand operator (Finset.mem_filter.mp member).1

/-- **When the clients are done there is consensus.** As soon as the clients of operators
with two thirds of the weight have nothing more to vote, all with the same root, consensus
is reached; and unless the tie breaker made it, the winner is that root. -/
theorem satisfied_clients_have_decided (runtime : Runtime) (documented : runtime.spl.Documented)
    (ncn : Pubkey) (epoch : ℕ) {indexOf : Pubkey → ℕ} (distinct : Function.Injective indexOf)
    {history : List (Context × EpochInstruction)}
    (indexed : ∀ timed ∈ history, timed.2.Indexed indexOf)
    (loads : ∀ timed ∈ history, timed.2.LoadsOperator) {finish : EpochAccounts}
    (ran : run (process runtime) history (absent ncn epoch) = .ok finish) {box : BallotBox}
    (ready : finish.ballotBox = .ready box) {snapshot : EpochSnapshot}
    (final : finish.epochSnapshot = .ready snapshot) {honest : Finset Pubkey}
    (someone : honest.Nonempty) (loaded : ∀ operator ∈ honest, operator ≠ .default)
    (heavy : 2 * snapshot.stakeWeights.stakeWeight ≤ 3 * finish.snapshotWeight honest)
    {root : Bytes32}
    (satisfied : ∀ operator ∈ honest, box.shouldCastVote operator root = .ok false) :
    box.isConsensusReached = true ∧
      (box.tieBreakerSet = false → box.winningBallot.root = root) := by
  obtain ⟨consistent, map, records, recorded⟩ :=
    exists_records documented distinct indexed loads ran ready
  have stand : ∀ operator ∈ honest, choices (ballotRequests history) operator = some root := by
    intro operator member
    have check := BallotBox.shouldCastVote_eq consistent records (loaded operator member) root
    rw [satisfied operator member, recorded] at check
    simpa using Except.ok.inj check
  rcases exists_counts documented distinct indexed loads ran ready with
    ⟨none, -⟩ | ⟨electorate, elects, counts⟩
  · obtain ⟨operator, member⟩ := someone
    have voted := stand operator member
    rw [none] at voted
    cases voted
  rw [elects.total snapshot final] at heavy
  have quorum := elects.isQuorum_supporters (by omega) stand
  have decided : box.isConsensusReached = true := by
    by_contra undecided
    exact counts.no_quorum (eq_false_of_ne_true undecided) root quorum
  refine ⟨decided, fun byVotes => ?_⟩
  rw [BallotBox.isConsensusReached_of_noTie byVotes, bne_iff_ne] at decided
  -- the winner has a quorum of its own among the same votes
  have positive : 0 < ∑ operator ∈ electorate.operators, electorate.weight operator :=
    electorate.positive.trans_eq electorate.complete.symm
  exact Quorums.winner_unique positive (counts.won_quorum decided) quorum

end EpochAccounts

/-! ## Uploads -/

section Uploads

variable {hashv : Hashv} {treeNodes : List TreeNode} {tree : MetaMerkleTree}

/-- A tree has the accounts it was built from. -/
theorem MetaMerkleTree.returned_accounts (returned : MetaMerkleTree.new hashv treeNodes = .ok (.ok tree))
    (account : Pubkey) : account ∈ tree.treeNodes.map TreeNode.tipDistributionAccount ↔
      account ∈ treeNodes.map TreeNode.tipDistributionAccount := by
  obtain ⟨_, -, -, related⟩ := new_returned returned
  rw [map_proved _ (fun _ _ => rfl) related, List.zipIdx_map_fst,
    ((sortByHash_perm treeNodes).map _).mem_iff]

theorem MetaMerkleTree.exists_getNode {account : Pubkey}
    (known : account ∈ tree.treeNodes.map TreeNode.tipDistributionAccount) :
    ∃ node ∈ tree.treeNodes, tree.getNode account = .ok node ∧
      node.tipDistributionAccount = account := by
  obtain ⟨node, member, rfl⟩ := List.mem_map.mp known
  rw [getNode]
  cases found : tree.treeNodes.find? (·.tipDistributionAccount = node.tipDistributionAccount) with
  | none =>
    have other := List.find?_eq_none.mp found node member
    simp at other
  | some first =>
    have own := List.find?_some found
    exact ⟨first, List.mem_of_find?_eq_some found, rfl, of_decide_eq_true own⟩

/-- The batch has one upload for each account, which a ballot box with the tree's root
accepts. -/
theorem setMerkleRootsBatched_ok (returned : MetaMerkleTree.new hashv treeNodes = .ok (.ok tree))
    {accounts : List Pubkey}
    (known : ∀ account ∈ accounts, account ∈ treeNodes.map TreeNode.tipDistributionAccount) :
    ∃ uploads, setMerkleRootsBatched tree accounts = .ok uploads ∧
      uploads.map SetMerkleRoot.tipDistributionAccount = accounts ∧
      ∀ upload ∈ uploads, ∀ box : BallotBox, box.winningBallot.root = tree.merkleRoot →
        box.verifyMerkleRoot hashv upload.tipDistributionAccount upload.proof upload.merkleRoot
          upload.maxTotalClaim upload.maxNumNodes = .ok () := by
  induction accounts with
  | nil => exact ⟨[], rfl, rfl, by simp⟩
  | cons account rest ih =>
    obtain ⟨uploads, batched, covered, accepted⟩ :=
      ih fun other member => known other (List.mem_cons_of_mem _ member)
    obtain ⟨node, member, found, rfl⟩ := MetaMerkleTree.exists_getNode
      ((MetaMerkleTree.returned_accounts returned account).mpr (known account List.mem_cons_self))
    obtain ⟨proof, proved, verifies⟩ := MetaMerkleTree.returned_verifies returned member
    refine ⟨⟨node.tipDistributionAccount, proof, node.validatorMerkleRoot, node.maxTotalClaim,
      node.maxNumNodes⟩ :: uploads, ?_, ?_, ?_⟩
    · rw [setMerkleRootsBatched, found, ok_bind, batched, ok_bind, proved]
      rfl
    · rw [List.map_cons, covered]
    · intro upload listed
      rcases List.mem_cons.mp listed with rfl | listed
      · exact verifies
      · exact accepted upload listed

end Uploads

namespace EpochAccounts

theorem submitted_uploads {middle : EpochAccounts} {box : BallotBox} {tree : MetaMerkleTree}
    {accounts : List Pubkey} {operator : Pubkey} {absoluteSlot : ℕ} {config : Config}
    {submitted : Submitted} (ready : middle.ballotBox = .ready box)
    (decided : box.isConsensusReached = true)
    (submit : submitToNcn operator tree true accounts absoluteSlot config middle = .ok submitted) :
    submitted.uploads = setMerkleRootsBatched tree accounts := by
  unfold submitToNcn at submit
  rw [ready] at submit
  dsimp only at submit
  split at submit
  · cases submit
  · obtain ⟨shouldCastVote, -, same⟩ := bind_eq_ok.mp submit
    cases same
    rw [decided]
    rfl

/-- Where the root is proved, all that can stop an upload is the counter of the epoch state. -/
theorem exists_processSetMerkleRoot {runtime : Runtime} {accounts : EpochAccounts} {context : Context}
    {upload : SetMerkleRoot} {box : BallotBox} {epochState : EpochState}
    (ready : accounts.ballotBox = .ready box) (loaded : accounts.epochState = .ready epochState)
    (later : accounts.epoch ≠ 0) (decided : box.isConsensusReached = true)
    (verified : box.verifyMerkleRoot runtime.hashv upload.tipDistributionAccount upload.proof
      upload.merkleRoot upload.maxTotalClaim upload.maxNumNodes = .ok ())
    (room : epochState.uploadProgress.tally + 1 < 2 ^ 64) :
    ∃ next, accounts.process runtime (context, upload.instruction) = .ok next := by
  let counter : Progress := ⟨epochState.uploadProgress.tally + 1, epochState.uploadProgress.tally + 1⟩
  have counted : epochState.updateSetMerkleRoot =
      .ok { epochState with uploadProgress := counter } := by
    have increment : checkedAdd 64 epochState.uploadProgress.tally 1 =
        some (epochState.uploadProgress.tally + 1) := checkedAdd_eq_some_iff.mpr ⟨room, rfl⟩
    rw [EpochState.updateSetMerkleRoot, Progress.incrementOne, Progress.increment, increment]
    rfl
  refine ⟨{ accounts with epochState := .ready { epochState with uploadProgress := counter } },
    bind_eq_ok.mpr ⟨epochState, Account.load_eq_ok_iff.mpr loaded, bind_eq_ok.mpr
      ⟨box, Account.load_eq_ok_iff.mpr ready, ?_⟩⟩⟩
  rw [if_neg later, if_neg (by simp [decided])]
  exact bind_eq_ok.mpr ⟨(), lift_eq_ok_iff.mpr verified, bind_eq_ok.mpr
    ⟨_, lift_eq_ok_iff.mpr counted, rfl⟩⟩

/-- **The winner can upload everything, and later too.** An operator whose tree has the
winning root gets one instruction for each account of the tree that it is asked for, and
in whatever later state of the epoch one of them arrives, it passes the program's checks
of the consensus, the proof and the counter as long as the ballot box and the epoch state
are there. Whether the accounts handed over are the right ones (the tip distribution
program, and the vote account's tip distribution account of the epoch before) is not part
of `processSetMerkleRoot`. -/
theorem uploads_of_the_winner_land (runtime : Runtime) (documented : runtime.spl.Documented)
    (ncn : Pubkey) (merkleRootEpoch : ℕ) {indexOf : Pubkey → ℕ}
    (distinct : Function.Injective indexOf) {past rest : List (Context × EpochInstruction)}
    (indexed : ∀ timed ∈ past ++ rest, timed.2.Indexed indexOf)
    (loads : ∀ timed ∈ past ++ rest, timed.2.LoadsOperator) {middle : EpochAccounts}
    (reached : run (process runtime) past (absent ncn (merkleRootEpoch + 1)) = .ok middle)
    {box : BallotBox} (ready : middle.ballotBox = .ready box)
    (decided : box.isConsensusReached = true) {treeNodes : List TreeNode} {tree : MetaMerkleTree}
    (returned : MetaMerkleTree.new runtime.hashv treeNodes = .ok (.ok tree))
    (wins : box.winningBallot.root = tree.merkleRoot) {accounts : List Pubkey}
    (known : ∀ account ∈ accounts, account ∈ treeNodes.map TreeNode.tipDistributionAccount)
    {operator : Pubkey} {absoluteSlot : ℕ} {config : Config} {submitted : Submitted}
    (submit : submitToNcn operator tree true accounts absoluteSlot config middle = .ok submitted) :
    ∃ uploads, submitted.uploads = .ok uploads ∧
      uploads.map SetMerkleRoot.tipDistributionAccount = accounts ∧
      ∀ finish later epochState, run (process runtime) rest middle = .ok finish →
        finish.ballotBox = .ready later → finish.epochState = .ready epochState →
        epochState.uploadProgress.tally + 1 < 2 ^ 64 → ∀ context, ∀ upload ∈ uploads,
          ∃ next, finish.process runtime (context, upload.instruction) = .ok next := by
  obtain ⟨uploads, batched, covered, accepted⟩ := setMerkleRootsBatched_ok returned known
  refine ⟨uploads, (submitted_uploads ready decided submit).trans batched, covered, ?_⟩
  intro finish later epochState ran still loaded room context upload listed
  have ranAll : run (process runtime) (past ++ rest) (absent ncn (merkleRootEpoch + 1)) =
      .ok finish := by
    rw [run_append, reached, ok_bind]
    exact ran
  have after : DecidedAfter runtime ncn (merkleRootEpoch + 1) past box :=
    ⟨middle, reached, ready, decided⟩
  obtain ⟨valid, decides⟩ := after.decides documented distinct indexed loads ranAll still
  have same := (run_sameEpoch ranAll).2
  have stillDecided : later.isConsensusReached = true := by
    rw [BallotBox.isConsensusReached, decides.winner, valid, Bool.or_true]
  refine exists_processSetMerkleRoot still loaded ?_ stillDecided
    (accepted upload listed later (by rw [decides.winner, wins])) room
  rw [same]
  exact Nat.succ_ne_zero _

/-! ### Two operators -/

theorem sampleUpload_stands :
    choices (ballotRequests sampleUpload) firstOperator = some (Vector.replicate 32 7) := by
  rw [sampleUpload_requests]
  simp [choices, BallotRequest.choose]

theorem client_votes_unless_it_stands_for_firstOperator : ∃ box : BallotBox,
    box.isConsensusReached = true ∧
      box.shouldCastVote firstOperator (Vector.replicate 32 7) = .ok false ∧
      box.shouldCastVote firstOperator (Vector.replicate 32 8) = .ok true := by
  obtain ⟨finish, snapshot, box, ran, -, ready, -, -, consensus, -⟩ := sampleUpload_ran
  have check := client_votes_unless_it_stands sameHashRuntime SplMath.u256_documented .default 1
    sampleIndex_injective sampleUpload_indexed sampleUpload_loads ran ready
    (by decide : firstOperator ≠ .default)
  rw [sampleUpload_stands] at check
  exact ⟨box, consensus, (check _).trans (congrArg Except.ok (by decide)),
    (check _).trans (congrArg Except.ok (by decide))⟩

theorem satisfied_clients_have_decided_with_firstOperator : ∃ box : BallotBox,
    box.isConsensusReached = true ∧ box.winningBallot.root = Vector.replicate 32 7 := by
  obtain ⟨finish, snapshot, box, ran, final, ready, total, weight, -, byVotes⟩ := sampleUpload_ran
  have named : firstOperator ≠ .default := by decide
  obtain ⟨consistent, map, records, recorded⟩ := exists_records SplMath.u256_documented
    sampleIndex_injective sampleUpload_indexed sampleUpload_loads ran ready
  have satisfied : ∀ operator ∈ ({firstOperator} : Finset Pubkey),
      box.shouldCastVote operator (Vector.replicate 32 7) = .ok false := by
    intro operator member
    cases Finset.mem_singleton.mp member
    rw [BallotBox.shouldCastVote_eq consistent records named, recorded, sampleUpload_stands]
    exact congrArg Except.ok (by decide)
  have loaded : ∀ operator ∈ ({firstOperator} : Finset Pubkey), operator ≠ .default := by
    intro operator member
    cases Finset.mem_singleton.mp member
    exact named
  obtain ⟨consensus, winner⟩ := satisfied_clients_have_decided sameHashRuntime
    SplMath.u256_documented .default 1 sampleIndex_injective sampleUpload_indexed sampleUpload_loads ran
    ready final (Finset.singleton_nonempty _) loaded (by rw [total, weight]; norm_num) satisfied
  exact ⟨box, consensus, winner byVotes⟩

/-- The node of the first operator's tree. -/
def sampleUploadNode : TreeNode := .new ⟨Vector.replicate 32 1⟩ (Vector.replicate 32 2) 3 4

theorem exists_sampleTree : ∃ tree : MetaMerkleTree,
    MetaMerkleTree.new sameHashRuntime.hashv [sampleUploadNode] = .ok (.ok tree) ∧
      tree.merkleRoot = Vector.replicate 32 7 := by
  obtain ⟨tree, returned⟩ := MetaMerkleTree.new_ok sameHashRuntime.hashv
    (List.cons_ne_nil sampleUploadNode []) (by simp) (by simp)
  obtain ⟨merkleTree, built, isRoot, -⟩ := MetaMerkleTree.new_returned returned
  rw [MetaMerkleTree.sortByHash, List.mergeSort_singleton] at built
  have single := (MerkleTree.getRoot_eq built).symm.trans isRoot
  rw [HashTree.root, if_pos (by simp [MetaMerkleTree.hashedNodes])] at single
  exact ⟨tree, returned, (Option.some.inj single).symm⟩

/-- The votes, and then somebody else's upload. -/
def samplePast : List (Context × EpochInstruction) := epochLater sampleVoting

def sampleRest : List (Context × EpochInstruction) :=
  epochLater [(sampleContext 12, .setMerkleRoot ⟨Vector.replicate 32 1⟩ [] (Vector.replicate 32 2) 3 4)]

theorem samplePast_append : samplePast ++ sampleRest = sampleUpload := by
  rw [samplePast, sampleRest, sampleUpload, epochLater, epochLater, epochLater, List.map_append]

theorem sampleRest_ran : ∃ (middle finish : EpochAccounts) (box later : BallotBox)
    (epochState : EpochState),
    run (process sameHashRuntime) samplePast (absent .default 1) = .ok middle ∧
      run (process sameHashRuntime) sampleRest middle = .ok finish ∧
      middle.ballotBox = .ready box ∧ box.isVotingValid 432012 1000 = .ok true ∧
      finish.ballotBox = .ready later ∧ finish.epochState = .ready epochState ∧
      box.isConsensusReached = true ∧ box.winningBallot.root = Vector.replicate 32 7 ∧
      epochState.uploadProgress.tally = 1 := by
  have runs : (do
      let middle ← run (process sameHashRuntime) samplePast (absent .default 1)
      let finish ← run (process sameHashRuntime) sampleRest middle
      let box ← middle.ballotBox.load
      let valid ← box.isVotingValid 432012 1000
      let later ← finish.ballotBox.load
      let epochState ← finish.epochState.load
      return (middle, finish, box, valid, later, epochState)).toOption.any
        (fun result : EpochAccounts × EpochAccounts × BallotBox × Bool × BallotBox × EpochState =>
          result.2.2.2.1 && result.2.2.1.isConsensusReached &&
            decide (result.2.2.1.winningBallot.root = Vector.replicate 32 7) &&
            result.2.2.2.2.2.uploadProgress.tally == 1) = true := by
    decide +kernel
  obtain ⟨⟨middle, finish, box, valid, later, epochState⟩, all, outcome⟩ := exists_of_any runs
  obtain ⟨_, reached, all⟩ := bind_eq_ok.mp all
  obtain ⟨_, ran, all⟩ := bind_eq_ok.mp all
  obtain ⟨_, ready, all⟩ := bind_eq_ok.mp all
  obtain ⟨_, checked, all⟩ := bind_eq_ok.mp all
  obtain ⟨_, still, all⟩ := bind_eq_ok.mp all
  obtain ⟨_, loaded, same⟩ := bind_eq_ok.mp all
  cases same
  simp only [Bool.and_eq_true, beq_iff_eq, decide_eq_true_eq] at outcome
  obtain ⟨⟨⟨rfl, consensus⟩, wins⟩, tally⟩ := outcome
  exact ⟨middle, finish, box, later, epochState, reached, ran, Account.load_eq_ok_iff.mp ready,
    lift_eq_ok_iff.mp checked, Account.load_eq_ok_iff.mp still, Account.load_eq_ok_iff.mp loaded,
    consensus, wins, tally⟩

theorem uploads_of_the_winner_land_for_firstOperator : ∃ (tree : MetaMerkleTree)
    (finish : EpochAccounts) (upload : SetMerkleRoot),
    MetaMerkleTree.new sameHashRuntime.hashv [sampleUploadNode] = .ok (.ok tree) ∧
      setMerkleRootsBatched tree [⟨Vector.replicate 32 1⟩] = .ok [upload] ∧
      ∃ next, finish.process sameHashRuntime (sampleContext 13, upload.instruction) = .ok next := by
  obtain ⟨tree, returned, root⟩ := exists_sampleTree
  obtain ⟨middle, finish, box, later, epochState, reached, ran, ready, checked, still, loaded,
    consensus, wins, tally⟩ := sampleRest_ran
  have indexed : ∀ timed ∈ samplePast ++ sampleRest, timed.2.Indexed sampleIndex :=
    samplePast_append ▸ sampleUpload_indexed
  have loads : ∀ timed ∈ samplePast ++ sampleRest, timed.2.LoadsOperator :=
    samplePast_append ▸ sampleUpload_loads
  obtain ⟨consistent, map, records, -⟩ := exists_records SplMath.u256_documented sampleIndex_injective
    (fun timed member => indexed timed (List.mem_append_left _ member))
    (fun timed member => loads timed (List.mem_append_left _ member)) reached ready
  have named : firstOperator ≠ .default := by decide
  have ⟨submitted, submit⟩ : ∃ submitted, submitToNcn firstOperator tree true
      [⟨Vector.replicate 32 1⟩] 432012 (sampleContext 12).config middle = .ok submitted := by
    have valid : box.isVotingValid 432012 (sampleContext 12).config.validSlotsAfterConsensus =
        .ok true := checked
    rw [submitToNcn, ready]
    dsimp only
    rw [valid]
    exact ⟨_, bind_eq_ok.mpr ⟨_, BallotBox.shouldCastVote_eq consistent records named _, rfl⟩⟩
  obtain ⟨uploads, sent, covered, lands⟩ := uploads_of_the_winner_land sameHashRuntime
    SplMath.u256_documented .default 0 sampleIndex_injective indexed loads reached ready consensus
    returned (wins.trans root.symm) (by simp [sampleUploadNode, TreeNode.new]) submit
  obtain ⟨upload, rest, rfl⟩ : ∃ upload rest, uploads = upload :: rest := by
    refine List.exists_cons_of_ne_nil ?_
    rintro rfl
    cases covered
  obtain rfl : rest = [] := by
    simpa using congrArg List.length covered
  refine ⟨tree, finish, upload, returned, ?_, ?_⟩
  · exact (submitted_uploads ready consensus submit).symm.trans sent
  · exact lands finish later epochState ran still loaded (by rw [tally]; norm_num) _ upload
      List.mem_cons_self

end EpochAccounts

end TipRouter
