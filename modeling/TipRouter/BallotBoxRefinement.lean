import TipRouter.BallotBox

/-! The ballot box represents one map, from each operator to its last vote.
The votes, the tallies and the two counters are redundant views of that map,
and every mutator keeps them in step: the new tally is raised before the old
one is lowered, so the argument follows the box through the state in between. -/
namespace TipRouter
open Runs

/-! ## Calls and the map they build -/

/-- One call of a mutator of the box. -/
inductive BallotCall where
  | castVote (operator : Pubkey) (ballot : Ballot) (stakeWeights : StakeWeights)
      (currentSlot validSlotsAfterConsensus : ℕ)
  | tallyVotes (totalStakeWeight currentSlot : ℕ)
  | setTieBreakerBallot (metaMerkleRoot : Bytes32) (currentEpoch epochsBeforeStall : ℕ)

/-- The program loads the operator account before it votes for it, so the
key is never the empty one. -/
def BallotCall.Loaded : BallotCall → Prop
  | .castVote operator _ _ _ _ => operator ≠ .default
  | _ => True

def BallotBox.apply (spl : SplMath) (self : BallotBox) :
    BallotCall → Except TipRouterError BallotBox
  | .castVote operator ballot stakeWeights currentSlot validSlotsAfterConsensus =>
    self.castVote operator ballot stakeWeights currentSlot validSlotsAfterConsensus
  | .tallyVotes totalStakeWeight currentSlot => self.tallyVotes spl totalStakeWeight currentSlot
  | .setTieBreakerBallot metaMerkleRoot currentEpoch epochsBeforeStall =>
    self.setTieBreakerBallot metaMerkleRoot currentEpoch epochsBeforeStall

/-- A vote as its operator cast it. -/
structure LastVote where
  root : Bytes32
  stakeWeights : StakeWeights
  slot : ℕ
  deriving DecidableEq

/-- The map the box stands for. -/
abbrev LastVotes := Pubkey → Option LastVote

/-- A vote replaces whatever its operator voted before; no other call matters. -/
def LastVotes.record (votes : LastVotes) : BallotCall → LastVotes
  | .castVote operator ballot stakeWeights currentSlot _ =>
    Function.update votes operator (some ⟨ballot.root, stakeWeights, currentSlot⟩)
  | _ => votes

def lastVotes (calls : List BallotCall) : LastVotes := calls.foldl .record fun _ => none

/-! ## The tables and what they must agree on -/

section Tables
variable (votes : Vector OperatorVote maxOperators) (tallies : Vector BallotTally maxOperators)

/-- A vote's contribution to the tally at `index`. -/
def pointing (measure : OperatorVote → ℕ) (index : ℕ) (vote : OperatorVote) : ℕ :=
  if vote.ballotIndex = index then measure vote else 0

/-- The number of votes for the tally at `index`. -/
def voteCount (index : ℕ) : ℕ := Slots.total (pointing (fun _ => 1) index) votes

/-- The weight of the votes for the tally at `index`. -/
def voteWeight (index : ℕ) (component : StakeWeights.Component) : ℕ :=
  Slots.total (pointing (fun vote => vote.stakeWeights.get component) index) votes

/-- The number of valid tallies. -/
def validTallies : ℕ :=
  Slots.total (fun tally : BallotTally => if tally.isValid then 1 else 0) tallies

/-- The votes fill a prefix, one entry for each operator. -/
structure VoteTable (operatorsVoted : ℕ) : Prop where
  bounded : operatorsVoted ≤ maxOperators
  filled : ∀ i : Fin maxOperators, votes[i].isEmpty = false ↔ i.val < operatorsVoted
  blank : ∀ i : Fin maxOperators, votes[i].isEmpty = true → votes[i] = .default
  distinct : ∀ i j : Fin maxOperators, votes[i].isEmpty = false → votes[j].isEmpty = false →
    votes[i].operator = votes[j].operator → i = j
  known : ∀ i : Fin maxOperators, votes[i].isEmpty = false → votes[i].ballotIndex < maxOperators

/-- The tallies hold the given counts and weights, one tally for each root. -/
structure TallyTable (uniqueBallots : ℕ) (count : Fin maxOperators → ℕ)
    (weight : Fin maxOperators → StakeWeights.Component → ℕ) : Prop where
  counted : ∀ i : Fin maxOperators, tallies[i].tally = count i
  weighed : ∀ (i : Fin maxOperators) component,
    tallies[i].stakeWeights.get component = weight i component
  populated : ∀ i : Fin maxOperators, tallies[i].isValid = true → 1 ≤ tallies[i].tally
  indexed : ∀ i : Fin maxOperators, tallies[i].isValid = true → tallies[i].index = i
  wiped : ∀ i : Fin maxOperators, tallies[i].isValid = false → tallies[i] = .default
  distinct : ∀ i j : Fin maxOperators, tallies[i].isValid = true → tallies[j].isValid = true →
    tallies[i].ballot.root = tallies[j].ballot.root → i = j
  unique : uniqueBallots = validTallies tallies

/-- The votes are the entries of the map, each counted in a tally of its root. -/
def Records (map : LastVotes) : Prop :=
  ∀ operator vote, map operator = some vote ↔
    ∃ (i : Fin maxOperators) (tallyIndex : Fin maxOperators), votes[i].isEmpty = false ∧
      votes[i].operator = operator ∧ votes[i].stakeWeights = vote.stakeWeights ∧
      votes[i].slotVoted = vote.slot ∧ votes[i].ballotIndex = tallyIndex ∧
      tallies[tallyIndex].isValid = true ∧ tallies[tallyIndex].ballot.root = vote.root

end Tables

/-- The tallies are exactly what the votes add up to. -/
structure BallotBox.Consistent (box : BallotBox) : Prop where
  votes : VoteTable box.operatorVotes box.operatorsVoted
  tallies : TallyTable box.ballotTallies box.uniqueBallots
    (fun i => voteCount box.operatorVotes i) (fun i => voteWeight box.operatorVotes i)

variable {votes : Vector OperatorVote maxOperators} {tallies : Vector BallotTally maxOperators}
variable {box next : BallotBox} {spl : SplMath}

@[simp] theorem BallotTally.default_isValid : BallotTally.default.isValid = false := rfl

@[simp] theorem OperatorVote.default_isEmpty : OperatorVote.default.isEmpty = true := rfl

theorem not_empty_of_known {vote : OperatorVote} (known : vote.ballotIndex < maxOperators) :
    vote.isEmpty = false := by
  have small : vote.ballotIndex < 256 := known
  simp only [OperatorVote.isEmpty, u16Max, beq_eq_false_iff_ne]
  omega

/-- An empty vote points at no tally. -/
theorem ballotIndex_ne_of_empty {vote : OperatorVote} (empty : vote.isEmpty = true)
    (index : Fin maxOperators) : vote.ballotIndex ≠ index := by
  intro known
  have filled := not_empty_of_known (known ▸ index.isLt)
  cases empty.symm.trans filled

theorem pointing_empty {measure : OperatorVote → ℕ} {vote : OperatorVote}
    (empty : vote.isEmpty = true) (index : Fin maxOperators) : pointing measure index vote = 0 :=
  if_neg (ballotIndex_ne_of_empty empty index)

/-- A tally nobody votes for has no weight. -/
private theorem voteWeight_eq_zero {index : ℕ} (nobody : voteCount votes index = 0)
    (component : StakeWeights.Component) : voteWeight votes index component = 0 := by
  refine Slots.total_eq_zero_iff.mpr fun i => ?_
  have absent := Slots.total_eq_zero_iff.mp nobody i
  unfold pointing at absent ⊢
  split at absent <;> simp_all

/-- A tally holding a vote is valid. -/
theorem TallyTable.valid_of_count {uniqueBallots : ℕ} {count : Fin maxOperators → ℕ}
    {weight : Fin maxOperators → StakeWeights.Component → ℕ}
    (table : TallyTable tallies uniqueBallots count weight) {i : Fin maxOperators}
    (positive : 0 < count i) : tallies[i].isValid = true := by
  by_contra invalid
  have wiped := table.wiped i (by simpa using invalid)
  have counted := table.counted i
  rw [wiped] at counted
  simp only [BallotTally.default] at counted
  omega

theorem voteCount_set (votes : Vector OperatorVote maxOperators) (entry : Fin maxOperators)
    (vote : OperatorVote) (index : ℕ) :
    voteCount (votes.put entry vote) index + (if votes[entry].ballotIndex = index then 1 else 0) =
      voteCount votes index + (if vote.ballotIndex = index then 1 else 0) :=
  Slots.total_put entry vote

theorem voteWeight_set (votes : Vector OperatorVote maxOperators) (entry : Fin maxOperators)
    (vote : OperatorVote) (index : ℕ) (component : StakeWeights.Component) :
    voteWeight (votes.put entry vote) index component +
        (if votes[entry].ballotIndex = index then votes[entry].stakeWeights.get component else 0) =
      voteWeight votes index component +
        (if vote.ballotIndex = index then vote.stakeWeights.get component else 0) :=
  Slots.total_put entry vote

/-- A tally somebody points at is counted. -/
theorem voteCount_pos (entry : Fin maxOperators) {index : Fin maxOperators}
    (points : votes[entry].ballotIndex = index) : 0 < voteCount votes index := by
  refine Slots.total_pos_iff.mpr ⟨entry, ?_⟩
  rw [pointing, if_pos points]
  exact Nat.one_pos

/-! ## What a vote does to the tallies -/

section Tallies
variable {uniqueBallots uniqueBallots' : ℕ} {count count' : Fin maxOperators → ℕ}
variable {weight weight' : Fin maxOperators → StakeWeights.Component → ℕ}

private theorem validTallies_set (tallies : Vector BallotTally maxOperators)
    (index : Fin maxOperators) (tally : BallotTally) :
    validTallies (tallies.put index tally) + (if tallies[index].isValid then 1 else 0) =
      validTallies tallies + (if tally.isValid then 1 else 0) :=
  Slots.total_put index tally

/-- Rewriting one tally keeps the table, as long as the new entry is well
formed and takes no root another tally holds. -/
private theorem TallyTable.set (table : TallyTable tallies uniqueBallots count weight)
    {index : Fin maxOperators} {tally : BallotTally}
    (populated : tally.isValid = true → 1 ≤ tally.tally ∧ tally.index = index)
    (wiped : tally.isValid = false → tally = .default)
    (fresh : tally.isValid = true → ∀ i ≠ index, tallies[i].isValid = true →
      tallies[i].ballot.root ≠ tally.ballot.root)
    (counted : tally.tally = count' index ∧ ∀ i ≠ index, count i = count' i)
    (weighed : ∀ component, tally.stakeWeights.get component = weight' index component ∧
      ∀ i ≠ index, weight i component = weight' i component)
    (unique : uniqueBallots' + (if tallies[index].isValid then 1 else 0) =
      uniqueBallots + (if tally.isValid then 1 else 0)) :
    TallyTable (tallies.put index tally) uniqueBallots' count' weight' := by
  constructor
  case counted =>
    exact Slots.forall_put
      (P := fun (i : Fin maxOperators) (entry : BallotTally) => entry.tally = count' i) counted.1
      fun i other => (table.counted i).trans (counted.2 i other)
  case weighed =>
    exact Slots.forall_put
      (P := fun (i : Fin maxOperators) (entry : BallotTally) => ∀ c, entry.stakeWeights.get c = weight' i c)
      (fun component => (weighed component).1)
      fun i other component => (table.weighed i component).trans ((weighed component).2 i other)
  case populated =>
    exact Slots.forall_put
      (P := fun _ (entry : BallotTally) => entry.isValid = true → 1 ≤ entry.tally)
      (fun valid => (populated valid).1) fun i _ => table.populated i
  case indexed =>
    exact Slots.forall_put
      (P := fun (i : Fin maxOperators) (entry : BallotTally) => entry.isValid = true → entry.index = i)
      (fun valid => (populated valid).2) fun i _ => table.indexed i
  case wiped =>
    exact Slots.forall_put
      (P := fun _ (entry : BallotTally) => entry.isValid = false → entry = .default)
      wiped fun i _ => table.wiped i
  case distinct =>
    exact Slots.distinct_put (fun tally : BallotTally => tally.isValid = true)
      (fun tally => tally.ballot.root) table.distinct fresh
  case unique =>
    have rewritten := validTallies_set tallies index tally
    have before := table.unique
    omega

theorem BallotTally.incrementTally_eq_ok {tally tally' : BallotTally} {stakeWeights : StakeWeights}
    (raised : tally.incrementTally stakeWeights = .ok tally') :
    tally'.ballot = tally.ballot ∧ tally'.index = tally.index ∧ tally'.tally = tally.tally + 1 ∧
      ∀ component, tally'.stakeWeights.get component =
        tally.stakeWeights.get component + stakeWeights.get component := by
  simp only [BallotTally.incrementTally, bind_eq_ok, okOr_eq_ok_iff, checkedAdd_eq_some_iff,
    pure_eq_ok_iff] at raised
  obtain ⟨weights, added, count, ⟨-, rfl⟩, rfl⟩ := raised
  exact ⟨rfl, rfl, rfl, fun component => (StakeWeights.increment_get added component).1⟩

theorem BallotTally.decrementTally_eq_ok {tally tally' : BallotTally} {stakeWeights : StakeWeights}
    (lowered : tally.decrementTally stakeWeights = .ok tally') :
    tally'.ballot = tally.ballot ∧ tally'.index = tally.index ∧ tally'.tally + 1 = tally.tally ∧
      ∀ component, tally'.stakeWeights.get component + stakeWeights.get component =
        tally.stakeWeights.get component := by
  simp only [BallotTally.decrementTally, bind_eq_ok, okOr_eq_ok_iff, checkedSub_eq_some_iff,
    pure_eq_ok_iff] at lowered
  obtain ⟨weights, removed, count, ⟨positive, rfl⟩, rfl⟩ := lowered
  exact ⟨rfl, rfl, Nat.sub_add_cancel positive, StakeWeights.decrement_get removed⟩

/-- Adding to one place leaves the others as they are. -/
private theorem eq_elsewhere {before after : Fin maxOperators → ℕ} {index : Fin maxOperators}
    {amount : ℕ} (added : ∀ i, after i = before i + if (index : ℕ) = i then amount else 0) :
    ∀ i ≠ index, before i = after i := by
  intro i other
  rw [added i, if_neg (Fin.val_ne_of_ne other.symm), Nat.add_zero]

/-- Counting a ballot raises one tally, which then holds its root. -/
theorem TallyTable.raise
    (table : TallyTable box.ballotTallies box.uniqueBallots count weight) {ballot : Ballot}
    {stakeWeights : StakeWeights} {index : Fin maxOperators} (valid : ballot.isValid = true)
    (counted : box.incrementOrCreateBallotTally ballot stakeWeights = .ok (index, next))
    (raised : ∀ i, count' i = count i + if (index : ℕ) = i then 1 else 0)
    (weighed : ∀ i component,
      weight' i component = weight i component + if (index : ℕ) = i then stakeWeights.get component else 0) :
    TallyTable next.ballotTallies next.uniqueBallots count' weight' ∧
      next.ballotTallies[index].ballot.isValid = true ∧
      next.ballotTallies[index].ballot.root = ballot.root ∧
      (∀ i : Fin maxOperators, box.ballotTallies[i].isValid = true →
        next.ballotTallies[i].ballot = box.ballotTallies[i].ballot) ∧
      next = { box with
        ballotTallies := next.ballotTallies
        uniqueBallots := next.uniqueBallots } := by
  have countHere := raised index
  have weighHere := weighed index
  rw [if_pos rfl] at countHere
  simp only [if_pos] at weighHere
  have countElsewhere := eq_elsewhere raised
  have weighElsewhere : ∀ i ≠ index, ∀ component, weight i component = weight' i component :=
    fun i other component => eq_elsewhere (fun i => weighed i component) i other
  have was := table.counted index
  have weighedWas := table.weighed index
  rcases BallotBox.incrementOrCreateBallotTally_cases counted with
    ⟨tally, equal, increment, rfl⟩ | ⟨fresh, unused, rfl⟩
  · obtain ⟨sameBallot, sameIndex, more, heavier⟩ := BallotTally.incrementTally_eq_ok increment
    obtain ⟨validHere, -, sameRoot⟩ := Ballot.eq_iff.mp equal
    have stillValid : tally.isValid = true := by rw [BallotTally.isValid, sameBallot, validHere]
    refine ⟨table.set ?_ ?_ ?_ ⟨by omega, countElsewhere⟩ ?_ ?_, ?_, ?_, ?_, rfl⟩
    · exact fun _ => ⟨by omega, sameIndex.trans (table.indexed index validHere)⟩
    · exact fun invalid => by rw [stillValid] at invalid; cases invalid
    · intro _ i other validI takes
      rw [sameBallot] at takes
      exact other (table.distinct i index validI validHere takes)
    · exact fun component => ⟨by rw [heavier, weighedWas, weighHere],
        fun i other => weighElsewhere i other component⟩
    · rw [stillValid, show box.ballotTallies[index].isValid = true from validHere]
    · rw [Slots.getElem_put_self, sameBallot, validHere]
    · rw [Slots.getElem_put_self, sameBallot]
      exact sameRoot
    · exact Slots.forall_put
        (P := fun (i : Fin maxOperators) (entry : BallotTally) => box.ballotTallies[i].isValid = true →
          entry.ballot = box.ballotTallies[i].ballot) (fun _ => sameBallot) fun _ _ _ => rfl
  · have blank := table.wiped index unused
    rw [blank] at was weighedWas
    refine ⟨table.set ?_ ?_ ?_ ⟨?_, countElsewhere⟩ ?_ ?_, ?_, ?_, ?_, rfl⟩
    · exact fun _ => ⟨le_rfl, rfl⟩
    · exact fun invalid => absurd (valid.symm.trans invalid) (by simp)
    · intro _ i _ validI takes
      have equal := Ballot.eq_iff.mpr ⟨validI, valid, takes⟩
      rw [fresh i] at equal
      cases equal
    · rw [countHere, ← was]
      rfl
    · refine fun component => ⟨?_, fun i other => weighElsewhere i other component⟩
      rw [weighHere, ← weighedWas component]
      simp [BallotTally.new, BallotTally.default]
    · rw [unused, show (BallotTally.new index ballot stakeWeights).isValid = true from valid]
      simp
    · rw [Slots.getElem_put_self]
      exact valid
    · rw [Slots.getElem_put_self]
      rfl
    · refine Slots.forall_put
        (P := fun (i : Fin maxOperators) (entry : BallotTally) => box.ballotTallies[i].isValid = true →
          entry.ballot = box.ballotTallies[i].ballot) (fun validHere => ?_) fun _ _ _ => rfl
      rw [unused] at validHere
      cases validHere

/-- Taking a vote off lowers one tally, and wipes it when that empties it. -/
private theorem TallyTable.lower
    (table : TallyTable box.ballotTallies box.uniqueBallots count weight) {vote : OperatorVote}
    (known : vote.ballotIndex < maxOperators)
    (removed : box.removePreviousVote vote box.uniqueBallots = .ok next)
    (lowered : ∀ i, count i = count' i + if vote.ballotIndex = i then 1 else 0)
    (weighed : ∀ i component, weight i component =
      weight' i component + if vote.ballotIndex = i then vote.stakeWeights.get component else 0)
    (idle : ∀ i, count' i = 0 → ∀ component, weight' i component = 0) :
    TallyTable next.ballotTallies next.uniqueBallots count' weight' ∧
      (∀ i : Fin maxOperators, 0 < count' i →
        next.ballotTallies[i].ballot = box.ballotTallies[i].ballot) ∧
      next = { box with
        ballotTallies := next.ballotTallies
        uniqueBallots := next.uniqueBallots } := by
  rcases BallotBox.removePreviousVote_cases removed with
    ⟨unknown, -⟩ | ⟨index, points, prevTally, decrement, outcome⟩
  · exact absurd known (Nat.not_lt.mpr unknown)
  · rw [points] at lowered weighed
    have countHere := lowered index
    have weighHere := weighed index
    rw [if_pos rfl] at countHere
    simp only [if_pos] at weighHere
    have countElsewhere : ∀ i ≠ index, count i = count' i :=
      fun i other => (eq_elsewhere lowered i other).symm
    have weighElsewhere : ∀ i ≠ index, ∀ component, weight i component = weight' i component :=
      fun i other component => (eq_elsewhere (fun i => weighed i component) i other).symm
    have was := table.counted index
    have weighedWas := table.weighed index
    have validHere := table.valid_of_count (i := index) (by omega)
    obtain ⟨sameBallot, sameIndex, fewer, lighter⟩ := BallotTally.decrementTally_eq_ok decrement
    rcases outcome with ⟨emptied, positive, rfl⟩ | ⟨kept, rfl⟩
    · have nobody : count' index = 0 := by omega
      refine ⟨table.set ?_ ?_ ?_ ⟨nobody.symm, countElsewhere⟩ ?_ ?_, ?_, rfl⟩
      · exact fun valid => by cases valid
      · exact fun _ => rfl
      · exact fun valid => by cases valid
      · refine fun component => ⟨?_, fun i other => weighElsewhere i other component⟩
        rw [idle index nobody]
        exact StakeWeights.default_get component
      · rw [validHere]
        simp only [BallotTally.default_isValid, if_true, Bool.false_eq_true, if_false]
        omega
      · refine Slots.forall_put (P := fun (i : Fin maxOperators) (entry : BallotTally) => 0 < count' i →
          entry.ballot = box.ballotTallies[i].ballot) (fun some => ?_) fun _ _ _ => rfl
        omega
    · have stillValid : prevTally.isValid = true := by
        rw [BallotTally.isValid, sameBallot]
        exact validHere
      refine ⟨table.set ?_ ?_ ?_ ⟨by omega, countElsewhere⟩ ?_ ?_, ?_, rfl⟩
      · exact fun _ => ⟨by omega, sameIndex.trans (table.indexed index validHere)⟩
      · exact fun invalid => by rw [stillValid] at invalid; cases invalid
      · intro _ i other validI takes
        rw [sameBallot] at takes
        exact other (table.distinct i index validI validHere takes)
      · refine fun component => ⟨?_, fun i other => weighElsewhere i other component⟩
        have sum := lighter component
        rw [weighedWas, weighHere] at sum
        omega
      · rw [stillValid, validHere]
      · exact Slots.forall_put (P := fun (i : Fin maxOperators) (entry : BallotTally) => 0 < count' i →
          entry.ballot = box.ballotTallies[i].ballot) (fun _ => sameBallot) fun _ _ _ => rfl

end Tallies

/-! ## What a vote does to the box -/

/-- A successful vote: where it was written, where it was counted, and what it
left alone. -/
structure VoteCast (box next : BallotBox) (operator : Pubkey) (root : Bytes32)
    (stakeWeights : StakeWeights) (currentSlot : ℕ) (voteIndex tallyIndex : Fin maxOperators) :
    Prop where
  written : next.operatorVotes =
    box.operatorVotes.put voteIndex ⟨operator, currentSlot, stakeWeights, tallyIndex⟩
  entry :
    (box.operatorVotes[voteIndex].isEmpty = false ∧ box.operatorVotes[voteIndex].operator = operator ∧
      box.isConsensusReached = false ∧ next.operatorsVoted = box.operatorsVoted) ∨
    (box.operatorVotes[voteIndex].isEmpty = true ∧
      (∀ i : Fin maxOperators, box.operatorVotes[i].operator ≠ operator) ∧
      voteIndex.val = box.operatorsVoted ∧ next.operatorsVoted = box.operatorsVoted + 1)
  target : next.ballotTallies[tallyIndex].isValid = true ∧
    next.ballotTallies[tallyIndex].ballot.root = root
  kept : ∀ i : Fin maxOperators, box.ballotTallies[i].isValid = true →
    0 < voteCount next.operatorVotes i → next.ballotTallies[i].ballot = box.ballotTallies[i].ballot
  tallies : TallyTable next.ballotTallies next.uniqueBallots
    (fun i => voteCount next.operatorVotes i) (fun i => voteWeight next.operatorVotes i)
  winner : next.winningBallot = box.winningBallot
  slot : next.slotConsensusReached = box.slotConsensusReached

theorem VoteTable.operator_ne_default {operatorsVoted : ℕ}
    (table : VoteTable votes operatorsVoted)
    {entry : Fin maxOperators} {operator : Pubkey} (loaded : operator ≠ .default)
    (own : votes[entry].operator = operator) : votes[entry].isEmpty = false := by
  by_contra empty
  rw [table.blank entry (by simpa using empty)] at own
  exact loaded own.symm

/-- The first empty entry ends the prefix the votes fill. -/
private theorem VoteTable.first_empty {operatorsVoted : ℕ} (table : VoteTable votes operatorsVoted)
    {entry : Fin maxOperators} (earlier : ∀ j < entry, votes[j].isEmpty = false)
    (empty : votes[entry].isEmpty = true) : entry.val = operatorsVoted := by
  have after : ¬ entry.val < operatorsVoted := fun before => by
    have filled := (table.filled entry).mpr before
    rw [empty] at filled
    cases filled
  by_contra gap
  have small := entry.isLt
  have within : operatorsVoted < maxOperators := by omega
  have filled := earlier ⟨operatorsVoted, within⟩ (Fin.mk_lt_of_lt_val (by omega))
  exact absurd ((table.filled _).mp filled) (lt_irrefl _)

/-- Whoever is not met before the first empty entry has not voted. -/
private theorem VoteTable.not_voted {operatorsVoted : ℕ} (table : VoteTable votes operatorsVoted)
    {entry : Fin maxOperators} {operator : Pubkey} (loaded : operator ≠ .default)
    (earlier : ∀ j < entry, votes[j].operator ≠ operator ∧ votes[j].isEmpty = false)
    (empty : votes[entry].isEmpty = true) (i : Fin maxOperators) : votes[i].operator ≠ operator := by
  intro own
  have position := table.first_empty (fun j before => (earlier j before).2) empty
  have before := (table.filled i).mp (table.operator_ne_default loaded own)
  exact (earlier i (Fin.lt_def.mpr (by omega))).1 own

variable {operator : Pubkey} {ballot : Ballot} {stakeWeights : StakeWeights}
variable {currentSlot validSlotsAfterConsensus : ℕ}

/-- Every successful vote on a consistent box is such a vote: the entry in
between, counted twice, never shows. -/
theorem castVote_spec (consistent : box.Consistent) (loaded : operator ≠ .default)
    (cast : box.castVote operator ballot stakeWeights currentSlot validSlotsAfterConsensus = .ok next) :
    ∃ voteIndex tallyIndex, VoteCast box next operator ballot.root stakeWeights currentSlot
      voteIndex tallyIndex := by
  obtain ⟨-, valid, tallyIndex, counted, increment, recorded⟩ := BallotBox.castVote_eq_ok_iff.mp cast
  obtain ⟨raised, valid', root, kept, frame⟩ := consistent.tallies.raise valid increment
    (fun _ => rfl) fun _ _ => rfl
  obtain ⟨voteIndex, earlier, outcome⟩ := BallotBox.recordVote_cases recorded
  have sameVotes : counted.operatorVotes = box.operatorVotes := by rw [frame]
  have sameVoted : counted.operatorsVoted = box.operatorsVoted := by rw [frame]
  have sameWinner : counted.winningBallot = box.winningBallot := by rw [frame]
  have sameSlot : counted.slotConsensusReached = box.slotConsensusReached := by rw [frame]
  have sameReached : counted.isConsensusReached = box.isConsensusReached := by rw [frame]; rfl
  rw [sameVotes] at earlier outcome
  obtain ⟨votes', written⟩ : ∃ votes', votes' =
    box.operatorVotes.put voteIndex ⟨operator, currentSlot, stakeWeights, tallyIndex⟩ := ⟨_, rfl⟩
  have counts : ∀ i : Fin maxOperators,
      voteCount votes' i + (if box.operatorVotes[voteIndex].ballotIndex = i then 1 else 0) =
        voteCount box.operatorVotes i + if (tallyIndex : ℕ) = i then 1 else 0 := fun i => by
    rw [written, voteCount_set]
  have weights : ∀ (i : Fin maxOperators) component,
      voteWeight votes' i component + (if box.operatorVotes[voteIndex].ballotIndex = i
          then box.operatorVotes[voteIndex].stakeWeights.get component else 0) =
        voteWeight box.operatorVotes i component +
          if (tallyIndex : ℕ) = i then stakeWeights.get component else 0 := fun i component => by
    rw [written, voteWeight_set]
  rw [← written] at outcome
  refine ⟨voteIndex, tallyIndex, ?_⟩
  rcases outcome with ⟨own, undecided, removed, removal, same⟩ | ⟨other, empty, same⟩
  · have filled := consistent.votes.operator_ne_default loaded own
    have known := consistent.votes.known voteIndex filled
    rw [sameReached] at undecided
    obtain ⟨lowered, kept', frame'⟩ := raised.lower known removal (fun i => (counts i).symm)
      (fun i component => (weights i component).symm) fun i nobody => voteWeight_eq_zero nobody
    have nextVotes : next.operatorVotes = votes' := by rw [same, frame', written, sameVotes]
    have nextTallies : next.ballotTallies = removed.ballotTallies := by rw [same]
    have nextUnique : next.uniqueBallots = removed.uniqueBallots := by rw [same]
    have pointed : 0 < voteCount votes' tallyIndex := by
      rw [written]
      exact voteCount_pos voteIndex (by rw [Slots.getElem_put_self])
    simp only [← nextVotes, ← nextTallies] at pointed kept'
    rw [← nextVotes, ← nextTallies, ← nextUnique] at lowered
    exact {
      written := nextVotes.trans written
      entry := .inl ⟨filled, own, undecided, by rw [same, frame', sameVoted]⟩
      target := by
        rw [BallotTally.isValid, kept' tallyIndex pointed]
        exact ⟨valid', root⟩
      kept := fun i validI positive => (kept' i positive).trans (kept i validI)
      tallies := lowered
      winner := by rw [same, frame', sameWinner]
      slot := by rw [same, frame', sameSlot] }
  · have absent := ballotIndex_ne_of_empty empty
    have position := consistent.votes.first_empty (fun j before => (earlier j before).2) empty
    have absentOperator := consistent.votes.not_voted loaded earlier empty
    have nextVotes : next.operatorVotes = votes' := by rw [same]
    have nextTallies : next.ballotTallies = counted.ballotTallies := by rw [same]
    have nextUnique : next.uniqueBallots = counted.uniqueBallots := by rw [same]
    simp only [if_neg (absent _), Nat.add_zero] at counts weights
    simp only [← counts, ← weights] at raised
    rw [← nextVotes, ← nextTallies, ← nextUnique] at raised
    simp only [← nextTallies] at valid' root kept
    exact {
      written := nextVotes.trans written
      entry := .inr ⟨empty, absentOperator, position, by rw [same, sameVoted]⟩
      target := ⟨valid', root⟩
      kept := fun i validI _ => kept i validI
      tallies := raised
      winner := by rw [same, sameWinner]
      slot := by rw [same, sameSlot] }

/-- Writing a vote keeps the votes a prefix with one entry for each operator. -/
private theorem VoteTable.set {operatorsVoted operatorsVoted' : ℕ}
    (table : VoteTable votes operatorsVoted) {entry : Fin maxOperators} {vote : OperatorVote}
    (known : vote.ballotIndex < maxOperators)
    (single : ∀ i ≠ entry, votes[i].isEmpty = false → votes[i].operator ≠ vote.operator)
    (bounded : operatorsVoted' ≤ maxOperators) (here : entry.val < operatorsVoted')
    (elsewhere : ∀ i ≠ entry, i.val < operatorsVoted ↔ i.val < operatorsVoted') :
    VoteTable (votes.put entry vote) operatorsVoted' := by
  have present := not_empty_of_known known
  constructor
  case bounded => exact bounded
  case filled =>
    exact Slots.forall_put
      (P := fun i (entry : OperatorVote) => entry.isEmpty = false ↔ i.val < operatorsVoted')
      ⟨fun _ => here, fun _ => present⟩ fun i other => (table.filled i).trans (elsewhere i other)
  case blank =>
    exact Slots.forall_put
      (P := fun _ (entry : OperatorVote) => entry.isEmpty = true → entry = .default)
      (fun empty => absurd (present.symm.trans empty) (by simp)) fun i _ => table.blank i
  case distinct =>
    exact Slots.distinct_put (fun vote : OperatorVote => vote.isEmpty = false)
      OperatorVote.operator table.distinct fun _ => single
  case known =>
    exact Slots.forall_put
      (P := fun _ (entry : OperatorVote) => entry.isEmpty = false → entry.ballotIndex < maxOperators)
      (fun _ => known) fun i _ => table.known i

variable {root : Bytes32} {voteIndex tallyIndex : Fin maxOperators}

/-- A vote keeps the box consistent. -/
theorem VoteCast.consistent (cast : VoteCast box next operator root stakeWeights currentSlot
    voteIndex tallyIndex) (before : box.Consistent) : next.Consistent := by
  refine ⟨?_, cast.tallies⟩
  have known : (OperatorVote.mk operator currentSlot stakeWeights tallyIndex).ballotIndex <
    maxOperators := tallyIndex.isLt
  rw [cast.written]
  have bounded := before.votes.bounded
  rcases cast.entry with ⟨filled, own, -, same⟩ | ⟨-, absent, position, more⟩
  · rw [same]
    refine before.votes.set known (fun i other filledI takes => other ?_) bounded
      ((before.votes.filled voteIndex).mp filled) fun _ _ => Iff.rfl
    exact before.votes.distinct i voteIndex filledI filled (takes.trans own.symm)
  · rw [more]
    have small := voteIndex.isLt
    refine before.votes.set known (fun i _ _ => absent i) (by omega) (by omega) fun i other => ?_
    have apart := Fin.val_ne_of_ne other
    omega

/-- A vote updates the map at its operator and nowhere else. -/
theorem VoteCast.records (cast : VoteCast box next operator root stakeWeights currentSlot
    voteIndex tallyIndex) (before : box.Consistent) {map : LastVotes}
    (records : Records box.operatorVotes box.ballotTallies map) :
    Records next.operatorVotes next.ballotTallies
      (Function.update map operator (some ⟨root, stakeWeights, currentSlot⟩)) := by
  have after := cast.consistent before
  have here : next.operatorVotes[voteIndex] = ⟨operator, currentSlot, stakeWeights, tallyIndex⟩ := by
    rw [cast.written, Slots.getElem_put_self]
  have elsewhere : ∀ i : Fin maxOperators, i ≠ voteIndex →
      next.operatorVotes[i] = box.operatorVotes[i] := fun i other => by
    rw [cast.written, Slots.getElem_put_ne _ _ (Ne.symm other)]
  have filledHere : next.operatorVotes[voteIndex].isEmpty = false := by
    rw [here]
    exact not_empty_of_known tallyIndex.isLt
  have notHere : ∀ i : Fin maxOperators, box.operatorVotes[i].isEmpty = false →
      box.operatorVotes[i].operator ≠ operator → i ≠ voteIndex := by
    rintro i filled other rfl
    rcases cast.entry with ⟨-, own, -⟩ | ⟨empty, -⟩
    · exact other own
    · rw [empty] at filled
      cases filled
  intro other vote
  by_cases same : other = operator
  · rw [same, Function.update_self]
    constructor
    · rintro ⟨⟩
      exact ⟨voteIndex, tallyIndex, filledHere, by rw [here], by rw [here], by rw [here],
        by rw [here], cast.target⟩
    · rintro ⟨i, index, filled, own, weights, slot, points, valid, holds⟩
      obtain rfl : i = voteIndex :=
        after.votes.distinct i voteIndex filled filledHere (by rw [own, here])
      rw [here] at weights slot points
      obtain rfl : tallyIndex = index := Fin.ext points
      obtain ⟨voteRoot, voteWeights, voteSlot⟩ := vote
      rw [cast.target.2] at holds
      simp only at weights slot holds
      rw [weights, slot, holds]
  · rw [Function.update_of_ne same, records other vote]
    constructor
    · rintro ⟨i, index, filled, own, weights, slot, points, valid, holds⟩
      have apart := notHere i filled (own.trans_ne same)
      have stays := cast.kept index valid
        (voteCount_pos i (by rw [elsewhere i apart, points]))
      refine ⟨i, index, ?_, ?_, ?_, ?_, ?_, ?_, ?_⟩
      all_goals first
        | rw [elsewhere i apart]; assumption
        | rw [BallotTally.isValid, stays]; assumption
        | rw [stays]; assumption
    · rintro ⟨i, index, filled, own, weights, slot, points, valid, holds⟩
      have apart : i ≠ voteIndex := by
        rintro rfl
        rw [here] at own
        exact same own.symm
      rw [elsewhere i apart] at filled own weights slot points
      have validBefore := before.tallies.valid_of_count (voteCount_pos i points)
      have stays := cast.kept index validBefore
        (voteCount_pos i (by rw [elsewhere i apart, points]))
      refine ⟨i, index, filled, own, weights, slot, points, validBefore, ?_⟩
      rw [← stays, holds]

/-! ## Whole histories -/

/-- The box stands for the map, and every redundant view of it agrees. -/
structure BallotBox.Refines (box : BallotBox) (map : LastVotes) : Prop where
  consistent : box.Consistent
  records : Records box.operatorVotes box.ballotTallies map

theorem BallotBox.new_refines (ncn : Pubkey) (epoch bump currentSlot : ℕ) :
    (BallotBox.new ncn epoch bump currentSlot).Refines fun _ => none := by
  have noVotes : ∀ i : Fin maxOperators,
      (BallotBox.new ncn epoch bump currentSlot).operatorVotes[i] = .default :=
    fun i => Vector.getElem_replicate _
  have noTallies : ∀ i : Fin maxOperators,
      (BallotBox.new ncn epoch bump currentSlot).ballotTallies[i] = .default :=
    fun i => Vector.getElem_replicate _
  have uncounted : ∀ index : Fin maxOperators,
      voteCount (BallotBox.new ncn epoch bump currentSlot).operatorVotes index = 0 := by
    refine fun index => Slots.total_eq_zero_iff.mpr fun i => ?_
    rw [noVotes]
    exact pointing_empty rfl index
  refine ⟨⟨?votes, ?tallies⟩, ?records⟩
  case votes =>
    constructor
    case bounded => exact Nat.zero_le _
    case filled => exact fun i => by rw [noVotes]; simp [BallotBox.new]
    case blank => exact fun i _ => noVotes i
    case distinct => exact fun i _ filled => by rw [noVotes] at filled; cases filled
    case known => exact fun i filled => by rw [noVotes] at filled; cases filled
  case tallies =>
    constructor
    case counted => exact fun i => by rw [noTallies, uncounted]; rfl
    case weighed =>
      intro i component
      rw [noTallies, voteWeight_eq_zero (uncounted i)]
      exact StakeWeights.default_get component
    case populated => exact fun i valid => by rw [noTallies] at valid; cases valid
    case indexed => exact fun i valid => by rw [noTallies] at valid; cases valid
    case wiped => exact fun i _ => noTallies i
    case distinct => exact fun i _ valid => by rw [noTallies] at valid; cases valid
    case unique =>
      symm
      refine Slots.total_eq_zero_iff.mpr fun i => ?_
      rw [noTallies]
      rfl
  case records =>
    intro operator vote
    constructor
    · intro recorded
      cases recorded
    · rintro ⟨i, -, filled, -⟩
      rw [noVotes] at filled
      cases filled

/-- One successful call updates the map and keeps every view in step. -/
theorem BallotBox.apply_refines {call : BallotCall} {map : LastVotes} (refines : box.Refines map)
    (loaded : call.Loaded) (applied : box.apply spl call = .ok next) :
    next.Refines (map.record call) := by
  cases call with
  | castVote operator ballot stakeWeights currentSlot validSlotsAfterConsensus =>
    obtain ⟨voteIndex, tallyIndex, cast⟩ := castVote_spec refines.consistent loaded applied
    exact ⟨cast.consistent refines.consistent, cast.records refines.consistent refines.records⟩
  | tallyVotes totalStakeWeight currentSlot =>
    rcases BallotBox.tallyVotes_cases applied with rfl | ⟨-, -, heaviest, -, -, rfl⟩
    · exact refines
    · exact ⟨⟨refines.consistent.votes, refines.consistent.tallies⟩, refines.records⟩
  | setTieBreakerBallot metaMerkleRoot currentEpoch epochsBeforeStall =>
    obtain ⟨-, -, rfl⟩ := BallotBox.setTieBreakerBallot_cases applied
    exact ⟨⟨refines.consistent.votes, refines.consistent.tallies⟩, refines.records⟩

variable {calls : List BallotCall} {ncn : Pubkey} {epoch bump slotCreated : ℕ}

theorem BallotBox.run_refines (loaded : ∀ call ∈ calls, call.Loaded)
    (ran : run (BallotBox.apply spl) calls (.new ncn epoch bump slotCreated) = .ok box) :
    box.Refines (lastVotes calls) := by
  refine run_split_induction
    (motive := fun past (box : BallotBox) => box.Refines (lastVotes past))
    (BallotBox.new_refines ncn epoch bump slotCreated) ?_ ran
  intro past middle call rest next split _ refines applied
  rw [lastVotes, List.foldl_append]
  exact apply_refines refines (loaded call (by simp [split])) applied

/-- An entry is its operator's last vote, and it points at the tally of the root voted for. -/
theorem BallotBox.Refines.entry {map : LastVotes} (refines : box.Refines map)
    {i : Fin maxOperators} (filled : box.operatorVotes[i].isEmpty = false) :
    ∃ tallyIndex : Fin maxOperators, box.operatorVotes[i].ballotIndex = tallyIndex ∧
      box.ballotTallies[tallyIndex].isValid = true ∧
      map box.operatorVotes[i].operator = some ⟨box.ballotTallies[tallyIndex].ballot.root,
        box.operatorVotes[i].stakeWeights, box.operatorVotes[i].slotVoted⟩ := by
  obtain ⟨⟨votes, tallies⟩, records⟩ := refines
  have known := votes.known i filled
  have valid : box.ballotTallies[(⟨_, known⟩ : Fin maxOperators)].isValid = true :=
    tallies.valid_of_count (voteCount_pos i rfl)
  refine ⟨⟨_, known⟩, rfl, valid, (records _ _).mpr ?_⟩
  exact ⟨i, ⟨_, known⟩, filled, rfl, rfl, rfl, rfl, valid, rfl⟩

/-- Whatever the calls, the votes are the last votes of the operators, packed
into a prefix, each pointing at the tally of its root, and the tallies are exactly
what these votes add up to. -/
theorem ballot_box_refines_last_votes (loaded : ∀ call ∈ calls, call.Loaded)
    (ran : run (BallotBox.apply spl) calls (.new ncn epoch bump slotCreated) = .ok box) :
    (box.operatorsVoted ≤ maxOperators ∧
      (∀ i : Fin maxOperators,
        box.operatorVotes[i].isEmpty = false ↔ i.val < box.operatorsVoted) ∧
      (∀ i j : Fin maxOperators, box.operatorVotes[i].isEmpty = false →
        box.operatorVotes[j].isEmpty = false →
        box.operatorVotes[i].operator = box.operatorVotes[j].operator → i = j) ∧
      (∀ i : Fin maxOperators, box.operatorVotes[i].isEmpty = false →
        ∃ tallyIndex : Fin maxOperators, box.operatorVotes[i].ballotIndex = tallyIndex ∧
          box.ballotTallies[tallyIndex].isValid = true ∧
          lastVotes calls box.operatorVotes[i].operator =
            some ⟨box.ballotTallies[tallyIndex].ballot.root, box.operatorVotes[i].stakeWeights,
              box.operatorVotes[i].slotVoted⟩) ∧
      Records box.operatorVotes box.ballotTallies (lastVotes calls)) ∧
    ((∀ i : Fin maxOperators, box.ballotTallies[i].isValid = true →
        box.ballotTallies[i].index = i ∧ 1 ≤ box.ballotTallies[i].tally ∧
        box.ballotTallies[i].tally = voteCount box.operatorVotes i ∧
        ∀ component, box.ballotTallies[i].stakeWeights.get component =
          voteWeight box.operatorVotes i component) ∧
      (∀ i j : Fin maxOperators, box.ballotTallies[i].isValid = true →
        box.ballotTallies[j].isValid = true →
        box.ballotTallies[i].ballot.root = box.ballotTallies[j].ballot.root → i = j) ∧
      (∀ i : Fin maxOperators, box.ballotTallies[i].isValid = false →
        box.ballotTallies[i] = .default) ∧
      box.uniqueBallots = validTallies box.ballotTallies) := by
  have refines := BallotBox.run_refines loaded ran
  have votes := refines.consistent.votes
  have tallies := refines.consistent.tallies
  refine ⟨⟨votes.bounded, votes.filled, votes.distinct, fun i => refines.entry,
    refines.records⟩, fun i valid => ?_, tallies.distinct, tallies.wiped, tallies.unique⟩
  exact ⟨tallies.indexed i valid, tallies.populated i valid, tallies.counted i, tallies.weighed i⟩

/-- An operator leaves a tally it was alone in, and the freed tally is reused. -/
theorem ballot_box_refines_last_votes_after_switch :
    ∃ box : BallotBox, box.uniqueBallots = validTallies box.ballotTallies ∧
      Records box.operatorVotes box.ballotTallies (lastVotes
        [.castVote ⟨Vector.replicate 32 1⟩ (.new (Vector.replicate 32 7)) (.new 60) 5 10,
          .castVote ⟨Vector.replicate 32 1⟩ (.new (Vector.replicate 32 8)) (.new 60) 6 10,
          .castVote ⟨Vector.replicate 32 2⟩ (.new (Vector.replicate 32 9)) (.new 40) 7 10]) := by
  obtain ⟨box, ran, -⟩ := exists_of_any
    (show (run (BallotBox.apply .u256)
      [.castVote ⟨Vector.replicate 32 1⟩ (.new (Vector.replicate 32 7)) (.new 60) 5 10,
        .castVote ⟨Vector.replicate 32 1⟩ (.new (Vector.replicate 32 8)) (.new 60) 6 10,
        .castVote ⟨Vector.replicate 32 2⟩ (.new (Vector.replicate 32 9)) (.new 40) 7 10]
      (.new .default 3 255 4)).toOption.any (fun box => box.uniqueBallots == 2) = true by
        decide +kernel)
  have refined := ballot_box_refines_last_votes (by
    intro call member
    simp only [List.mem_cons, List.not_mem_nil, or_false] at member
    rcases member with rfl | rfl | rfl <;> simp only [BallotCall.Loaded] <;> decide) ran
  exact ⟨box, refined.2.2.2.2, refined.1.2.2.2.2⟩

end TipRouter
