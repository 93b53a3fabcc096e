import TipRouter.Core
import TipRouter.HashTree
import TipRouter.Runs

/-! The Merkle tree of `meta_merkle_tree/src/merkle_tree.rs`, with `get_proof`
of `utils.rs` and `verify` of `verify.rs`: a flat vector of nodes built level
by level, a path read from it by halving an index, and a fold over sorted
pairs. A panic is a result like any other, so that its absence can be stated. -/
namespace TipRouter
open Runs

/-- The ways this code can panic. -/
inductive Panic where
  | indexOutOfBounds
  | assertionFailed
  | pathToIndex
  | expectedSomeHash
  | unwrapNone
  deriving DecidableEq, Repr

/-- `values[i]`. -/
def index {α : Type} (values : List α) (i : ℕ) : Except Panic α :=
  match values[i]? with
  | some value => .ok value
  | none => .error .indexOutOfBounds

/-- `&values[start..start + len]`. -/
def slice {α : Type} (values : List α) (start len : ℕ) : Except Panic (List α) :=
  if start + len ≤ values.length then .ok ((values.drop start).take len)
  else .error .indexOutOfBounds

/-- `hashv`: a hash of the given byte slices one after the other. -/
abbrev Hashv := List (List UInt8) → Bytes32

def leafPrefix : List UInt8 := [0]

def intermediatePrefix : List UInt8 := [1]

/-- `hash_leaf!`. -/
def hashLeaf (hashv : Hashv) (item : List UInt8) : Bytes32 := hashv [leafPrefix, item]

/-- `hash_intermediate!`. -/
def hashIntermediate (hashv : Hashv) (left right : Bytes32) : Bytes32 :=
  hashv [intermediatePrefix, left.toList, right.toList]

structure MerkleTree where
  leafCount : ℕ
  nodes : List Bytes32
  deriving DecidableEq

structure ProofEntry where
  target : Bytes32
  leftSibling : Option Bytes32
  rightSibling : Option Bytes32
  deriving DecidableEq

def ProofEntry.new (target : Bytes32) (leftSibling rightSibling : Option Bytes32) :
    Except Panic ProofEntry :=
  if leftSibling.isNone ^^ rightSibling.isNone then .ok ⟨target, leftSibling, rightSibling⟩
  else .error .assertionFailed

namespace MerkleTree

def nextLevelLen (levelLen : ℕ) : ℕ := if levelLen = 1 then 0 else (levelLen + 1) / 2

theorem nextLevelLen_lt {levelLen : ℕ} (more : levelLen ≠ 0) : nextLevelLen levelLen < levelLen := by
  unfold nextLevelLen
  split <;> omega

/-- Sibling digests go into the hash in order when `sorted_hashes` is set. -/
def hashSiblings (hashv : Hashv) (sortedHashes : Bool) (lsib rsib : Bytes32) : Bytes32 :=
  if sortedHashes then
    if lsib ≤ rsib then hashIntermediate hashv lsib rsib else hashIntermediate hashv rsib lsib
  else hashIntermediate hashv lsib rsib

/-- The `for` loop of `new`: one level from the level before it. -/
def pushLevel (hashv : Hashv) (sortedHashes : Bool) (levelLen prevLevelLen prevLevelStart : ℕ)
    (nodes : List Bytes32) : Except Panic (List Bytes32) :=
  (List.range levelLen).foldlM (fun nodes i => do
    let prevLevelIdx := 2 * i
    let lsib ← index nodes (prevLevelStart + prevLevelIdx)
    let rsib ←
      if prevLevelIdx + 1 < prevLevelLen then index nodes (prevLevelStart + prevLevelIdx + 1)
      else index nodes (prevLevelStart + prevLevelIdx)
    return nodes ++ [hashSiblings hashv sortedHashes lsib rsib]) nodes

/-- The `while` loop of `new`. -/
def pushLevels (hashv : Hashv) (sortedHashes : Bool)
    (levelLen levelStart prevLevelLen prevLevelStart : ℕ) (nodes : List Bytes32) :
    Except Panic (List Bytes32) :=
  if _ : levelLen = 0 then .ok nodes
  else do
    let nodes ← pushLevel hashv sortedHashes levelLen prevLevelLen prevLevelStart nodes
    pushLevels hashv sortedHashes (nextLevelLen levelLen) (levelStart + levelLen) levelLen
      levelStart nodes
  termination_by levelLen
  decreasing_by exact nextLevelLen_lt (by assumption)

def new (hashv : Hashv) (items : List (List UInt8)) (sortedHashes : Bool) :
    Except Panic MerkleTree := do
  let nodes := items.map (hashLeaf hashv)
  let nodes ← pushLevels hashv sortedHashes (nextLevelLen items.length) items.length items.length 0
    nodes
  return ⟨items.length, nodes⟩

def getRoot (self : MerkleTree) : Option Bytes32 := self.nodes.getLast?

/-- `path.push(ProofEntry::new(target, lsib, rsib))`, left out at the leaves. -/
def pushEntry (path : List ProofEntry) (target : Bytes32) (lsib rsib : Option Bytes32) :
    Except Panic (List ProofEntry) :=
  if lsib.isSome || rsib.isSome then do
    let entry ← ProofEntry.new target lsib rsib
    return path ++ [entry]
  else .ok path

/-- The left or the right sibling of a node in its level. -/
def siblings (level : List Bytes32) (nodeIndex : ℕ) :
    Except Panic (Option Bytes32 × Option Bytes32) :=
  if nodeIndex % 2 = 0 then do
    let rsib ←
      if nodeIndex + 1 < level.length then index level (nodeIndex + 1) else index level nodeIndex
    return (none, some rsib)
  else do
    let lsib ← index level (nodeIndex - 1)
    return (some lsib, none)

/-- The `while` loop of `find_path`. -/
def findPathLoop (nodes : List Bytes32) (levelLen levelStart nodeIndex : ℕ)
    (lsib rsib : Option Bytes32) (path : List ProofEntry) : Except Panic (List ProofEntry) :=
  if _ : levelLen = 0 then .ok path
  else do
    let level ← slice nodes levelStart levelLen
    let target ← index level nodeIndex
    let path ← pushEntry path target lsib rsib
    let (lsib, rsib) ← siblings level nodeIndex
    findPathLoop nodes (nextLevelLen levelLen) (levelStart + levelLen) (nodeIndex / 2) lsib rsib path
  termination_by levelLen
  decreasing_by exact nextLevelLen_lt (by assumption)

def findPath (self : MerkleTree) (index : ℕ) : Except Panic (Option (List ProofEntry)) :=
  if index ≥ self.leafCount then .ok none
  else do
    let path ← findPathLoop self.nodes self.leafCount 0 index none none []
    return some path

end MerkleTree

/-- The loop body of `get_proof`: the sibling of an entry. -/
def ProofEntry.sibling (self : ProofEntry) : Except Panic Bytes32 :=
  match self.leftSibling, self.rightSibling with
  | some hash, _ => .ok hash
  | none, some hash => .ok hash
  | none, none => .error .expectedSomeHash

def getProof (merkleTree : MerkleTree) (index : ℕ) : Except Panic (List Bytes32) := do
  match ← merkleTree.findPath index with
  | none => .error .pathToIndex
  | some path => path.mapM ProofEntry.sibling

/-- `verify`: fold the proof over sorted pairs and compare with the root. -/
def verify (hashv : Hashv) (proof : List Bytes32) (root leaf : Bytes32) : Bool :=
  let computedHash := proof.foldl (fun computedHash proofElement =>
    if computedHash ≤ proofElement then hashv [[1], computedHash.toList, proofElement.toList]
    else hashv [[1], proofElement.toList, computedHash.toList]) leaf
  computedHash == root

/-! ## The builder builds the levels -/

variable {hashv : Hashv} {α : Type}

theorem index_eq_ok_iff {values : List α} {i : ℕ} {value : α} :
    index values i = .ok value ↔ values[i]? = some value := by
  unfold index
  cases values[i]? <;> simp

/-- The sorted combination of two digests. -/
abbrev combineSorted (hashv : Hashv) : Bytes32 → Bytes32 → Bytes32 :=
  MerkleTree.hashSiblings hashv true

theorem combineSorted_comm (hashv : Hashv) (left right : Bytes32) :
    combineSorted hashv left right = combineSorted hashv right left := by
  unfold combineSorted MerkleTree.hashSiblings
  rw [if_pos rfl, if_pos rfl]
  by_cases forward : left ≤ right <;> by_cases backward : right ≤ left
  · rw [Vector.le_antisymm forward backward]
  · rw [if_pos forward, if_neg backward]
  · rw [if_neg forward, if_pos backward]
  · exact absurd (Vector.le_total left right) (by simp [forward, backward])

/-- Verification folds the sorted combination. -/
theorem verify_eq_true_iff {proof : List Bytes32} {root leaf : Bytes32} :
    verify hashv proof root leaf = true ↔ proof.foldl (combineSorted hashv) leaf = root := by
  rw [verify, beq_iff_eq]
  rfl

namespace MerkleTree
open HashTree

private theorem index_append {done prev rest : List Bytes32} {i : ℕ} {value : Bytes32}
    (here : prev[i]? = some value) :
    index (done ++ prev ++ rest) (done.length + i) = .ok value := by
  have inside : i < prev.length := (List.getElem?_eq_some_iff.mp here).1
  rw [index_eq_ok_iff, List.append_assoc, List.getElem?_append_right (by omega),
    Nat.add_sub_cancel_left, List.getElem?_append_left inside, here]

/-- One level is the pairs of the level before it. -/
theorem pushLevel_eq (done prev : List Bytes32) :
    pushLevel hashv true ((prev.length + 1) / 2) prev.length done.length (done ++ prev) =
      .ok (done ++ prev ++ pairUp (combineSorted hashv) prev) := by
  have partly : ∀ k ≤ (prev.length + 1) / 2,
      pushLevel hashv true k prev.length done.length (done ++ prev) =
        .ok (done ++ prev ++ (pairUp (combineSorted hashv) prev).take k) := by
    intro k
    induction k with
    | zero =>
      intro _
      simp [pushLevel, pure, Except.pure]
    | succ k ih =>
      intro within
      have before := ih (by omega)
      have left : prev[2 * k]? = some prev[2 * k] := List.getElem?_eq_getElem (by omega)
      have paired := getElem?_pairUp (combineSorted hashv) prev k
      unfold pushLevel at before ⊢
      rw [List.range_succ, List.foldlM_append, before, ok_bind, List.take_add_one, paired, left]
      simp only [List.foldlM_cons, List.foldlM_nil, index_append left, ok_bind]
      by_cases odd : 2 * k + 1 < prev.length
      · have right : prev[2 * k + 1]? = some prev[2 * k + 1] := List.getElem?_eq_getElem odd
        rw [if_pos odd, Nat.add_assoc, index_append right, ok_bind, right]
        simp [pure, Except.pure]
      · have alone : prev[2 * k + 1]? = none := List.getElem?_eq_none (by omega)
        rw [if_neg odd, alone]
        simp [pure, Except.pure]
  have all := partly _ le_rfl
  rwa [← length_pairUp (combineSorted hashv), List.take_length, length_pairUp] at all

private theorem nextLevelLen_of_lt {levelLen : ℕ} (several : 1 < levelLen) :
    nextLevelLen levelLen = (levelLen + 1) / 2 :=
  if_neg (by omega)

private theorem nextLevelLen_of_le {levelLen : ℕ} (single : levelLen ≤ 1) :
    nextLevelLen levelLen = 0 := by
  unfold nextLevelLen
  split <;> omega

/-- The `while` loop appends all remaining levels. -/
theorem pushLevels_eq (hashv : Hashv) (done prev : List Bytes32) :
    pushLevels hashv true (nextLevelLen prev.length) (done.length + prev.length) prev.length
        done.length (done ++ prev) =
      .ok (done ++ (levels (combineSorted hashv) prev).flatten) := by
  induction prev using level_induction (combineSorted hashv) generalizing done with
  | short prev single =>
    rw [nextLevelLen_of_le single, pushLevels, dif_pos rfl, levels_of_le single]
    simp
  | long prev several ih =>
    rw [nextLevelLen_of_lt several, pushLevels, dif_neg (by omega), pushLevel_eq, ok_bind,
      levels_of_lt several]
    have rest := ih (done ++ prev)
    rw [length_pairUp, List.length_append] at rest
    rw [rest, List.flatten_cons, List.append_assoc]

/-- The nodes are all levels in a row. -/
theorem new_eq (items : List (List UInt8)) :
    new hashv items true = .ok ⟨items.length,
      (levels (combineSorted hashv) (items.map (hashLeaf hashv))).flatten⟩ := by
  have built := pushLevels_eq hashv [] (items.map (hashLeaf hashv))
  rw [List.length_map, List.length_nil, Nat.zero_add, List.nil_append, List.nil_append] at built
  rw [new, built, ok_bind]
  rfl

theorem getRoot_eq {items : List (List UInt8)} {tree : MerkleTree}
    (built : new hashv items true = .ok tree) :
    tree.getRoot = root (combineSorted hashv) (items.map (hashLeaf hashv)) := by
  rw [new_eq] at built
  cases built
  exact getLast?_flatten_levels _

/-! ## The path is the path of the levels -/

/-- What the loop carries from one level to the next: nothing at the leaves,
the sibling just found above them. -/
inductive Carries : Option Bytes32 → Option Bytes32 → List Bytes32 → Prop
  | start : Carries none none []
  | left (hash : Bytes32) : Carries (some hash) none [hash]
  | right (hash : Bytes32) : Carries none (some hash) [hash]

private theorem slice_append {done level rest : List Bytes32} :
    slice (done ++ (level ++ rest)) done.length level.length = .ok level := by
  rw [slice, if_pos (by simp), List.drop_left, List.take_left]

/-- The entry pushed at a level holds the sibling carried there. -/
private theorem push_carried {lsib rsib : Option Bytes32} {carried : List Bytes32}
    (carries : Carries lsib rsib carried) (target : Bytes32) {path : List ProofEntry}
    {found : List Bytes32} (extracted : path.mapM ProofEntry.sibling = .ok found) :
    ∃ path', pushEntry path target lsib rsib = .ok path' ∧
      path'.mapM ProofEntry.sibling = .ok (found ++ carried) := by
  cases carries with
  | start => exact ⟨path, rfl, by rw [extracted, List.append_nil]⟩
  | left hash =>
    refine ⟨path ++ [⟨target, some hash, none⟩], rfl, ?_⟩
    rw [List.mapM_append, extracted]
    rfl
  | right hash =>
    refine ⟨path ++ [⟨target, none, some hash⟩], rfl, ?_⟩
    rw [List.mapM_append, extracted]
    rfl

/-- The sibling found at a level is carried to the next one. -/
private theorem carry_sibling {level : List Bytes32} {i : ℕ} {next : Bytes32}
    (beside : sibling level i = some next) (inside : i < level.length) :
    ∃ lsib rsib, siblings level i = .ok (lsib, rsib) ∧ Carries lsib rsib [next] := by
  unfold siblings
  unfold sibling at beside
  split at beside
  · rename_i even
    refine ⟨none, some next, ?_, .right next⟩
    rw [if_pos even]
    by_cases more : i + 1 < level.length
    · rw [List.getElem?_eq_getElem more, Option.some_or] at beside
      rw [if_pos more, index_eq_ok_iff.mpr ((List.getElem?_eq_getElem more).trans beside)]
      rfl
    · rw [List.getElem?_eq_none (by omega), Option.none_or] at beside
      rw [if_neg more, index_eq_ok_iff.mpr beside]
      rfl
  · rename_i odd
    refine ⟨some next, none, ?_, .left next⟩
    rw [if_neg odd, index_eq_ok_iff.mpr beside]
    rfl

/-- One round of the loop: what was carried is pushed, and the sibling at this
level is carried on. -/
private theorem findPathLoop_round (done rest : List Bytes32) {level : List Bytes32} {nodeIndex : ℕ}
    (inside : nodeIndex < level.length) {next : Bytes32}
    (beside : sibling level nodeIndex = some next) {lsib rsib : Option Bytes32}
    {carried : List Bytes32} (carries : Carries lsib rsib carried) {entries : List ProofEntry}
    {found : List Bytes32} (extracted : entries.mapM ProofEntry.sibling = .ok found) :
    ∃ entries' lsib' rsib', Carries lsib' rsib' [next] ∧
      entries'.mapM ProofEntry.sibling = .ok (found ++ carried) ∧
      findPathLoop (done ++ (level ++ rest)) level.length done.length nodeIndex lsib rsib entries =
        findPathLoop (done ++ (level ++ rest)) (nextLevelLen level.length)
          (done.length + level.length) (nodeIndex / 2) lsib' rsib' entries' := by
  obtain ⟨entries', pushed, extracted'⟩ := push_carried carries level[nodeIndex] extracted
  obtain ⟨lsib', rsib', found', carries'⟩ := carry_sibling beside inside
  have target : index level nodeIndex = .ok level[nodeIndex] :=
    index_eq_ok_iff.mpr (List.getElem?_eq_getElem inside)
  refine ⟨entries', lsib', rsib', carries', extracted', ?_⟩
  rw [findPathLoop, dif_neg (by omega), slice_append, ok_bind, target, ok_bind, pushed, ok_bind,
    found', ok_bind]

/-- From any level on, the loop finds the rest of the path. -/
theorem findPathLoop_eq (done level : List Bytes32) {nodeIndex : ℕ}
    (inside : nodeIndex < level.length) {rest : List Bytes32}
    (isPath : path (combineSorted hashv) level nodeIndex = some rest)
    {lsib rsib : Option Bytes32} {carried : List Bytes32} (carries : Carries lsib rsib carried)
    {entries : List ProofEntry} {found : List Bytes32}
    (extracted : entries.mapM ProofEntry.sibling = .ok found) :
    ∃ entries', findPathLoop (done ++ (levels (combineSorted hashv) level).flatten) level.length
        done.length nodeIndex lsib rsib entries = .ok entries' ∧
      entries'.mapM ProofEntry.sibling = .ok (found ++ carried ++ rest) := by
  obtain ⟨next, beside, -⟩ := pairUp_sibling (combineSorted_comm hashv)
    (List.getElem?_eq_getElem inside)
  induction level using level_induction (combineSorted hashv)
    generalizing done nodeIndex rest lsib rsib carried entries found next with
  | short level single =>
    rw [path_of_le single, List.getElem?_eq_getElem inside, Option.map_some] at isPath
    cases isPath
    obtain ⟨entries', lsib', rsib', -, extracted', round⟩ :=
      findPathLoop_round done [] inside beside carries extracted
    refine ⟨entries', ?_, by rw [extracted', List.append_nil]⟩
    rw [levels_of_le single, List.flatten_cons, List.flatten_nil, round,
      nextLevelLen_of_le single, findPathLoop, dif_pos rfl]
  | long level several ih =>
    rw [path_of_lt several, beside, Option.bind_some] at isPath
    obtain ⟨above, isPath', rfl⟩ := Option.map_eq_some_iff.mp isPath
    have inside' : nodeIndex / 2 < (pairUp (combineSorted hashv) level).length := by
      rw [length_pairUp]
      omega
    obtain ⟨next', beside', -⟩ := pairUp_sibling (combineSorted_comm hashv)
      (List.getElem?_eq_getElem inside')
    obtain ⟨entries', lsib', rsib', carries', extracted', round⟩ :=
      findPathLoop_round done (levels (combineSorted hashv)
        (pairUp (combineSorted hashv) level)).flatten inside beside carries extracted
    obtain ⟨entries'', remaining, extracted''⟩ :=
      ih (done ++ level) inside' isPath' carries' extracted' next' beside'
    refine ⟨entries'', ?_, by rw [extracted'', List.append_assoc (found ++ carried)]; rfl⟩
    rw [levels_of_lt several, List.flatten_cons, round, nextLevelLen_of_lt several]
    rw [length_pairUp, List.length_append, List.append_assoc] at remaining
    exact remaining

end MerkleTree

/-! ## Generated proofs -/

/-- Every item has a proof, and it folds to the root. -/
theorem getProof_eq {items : List (List UInt8)} {tree : MerkleTree}
    (built : MerkleTree.new hashv items true = .ok tree) {i : ℕ} {item : List UInt8}
    (here : items[i]? = some item) :
    ∃ proof root, getProof tree i = .ok proof ∧ tree.getRoot = some root ∧
      verify hashv proof root (hashLeaf hashv item) = true := by
  have leafHere : (items.map (hashLeaf hashv))[i]? = some (hashLeaf hashv item) := by
    rw [List.getElem?_map, here, Option.map_some]
  have inside : i < items.length := (List.getElem?_eq_some_iff.mp here).1
  obtain ⟨proof, isPath, rebuilt⟩ := HashTree.exists_path (combineSorted_comm hashv) leafHere
  have noEntries : ([] : List ProofEntry).mapM ProofEntry.sibling = .ok [] := rfl
  obtain ⟨entries, walked, extracted⟩ := MerkleTree.findPathLoop_eq [] _
    (by rw [List.length_map]; exact inside) isPath .start noEntries
  refine ⟨proof, _, ?_, (MerkleTree.getRoot_eq built).trans rebuilt, ?_⟩
  · rw [MerkleTree.new_eq] at built
    cases built
    rw [List.length_map, List.length_nil, List.nil_append] at walked
    rw [getProof, MerkleTree.findPath, if_neg (by exact Nat.not_le.mpr inside), walked]
    exact extracted
  · rw [verify_eq_true_iff]

end TipRouter
