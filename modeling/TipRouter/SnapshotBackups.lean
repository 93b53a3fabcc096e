import Mathlib.Data.Finset.Sort
import Mathlib.Data.List.Sort
import Mathlib.Data.String.Basic
import TipRouter.Config
import TipRouter.Retention

/-! The backups of incremental snapshots, `backup_snapshots.rs` of the operator's
client. Every ten seconds the monitor copies the best snapshot of the last epoch and of
this one out of the validator's directory, which changes all the time, and drops the
oldest copies of the same epoch. -/
namespace TipRouter
open Runs Retention

/-! ## File names -/

def maximumBackupIncrementalSnapshotsPerEpoch : ℕ := 3

/-- `str::parse::<u64>`: a plus sign may stand before the digits. -/
def parseU64 (text : List Char) : Option ℕ :=
  let digits : List Char := match text with
    | '+' :: digits => digits
    | digits => digits
  let value := digits.foldl (fun value digit => 10 * value + (digit.toNat - '0'.toNat)) 0
  if digits ≠ [] ∧ digits.all Char.isDigit ∧ value < 2 ^ 64 then some value else none

/-- The path is the name of the file in its directory. -/
structure SnapshotInfo where
  path : String
  startSlot : ℕ
  endSlot : ℕ
  deriving DecidableEq

namespace SnapshotInfo

/-- `incremental-snapshot-<start>-<end>-<hash>.tar.zst`, of which only the beginning is
looked at. -/
def fromPath (path : String) : Option SnapshotInfo :=
  if "incremental-snapshot-".toList.isPrefixOf path.toList then
    match path.toList.splitOn '-' with
    | _ :: _ :: startSlot :: endSlot :: _ :: _ => do
      let startSlot ← parseU64 startSlot
      let endSlot ← parseU64 endSlot
      return ⟨path, startSlot, endSlot⟩
    | _ => none
  else none

def epoch (snap : SnapshotInfo) : ℕ := snap.endSlot / defaultSlotsPerEpoch

theorem path_of_fromPath {path : String} {snap : SnapshotInfo} (parsed : fromPath path = some snap) :
    snap.path = path := by
  unfold fromPath at parsed
  split at parsed
  · split at parsed
    · obtain ⟨_, -, parsed⟩ := Option.bind_eq_some_iff.mp parsed
      obtain ⟨_, -, same⟩ := Option.bind_eq_some_iff.mp parsed
      cases same
      rfl
    · cases parsed
  · cases parsed

example : (fromPath "incremental-snapshot-100-150-hash1.tar.zst").any
    (fun snap => snap.startSlot == 100 && snap.endSlot == 150) = true := by decide +kernel

end SnapshotInfo

/-! ## The monitor -/

/-- `read_dir` lists the files of a directory in an order of its own. -/
structure FileSystem where
  readDir : Finset String → List String
  nodup : ∀ files, (readDir files).Nodup
  mem_readDir : ∀ files path, path ∈ readDir files ↔ path ∈ files

/-- `get_epoch_info`. -/
structure EpochInfo where
  absoluteSlot : ℕ
  slotIndex : ℕ
  epoch : ℕ

/-- `get_previous_epoch_last_slot`. -/
def getPreviousEpochLastSlot (epochInfo : EpochInfo) : ℕ × ℕ :=
  if epochInfo.absoluteSlot < epochInfo.slotIndex then (0, 0)
  else (epochInfo.epoch - 1, epochInfo.absoluteSlot - epochInfo.slotIndex - 1)

/-- An arithmetic overflow panics, and the task is gone. -/
inductive MonitorPanic where
  | overflow

def orOverflow {α : Type} : Option α → Except MonitorPanic α
  | none => .error .overflow
  | some result => .ok result

theorem orOverflow_eq_ok_iff {α : Type} {value : Option α} {result : α} :
    orOverflow value = .ok result ↔ value = some result := by
  cases value <;> simp [orOverflow]

/-- `get_target_slots`. -/
def getTargetSlots (overrideTargetSlot : Option ℕ) (epochInfo : EpochInfo) :
    Except MonitorPanic (ℕ × ℕ) := do
  let lastEpochTargetSlot := (getPreviousEpochLastSlot epochInfo).2
  let nextEpochTargetSlot ← orOverflow (checkedAdd 64 lastEpochTargetSlot defaultSlotsPerEpoch)
  return (lastEpochTargetSlot, overrideTargetSlot.getD nextEpochTargetSlot)

/-- What comes of `std::fs::copy` and of comparing the two sizes after it: the source may have
changed by then, or be gone, and the copy itself may break off with or without a file left. -/
inductive Copy where
  | copied
  | mismatched
  | unverified
  | brokenOff (leavesFile : Bool)
  deriving DecidableEq

/-- The file is all of its source. -/
def Copy.isWhole : Copy → Bool
  | copied => true
  | unverified => true
  | _ => false

/-- The files of the backup directory, and what came of the copy that left each of them. -/
structure BackupDir where
  files : Finset String
  copyOf : String → Copy

namespace BackupDir

variable (self : BackupDir) (path : String) (copy : Copy)

def write : BackupDir := ⟨insert path self.files, Function.update self.copyOf path copy⟩

theorem write_copyOf_self : (self.write path copy).copyOf path = copy := Function.update_self ..

theorem write_copyOf_of_ne {other : String} (different : other ≠ path) :
    (self.write path copy).copyOf other = self.copyOf other := Function.update_of_ne different ..

theorem mem_write_of_ne {other : String} (different : other ≠ path) :
    other ∈ (self.write path copy).files ↔ other ∈ self.files := by
  rw [write, Finset.mem_insert, or_iff_right different]

end BackupDir

/-- What the monitor meets while it backs up for one epoch: the validator's directory, how
copying goes and which files it can remove. -/
structure Look where
  snapshots : Finset String
  copies : String → Copy
  removes : String → Bool

/-- The copy leaves a file, whether it goes through or not. -/
def Look.leaves (look : Look) (path : String) : Bool :=
  match look.copies path with
  | .copied => true
  | .mismatched => !look.removes path
  | .unverified => true
  | .brokenOff leavesFile => leavesFile

/-- What one round of the monitor meets: the cluster's clock, which files of an old epoch it
can remove, and one look for each of the two epochs. -/
structure Tick where
  epochInfo : EpochInfo
  removes : String → Bool
  lastEpoch : Look
  thisEpoch : Look

def Tick.looks (tick : Tick) : List Look := [tick.lastEpoch, tick.thisEpoch]

theorem Tick.forall_mem_looks {tick : Tick} {holds : Look → Prop} :
    (∀ look ∈ tick.looks, holds look) ↔ holds tick.lastEpoch ∧ holds tick.thisEpoch := by
  simp [looks]

/-- The local variables of `run`, with the backup directory. -/
structure BackupSnapshotMonitor where
  backupDir : BackupDir
  currentTargetSlot : Option ℕ
  lastEpochBackupPath : Option String
  thisEpochBackupPath : Option String

namespace BackupSnapshotMonitor

variable (fileSystem : FileSystem)

/-- The snapshots among the files of a directory. -/
def snapshots (files : Finset String) : List SnapshotInfo :=
  (fileSystem.readDir files).filterMap SnapshotInfo.fromPath

def findClosestIncremental (snapshotsDir : Finset String) (targetSlot : ℕ) : Option String :=
  let candidates := (snapshots fileSystem snapshotsDir).filter fun snap =>
    snap.endSlot ≤ targetSlot ∧ snap.endSlot / defaultSlotsPerEpoch = targetSlot / defaultSlotsPerEpoch
  (maxByKey SnapshotInfo.endSlot candidates).map SnapshotInfo.path

/-- Whether it went through, and the directory it leaves. Only a copy of another size than
its source is removed again. -/
def backupIncrementalSnapshot (look : Look) (backupDir : BackupDir) (snapshotPath : String) :
    Bool × BackupDir :=
  if snapshotPath ∈ backupDir.files then (true, backupDir)
  else match look.copies snapshotPath with
    | .brokenOff leavesFile =>
      (false, if leavesFile then backupDir.write snapshotPath (.brokenOff true) else backupDir)
    | .unverified => (false, backupDir.write snapshotPath .unverified)
    | .mismatched =>
      (false, if look.removes snapshotPath then backupDir
        else backupDir.write snapshotPath .mismatched)
    | .copied => (true, backupDir.write snapshotPath .copied)

/-- Stops at the first file that cannot be removed. -/
def removeAll (removes : String → Bool) : List SnapshotInfo → Finset String → Finset String
  | [], backupDir => backupDir
  | snapshot :: rest, backupDir =>
    if removes snapshot.path then removeAll removes rest (backupDir.erase snapshot.path)
    else backupDir

def evictAllEpochSnapshots (removes : String → Bool) (backupDir : Finset String) (epoch : ℕ) :
    Finset String :=
  removeAll removes ((snapshots fileSystem backupDir).filter (·.epoch = epoch)) backupDir

/-- The loop of `evict_same_epoch_incremental`. -/
def evictOldest (removes : String → Bool) : List SnapshotInfo → Finset String → Finset String
  | [], backupDir => backupDir
  | oldestSnapshot :: rest, backupDir =>
    if maximumBackupIncrementalSnapshotsPerEpoch < rest.length + 1 then
      if removes oldestSnapshot.path then
        evictOldest removes rest (backupDir.erase oldestSnapshot.path)
      else backupDir
    else backupDir

/-- `same_epoch_snapshots`, the oldest first; `sort_by_key` is stable. -/
def sameEpochSnapshots (backupDir : Finset String) (targetEpoch : ℕ) : List SnapshotInfo :=
  ((snapshots fileSystem backupDir).filter (·.epoch = targetEpoch)).insertionSort
    (·.endSlot ≤ ·.endSlot)

def evictSameEpochIncremental (removes : String → Bool) (backupDir : Finset String)
    (targetSlot : ℕ) : Finset String :=
  evictOldest removes (sameEpochSnapshots fileSystem backupDir (targetSlot / defaultSlotsPerEpoch))
    backupDir

def backupLatestForTargetSlot (look : Look) (backupDir : BackupDir)
    (currentBackupPath : Option String) (targetSlot : ℕ) : Option String × BackupDir :=
  match findClosestIncremental fileSystem look.snapshots targetSlot with
  | none => (currentBackupPath, backupDir)
  | some snapshot =>
    if currentBackupPath = some snapshot then (currentBackupPath, backupDir)
    else match backupIncrementalSnapshot look backupDir snapshot with
      | (false, backupDir) => (currentBackupPath, backupDir)
      | (true, backupDir) => (some snapshot, { backupDir with
          files := evictSameEpochIncremental fileSystem look.removes backupDir.files targetSlot })

/-- What `run` does when it sees another target slot than before. -/
def rollOver (removes : String → Bool) (thisEpochTargetSlot : ℕ) (self : BackupSnapshotMonitor) :
    Except MonitorPanic BackupSnapshotMonitor :=
  if self.currentTargetSlot = some thisEpochTargetSlot then .ok self
  else do
    let purged ← orOverflow (checkedSub (thisEpochTargetSlot / defaultSlotsPerEpoch) 2)
    return { self with
      lastEpochBackupPath := self.thisEpochBackupPath
      thisEpochBackupPath := none
      backupDir := { self.backupDir with
        files := evictAllEpochSnapshots fileSystem removes self.backupDir.files purged } }

/-- One round of the loop of `run`. -/
def tick (overrideTargetSlot : Option ℕ) (self : BackupSnapshotMonitor) (tick : Tick) :
    Except MonitorPanic BackupSnapshotMonitor := do
  let (lastEpochTargetSlot, thisEpochTargetSlot) ← getTargetSlots overrideTargetSlot tick.epochInfo
  let self ← self.rollOver fileSystem tick.removes thisEpochTargetSlot
  let (lastEpochBackupPath, backupDir) := backupLatestForTargetSlot fileSystem tick.lastEpoch
    self.backupDir self.lastEpochBackupPath lastEpochTargetSlot
  let (thisEpochBackupPath, backupDir) := backupLatestForTargetSlot fileSystem tick.thisEpoch
    backupDir self.thisEpochBackupPath thisEpochTargetSlot
  return ⟨backupDir, some thisEpochTargetSlot, lastEpochBackupPath, thisEpochBackupPath⟩

def start (backupDir : BackupDir) : BackupSnapshotMonitor := ⟨backupDir, none, none, none⟩

end BackupSnapshotMonitor

/-- `unreachable` is a round in which the cluster does not tell its epoch: `run` gives up,
and the client starts it again. -/
inductive MonitorEvent where
  | tick (tick : Tick)
  | unreachable

def BackupSnapshotMonitor.process (fileSystem : FileSystem) (overrideTargetSlot : Option ℕ)
    (self : BackupSnapshotMonitor) : MonitorEvent → Except MonitorPanic BackupSnapshotMonitor
  | .tick tick => self.tick fileSystem overrideTargetSlot tick
  | .unreachable => .ok (start self.backupDir)

namespace BackupSnapshotMonitor

variable {fileSystem : FileSystem} {backupDir : Finset String} {removes : String → Bool}
  {snap : SnapshotInfo} {path : String} {epoch slot targetSlot : ℕ}

/-! ## Listing and evicting -/

theorem mem_snapshots {files : Finset String} :
    snap ∈ snapshots fileSystem files ↔ ∃ path ∈ files, SnapshotInfo.fromPath path = some snap := by
  simp only [snapshots, List.mem_filterMap, fileSystem.mem_readDir]

theorem path_mem_of_snapshots {files : Finset String} (listed : snap ∈ snapshots fileSystem files) :
    snap.path ∈ files := by
  obtain ⟨path, member, parsed⟩ := mem_snapshots.mp listed
  rw [SnapshotInfo.path_of_fromPath parsed]
  exact member

theorem fromPath_of_snapshots {files : Finset String} (listed : snap ∈ snapshots fileSystem files) :
    SnapshotInfo.fromPath snap.path = some snap := by
  obtain ⟨path, -, parsed⟩ := mem_snapshots.mp listed
  rw [SnapshotInfo.path_of_fromPath parsed, parsed]

theorem paths_sublist (paths : List String) :
    ((paths.filterMap SnapshotInfo.fromPath).map SnapshotInfo.path).Sublist paths := by
  induction paths with
  | nil => exact .slnil
  | cons path rest ih =>
    cases parsed : SnapshotInfo.fromPath path with
    | none =>
      rw [List.filterMap_cons_none parsed]
      exact ih.cons path
    | some snap =>
      rw [List.filterMap_cons_some parsed, List.map_cons, SnapshotInfo.path_of_fromPath parsed]
      exact ih.cons_cons path

/-- No two of the listed snapshots are the same file. -/
theorem snapshots_nodup (files : Finset String) :
    ((snapshots fileSystem files).map SnapshotInfo.path).Nodup :=
  (fileSystem.nodup files).sublist (paths_sublist _)

/-- Some first part of a list of snapshots is removed. -/
structure Evicts (evicted : List SnapshotInfo) (backupDir after : Finset String)
    (removed kept : List SnapshotInfo) : Prop where
  split : evicted = removed ++ kept
  mem_iff : ∀ path, path ∈ after ↔ path ∈ backupDir ∧ path ∉ removed.map SnapshotInfo.path

theorem Evicts.nothing {evicted : List SnapshotInfo} :
    Evicts evicted backupDir backupDir [] evicted :=
  ⟨rfl, by simp⟩

theorem Evicts.cons {rest removed kept : List SnapshotInfo} {after : Finset String}
    (evicts : Evicts rest (backupDir.erase snap.path) after removed kept) :
    Evicts (snap :: rest) backupDir after (snap :: removed) kept := by
  refine ⟨by rw [evicts.split, List.cons_append], fun path => ?_⟩
  rw [evicts.mem_iff, Finset.mem_erase, List.map_cons, List.mem_cons]
  tauto

theorem exists_evicts_removeAll (removes : String → Bool) (evicted : List SnapshotInfo)
    (backupDir : Finset String) :
    ∃ removed kept, Evicts evicted backupDir (removeAll removes evicted backupDir) removed kept := by
  induction evicted generalizing backupDir with
  | nil => exact ⟨[], [], .nothing⟩
  | cons snap rest ih =>
    rw [removeAll]
    split
    · obtain ⟨removed, kept, evicts⟩ := ih (backupDir.erase snap.path)
      exact ⟨_, kept, evicts.cons⟩
    · exact ⟨[], _, .nothing⟩

/-- The loop stops with three snapshots left, or before where a file stays. -/
theorem exists_evicts_evictOldest (removes : String → Bool) (evicted : List SnapshotInfo)
    (backupDir : Finset String) :
    ∃ removed kept, Evicts evicted backupDir (evictOldest removes evicted backupDir) removed kept ∧
      (removed = [] ∨ maximumBackupIncrementalSnapshotsPerEpoch ≤ kept.length) ∧
      ((∀ path, removes path = true) →
        kept.length ≤ maximumBackupIncrementalSnapshotsPerEpoch) := by
  induction evicted generalizing backupDir with
  | nil => exact ⟨[], [], .nothing, .inl rfl, fun _ => Nat.zero_le _⟩
  | cons snap rest ih =>
    rw [evictOldest]
    split
    · rename_i many
      split
      · obtain ⟨removed, kept, evicts, enough, few⟩ := ih (backupDir.erase snap.path)
        refine ⟨_, kept, evicts.cons, .inr ?_, few⟩
        rcases enough with rfl | enough
        · have whole : rest = kept := evicts.split
          rw [← whole]
          omega
        · exact enough
      · rename_i stays
        exact ⟨[], _, .nothing, .inl rfl, fun removable => absurd (removable _) stays⟩
    · rename_i few
      exact ⟨[], _, .nothing, .inl rfl, fun _ => not_lt.mp few⟩

/-! ## What the backup has of an epoch -/

/-- The backup has a snapshot of the epoch that reaches the slot. -/
def Reaches (backupDir : Finset String) (epoch slot : ℕ) : Prop :=
  ∃ path ∈ backupDir, ∃ snap, SnapshotInfo.fromPath path = some snap ∧ snap.epoch = epoch ∧
    slot ≤ snap.endSlot

def ofEpoch (backupDir : Finset String) (epoch : ℕ) : Finset String :=
  backupDir.filter fun path => (SnapshotInfo.fromPath path).any (·.epoch == epoch)

theorem mem_ofEpoch : path ∈ ofEpoch backupDir epoch ↔
    path ∈ backupDir ∧ ∃ snap, SnapshotInfo.fromPath path = some snap ∧ snap.epoch = epoch := by
  simp [ofEpoch, Option.any_eq_true]

theorem Reaches.mono {after : Finset String} (reaches : Reaches backupDir epoch slot)
    (included : backupDir ⊆ after) : Reaches after epoch slot := by
  obtain ⟨path, member, rest⟩ := reaches
  exact ⟨path, included member, rest⟩

theorem sameEpochSnapshots_perm : (sameEpochSnapshots fileSystem backupDir epoch).Perm
    ((snapshots fileSystem backupDir).filter (·.epoch = epoch)) :=
  List.perm_insertionSort _ _

theorem sameEpochSnapshots_sorted :
    (sameEpochSnapshots fileSystem backupDir epoch).Pairwise (·.endSlot ≤ ·.endSlot) := by
  have : IsTrans SnapshotInfo (·.endSlot ≤ ·.endSlot) := ⟨fun _ _ _ => Nat.le_trans⟩
  have : Std.Total (α := SnapshotInfo) (·.endSlot ≤ ·.endSlot) := ⟨fun _ _ => Nat.le_total _ _⟩
  exact List.pairwise_insertionSort _ _

theorem mem_sameEpochSnapshots : snap ∈ sameEpochSnapshots fileSystem backupDir epoch ↔
    snap ∈ snapshots fileSystem backupDir ∧ snap.epoch = epoch := by
  simp [sameEpochSnapshots_perm.mem_iff]

theorem sameEpochSnapshots_nodup (fileSystem : FileSystem) (backupDir : Finset String) (epoch : ℕ) :
    ((sameEpochSnapshots fileSystem backupDir epoch).map SnapshotInfo.path).Nodup := by
  rw [(sameEpochSnapshots_perm.map _).nodup_iff]
  exact (snapshots_nodup backupDir).sublist (List.filter_sublist.map _)

/-- Evicting the oldest of an epoch never loses the newest. -/
theorem Reaches.evictSameEpoch (reaches : Reaches backupDir epoch slot) :
    Reaches (evictSameEpochIncremental fileSystem removes backupDir targetSlot) epoch slot := by
  obtain ⟨path, member, snap, parsed, inEpoch, far⟩ := reaches
  obtain ⟨removed, kept, evicts, enough, -⟩ := exists_evicts_evictOldest removes
    (sameEpochSnapshots fileSystem backupDir (targetSlot / defaultSlotsPerEpoch)) backupDir
  by_cases gone : path ∈ removed.map SnapshotInfo.path
  swap
  · exact ⟨path, (evicts.mem_iff path).mpr ⟨member, gone⟩, snap, parsed, inEpoch, far⟩
  obtain ⟨old, evicted, rfl⟩ := List.mem_map.mp gone
  have some : kept ≠ [] := by
    rintro rfl
    rcases enough with rfl | enough
    · cases evicted
    · exact absurd enough (by decide)
  -- a removed snapshot is of the target's epoch, and the kept ones are newer
  obtain ⟨newer, stays, younger⟩ := exists_newer_of_sorted
    (evicts.split ▸ sameEpochSnapshots_sorted) some evicted
  have listedOld := mem_sameEpochSnapshots.mp (evicts.split ▸ List.mem_append_left kept evicted)
  have listedNew := mem_sameEpochSnapshots.mp (evicts.split ▸ List.mem_append_right removed stays)
  obtain rfl : old = snap :=
    Option.some.inj ((fromPath_of_snapshots listedOld.1).symm.trans parsed)
  have distinct := sameEpochSnapshots_nodup fileSystem backupDir (targetSlot / defaultSlotsPerEpoch)
  rw [evicts.split, List.map_append, List.nodup_append] at distinct
  have apart : newer.path ∉ removed.map SnapshotInfo.path := fun inside =>
    distinct.2.2 _ inside _ (List.mem_map_of_mem stays) rfl
  exact ⟨newer.path, (evicts.mem_iff _).mpr ⟨path_mem_of_snapshots listedNew.1, apart⟩, newer,
    fromPath_of_snapshots listedNew.1, listedNew.2.trans (listedOld.2.symm.trans inEpoch),
    far.trans younger⟩

/-- Dropping an epoch loses no other. -/
theorem Reaches.evictAll {purged : ℕ} (reaches : Reaches backupDir epoch slot)
    (other : epoch ≠ purged) :
    Reaches (evictAllEpochSnapshots fileSystem removes backupDir purged) epoch slot := by
  obtain ⟨path, member, snap, parsed, inEpoch, far⟩ := reaches
  obtain ⟨removed, kept, evicts⟩ := exists_evicts_removeAll removes
    ((snapshots fileSystem backupDir).filter (·.epoch = purged)) backupDir
  refine ⟨path, (evicts.mem_iff path).mpr ⟨member, fun gone => ?_⟩, snap, parsed, inEpoch, far⟩
  obtain ⟨old, evicted, rfl⟩ := List.mem_map.mp gone
  have listed := List.mem_filter.mp (evicts.split ▸ List.mem_append_left kept evicted)
  obtain rfl : old = snap := Option.some.inj ((fromPath_of_snapshots listed.1).symm.trans parsed)
  exact other (inEpoch.symm.trans (of_decide_eq_true listed.2))

theorem evictAllEpochSnapshots_subset {purged : ℕ} :
    evictAllEpochSnapshots fileSystem removes backupDir purged ⊆ backupDir := by
  obtain ⟨removed, kept, evicts⟩ := exists_evicts_removeAll removes
    ((snapshots fileSystem backupDir).filter (·.epoch = purged)) backupDir
  exact fun path stays => ((evicts.mem_iff path).mp stays).1

theorem evictSameEpochIncremental_subset :
    evictSameEpochIncremental fileSystem removes backupDir targetSlot ⊆ backupDir := by
  obtain ⟨removed, kept, evicts, -⟩ := exists_evicts_evictOldest removes
    (sameEpochSnapshots fileSystem backupDir (targetSlot / defaultSlotsPerEpoch)) backupDir
  exact fun path stays => ((evicts.mem_iff path).mp stays).1

/-- Where every file can be removed, three snapshots of the epoch are left at most. -/
theorem card_evictSameEpoch (removable : ∀ path, removes path = true) :
    (ofEpoch (evictSameEpochIncremental fileSystem removes backupDir targetSlot)
      (targetSlot / defaultSlotsPerEpoch)).card ≤
        maximumBackupIncrementalSnapshotsPerEpoch := by
  obtain ⟨removed, kept, evicts, -, few⟩ := exists_evicts_evictOldest removes
    (sameEpochSnapshots fileSystem backupDir (targetSlot / defaultSlotsPerEpoch)) backupDir
  have left : ofEpoch (evictSameEpochIncremental fileSystem removes backupDir targetSlot)
      (targetSlot / defaultSlotsPerEpoch) ⊆ (kept.map SnapshotInfo.path).toFinset := by
    intro path member
    obtain ⟨stays, snap, parsed, inEpoch⟩ := mem_ofEpoch.mp member
    obtain ⟨there, notRemoved⟩ := (evicts.mem_iff path).mp stays
    have listed : snap ∈ sameEpochSnapshots fileSystem backupDir _ := mem_sameEpochSnapshots.mpr
      ⟨mem_snapshots.mpr ⟨path, there, parsed⟩, inEpoch⟩
    rw [evicts.split, List.mem_append] at listed
    rw [← SnapshotInfo.path_of_fromPath parsed] at notRemoved ⊢
    rcases listed with evicted | listed
    · exact absurd (List.mem_map_of_mem evicted) notRemoved
    · exact List.mem_toFinset.mpr (List.mem_map_of_mem listed)
  calc
    _ ≤ (kept.map SnapshotInfo.path).toFinset.card := Finset.card_le_card left
    _ ≤ (kept.map SnapshotInfo.path).length := List.toFinset_card_le _
    _ = kept.length := List.length_map _
    _ ≤ maximumBackupIncrementalSnapshotsPerEpoch := few removable

/-! ## One backup -/

section Backup

variable {look : Look} {snapshotsDir : Finset String} {dir after : BackupDir}
  {current next : Option String} {found : String} {went : Bool}

/-- A snapshot that `find_closest_incremental` may choose. -/
def Candidate (snapshotsDir : Finset String) (targetSlot : ℕ) (snap : SnapshotInfo) : Prop :=
  (∃ path ∈ snapshotsDir, SnapshotInfo.fromPath path = some snap) ∧
    snap.endSlot ≤ targetSlot ∧ snap.epoch = targetSlot / defaultSlotsPerEpoch

theorem mem_candidates (fileSystem : FileSystem) :
    snap ∈ (snapshots fileSystem snapshotsDir).filter (fun snap => snap.endSlot ≤ targetSlot ∧
      snap.endSlot / defaultSlotsPerEpoch = targetSlot / defaultSlotsPerEpoch) ↔
    Candidate snapshotsDir targetSlot snap := by
  rw [List.mem_filter, mem_snapshots, decide_eq_true_iff]
  rfl

theorem findClosestIncremental_eq_some
    (closest : findClosestIncremental fileSystem snapshotsDir targetSlot = some found) :
    ∃ snap, SnapshotInfo.fromPath found = some snap ∧
      snap.epoch = targetSlot / defaultSlotsPerEpoch ∧
      ∀ other, Candidate snapshotsDir targetSlot other → other.endSlot ≤ snap.endSlot := by
  obtain ⟨snap, chosen, rfl⟩ := Option.map_eq_some_iff.mp closest
  obtain ⟨member, greatest⟩ := maxByKey_eq_some chosen
  obtain ⟨⟨path, there, parsed⟩, -, inEpoch⟩ := (mem_candidates fileSystem).mp member
  refine ⟨snap, ?_, inEpoch, fun other candidate => ?_⟩
  · rw [SnapshotInfo.path_of_fromPath parsed, parsed]
  · exact greatest other ((mem_candidates fileSystem).mpr candidate)

theorem exists_findClosestIncremental (fileSystem : FileSystem)
    (candidate : Candidate snapshotsDir targetSlot snap) :
    ∃ found, findClosestIncremental fileSystem snapshotsDir targetSlot = some found := by
  obtain ⟨best, chosen, -⟩ :=
    exists_maxByKey SnapshotInfo.endSlot ((mem_candidates fileSystem).mpr candidate)
  exact ⟨best.path, Option.map_eq_some_iff.mpr ⟨best, chosen, rfl⟩⟩

/-- What is there already counts as backed up. Else a copy that fails leaves nothing or a
file that stays, and one that goes through leaves the snapshot. -/
theorem backupIncrementalSnapshot_cases
    (backed : backupIncrementalSnapshot look dir path = (went, after)) :
    (path ∈ dir.files ∧ went = true ∧ after = dir) ∨ (path ∉ dir.files ∧
      ((went = false ∧ look.copies path ≠ .copied ∧
          (after = dir ∨ look.leaves path = true ∧ after = dir.write path (look.copies path))) ∨
        (went = true ∧ look.copies path = .copied ∧ after = dir.write path .copied))) := by
  unfold backupIncrementalSnapshot at backed
  split at backed
  · rename_i present
    cases backed
    exact .inl ⟨present, rfl, rfl⟩
  · rename_i absent
    refine .inr ⟨absent, ?_⟩
    unfold Look.leaves
    split at backed
    · rename_i leavesFile copied
      cases backed
      rw [copied]
      refine .inl ⟨rfl, by rintro ⟨⟩, ?_⟩
      cases leavesFile with
      | false => exact .inl rfl
      | true => exact .inr ⟨rfl, rfl⟩
    · rename_i copied
      cases backed
      rw [copied]
      exact .inl ⟨rfl, by rintro ⟨⟩, .inr ⟨rfl, rfl⟩⟩
    · rename_i copied
      cases backed
      rw [copied]
      refine .inl ⟨rfl, by rintro ⟨⟩, ?_⟩
      cases look.removes path with
      | false => exact .inr ⟨rfl, rfl⟩
      | true => exact .inl rfl
    · rename_i copied
      cases backed
      exact .inr ⟨rfl, copied, rfl⟩

theorem backupIncrementalSnapshot_of_copied (copied : look.copies path = .copied) :
    (backupIncrementalSnapshot look dir path).1 = true := by
  unfold backupIncrementalSnapshot
  split
  · rfl
  · rw [copied]

/-- A round keeps what there is, is left a file by a copy that fails, or adds the closest
snapshot and evicts older ones. -/
theorem backupLatest_cases (backed : backupLatestForTargetSlot fileSystem look
      dir current targetSlot = (next, after)) :
    (next = current ∧ after = dir) ∨
      ∃ found, findClosestIncremental fileSystem look.snapshots targetSlot = some found ∧
        ((next = current ∧ found ∉ dir.files ∧ look.copies found ≠ .copied ∧
            look.leaves found = true ∧ after = dir.write found (look.copies found)) ∨
          (next = some found ∧
            after.files = evictSameEpochIncremental fileSystem look.removes
              (insert found dir.files) targetSlot ∧
            (found ∈ dir.files ∧ after.copyOf = dir.copyOf ∨
              after.copyOf = (dir.write found .copied).copyOf))) := by
  unfold backupLatestForTargetSlot at backed
  split at backed
  · cases backed
    exact .inl ⟨rfl, rfl⟩
  · rename_i found closest
    split at backed
    · cases backed
      exact .inl ⟨rfl, rfl⟩
    · split at backed
      · rename_i left failed
        cases backed
        rcases backupIncrementalSnapshot_cases failed with ⟨-, went, -⟩ |
          ⟨absent, ⟨-, notCopied, rfl | ⟨leaves, rfl⟩⟩ | ⟨went, -⟩⟩
        · cases went
        · exact .inl ⟨rfl, rfl⟩
        · exact .inr ⟨found, closest, .inl ⟨rfl, absent, notCopied, leaves, rfl⟩⟩
        · cases went
      · rename_i written copied
        cases backed
        refine .inr ⟨found, closest, .inr ⟨rfl, ?_⟩⟩
        rcases backupIncrementalSnapshot_cases copied with ⟨present, -, rfl⟩ |
          ⟨absent, ⟨went, -⟩ | ⟨-, went, rfl⟩⟩
        · rw [Finset.insert_eq_of_mem present]
          exact ⟨rfl, .inl ⟨present, rfl⟩⟩
        · cases went
        · exact ⟨rfl, .inr rfl⟩

theorem Reaches.backupLatest (reaches : Reaches dir.files epoch slot)
    (backed : backupLatestForTargetSlot fileSystem look dir current targetSlot =
      (next, after)) : Reaches after.files epoch slot := by
  rcases backupLatest_cases backed with
    ⟨-, rfl⟩ | ⟨found, -, ⟨-, -, -, -, rfl⟩ | ⟨-, files, -⟩⟩
  · exact reaches
  · exact reaches.mono (Finset.subset_insert _ _)
  · rw [files]
    exact (reaches.mono (Finset.subset_insert _ _)).evictSameEpoch

/-- The backup still reaches as far as a remembered snapshot of the epoch. -/
def Kept (backupDir : Finset String) (epoch : ℕ) (remembered : Option String) : Prop :=
  ∀ path snap, remembered = some path → SnapshotInfo.fromPath path = some snap →
    snap.epoch = epoch → Reaches backupDir epoch snap.endSlot

/-- The remembered snapshot is one of the epoch. -/
def Within (epoch : ℕ) (remembered : Option String) : Prop :=
  ∀ path snap, remembered = some path → SnapshotInfo.fromPath path = some snap → snap.epoch = epoch

theorem Kept.mono {later : Finset String} {remembered : Option String}
    (kept : Kept backupDir epoch remembered)
    (reaches : ∀ slot, Reaches backupDir epoch slot → Reaches later epoch slot) :
    Kept later epoch remembered :=
  fun path snap same parsed inEpoch => reaches _ (kept path snap same parsed inEpoch)

/-- What was just copied is newest of all, or something newer is there. -/
theorem reaches_of_found (closest : findClosestIncremental fileSystem snapshotsDir targetSlot =
      some found) (parsed : SnapshotInfo.fromPath found = some snap) :
    Reaches (evictSameEpochIncremental fileSystem removes (insert found backupDir) targetSlot)
      (targetSlot / defaultSlotsPerEpoch) snap.endSlot := by
  obtain ⟨same, parsed', inEpoch, -⟩ := findClosestIncremental_eq_some closest
  obtain rfl : snap = same := Option.some.inj (parsed.symm.trans parsed')
  have there : Reaches (insert found backupDir) (targetSlot / defaultSlotsPerEpoch) snap.endSlot :=
    ⟨found, Finset.mem_insert_self _ _, snap, parsed, inEpoch, le_rfl⟩
  exact there.evictSameEpoch

theorem Kept.backupLatest (kept : Kept dir.files (targetSlot / defaultSlotsPerEpoch) current)
    (backed : backupLatestForTargetSlot fileSystem look dir current targetSlot =
      (next, after)) : Kept after.files (targetSlot / defaultSlotsPerEpoch) next := by
  rcases backupLatest_cases backed with
    ⟨rfl, rfl⟩ | ⟨found, closest, ⟨rfl, -, -, -, rfl⟩ | ⟨rfl, files, -⟩⟩
  · exact kept
  · exact kept.mono fun slot reaches => reaches.mono (Finset.subset_insert _ _)
  · intro path snap same parsed _
    cases same
    rw [files]
    exact reaches_of_found closest parsed

theorem Within.backupLatest (within : Within (targetSlot / defaultSlotsPerEpoch) current)
    (backed : backupLatestForTargetSlot fileSystem look dir current targetSlot =
      (next, after)) : Within (targetSlot / defaultSlotsPerEpoch) next := by
  rcases backupLatest_cases backed with ⟨rfl, -⟩ | ⟨found, closest, ⟨rfl, -⟩ | ⟨rfl, -⟩⟩
  · exact within
  · exact within
  · intro path snap same parsed
    cases same
    obtain ⟨chosen, parsed', inEpoch, -⟩ := findClosestIncremental_eq_some closest
    obtain rfl : snap = chosen := Option.some.inj (parsed.symm.trans parsed')
    exact inEpoch

/-- Where every copy goes through, the backup reaches as far as every candidate. -/
theorem reaches_of_candidate (kept : Kept dir.files (targetSlot / defaultSlotsPerEpoch) current)
    (copied : ∀ path, look.copies path = .copied)
    (candidate : Candidate look.snapshots targetSlot snap)
    (backed : backupLatestForTargetSlot fileSystem look dir current targetSlot =
      (next, after)) : Reaches after.files (targetSlot / defaultSlotsPerEpoch) snap.endSlot := by
  obtain ⟨found, closest⟩ := exists_findClosestIncremental fileSystem candidate
  obtain ⟨best, parsed, inEpoch, greatest⟩ := findClosestIncremental_eq_some closest
  have far : Reaches after.files (targetSlot / defaultSlotsPerEpoch) best.endSlot := by
    have same : next = some found := by
      unfold backupLatestForTargetSlot at backed
      rw [closest] at backed
      dsimp only at backed
      split at backed
      · rename_i here
        cases backed
        exact here
      · split at backed
        · rename_i failed
          cases (congrArg Prod.fst failed).symm.trans
            (backupIncrementalSnapshot_of_copied (copied found))
        · cases backed
          rfl
    exact kept.backupLatest backed found best same parsed inEpoch
  obtain ⟨path, member, snap', parsed', inEpoch', further⟩ := far
  exact ⟨path, member, snap', parsed', inEpoch', (greatest snap candidate).trans further⟩

end Backup

/-! ## One round -/

section Round

variable {before next : BackupSnapshotMonitor} {tick : Tick} {event : MonitorEvent}
  {overrideTargetSlot : Option ℕ} {lastTargetSlot thisTargetSlot : ℕ}

/-- What a round does, step by step. -/
structure Round (fileSystem : FileSystem) (tick : Tick) (before next : BackupSnapshotMonitor)
    (lastTargetSlot thisTargetSlot : ℕ) (middle : BackupSnapshotMonitor)
    (lastBackupDir : BackupDir) : Prop where
  rolled : before.rollOver fileSystem tick.removes thisTargetSlot = .ok middle
  last : backupLatestForTargetSlot fileSystem tick.lastEpoch middle.backupDir
    middle.lastEpochBackupPath lastTargetSlot = (next.lastEpochBackupPath, lastBackupDir)
  this : backupLatestForTargetSlot fileSystem tick.thisEpoch lastBackupDir
    middle.thisEpochBackupPath thisTargetSlot = (next.thisEpochBackupPath, next.backupDir)
  current : next.currentTargetSlot = some thisTargetSlot

theorem exists_round (ticked : before.tick fileSystem overrideTargetSlot tick = .ok next) :
    ∃ lastTargetSlot thisTargetSlot middle lastBackupDir,
      getTargetSlots overrideTargetSlot tick.epochInfo = .ok (lastTargetSlot, thisTargetSlot) ∧
      Round fileSystem tick before next lastTargetSlot thisTargetSlot middle lastBackupDir := by
  obtain ⟨⟨lastTargetSlot, thisTargetSlot⟩, targets, ticked⟩ := bind_eq_ok.mp ticked
  obtain ⟨middle, rolled, same⟩ := bind_eq_ok.mp ticked
  cases same
  exact ⟨lastTargetSlot, thisTargetSlot, middle, _, targets, rolled, rfl, rfl, rfl⟩

theorem getTargetSlots_none {epochInfo : EpochInfo}
    (targets : getTargetSlots none epochInfo = .ok (lastTargetSlot, thisTargetSlot)) :
    thisTargetSlot = lastTargetSlot + defaultSlotsPerEpoch := by
  obtain ⟨nextEpochTargetSlot, added, same⟩ := bind_eq_ok.mp targets
  cases same
  exact (checkedAdd_eq_some_iff.mp (orOverflow_eq_ok_iff.mp added)).2.symm

theorem rollOver_cases (rolled : before.rollOver fileSystem removes thisTargetSlot = .ok next) :
    (before.currentTargetSlot = some thisTargetSlot ∧ next = before) ∨
      ∃ purged, purged + 2 = thisTargetSlot / defaultSlotsPerEpoch ∧ next = { before with
        lastEpochBackupPath := before.thisEpochBackupPath
        thisEpochBackupPath := none
        backupDir := { before.backupDir with
          files := evictAllEpochSnapshots fileSystem removes before.backupDir.files purged } } := by
  unfold rollOver at rolled
  split at rolled
  · rename_i seen
    cases rolled
    exact .inl ⟨seen, rfl⟩
  · obtain ⟨purged, subtracted, same⟩ := bind_eq_ok.mp rolled
    cases same
    obtain ⟨covered, same⟩ := checkedSub_eq_some_iff.mp (orOverflow_eq_ok_iff.mp subtracted)
    exact .inr ⟨purged, by omega, rfl⟩

/-! ### No more than three -/

/-- The snapshots of the epoch whose copies went through. -/
def backups (dir : BackupDir) (epoch : ℕ) : Finset String :=
  (ofEpoch dir.files epoch).filter fun path => dir.copyOf path = .copied

theorem mem_backups {dir : BackupDir} : path ∈ backups dir epoch ↔
    path ∈ ofEpoch dir.files epoch ∧ dir.copyOf path = .copied := Finset.mem_filter

/-- No epoch has more than three of them. -/
def Few (dir : BackupDir) : Prop :=
  ∀ epoch, (backups dir epoch).card ≤ maximumBackupIncrementalSnapshotsPerEpoch

theorem Few.mono {dir after : BackupDir} (few : Few dir)
    (included : ∀ epoch, backups after epoch ⊆ backups dir epoch) : Few after :=
  fun epoch => (Finset.card_le_card (included epoch)).trans (few epoch)

theorem backups_write {dir : BackupDir} {copy : Copy} (failed : copy ≠ .copied) (epoch : ℕ) :
    backups (dir.write path copy) epoch ⊆ backups dir epoch := by
  intro other member
  obtain ⟨inside, copied⟩ := mem_backups.mp member
  obtain ⟨there, snap, parsed, inEpoch⟩ := mem_ofEpoch.mp inside
  have different : other ≠ path := by
    rintro rfl
    exact failed ((dir.write_copyOf_self other copy).symm.trans copied)
  rw [dir.mem_write_of_ne path copy different] at there
  rw [dir.write_copyOf_of_ne path copy different] at copied
  exact mem_backups.mpr ⟨mem_ofEpoch.mpr ⟨there, snap, parsed, inEpoch⟩, copied⟩

theorem Few.backupLatest {look : Look} {dir after : BackupDir} {current next : Option String}
    (few : Few dir) (removable : ∀ path, look.removes path = true)
    (backed : backupLatestForTargetSlot fileSystem look dir current targetSlot =
      (next, after)) : Few after := by
  rcases backupLatest_cases backed with
    ⟨-, rfl⟩ | ⟨found, closest, ⟨-, -, failed, -, rfl⟩ | ⟨-, files, copyOf⟩⟩
  · exact few
  · exact few.mono (backups_write failed)
  · intro epoch
    by_cases same : epoch = targetSlot / defaultSlotsPerEpoch
    · refine (Finset.card_le_card (Finset.filter_subset _ _)).trans ?_
      rw [same, files]
      exact card_evictSameEpoch removable
    · refine (Finset.card_le_card fun path member => ?_).trans (few epoch)
      obtain ⟨inside, copied⟩ := mem_backups.mp member
      obtain ⟨stays, snap, parsed, inEpoch⟩ := mem_ofEpoch.mp inside
      have different : path ≠ found := by
        rintro rfl
        obtain ⟨chosen, parsed', ofTarget, -⟩ := findClosestIncremental_eq_some closest
        obtain rfl : snap = chosen := Option.some.inj (parsed.symm.trans parsed')
        exact same (inEpoch.symm.trans ofTarget)
      rw [files] at stays
      refine mem_backups.mpr ⟨mem_ofEpoch.mpr ⟨?_, snap, parsed, inEpoch⟩, ?_⟩
      · exact (Finset.mem_insert.mp (evictSameEpochIncremental_subset stays)).resolve_left different
      · rcases copyOf with ⟨-, unchanged⟩ | updated
        · rw [← unchanged]
          exact copied
        · rw [updated, dir.write_copyOf_of_ne found .copied different] at copied
          exact copied

theorem Few.process (few : Few before.backupDir)
    (removable : ∀ tick, event = .tick tick → ∀ look ∈ tick.looks, ∀ path, look.removes path = true)
    (processed : before.process fileSystem overrideTargetSlot event = .ok next) :
    Few next.backupDir := by
  cases event with
  | unreachable =>
    cases processed
    exact few
  | tick tick =>
    obtain ⟨_, _, middle, lastBackupDir, -, round⟩ := exists_round processed
    have rolled : Few middle.backupDir := by
      rcases rollOver_cases round.rolled with ⟨-, rfl⟩ | ⟨purged, -, rfl⟩
      · exact few
      · refine few.mono fun epoch => Finset.filter_subset_filter _ ?_
        exact Finset.filter_subset_filter _ evictAllEpochSnapshots_subset
    obtain ⟨last, this⟩ := Tick.forall_mem_looks.mp (removable tick rfl)
    exact (rolled.backupLatest last round.last).backupLatest this round.this

/-! ### The best one stays -/

/-- For the epochs of the two target slots, the backup reaches as far as what is
remembered of them. -/
structure Remembers (before : BackupSnapshotMonitor) (thisTargetSlot : ℕ) : Prop where
  last : ∀ epoch, epoch + 1 = thisTargetSlot / defaultSlotsPerEpoch →
    Kept before.backupDir.files epoch before.lastEpochBackupPath
  this : Kept before.backupDir.files (thisTargetSlot / defaultSlotsPerEpoch) before.thisEpochBackupPath
  within : Within (thisTargetSlot / defaultSlotsPerEpoch) before.thisEpochBackupPath

/-- What holds between two rounds. -/
structure Steady (before : BackupSnapshotMonitor) : Prop where
  fresh : before.currentTargetSlot = none → before.thisEpochBackupPath = none
  remembers : ∀ targetSlot, before.currentTargetSlot = some targetSlot → before.Remembers targetSlot

theorem steady_start {dir : BackupDir} : (start dir).Steady :=
  ⟨fun _ => rfl, fun _ unset => by cases unset⟩

theorem Reaches.rollOver (reaches : Reaches before.backupDir.files epoch slot)
    (rolled : before.rollOver fileSystem removes thisTargetSlot = .ok next)
    (recent : epoch + 2 ≠ thisTargetSlot / defaultSlotsPerEpoch) :
    Reaches next.backupDir.files epoch slot := by
  rcases rollOver_cases rolled with ⟨-, rfl⟩ | ⟨purged, old, rfl⟩
  · exact reaches
  · exact reaches.evictAll (by rintro rfl; exact recent old)

/-- At a new epoch what was remembered of this one is remembered of the last one. -/
theorem Steady.rollOver (steady : before.Steady)
    (rolled : before.rollOver fileSystem removes thisTargetSlot = .ok next) :
    next.Remembers thisTargetSlot := by
  rcases rollOver_cases rolled with ⟨seen, rfl⟩ | ⟨purged, old, rfl⟩
  · exact steady.remembers _ seen
  · refine ⟨fun epoch previous path snap same parsed inEpoch => ?_,
      by rintro _ _ ⟨⟩, by rintro _ _ ⟨⟩⟩
    have remembered : before.thisEpochBackupPath = some path := same
    have reaches : Reaches before.backupDir.files epoch snap.endSlot := by
      cases current : before.currentTargetSlot with
      | none =>
        rw [steady.fresh current] at remembered
        cases remembered
      | some earlier =>
        obtain ⟨-, this, within⟩ := steady.remembers earlier current
        have ofEarlier := within path snap remembered parsed
        rw [← inEpoch, ofEarlier]
        exact this path snap remembered parsed ofEarlier
    exact reaches.evictAll (by omega)

theorem Round.reaches {middle : BackupSnapshotMonitor} {lastBackupDir : BackupDir}
    (round : Round fileSystem tick before next lastTargetSlot thisTargetSlot middle lastBackupDir)
    (reaches : Reaches before.backupDir.files epoch slot)
    (recent : epoch + 2 ≠ thisTargetSlot / defaultSlotsPerEpoch) :
    Reaches next.backupDir.files epoch slot :=
  ((reaches.rollOver round.rolled recent).backupLatest round.last).backupLatest round.this

theorem Round.steady {middle : BackupSnapshotMonitor} {lastBackupDir : BackupDir}
    (round : Round fileSystem tick before next lastTargetSlot thisTargetSlot middle lastBackupDir)
    (apart : thisTargetSlot = lastTargetSlot + defaultSlotsPerEpoch) (steady : before.Steady) :
    next.Steady := by
  have successor : lastTargetSlot / defaultSlotsPerEpoch + 1 =
      thisTargetSlot / defaultSlotsPerEpoch := by
    rw [apart, Nat.add_div_right _ (by decide)]
  obtain ⟨last, this, within⟩ := steady.rollOver round.rolled
  refine ⟨fun unset => ?_, fun targetSlot current => ?_⟩
  · rw [round.current] at unset
    cases unset
  · obtain rfl : thisTargetSlot = targetSlot := Option.some.inj (round.current.symm.trans current)
    refine ⟨fun epoch previous => ?_, ?_, within.backupLatest round.this⟩
    · obtain rfl : epoch = lastTargetSlot / defaultSlotsPerEpoch := by omega
      exact ((last _ previous).backupLatest round.last).mono fun slot reaches =>
        reaches.backupLatest round.this
    · exact (this.mono fun slot reaches => reaches.backupLatest round.last).backupLatest round.this

/-- The snapshot is one that the round could back up, for either epoch. -/
def Offers (tick : Tick) (snap : SnapshotInfo) : Prop :=
  ∃ lastTargetSlot thisTargetSlot,
    getTargetSlots none tick.epochInfo = .ok (lastTargetSlot, thisTargetSlot) ∧
      (Candidate tick.lastEpoch.snapshots lastTargetSlot snap ∨
        Candidate tick.thisEpoch.snapshots thisTargetSlot snap)

theorem Round.reaches_offered {middle : BackupSnapshotMonitor} {lastBackupDir : BackupDir}
    (round : Round fileSystem tick before next lastTargetSlot thisTargetSlot middle lastBackupDir)
    (targets : getTargetSlots none tick.epochInfo = .ok (lastTargetSlot, thisTargetSlot))
    (steady : before.Steady) (copied : ∀ look ∈ tick.looks, ∀ path, look.copies path = .copied)
    (offers : Offers tick snap) : Reaches next.backupDir.files snap.epoch snap.endSlot := by
  obtain ⟨_, _, targets', candidate⟩ := offers
  cases targets.symm.trans targets'
  obtain ⟨last, this, -⟩ := steady.rollOver round.rolled
  obtain ⟨lastCopied, thisCopied⟩ := Tick.forall_mem_looks.mp copied
  have apart := getTargetSlots_none targets
  have successor : lastTargetSlot / defaultSlotsPerEpoch + 1 =
      thisTargetSlot / defaultSlotsPerEpoch := by
    rw [apart, Nat.add_div_right _ (by decide)]
  rcases candidate with candidate | candidate
  · rw [candidate.2.2]
    exact (reaches_of_candidate (last _ successor) lastCopied candidate round.last).backupLatest
      round.this
  · rw [candidate.2.2]
    exact reaches_of_candidate (this.mono fun slot reaches => reaches.backupLatest round.last)
      thisCopied candidate round.this

/-! ### What the files came of -/

/-- Every file of a snapshot that matters was left by a good copy. -/
def LeftBy (good : Copy → Bool) (matters : SnapshotInfo → Prop) (dir : BackupDir) : Prop :=
  ∀ path ∈ dir.files, ∀ snap, SnapshotInfo.fromPath path = some snap → matters snap →
    good (dir.copyOf path) = true

/-- Only good copies of such snapshots leave a file. -/
def LeavesOnly (good : Copy → Bool) (matters : SnapshotInfo → Prop) (look : Look) : Prop :=
  ∀ path snap, SnapshotInfo.fromPath path = some snap → matters snap →
    look.leaves path = true → good (look.copies path) = true

variable {good : Copy → Bool} {matters : SnapshotInfo → Prop}

theorem LeftBy.backupLatest {look : Look} {dir after : BackupDir} {current left : Option String}
    (leftBy : LeftBy good matters dir) (copied : good .copied = true)
    (leaves : LeavesOnly good matters look)
    (backed : backupLatestForTargetSlot fileSystem look dir current targetSlot =
      (left, after)) : LeftBy good matters after := by
  intro path member snap parsed concerns
  rcases backupLatest_cases backed with
    ⟨-, rfl⟩ | ⟨found, -, ⟨-, -, -, failed, rfl⟩ | ⟨-, files, copyOf⟩⟩
  · exact leftBy path member snap parsed concerns
  · by_cases same : path = found
    · subst same
      rw [BackupDir.write_copyOf_self]
      exact leaves path snap parsed concerns failed
    · rw [BackupDir.write_copyOf_of_ne _ _ _ same]
      rw [BackupDir.mem_write_of_ne _ _ _ same] at member
      exact leftBy path member snap parsed concerns
  · rw [files] at member
    have there := Finset.mem_insert.mp (evictSameEpochIncremental_subset member)
    rcases copyOf with ⟨present, unchanged⟩ | updated
    · rw [unchanged]
      refine leftBy path ?_ snap parsed concerns
      rcases there with rfl | there
      · exact present
      · exact there
    · rw [updated]
      by_cases same : path = found
      · rw [same, BackupDir.write_copyOf_self]
        exact copied
      · rw [BackupDir.write_copyOf_of_ne _ _ _ same]
        exact leftBy path (there.resolve_left same) snap parsed concerns

theorem LeftBy.process (leftBy : LeftBy good matters before.backupDir)
    (copied : good .copied = true)
    (leaves : ∀ tick, event = .tick tick → ∀ look ∈ tick.looks, LeavesOnly good matters look)
    (processed : before.process fileSystem overrideTargetSlot event = .ok next) :
    LeftBy good matters next.backupDir := by
  cases event with
  | unreachable =>
    cases processed
    exact leftBy
  | tick tick =>
    obtain ⟨_, _, middle, lastBackupDir, -, round⟩ := exists_round processed
    have rolled : LeftBy good matters middle.backupDir := by
      rcases rollOver_cases round.rolled with ⟨-, rfl⟩ | ⟨purged, -, rfl⟩
      · exact leftBy
      · exact fun path member => leftBy path (evictAllEpochSnapshots_subset member)
    obtain ⟨last, this⟩ := Tick.forall_mem_looks.mp (leaves tick rfl)
    exact (rolled.backupLatest copied last round.last).backupLatest copied this round.this

end Round

/-! ## Whole runs -/

section Runs

variable {rest history : List MonitorEvent} {dir : BackupDir} {finish : BackupSnapshotMonitor}

/-- From the second epoch on, the monitor does not panic. -/
theorem exists_run (fileSystem : FileSystem) (overrideTargetSlot : Option ℕ)
    (late : ∀ tick, .tick tick ∈ history → ∃ lastTargetSlot thisTargetSlot,
      getTargetSlots overrideTargetSlot tick.epochInfo = .ok (lastTargetSlot, thisTargetSlot) ∧
        2 ≤ thisTargetSlot / defaultSlotsPerEpoch) (start : BackupSnapshotMonitor) :
    ∃ finish, run (process fileSystem overrideTargetSlot) history start = .ok finish := by
  induction history generalizing start with
  | nil => exact ⟨start, rfl⟩
  | cons event rest ih =>
    have ⟨next, processed⟩ : ∃ next, start.process fileSystem overrideTargetSlot event = .ok next := by
      cases event with
      | unreachable => exact ⟨_, rfl⟩
      | tick tick =>
        obtain ⟨lastTargetSlot, thisTargetSlot, targets, late⟩ := late tick List.mem_cons_self
        have ⟨middle, rolled⟩ : ∃ middle,
            start.rollOver fileSystem tick.removes thisTargetSlot = .ok middle := by
          rw [rollOver, checkedSub, if_pos late]
          split <;> exact ⟨_, rfl⟩
        exact ⟨_, bind_eq_ok.mpr ⟨_, targets, bind_eq_ok.mpr ⟨middle, rolled, rfl⟩⟩⟩
    obtain ⟨finish, ran⟩ := ih (fun tick member => late tick (List.mem_cons_of_mem _ member)) next
    exact ⟨finish, run_cons.trans (bind_eq_ok.mpr ⟨next, processed, ran⟩)⟩

theorem run_leftBy {good : Copy → Bool} {matters : SnapshotInfo → Prop}
    (leftBy : LeftBy good matters dir) (copied : good .copied = true)
    (leaves : ∀ tick, .tick tick ∈ history → ∀ look ∈ tick.looks, LeavesOnly good matters look)
    (ran : run (process fileSystem overrideTargetSlot) history (start dir) = .ok finish) :
    LeftBy good matters finish.backupDir := by
  refine run_split_induction
    (motive := fun _ (state : BackupSnapshotMonitor) => LeftBy good matters state.backupDir)
    leftBy ?_ ran
  intro past middle event rest next split _ middleLeftBy processed
  exact middleLeftBy.process copied (fun tick same => leaves tick (by simp [split, same])) processed

theorem run_few (few : Few dir)
    (removable : ∀ tick, .tick tick ∈ history → ∀ look ∈ tick.looks, ∀ path,
      look.removes path = true)
    (ran : run (process fileSystem overrideTargetSlot) history (start dir) = .ok finish) :
    Few finish.backupDir := by
  refine run_split_induction
    (motive := fun _ (state : BackupSnapshotMonitor) => Few state.backupDir) few ?_ ran
  intro past middle event rest next split _ middleFew processed
  exact middleFew.process (fun tick same => removable tick (by simp [split, same])) processed

/-- **Never more than three backups of an epoch**, whatever the validator writes, the clock
says or the operator overrides, as long as old files can be removed. A file that a failing
copy leaves is not a backup, and stays beside the three, since the round ends before it
evicts. Where no such file is left there are no more than three files. -/
theorem at_most_three_backups (fileSystem : FileSystem) (overrideTargetSlot : Option ℕ)
    (few : ∀ epoch, (backups dir epoch).card ≤ 3)
    (removable : ∀ tick, .tick tick ∈ history → ∀ look ∈ tick.looks, ∀ path,
      look.removes path = true)
    (ran : run (process fileSystem overrideTargetSlot) history (start dir) = .ok finish)
    (epoch : ℕ) :
    (backups finish.backupDir epoch).card ≤ 3 ∧
      (LeftBy (· == .copied) (·.epoch = epoch) dir →
        (∀ tick, .tick tick ∈ history → ∀ look ∈ tick.looks,
          LeavesOnly (· == .copied) (·.epoch = epoch) look) →
        (ofEpoch finish.backupDir.files epoch).card ≤ 3) := by
  have atMost : (backups finish.backupDir epoch).card ≤ 3 := run_few few removable ran epoch
  refine ⟨atMost, fun leftBy leaves => (Finset.card_le_card fun path member => ?_).trans atMost⟩
  obtain ⟨there, snap, parsed, inEpoch⟩ := mem_ofEpoch.mp member
  have copied := run_leftBy leftBy rfl leaves ran path there snap parsed inEpoch
  exact mem_backups.mpr ⟨member, beq_iff_eq.mp copied⟩

theorem run_steady
    (ran : run (process fileSystem none) history (start dir) = .ok finish) :
    finish.Steady := by
  refine run_invariant ?_ steady_start ran
  intro before event after steady processed
  cases event with
  | unreachable =>
    cases processed
    exact steady_start
  | tick tick =>
    obtain ⟨_, _, _, _, targets, round⟩ := exists_round processed
    exact round.steady (getTargetSlots_none targets) steady

theorem run_reaches (past : List MonitorEvent) {tick : Tick}
    (copied : ∀ look ∈ tick.looks, ∀ path, look.copies path = .copied) (offers : Offers tick snap)
    (recent : ∀ later, .tick later ∈ rest → ∀ lastTargetSlot thisTargetSlot,
      getTargetSlots none later.epochInfo = .ok (lastTargetSlot, thisTargetSlot) →
        snap.epoch + 2 ≠ thisTargetSlot / defaultSlotsPerEpoch)
    (ran : run (process fileSystem none) (past ++ .tick tick :: rest) (start dir) = .ok finish) :
    Reaches finish.backupDir.files snap.epoch snap.endSlot := by
  rw [run_append] at ran
  obtain ⟨before, steadily, ran⟩ := bind_eq_ok.mp ran
  rw [run_cons] at ran
  obtain ⟨after, ticked, ran⟩ := bind_eq_ok.mp ran
  obtain ⟨_, _, _, _, targets, round⟩ := exists_round ticked
  have backed := round.reaches_offered targets (run_steady steadily) copied offers
  refine run_split_induction (motive := fun _ (state : BackupSnapshotMonitor) =>
    Reaches state.backupDir.files snap.epoch snap.endSlot) backed ?_ ran
  intro earlier middle event others next split _ reaches processed
  cases event with
  | unreachable =>
    cases processed
    exact reaches
  | tick later =>
    obtain ⟨_, _, _, _, targets, round⟩ := exists_round processed
    exact round.reaches reaches (recent later (by simp [split]) _ _ targets)

/-- The other snapshot is of the same epoch and ends no earlier. -/
def AsLate (snap other : SnapshotInfo) : Prop :=
  other.epoch = snap.epoch ∧ snap.endSlot ≤ other.endSlot

/-- **The best snapshot stays.** What a round could back up and did, the backup reaches
with a whole file from then on, until a round of the second epoch after it drops the whole
epoch: neither evictions, nor failing copies, restarts or files that disappear take it back.
A copy that breaks off must not leave its file, though, if the snapshot was of the epoch and
as late: the file passes for a backup and counts in evictions. -/
theorem best_snapshot_stays (fileSystem : FileSystem) (past : List MonitorEvent) {tick : Tick}
    (copied : ∀ look ∈ tick.looks, ∀ path, look.copies path = .copied) (offers : Offers tick snap)
    (recent : ∀ later, .tick later ∈ rest → ∀ lastTargetSlot thisTargetSlot,
      getTargetSlots none later.epochInfo = .ok (lastTargetSlot, thisTargetSlot) →
        snap.epoch + 2 ≠ thisTargetSlot / defaultSlotsPerEpoch)
    (leftBy : LeftBy Copy.isWhole (AsLate snap) dir)
    (leaves : ∀ other, .tick other ∈ past ++ .tick tick :: rest → ∀ look ∈ other.looks,
      LeavesOnly Copy.isWhole (AsLate snap) look)
    (ran : run (process fileSystem none) (past ++ .tick tick :: rest) (start dir) =
      .ok finish) :
    ∃ path ∈ finish.backupDir.files, (finish.backupDir.copyOf path).isWhole = true ∧
      ∃ reached, SnapshotInfo.fromPath path = some reached ∧ AsLate snap reached := by
  obtain ⟨path, member, reached, parsed, asLate⟩ := run_reaches past copied offers recent ran
  exact ⟨path, member, run_leftBy leftBy rfl leaves ran path member reached parsed asLate, reached,
    parsed, asLate⟩

end Runs

/-! ### Three rounds -/

def sampleFileSystem : FileSystem where
  readDir files := files.sort (· ≤ ·)
  nodup files := files.sort_nodup _
  mem_readDir _ _ := Finset.mem_sort _

def sampleSnapshot : String := "incremental-snapshot-1296000-1296050-a.tar.zst"

def laterSnapshot : String := "incremental-snapshot-1296000-1296090-b.tar.zst"

/-- The cluster is in its third epoch, and every file can be removed. -/
def sampleTick (snapshotsDir : Finset String) (copy : Copy) : Tick where
  epochInfo := ⟨1296100, 100, 3⟩
  removes _ := true
  lastEpoch := ⟨snapshotsDir, fun _ => copy, fun _ => true⟩
  thisEpoch := ⟨snapshotsDir, fun _ => copy, fun _ => true⟩

/-- The client starts anew after the first round, and in the next one the validator drops the
snapshot while it is being copied. -/
def sampleRounds : List MonitorEvent :=
  [.tick (sampleTick {sampleSnapshot} .copied), .unreachable,
    .tick (sampleTick {laterSnapshot} .unverified)]

theorem sampleTick_targets (overrideTargetSlot : Option ℕ) (snapshotsDir : Finset String)
    (copy : Copy) : getTargetSlots overrideTargetSlot (sampleTick snapshotsDir copy).epochInfo =
      .ok (1295999, overrideTargetSlot.getD 1727999) := by
  have added : checkedAdd 64 1295999 defaultSlotsPerEpoch = some 1727999 := by
    norm_num [checkedAdd, defaultSlotsPerEpoch]
  exact bind_eq_ok.mpr ⟨_, orOverflow_eq_ok_iff.mpr added, rfl⟩

theorem mem_sampleRounds {tick : Tick} (member : .tick tick ∈ sampleRounds) :
    ∃ snapshotsDir copy, tick = sampleTick snapshotsDir copy ∧ copy.isWhole = true := by
  simp only [sampleRounds, List.mem_cons, MonitorEvent.tick.injEq, reduceCtorEq, false_or,
    List.not_mem_nil, or_false] at member
  rcases member with rfl | rfl
  · exact ⟨_, _, rfl, rfl⟩
  · exact ⟨_, _, rfl, rfl⟩

def emptyBackupDir : BackupDir := ⟨∅, fun _ => .copied⟩

theorem exists_sampleRounds (overrideTargetSlot : Option ℕ)
    (late : ∀ targetSlot ∈ overrideTargetSlot, 2 ≤ targetSlot / defaultSlotsPerEpoch) :
    ∃ finish, run (process sampleFileSystem overrideTargetSlot) sampleRounds
      (start emptyBackupDir) = .ok finish := by
  refine exists_run sampleFileSystem overrideTargetSlot (fun tick member => ?_) _
  obtain ⟨snapshotsDir, copy, rfl, -⟩ := mem_sampleRounds member
  refine ⟨_, _, sampleTick_targets overrideTargetSlot snapshotsDir copy, ?_⟩
  cases overrideTargetSlot with
  | none => norm_num [defaultSlotsPerEpoch]
  | some targetSlot => exact late targetSlot rfl

theorem at_most_three_backups_in_sampleRounds : ∃ finish : BackupSnapshotMonitor,
    run (process sampleFileSystem (some 1296095)) sampleRounds (start emptyBackupDir) =
        .ok finish ∧ (backups finish.backupDir 3).card ≤ 3 := by
  obtain ⟨finish, ran⟩ := exists_sampleRounds (some 1296095)
    (by simp [defaultSlotsPerEpoch])
  have removable : ∀ tick, .tick tick ∈ sampleRounds → ∀ look ∈ tick.looks, ∀ path,
      look.removes path = true := by
    intro tick member
    obtain ⟨snapshotsDir, copy, rfl, -⟩ := mem_sampleRounds member
    exact Tick.forall_mem_looks.mpr ⟨fun _ => rfl, fun _ => rfl⟩
  exact ⟨finish, ran, (at_most_three_backups sampleFileSystem _ (fun _ => Nat.zero_le _) removable
    ran 3).1⟩

theorem best_snapshot_stays_in_sampleRounds : ∃ finish : BackupSnapshotMonitor,
    run (process sampleFileSystem none) sampleRounds (start emptyBackupDir) = .ok finish ∧
      ∃ path ∈ finish.backupDir.files, (finish.backupDir.copyOf path).isWhole = true ∧
        ∃ reached, SnapshotInfo.fromPath path = some reached ∧ reached.epoch = 3 ∧
          1296050 ≤ reached.endSlot := by
  obtain ⟨finish, ran⟩ := exists_sampleRounds none (by rintro _ ⟨⟩)
  have read : (SnapshotInfo.fromPath sampleSnapshot).any (·.endSlot == 1296050) = true := by
    decide +kernel
  obtain ⟨snap, parsed, reached⟩ := (Option.any_eq_true _ _).mp read
  have endSlot : snap.endSlot = 1296050 := beq_iff_eq.mp reached
  have inEpoch : snap.epoch = 3 := by
    rw [SnapshotInfo.epoch, endSlot]
    rfl
  have offers : Offers (sampleTick {sampleSnapshot} .copied) snap := by
    refine ⟨_, _, sampleTick_targets none _ _,
      .inr ⟨⟨_, Finset.mem_singleton_self _, parsed⟩, ?_, inEpoch⟩⟩
    rw [endSlot]
    norm_num
  have recent : ∀ later, .tick later ∈ [MonitorEvent.unreachable,
      .tick (sampleTick {laterSnapshot} .unverified)] → ∀ lastTargetSlot thisTargetSlot,
        getTargetSlots none later.epochInfo = .ok (lastTargetSlot, thisTargetSlot) →
          snap.epoch + 2 ≠ thisTargetSlot / defaultSlotsPerEpoch := by
    intro later member lastTargetSlot thisTargetSlot targets
    obtain ⟨snapshotsDir, copy, rfl, -⟩ := mem_sampleRounds (List.mem_cons_of_mem _ member)
    have sees := (sampleTick_targets none snapshotsDir copy).symm.trans targets
    obtain ⟨-, rfl⟩ := Prod.mk.inj (Except.ok.inj sees)
    rw [inEpoch]
    norm_num [defaultSlotsPerEpoch]
  have leaves : ∀ other, .tick other ∈ sampleRounds → ∀ look ∈ other.looks,
      LeavesOnly Copy.isWhole (AsLate snap) look := by
    intro other member
    obtain ⟨snapshotsDir, copy, rfl, whole⟩ := mem_sampleRounds member
    exact Tick.forall_mem_looks.mpr ⟨fun _ _ _ _ _ => whole, fun _ _ _ _ _ => whole⟩
  obtain ⟨path, member, whole, last, parsedLast, inSame, later⟩ :=
    best_snapshot_stays sampleFileSystem []
      (Tick.forall_mem_looks.mpr ⟨fun _ => rfl, fun _ => rfl⟩) offers recent
      (fun _ member => absurd member (Finset.notMem_empty _)) leaves ran
  exact ⟨finish, ran, path, member, whole, last, parsedLast, inSame.trans inEpoch, endSlot ▸ later⟩

end BackupSnapshotMonitor

end TipRouter
