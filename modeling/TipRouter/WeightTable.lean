import TipRouter.PreciseNumber
import TipRouter.StakeWeights

/-! The weight table, `core/src/weight_table.rs`: a copy of the vault registry
with one weight entry for each supported mint. An entry without a mint carries
the default key, and so does every lookup that is given that key. -/
namespace TipRouter
open Runs

/-! ## The entries of the vault registry -/

structure StMintEntry where
  stMint : Pubkey
  ncnFeeGroup : NcnFeeGroup
  rewardMultiplierBps : ℕ
  switchboardFeed : Pubkey
  noFeedWeight : ℕ
  deriving DecidableEq

namespace StMintEntry

def default : StMintEntry := ⟨.default, .default, 0, .default, 0⟩

def isEmpty (self : StMintEntry) : Bool := self.stMint == .default

end StMintEntry

structure VaultEntry where
  vault : Pubkey
  stMint : Pubkey
  vaultIndex : ℕ
  slotRegistered : ℕ
  deriving DecidableEq

namespace VaultEntry

def emptyVaultIndex : ℕ := u64Max

def emptySlotRegistered : ℕ := u64Max

def default : VaultEntry := ⟨.default, .default, emptyVaultIndex, emptySlotRegistered⟩

def isEmpty (self : VaultEntry) : Bool := self.slotRegistered == u64Max

end VaultEntry

/-- The two lists of `VaultRegistry`. -/
structure VaultRegistry where
  stMintList : Vector StMintEntry maxStMints
  vaultList : Vector VaultEntry maxVaults
  deriving DecidableEq

namespace VaultRegistry

def vaultCount (self : VaultRegistry) : ℕ := Slots.count (fun m => !m.isEmpty) self.vaultList

def stMintCount (self : VaultRegistry) : ℕ := Slots.count (fun m => !m.isEmpty) self.stMintList

end VaultRegistry

/-! ## Weight entries -/

structure WeightEntry where
  stMintEntry : StMintEntry
  weight : ℕ
  slotSet : ℕ
  slotUpdated : ℕ
  deriving DecidableEq

namespace WeightEntry

def new (mintEntry : StMintEntry) : WeightEntry := ⟨mintEntry, 0, 0, 0⟩

def default : WeightEntry := new .default

def stMint (self : WeightEntry) : Pubkey := self.stMintEntry.stMint

/-- Empty entry, no mint. -/
def isEmpty (self : WeightEntry) : Bool := self.stMintEntry.isEmpty

def isSet (self : WeightEntry) : Bool := decide (0 < self.slotSet)

def setWeight (self : WeightEntry) (weight currentSlot : ℕ) : WeightEntry :=
  { self with
    weight := weight
    slotSet := if self.slotSet = 0 then currentSlot else self.slotSet
    slotUpdated := currentSlot }

end WeightEntry

/-! ## The table -/

structure WeightTable where
  ncn : Pubkey
  epoch : ℕ
  slotCreated : ℕ
  vaultCount : ℕ
  bump : ℕ
  vaultRegistry : Vector VaultEntry maxVaults
  table : Vector WeightEntry maxStMints
  deriving DecidableEq

namespace WeightTable

def mintCount (self : WeightTable) : ℕ := Slots.count (fun entry => !entry.isEmpty) self.table

def weightCount (self : WeightTable) : ℕ := Slots.count WeightEntry.isSet self.table

/-- The same count as `mint_count`, under the name the instructions use. -/
def stMintCount (self : WeightTable) : ℕ := Slots.count (fun entry => !entry.isEmpty) self.table

def vaultEntryCount (self : WeightTable) : ℕ :=
  Slots.count (fun entry => !entry.isEmpty) self.vaultRegistry

def vaultRegistryInitialized (self : WeightTable) : Bool :=
  self.vaultCount == self.vaultEntryCount

def tableInitialized (self : WeightTable) : Bool := decide (0 < self.mintCount)

def finalized (self : WeightTable) : Bool :=
  self.vaultRegistryInitialized && self.tableInitialized && self.mintCount == self.weightCount

def checkTableInitialized (self : WeightTable) : Except TipRouterError Unit :=
  if !self.tableInitialized then .error .tableNotInitialized else .ok ()

def checkRegistryInitialized (self : WeightTable) : Except TipRouterError Unit :=
  if !self.vaultRegistryInitialized then .error .registryNotInitialized else .ok ()

def setVaultEntries (self : WeightTable) (vaultEntries : Vector VaultEntry maxVaults) :
    Except TipRouterError WeightTable :=
  if self.vaultRegistryInitialized then .error .weightTableAlreadyInitialized
  else do
    let self := { self with vaultRegistry := vaultEntries }
    self.checkRegistryInitialized
    return self

def setMintEntries (self : WeightTable) (mintEntries : Vector StMintEntry maxStMints) :
    Except TipRouterError WeightTable :=
  if self.tableInitialized then .error .weightTableAlreadyInitialized
  else do
    let self := { self with table := mintEntries.map WeightEntry.new }
    self.checkTableInitialized
    return self

/-- `WeightTable::initialize`, which writes every field before it copies the
registry. -/
def initializeTable (ncn : Pubkey) (ncnEpoch slotCreated vaultCount bump : ℕ)
    (vaultEntries : Vector VaultEntry maxVaults) (mintEntries : Vector StMintEntry maxStMints) :
    Except TipRouterError WeightTable := do
  let self : WeightTable :=
    { ncn := ncn
      epoch := ncnEpoch
      slotCreated := slotCreated
      vaultCount := vaultCount
      bump := bump
      vaultRegistry := Vector.replicate maxVaults .default
      table := Vector.replicate maxStMints .default }
  let self ← self.setVaultEntries vaultEntries
  self.setMintEntries mintEntries

/-- The first entry with the mint, which `set_weight` and the lookups find. -/
def findEntry (self : WeightTable) (mint : Pubkey) : Option (Fin maxStMints) :=
  Slots.first (fun entry => decide (entry.stMint = mint)) self.table

def setWeight (self : WeightTable) (mint : Pubkey) (weight currentSlot : ℕ) :
    Except TipRouterError WeightTable :=
  match self.findEntry mint with
  | none => .error .invalidMintForWeightTable
  | some index =>
    .ok { self with table := self.table.put index (self.table[index].setWeight weight currentSlot) }

def getWeightEntry (self : WeightTable) (mint : Pubkey) : Except TipRouterError WeightEntry :=
  match self.findEntry mint with
  | none => .error .invalidMintForWeightTable
  | some index => .ok self.table[index]

def getWeight (self : WeightTable) (mint : Pubkey) : Except TipRouterError ℕ :=
  match self.findEntry mint with
  | none => .error .invalidMintForWeightTable
  | some index => .ok self.table[index].weight

def checkRegistryForVault (self : WeightTable) (vaultIndex : ℕ) : Except TipRouterError Unit :=
  if vaultIndex = VaultEntry.emptyVaultIndex then .error .vaultNotInRegistry
  else if (Slots.first (fun entry => decide (entry.vaultIndex = vaultIndex))
      self.vaultRegistry).isNone then .error .vaultNotInRegistry
  else .ok ()

/-! ## What the operations do -/

variable {table next : WeightTable}

theorem isEmpty_eq_false_iff {entry : WeightEntry} :
    entry.isEmpty = false ↔ entry.stMint ≠ .default := beq_eq_false_iff_ne

theorem finalized_eq_true_iff :
    table.finalized = true ↔ table.vaultCount = table.vaultEntryCount ∧ 0 < table.mintCount ∧
      table.mintCount = table.weightCount := by
  simp [finalized, vaultRegistryInitialized, tableInitialized, and_assoc]

theorem setVaultEntries_eq_ok {vaultEntries : Vector VaultEntry maxVaults}
    (set : table.setVaultEntries vaultEntries = .ok next) :
    table.vaultRegistryInitialized = false ∧ next.vaultRegistryInitialized = true ∧
      next = { table with vaultRegistry := vaultEntries } := by
  unfold setVaultEntries checkRegistryInitialized at set
  split at set
  · cases set
  rename_i fresh
  obtain ⟨_, checked, same⟩ := bind_eq_ok.mp set
  cases same
  split at checked
  · cases checked
  rename_i counted
  exact ⟨by simpa using fresh, by simpa using counted, rfl⟩

theorem setMintEntries_eq_ok {mintEntries : Vector StMintEntry maxStMints}
    (set : table.setMintEntries mintEntries = .ok next) :
    next.tableInitialized = true ∧ next = { table with table := mintEntries.map WeightEntry.new } := by
  unfold setMintEntries checkTableInitialized at set
  split at set
  · cases set
  obtain ⟨_, checked, same⟩ := bind_eq_ok.mp set
  cases same
  split at checked
  · cases checked
  rename_i occupied
  exact ⟨by simpa using occupied, rfl⟩

/-- A table that could be initialised has a vault, a mint and no weight yet. -/
theorem initializeTable_eq_ok {ncn : Pubkey} {ncnEpoch slotCreated vaultCount bump : ℕ}
    {vaultEntries : Vector VaultEntry maxVaults} {mintEntries : Vector StMintEntry maxStMints}
    (initialized : initializeTable ncn ncnEpoch slotCreated vaultCount bump vaultEntries
      mintEntries = .ok table) :
    table.vaultCount = table.vaultEntryCount ∧ 0 < table.vaultCount ∧ 0 < table.mintCount ∧
      table.weightCount = 0 ∧ table.table = mintEntries.map WeightEntry.new := by
  obtain ⟨vaulted, vaults, mints⟩ := bind_eq_ok.mp initialized
  obtain ⟨fresh, counted, rfl⟩ := setVaultEntries_eq_ok vaults
  obtain ⟨occupied, rfl⟩ := setMintEntries_eq_ok mints
  have noVaults : Slots.count (fun entry : VaultEntry => !entry.isEmpty)
      (Vector.replicate maxVaults .default) = 0 := Slots.total_replicate_zero rfl
  refine ⟨beq_iff_eq.mp counted, Nat.pos_of_ne_zero fun empty => ?_, of_decide_eq_true occupied,
    ?_, rfl⟩
  · simp only [vaultRegistryInitialized, vaultEntryCount, noVaults, beq_eq_false_iff_ne] at fresh
    exact fresh empty
  · rw [weightCount, Slots.count_map]
    exact Slots.total_eq_zero_iff.mpr fun i => rfl

theorem findEntry_eq_some_iff {mint : Pubkey} {index : Fin maxStMints} :
    table.findEntry mint = some index ↔
      table.table[index].stMint = mint ∧ ∀ j < index, table.table[j].stMint ≠ mint := by
  simp only [findEntry, Slots.first_eq_some_iff, decide_eq_true_eq, decide_eq_false_iff_not, ne_eq]

/-- Where a mint is found depends on the mints of the entries alone. -/
theorem findEntry_congr (same : ∀ i : Fin maxStMints, next.table[i].stMint = table.table[i].stMint)
    (mint : Pubkey) : next.findEntry mint = table.findEntry mint := by
  ext index
  simp only [findEntry_eq_some_iff, same]

/-- Setting a weight writes the first entry with the mint. -/
theorem setWeight_eq_ok {mint : Pubkey} {weight currentSlot : ℕ}
    (set : table.setWeight mint weight currentSlot = .ok next) :
    ∃ index : Fin maxStMints, table.findEntry mint = some index ∧
      next = { table with
        table := table.table.put index (table.table[index].setWeight weight currentSlot) } := by
  unfold setWeight at set
  split at set
  · cases set
  rename_i index found
  cases set
  exact ⟨index, found, rfl⟩

end WeightTable

end TipRouter
