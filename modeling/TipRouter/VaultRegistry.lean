import TipRouter.KeyedSlots
import TipRouter.WeightTable

/-! Filling the vault registry, `core/src/vault_registry.rs` and the three
instructions that change it. A vault entry is looked up by its vault, placed by
its mint and counted by its slot; every one of these tells used from unused
entries alike, because no instruction stores one without the others. -/
namespace TipRouter
open Runs

namespace StMintEntry

def new (stMint : Pubkey) (ncnFeeGroup : NcnFeeGroup) (rewardMultiplierBps : ℕ)
    (switchboardFeed : Pubkey) (noFeedWeight : ℕ) : StMintEntry :=
  ⟨stMint, ncnFeeGroup, rewardMultiplierBps, switchboardFeed, noFeedWeight⟩

end StMintEntry

namespace VaultEntry

def new (vault stMint : Pubkey) (vaultIndex slotRegistered : ℕ) : VaultEntry :=
  ⟨vault, stMint, vaultIndex, slotRegistered⟩

end VaultEntry

namespace VaultRegistry

/-- The lists that `VaultRegistry::initialize` writes. -/
def initialized : VaultRegistry where
  stMintList := Vector.replicate maxStMints .default
  vaultList := Vector.replicate maxVaults .default

/-- The first entry with a mint, which is the first empty one for the default mint. -/
def findMint (self : VaultRegistry) (stMint : Pubkey) : Option (Fin maxStMints) :=
  Slots.first (fun m => decide (m.stMint = stMint)) self.stMintList

def hasStMint (self : VaultRegistry) (mint : Pubkey) : Bool := (self.findMint mint).isSome

def checkStMintEntry (entry : StMintEntry) : Except TipRouterError Unit :=
  if entry.noFeedWeight = 0 ∧ entry.switchboardFeed = .default then
    .error .noFeedWeightOrSwitchboardFeed
  else .ok ()

def registerStMint (self : VaultRegistry) (stMint : Pubkey) (ncnFeeGroup : NcnFeeGroup)
    (rewardMultiplierBps : ℕ) (switchboardFeed : Pubkey) (noFeedWeight : ℕ) :
    Except TipRouterError VaultRegistry :=
  if (self.findMint stMint).isSome then .error .mintInTable
  else
    match self.findMint StMintEntry.default.stMint with
    | none => .error .vaultRegistryListFull
    | some i => do
      let newMintEntry := StMintEntry.new stMint ncnFeeGroup rewardMultiplierBps switchboardFeed
        noFeedWeight
      checkStMintEntry newMintEntry
      return { self with stMintList := self.stMintList.put i newMintEntry }

def setStMint (self : VaultRegistry) (stMint : Pubkey) (ncnFeeGroup rewardMultiplierBps : Option ℕ)
    (switchboardFeed : Option Pubkey) (noFeedWeight : Option ℕ) :
    Except TipRouterError VaultRegistry :=
  match self.findMint stMint with
  | none => .error .mintEntryNotFound
  | some i => do
    let mintEntry := self.stMintList[i]
    let updatedMintEntry ←
      (match ncnFeeGroup with
      | some ncnFeeGroup => do
        let ncnFeeGroup ← NcnFeeGroup.tryFrom ncnFeeGroup
        return { mintEntry with ncnFeeGroup := ncnFeeGroup }
      | none => .ok mintEntry : Except TipRouterError StMintEntry)
    let updatedMintEntry := { updatedMintEntry with
      rewardMultiplierBps := rewardMultiplierBps.getD updatedMintEntry.rewardMultiplierBps
      switchboardFeed := switchboardFeed.getD updatedMintEntry.switchboardFeed
      noFeedWeight := noFeedWeight.getD updatedMintEntry.noFeedWeight }
    checkStMintEntry updatedMintEntry
    return { self with stMintList := self.stMintList.put i updatedMintEntry }

/-- A vault that is in the list already is left alone. -/
def registerVault (self : VaultRegistry) (vault stMint : Pubkey) (vaultIndex currentSlot : ℕ) :
    Except TipRouterError VaultRegistry :=
  if (Slots.first (fun m => decide (m.vault = vault)) self.vaultList).isSome then .ok self
  else
    match Slots.first (fun m => decide (m.stMint = VaultEntry.default.stMint)) self.vaultList with
    | none => .error .vaultRegistryListFull
    | some i =>
      .ok { self with
        vaultList := self.vaultList.put i (.new vault stMint vaultIndex currentSlot) }

end VaultRegistry

/-! ## The instructions -/

/-- The accounts of the restaking and vault programs are data of the instruction. -/
inductive RegistryInstruction where
  | adminRegisterStMint (ncnProgramAdmin admin stMint : Pubkey)
      (ncnFeeGroup rewardMultiplierBps : ℕ) (switchboardFeed : Option Pubkey)
      (noFeedWeight : Option ℕ)
  | adminSetStMint (ncnProgramAdmin admin stMint : Pubkey)
      (ncnFeeGroup rewardMultiplierBps : Option ℕ) (switchboardFeed : Option Pubkey)
      (noFeedWeight : Option ℕ)
  | registerVault (vault supportedMint : Pubkey) (vaultIndex slot : ℕ)

/-- Mints and vaults are accounts of other programs, which the all-zero key is
not, and the clock has not run out. -/
def RegistryInstruction.Proper : RegistryInstruction → Prop
  | .adminRegisterStMint _ _ stMint _ _ _ _ => stMint ≠ .default
  | .adminSetStMint _ _ stMint _ _ _ _ => stMint ≠ .default
  | .registerVault vault supportedMint _ slot =>
    vault ≠ .default ∧ supportedMint ≠ .default ∧ slot < u64Max

namespace VaultRegistry

def processAdminRegisterStMint (self : VaultRegistry) (ncnProgramAdmin admin stMint : Pubkey)
    (ncnFeeGroup rewardMultiplierBps : ℕ) (switchboardFeed : Option Pubkey)
    (noFeedWeight : Option ℕ) : Except InstructionError VaultRegistry :=
  if ncnProgramAdmin ≠ admin then .error .invalidAccountData
  else do
    let ncnFeeGroup ← NcnFeeGroup.tryFrom ncnFeeGroup
    let switchboardFeed := switchboardFeed.getD .default
    let noFeedWeight := noFeedWeight.getD 0
    if switchboardFeed = .default ∧ noFeedWeight = 0 then .error .invalidArgument
    else self.registerStMint stMint ncnFeeGroup rewardMultiplierBps switchboardFeed noFeedWeight

def processAdminSetStMint (self : VaultRegistry) (ncnProgramAdmin admin stMint : Pubkey)
    (ncnFeeGroup rewardMultiplierBps : Option ℕ) (switchboardFeed : Option Pubkey)
    (noFeedWeight : Option ℕ) : Except InstructionError VaultRegistry :=
  if ncnProgramAdmin ≠ admin then .error .invalidAccountData
  else self.setStMint stMint ncnFeeGroup rewardMultiplierBps switchboardFeed noFeedWeight

def processRegisterVault (self : VaultRegistry) (vault supportedMint : Pubkey)
    (vaultIndex slot : ℕ) : Except InstructionError VaultRegistry :=
  if !self.hasStMint supportedMint then .error .invalidAccountData
  else self.registerVault vault supportedMint vaultIndex slot

def process (self : VaultRegistry) : RegistryInstruction → Except InstructionError VaultRegistry
  | .adminRegisterStMint ncnProgramAdmin admin stMint ncnFeeGroup rewardMultiplierBps
      switchboardFeed noFeedWeight =>
    self.processAdminRegisterStMint ncnProgramAdmin admin stMint ncnFeeGroup rewardMultiplierBps
      switchboardFeed noFeedWeight
  | .adminSetStMint ncnProgramAdmin admin stMint ncnFeeGroup rewardMultiplierBps switchboardFeed
      noFeedWeight =>
    self.processAdminSetStMint ncnProgramAdmin admin stMint ncnFeeGroup rewardMultiplierBps
      switchboardFeed noFeedWeight
  | .registerVault vault supportedMint vaultIndex slot =>
    self.processRegisterVault vault supportedMint vaultIndex slot

end VaultRegistry

/-! ## What the operations write -/

namespace VaultRegistry
variable {registry next : VaultRegistry}

theorem checkStMintEntry_eq_ok_iff {entry : StMintEntry} :
    checkStMintEntry entry = .ok () ↔ entry.switchboardFeed ≠ .default ∨ entry.noFeedWeight ≠ 0 := by
  unfold checkStMintEntry
  by_cases weightless : entry.noFeedWeight = 0 <;>
    by_cases feedless : entry.switchboardFeed = .default <;> simp [weightless, feedless]

theorem findMint_eq_some {stMint : Pubkey} {i : Fin maxStMints}
    (found : registry.findMint stMint = some i) : registry.stMintList[i].stMint = stMint :=
  of_decide_eq_true (Slots.first_eq_some_iff.mp found).1

theorem ne_of_findMint_none {stMint : Pubkey}
    (absent : ¬ (registry.findMint stMint).isSome) (j : Fin maxStMints) :
    registry.stMintList[j].stMint ≠ stMint :=
  of_decide_eq_false
    (Slots.first_eq_none_iff.mp (Option.not_isSome_iff_eq_none.mp absent) j)

/-- A registration writes a priced entry where the first one without a mint is. -/
theorem registerStMint_eq_ok {stMint switchboardFeed : Pubkey} {ncnFeeGroup : NcnFeeGroup}
    {rewardMultiplierBps noFeedWeight : ℕ}
    (registered : registry.registerStMint stMint ncnFeeGroup rewardMultiplierBps switchboardFeed
      noFeedWeight = .ok next) :
    (∀ j : Fin maxStMints, registry.stMintList[j].stMint ≠ stMint) ∧
      (switchboardFeed ≠ .default ∨ noFeedWeight ≠ 0) ∧
      ∃ i, registry.findMint StMintEntry.default.stMint = some i ∧
        next = { registry with
          stMintList := registry.stMintList.put i
            (.new stMint ncnFeeGroup rewardMultiplierBps switchboardFeed noFeedWeight) } := by
  unfold registerStMint at registered
  split at registered
  · cases registered
  rename_i absent
  split at registered
  · cases registered
  rename_i i room
  obtain ⟨_, checked, same⟩ := bind_eq_ok.mp registered
  cases same
  exact ⟨ne_of_findMint_none absent, checkStMintEntry_eq_ok_iff.mp checked,
    i, room, rfl⟩

/-- An update writes a priced entry over the one with the mint. -/
theorem setStMint_eq_ok {stMint : Pubkey} {ncnFeeGroup rewardMultiplierBps : Option ℕ}
    {switchboardFeed : Option Pubkey} {noFeedWeight : Option ℕ}
    (set : registry.setStMint stMint ncnFeeGroup rewardMultiplierBps switchboardFeed noFeedWeight =
      .ok next) :
    ∃ i entry, registry.stMintList[i].stMint = stMint ∧ entry.stMint = stMint ∧
      (entry.switchboardFeed ≠ .default ∨ entry.noFeedWeight ≠ 0) ∧
      (entry.ncnFeeGroup = registry.stMintList[i].ncnFeeGroup ∨
        ∃ index, entry.ncnFeeGroup = .ofIndex index) ∧
      next = { registry with stMintList := registry.stMintList.put i entry } := by
  unfold setStMint at set
  split at set
  · cases set
  rename_i i found
  have here := findMint_eq_some found
  obtain ⟨updated, grouped, set⟩ := bind_eq_ok.mp set
  obtain ⟨_, checked, same⟩ := bind_eq_ok.mp set
  cases same
  refine ⟨i, _, here, ?_, checkStMintEntry_eq_ok_iff.mp checked, ?_, rfl⟩
  · cases ncnFeeGroup with
    | none =>
      cases grouped
      exact here
    | some ncnFeeGroup =>
      obtain ⟨group, -, same⟩ := bind_eq_ok.mp grouped
      cases same
      exact here
  · cases ncnFeeGroup with
    | none =>
      cases grouped
      exact .inl rfl
    | some ncnFeeGroup =>
      obtain ⟨group, parsed, same⟩ := bind_eq_ok.mp grouped
      cases same
      exact .inr (NcnFeeGroup.tryFrom_eq_ok parsed)

/-- A vault that is new to the list is written where the first entry without a
mint is. -/
theorem registerVault_eq_ok {vault stMint : Pubkey} {vaultIndex currentSlot : ℕ}
    (registered : registry.registerVault vault stMint vaultIndex currentSlot = .ok next) :
    next = registry ∨ (∀ j : Fin maxVaults, registry.vaultList[j].vault ≠ vault) ∧
      ∃ i, Slots.first (fun m => decide (m.stMint = VaultEntry.default.stMint)) registry.vaultList =
          some i ∧
        next = { registry with
          vaultList := registry.vaultList.put i (.new vault stMint vaultIndex currentSlot) } := by
  unfold registerVault at registered
  split at registered
  · cases registered
    exact .inl rfl
  rename_i absent
  split at registered
  · cases registered
  rename_i i room
  cases registered
  refine .inr ⟨fun j => ?_, i, room, rfl⟩
  exact of_decide_eq_false
    (Slots.first_eq_none_iff.mp (Option.not_isSome_iff_eq_none.mp absent) j)

end VaultRegistry

/-! ## What the registry represents -/

/-- A mint can be weighed and rewarded. -/
structure StMintEntry.Usable (entry : StMintEntry) : Prop where
  group : ∃ index, entry.ncnFeeGroup = .ofIndex index
  priced : entry.switchboardFeed ≠ .default ∨ entry.noFeedWeight ≠ 0

/-- The mints and the vaults registered in a history fill their lists from the
front, each once, and every vault's mint is one of the mints. -/
structure VaultRegistry.Represents (registry : VaultRegistry) (history : List RegistryInstruction)
    (mints vaults : ℕ) : Prop where
  mintList : Slots.Filled StMintEntry.stMint .default mints registry.stMintList
  usable : ∀ i : Fin maxStMints, i < mints → registry.stMintList[i].Usable
  vaultList : Slots.Filled VaultEntry.vault .default vaults registry.vaultList
  origin : ∀ i : Fin maxVaults, i < vaults →
    .registerVault registry.vaultList[i].vault registry.vaultList[i].stMint
      registry.vaultList[i].vaultIndex registry.vaultList[i].slotRegistered ∈ history
  supported : ∀ i : Fin maxVaults, i < vaults →
    ∃ j : Fin maxStMints, j < mints ∧
      registry.stMintList[j].stMint = registry.vaultList[i].stMint

namespace VaultRegistry.Represents
variable {registry next : VaultRegistry} {history later : List RegistryInstruction}
variable {mints vaults : ℕ}

theorem start : initialized.Represents [] 0 0 where
  mintList := .replicate
  usable := fun _ before => absurd before (Nat.not_lt_zero _)
  vaultList := .replicate
  origin := fun _ before => absurd before (Nat.not_lt_zero _)
  supported := fun _ before => absurd before (Nat.not_lt_zero _)

/-- What a proper history says of a registered vault. -/
theorem proper (represents : registry.Represents history mints vaults)
    (properly : ∀ instruction ∈ history, instruction.Proper) {i : Fin maxVaults}
    (before : i < vaults) :
    registry.vaultList[i].stMint ≠ .default ∧ registry.vaultList[i].slotRegistered < u64Max := by
  obtain ⟨-, stMint, slot⟩ := properly _ (represents.origin i before)
  exact ⟨stMint, slot⟩

theorem mono (represents : registry.Represents history mints vaults) :
    registry.Represents (history ++ later) mints vaults :=
  { represents with
    origin := fun i before => List.mem_append_left _ (represents.origin i before) }

/-- One more mint. -/
theorem registerStMint (represents : registry.Represents history mints vaults)
    {stMint switchboardFeed : Pubkey} {group : Fin feeGroupCount}
    {rewardMultiplierBps noFeedWeight : ℕ} (proper : stMint ≠ .default)
    (registered : registry.registerStMint stMint (.ofIndex group) rewardMultiplierBps
      switchboardFeed noFeedWeight = .ok next) :
    next.Represents history (mints + 1) vaults := by
  obtain ⟨fresh, priced, i, room, rfl⟩ := registerStMint_eq_ok registered
  have last : i = mints := by
    refine represents.mintList.first_eq (decide_eq_true rfl) (fun j before => ?_) room
    exact decide_eq_false (represents.mintList.used j before)
  have elsewhere : ∀ (entry : StMintEntry) (j : Fin maxStMints), j < mints →
      (registry.stMintList.put i entry)[j] = registry.stMintList[j] := by
    intro entry j before
    exact Slots.getElem_put_ne _ _ fun here => by subst here; omega
  refine ⟨represents.mintList.push last proper fresh, fun j before => ?_, represents.vaultList,
    represents.origin, fun k before => ?_⟩
  · rcases Nat.lt_succ_iff_lt_or_eq.mp before with earlier | here
    · rw [elsewhere _ j earlier]
      exact represents.usable j earlier
    · have same : i = j := Fin.ext (last.trans here.symm)
      rw [← same, Slots.getElem_put_self]
      exact ⟨⟨group, rfl⟩, priced⟩
  · obtain ⟨j, inside, isMint⟩ := represents.supported k before
    refine ⟨j, Nat.lt_succ_of_lt inside, ?_⟩
    rw [elsewhere _ j inside]
    exact isMint

/-- New data for a mint. -/
theorem setStMint (represents : registry.Represents history mints vaults) {stMint : Pubkey}
    {ncnFeeGroup rewardMultiplierBps : Option ℕ} {switchboardFeed : Option Pubkey}
    {noFeedWeight : Option ℕ} (proper : stMint ≠ .default)
    (set : registry.setStMint stMint ncnFeeGroup rewardMultiplierBps switchboardFeed noFeedWeight =
      .ok next) : next.Represents history mints vaults := by
  obtain ⟨i, entry, here, sameMint, priced, grouped, rfl⟩ := setStMint_eq_ok set
  have inside : i < mints := represents.mintList.used_iff.mp (by rwa [here])
  refine ⟨represents.mintList.rewrite (sameMint.trans here.symm) inside, fun j before => ?_,
    represents.vaultList, represents.origin, fun k before => ?_⟩
  · by_cases same : i = j
    · rw [← same, Slots.getElem_put_self]
      refine ⟨?_, priced⟩
      rcases grouped with kept | valid
      · rw [kept]
        exact (represents.usable i inside).group
      · exact valid
    · rw [Slots.getElem_put_ne _ _ same]
      exact represents.usable j before
  · obtain ⟨j, member, isMint⟩ := represents.supported k before
    refine ⟨j, member, ?_⟩
    by_cases same : i = j
    · subst same
      rw [Slots.getElem_put_self, sameMint, ← here]
      exact isMint
    · rw [Slots.getElem_put_ne _ _ same]
      exact isMint

/-- One more vault, unless it is known. -/
theorem registerVault (represents : registry.Represents history mints vaults)
    (properly : ∀ instruction ∈ history, instruction.Proper) {vault stMint : Pubkey}
    {vaultIndex slot : ℕ} (proper : vault ≠ .default) (mintProper : stMint ≠ .default)
    (known : registry.hasStMint stMint = true)
    (registered : registry.registerVault vault stMint vaultIndex slot = .ok next) :
    ∃ vaults', next.Represents (history ++ [.registerVault vault stMint vaultIndex slot]) mints
      vaults' := by
  rcases registerVault_eq_ok registered with rfl | ⟨fresh, i, room, rfl⟩
  · exact ⟨vaults, represents.mono⟩
  have last : i = vaults := by
    refine represents.vaultList.first_eq (decide_eq_true rfl) (fun j before => ?_) room
    exact decide_eq_false (represents.proper properly before).1
  have elsewhere : ∀ (entry : VaultEntry) (j : Fin maxVaults), j < vaults →
      (registry.vaultList.put i entry)[j] = registry.vaultList[j] := by
    intro entry j before
    exact Slots.getElem_put_ne _ _ fun here => by subst here; omega
  refine ⟨vaults + 1, represents.mintList, represents.usable,
    represents.vaultList.push last proper fresh, fun j before => ?_, fun j before => ?_⟩
  · rcases Nat.lt_succ_iff_lt_or_eq.mp before with earlier | here
    · rw [elsewhere _ j earlier]
      exact List.mem_append_left _ (represents.origin j earlier)
    · have same : i = j := Fin.ext (last.trans here.symm)
      rw [← same, Slots.getElem_put_self]
      exact List.mem_append_right _ (List.mem_singleton_self _)
  · rcases Nat.lt_succ_iff_lt_or_eq.mp before with earlier | here
    · rw [elsewhere _ j earlier]
      exact represents.supported j earlier
    · have same : i = j := Fin.ext (last.trans here.symm)
      rw [← same, Slots.getElem_put_self]
      obtain ⟨k, found⟩ := Option.isSome_iff_exists.mp known
      have isMint := findMint_eq_some found
      exact ⟨k, represents.mintList.used_iff.mp (by rwa [isMint]), isMint⟩

/-- What one instruction does. -/
theorem process (represents : registry.Represents history mints vaults)
    (properly : ∀ instruction ∈ history, instruction.Proper) {instruction : RegistryInstruction}
    (proper : instruction.Proper) (processed : registry.process instruction = .ok next) :
    ∃ mints' vaults', next.Represents (history ++ [instruction]) mints' vaults' := by
  cases instruction with
  | adminRegisterStMint ncnProgramAdmin admin stMint ncnFeeGroup multiplier feed weight =>
    rw [VaultRegistry.process, processAdminRegisterStMint] at processed
    split at processed
    · cases processed
    obtain ⟨group, parsed, processed⟩ := bind_eq_ok.mp processed
    obtain ⟨index, rfl⟩ := NcnFeeGroup.tryFrom_eq_ok (lift_eq_ok_iff.mp parsed)
    dsimp only at processed
    split at processed
    · cases processed
    exact ⟨mints + 1, vaults,
      (represents.registerStMint proper (lift_eq_ok_iff.mp processed)).mono⟩
  | adminSetStMint ncnProgramAdmin admin stMint ncnFeeGroup multiplier feed weight =>
    rw [VaultRegistry.process, processAdminSetStMint] at processed
    split at processed
    · cases processed
    exact ⟨mints, vaults, (represents.setStMint proper (lift_eq_ok_iff.mp processed)).mono⟩
  | registerVault vault supportedMint vaultIndex slot =>
    rw [VaultRegistry.process, processRegisterVault] at processed
    split at processed
    · cases processed
    rename_i known
    obtain ⟨vaultProper, mintProper, -⟩ := proper
    obtain ⟨vaults', after⟩ := represents.registerVault properly vaultProper mintProper
      (by simpa using known) (lift_eq_ok_iff.mp processed)
    exact ⟨mints, vaults', after⟩

theorem run (properly : ∀ instruction ∈ history, instruction.Proper)
    (ran : run VaultRegistry.process history initialized = .ok registry) :
    ∃ mints vaults, registry.Represents history mints vaults := by
  refine run_split_induction
    (motive := fun past registry => ∃ mints vaults,
      VaultRegistry.Represents registry past mints vaults) ⟨0, 0, start⟩ ?_ ran
  rintro past middle instruction rest next split - ⟨mints, vaults, represents⟩ processed
  have before : ∀ other ∈ past, other.Proper :=
    fun other member => properly other (by simp [split, member])
  exact represents.process before (properly instruction (by simp [split])) processed

/-- The two counts are the lengths of the two fronts. -/
theorem counts (represents : registry.Represents history mints vaults)
    (properly : ∀ instruction ∈ history, instruction.Proper) :
    registry.stMintCount = mints ∧ registry.vaultCount = vaults := by
  constructor
  · refine represents.mintList.count_eq fun i => ?_
    rw [← represents.mintList.used_iff, StMintEntry.isEmpty, Bool.not_eq_true', beq_eq_false_iff_ne]
    rfl
  · refine represents.vaultList.count_eq fun i => ?_
    rw [VaultEntry.isEmpty, Bool.not_eq_true', beq_eq_false_iff_ne]
    constructor
    · intro dated
      by_contra after
      rw [represents.vaultList.unused i (Nat.le_of_not_lt after)] at dated
      exact dated rfl
    · intro before
      exact (represents.proper properly before).2.ne

end VaultRegistry.Represents

/-! ## The weight table of a registry -/

namespace WeightTable
variable {table : WeightTable}

/-- A table copies any registry with a vault and a mint that is counted rightly. -/
theorem initializeTable_ok (ncn : Pubkey) (ncnEpoch slotCreated bump : ℕ) {vaultCount : ℕ}
    {vaultEntries : Vector VaultEntry maxVaults} {mintEntries : Vector StMintEntry maxStMints}
    (counted : Slots.count (fun m => !m.isEmpty) vaultEntries = vaultCount)
    (vaults : 0 < vaultCount) (mints : 0 < Slots.count (fun m => !m.isEmpty) mintEntries) :
    ∃ table, initializeTable ncn ncnEpoch slotCreated vaultCount bump vaultEntries mintEntries =
        .ok table ∧ table.vaultRegistryInitialized = true ∧ table.tableInitialized = true ∧
      table.vaultRegistry = vaultEntries ∧ table.table = mintEntries.map WeightEntry.new := by
  have noVaults : Slots.count (fun entry : VaultEntry => !entry.isEmpty)
      (Vector.replicate maxVaults .default) = 0 := Slots.total_replicate_zero rfl
  have noMints : Slots.count (fun entry : WeightEntry => !entry.isEmpty)
      (Vector.replicate maxStMints .default) = 0 := Slots.total_replicate_zero rfl
  have fresh : (vaultCount == 0) = false := beq_eq_false_iff_ne.mpr vaults.ne'
  have copied : Slots.count (fun entry : WeightEntry => !entry.isEmpty)
      (mintEntries.map WeightEntry.new) = Slots.count (fun m => !m.isEmpty) mintEntries :=
    Slots.count_map WeightEntry.new
  refine ⟨⟨ncn, ncnEpoch, slotCreated, vaultCount, bump, vaultEntries,
    mintEntries.map WeightEntry.new⟩, ?_, ?_, ?_, rfl, rfl⟩
  · simp [initializeTable, setVaultEntries, setMintEntries, checkRegistryInitialized,
      checkTableInitialized, vaultRegistryInitialized, tableInitialized, vaultEntryCount, mintCount,
      noVaults, noMints, fresh, counted, copied, mints, pure, Except.pure]
  · simp [vaultRegistryInitialized, vaultEntryCount, counted]
  · simp [tableInitialized, mintCount, copied, mints]

theorem getWeightEntry_of_mem {mint : Pubkey} {j : Fin maxStMints}
    (here : table.table[j].stMint = mint) :
    ∃ entry, table.getWeightEntry mint = .ok entry ∧ entry.stMint = mint := by
  cases found : table.findEntry mint with
  | none => exact absurd here (of_decide_eq_false (Slots.first_eq_none_iff.mp found j))
  | some index =>
    refine ⟨table.table[index], ?_, (findEntry_eq_some_iff.mp found).1⟩
    rw [getWeightEntry, found]

theorem checkRegistryForVault_eq_ok {vaultIndex : ℕ}
    (checked : table.checkRegistryForVault vaultIndex = .ok ()) :
    vaultIndex ≠ VaultEntry.emptyVaultIndex ∧
      ∃ i : Fin maxVaults, table.vaultRegistry[i].vaultIndex = vaultIndex := by
  unfold checkRegistryForVault at checked
  split at checked
  · cases checked
  rename_i proper
  split at checked
  · cases checked
  rename_i known
  obtain ⟨i, found⟩ := Option.ne_none_iff_exists'.mp (by simpa using known)
  exact ⟨proper, i, of_decide_eq_true (Slots.first_eq_some_iff.mp found).1⟩

end WeightTable

/-- Whatever mints and vaults are registered, the lists stay sorted by use, and
the weight table made of them has a weight entry for the mint of every vault it
admits. -/
theorem vault_registry_is_complete (history : List RegistryInstruction)
    (properly : ∀ instruction ∈ history, instruction.Proper) {registry : VaultRegistry}
    (ran : run VaultRegistry.process history VaultRegistry.initialized = .ok registry) :
    ∃ mints vaults, registry.Represents history mints vaults ∧ registry.stMintCount = mints ∧
      registry.vaultCount = vaults ∧
      (0 < vaults → ∀ ncn epoch slot bump, ∃ table,
        WeightTable.initializeTable ncn epoch slot registry.vaultCount bump registry.vaultList
          registry.stMintList = .ok table ∧
        table.vaultRegistryInitialized = true ∧ table.tableInitialized = true ∧
        ∀ vaultIndex, table.checkRegistryForVault vaultIndex = .ok () →
          (∃ i : Fin maxVaults, i < vaults ∧ table.vaultRegistry[i].vaultIndex = vaultIndex) ∧
          ∀ i : Fin maxVaults, table.vaultRegistry[i].vaultIndex = vaultIndex →
            ∃ entry, table.getWeightEntry table.vaultRegistry[i].stMint = .ok entry ∧
              entry.stMint = table.vaultRegistry[i].stMint) := by
  obtain ⟨mints, vaults, represents⟩ := VaultRegistry.Represents.run properly ran
  obtain ⟨mintsCounted, vaultsCounted⟩ := represents.counts properly
  refine ⟨mints, vaults, represents, mintsCounted, vaultsCounted, ?_⟩
  intro some ncn epoch slot bump
  have supported : 0 < registry.stMintCount := by
    obtain ⟨j, inside, -⟩ :=
      represents.supported ⟨0, some.trans_le represents.vaultList.within⟩ some
    omega
  obtain ⟨table, initialized, vaultsDone, mintsDone, vaultCopy, mintCopy⟩ :=
    WeightTable.initializeTable_ok ncn epoch slot bump
      (show Slots.count (fun m => !m.isEmpty) registry.vaultList = registry.vaultCount from rfl)
      (by omega) supported
  refine ⟨table, initialized, vaultsDone, mintsDone, fun vaultIndex checked => ?_⟩
  obtain ⟨proper, here⟩ := WeightTable.checkRegistryForVault_eq_ok checked
  rw [vaultCopy] at here ⊢
  have used : ∀ i : Fin maxVaults, registry.vaultList[i].vaultIndex = vaultIndex → i < vaults := by
    intro i found
    by_contra after
    rw [represents.vaultList.unused i (Nat.le_of_not_lt after)] at found
    exact proper found.symm
  refine ⟨?_, fun i found => ?_⟩
  · obtain ⟨i, found⟩ := here
    exact ⟨i, used i found, found⟩
  · obtain ⟨j, -, isMint⟩ := represents.supported i (used i found)
    refine WeightTable.getWeightEntry_of_mem (j := j) ?_
    rw [mintCopy, ← isMint]
    simp [WeightEntry.stMint, WeightEntry.new]

/-- Two mints, one of them repriced, and a vault that is registered twice. -/
theorem vault_registry_is_complete_for_two : ∃ registry : VaultRegistry,
    registry.stMintCount = 2 ∧ registry.vaultCount = 1 ∧
      ∀ ncn epoch slot bump, ∃ table, WeightTable.initializeTable ncn epoch slot registry.vaultCount
        bump registry.vaultList registry.stMintList = .ok table := by
  let history : List RegistryInstruction := [
    .adminRegisterStMint .default .default ⟨Vector.replicate 32 1⟩ 0 0 none (some 7),
    .adminRegisterStMint .default .default ⟨Vector.replicate 32 2⟩ 1 0 none (some 9),
    .adminSetStMint .default .default ⟨Vector.replicate 32 1⟩ (some 2) none none (some 8),
    .registerVault ⟨Vector.replicate 32 3⟩ ⟨Vector.replicate 32 2⟩ 0 5,
    .registerVault ⟨Vector.replicate 32 3⟩ ⟨Vector.replicate 32 2⟩ 0 6]
  have runs : (run VaultRegistry.process history VaultRegistry.initialized).toOption.any
      (fun registry => registry.stMintCount == 2 && registry.vaultCount == 1) = true := by
    decide +kernel
  obtain ⟨registry, ran, counted⟩ := exists_of_any runs
  rw [Bool.and_eq_true, beq_iff_eq, beq_iff_eq] at counted
  have properly : ∀ instruction ∈ history, instruction.Proper := by
    simp only [history, List.forall_mem_cons, RegistryInstruction.Proper]
    refine ⟨by decide, by decide, by decide, ⟨by decide, by decide, by norm_num [u64Max]⟩,
      ⟨by decide, by decide, by norm_num [u64Max]⟩, by simp⟩
  obtain ⟨mints, vaults, -, -, isVaults, complete⟩ := vault_registry_is_complete history properly ran
  refine ⟨registry, counted.1, counted.2, fun ncn epoch slot bump => ?_⟩
  obtain ⟨table, initialized, -⟩ := complete (by omega) ncn epoch slot bump
  exact ⟨table, initialized⟩

end TipRouter
