import TipRouter.EpochState
import TipRouter.VaultRegistry

/-! Setting the weights of an epoch, `program/src/admin_set_weight.rs` and
`program/src/switchboard_set_weight.rs`. The table counts its mints and its
weights separately and is finalized when the two agree, which means that every
mint has a weight as long as no entry without a mint was given one. -/
namespace TipRouter
open Runs

/-! ## The instructions -/

/-- What the program takes from `switchboard_on_demand` and `rust_decimal`. -/
structure Switchboard where
  PullFeedAccountData : Type
  Decimal : Type
  parse : List UInt8 → Option PullFeedAccountData
  value : PullFeedAccountData → ℕ → Option Decimal
  resultSlot : PullFeedAccountData → ℕ
  checkedMul : Decimal → ℕ → Option Decimal
  round : Decimal → Decimal
  toU128 : Decimal → Option ℕ

/-- `WEIGHT_PRECISION`. -/
def weightPrecision : ℕ := 1000000000

/-- `SWITCHBOARD_MAX_STALE_SLOTS`. -/
def switchboardMaxStaleSlots : ℕ := 100

/-- A feed account as an instruction is given it. -/
structure SwitchboardFeed where
  key : Pubkey
  data : List UInt8

inductive WeightInstruction where
  | adminSetWeight (ncnWeightTableAdmin weightTableAdmin stMint : Pubkey) (weight slot : ℕ)
  | switchboardSetWeight (stMint : Pubkey) (feed : SwitchboardFeed) (slot : ℕ)

namespace WeightInstruction

def stMint : WeightInstruction → Pubkey
  | .adminSetWeight _ _ stMint _ _ => stMint
  | .switchboardSetWeight stMint _ _ => stMint

def slot : WeightInstruction → ℕ
  | .adminSetWeight _ _ _ _ slot => slot
  | .switchboardSetWeight _ _ slot => slot

end WeightInstruction

/-- The two accounts the instructions change. -/
structure Weighing where
  weightTable : WeightTable
  epochState : EpochState
  deriving DecidableEq

namespace Weighing

/-- The part of `process_realloc_weight_table` that fills the full-size table. -/
def start (epochState : EpochState) (vaultRegistry : VaultRegistry) (ncn : Pubkey)
    (epoch slot bump : ℕ) : Except TipRouterError Weighing := do
  let vaultCount := vaultRegistry.vaultCount
  let stMintCount := vaultRegistry.stMintCount
  let weightTable ← WeightTable.initializeTable ncn epoch slot vaultCount bump
    vaultRegistry.vaultList vaultRegistry.stMintList
  return ⟨weightTable, epochState.updateReallocWeightTable vaultCount stMintCount⟩

/-- The end of both instructions. -/
def setWeight (self : Weighing) (stMint : Pubkey) (weight slot : ℕ) :
    Except InstructionError Weighing := do
  self.weightTable.checkTableInitialized
  if self.weightTable.finalized then .error .invalidAccountData
  else do
    let weightTable ← self.weightTable.setWeight stMint weight slot
    return ⟨weightTable,
      self.epochState.updateSetWeight weightTable.weightCount weightTable.stMintCount⟩

/-- `process_admin_set_weight`. -/
def processAdminSetWeight (self : Weighing) (ncnWeightTableAdmin weightTableAdmin stMint : Pubkey)
    (weight slot : ℕ) : Except InstructionError Weighing :=
  if ncnWeightTableAdmin ≠ weightTableAdmin then .error (.custom .incorrectWeightTableAdmin)
  else self.setWeight stMint weight slot

/-- The weight `process_switchboard_set_weight` sets: the fixed one of a mint
without a feed, or the rounded price of its feed. -/
def switchboardWeight (switchboard : Switchboard) (weightEntry : WeightEntry)
    (feed : SwitchboardFeed) (slot : ℕ) : Except TipRouterError ℕ :=
  if weightEntry.stMintEntry.switchboardFeed = .default then
    if weightEntry.stMintEntry.noFeedWeight = 0 then .error .noFeedWeightNotSet
    else .ok weightEntry.stMintEntry.noFeedWeight
  else if weightEntry.stMintEntry.switchboardFeed ≠ feed.key then .error .switchboardNotRegistered
  else do
    let parsed ← okOr (switchboard.parse feed.data) .badSwitchboardFeed
    let price ← okOr (switchboard.value parsed slot) .badSwitchboardValue
    let staleSlot ← okOr (checkedAdd 64 (switchboard.resultSlot parsed) switchboardMaxStaleSlots)
      .arithmeticOverflow
    if staleSlot < slot then .error .staleSwitchboardFeed
    else do
      let weight ← okOr (switchboard.checkedMul price weightPrecision) .arithmeticOverflow
      okOr (switchboard.toU128 (switchboard.round weight)) .castToU128Error

/-- `process_switchboard_set_weight`. -/
def processSwitchboardSetWeight (switchboard : Switchboard) (self : Weighing) (stMint : Pubkey)
    (feed : SwitchboardFeed) (slot : ℕ) : Except InstructionError Weighing := do
  let weightEntry ← self.weightTable.getWeightEntry stMint
  let weight ← switchboardWeight switchboard weightEntry feed slot
  self.setWeight stMint weight slot

def process (switchboard : Switchboard) (self : Weighing) :
    WeightInstruction → Except InstructionError Weighing
  | .adminSetWeight ncnWeightTableAdmin weightTableAdmin stMint weight slot =>
    self.processAdminSetWeight ncnWeightTableAdmin weightTableAdmin stMint weight slot
  | .switchboardSetWeight stMint feed slot =>
    self.processSwitchboardSetWeight switchboard stMint feed slot

end Weighing

/-! ## What every instruction keeps -/

variable {switchboard : Switchboard} {weighing next : Weighing}

/-- Every mint has a weight. -/
def WeightTable.Weighed (table : WeightTable) : Prop :=
  ∀ i : Fin maxStMints, table.table[i].isEmpty = false → 0 < table.table[i].slotSet

/-- The table is complete, and the epoch state counts what it holds. -/
structure Weighing.Counted (weighing : Weighing) : Prop where
  registered : 0 < weighing.weightTable.vaultCount
  vaults : weighing.weightTable.vaultCount = weighing.weightTable.vaultEntryCount
  mints : 0 < weighing.weightTable.mintCount
  bounded : weighing.weightTable.weightCount ≤ weighing.weightTable.mintCount
  progress : weighing.epochState.setWeightProgress =
    ⟨weighing.weightTable.weightCount, weighing.weightTable.mintCount⟩

/-- Setting a weight writes one entry of an unfinished table. -/
theorem Weighing.setWeight_eq_ok {stMint : Pubkey} {weight slot : ℕ}
    (set : weighing.setWeight stMint weight slot = .ok next) :
    weighing.weightTable.finalized = false ∧
      ∃ index : Fin maxStMints, weighing.weightTable.findEntry stMint = some index ∧
        next.weightTable = { weighing.weightTable with
          table := weighing.weightTable.table.put index
            (weighing.weightTable.table[index].setWeight weight slot) } ∧
        next.epochState = weighing.epochState.updateSetWeight next.weightTable.weightCount
          next.weightTable.stMintCount := by
  obtain ⟨_, -, set⟩ := bind_eq_ok.mp set
  split at set
  · cases set
  rename_i unfinished
  obtain ⟨weightTable, written, same⟩ := bind_eq_ok.mp set
  cases same
  obtain ⟨index, found, rfl⟩ := WeightTable.setWeight_eq_ok (lift_eq_ok_iff.mp written)
  exact ⟨by simpa using unfinished, index, found, rfl, rfl⟩

/-- Whatever an instruction checks, it ends in setting one weight. -/
theorem Weighing.process_eq_ok {instruction : WeightInstruction}
    (processed : weighing.process switchboard instruction = .ok next) :
    ∃ weight, weighing.setWeight instruction.stMint weight instruction.slot = .ok next := by
  cases instruction with
  | adminSetWeight ncnWeightTableAdmin weightTableAdmin stMint weight slot =>
    rw [process, processAdminSetWeight] at processed
    by_cases wrongAdmin : ncnWeightTableAdmin ≠ weightTableAdmin
    · rw [if_pos wrongAdmin] at processed
      cases processed
    · rw [if_neg wrongAdmin] at processed
      exact ⟨weight, processed⟩
  | switchboardSetWeight stMint feed slot =>
    obtain ⟨entry, -, processed⟩ := bind_eq_ok.mp processed
    obtain ⟨weight, -, processed⟩ := bind_eq_ok.mp processed
    exact ⟨weight, processed⟩

theorem Weighing.start_counted {epochState : EpochState} {vaultRegistry : VaultRegistry}
    {ncn : Pubkey} {epoch slot bump : ℕ}
    (started : start epochState vaultRegistry ncn epoch slot bump = .ok weighing) :
    weighing.Counted := by
  obtain ⟨weightTable, initialized, same⟩ := bind_eq_ok.mp started
  cases same
  obtain ⟨vaults, registered, mints, unset, copied⟩ :=
    WeightTable.initializeTable_eq_ok initialized
  refine ⟨registered, vaults, mints, unset ▸ Nat.zero_le _, ?_⟩
  have sameCount : weightTable.mintCount = vaultRegistry.stMintCount := by
    rw [WeightTable.mintCount, copied, Slots.count_map]
    rfl
  rw [unset, sameCount]
  rfl

/-- Setting a weight keeps the counts: it sets at most one entry, and none
once all are counted. -/
theorem Weighing.Counted.setWeight {stMint : Pubkey} {weight slot : ℕ} (counted : weighing.Counted)
    (set : weighing.setWeight stMint weight slot = .ok next) : next.Counted := by
  obtain ⟨unfinished, index, -, written, updated⟩ := setWeight_eq_ok set
  have sameEntry : (weighing.weightTable.table[index].setWeight weight slot).isEmpty =
      weighing.weightTable.table[index].isEmpty := rfl
  have mints : next.weightTable.mintCount = weighing.weightTable.mintCount := by
    have traded := Slots.count_put (fun entry => !entry.isEmpty) weighing.weightTable.table index
      (weighing.weightTable.table[index].setWeight weight slot)
    rw [written]
    simp only [WeightTable.mintCount]
    rw [sameEntry] at traded
    omega
  have fewer : weighing.weightTable.weightCount < weighing.weightTable.mintCount := by
    refine Nat.lt_of_le_of_ne counted.bounded fun same => ?_
    rw [WeightTable.finalized_eq_true_iff.mpr ⟨counted.vaults, counted.mints, same.symm⟩] at unfinished
    cases unfinished
  have one : next.weightTable.weightCount ≤ weighing.weightTable.weightCount + 1 := by
    have traded := Slots.count_put WeightEntry.isSet weighing.weightTable.table index
      (weighing.weightTable.table[index].setWeight weight slot)
    rw [written]
    simp only [WeightTable.weightCount]
    split at traded <;> split at traded <;> omega
  refine ⟨?_, ?_, by omega, by omega, ?_⟩
  · rw [written]
    exact counted.registered
  · rw [written]
    exact counted.vaults
  · rw [updated]
    rfl

theorem Weighing.run_counted {epochState : EpochState} {vaultRegistry : VaultRegistry}
    {ncn : Pubkey} {epoch slot bump : ℕ} {history : List WeightInstruction}
    {initial finish : Weighing}
    (started : start epochState vaultRegistry ncn epoch slot bump = .ok initial)
    (ran : run (process switchboard) history initial = .ok finish) : finish.Counted := by
  refine run_invariant (fun weighing instruction next counted processed => ?_)
    (start_counted started) ran
  obtain ⟨weight, set⟩ := process_eq_ok processed
  exact counted.setWeight set

/-- The epoch state has it right in every state: its progress is complete
exactly when the table is finalized. -/
theorem Weighing.Counted.finalized_eq (counted : weighing.Counted) :
    weighing.weightTable.finalized = weighing.epochState.setWeightProgress.isComplete := by
  have few : weighing.weightTable.mintCount ≤ 64 := Slots.count_le_length
  have bounded := counted.bounded
  have valid : weighing.epochState.setWeightProgress.isInvalid = false := by
    rw [counted.progress]
    simp only [Progress.isInvalid, Progress.invalid, u64Max, Bool.or_eq_false_iff,
      beq_eq_false_iff_ne]
    omega
  rw [Progress.isComplete, if_neg (by rw [valid]; exact Bool.false_ne_true), counted.progress,
    Bool.eq_iff_iff, WeightTable.finalized_eq_true_iff, decide_eq_true_eq]
  constructor
  · rintro ⟨-, -, same⟩
    exact same.le
  · intro reached
    exact ⟨counted.vaults, counted.mints, le_antisymm reached counted.bounded⟩

/-- A table whose mints all have weights is finalized. -/
theorem Weighing.Counted.finalized_of_weighed (counted : weighing.Counted)
    (weighed : weighing.weightTable.Weighed) : weighing.weightTable.finalized = true := by
  have covered : weighing.weightTable.mintCount ≤ weighing.weightTable.weightCount := by
    refine Slots.count_le_of_imp fun i occupied => ?_
    exact decide_eq_true (weighed i (by simpa using occupied))
  exact WeightTable.finalized_eq_true_iff.mpr
    ⟨counted.vaults, counted.mints, le_antisymm covered counted.bounded⟩

/-! ## What was set -/

/-- Along a run the mints stay where they are, and an entry is set exactly when
an instruction found it. -/
structure Weighing.SetBy (initial : WeightTable) (history : List WeightInstruction)
    (weighing : Weighing) : Prop where
  mints : ∀ i : Fin maxStMints,
    weighing.weightTable.table[i].stMint = initial.table[i].stMint
  set : ∀ i : Fin maxStMints, 0 < weighing.weightTable.table[i].slotSet ↔
    ∃ instruction ∈ history, initial.findEntry instruction.stMint = some i

theorem Weighing.start_setBy {epochState : EpochState} {vaultRegistry : VaultRegistry}
    {ncn : Pubkey} {epoch slot bump : ℕ}
    (started : start epochState vaultRegistry ncn epoch slot bump = .ok weighing) :
    weighing.SetBy weighing.weightTable [] := by
  obtain ⟨weightTable, initialized, same⟩ := bind_eq_ok.mp started
  cases same
  obtain ⟨-, -, -, unset, -⟩ := WeightTable.initializeTable_eq_ok initialized
  refine ⟨fun i => rfl, fun i => ?_⟩
  have notSet : ¬ 0 < weightTable.table[i].slotSet := fun set => by
    have counted : 0 < weightTable.weightCount :=
      Slots.count_pos_iff.mpr ⟨i, decide_eq_true set⟩
    omega
  simp only [notSet, List.not_mem_nil, false_and, exists_false]

theorem WeightEntry.slotSet_setWeight {entry : WeightEntry} {weight slot : ℕ} (later : 0 < slot) :
    0 < (entry.setWeight weight slot).slotSet := by
  simp only [setWeight]
  split <;> omega

theorem Weighing.SetBy.process {initial : WeightTable} {past : List WeightInstruction}
    {instruction : WeightInstruction} (setBy : weighing.SetBy initial past)
    (later : 0 < instruction.slot)
    (processed : weighing.process switchboard instruction = .ok next) :
    next.SetBy initial (past ++ [instruction]) := by
  obtain ⟨weight, set⟩ := process_eq_ok processed
  obtain ⟨-, index, found, written, -⟩ := setWeight_eq_ok set
  rw [WeightTable.findEntry_congr setBy.mints] at found
  constructor
  · intro i
    rw [written]
    refine Slots.forall_put (P := fun i (entry : WeightEntry) => entry.stMint = initial.table[i].stMint) ?_
      (fun j _ => setBy.mints j) i
    exact setBy.mints index
  · intro i
    simp only [List.mem_append, List.mem_singleton, or_and_right, exists_or, exists_eq_left,
      ← setBy.set, found, Option.some_inj, written, Slots.getElem_put_fin]
    by_cases here : index = i
    · simp only [here, if_true, or_true, iff_true]
      exact WeightEntry.slotSet_setWeight later
    · simp only [here, if_false, or_false]

theorem Weighing.run_setBy {epochState : EpochState} {vaultRegistry : VaultRegistry}
    {ncn : Pubkey} {epoch slot bump : ℕ} {history : List WeightInstruction}
    {initial finish : Weighing}
    (started : start epochState vaultRegistry ncn epoch slot bump = .ok initial)
    (later : ∀ instruction ∈ history, 0 < instruction.slot)
    (ran : run (process switchboard) history initial = .ok finish) :
    finish.SetBy initial.weightTable history := by
  refine run_split_induction
    (motive := fun past weighing => weighing.SetBy initial.weightTable past)
    (start_setBy started) ?_ ran
  intro past weighing instruction rest next split _ setBy processed
  exact setBy.process (later instruction (by simp [split])) processed

/-! ## Entries without a mint -/

/-- No weight was given to an entry without a mint. -/
def WeightTable.OnlyMintsSet (table : WeightTable) : Prop :=
  ∀ i : Fin maxStMints, table.table[i].isSet = true → table.table[i].isEmpty = false

/-- The counts agree exactly when all mints have weights, unless an empty entry
was counted as a weight. -/
theorem WeightTable.OnlyMintsSet.weighed {table : WeightTable} (onlyMints : table.OnlyMintsSet)
    (finalized : table.finalized = true) : table.Weighed := by
  obtain ⟨-, -, same⟩ := finalized_eq_true_iff.mp finalized
  have implies : ∀ i : Fin maxStMints, table.table[i].isSet = true →
      (!table.table[i].isEmpty) = true := fun i set => by
    rw [onlyMints i set]
    rfl
  have agree : Slots.count WeightEntry.isSet table.table =
      Slots.count (fun entry => !entry.isEmpty) table.table ↔
      ∀ i : Fin maxStMints, (!table.table[i].isEmpty) = true → table.table[i].isSet = true :=
    Slots.count_eq_iff_of_imp implies
  rw [mintCount, weightCount] at same
  intro i occupied
  have set := agree.mp same.symm i (by rw [occupied]; rfl)
  exact of_decide_eq_true set

/-- An instruction names a mint, or the registry has no entry without one. -/
def WeightInstruction.NamesMint (vaultRegistry : VaultRegistry) (instruction : WeightInstruction) :
    Prop :=
  instruction.stMint ≠ .default ∨ ∀ i : Fin maxStMints, vaultRegistry.stMintList[i].isEmpty = false

/-- When every instruction names a mint, no other entry is set. -/
theorem Weighing.SetBy.onlyMintsSet {epochState : EpochState} {vaultRegistry : VaultRegistry}
    {ncn : Pubkey} {epoch slot bump : ℕ} {history : List WeightInstruction}
    {initial finish : Weighing}
    (started : start epochState vaultRegistry ncn epoch slot bump = .ok initial)
    (setBy : finish.SetBy initial.weightTable history)
    (named : ∀ instruction ∈ history, instruction.NamesMint vaultRegistry) :
    finish.weightTable.OnlyMintsSet := by
  obtain ⟨weightTable, initialized, same⟩ := bind_eq_ok.mp started
  cases same
  obtain ⟨-, -, -, -, copied⟩ := WeightTable.initializeTable_eq_ok initialized
  intro i set
  obtain ⟨instruction, member, found⟩ := (setBy.set i).mp (of_decide_eq_true set)
  obtain ⟨here, -⟩ := WeightTable.findEntry_eq_some_iff.mp found
  have sameMint := (setBy.mints i).trans here
  rcases named instruction member with named | occupied
  · rw [WeightTable.isEmpty_eq_false_iff, sameMint]
    exact named
  · have fromRegistry : weightTable.table[i] = WeightEntry.new vaultRegistry.stMintList[i] := by
      rw [copied]
      exact Vector.getElem_map _ i.isLt
    rw [WeightTable.isEmpty_eq_false_iff, setBy.mints i, ← WeightTable.isEmpty_eq_false_iff,
      fromRegistry]
    exact occupied i

/-- As long as no entry without a mint is given a weight, the table is finalized
exactly when every mint has a weight, which is when the epoch state's progress
is complete; and an entry has one exactly when some instruction set it. -/
theorem finalized_iff_every_mint_weighed (switchboard : Switchboard) (epochState : EpochState)
    (vaultRegistry : VaultRegistry) (ncn : Pubkey) (epoch slot bump : ℕ)
    (history : List WeightInstruction) (initial finish : Weighing)
    (started : Weighing.start epochState vaultRegistry ncn epoch slot bump = .ok initial)
    (later : ∀ instruction ∈ history, 0 < instruction.slot)
    (named : ∀ instruction ∈ history, instruction.NamesMint vaultRegistry)
    (ran : run (Weighing.process switchboard) history initial = .ok finish) :
    (finish.weightTable.finalized = true ↔ finish.weightTable.Weighed) ∧
      finish.weightTable.finalized = finish.epochState.setWeightProgress.isComplete ∧
      ∀ i : Fin maxStMints, 0 < finish.weightTable.table[i].slotSet ↔
        ∃ instruction ∈ history,
          initial.weightTable.findEntry instruction.stMint = some i := by
  have counted := Weighing.run_counted started ran
  have setBy := Weighing.run_setBy started later ran
  have onlyMints := setBy.onlyMintsSet started named
  exact ⟨⟨onlyMints.weighed, counted.finalized_of_weighed⟩, counted.finalized_eq, setBy.set⟩

/-- A registry of one vault and two mints, one with a fixed weight and one with a feed. -/
def twoMints : VaultRegistry where
  stMintList := Vector.ofFn fun i =>
    if i.val = 0 then ⟨⟨Vector.replicate 32 1⟩, .default, 10000, .default, 7⟩
    else if i.val = 1 then ⟨⟨Vector.replicate 32 2⟩, .default, 15000, ⟨Vector.replicate 32 9⟩, 0⟩
    else .default
  vaultList := Vector.ofFn fun i =>
    if i.val = 0 then ⟨⟨Vector.replicate 32 3⟩, ⟨Vector.replicate 32 1⟩, 0, 5⟩ else .default

example : run VaultRegistry.process
    [.adminRegisterStMint .default .default ⟨Vector.replicate 32 1⟩ 0 10000 none (some 7),
      .adminRegisterStMint .default .default ⟨Vector.replicate 32 2⟩ 0 15000
        (some ⟨Vector.replicate 32 9⟩) none,
      .registerVault ⟨Vector.replicate 32 3⟩ ⟨Vector.replicate 32 1⟩ 0 5]
    .initialized = .ok twoMints := by decide +kernel

/-- A Switchboard without feeds. -/
def Switchboard.withoutFeeds : Switchboard where
  PullFeedAccountData := Empty
  Decimal := Empty
  parse _ := none
  value feed _ := feed.elim
  resultSlot feed := feed.elim
  checkedMul price _ := price.elim
  round price := price
  toU128 price := price.elim

/-- The first mint gets its fixed weight, the second one the admin's. -/
theorem finalized_iff_every_mint_weighed_for_two :
    ∃ finish : Weighing, finish.weightTable.finalized = true ∧ finish.weightTable.Weighed := by
  have runs : (do
      let initial ← (Weighing.start .zeroed twoMints .default 3 5 255).mapError
        InstructionError.custom
      let finish ← run (Weighing.process .withoutFeeds)
        [.switchboardSetWeight ⟨Vector.replicate 32 1⟩ ⟨.default, []⟩ 6,
          .adminSetWeight .default .default ⟨Vector.replicate 32 2⟩ 9 7] initial
      return (initial, finish)).toOption.any
        (fun result : Weighing × Weighing => result.2.weightTable.finalized) = true := by
    decide +kernel
  obtain ⟨⟨initial, finish⟩, both, finalized⟩ := exists_of_any runs
  obtain ⟨_, started, both⟩ := bind_eq_ok.mp both
  obtain ⟨_, ran, same⟩ := bind_eq_ok.mp both
  cases same
  have sound := finalized_iff_every_mint_weighed .withoutFeeds .zeroed twoMints .default 3 5 255 _
    initial finish (mapError_eq_ok.mp started) (by simp [WeightInstruction.slot])
    (fun instruction member => .inl (by
      simp only [List.mem_cons, List.not_mem_nil, or_false] at member
      rcases member with rfl | rfl <;> decide)) ran
  exact ⟨finish, finalized, sound.1.mp finalized⟩

/-- A weight for the default key finalizes a table whose second mint has none,
and the epoch state calls it complete as well. -/
theorem finalized_without_second_mint :
    ∃ (initial finish : Weighing) (instructions : List WeightInstruction),
      Weighing.start .zeroed twoMints .default 3 5 255 = .ok initial ∧
      (∀ instruction ∈ instructions, 0 < instruction.slot) ∧
      run (Weighing.process .withoutFeeds) instructions initial = .ok finish ∧
      finish.weightTable.finalized = true ∧ ¬ finish.weightTable.Weighed := by
  have runs : (do
      let initial ← (Weighing.start .zeroed twoMints .default 3 5 255).mapError
        InstructionError.custom
      let finish ← run (Weighing.process .withoutFeeds)
        [.adminSetWeight .default .default ⟨Vector.replicate 32 1⟩ 9 6,
          .adminSetWeight .default .default .default 9 7] initial
      return (initial, finish)).toOption.any
        (fun result : Weighing × Weighing => result.2.weightTable.finalized &&
          !result.2.weightTable.table[(1 : Fin maxStMints)].isEmpty &&
          result.2.weightTable.table[(1 : Fin maxStMints)].slotSet == 0) = true := by
    decide +kernel
  obtain ⟨⟨initial, finish⟩, both, outcome⟩ := exists_of_any runs
  obtain ⟨_, started, both⟩ := bind_eq_ok.mp both
  obtain ⟨_, ran, same⟩ := bind_eq_ok.mp both
  cases same
  simp only [Bool.and_eq_true, Bool.not_eq_true', beq_iff_eq] at outcome
  obtain ⟨⟨finalized, occupied⟩, unset⟩ := outcome
  refine ⟨initial, finish, _, mapError_eq_ok.mp started, by simp [WeightInstruction.slot], ran,
    finalized, fun weighed => ?_⟩
  exact absurd (weighed 1 occupied) (by omega)

end TipRouter
