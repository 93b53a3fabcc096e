import Mathlib.Data.Nat.Basic
import Mathlib.Tactic.NormNum

/-! What every account of the program is made of: public keys and digests,
the error codes of `core/src/error.rs`, the constants of
`core/src/constants.rs` and Rust's checked integer operations. Counters are
natural numbers; the width of the Rust type shows in the checked operation. -/
namespace TipRouter

/-- `[u8; 32]`: a public key, a Merkle root or a digest. -/
abbrev Bytes32 := Vector UInt8 32

/-- `Pubkey`. -/
structure Pubkey where
  toBytes : Bytes32
  deriving DecidableEq

/-- `Pubkey::default()`, the all-zero key that marks an empty entry. -/
def Pubkey.default : Pubkey := ⟨Vector.replicate 32 0⟩

/-- `TipRouterError`, the codes the modelled functions return. -/
inductive TipRouterError where
  | denominatorIsZero
  | arithmeticOverflow
  | arithmeticUnderflowError
  | arithmeticFloorError
  | newPreciseNumberError
  | castToImpreciseNumberError
  | castToU64Error
  | feeCapExceeded
  | totalFeesCannotBeZero
  | defaultDaoWallet
  | vaultOperatorDelegationFinalized
  | operatorFinalized
  | tooManyVaultOperatorDelegations
  | duplicateVaultOperatorDelegation
  | operatorVotesFull
  | ballotTallyFull
  | ballotTallyNotFoundFull
  | consensusAlreadyReached
  | consensusNotReached
  | votingNotValid
  | votingNotFinalized
  | tieBreakerNotInPriorVotes
  | invalidMerkleProof
  | invalidNcnFeeGroup
  | invalidBaseFeeGroup
  | operatorRewardListFull
  | operatorRewardNotFound
  | feeNotActive
  | routerStillRouting
  | badBallot
  | votingIsNotOver
  | weightTableAlreadyInitialized
  | tableNotInitialized
  | registryNotInitialized
  | invalidMintForWeightTable
  | vaultNotInRegistry
  | incorrectWeightTableAdmin
  | noFeedWeightNotSet
  | switchboardNotRegistered
  | badSwitchboardFeed
  | badSwitchboardValue
  | staleSwitchboardFeed
  | castToU128Error
  | weightTableNotFinalized
  | noOperators
  | operatorIsNotInSnapshot
  | vaultNeedsUpdate
  | epochSnapshotNotFinalized
  | invalidOperatorVoter
  | tieBreakerAdminInvalid
  | epochIsClosingDown
  | markerExists
  | invalidDaoWallet
  | cannotCloseAccount
  | cannotCloseAccountAlreadyClosed
  | cannotCloseAccountNotEnoughEpochs
  | cannotCloseAccountNoReceiverProvided
  | cannotCloseEpochStateAccount
  | invalidAccountToCloseDiscriminator
  | incorrectNcn
  | incorrectNcnAdmin
  | invalidEpochsBeforeStall
  | invalidEpochsBeforeClose
  | invalidSlotsAfterConsensus
  | mintInTable
  | mintEntryNotFound
  | vaultRegistryListFull
  | noFeedWeightOrSwitchboardFeed
  deriving DecidableEq, Repr

/-- What a failed instruction reports: an error code of the program, one of
the runtime's own errors, or that the program panicked. -/
inductive InstructionError where
  | custom (error : TipRouterError)
  | invalidAccountData
  | invalidAccountOwner
  | invalidArgument
  | arithmeticOverflow
  | accountDataSizeChanged
  | resultWithNegativeLamports
  | programFailedToComplete
  deriving DecidableEq, Repr

/-- The `?` operator inside a processor. -/
instance liftError : MonadLift (Except TipRouterError) (Except InstructionError) where
  monadLift result := result.mapError .custom

@[simp] theorem lift_eq_ok_iff {α : Type} {first : Except TipRouterError α} {result : α} :
    (liftM first : Except InstructionError α) = .ok result ↔ first = .ok result := by
  cases first <;> simp [liftM, monadLift, MonadLift.monadLift, Except.mapError]

@[simp] theorem lift_ok {α : Type} {result : α} :
    (liftM (Except.ok result : Except TipRouterError α) : Except InstructionError α) = .ok result :=
  rfl

/-- `Option::ok_or`. -/
def okOr {α : Type} (value : Option α) (failure : TipRouterError) : Except TipRouterError α :=
  match value with
  | some result => .ok result
  | none => .error failure

@[simp] theorem okOr_eq_ok_iff {α : Type} {value : Option α} {failure : TipRouterError} {result : α} :
    okOr value failure = .ok result ↔ value = some result := by
  cases value <;> simp [okOr]

theorem okOr_eq_error_iff {α : Type} {value : Option α} {failure cause : TipRouterError} :
    okOr value failure = .error cause ↔ value = none ∧ failure = cause := by
  cases value <;> simp [okOr]

@[simp] theorem okOr_some {α : Type} {result : α} {failure : TipRouterError} :
    okOr (some result) failure = .ok result := rfl

/-- `u64::to_le_bytes`. -/
def toLeBytes (value : ℕ) : List UInt8 :=
  (List.range 8).map fun i => UInt8.ofNat (value / 2 ^ (8 * i))

/-- The bytes of a `u64` determine it. -/
theorem toLeBytes_injective {left right : ℕ} (leftFits : left < 2 ^ 64) (rightFits : right < 2 ^ 64)
    (same : toLeBytes left = toLeBytes right) : left = right := by
  have digit : ∀ i < 8, left / 256 ^ i % 256 = right / 256 ^ i % 256 := by
    intro i below
    have byte := congrArg (fun bytes : List UInt8 => bytes[i]?) same
    simp only [toLeBytes, List.getElem?_map, List.getElem?_range below, Option.map_some,
      Option.some.injEq, ← UInt8.toNat_inj, UInt8.toNat_ofNat', pow_mul] at byte
    exact byte
  -- Digit by digit, from the lowest.
  have lower : ∀ n ≤ 8, left % 256 ^ n = right % 256 ^ n := by
    intro n
    induction n with
    | zero => simp [Nat.mod_one]
    | succ n ih =>
      intro le
      rw [Nat.mod_pow_succ, Nat.mod_pow_succ, ih (by omega), digit n le]
  have whole : left % 2 ^ 64 = right % 2 ^ 64 := lower 8 le_rfl
  rwa [Nat.mod_eq_of_lt leftFits, Nat.mod_eq_of_lt rightFits] at whole

/-! ## Checked integer arithmetic -/

/-- `checked_add` on an unsigned integer of the given width. -/
def checkedAdd (bits left right : ℕ) : Option ℕ :=
  if left + right < 2 ^ bits then some (left + right) else none

/-- `checked_sub`; the width of the integer plays no part. -/
def checkedSub (left right : ℕ) : Option ℕ :=
  if right ≤ left then some (left - right) else none

/-- `checked_mul` on an unsigned integer of the given width. -/
def checkedMul (bits left right : ℕ) : Option ℕ :=
  if left * right < 2 ^ bits then some (left * right) else none

/-- `checked_div`. -/
def checkedDiv (left right : ℕ) : Option ℕ :=
  if right = 0 then none else some (left / right)

/-- `TryFrom` between unsigned integers: the value fits the target width. -/
def tryFrom (bits value : ℕ) : Option ℕ :=
  if value < 2 ^ bits then some value else none

@[simp] theorem checkedAdd_eq_some_iff {bits left right result : ℕ} :
    checkedAdd bits left right = some result ↔ left + right < 2 ^ bits ∧ left + right = result := by
  simp [checkedAdd]

@[simp] theorem checkedSub_eq_some_iff {left right result : ℕ} :
    checkedSub left right = some result ↔ right ≤ left ∧ left - right = result := by
  simp [checkedSub]

@[simp] theorem checkedMul_eq_some_iff {bits left right result : ℕ} :
    checkedMul bits left right = some result ↔ left * right < 2 ^ bits ∧ left * right = result := by
  simp [checkedMul]

@[simp] theorem checkedDiv_eq_some_iff {left right result : ℕ} :
    checkedDiv left right = some result ↔ right ≠ 0 ∧ left / right = result := by
  simp [checkedDiv]

@[simp] theorem tryFrom_eq_some_iff {bits value result : ℕ} :
    tryFrom bits value = some result ↔ value < 2 ^ bits ∧ value = result := by
  simp [tryFrom]

theorem checkedAdd_of_lt {bits left right : ℕ} (fits : left + right < 2 ^ bits) :
    checkedAdd bits left right = some (left + right) := if_pos fits

theorem checkedSub_of_le {left right : ℕ} (covered : right ≤ left) :
    checkedSub left right = some (left - right) := if_pos covered

theorem checkedMul_of_lt {bits left right : ℕ} (fits : left * right < 2 ^ bits) :
    checkedMul bits left right = some (left * right) := if_pos fits

/-! ## Constants -/

/-- `MAX_FEE_BPS`. -/
def maxFeeBps : ℕ := 10000

/-- `jito_vault_core::MAX_BPS`. -/
def maxBps : ℕ := 10000

/-- `MAX_OPERATORS`. -/
abbrev maxOperators : ℕ := 256

/-- `MAX_VAULTS`. -/
abbrev maxVaults : ℕ := 64

/-- `MAX_ST_MINTS`. -/
abbrev maxStMints : ℕ := 64

/-- `FEE_GROUP_COUNT` of both group families. -/
abbrev feeGroupCount : ℕ := 8

instance : NeZero feeGroupCount := ⟨by decide⟩

/-- `u8::MAX`, `u16::MAX` and `u64::MAX`, the sentinels of the accounts. -/
def u8Max : ℕ := 2 ^ 8 - 1
def u16Max : ℕ := 2 ^ 16 - 1
def u64Max : ℕ := 2 ^ 64 - 1

/-- `DEFAULT_CONSENSUS_REACHED_SLOT`. -/
def defaultConsensusReachedSlot : ℕ := u64Max

end TipRouter
