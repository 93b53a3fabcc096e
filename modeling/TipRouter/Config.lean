import TipRouter.Fees

/-! The configuration of an NCN, `core/src/config.rs`, with the instructions
`program/src/admin_initialize_config.rs` and `admin_set_parameters.rs`. Its
parameters have limits, checked where a parameter is set; nothing relates a new
value to the epochs that are under way. -/
namespace TipRouter
open Runs

/-! ## Limits -/

/-- The values a parameter may take, and the error of all others. -/
structure ParameterRange where
  min : ℕ
  max : ℕ
  failure : TipRouterError

namespace ParameterRange

/-- `if !(min..=max).contains(&value) { return Err(failure) }`. -/
def check (self : ParameterRange) (value : ℕ) : Except TipRouterError Unit :=
  if self.min ≤ value ∧ value ≤ self.max then .ok () else .error self.failure

/-- `if let Some(value) = value`: the range is checked and the parameter set. -/
def update (self : ParameterRange) (current : ℕ) : Option ℕ → Except TipRouterError ℕ
  | none => .ok current
  | some value => do
    self.check value
    return value

end ParameterRange

/-- `DEFAULT_SLOTS_PER_EPOCH` of `solana_program`. -/
def defaultSlotsPerEpoch : ℕ := 432000

/-- From `MIN_EPOCHS_BEFORE_STALL` to `MAX_EPOCHS_BEFORE_STALL`. -/
def epochsBeforeStallRange : ParameterRange := ⟨1, 50, .invalidEpochsBeforeStall⟩

/-- From `MIN_EPOCHS_AFTER_CONSENSUS_BEFORE_CLOSE` to the `MAX_` of that name. -/
def epochsAfterConsensusBeforeCloseRange : ParameterRange := ⟨10, 100, .invalidEpochsBeforeClose⟩

/-- From `MIN_VALID_SLOTS_AFTER_CONSENSUS` to `MAX_VALID_SLOTS_AFTER_CONSENSUS`. -/
def validSlotsAfterConsensusRange : ParameterRange :=
  ⟨1000, 50 * defaultSlotsPerEpoch, .invalidSlotsAfterConsensus⟩

/-! ## The account -/

structure Config where
  ncn : Pubkey
  tieBreakerAdmin : Pubkey
  feeAdmin : Pubkey
  validSlotsAfterConsensus : ℕ
  epochsBeforeStall : ℕ
  feeConfig : FeeConfig
  bump : ℕ
  epochsAfterConsensusBeforeClose : ℕ
  startingValidEpoch : ℕ
  deriving DecidableEq

/-- The optional arguments of `process_admin_set_parameters`. -/
structure AdminParameters where
  startingValidEpoch : Option ℕ
  epochsBeforeStall : Option ℕ
  epochsAfterConsensusBeforeClose : Option ℕ
  validSlotsAfterConsensus : Option ℕ
  deriving DecidableEq

namespace Config

/-- `process_admin_initialize_config`; `restakingAdmin` is the admin in the NCN's
account, `ncnAdmin` the signer. -/
def processAdminInitializeConfig (spl : SplMath) (ncn restakingAdmin ncnAdmin daoFeeWallet
      tieBreakerAdmin : Pubkey)
    (blockEngineFeeBps daoFeeBps defaultNcnFeeBps epochsBeforeStall epochsAfterConsensusBeforeClose
      validSlotsAfterConsensus bump epoch : ℕ) : Except TipRouterError Config :=
  if maxFeeBps < blockEngineFeeBps then .error .feeCapExceeded
  else if maxFeeBps < daoFeeBps then .error .feeCapExceeded
  else if maxFeeBps < defaultNcnFeeBps then .error .feeCapExceeded
  else do
    epochsBeforeStallRange.check epochsBeforeStall
    epochsAfterConsensusBeforeCloseRange.check epochsAfterConsensusBeforeClose
    validSlotsAfterConsensusRange.check validSlotsAfterConsensus
    if restakingAdmin ≠ ncnAdmin then .error .incorrectNcnAdmin
    else do
      let feeConfig ← FeeConfig.new spl daoFeeWallet blockEngineFeeBps daoFeeBps defaultNcnFeeBps epoch
      feeConfig.checkFeesOkay spl epoch
      return {
        ncn := ncn
        tieBreakerAdmin := tieBreakerAdmin
        feeAdmin := ncnAdmin
        validSlotsAfterConsensus := validSlotsAfterConsensus
        epochsBeforeStall := epochsBeforeStall
        feeConfig := feeConfig
        bump := bump
        epochsAfterConsensusBeforeClose := epochsAfterConsensusBeforeClose
        startingValidEpoch := epoch }

/-- `process_admin_set_parameters`. -/
def processAdminSetParameters (self : Config) (ncn restakingAdmin ncnAdmin : Pubkey)
    (parameters : AdminParameters) : Except TipRouterError Config :=
  if restakingAdmin ≠ ncnAdmin then .error .incorrectNcnAdmin
  else if self.ncn ≠ ncn then .error .incorrectNcn
  else do
    let self := { self with
      startingValidEpoch := parameters.startingValidEpoch.getD self.startingValidEpoch }
    let epochsBeforeStall ←
      epochsBeforeStallRange.update self.epochsBeforeStall parameters.epochsBeforeStall
    let epochsAfterConsensusBeforeClose ← epochsAfterConsensusBeforeCloseRange.update
      self.epochsAfterConsensusBeforeClose parameters.epochsAfterConsensusBeforeClose
    let validSlotsAfterConsensus ← validSlotsAfterConsensusRange.update
      self.validSlotsAfterConsensus parameters.validSlotsAfterConsensus
    return { self with
      epochsBeforeStall := epochsBeforeStall
      epochsAfterConsensusBeforeClose := epochsAfterConsensusBeforeClose
      validSlotsAfterConsensus := validSlotsAfterConsensus }

end Config

/-! ## What holds of every configuration -/

namespace ParameterRange

variable {range : ParameterRange} {value current : ℕ}

def Contains (range : ParameterRange) (value : ℕ) : Prop := range.min ≤ value ∧ value ≤ range.max

theorem check_eq_ok (accepted : range.check value = .ok ()) : range.Contains value := by
  unfold check at accepted
  split at accepted
  · assumption
  · cases accepted

theorem update_eq_ok {new : Option ℕ} (updated : range.update current new = .ok value) :
    value = new.getD current ∧ (range.Contains current → range.Contains value) := by
  cases new with
  | none =>
    cases updated
    exact ⟨rfl, id⟩
  | some requested =>
    obtain ⟨⟨⟩, accepted, same⟩ := bind_eq_ok.mp updated
    cases same
    exact ⟨rfl, fun _ => check_eq_ok accepted⟩

end ParameterRange

namespace Config

variable {spl : SplMath} {config next : Config}

structure WithinLimits (config : Config) : Prop where
  epochsBeforeStall : epochsBeforeStallRange.Contains config.epochsBeforeStall
  epochsAfterConsensusBeforeClose :
    epochsAfterConsensusBeforeCloseRange.Contains config.epochsAfterConsensusBeforeClose
  validSlotsAfterConsensus :
    validSlotsAfterConsensusRange.Contains config.validSlotsAfterConsensus

theorem processAdminInitializeConfig_withinLimits {ncn restakingAdmin ncnAdmin daoFeeWallet
      tieBreakerAdmin : Pubkey}
    {blockEngineFeeBps daoFeeBps defaultNcnFeeBps epochsBeforeStall epochsAfterConsensusBeforeClose
      validSlotsAfterConsensus bump epoch : ℕ}
    (initialized : processAdminInitializeConfig spl ncn restakingAdmin ncnAdmin daoFeeWallet
      tieBreakerAdmin blockEngineFeeBps daoFeeBps defaultNcnFeeBps epochsBeforeStall
      epochsAfterConsensusBeforeClose validSlotsAfterConsensus bump epoch = .ok config) :
    config.WithinLimits := by
  unfold processAdminInitializeConfig at initialized
  split at initialized
  · cases initialized
  split at initialized
  · cases initialized
  split at initialized
  · cases initialized
  obtain ⟨⟨⟩, stall, initialized⟩ := bind_eq_ok.mp initialized
  obtain ⟨⟨⟩, close, initialized⟩ := bind_eq_ok.mp initialized
  obtain ⟨⟨⟩, slots, initialized⟩ := bind_eq_ok.mp initialized
  split at initialized
  · cases initialized
  obtain ⟨feeConfig, -, initialized⟩ := bind_eq_ok.mp initialized
  obtain ⟨⟨⟩, -, same⟩ := bind_eq_ok.mp initialized
  cases same
  exact ⟨ParameterRange.check_eq_ok stall, ParameterRange.check_eq_ok close,
    ParameterRange.check_eq_ok slots⟩

/-- An accepted change sets what was given and nothing else, within the limits. -/
theorem processAdminSetParameters_eq_ok {ncn restakingAdmin ncnAdmin : Pubkey}
    {parameters : AdminParameters}
    (processed : config.processAdminSetParameters ncn restakingAdmin ncnAdmin parameters =
      .ok next) :
    next = { config with
      startingValidEpoch := parameters.startingValidEpoch.getD config.startingValidEpoch
      epochsBeforeStall := parameters.epochsBeforeStall.getD config.epochsBeforeStall
      epochsAfterConsensusBeforeClose := parameters.epochsAfterConsensusBeforeClose.getD
        config.epochsAfterConsensusBeforeClose
      validSlotsAfterConsensus :=
        parameters.validSlotsAfterConsensus.getD config.validSlotsAfterConsensus } ∧
    (config.WithinLimits → next.WithinLimits) := by
  unfold processAdminSetParameters at processed
  split at processed
  · cases processed
  split at processed
  · cases processed
  obtain ⟨epochsBeforeStall, stall, processed⟩ := bind_eq_ok.mp processed
  obtain ⟨epochsBeforeClose, close, processed⟩ := bind_eq_ok.mp processed
  obtain ⟨validSlots, slots, same⟩ := bind_eq_ok.mp processed
  cases same
  obtain ⟨rfl, stallKept⟩ := ParameterRange.update_eq_ok stall
  obtain ⟨rfl, closeKept⟩ := ParameterRange.update_eq_ok close
  obtain ⟨rfl, slotsKept⟩ := ParameterRange.update_eq_ok slots
  exact ⟨rfl, fun limits => ⟨stallKept limits.epochsBeforeStall,
    closeKept limits.epochsAfterConsensusBeforeClose, slotsKept limits.validSlotsAfterConsensus⟩⟩

end Config

end TipRouter
