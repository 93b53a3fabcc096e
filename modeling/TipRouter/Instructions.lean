import TipRouter.Borsh
import TipRouter.Core
import Mathlib.Logic.Function.Basic

/-! The instruction data of the program, `core/src/instruction.rs`, as
`process_instruction` of `program/src/lib.rs` reads it and as the generated client of
`clients/rust` writes it. The first byte says which instruction it is, the arguments
follow in order. -/
namespace TipRouter
open Borsh Borsh.Format

/-! ## The instructions -/

/-- `u128`. -/
abbrev U128 := Fin (2 ^ 128)

/-- `ConfigAdminRole`. -/
inductive ConfigAdminRole where
  | feeAdmin
  | tieBreakerAdmin
  deriving DecidableEq

inductive TipRouterInstruction where
  | initializeConfig (blockEngineFeeBps daoFeeBps defaultNcnFeeBps : UInt16)
      (epochsBeforeStall epochsAfterConsensusBeforeClose validSlotsAfterConsensus : UInt64)
  | initializeVaultRegistry
  | reallocVaultRegistry
  | registerVault
  | initializeEpochState (epoch : UInt64)
  | reallocEpochState (epoch : UInt64)
  | initializeWeightTable (epoch : UInt64)
  | reallocWeightTable (epoch : UInt64)
  | switchboardSetWeight (stMint : Pubkey) (epoch : UInt64)
  | initializeEpochSnapshot (epoch : UInt64)
  | initializeOperatorSnapshot (epoch : UInt64)
  | reallocOperatorSnapshot (epoch : UInt64)
  | snapshotVaultOperatorDelegation (epoch : UInt64)
  | initializeBallotBox (epoch : UInt64)
  | reallocBallotBox (epoch : UInt64)
  | castVote (metaMerkleRoot : Bytes32) (epoch : UInt64)
  | setMerkleRoot (proof : Vec Bytes32) (merkleRoot : Bytes32)
      (maxTotalClaim maxNumNodes epoch : UInt64)
  | initializeBaseRewardRouter (epoch : UInt64)
  | reallocBaseRewardRouter (epoch : UInt64)
  | initializeNcnRewardRouter (ncnFeeGroup : UInt8) (epoch : UInt64)
  | routeBaseRewards (maxIterations : UInt16) (epoch : UInt64)
  | routeNcnRewards (ncnFeeGroup : UInt8) (maxIterations : UInt16) (epoch : UInt64)
  | distributeBaseRewards (baseFeeGroup : UInt8) (epoch : UInt64)
  | distributeBaseNcnRewardRoute (ncnFeeGroup : UInt8) (epoch : UInt64)
  | distributeNcnOperatorRewards (ncnFeeGroup : UInt8) (epoch : UInt64)
  | distributeNcnVaultRewards (ncnFeeGroup : UInt8) (epoch : UInt64)
  | claimWithPayer (proof : Vec Bytes32) (amount : UInt64) (bump : UInt8)
  | closeEpochAccount (epoch : UInt64)
  | adminSetParameters (startingValidEpoch epochsBeforeStall epochsAfterConsensusBeforeClose
      validSlotsAfterConsensus : Option UInt64)
  | adminSetConfigFees (newBlockEngineFeeBps : Option UInt16) (baseFeeGroup : Option UInt8)
      (newBaseFeeWallet : Option Pubkey) (newBaseFeeBps : Option UInt16)
      (ncnFeeGroup : Option UInt8) (newNcnFeeBps : Option UInt16)
  | adminSetNewAdmin (role : ConfigAdminRole)
  | adminSetTieBreaker (metaMerkleRoot : Bytes32) (epoch : UInt64)
  | adminSetWeight (stMint : Pubkey) (weight : U128) (epoch : UInt64)
  | adminRegisterStMint (ncnFeeGroup : UInt8) (rewardMultiplierBps : UInt64)
      (switchboardFeed : Option Pubkey) (noFeedWeight : Option U128)
  | adminSetStMint (stMint : Pubkey) (ncnFeeGroup : Option UInt8)
      (rewardMultiplierBps : Option UInt64) (switchboardFeed : Option Pubkey)
      (noFeedWeight : Option U128)

/-! ## Formats of the arguments -/

namespace TipRouterInstruction

def u16 : Format UInt16 :=
  (uint 2).map ((finCongr (by norm_num)).trans
    ⟨UInt16.ofFin, UInt16.toFin, fun _ => rfl, fun _ => rfl⟩)

def u64 : Format UInt64 :=
  (uint 8).map ((finCongr (by norm_num)).trans
    ⟨UInt64.ofFin, UInt64.toFin, fun _ => rfl, fun _ => rfl⟩)

def u128 : Format U128 := (uint 16).map (finCongr (by norm_num))

def bytes32 : Format Bytes32 := u8.array 32

def pubkey : Format Pubkey :=
  bytes32.map ⟨Pubkey.mk, Pubkey.toBytes, fun _ => rfl, fun _ => rfl⟩

def configAdminRole : Format ConfigAdminRole :=
  (tag 2 (by norm_num)).map
    ⟨fun index => match index with
        | 0 => .feeAdmin
        | 1 => .tieBreakerAdmin,
      fun role => match role with
        | .feeAdmin => 0
        | .tieBreakerAdmin => 1,
      fun index => match index with
        | 0 => rfl
        | 1 => rfl,
      fun role => match role with
        | .feeAdmin => rfl
        | .tieBreakerAdmin => rfl⟩

def initializeConfigArgs :
    Format (UInt16 × UInt16 × UInt16 × UInt64 × UInt64 × UInt64) :=
  u16.prod (u16.prod (u16.prod (u64.prod (u64.prod u64))))

def setMerkleRootArgs : Format (Vec Bytes32 × Bytes32 × UInt64 × UInt64 × UInt64) :=
  bytes32.vec.prod (bytes32.prod (u64.prod (u64.prod u64)))

def adminSetParametersArgs :
    Format (Option UInt64 × Option UInt64 × Option UInt64 × Option UInt64) :=
  u64.option.prod (u64.option.prod (u64.option.prod u64.option))

def adminSetConfigFeesArgs :
    Format (Option UInt16 × Option UInt8 × Option Pubkey × Option UInt16 × Option UInt8 ×
      Option UInt16) :=
  u16.option.prod (u8.option.prod (pubkey.option.prod (u16.option.prod
    (u8.option.prod u16.option))))

def adminRegisterStMintArgs : Format (UInt8 × UInt64 × Option Pubkey × Option U128) :=
  u8.prod (u64.prod (pubkey.option.prod u128.option))

def adminSetStMintArgs :
    Format (Pubkey × Option UInt8 × Option UInt64 × Option Pubkey × Option U128) :=
  pubkey.prod (u8.option.prod (u64.option.prod (pubkey.option.prod u128.option)))

/-! ## The format of the instructions -/

def serialize : TipRouterInstruction → List UInt8
  | initializeConfig blockEngineFeeBps daoFeeBps defaultNcnFeeBps epochsBeforeStall
      epochsAfterConsensusBeforeClose validSlotsAfterConsensus =>
    0 :: initializeConfigArgs.serialize (blockEngineFeeBps, daoFeeBps, defaultNcnFeeBps,
      epochsBeforeStall, epochsAfterConsensusBeforeClose, validSlotsAfterConsensus)
  | initializeVaultRegistry => [1]
  | reallocVaultRegistry => [2]
  | registerVault => [3]
  | initializeEpochState epoch => 4 :: u64.serialize epoch
  | reallocEpochState epoch => 5 :: u64.serialize epoch
  | initializeWeightTable epoch => 6 :: u64.serialize epoch
  | reallocWeightTable epoch => 7 :: u64.serialize epoch
  | switchboardSetWeight stMint epoch => 8 :: (pubkey.prod u64).serialize (stMint, epoch)
  | initializeEpochSnapshot epoch => 9 :: u64.serialize epoch
  | initializeOperatorSnapshot epoch => 10 :: u64.serialize epoch
  | reallocOperatorSnapshot epoch => 11 :: u64.serialize epoch
  | snapshotVaultOperatorDelegation epoch => 12 :: u64.serialize epoch
  | initializeBallotBox epoch => 13 :: u64.serialize epoch
  | reallocBallotBox epoch => 14 :: u64.serialize epoch
  | castVote metaMerkleRoot epoch => 15 :: (bytes32.prod u64).serialize (metaMerkleRoot, epoch)
  | setMerkleRoot proof merkleRoot maxTotalClaim maxNumNodes epoch =>
    16 :: setMerkleRootArgs.serialize (proof, merkleRoot, maxTotalClaim, maxNumNodes, epoch)
  | initializeBaseRewardRouter epoch => 17 :: u64.serialize epoch
  | reallocBaseRewardRouter epoch => 18 :: u64.serialize epoch
  | initializeNcnRewardRouter ncnFeeGroup epoch =>
    19 :: (u8.prod u64).serialize (ncnFeeGroup, epoch)
  | routeBaseRewards maxIterations epoch => 20 :: (u16.prod u64).serialize (maxIterations, epoch)
  | routeNcnRewards ncnFeeGroup maxIterations epoch =>
    21 :: (u8.prod (u16.prod u64)).serialize (ncnFeeGroup, maxIterations, epoch)
  | distributeBaseRewards baseFeeGroup epoch => 22 :: (u8.prod u64).serialize (baseFeeGroup, epoch)
  | distributeBaseNcnRewardRoute ncnFeeGroup epoch =>
    23 :: (u8.prod u64).serialize (ncnFeeGroup, epoch)
  | distributeNcnOperatorRewards ncnFeeGroup epoch =>
    24 :: (u8.prod u64).serialize (ncnFeeGroup, epoch)
  | distributeNcnVaultRewards ncnFeeGroup epoch =>
    25 :: (u8.prod u64).serialize (ncnFeeGroup, epoch)
  | claimWithPayer proof amount bump =>
    26 :: (bytes32.vec.prod (u64.prod u8)).serialize (proof, amount, bump)
  | closeEpochAccount epoch => 27 :: u64.serialize epoch
  | adminSetParameters startingValidEpoch epochsBeforeStall epochsAfterConsensusBeforeClose
      validSlotsAfterConsensus =>
    28 :: adminSetParametersArgs.serialize (startingValidEpoch, epochsBeforeStall,
      epochsAfterConsensusBeforeClose, validSlotsAfterConsensus)
  | adminSetConfigFees newBlockEngineFeeBps baseFeeGroup newBaseFeeWallet newBaseFeeBps ncnFeeGroup
      newNcnFeeBps =>
    29 :: adminSetConfigFeesArgs.serialize (newBlockEngineFeeBps, baseFeeGroup, newBaseFeeWallet,
      newBaseFeeBps, ncnFeeGroup, newNcnFeeBps)
  | adminSetNewAdmin role => 30 :: configAdminRole.serialize role
  | adminSetTieBreaker metaMerkleRoot epoch =>
    31 :: (bytes32.prod u64).serialize (metaMerkleRoot, epoch)
  | adminSetWeight stMint weight epoch =>
    32 :: (pubkey.prod (u128.prod u64)).serialize (stMint, weight, epoch)
  | adminRegisterStMint ncnFeeGroup rewardMultiplierBps switchboardFeed noFeedWeight =>
    33 :: adminRegisterStMintArgs.serialize (ncnFeeGroup, rewardMultiplierBps, switchboardFeed,
      noFeedWeight)
  | adminSetStMint stMint ncnFeeGroup rewardMultiplierBps switchboardFeed noFeedWeight =>
    34 :: adminSetStMintArgs.serialize (stMint, ncnFeeGroup, rewardMultiplierBps, switchboardFeed,
      noFeedWeight)

def deserialize : List UInt8 → Option (TipRouterInstruction × List UInt8)
  | 0 :: buffer => initializeConfigArgs.read (↿initializeConfig) buffer
  | 1 :: buffer => some (initializeVaultRegistry, buffer)
  | 2 :: buffer => some (reallocVaultRegistry, buffer)
  | 3 :: buffer => some (registerVault, buffer)
  | 4 :: buffer => u64.read initializeEpochState buffer
  | 5 :: buffer => u64.read reallocEpochState buffer
  | 6 :: buffer => u64.read initializeWeightTable buffer
  | 7 :: buffer => u64.read reallocWeightTable buffer
  | 8 :: buffer => (pubkey.prod u64).read (↿switchboardSetWeight) buffer
  | 9 :: buffer => u64.read initializeEpochSnapshot buffer
  | 10 :: buffer => u64.read initializeOperatorSnapshot buffer
  | 11 :: buffer => u64.read reallocOperatorSnapshot buffer
  | 12 :: buffer => u64.read snapshotVaultOperatorDelegation buffer
  | 13 :: buffer => u64.read initializeBallotBox buffer
  | 14 :: buffer => u64.read reallocBallotBox buffer
  | 15 :: buffer => (bytes32.prod u64).read (↿castVote) buffer
  | 16 :: buffer => setMerkleRootArgs.read (↿setMerkleRoot) buffer
  | 17 :: buffer => u64.read initializeBaseRewardRouter buffer
  | 18 :: buffer => u64.read reallocBaseRewardRouter buffer
  | 19 :: buffer => (u8.prod u64).read (↿initializeNcnRewardRouter) buffer
  | 20 :: buffer => (u16.prod u64).read (↿routeBaseRewards) buffer
  | 21 :: buffer => (u8.prod (u16.prod u64)).read (↿routeNcnRewards) buffer
  | 22 :: buffer => (u8.prod u64).read (↿distributeBaseRewards) buffer
  | 23 :: buffer => (u8.prod u64).read (↿distributeBaseNcnRewardRoute) buffer
  | 24 :: buffer => (u8.prod u64).read (↿distributeNcnOperatorRewards) buffer
  | 25 :: buffer => (u8.prod u64).read (↿distributeNcnVaultRewards) buffer
  | 26 :: buffer => (bytes32.vec.prod (u64.prod u8)).read (↿claimWithPayer) buffer
  | 27 :: buffer => u64.read closeEpochAccount buffer
  | 28 :: buffer => adminSetParametersArgs.read (↿adminSetParameters) buffer
  | 29 :: buffer => adminSetConfigFeesArgs.read (↿adminSetConfigFees) buffer
  | 30 :: buffer => configAdminRole.read adminSetNewAdmin buffer
  | 31 :: buffer => (bytes32.prod u64).read (↿adminSetTieBreaker) buffer
  | 32 :: buffer => (pubkey.prod (u128.prod u64)).read (↿adminSetWeight) buffer
  | 33 :: buffer => adminRegisterStMintArgs.read (↿adminRegisterStMint) buffer
  | 34 :: buffer => adminSetStMintArgs.read (↿adminSetStMint) buffer
  | _ => none

theorem deserialize_serialize (instruction : TipRouterInstruction) (rest : List UInt8) :
    deserialize (serialize instruction ++ rest) = some (instruction, rest) := by
  cases instruction with
  | initializeVaultRegistry => rfl
  | reallocVaultRegistry => rfl
  | registerVault => rfl
  | _ => simp only [serialize, List.cons_append, deserialize, read_serialize,
      Function.HasUncurry.uncurry, id_eq]

theorem eq_serialize {buffer rest : List UInt8} {instruction : TipRouterInstruction}
    (found : deserialize buffer = some (instruction, rest)) :
    buffer = serialize instruction ++ rest := by
  unfold deserialize at found
  split at found
  all_goals first
    | obtain ⟨args, rfl, rfl⟩ := read_eq_some found
      simp only [serialize, Function.HasUncurry.uncurry, id_eq, Prod.mk.eta, List.cons_append]
    | cases found
      rfl
    | cases found

/-- What `BorshSerialize` and `BorshDeserialize` derive for the instructions. -/
def format : Format TipRouterInstruction where
  serialize := serialize
  deserialize := deserialize
  deserialize_serialize := deserialize_serialize
  eq_serialize := eq_serialize

/-! ## The generated client -/

namespace Client

/-- `instruction_with_remaining_accounts`: the discriminator's own serialization, and then
that of the arguments. -/
def instructionData (discriminator : UInt8) (args : List UInt8) : List UInt8 :=
  u8.serialize discriminator ++ args

/-- `generated/instructions` is left in the middle of a merge. For the data of an instruction
it matters in `admin_set_parameters.rs` only, whose `HEAD` side has no `starting_valid_epoch`. -/
inductive MergeSide where
  | head
  | incoming
  deriving DecidableEq

def adminSetParametersHeadArgs : Format (Option UInt64 × Option UInt64 × Option UInt64) :=
  u64.option.prod (u64.option.prod u64.option)

def adminSetParametersData (side : MergeSide) (startingValidEpoch epochsBeforeStall
    epochsAfterConsensusBeforeClose validSlotsAfterConsensus : Option UInt64) : List UInt8 :=
  match side with
  | .head => instructionData 28 (adminSetParametersHeadArgs.serialize (epochsBeforeStall,
      epochsAfterConsensusBeforeClose, validSlotsAfterConsensus))
  | .incoming => instructionData 28 (adminSetParametersArgs.serialize (startingValidEpoch,
      epochsBeforeStall, epochsAfterConsensusBeforeClose, validSlotsAfterConsensus))

/-- What the builders under `generated/instructions` put into an instruction. -/
def data (side : MergeSide) : TipRouterInstruction → List UInt8
  | .initializeConfig blockEngineFeeBps daoFeeBps defaultNcnFeeBps epochsBeforeStall
      epochsAfterConsensusBeforeClose validSlotsAfterConsensus =>
    instructionData 0 (initializeConfigArgs.serialize (blockEngineFeeBps, daoFeeBps,
      defaultNcnFeeBps, epochsBeforeStall, epochsAfterConsensusBeforeClose,
      validSlotsAfterConsensus))
  | .initializeVaultRegistry => instructionData 1 []
  | .reallocVaultRegistry => instructionData 2 []
  | .registerVault => instructionData 3 []
  | .initializeEpochState epoch => instructionData 4 (u64.serialize epoch)
  | .reallocEpochState epoch => instructionData 5 (u64.serialize epoch)
  | .initializeWeightTable epoch => instructionData 6 (u64.serialize epoch)
  | .reallocWeightTable epoch => instructionData 7 (u64.serialize epoch)
  | .switchboardSetWeight stMint epoch =>
    instructionData 8 ((pubkey.prod u64).serialize (stMint, epoch))
  | .initializeEpochSnapshot epoch => instructionData 9 (u64.serialize epoch)
  | .initializeOperatorSnapshot epoch => instructionData 10 (u64.serialize epoch)
  | .reallocOperatorSnapshot epoch => instructionData 11 (u64.serialize epoch)
  | .snapshotVaultOperatorDelegation epoch => instructionData 12 (u64.serialize epoch)
  | .initializeBallotBox epoch => instructionData 13 (u64.serialize epoch)
  | .reallocBallotBox epoch => instructionData 14 (u64.serialize epoch)
  | .castVote metaMerkleRoot epoch =>
    instructionData 15 ((bytes32.prod u64).serialize (metaMerkleRoot, epoch))
  | .setMerkleRoot proof merkleRoot maxTotalClaim maxNumNodes epoch =>
    instructionData 16 (setMerkleRootArgs.serialize (proof, merkleRoot, maxTotalClaim, maxNumNodes,
      epoch))
  | .initializeBaseRewardRouter epoch => instructionData 17 (u64.serialize epoch)
  | .reallocBaseRewardRouter epoch => instructionData 18 (u64.serialize epoch)
  | .initializeNcnRewardRouter ncnFeeGroup epoch =>
    instructionData 19 ((u8.prod u64).serialize (ncnFeeGroup, epoch))
  | .routeBaseRewards maxIterations epoch =>
    instructionData 20 ((u16.prod u64).serialize (maxIterations, epoch))
  | .routeNcnRewards ncnFeeGroup maxIterations epoch =>
    instructionData 21 ((u8.prod (u16.prod u64)).serialize (ncnFeeGroup, maxIterations, epoch))
  | .distributeBaseRewards baseFeeGroup epoch =>
    instructionData 22 ((u8.prod u64).serialize (baseFeeGroup, epoch))
  | .distributeBaseNcnRewardRoute ncnFeeGroup epoch =>
    instructionData 23 ((u8.prod u64).serialize (ncnFeeGroup, epoch))
  | .distributeNcnOperatorRewards ncnFeeGroup epoch =>
    instructionData 24 ((u8.prod u64).serialize (ncnFeeGroup, epoch))
  | .distributeNcnVaultRewards ncnFeeGroup epoch =>
    instructionData 25 ((u8.prod u64).serialize (ncnFeeGroup, epoch))
  | .claimWithPayer proof amount bump =>
    instructionData 26 ((bytes32.vec.prod (u64.prod u8)).serialize (proof, amount, bump))
  | .closeEpochAccount epoch => instructionData 27 (u64.serialize epoch)
  | .adminSetParameters startingValidEpoch epochsBeforeStall epochsAfterConsensusBeforeClose
      validSlotsAfterConsensus =>
    adminSetParametersData side startingValidEpoch epochsBeforeStall
      epochsAfterConsensusBeforeClose validSlotsAfterConsensus
  | .adminSetConfigFees newBlockEngineFeeBps baseFeeGroup newBaseFeeWallet newBaseFeeBps ncnFeeGroup
      newNcnFeeBps =>
    instructionData 29 (adminSetConfigFeesArgs.serialize (newBlockEngineFeeBps, baseFeeGroup,
      newBaseFeeWallet, newBaseFeeBps, ncnFeeGroup, newNcnFeeBps))
  | .adminSetNewAdmin role => instructionData 30 (configAdminRole.serialize role)
  | .adminSetTieBreaker metaMerkleRoot epoch =>
    instructionData 31 ((bytes32.prod u64).serialize (metaMerkleRoot, epoch))
  | .adminSetWeight stMint weight epoch =>
    instructionData 32 ((pubkey.prod (u128.prod u64)).serialize (stMint, weight, epoch))
  | .adminRegisterStMint ncnFeeGroup rewardMultiplierBps switchboardFeed noFeedWeight =>
    instructionData 33 (adminRegisterStMintArgs.serialize (ncnFeeGroup, rewardMultiplierBps,
      switchboardFeed, noFeedWeight))
  | .adminSetStMint stMint ncnFeeGroup rewardMultiplierBps switchboardFeed noFeedWeight =>
    instructionData 34 (adminSetStMintArgs.serialize (stMint, ncnFeeGroup, rewardMultiplierBps,
      switchboardFeed, noFeedWeight))

theorem data_eq_serialize (instruction : TipRouterInstruction) :
    data .incoming instruction = instruction.serialize := by
  cases instruction <;> rfl

/-- Where the fourth parameter begins there is nothing to be read any more. -/
theorem adminSetParametersArgs_of_head (epochsBeforeStall epochsAfterConsensusBeforeClose
    validSlotsAfterConsensus : Option UInt64) :
    adminSetParametersArgs.deserialize (adminSetParametersHeadArgs.serialize
      (epochsBeforeStall, epochsAfterConsensusBeforeClose, validSlotsAfterConsensus)) = none := by
  change (u64.option.prod (u64.option.prod (u64.option.prod u64.option))).deserialize
    (u64.option.serialize epochsBeforeStall ++
      (u64.option.serialize epochsAfterConsensusBeforeClose ++
        u64.option.serialize validSlotsAfterConsensus)) = none
  rw [prod_deserialize, prod_deserialize,
    ← List.append_nil (u64.option.serialize validSlotsAfterConsensus), prod_deserialize]
  rfl

/-- `AdminSetParameters`. -/
def setsParameters : TipRouterInstruction → Bool
  | .adminSetParameters _ _ _ _ => true
  | _ => false

theorem head_refused {instruction : TipRouterInstruction}
    (sets : setsParameters instruction = true) :
    format.tryFromSlice (data .head instruction) = none := by
  cases instruction with
  | adminSetParameters startingValidEpoch epochsBeforeStall epochsAfterConsensusBeforeClose
      validSlotsAfterConsensus =>
    have unread : format.deserialize (data .head (.adminSetParameters startingValidEpoch
        epochsBeforeStall epochsAfterConsensusBeforeClose validSlotsAfterConsensus)) = none := by
      change Format.read adminSetParametersArgs _ (adminSetParametersHeadArgs.serialize
        (epochsBeforeStall, epochsAfterConsensusBeforeClose, validSlotsAfterConsensus)) = none
      rw [Format.read, adminSetParametersArgs_of_head]
      rfl
    rw [tryFromSlice, unread]
  | _ => cases sets

theorem data_side (side : MergeSide) {instruction : TipRouterInstruction}
    (other : setsParameters instruction = false) :
    data side instruction = data .incoming instruction := by
  cases instruction with
  | adminSetParameters => cases other
  | _ => rfl

/-- The program takes the bytes for an instruction if and only if the client builds these for
it, with the incoming side of the merge. With the `HEAD` side it is the same, but that the
program refuses every `AdminSetParameters`. -/
theorem accepted_iff_built {buffer : List UInt8} {instruction : TipRouterInstruction} :
    (format.tryFromSlice buffer = some instruction ↔ buffer = data .incoming instruction) ∧
      ∀ side, format.tryFromSlice (data side instruction) =
        if side = .head ∧ setsParameters instruction = true then none else some instruction := by
  have accepted : ∀ buffer,
      format.tryFromSlice buffer = some instruction ↔ buffer = data .incoming instruction := by
    intro buffer
    rw [data_eq_serialize]
    exact format.tryFromSlice_eq_some_iff
  refine ⟨accepted buffer, fun side => ?_⟩
  split
  · rename_i left
    obtain ⟨rfl, sets⟩ := left
    exact head_refused sets
  · rename_i right
    rw [accepted]
    cases side with
    | incoming => rfl
    | head => exact data_side .head (Bool.eq_false_iff.mpr fun sets => right ⟨rfl, sets⟩)

end Client

end TipRouterInstruction

end TipRouter
