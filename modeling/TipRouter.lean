import TipRouter.Runs
import TipRouter.Ledgers
import TipRouter.Borsh
import TipRouter.Retention
import TipRouter.Clients
import TipRouter.Resumption
import TipRouter.Slots
import TipRouter.FixedPoint
import TipRouter.Core
import TipRouter.PreciseNumber
import TipRouter.FeeGroups
import TipRouter.StakeWeights
import TipRouter.Accounts
import TipRouter.Instructions
import TipRouter.EpochState
import TipRouter.WeightTable
import TipRouter.KeyedSlots
import TipRouter.VaultRegistry
import TipRouter.WeightFinality
import TipRouter.EpochSnapshot
import TipRouter.SnapshotTotals
import TipRouter.BallotBox
import TipRouter.Voting
import TipRouter.BallotBoxRefinement
import TipRouter.BallotBoxCapacity
import TipRouter.Consensus
import TipRouter.Quorums
import TipRouter.BallotQuorums
import TipRouter.Fees
import TipRouter.Config
import TipRouter.FeeSchedule
import TipRouter.GeneratedMerkleTree
import TipRouter.FeeCharging
import TipRouter.HashTree
import TipRouter.MerkleTree
import TipRouter.MetaMerkleTree
import TipRouter.MetaMerkleProofs
import TipRouter.MetaMerkleSoundness
import TipRouter.BaseRewardRouter
import TipRouter.NcnRewardRouter
import TipRouter.RewardSplits
import TipRouter.VotedBallotBox
import TipRouter.BaseRouterOperations
import TipRouter.BaseRouterLedger
import TipRouter.BaseRouting
import TipRouter.BaseRouterShares
import TipRouter.FeeTables
import TipRouter.BaseRouterRecovery
import TipRouter.VotingPhases
import TipRouter.NcnRouterLedger
import TipRouter.NcnRouterShares
import TipRouter.NcnRouterRecovery
import TipRouter.RewardsInTransit
import TipRouter.EpochLifecycle
import TipRouter.EpochEffects
import TipRouter.EpochMirror
import TipRouter.EpochProgress
import TipRouter.EpochPhases
import TipRouter.EpochConsensus
import TipRouter.EpochElectorate
import TipRouter.EpochAgreement
import TipRouter.Submission
import TipRouter.RoutingPositions
import TipRouter.EpochPresence
import TipRouter.CrankClosing
import TipRouter.Keeper
import TipRouter.CrankDistribution
import TipRouter.Cranks
import TipRouter.EpochStatuses
import TipRouter.EpochClosing
import TipRouter.EpochClosability
import TipRouter.Treasury
import TipRouter.EpochWrites
import TipRouter.TreasuryPostings
import TipRouter.TreasuryLedgers
import TipRouter.OperatorIndices
import TipRouter.CanonicalSort
import TipRouter.StakeMetaGenerator
import TipRouter.EnumerationOrder
import TipRouter.MevClaims
import TipRouter.TipAllocation
import TipRouter.SnapshotBackups
