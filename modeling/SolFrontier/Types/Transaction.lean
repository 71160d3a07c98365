import Mathlib.Logic.Basic

/-! # Proposals and simulation results

What the stages of the review pipeline tell each other about a transaction:
the proposal with its instructions in readable form, and the result of a
simulation.
-/

namespace SolFrontier.Types

inductive SolanaNetwork where
  | mainnetBeta
  | devnet
  | testnet
  | localnet
  deriving DecidableEq, Repr

/-- Decoded details of a token transfer; the amount is in raw units. -/
structure TokenTransfer where
  mint : String
  amount : UInt64
  decimals : Option UInt8
  source : String
  destination : String
  deriving DecidableEq, Repr

structure AccountRole where
  pubkey : String
  label : Option String
  isSigner : Bool
  isWritable : Bool
  deriving DecidableEq, Repr

/-- One instruction for a human and for the policy. A legacy token transfer
names no mint, so token policies cannot see it. -/
structure InstructionSummary where
  programId : String
  programName : Option String
  description : String
  transferLamports : Option UInt64
  tokenTransfer : Option TokenTransfer
  isLegacyTokenTransfer : Bool
  accounts : List AccountRole
  deriving DecidableEq, Repr

structure TransactionProposal where
  walletPubkey : String
  network : SolanaNetwork
  description : String
  instructionsSummary : List InstructionSummary
  deriving DecidableEq, Repr

structure AccountDiff where
  pubkey : String
  lamportsBefore : Option UInt64
  lamportsAfter : Option UInt64
  dataChanged : Bool
  deriving DecidableEq, Repr

structure SimulationResult where
  success : Bool
  error : Option String
  computeUnitsUsed : Option UInt64
  logs : List String
  returnData : Option String
  accountDiffs : List AccountDiff
  feeLamports : Option UInt64
  deriving DecidableEq, Repr

end SolFrontier.Types
