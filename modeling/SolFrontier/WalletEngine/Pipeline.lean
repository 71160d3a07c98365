import SolFrontier.Foundation.Program
import SolFrontier.SolanaCore.Compute
import SolFrontier.Types.Policy

/-! # The simulation stage of the review pipeline

The pipeline prepends a compute budget, attaches a fresh blockhash and
simulates; when the simulation used few compute units it tightens the limit,
refreshes the blockhash and simulates again, falling back to the first result
when that second simulation fails. A simulated transaction should carry the
bytes some simulation of the run saw, with that simulation's result.
-/

namespace SolFrontier.WalletEngine

open Foundation SolanaCore Types

/-- The errors that the calls of the pipeline end with. -/
inductive SolanaError where
  | client (message : String)
  | poolExhausted
  deriving DecidableEq, Repr

inductive WalletError where
  | keyNotFound (pubkey : String)
  | signingFailed (error : String)
  | readOnly (pubkey : String)
  | approvalDenied
  | approvalTimedOut
  | simulationRequired
  | simulationFailed (error : String)
  | policyBlocked (verdict : PolicyVerdict)
  /-- The message changed between approval and signing; nothing was signed. -/
  | approvalTxDrift (expected actual : String)
  | invalidKeypair (error : String)
  | solana (error : SolanaError)
  | serialization (error : String)
  deriving DecidableEq, Repr

/-- What one `simulate` call of the simulation client returns. -/
structure SimulationOutput where
  success : Bool
  error : Option String
  computeUnitsUsed : Option UInt64
  logs : List String
  returnData : Option String
  feeLamports : Option UInt64
  accountDiffs : List AccountDiff
  deriving DecidableEq, Repr

def SimulationOutput.intoResult (output : SimulationOutput) : SimulationResult where
  success := output.success
  error := output.error
  computeUnitsUsed := output.computeUnitsUsed
  logs := output.logs
  returnData := output.returnData
  accountDiffs := output.accountDiffs
  feeLamports := output.feeLamports

/-- The typestate `simulate` produces. -/
structure SimulatedTransaction where
  inner : Transaction
  simulation : SimulationResult
  lastValidBlockHeight : UInt64
  deriving DecidableEq, Repr

/-- The calls the stage makes to the network. -/
inductive PipelineOp where
  | recentPrioritizationFees (accounts : List String)
  | getFresh
  | simulate (tx : Transaction)
  deriving DecidableEq, Repr

abbrev PipelineOp.Answer : PipelineOp → Type
  | recentPrioritizationFees _ => Except SolanaError (List UInt64)
  | getFresh => Except SolanaError (Hash × UInt64)
  | simulate _ => Except SolanaError SimulationOutput

abbrev pipelineFace : Interface := ⟨PipelineOp, PipelineOp.Answer⟩

open Program

def request (op : PipelineOp) : Program pipelineFace op.Answer := @perform pipelineFace op

@[simp] theorem request_bind {α : Type} (op : PipelineOp)
    (rest : op.Answer → Program pipelineFace α) : (request op >>= rest) = .call op rest := rfl

/-- Resolve the strategy; the caller names no accounts of its own. -/
def resolve : PriorityFeeStrategy → Program pipelineFace (Except SolanaError UInt64)
  | .none => pure (.ok 0)
  | .fixed fee => pure (.ok fee)
  | .percentile percentile accounts => do
      let fees ← request (.recentPrioritizationFees accounts)
      pure (fees.map fun fees => estimatePercentile fees percentile)
  | .dynamic maxMicrolamports => do
      let fees ← request (.recentPrioritizationFees [])
      pure (fees.map fun fees => min (estimatePercentile fees 75) maxMicrolamports)

/-- What the stage ends with; no result is a panic. -/
abbrev SimulateResult := Option (Except WalletError SimulatedTransaction)

/-- The stage's success, with the transaction and result it settled on. -/
def settle (tx : Transaction) (output : SimulationOutput) (lastValidBlockHeight : UInt64) :
    SimulateResult :=
  some (.ok ⟨tx, output.intoResult, lastValidBlockHeight⟩)

/-- Simulate the tightened transaction. When that fails, restore the default
limit and fall back to the first result. -/
def secondPass (sdk : Sdk) (tx : Transaction) (simOutput : SimulationOutput) :
    Program pipelineFace SimulateResult := do
  match ← request .getFresh with
  | .error e => pure (some (.error (.solana e)))
  | .ok (hash, lastValidBlockHeight) =>
      let tx := tx.withBlockhash hash
      let fallBack : SimulateResult := do
        let (_, tx) ← replaceComputeUnitLimit sdk tx defaultComputeUnits
        settle tx simOutput lastValidBlockHeight
      match ← request (.simulate tx) with
      | .ok sim2 =>
          if sim2.success then pure (settle tx sim2 lastValidBlockHeight) else pure fallBack
      | .error _ => pure fallBack

/-- After a successful first simulation: tighten the limit where it pays. -/
def optimize (sdk : Sdk) (tx : Transaction) (prepended : Bool) (simOutput : SimulationOutput)
    (lastValidBlockHeight : UInt64) : Program pipelineFace SimulateResult :=
  match simOutput.computeUnitsUsed with
  | none => pure (settle tx simOutput lastValidBlockHeight)
  | some cuUsed =>
      let derivedLimit := computeLimitFromSimulation cuUsed
      if prepended && shouldTighten defaultComputeUnits derivedLimit then
        match replaceComputeUnitLimit sdk tx derivedLimit with
        | none => pure none
        | some (false, tx) => pure (settle tx simOutput lastValidBlockHeight)
        | some (true, tx) => secondPass sdk tx simOutput
      else pure (settle tx simOutput lastValidBlockHeight)

/-- Attach a fresh blockhash and simulate the prepared transaction. -/
def firstPass (sdk : Sdk) (tx : Transaction) (prepended : Bool) :
    Program pipelineFace SimulateResult := do
  match ← request .getFresh with
  | .error e => pure (some (.error (.solana e)))
  | .ok (recentBlockhash, lastValidBlockHeight) =>
      let tx := tx.withBlockhash recentBlockhash
      match ← request (.simulate tx) with
      | .error e => pure (some (.error (.solana e)))
      | .ok simOutput =>
          if simOutput.success then optimize sdk tx prepended simOutput lastValidBlockHeight
          else pure (some (.error (.simulationFailed
            (simOutput.error.getD "unknown simulation error"))))

/-- The simulation stage. -/
def simulate (sdk : Sdk) (strategy : PriorityFeeStrategy) (tx : Transaction) :
    Program pipelineFace SimulateResult := do
  let resolved ← resolve strategy
  match prependComputeBudget sdk tx defaultComputeUnits (resolved.toOption.getD 0) with
  | none => pure none
  | some (prepended, tx) => firstPass sdk tx prepended

end SolFrontier.WalletEngine
