import SolFrontier.Foundation.Batches
import SolFrontier.Foundation.DateTime
import SolFrontier.Types.Transaction

/-! # Durable swap intents

One row for each intent that flows through the approval workflow. The row holds
the intent, what the policy ruled, an optional preview and the state of its
lifecycle; never transaction bytes.
-/

namespace SolFrontier.StateStore

open Foundation Types

/-! ## Lifecycle states -/

namespace JupiterState

def pendingApproval : String := "pending_approval"
def approvedWaitingJit : String := "approved_waiting_jit"
def jitBuilding : String := "jit_building"
def jitBuildFailed : String := "jit_build_failed"
def awaitingWalletSignature : String := "awaiting_wallet_signature"
def submitted : String := "submitted"
def rejected : String := "rejected"
def expired : String := "expired"

end JupiterState

/-- The declarative swap. Ids are held as the texts they are written to. -/
structure SwapIntent where
  id : String
  sessionId : String
  walletPubkey : String
  network : SolanaNetwork
  inputMint : String
  outputMint : String
  inputAmount : UInt64
  slippageBps : UInt16
  description : String
  /-- When the intent was created. -/
  createdAt : DateTime
  deriving DecidableEq, Repr

structure JupiterRow where
  intentId : String
  sessionId : String
  requestId : Option String
  walletPubkey : String
  network : String
  inputMint : String
  outputMint : String
  inputAmount : Int64
  slippageBps : Int64
  description : Option String
  state : String
  policyVerdictJson : Option String
  previewJson : Option String
  lastError : Option String
  createdAt : Int64
  updatedAt : Int64
  deriving DecidableEq, Repr

abbrev JupiterTable := Table JupiterRow String JupiterRow.intentId

def networkStr : SolanaNetwork → String
  | .mainnetBeta => "mainnet-beta"
  | .devnet => "devnet"
  | .testnet => "testnet"
  | .localnet => "localnet"

/-- The writing calls of the repository; a verdict and a preview come as the
texts they serialize to. -/
inductive JupiterOp where
  | insert (intent : SwapIntent) (requestId : Option String) (state : String)
      (policyVerdictJson previewJson : Option String)
  | attachRequestId (intentId requestId : String)
  | markState (intentId state : String) (lastError : Option String)
  | expireStuck (states : List String) (reason : String)
  deriving DecidableEq, Repr

namespace JupiterWrite

def attachRequestId (requestId : String) (now : Int64) : Update JupiterRow.intentId where
  guard _ := true
  set row := { row with requestId := some requestId, updatedAt := now }
  key_set _ := rfl

def markState (state : String) (lastError : Option String) (now : Int64) :
    Update JupiterRow.intentId where
  guard _ := true
  set row := { row with state, lastError, updatedAt := now }
  key_set _ := rfl

def expireStuck (state reason : String) (now : Int64) : Update JupiterRow.intentId where
  guard row := row.state = state
  set row := { row with state := "expired", lastError := some reason, updatedAt := now }
  key_set _ := rfl

end JupiterWrite

namespace JupiterOp

/-- The statements of each call, at the clock's reading in it. -/
def statements (now : Int64) : JupiterOp → List (Command JupiterRow.intentId)
  | insert intent requestId state policyVerdictJson previewJson =>
      [.single (.insert
        { intentId := intent.id
          sessionId := intent.sessionId
          requestId
          walletPubkey := intent.walletPubkey
          network := networkStr intent.network
          inputMint := intent.inputMint
          outputMint := intent.outputMint
          inputAmount := intent.inputAmount.toInt64
          slippageBps := intent.slippageBps.toUInt64.toInt64
          description := some intent.description
          state
          policyVerdictJson
          previewJson
          lastError := none
          createdAt := now
          updatedAt := now })]
  | attachRequestId intentId requestId =>
      [.single (.update intentId (JupiterWrite.attachRequestId requestId now))]
  | markState intentId state lastError =>
      [.single (.update intentId (JupiterWrite.markState state lastError now))]
  | expireStuck states reason =>
      states.map fun state => .sweep (JupiterWrite.expireStuck state reason now)

end JupiterOp

/-- A call and the clock's reading in it. -/
abbrev JupiterCall := JupiterOp × Int64

def JupiterCall.statements (call : JupiterCall) : List (Command JupiterRow.intentId) :=
  call.1.statements call.2

/-- The repository, from an empty table, one statement of one call at a time. -/
abbrev jupiterStore : Machine JupiterTable (JupiterCall × Nat) :=
  batchMachine Table.empty Table.perform JupiterCall.statements

end SolFrontier.StateStore
