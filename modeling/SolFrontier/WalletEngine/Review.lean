import SolFrontier.Foundation.Sha256
import SolFrontier.Foundation.Traces
import SolFrontier.WalletEngine.Pipeline

/-! # Policy and signing stages of the review pipeline

A simulated transaction whose policy verdict is not a blocked one becomes an
approved transaction, bound to its message by a hash. Signing checks the hash
again and asks the signer, a human, or nobody.
-/

namespace SolFrontier.WalletEngine

open Foundation SolanaCore Types Program

/-- How the approval step behaves. A timeout is in nanoseconds. -/
inductive ApprovalMode where
  | automatic
  | requireHuman (timeout : Nat)
  | dryRun
  /-- The operator has approved already, out of band. -/
  | humanGranted
  deriving DecidableEq, Repr

def ApprovalMode.isRequireHuman : ApprovalMode → Bool
  | requireHuman _ => true
  | _ => false

def approvalTxDomain : List UInt8 := utf8Bytes "clawsol-approval-tx-v1"

/-- The domain-separated commitment to the bytes of a message. -/
def approvalTxHash (messageBytes : List UInt8) : Bytes 32 :=
  Sha256.digest (approvalTxDomain ++ 0 :: messageBytes)

/-- A simulated transaction with a verdict that is not blocked, and the
commitment captured when it was approved. -/
structure ApprovedTransaction where
  inner : SimulatedTransaction
  policyVerdict : PolicyVerdict
  approvalTxHash : Bytes 32
  notBlocked : policyVerdict.isBlocked = false
  deriving DecidableEq, Repr

def ApprovedTransaction.newUnchecked (inner : SimulatedTransaction) (policyVerdict : PolicyVerdict)
    (notBlocked : policyVerdict.isBlocked = false) : ApprovedTransaction where
  inner
  policyVerdict
  approvalTxHash := WalletEngine.approvalTxHash inner.inner.message.serialize
  notBlocked

inductive PipelineResult where
  | signed (simulation : SimulationResult) (policyVerdict : PolicyVerdict) (signature : String)
  | dryRun (simulation : SimulationResult) (policyVerdict : PolicyVerdict)
  | awaitingApproval (simulation : SimulationResult) (policyVerdict : PolicyVerdict)
      (finalizedTx : Transaction)
  | policyBlocked (simulation : SimulationResult) (policyVerdict : PolicyVerdict)
  | simulationFailed (error : String)
  deriving DecidableEq, Repr

/-! ## Error texts -/

def SolanaError.text : SolanaError → String
  | client message => "RPC client error: " ++ message
  | poolExhausted => "RPC pool exhausted — all endpoints unhealthy"

def WalletError.text : WalletError → String
  | keyNotFound pubkey => "key not found for pubkey: " ++ pubkey
  | signingFailed error => "signing failed: " ++ error
  | readOnly pubkey => "wallet is read-only: " ++ pubkey
  | approvalDenied => "approval denied by operator"
  | approvalTimedOut => "approval timed out"
  | simulationRequired => "simulation required before signing, but simulation has not been run"
  | simulationFailed error => "simulation failed: " ++ error
  | policyBlocked verdict => "policy blocked transaction: " ++ verdict.label
  | approvalTxDrift expected actual =>
      "approval drift detected: expected " ++ expected ++ ", actual " ++ actual
  | invalidKeypair error => "invalid keypair data: " ++ error
  | solana error => "Solana error: " ++ error.text
  | serialization error => "serialization error: " ++ error

/-! ## Policy -/

/-- Ask the policy about the simulation. -/
def evaluatePolicy (simulated : SimulatedTransaction)
    (policyCheck : SimulationResult → PolicyVerdict) : Except WalletError ApprovedTransaction :=
  let verdict := policyCheck simulated.simulation
  if hblocked : verdict.isBlocked then .error (.policyBlocked verdict)
  else .ok (.newUnchecked simulated verdict (Bool.eq_false_of_not_eq_true hblocked))

section Policy

variable {simulated : SimulatedTransaction} {policyCheck : SimulationResult → PolicyVerdict}

theorem evaluatePolicy_of_blocked
    (hblocked : (policyCheck simulated.simulation).isBlocked = true) :
    evaluatePolicy simulated policyCheck =
      .error (.policyBlocked (policyCheck simulated.simulation)) := by
  simp [evaluatePolicy, hblocked]

theorem evaluatePolicy_of_not_blocked
    (hblocked : (policyCheck simulated.simulation).isBlocked = false) :
    evaluatePolicy simulated policyCheck =
      .ok (.newUnchecked simulated (policyCheck simulated.simulation) hblocked) := by
  simp [evaluatePolicy, hblocked]

theorem evaluatePolicy_ok {approved : ApprovedTransaction}
    (hpolicy : evaluatePolicy simulated policyCheck = .ok approved) :
    approved.inner = simulated ∧ approved.policyVerdict = policyCheck simulated.simulation := by
  cases hblocked : (policyCheck simulated.simulation).isBlocked with
  | true =>
      rw [evaluatePolicy_of_blocked hblocked] at hpolicy
      cases hpolicy
  | false =>
      rw [evaluatePolicy_of_not_blocked hblocked] at hpolicy
      obtain rfl := Except.ok.inj hpolicy
      exact ⟨rfl, rfl⟩

end Policy

/-! ## Signing -/

/-- A signer changes the transaction it is given and answers with a signature. -/
abbrev SignerRef (m : Type → Type) := Transaction → m (Transaction × Except WalletError (Bytes 64))

def signatureText (signature : Bytes 64) : String := base58Encode signature.1

section Sign

variable {m : Type → Type} [Monad m] (signer : SignerRef m)

/-- Have the signer sign. -/
def signWith (approved : ApprovedTransaction) : m (Except WalletError PipelineResult) := do
  let (_, answer) ← signer approved.inner.inner
  pure (answer.map fun signature =>
    .signed approved.inner.simulation approved.policyVerdict (signatureText signature))

/-- The signing stage. -/
def sign (mode : ApprovalMode) (approved : ApprovedTransaction) :
    m (Except WalletError PipelineResult) :=
  let simulation := approved.inner.simulation
  let policyVerdict := approved.policyVerdict
  let currentHash := approvalTxHash approved.inner.inner.message.serialize
  let awaitingApproval := .ok (.awaitingApproval simulation policyVerdict approved.inner.inner)
  if mode = .dryRun then pure (.ok (.dryRun simulation policyVerdict))
  -- The message must be the one that was approved, on every path that signs.
  else if currentHash ≠ approved.approvalTxHash then
    pure (.error (.approvalTxDrift (hexEncode approved.approvalTxHash.1) (hexEncode currentHash.1)))
  else if mode = .humanGranted then signWith signer approved
  else if policyVerdict.requiresHuman && mode = .automatic then pure awaitingApproval
  else if mode.isRequireHuman && (policyVerdict.requiresHuman || !policyVerdict.isAutoApproved) then
    pure awaitingApproval
  else signWith signer approved

/-- Automatic signing of what was just approved, with a verdict that asks for
no human. -/
theorem sign_automatic_newUnchecked {simulated : SimulatedTransaction} {verdict : PolicyVerdict}
    (hblocked : verdict.isBlocked = false) (hhuman : verdict.requiresHuman = false) :
    sign signer .automatic (.newUnchecked simulated verdict hblocked) =
      signWith signer (.newUnchecked simulated verdict hblocked) := by
  simp [sign, ApprovedTransaction.newUnchecked, hhuman, ApprovalMode.isRequireHuman]

end Sign

/-! ## The pipeline -/

/-- The calls of the pipeline: to the network, and to the signer. -/
inductive WalletOp where
  | rpc (op : PipelineOp)
  | signTransaction (tx : Transaction)
  deriving DecidableEq, Repr

/-- A signer may do anything to the transaction it is given. -/
abbrev WalletOp.Answer : WalletOp → Type
  | rpc op => op.Answer
  | signTransaction _ => Transaction × Except WalletError (Bytes 64)

abbrev walletFace : Interface := ⟨WalletOp, WalletOp.Answer⟩

def rpcPort : Port pipelineFace walletFace := ⟨.rpc, fun _ => .refl _⟩

/-- The signer behind the interface. -/
def walletSigner : SignerRef (Program walletFace) := fun tx => @perform walletFace (.signTransaction tx)

/-- What follows a successful simulation. -/
def reviewSimulated (mode : ApprovalMode) (policyCheck : SimulationResult → PolicyVerdict)
    (simulated : SimulatedTransaction) : Program walletFace PipelineResult :=
  match evaluatePolicy simulated policyCheck with
  | .error (.policyBlocked verdict) => pure (.policyBlocked simulated.simulation verdict)
  | .error e => pure (.simulationFailed ("policy evaluation error: " ++ e.text))
  | .ok approved => do
      match ← sign walletSigner mode approved with
      | .ok result => pure result
      | .error e => pure (.simulationFailed ("signing error: " ++ e.text))

/-- All stages in order; no result is a panic. -/
def run (sdk : Sdk) (strategy : PriorityFeeStrategy) (mode : ApprovalMode) (tx : Transaction)
    (policyCheck : SimulationResult → PolicyVerdict) :
    Program walletFace (Option PipelineResult) := do
  match ← (simulate sdk strategy tx).via rpcPort with
  | none => pure none
  | some (.error (.simulationFailed error)) => pure (some (.simulationFailed error))
  | some (.error e) => pure (some (.simulationFailed ("simulation error: " ++ e.text)))
  | some (.ok simulated) => do
      let result ← reviewSimulated mode policyCheck simulated
      pure (some result)

end SolFrontier.WalletEngine
