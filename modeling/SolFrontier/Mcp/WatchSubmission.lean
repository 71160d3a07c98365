import SolFrontier.Mcp.Effects

/-! # Single-shot submission and finalized-only observation

A signed payload is sent at most once. From the moment `sendTransaction` was
invoked, every transport error and every timeout is an unknown outcome: the
transaction may have landed.
-/

namespace SolFrontier.Mcp

open Foundation SolanaCore Program

/-- A duration, in nanoseconds like every instant. -/
def fromSecs (secs : Nat) : Nat := secs * 1000000000

def initialPollBackoff : Nat := fromSecs 2

def maxPollBackoff : Nat := fromSecs 8

def totalPollTimeout : Nat := fromSecs 120

def transientErrorTolerance : Nat := 3

/-- The disposition the execution state machine acts on. -/
inductive NetworkOutcome where
  /-- Nothing was sent, so the lease may be given back. -/
  | preBroadcastFailure (errorClass : String)
  | finalized (signature : String) (slot : UInt64)
  | onChainFailed (signature errorClass : String)
  /-- Something was sent, with an end nobody can prove. -/
  | unknown (signature errorClass : String)
  deriving DecidableEq, Repr

/-! ## Submission -/

inductive SubmissionError where
  | rpcError
  | heightFetchError
  | deserializationError
  deriving DecidableEq, Repr

structure SubmissionResult where
  signature : Signature
  lastValidBlockHeight : UInt64
  submissionBlockHeight : UInt64
  deriving DecidableEq, Repr

/-- Send exactly the given bytes, then read the height that anchors tracking.
The intent only says whom the send is counted for. -/
def submitTransaction (platform : Platform) (intentId : String) (signedTxBytes : List UInt8)
    (lastValidBlockHeight : UInt64) :
    Program mcpFace (Except SubmissionError SubmissionResult) :=
  match platform.deserializeTransaction signedTxBytes with
  | none => pure (.error .deserializationError)
  | some tx => do
      match ← request (.sendTransaction intentId tx) with
      | .error _ => pure (.error .rpcError)
      | .ok signature =>
          match ← request .blockHeight with
          | .error _ => pure (.error .heightFetchError)
          | .ok submissionBlockHeight =>
              pure (.ok { signature, lastValidBlockHeight, submissionBlockHeight })

/-! ## Observation -/

inductive PollDecision where
  | pending
  | finalized (slot : UInt64)
  | onChainFailed
  deriving DecidableEq, Repr

/-- Neither success nor failure is terminal before finality: a fork that is
not finalized can disappear, and its error with it. -/
def classifyStatus : Option TransactionStatus → PollDecision
  | none => .pending
  | some status =>
      match status.confirmationStatus with
      | some .finalized => if status.err.isSome then .onChainFailed else .finalized status.slot
      | some .confirmed | some .processed | none => .pending

namespace FinalityTracker

def observe (signature : Signature) (status : Option TransactionStatus) : Option NetworkOutcome :=
  match classifyStatus status with
  | .pending => none
  | .finalized slot => some (.finalized signature.text slot)
  | .onChainFailed => some (.onChainFailed signature.text "transaction_failed_on_chain")

def unknown (signature : Signature) (errorClass : String) : NetworkOutcome :=
  .unknown signature.text errorClass

end FinalityTracker

/-- A positive pause between two polls. -/
abbrev Backoff := { duration : Nat // 0 < duration }

def nextBackoff (current : Backoff) : Backoff :=
  ⟨min (current.1 * 2) maxPollBackoff, by
    have hpositive := current.2
    have hmax : 0 < maxPollBackoff := by decide
    omega⟩

/-- One round of polling ends it, or leaves the clock at a later instant. -/
inductive PollRound (seen deadline : Nat) where
  | stop (outcome : NetworkOutcome)
  | again (now : Nat) (hlater : seen < now) (hopen : now < deadline) (consecutiveErrors : Nat)

/-- Count one more error; more than the tolerance end the polling. -/
def afterPollError {seen deadline : Nat} (signature : Signature) (errorClass : String)
    (consecutiveErrors now : Nat) (hlater : seen < now) (hopen : now < deadline) :
    PollRound seen deadline :=
  if transientErrorTolerance < consecutiveErrors + 1 then
    .stop (FinalityTracker.unknown signature errorClass)
  else .again now hlater hopen (consecutiveErrors + 1)

/-- The body of the polling loop. -/
def pollOnce (signature : Signature) (deadline seen : Nat) (backoff : Backoff)
    (consecutiveErrors : Nat) : Program mcpFace (PollRound seen deadline) := do
  let before ← request (.instantNow seen)
  if deadline ≤ before.1 then
    pure (.stop (FinalityTracker.unknown signature "finality_timeout"))
  else
    let _ ← request (.sleep backoff.1)
    let woken ← request (.instantNow (before.1 + backoff.1))
    if hopen : deadline ≤ woken.1 then
      pure (.stop (FinalityTracker.unknown signature "finality_timeout"))
    else
      have hlater : seen < woken.1 := by
        have hbefore := before.2
        have hwoken := woken.2
        have hpositive := backoff.2
        omega
      have hopen : woken.1 < deadline := Nat.lt_of_not_le hopen
      match ← request .readClient with
      | .error _ =>
          pure (afterPollError signature "confirmation_rpc_unavailable" consecutiveErrors woken.1
            hlater hopen)
      | .ok _ =>
          match ← request (.signatureStatuses signature) with
          | .ok statuses =>
              match FinalityTracker.observe signature statuses.head?.join with
              | some outcome => pure (.stop outcome)
              | none => pure (.again woken.1 hlater hopen 0)
          | .error _ =>
              pure (afterPollError signature "confirmation_result_unknown" consecutiveErrors
                woken.1 hlater hopen)

/-- Poll until a finalized status, the deadline or too many errors in a row.
Every round moves the clock towards the deadline. -/
def pollLoop (signature : Signature) (deadline seen : Nat) (backoff : Backoff)
    (consecutiveErrors : Nat) : Program mcpFace NetworkOutcome := do
  match ← pollOnce signature deadline seen backoff consecutiveErrors with
  | .stop outcome => pure outcome
  | .again now _ _ consecutiveErrors =>
      pollLoop signature deadline now (nextBackoff backoff) consecutiveErrors
termination_by deadline - seen

def pollFinalized (signature : Signature) : Program mcpFace NetworkOutcome := do
  let start ← request (.instantNow 0)
  pollLoop signature (start.1 + totalPollTimeout) start.1 ⟨initialPollBackoff, by decide⟩ 0

/-- Submit once and wait for finalized commitment, never sending again. -/
def submitOnceAndObserve (platform : Platform) (intentId : String)
    (payload : ReviewedSignedPayload) : Program mcpFace NetworkOutcome := do
  match ← request .writeClient with
  | .error _ => pure (.preBroadcastFailure "rpc_write_client_unavailable")
  | .ok _ =>
      match ← submitTransaction platform intentId payload.signedTransactionBytes
          payload.lastValidBlockHeight with
      | .error .deserializationError =>
          pure (.preBroadcastFailure "signed_transaction_deserialize_failed")
      | .error .rpcError =>
          pure (FinalityTracker.unknown payload.signature "send_result_unknown")
      -- The send returned; only the auxiliary height read failed.
      | .error .heightFetchError => pollFinalized payload.signature
      | .ok submitted =>
          if submitted.signature ≠ payload.signature then
            pure (FinalityTracker.unknown payload.signature "rpc_signature_mismatch")
          else pollFinalized payload.signature

end SolFrontier.Mcp
