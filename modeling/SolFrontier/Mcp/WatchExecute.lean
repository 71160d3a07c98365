import SolFrontier.Mcp.WatchSubmission

/-! # Execution of one revalidated candidate

The funding row is the sole execution lease. A worker takes it by one
compare-and-set, has the transaction reviewed and signed, submits once, and
maps the network's answer onto the store. The two writes that record a
finalized transaction are separate statements, rule first.
-/

namespace SolFrontier.Mcp

open Foundation SolanaCore StateStore Program

/-! ## The persistence adapter -/

namespace ExecutionState

def prebroadcastFailureReason : String := "execution_prebroadcast_failed"

def onchainFailureReason : String := "execution_onchain_failed"

inductive LeaseOutcome where
  | acquired
  | notAcquired (errorClass : String)
  | storeUnavailable (errorClass : String)
  deriving DecidableEq, Repr

inductive StateWriteOutcome where
  | applied
  | notApplied (errorClass : String)
  | storeUnavailable (errorClass : String)
  deriving DecidableEq, Repr

inductive FinalizedWriteOutcome where
  | completed
  | watchRuleNotCompleted (errorClass : String)
  | watchRuleStoreUnavailable (errorClass : String)
  | fundingNotCompletedAfterRule (errorClass : String) (watchRuleCompleted : Bool)
  | fundingStoreUnavailableAfterRule (errorClass : String) (watchRuleCompleted : Bool)
  deriving DecidableEq, Repr

/-- Acquire the funding lease. -/
def leaseAfterFinalRevalidation (intentId : String) (nowMs : Int64) :
    Program mcpFace LeaseOutcome := do
  match ← request (.funding (.leaseExecutionIfBudgetReserved intentId nowMs)) with
  | .ok 1 => pure .acquired
  | .ok _ => pure (.notAcquired "execution_lease_not_acquired")
  | .error _ => pure (.storeUnavailable "execution_lease_store_unavailable")

/-- Give the lease back after a failure known to precede any broadcast. -/
def releasePrebroadcastFailure (intentId : String) : Program mcpFace StateWriteOutcome := do
  match ← request (.funding
      (.releaseExecutionLeaseToBudgetReserved intentId prebroadcastFailureReason)) with
  | .ok 1 => pure .applied
  | .ok _ => pure (.notApplied "execution_release_not_applied")
  | .error _ => pure (.storeUnavailable "execution_release_store_unavailable")

/-- A finalized failure ends the funding row only. -/
def markOnchainFailed (intentId : String) : Program mcpFace StateWriteOutcome := do
  match ← request (.funding (.markFailed intentId onchainFailureReason)) with
  | .ok 1 => pure .applied
  | .ok _ => pure (.notApplied "execution_failure_not_recorded")
  | .error _ => pure (.storeUnavailable "execution_failure_store_unavailable")

/-- Record a finalized success, the watch rule first and the funding row second. -/
def markFinalized (intentId : String) (ruleId : Bytes 16) (usedAmountRaw finalizedSlot : UInt64)
    (executionSignature : String) : Program mcpFace FinalizedWriteOutcome := do
  match ← request (.rules (.markCompleted ruleId usedAmountRaw finalizedSlot)) with
  | .ok 1 =>
      match ← request (.funding (.markCompletedIfExecuting intentId executionSignature)) with
      | .ok 1 => pure .completed
      | .ok _ => pure (.fundingNotCompletedAfterRule
          "funding_completion_not_applied_after_rule_completed" true)
      | .error _ => pure (.fundingStoreUnavailableAfterRule
          "funding_completion_store_unavailable_after_rule_completed" true)
  | .ok _ => pure (.watchRuleNotCompleted "watch_rule_completion_not_applied")
  | .error _ => pure (.watchRuleStoreUnavailable "watch_rule_completion_store_unavailable")

end ExecutionState

open ExecutionState

/-! ## Reports -/

structure ExecutionAttemptReport where
  intentId : String
  amountRaw : String
  status : String
  signature : Option String
  finalizedSlot : Option UInt64
  errorClass : Option String
  fundingState : String
  watchRuleState : String
  /-- A missing audit record ends the whole cycle. -/
  abortRemainingCycle : Bool
  deriving DecidableEq, Repr

def executionAttemptAbortsCycle (report : ExecutionAttemptReport) : Bool :=
  report.abortRemainingCycle

def ExecutionAttemptReport.base (candidate : RevalidatedExecutionCandidate) :
    ExecutionAttemptReport where
  intentId := candidate.intentId
  amountRaw := toString candidate.amountRaw
  status := "internal"
  signature := none
  finalizedSlot := none
  errorClass := none
  fundingState := "budget_reserved"
  watchRuleState := "unchanged"
  abortRemainingCycle := false

def stateWriteReport (outcome : StateWriteOutcome) (appliedStatus failureStatus : String) :
    String × Option String :=
  match outcome with
  | .applied => (appliedStatus, none)
  | .notApplied errorClass | .storeUnavailable errorClass => (failureStatus, some errorClass)

def finalizedReport (base : ExecutionAttemptReport) (signature : String) (slot : UInt64) :
    FinalizedWriteOutcome → ExecutionAttemptReport
  | .completed =>
      { base with
        status := "completed"
        signature := some signature
        finalizedSlot := some slot
        fundingState := "completed"
        watchRuleState := "completed" }
  | .watchRuleNotCompleted errorClass | .watchRuleStoreUnavailable errorClass =>
      { base with
        status := "finalized_state_write_failed"
        signature := some signature
        finalizedSlot := some slot
        errorClass := some errorClass
        fundingState := "executing"
        watchRuleState := "unchanged_or_unknown" }
  | .fundingNotCompletedAfterRule errorClass true
  | .fundingStoreUnavailableAfterRule errorClass true =>
      { base with
        status := "completed_split_state_manual_reconciliation_required"
        signature := some signature
        finalizedSlot := some slot
        errorClass := some errorClass
        fundingState := "executing_or_completed_unknown"
        watchRuleState := "completed" }
  | .fundingNotCompletedAfterRule _ false | .fundingStoreUnavailableAfterRule _ false =>
      { base with
        status := "finalized_state_invariant_broken"
        signature := some signature
        finalizedSlot := some slot
        errorClass := some "watch_rule_completion_evidence_missing"
        fundingState := "executing_or_completed_unknown"
        watchRuleState := "unknown" }

/-! ## The worker -/

def transactionReviewSerializationFailed : String :=
  "execute_transaction_review_serialization_failed_before_signing"

def transactionReviewIntegrityFailed : String :=
  "execute_transaction_review_integrity_failed_before_signing"

/-- Give the lease back and report how that went. -/
def reportRelease (candidate : RevalidatedExecutionCandidate)
    (successStatus originalError : String) (abortRemainingCycle : Bool) :
    Program mcpFace ExecutionAttemptReport := do
  let release ← releasePrebroadcastFailure candidate.intentId
  let (status, writeError) :=
    stateWriteReport release successStatus "prebroadcast_release_failed"
  pure
    { ExecutionAttemptReport.base candidate with
      status
      errorClass := writeError.or (some originalError)
      fundingState :=
        if writeError.isNone then "budget_reserved" else "executing_or_budget_reserved_unknown"
      abortRemainingCycle }

/-- Act on what the network said. -/
def recordOutcome (candidate : RevalidatedExecutionCandidate) :
    NetworkOutcome → Program mcpFace ExecutionAttemptReport
  | .preBroadcastFailure errorClass =>
      reportRelease candidate "prebroadcast_failed" errorClass false
  -- The transaction may have landed: no repository call, the row stays executing.
  | .unknown signature errorClass =>
      pure
        { ExecutionAttemptReport.base candidate with
          status := "result_unknown_manual_reconciliation_required"
          signature := some signature
          errorClass := some errorClass
          fundingState := "executing" }
  | .onChainFailed signature errorClass => do
      let write ← markOnchainFailed candidate.intentId
      let (status, writeError) :=
        stateWriteReport write "failed" "onchain_failure_state_write_failed"
      pure
        { ExecutionAttemptReport.base candidate with
          status
          signature := some signature
          errorClass := writeError.or (some errorClass)
          fundingState := if writeError.isNone then "failed" else "executing_or_failed_unknown" }
  | .finalized signature slot => do
      let write ← markFinalized candidate.intentId candidate.ruleId candidate.amountRaw slot
        signature
      pure (finalizedReport (ExecutionAttemptReport.base candidate) signature slot write)

/-- The part of a run that holds the lease. -/
def executeLeased (platform : Platform) (candidate : RevalidatedExecutionCandidate) :
    Program mcpFace ExecutionAttemptReport := do
  match ← request (.reviewAndSign candidate) with
  | .error errorClass =>
      reportRelease candidate "prebroadcast_failed" errorClass
        (errorClass = transactionReviewSerializationFailed ∨
          errorClass = transactionReviewIntegrityFailed)
  | .ok payload =>
      let outcome ← submitOnceAndObserve platform candidate.intentId payload
      recordOutcome candidate outcome

/-- Run one candidate; the lease is always the first write. -/
def executeRevalidatedCandidate (platform : Platform)
    (candidate : RevalidatedExecutionCandidate) : Program mcpFace ExecutionAttemptReport := do
  let leaseNowMs ← request .nowMs
  match ← leaseAfterFinalRevalidation candidate.intentId leaseNowMs with
  | .acquired => executeLeased platform candidate
  | .notAcquired errorClass | .storeUnavailable errorClass =>
      pure
        { ExecutionAttemptReport.base candidate with
          status := "lease_not_acquired"
          errorClass := some errorClass
          fundingState := "unknown_or_not_budget_reserved" }

end SolFrontier.Mcp
