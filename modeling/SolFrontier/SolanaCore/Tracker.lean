import Mathlib.Data.List.Sort
import SolFrontier.Foundation.History
import SolFrontier.SolanaCore.TxLifecycle

/-! # The transaction tracker

A polling worker over an in-memory map of tracking records. Between two awaits
the worker runs on its own; at an await, any caller may track a new signature.
One step of the model is one such stretch, so the phase of the current tick is
part of the state and the RPC's answers are inputs.
-/

namespace SolFrontier.SolanaCore

open Foundation

/-- A state change sent to the lifecycle persister, `from` one state `to` the next. -/
structure StateChange where
  signature : String
  transactionId : Uuid
  requestId : Uuid
  sessionId : String
  walletPubkey : String
  fromState : TxState
  toState : TxState
  blockHeight : UInt64
  deriving DecidableEq, Repr

/-! ## Adaptive polling -/

inductive PollTier where
  | hot
  | warm
  | cool
  | expiryWatch
  deriving DecidableEq, Repr

def PollTier.fromBlockDistance (distance : UInt64) : PollTier :=
  if distance ≤ 30 then .hot
  else if distance ≤ 100 then .warm
  else if distance ≤ 300 then .cool
  else .expiryWatch

/-- How many ticks to skip between two polls. -/
def PollTier.skipTicks : PollTier → UInt64
  | .hot => 0
  | .warm => 1
  | .cool => 4
  | .expiryWatch => 14

def maxBatchSize : Nat := 256

inductive TransactionConfirmationStatus where
  | processed
  | confirmed
  | finalized
  deriving DecidableEq, Repr

/-- One entry of a `getSignatureStatuses` reply; the error is its debug text. -/
structure TransactionStatus where
  slot : UInt64
  err : Option String
  confirmationStatus : Option TransactionConfirmationStatus
  deriving DecidableEq, Repr

def statusToObservation : Option TransactionStatus → RpcObservation
  | none => ⟨none, none, none⟩
  | some status =>
      { status := status.confirmationStatus.map fun
          | .processed => "processed"
          | .confirmed => "confirmed"
          | .finalized => "finalized"
        err := status.err
        slot := some status.slot }

/-- How often a dropped transaction may be sent again. -/
structure RetryPolicy where
  maxRetries : UInt32
  deriving DecidableEq, Repr

def RetryPolicy.default : RetryPolicy := ⟨3⟩

/-! ## State -/

abbrev TrackingMap := Table TrackingRecord String TrackingRecord.signature

/-- Where the worker is in its current tick. -/
inductive TickPhase where
  | waiting
  | fetchingHeight
  | fetchingStatuses (currentHeight : UInt64) (sigs : List String) (later : List (List String))
  | rebroadcasting (currentHeight : UInt64) (sig : String) (txBytes : List UInt8)
      (later : List (String × List UInt8))
  deriving DecidableEq, Repr

structure Tracker where
  tracking : TrackingMap
  /-- Everything sent on the change channel so far. -/
  changes : List StateChange
  tickCounter : UInt64
  phase : TickPhase

/-- The arguments of `track`. -/
structure TrackCall where
  signature : String
  transactionId : Uuid
  requestId : Uuid
  sessionId : String
  walletPubkey : String
  lastValidBlockHeight : UInt64
  submissionBlockHeight : UInt64
  signedTxBytes : Option (List UInt8)
  deriving DecidableEq, Repr

def TrackCall.record (call : TrackCall) : TrackingRecord :=
  .withBytes call.signature call.transactionId call.requestId call.sessionId call.walletPubkey
    call.lastValidBlockHeight call.submissionBlockHeight call.signedTxBytes

/-- What the worker waits for, and the calls other tasks make meanwhile. The
map iterates in an order it does not promise, given here by a rank. -/
inductive TrackerInput where
  | track (call : TrackCall)
  | tick
  | blockHeight (answer : Option UInt64) (rank : String → Nat)
  | signatureStatuses (answer : Option (List (Option TransactionStatus))) (rank : String → Nat)
  | rebroadcast (outcome : Except String Unit)

/-- The state a record is in after an observation. -/
def TrackingRecord.nextState (record : TrackingRecord) (currentHeight : UInt64)
    (status : Option TransactionStatus) : TxState :=
  calculateNextState record.state (statusToObservation status) currentHeight
    record.submissionBlockHeight record.lastValidBlockHeight

/-- The change a record's move to a new state sends. -/
def TrackingRecord.change (record : TrackingRecord) (newState : TxState)
    (currentHeight : UInt64) : StateChange where
  signature := record.signature
  transactionId := record.transactionId
  requestId := record.requestId
  sessionId := record.sessionId
  walletPubkey := record.walletPubkey
  fromState := record.state
  toState := newState
  blockHeight := currentHeight

namespace Tracker

/-- The current state of a tracked signature. -/
def getState (tracker : Tracker) (signature : String) : Option TxState :=
  (tracker.tracking.get signature).map TrackingRecord.state

/-- Begin tracking a signature; a tracked one is left alone. -/
def track (tracker : Tracker) (call : TrackCall) : Tracker :=
  { tracker with tracking := (tracker.tracking.insert call.record).getD tracker.tracking }

/-- A tracked signature keeps its record, a new one gets a fresh record. -/
theorem get_track (tracker : Tracker) (call : TrackCall) (signature : String) :
    (tracker.track call).tracking.get signature =
      if call.signature = signature ∧ tracker.tracking.get signature = none then some call.record
      else tracker.tracking.get signature := by
  unfold track
  cases hinsert : tracker.tracking.insert call.record with
  | none =>
      obtain ⟨record, hrecord⟩ := Table.insert_eq_none.mp hinsert
      rw [if_neg]
      · rfl
      · rintro ⟨rfl, hnone⟩
        exact absurd (hrecord.symm.trans hnone) (by simp)
  | some next =>
      have hfresh : tracker.tracking.get call.signature = none := Table.fresh_of_insert hinsert
      have hget := Table.get_insert hinsert signature
      by_cases heq : call.signature = signature
      · subst heq
        rw [if_pos ⟨rfl, hfresh⟩]
        exact hget.trans (if_pos rfl)
      · rw [if_neg fun h => heq h.1]
        exact hget.trans (if_neg (Ne.symm heq))

/-- The records in the map's iteration order. -/
def entries (tracker : Tracker) (rank : String → Nat) : List TrackingRecord :=
  tracker.tracking.rows.insertionSort fun left right =>
    rank left.signature ≤ rank right.signature

/-- The signatures whose tier is due at this tick. -/
def eligible (tracker : Tracker) (rank : String → Nat) (currentHeight : UInt64) : List String :=
  ((tracker.entries rank).filter fun record =>
    let distance := saturatingSub currentHeight record.submissionBlockHeight
    tracker.tickCounter % ((PollTier.fromBlockDistance distance).skipTicks + 1) = 0).map
    TrackingRecord.signature

/-- The record after its state changed. -/
def advance (newState : TxState) : Update TrackingRecord.signature where
  guard _ := true
  set record :=
    { record with
      slot := newState.slot.or record.slot
      err :=
        match newState with
        | .failed err => some err
        | _ => record.err
      state := newState }
  key_set _ := rfl

/-- Move a record to a new state, sending the change first. -/
def move (tracker : Tracker) (record : TrackingRecord) (currentHeight : UInt64)
    (newState : TxState) : Tracker :=
  { tracker with
    changes := tracker.changes ++ [record.change newState currentHeight]
    tracking := (tracker.tracking.update record.signature (advance newState)).1 }

/-- Apply one observation to the state machine. -/
def observe (tracker : Tracker) (currentHeight : UInt64) (sig : String)
    (status : Option TransactionStatus) : Tracker :=
  match tracker.tracking.get sig with
  | none => tracker
  | some record =>
      if record.nextState currentHeight status = record.state then tracker
      else tracker.move record currentHeight (record.nextState currentHeight status)

/-- Apply one batch of statuses, by position. -/
def observeAll (tracker : Tracker) (currentHeight : UInt64) (sigs : List String)
    (statuses : List (Option TransactionStatus)) : Tracker :=
  sigs.zipIdx.foldl
    (fun tracker (sig, i) => tracker.observe currentHeight sig (statuses[i]?).join) tracker

/-- The dropped transactions that may be sent again. -/
def rebroadcastCandidates (policy : RetryPolicy) (tracker : Tracker) (rank : String → Nat)
    (currentHeight : UInt64) : List (String × List UInt8) :=
  (tracker.entries rank).filterMap fun record =>
    if record.state = .dropped ∧ record.retryCount < policy.maxRetries ∧
        currentHeight ≤ record.lastValidBlockHeight then
      record.signedTxBytes.map fun txBytes => (record.signature, txBytes)
    else none

/-- The RPC took the transaction again: its grace period restarts. -/
def resubmitted (currentHeight : UInt64) : Update TrackingRecord.signature where
  guard _ := true
  set record :=
    { record with
      retryCount := record.retryCount + 1
      state := .submitted
      submissionBlockHeight := currentHeight }
  key_set _ := rfl

/-- The RPC refused it; the attempt still counts. -/
def refused : Update TrackingRecord.signature where
  guard _ := true
  set record := { record with retryCount := record.retryCount + 1 }
  key_set _ := rfl

/-- What the outcome of a rebroadcast writes. -/
def rebroadcastWrite (currentHeight : UInt64) :
    Except String Unit → Update TrackingRecord.signature
  | .ok () => resubmitted currentHeight
  | .error _ => refused

def recordRebroadcast (tracker : Tracker) (sig : String) (currentHeight : UInt64)
    (outcome : Except String Unit) : Tracker :=
  { tracker with
    tracking := (tracker.tracking.update sig (rebroadcastWrite currentHeight outcome)).1 }

/-- Remove the entries that need no tracking any more, ending the tick. -/
def cleanup (tracker : Tracker) (currentHeight : UInt64) : Tracker :=
  { tracker with
    tracking := tracker.tracking.retain fun record => shouldContinueTracking record currentHeight
    phase := .waiting }

/-- Await the next rebroadcast, or end the tick. -/
def awaitRebroadcast (tracker : Tracker) (currentHeight : UInt64) :
    List (String × List UInt8) → Tracker
  | [] => tracker.cleanup currentHeight
  | (sig, txBytes) :: later =>
      { tracker with phase := .rebroadcasting currentHeight sig txBytes later }

/-- Await the next batch of statuses, or go on to the rebroadcasts. -/
def awaitStatuses (policy : RetryPolicy) (tracker : Tracker) (rank : String → Nat)
    (currentHeight : UInt64) : List (List String) → Tracker
  | [] => tracker.awaitRebroadcast currentHeight
      (rebroadcastCandidates policy tracker rank currentHeight)
  | sigs :: later => { tracker with phase := .fetchingStatuses currentHeight sigs later }

/-- One stretch of the worker, or one call of another task. An input the
current phase does not wait for is ignored. -/
def step (policy : RetryPolicy) (tracker : Tracker) : TrackerInput → Tracker
  | .track call => tracker.track call
  | .tick =>
      match tracker.phase with
      | .waiting =>
          { tracker with
            tickCounter := tracker.tickCounter + 1
            phase := if tracker.tracking.rows.isEmpty then .waiting else .fetchingHeight }
      | _ => tracker
  | .blockHeight answer rank =>
      match tracker.phase, answer with
      | .fetchingHeight, none => { tracker with phase := .waiting }
      | .fetchingHeight, some currentHeight =>
          match (tracker.eligible rank currentHeight).toChunks maxBatchSize with
          | [] => { tracker with phase := .waiting }
          | sigs :: later => { tracker with phase := .fetchingStatuses currentHeight sigs later }
      | _, _ => tracker
  | .signatureStatuses answer rank =>
      match tracker.phase with
      | .fetchingStatuses currentHeight sigs later =>
          match answer with
          | none => tracker.awaitStatuses policy rank currentHeight later
          | some statuses =>
              (tracker.observeAll currentHeight sigs statuses).awaitStatuses policy rank
                currentHeight later
      | _ => tracker
  | .rebroadcast outcome =>
      match tracker.phase with
      | .rebroadcasting currentHeight sig _ later =>
          (tracker.recordRebroadcast sig currentHeight outcome).awaitRebroadcast currentHeight later
      | _ => tracker

end Tracker

/-- The tracker, from an empty map. -/
def trackerMachine (policy : RetryPolicy) : Machine Tracker TrackerInput where
  init := ⟨Table.empty, [], 0, .waiting⟩
  step := Tracker.step policy

end SolFrontier.SolanaCore
