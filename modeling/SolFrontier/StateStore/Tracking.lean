import SolFrontier.Foundation.Repository
import SolFrontier.StateStore.Errors

/-! # Durable transaction tracking

One row for each signature, from its submission on. The rows survive a restart,
which resumes the ones whose state is still open.
-/

namespace SolFrontier.StateStore

open Foundation

structure TrackingRow where
  signature : String
  transactionId : String
  requestId : String
  sessionId : String
  walletPubkey : String
  state : String
  lastValidBlockHeight : Int64
  submissionBlockHeight : Int64
  slot : Option Int64
  err : Option String
  confirmedEmitted : Bool
  finalizedEmitted : Bool
  failedEmitted : Bool
  droppedEmitted : Bool
  expiredEmitted : Bool
  createdAt : Int64
  updatedAt : Int64
  deriving DecidableEq, Repr

abbrev TrackingTable := Table TrackingRow String TrackingRow.signature

/-- The calls of the tracking repository. -/
inductive TrackingOp where
  | insert (signature transactionId requestId sessionId walletPubkey : String)
      (lastValidBlockHeight submissionBlockHeight : UInt64)
  | updateState (signature newState : String) (slot : Option UInt64) (err : Option String)
  | markEventEmitted (signature eventColumn : String)
  | loadActive
  | markExpired (signature : String)
  deriving DecidableEq, Repr

namespace TrackingWrite

/-- A slot and an error that are not given stay as they were. -/
def updateState (newState : String) (slot : Option UInt64) (err : Option String) (nowMs : Int64) :
    Update TrackingRow.signature where
  guard _ := true
  set row :=
    { row with
      state := newState
      slot := (slot.map UInt64.toInt64).or row.slot
      err := err.or row.err
      updatedAt := nowMs }
  key_set _ := rfl

def markEventEmitted (eventColumn : String) (nowMs : Int64) : Update TrackingRow.signature where
  guard _ := true
  set row :=
    { row with
      confirmedEmitted := row.confirmedEmitted || eventColumn = "confirmed_emitted"
      finalizedEmitted := row.finalizedEmitted || eventColumn = "finalized_emitted"
      failedEmitted := row.failedEmitted || eventColumn = "failed_emitted"
      droppedEmitted := row.droppedEmitted || eventColumn = "dropped_emitted"
      expiredEmitted := row.expiredEmitted || eventColumn = "expired_emitted"
      updatedAt := nowMs }
  key_set _ := rfl

def markExpired (nowMs : Int64) : Update TrackingRow.signature where
  guard _ := true
  set row := { row with state := "expired", updatedAt := nowMs }
  key_set _ := rfl

end TrackingWrite

def validEventColumns : List String :=
  ["confirmed_emitted", "finalized_emitted", "failed_emitted", "dropped_emitted",
    "expired_emitted"]

namespace TrackingOp

/-- The statement of each call, at the clock's reading. An insert of a known
signature is ignored. -/
def statement (nowMs : Int64) : TrackingOp → Statement TrackingRow.signature
  | insert signature transactionId requestId sessionId walletPubkey lastValidBlockHeight
      submissionBlockHeight =>
      .insert
        { signature, transactionId, requestId, sessionId, walletPubkey
          state := "submitted"
          lastValidBlockHeight := lastValidBlockHeight.toInt64
          submissionBlockHeight := submissionBlockHeight.toInt64
          slot := none
          err := none
          confirmedEmitted := false
          finalizedEmitted := false
          failedEmitted := false
          droppedEmitted := false
          expiredEmitted := false
          createdAt := nowMs
          updatedAt := nowMs }
  | updateState signature newState slot err =>
      .update signature (TrackingWrite.updateState newState slot err nowMs)
  | markEventEmitted signature eventColumn =>
      if eventColumn ∈ validEventColumns then
        .update signature (TrackingWrite.markEventEmitted eventColumn nowMs)
      else .read
  | loadActive => .read
  | markExpired signature => .update signature (TrackingWrite.markExpired nowMs)

/-- What a call returns besides an error. -/
abbrev Answer : TrackingOp → Type
  | updateState .. => Bool
  | loadActive => List TrackingRow
  | _ => Unit

end TrackingOp

/-- The rows a restart resumes, oldest first. -/
def TrackingTable.loadActive (table : TrackingTable) : List TrackingRow :=
  (table.rows.filter fun row => row.state ∈ ["submitted", "confirmed", "dropped"]).mergeSort
    fun left right => left.createdAt ≤ right.createdAt

def TrackingOp.result (table : TrackingTable) :
    (op : TrackingOp) → Int64 → Except StoreError op.Answer
  | insert .., _ => .ok ()
  | op@(updateState ..), nowMs => .ok (table.affected (statement nowMs op) > 0)
  | markEventEmitted _ eventColumn, _ =>
      if eventColumn ∈ validEventColumns then .ok ()
      else .error (.integrityCheckFailed ("invalid event column: " ++ eventColumn))
  | loadActive, _ => .ok table.loadActive
  | markExpired _, _ => .ok ()

/-- The transaction tracking repository. -/
def trackingRepository : Repository TrackingRow.signature Int64 StoreError TrackingOp where
  Answer := TrackingOp.Answer
  statement := TrackingOp.statement
  result := TrackingOp.result

/-- A call and the clock's reading in it. -/
abbrev TrackingCall := TrackingOp × Int64

/-- The repository, from an empty table. -/
abbrev trackingStore : Machine TrackingTable TrackingCall :=
  tableMachine fun call => trackingRepository.statement call.2 call.1

end SolFrontier.StateStore
