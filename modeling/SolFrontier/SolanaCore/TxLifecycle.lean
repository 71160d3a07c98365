import SolFrontier.Foundation.Bytes

/-! # The transaction lifecycle

The pure state machine behind the tracker: one observation of a signature and
one block height give the next state of the transaction.
-/

namespace SolFrontier.SolanaCore

open Foundation

/-- The lifecycle state of a submitted transaction. -/
inductive TxState where
  | submitted
  | dropped
  | confirmed (slot : UInt64)
  | finalized (slot : UInt64)
  | failed (err : String)
  | expired
  deriving DecidableEq, Repr

namespace TxState

/-- The rank that enforces monotonic progress. `expired` shares the rank of
`dropped`, since a positive observation still overrides it. -/
def precedence : TxState → Nat
  | submitted => 0
  | dropped | expired => 1
  | confirmed _ => 2
  | failed _ => 3
  | finalized _ => 4

/-- The slot, in the states that carry one. -/
def slot : TxState → Option UInt64
  | confirmed slot | finalized slot => some slot
  | _ => none

end TxState

/-- What an RPC node reports about a signature; no status means the node does
not know the transaction. -/
structure RpcObservation where
  status : Option String
  err : Option String
  slot : Option UInt64
  deriving DecidableEq, Repr

/-- The RPC node has no information about the transaction. -/
def RpcObservation.isNull (observation : RpcObservation) : Bool := observation.status.isNone

abbrev Uuid := Bytes 16

structure TrackingRecord where
  signature : String
  transactionId : Uuid
  requestId : Uuid
  sessionId : String
  walletPubkey : String
  state : TxState
  lastValidBlockHeight : UInt64
  submissionBlockHeight : UInt64
  slot : Option UInt64
  err : Option String
  signedTxBytes : Option (List UInt8)
  retryCount : UInt32
  deriving DecidableEq, Repr

/-- A new record, in the `submitted` state. -/
def TrackingRecord.withBytes (signature : String) (transactionId requestId : Uuid)
    (sessionId walletPubkey : String) (lastValidBlockHeight submissionBlockHeight : UInt64)
    (signedTxBytes : Option (List UInt8)) : TrackingRecord where
  signature
  transactionId
  requestId
  sessionId
  walletPubkey
  state := .submitted
  lastValidBlockHeight
  submissionBlockHeight
  slot := none
  err := none
  signedTxBytes
  retryCount := 0

def droppedGraceBlocks : UInt64 := 50

def expiryTrackingBuffer : UInt64 := 32

/-- `u64::saturating_sub`. -/
def saturatingSub (left right : UInt64) : UInt64 :=
  if left ≤ right then 0 else left - right

/-- The single source of truth for all transitions. -/
def calculateNextState (current : TxState) (observation : RpcObservation)
    (currentBlockHeight submissionHeight lastValidHeight : UInt64) : TxState :=
  match current, observation.err, observation.status with
  | .finalized _, _, _ | .failed _, _, _ => current
  -- An on-chain error takes priority over every status.
  | _, some err, _ => .failed err
  | _, none, some status =>
      if status = "finalized" then .finalized (observation.slot.getD 0)
      else if status = "confirmed" then
        if current.precedence < (TxState.confirmed 0).precedence ∨ current = .expired then
          .confirmed (observation.slot.getD 0)
        else current
      -- "processed" is informational, and an unknown status preserves the state.
      else current
  -- A node that does not know the transaction never regresses a confirmation.
  | .confirmed _, none, none => current
  | _, none, none =>
      if lastValidHeight < currentBlockHeight then .expired
      else if droppedGraceBlocks ≤ saturatingSub currentBlockHeight submissionHeight ∧
          current = .submitted then
        .dropped
      else current

/-- Everything one observation can do to a state. -/
inductive Transition (observation : RpcObservation) (currentBlockHeight submissionHeight
    lastValidHeight : UInt64) : TxState → TxState → Prop
  | kept (state : TxState) : Transition observation _ _ _ state state
  | failed {state : TxState} (err : String) : state.precedence < (TxState.failed err).precedence →
      observation.err = some err → Transition observation _ _ _ state (.failed err)
  | finalized {state : TxState} (slot : UInt64) :
      state.precedence < (TxState.failed "").precedence → observation.err = none →
      observation.status = some "finalized" → Transition observation _ _ _ state (.finalized slot)
  | confirmed {state : TxState} (slot : UInt64) :
      state.precedence < (TxState.confirmed slot).precedence → observation.err = none →
      observation.status = some "confirmed" → Transition observation _ _ _ state (.confirmed slot)
  | expired {state : TxState} : state = .submitted ∨ state = .dropped → observation.err = none →
      observation.isNull = true → lastValidHeight < currentBlockHeight →
      Transition observation _ _ _ state .expired
  | dropped : observation.err = none → observation.isNull = true →
      droppedGraceBlocks ≤ saturatingSub currentBlockHeight submissionHeight →
      Transition observation _ _ _ .submitted .dropped

/-- An unconfirmed transaction that no node knows expires with its blockhash. -/
theorem Transition.expires {observation : RpcObservation}
    {currentBlockHeight submissionHeight lastValidHeight : UInt64} {state : TxState}
    (hfinalized : ∀ slot, state ≠ .finalized slot) (hfailed : ∀ err, state ≠ .failed err)
    (hconfirmed : ∀ slot, state ≠ .confirmed slot) (herr : observation.err = none)
    (hnull : observation.isNull = true) (hexpired : lastValidHeight < currentBlockHeight) :
    Transition observation currentBlockHeight submissionHeight lastValidHeight state .expired := by
  cases state with
  | submitted => exact .expired (.inl rfl) herr hnull hexpired
  | dropped => exact .expired (.inr rfl) herr hnull hexpired
  | confirmed slot => exact absurd rfl (hconfirmed slot)
  | finalized slot => exact absurd rfl (hfinalized slot)
  | failed err => exact absurd rfl (hfailed err)
  | expired => exact .kept _

theorem calculateNextState_transition (current : TxState) (observation : RpcObservation)
    (currentBlockHeight submissionHeight lastValidHeight : UInt64) :
    Transition observation currentBlockHeight submissionHeight lastValidHeight current
      (calculateNextState current observation currentBlockHeight submissionHeight
        lastValidHeight) := by
  obtain ⟨status, err, slot⟩ := observation
  have hopen : (∀ slot, current ≠ .finalized slot) → (∀ err, current ≠ .failed err) →
      current.precedence < 3 := by
    cases current <;> simp [TxState.precedence]
  unfold calculateNextState
  split
  · exact .kept _
  · exact .kept _
  next err hfinalized hfailed herr =>
    exact .failed err (hopen hfinalized hfailed) herr
  next status hfinalized hfailed herr hstatus =>
    split
    next heq => exact .finalized _ (hopen hfinalized hfailed) herr (heq ▸ hstatus)
    · split
      next heq =>
        split
        next hlower =>
          refine .confirmed _ ?_ herr (heq ▸ hstatus)
          rcases hlower with hlower | rfl
          · exact hlower
          · exact Nat.lt_add_one 1
        · exact .kept _
      · exact .kept _
  · exact .kept _
  next hfinalized hfailed hconfirmed herr hstatus =>
    have hnull : (RpcObservation.mk status err slot).isNull = true := by
      rw [RpcObservation.isNull, Option.isNone_iff_eq_none]
      exact hstatus
    split
    next hexpired => exact .expires hfinalized hfailed hconfirmed herr hnull hexpired
    · split
      next hgrace =>
        obtain ⟨hgrace, rfl⟩ := hgrace
        exact .dropped herr hnull hgrace
      · exact .kept _

/-- Whether a record stays tracked at this height. -/
def shouldContinueTracking (record : TrackingRecord) (currentBlockHeight : UInt64) : Bool :=
  match record.state with
  | .finalized _ | .failed _ => false
  | .expired => currentBlockHeight ≤ record.lastValidBlockHeight + expiryTrackingBuffer
  | .submitted | .dropped | .confirmed _ => true

end SolFrontier.SolanaCore
