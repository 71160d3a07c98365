import SolFrontier.Foundation.Batches

/-! # Durable pending state

Three tables keep what a restart must recover: approvals that wait for a human,
signatures that wait for a wallet, and the fee to book when a signature arrives.
Every row carries a state. Startup recovers the `pending` rows; the others stay
behind for correlation.
-/

namespace SolFrontier.StateStore

open Foundation

structure PendingApprovalRow where
  requestId : String
  sessionId : String
  transactionId : String
  description : String
  walletPubkey : String
  approvalJson : String
  txBytesHex : String
  simulationJson : String
  verdictJson : String
  createdAt : Int64
  deriving DecidableEq, Repr

structure PendingSignatureRow where
  requestId : String
  sessionId : String
  transactionId : String
  expectedSigner : String
  description : String
  finalizedTxBytes : List UInt8
  adapterType : String
  createdAt : Int64
  deriving DecidableEq, Repr

structure PendingCompletionMetaRow where
  requestId : String
  feeLamports : Option Int64
  createdAt : Int64
  deriving DecidableEq, Repr

/-- A row with its state. Completion metadata has no column for a reason and
never states one. -/
structure Recoverable (Row : Type) where
  row : Row
  state : String
  terminalReason : Option String
  deriving DecidableEq, Repr

/-- How the three tables name and date their rows. -/
class PendingRow (Row : Type) where
  requestId : Row → String
  createdAt : Row → Int64

instance : PendingRow PendingApprovalRow := ⟨(·.requestId), (·.createdAt)⟩
instance : PendingRow PendingSignatureRow := ⟨(·.requestId), (·.createdAt)⟩
instance : PendingRow PendingCompletionMetaRow := ⟨(·.requestId), (·.createdAt)⟩

section Row

variable {Row : Type} [PendingRow Row]

def Recoverable.requestId (record : Recoverable Row) : String := PendingRow.requestId record.row

variable (Row) in
abbrev RecoveryTable := Table (Recoverable Row) String Recoverable.requestId

/-- What a call may do to one of the tables. -/
inductive PendingStatement (Row : Type) where
  | none
  | insert (row : Row)
  | markTerminal (requestId terminalState : String) (reason : Option String)
  | expire (cutoff : Int64) (reason : Option String)
  deriving DecidableEq, Repr

namespace PendingStatement

/-- `SET state = ?, terminal_reason = ? WHERE request_id = ? AND state = 'pending'`. -/
def terminalWrite (terminalState : String) (reason : Option String) :
    Update (@Recoverable.requestId Row _) where
  guard record := record.state = "pending"
  set record := { record with state := terminalState, terminalReason := reason }
  key_set _ := rfl

/-- `SET state = 'expired' WHERE state = 'pending' AND created_at <= ?`. -/
def expireWrite (cutoff : Int64) (reason : Option String) :
    Update (@Recoverable.requestId Row _) where
  guard record := record.state = "pending" && PendingRow.createdAt record.row ≤ cutoff
  set record := { record with state := "expired", terminalReason := reason }
  key_set _ := rfl

/-- An insert replaces a row of its id, in whatever state that is. -/
def command : PendingStatement Row → Command (@Recoverable.requestId Row _)
  | none => .single .read
  | insert row => .replace ⟨row, "pending", .none⟩
  | markTerminal requestId terminalState reason =>
      .single (.update requestId (terminalWrite terminalState reason))
  | expire cutoff reason => .sweep (expireWrite cutoff reason)

end PendingStatement

/-- Only the pending rows, oldest first. -/
def RecoveryTable.loadPending (table : RecoveryTable Row) : List Row :=
  ((table.rows.filter fun record => record.state = "pending").map Recoverable.row).mergeSort
    fun left right => PendingRow.createdAt left ≤ PendingRow.createdAt right

end Row

structure PendingTables where
  approvals : RecoveryTable PendingApprovalRow
  signatures : RecoveryTable PendingSignatureRow
  completionMeta : RecoveryTable PendingCompletionMetaRow

/-- What one transaction does to the three tables. -/
structure PendingTransaction where
  approvals : PendingStatement PendingApprovalRow := .none
  signatures : PendingStatement PendingSignatureRow := .none
  completionMeta : PendingStatement PendingCompletionMetaRow := .none
  deriving DecidableEq, Repr

namespace PendingTables

def empty : PendingTables := ⟨.empty, .empty, .empty⟩

def perform (tables : PendingTables) (transaction : PendingTransaction) : PendingTables where
  approvals := tables.approvals.perform transaction.approvals.command
  signatures := tables.signatures.perform transaction.signatures.command
  completionMeta := tables.completionMeta.perform transaction.completionMeta.command

def loadPendingApprovals (tables : PendingTables) : List PendingApprovalRow :=
  tables.approvals.loadPending

def loadPendingSignatures (tables : PendingTables) : List PendingSignatureRow :=
  tables.signatures.loadPending

def loadCompletionMeta (tables : PendingTables) : List PendingCompletionMetaRow :=
  tables.completionMeta.loadPending

end PendingTables

/-- The calls of the repository that neither remove nor purge. -/
inductive PendingOp where
  | insertPendingApproval (requestId sessionId transactionId description walletPubkey approvalJson
      txBytesHex simulationJson verdictJson : String)
  | markApprovalTerminal (requestId terminalState : String) (reason : Option String)
  | loadPendingApprovals
  | insertPendingSignature (requestId sessionId transactionId expectedSigner description : String)
      (finalizedTxBytes : List UInt8) (adapterType : String)
  | markSignatureTerminal (requestId terminalState : String) (reason : Option String)
  | loadPendingSignatures
  | insertSignatureAndMeta (requestId sessionId transactionId expectedSigner description : String)
      (finalizedTxBytes : List UInt8) (adapterType : String) (feeLamports : Option UInt64)
  | insertCompletionMeta (requestId : String) (feeLamports : Option UInt64)
  | markCompletionMetaTerminal (requestId terminalState : String)
  | loadCompletionMeta
  | expireOlderThan (maxAgeMs : Int64)
  deriving DecidableEq, Repr

/-- The reason a sweep records. -/
def ttlExceeded : String := "TTL exceeded on startup"

namespace PendingOp

/-- The transactions of each call, at the clock's reading in it. -/
def transactions (now : Int64) : PendingOp → List PendingTransaction
  | insertPendingApproval requestId sessionId transactionId description walletPubkey approvalJson
      txBytesHex simulationJson verdictJson =>
      [{ approvals := .insert
          { requestId, sessionId, transactionId, description, walletPubkey, approvalJson, txBytesHex
            simulationJson, verdictJson
            createdAt := now } }]
  | markApprovalTerminal requestId terminalState reason =>
      [{ approvals := .markTerminal requestId terminalState reason }]
  | insertPendingSignature requestId sessionId transactionId expectedSigner description
      finalizedTxBytes adapterType =>
      [{ signatures := .insert
          { requestId, sessionId, transactionId, expectedSigner, description, finalizedTxBytes
            adapterType
            createdAt := now } }]
  | markSignatureTerminal requestId terminalState reason =>
      [{ signatures := .markTerminal requestId terminalState reason }]
  | insertSignatureAndMeta requestId sessionId transactionId expectedSigner description
      finalizedTxBytes adapterType feeLamports =>
      [{ signatures := .insert
          { requestId, sessionId, transactionId, expectedSigner, description, finalizedTxBytes
            adapterType
            createdAt := now }
         completionMeta := .insert
          { requestId
            feeLamports := feeLamports.map UInt64.toInt64
            createdAt := now } }]
  | insertCompletionMeta requestId feeLamports =>
      [{ completionMeta := .insert
          { requestId
            feeLamports := feeLamports.map UInt64.toInt64
            createdAt := now } }]
  | markCompletionMetaTerminal requestId terminalState =>
      [{ completionMeta := .markTerminal requestId terminalState .none }]
  | expireOlderThan maxAgeMs =>
      let cutoff := now - maxAgeMs
      [{ approvals := .expire cutoff ttlExceeded },
        { signatures := .expire cutoff ttlExceeded },
        { completionMeta := .expire cutoff .none }]
  | loadPendingApprovals | loadPendingSignatures | loadCompletionMeta => []

end PendingOp

/-- A call and the clock's reading in it. -/
abbrev PendingCall := PendingOp × Int64

def PendingCall.transactions (call : PendingCall) : List PendingTransaction :=
  call.1.transactions call.2

/-- The repository, from empty tables, one transaction of one call at a time. -/
abbrev pendingStore : Machine PendingTables (PendingCall × Nat) :=
  batchMachine PendingTables.empty PendingTables.perform PendingCall.transactions

end SolFrontier.StateStore
