import SolFrontier.StateStore.PendingLifecycle

/-! # Recovery of pending state

The remaining calls of the repository delete rows: a removal takes the row of its
id in whatever state it is, a purge takes settled rows only. Whatever calls ran and
however their transactions interleaved, a load returns the rows that were inserted
and that nothing has ended since.
-/

namespace SolFrontier.StateStore

open Foundation

section Row

variable {Row : Type} [PendingRow Row]

/-- What a call may do to one of the tables, deletions included. -/
inductive PendingChange (Row : Type) where
  | statement (statement : PendingStatement Row)
  | remove (requestId : String)
  | purge (cutoff : Int64)
  deriving DecidableEq, Repr

/-- `DELETE WHERE request_id = ?` and `DELETE WHERE state != 'pending' AND created_at <= ?`. -/
def RecoveryTable.change (table : RecoveryTable Row) : PendingChange Row → RecoveryTable Row
  | .statement statement => table.perform statement.command
  | .remove requestId => table.retain fun record => record.requestId ≠ requestId
  | .purge cutoff => table.retain fun record =>
      ¬ (record.state ≠ "pending" ∧ PendingRow.createdAt record.row ≤ cutoff)

namespace PendingChange

/-- The change ends a request: it replaces, settles, expires or removes its row.
A mark may name any state, and ends nothing when that is `pending`. -/
def Ends (row : Row) : PendingChange Row → Prop
  | .statement (.insert fresh) => PendingRow.requestId fresh = PendingRow.requestId row
  | .statement (.markTerminal requestId terminalState _) =>
      requestId = PendingRow.requestId row ∧ terminalState ≠ "pending"
  | .statement (.expire cutoff _) => PendingRow.createdAt row ≤ cutoff
  | .remove requestId => requestId = PendingRow.requestId row
  | .statement .none | .purge _ => False

end PendingChange

variable {table : RecoveryTable Row} {row : Row} {record : Recoverable Row} {requestId : String}

/-- The row that a load takes out of a record. -/
def Recoverable.live (record : Recoverable Row) : Option Row :=
  if record.state = "pending" then some record.row else none

omit [PendingRow Row] in
theorem Recoverable.live_eq_some :
    record.live = some row ↔ record.state = "pending" ∧ record.row = row := by
  simp [Recoverable.live]

theorem mem_loadPending_iff_live :
    row ∈ table.loadPending ↔
      (table.get (PendingRow.requestId row)).bind Recoverable.live = some row := by
  rw [mem_loadPending]
  simp only [Option.bind_eq_some_iff, Recoverable.live_eq_some]
  exact exists_congr fun _ => and_congr_right fun _ => and_comm

/-- A load returns a row at most once per id, and the oldest first. -/
theorem loadPending_nodup (table : RecoveryTable Row) :
    (table.loadPending.map PendingRow.requestId).Nodup := by
  have hrows : ((table.rows.filter fun record => record.state = "pending").map
      Recoverable.requestId).Nodup :=
    (List.Sublist.map _ List.filter_sublist).nodup table.nodup
  have hperm := List.mergeSort_perm
    ((table.rows.filter fun record => record.state = "pending").map Recoverable.row)
    fun left right => PendingRow.createdAt left ≤ PendingRow.createdAt right
  refine (hperm.map PendingRow.requestId).nodup_iff.mpr ?_
  rwa [List.map_map]

theorem loadPending_pairwise (table : RecoveryTable Row) :
    table.loadPending.Pairwise fun left right =>
      PendingRow.createdAt left ≤ PendingRow.createdAt right := by
  refine (List.pairwise_mergeSort ?_ ?_ _).imp ?_
  · intro left middle right hfirst hsecond
    simp only [decide_eq_true_eq] at hfirst hsecond ⊢
    exact Int64.le_trans hfirst hsecond
  · intro left right
    simpa using Int64.le_total _ _
  · exact fun h => of_decide_eq_true h

/-! ## One change -/

theorem live_terminalWrite {terminalState : String} {reason : Option String} :
    ((PendingStatement.terminalWrite terminalState reason).onRow record).live = some row ↔
      record.live = some row ∧ terminalState = "pending" := by
  by_cases hpending : record.state = "pending"
  · rw [Update.onRow_of_guard _ (by simpa [PendingStatement.terminalWrite] using hpending)]
    simp [PendingStatement.terminalWrite, Recoverable.live_eq_some, hpending, and_comm]
  · rw [Update.onRow_of_not_guard _ (by simpa [PendingStatement.terminalWrite] using hpending)]
    simp [Recoverable.live_eq_some, hpending]

theorem live_expireWrite {cutoff : Int64} {reason : Option String} :
    ((PendingStatement.expireWrite cutoff reason).onRow record).live = some row ↔
      record.live = some row ∧ ¬ PendingRow.createdAt row ≤ cutoff := by
  by_cases hold : record.state = "pending" ∧ PendingRow.createdAt record.row ≤ cutoff
  · rw [Update.onRow_of_guard _ (by simpa [PendingStatement.expireWrite] using hold)]
    simp only [PendingStatement.expireWrite, Recoverable.live_eq_some]
    constructor
    · rintro ⟨hstate, _⟩
      exact absurd hstate (by decide)
    · rintro ⟨⟨_, rfl⟩, hyoung⟩
      exact absurd hold.2 hyoung
  · rw [Update.onRow_of_not_guard _ (by simpa [PendingStatement.expireWrite] using hold)]
    simp only [Recoverable.live_eq_some]
    constructor
    · rintro ⟨hstate, rfl⟩
      exact ⟨⟨hstate, rfl⟩, fun hyoung => hold ⟨hstate, hyoung⟩⟩
    · exact And.left

/-- A purge passes over every live row. -/
theorem live_purge {cutoff : Int64} :
    ((some record).filter fun record =>
        ¬ (record.state ≠ "pending" ∧ PendingRow.createdAt record.row ≤ cutoff)).bind
      Recoverable.live = record.live := by
  by_cases hpending : record.state = "pending" <;>
    by_cases hold : PendingRow.createdAt record.row ≤ cutoff <;>
      simp [Recoverable.live, Option.filter, hpending, hold]

/-- A row is loaded after a change when the change inserts it, or when it was
loaded before and the change does not end it. -/
theorem mem_loadPending_change (change : PendingChange Row) :
    row ∈ (table.change change).loadPending ↔
      change = .statement (.insert row) ∨ row ∈ table.loadPending ∧ ¬ change.Ends row := by
  simp only [mem_loadPending_iff_live]
  cases change with
  | statement statement =>
      cases statement with
      | none => simp [RecoveryTable.change, PendingStatement.command, Table.perform,
          Table.execute, PendingChange.Ends]
      | insert fresh =>
          have hget : (table.perform (PendingStatement.insert fresh).command).get
              (PendingRow.requestId row) =
                if PendingRow.requestId row = PendingRow.requestId fresh then
                  some ⟨fresh, "pending", none⟩
                else table.get (PendingRow.requestId row) := Table.get_replace ..
          simp only [RecoveryTable.change, PendingChange.Ends, hget]
          by_cases hkey : PendingRow.requestId row = PendingRow.requestId fresh
          · simp [Recoverable.live, hkey]
          · have hne : fresh ≠ row := fun heq => hkey (congrArg _ heq.symm)
            simp [hkey, hne, Ne.symm hkey]
      | markTerminal target terminalState reason =>
          simp only [RecoveryTable.change, PendingStatement.command, Table.perform,
            Table.execute, Table.get_update, PendingChange.Ends]
          by_cases hkey : PendingRow.requestId row = target
          · rw [if_pos hkey, ← hkey]
            cases table.get (PendingRow.requestId row) with
            | none => simp
            | some record => simp [live_terminalWrite]
          · rw [if_neg hkey]
            simp [Ne.symm hkey]
      | expire cutoff reason =>
          simp only [RecoveryTable.change, PendingStatement.command, Table.perform,
            Table.get_sweep, PendingChange.Ends]
          cases table.get (PendingRow.requestId row) with
          | none => simp
          | some record => simp [live_expireWrite]
  | remove target =>
      simp only [RecoveryTable.change, Table.get_retain, PendingChange.Ends]
      cases hget : table.get (PendingRow.requestId row) with
      | none => simp
      | some record =>
          have hid : record.requestId = PendingRow.requestId row := Table.key_of_get hget
          by_cases hkey : target = PendingRow.requestId row
          · simp [Option.filter, hid, hkey]
          · simp [Option.filter, hid, hkey, Ne.symm hkey]
  | purge cutoff =>
      simp only [RecoveryTable.change, Table.get_retain, PendingChange.Ends]
      cases table.get (PendingRow.requestId row) with
      | none => simp
      | some record => rw [live_purge]; simp

/-! ## Histories -/

variable {State Label : Type}

/-- What a load returns after a history: each row that an insert brought in and
that no later change has ended, once, and the oldest first. -/
structure Recovered (change : Label → PendingChange Row) (history : List Label)
    (loaded : List Row) : Prop where
  exact : ∀ row, row ∈ loaded ↔ ∃ earlier label later, history = earlier ++ label :: later ∧
    change label = .statement (.insert row) ∧ ∀ other ∈ later, ¬ (change other).Ends row
  distinct : (loaded.map PendingRow.requestId).Nodup
  oldestFirst : loaded.Pairwise fun left right =>
    PendingRow.createdAt left ≤ PendingRow.createdAt right

theorem recovered_of_changes {machine : Machine State Label} {view : State → RecoveryTable Row}
    {change : Label → PendingChange Row} (hinit : view machine.init = .empty)
    (hview : ∀ state label, view (machine.step state label) = (view state).change (change label))
    (history : List Label) :
    Recovered change history (view (machine.after history)).loadPending where
  exact row := by
    apply machine.since_iff (fun state => row ∈ (view state).loadPending)
      (fun _ label => change label = .statement (.insert row))
      (fun label => (change label).Ends row)
    · rw [hinit, mem_loadPending_iff_live]
      simp
    · intro state label
      rw [hview, mem_loadPending_change]
  distinct := loadPending_nodup _
  oldestFirst := loadPending_pairwise _

end Row

/-! ## The repository -/

/-- What one transaction does to the three tables, deletions included. -/
structure PendingPart where
  approvals : PendingChange PendingApprovalRow := .statement .none
  signatures : PendingChange PendingSignatureRow := .statement .none
  completionMeta : PendingChange PendingCompletionMetaRow := .statement .none
  deriving DecidableEq, Repr

def PendingTransaction.part (transaction : PendingTransaction) : PendingPart where
  approvals := .statement transaction.approvals
  signatures := .statement transaction.signatures
  completionMeta := .statement transaction.completionMeta

def PendingTables.change (tables : PendingTables) (part : PendingPart) : PendingTables where
  approvals := RecoveryTable.change tables.approvals part.approvals
  signatures := RecoveryTable.change tables.signatures part.signatures
  completionMeta := RecoveryTable.change tables.completionMeta part.completionMeta

/-- All calls of the repository. -/
inductive RecoveryOp where
  | keep (op : PendingOp)
  | removePendingApproval (requestId : String)
  | removePendingSignature (requestId : String)
  | removeCompletionMeta (requestId : String)
  | purgeTerminal (retentionMs : Int64)
  deriving DecidableEq, Repr

/-- The transactions of each call, at the clock's reading in it. -/
def RecoveryOp.parts (now : Int64) : RecoveryOp → List PendingPart
  | keep op => (op.transactions now).map PendingTransaction.part
  | removePendingApproval requestId => [{ approvals := .remove requestId }]
  | removePendingSignature requestId => [{ signatures := .remove requestId }]
  | removeCompletionMeta requestId => [{ completionMeta := .remove requestId }]
  | purgeTerminal retentionMs =>
      let cutoff := now - retentionMs
      [{ approvals := .purge cutoff },
        { signatures := .purge cutoff },
        { completionMeta := .purge cutoff }]

/-- A call and the clock's reading in it. -/
abbrev RecoveryCall := RecoveryOp × Int64

def RecoveryCall.parts (call : RecoveryCall) : List PendingPart := call.1.parts call.2

/-- The repository, from empty tables, one transaction of one call at a time. -/
abbrev recoveryStore : Machine PendingTables (RecoveryCall × Nat) :=
  batchMachine PendingTables.empty PendingTables.change RecoveryCall.parts

/-- The part of a call that a label names; a call has no part beyond its last. -/
def RecoveryCall.part (label : RecoveryCall × Nat) : PendingPart :=
  (label.1.parts[label.2]?).getD {}

theorem recoveryStore_step (tables : PendingTables) (label : RecoveryCall × Nat) :
    recoveryStore.step tables label = tables.change (RecoveryCall.part label) := by
  show performPart _ _ tables label = _
  rw [performPart, RecoveryCall.part]
  cases (label.1.parts)[label.2]? with
  | none => rfl
  | some part => rfl

/-- Any calls with any ids at any times, their transactions interleaved in any way
and cut short anywhere: each load returns exactly the rows that an insert brought
in and that no later insert of the id, mark, expiry or removal has ended. -/
theorem recovery_exact (history : List (RecoveryCall × Nat)) :
    Recovered (fun label => (RecoveryCall.part label).approvals) history
        (recoveryStore.after history).loadPendingApprovals ∧
      Recovered (fun label => (RecoveryCall.part label).signatures) history
        (recoveryStore.after history).loadPendingSignatures ∧
      Recovered (fun label => (RecoveryCall.part label).completionMeta) history
        (recoveryStore.after history).loadCompletionMeta := by
  refine ⟨recovered_of_changes rfl (fun tables label => ?_) history,
    recovered_of_changes rfl (fun tables label => ?_) history,
    recovered_of_changes rfl (fun tables label => ?_) history⟩ <;>
  rw [recoveryStore_step] <;> rfl

end SolFrontier.StateStore
