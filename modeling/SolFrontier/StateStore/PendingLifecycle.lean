import SolFrontier.StateStore.PendingState

/-! # Settled requests

Marks and sweeps write only pending rows, but an insert replaces the row of its
id whatever its state. A settled request therefore comes back exactly when an
insert names it again.
-/

namespace SolFrontier.StateStore

open Foundation

/-- The terminal states of the module documentation. -/
def settledStates : List String := ["consumed", "expired", "rejected"]

theorem not_pending_of_settled {state : String} (hsettled : state ∈ settledStates) :
    state ≠ "pending" := by
  rintro rfl
  exact absurd hsettled (by decide)

section Table

variable {Row : Type} [PendingRow Row] {table : RecoveryTable Row} {requestId : String}
  {record : Recoverable Row}

/-- A row that is not pending stays as it is, unless an insert replaces it. -/
theorem get_perform_of_not_pending (statement : PendingStatement Row)
    (hget : table.get requestId = some record) (hstate : record.state ≠ "pending") :
    (table.perform statement.command).get requestId = some record ∨
    ∃ row, statement = .insert row ∧ PendingRow.requestId row = requestId ∧
      (table.perform statement.command).get requestId = some ⟨row, "pending", none⟩ := by
  rcases Table.get_perform_of_some statement.command hget with
    hsame | ⟨fresh, hcommand, hkey, hnext⟩ | ⟨write, hwrites, hguard, _⟩
  · exact .inl hsame
  · cases statement with
    | insert row =>
        obtain rfl := Command.replace.inj hcommand
        exact .inr ⟨row, rfl, hkey, hnext⟩
    | none | markTerminal | expire => cases hcommand
  · -- The guard of every write in place asks for a pending row.
    refine absurd ?_ hstate
    cases statement with
    | none | insert => rcases hwrites with h | h <;> cases h
    | markTerminal target terminalState reason =>
        rcases hwrites with h | h
        · obtain ⟨_, rfl⟩ := Statement.update.inj (Command.single.inj h)
          exact of_decide_eq_true hguard
        · cases h
    | expire cutoff reason =>
        rcases hwrites with h | h
        · cases h
        · obtain rfl := Command.sweep.inj h
          exact of_decide_eq_true (Bool.and_eq_true_iff.mp hguard).1

theorem get_perform_insert {row : Row} (hkey : PendingRow.requestId row = requestId) :
    (table.perform (PendingStatement.insert row).command).get requestId =
      some ⟨row, "pending", none⟩ :=
  (Table.get_replace table ⟨row, "pending", none⟩ requestId).trans (if_pos hkey.symm)

/-- A load returns the pending rows and no others. -/
theorem mem_loadPending {row : Row} :
    row ∈ table.loadPending ↔
      ∃ record, table.get (PendingRow.requestId row) = some record ∧ record.row = row ∧
        record.state = "pending" := by
  simp only [RecoveryTable.loadPending, List.mem_mergeSort, List.mem_map, List.mem_filter,
    decide_eq_true_eq]
  constructor
  · rintro ⟨record, ⟨hmem, hpending⟩, rfl⟩
    exact ⟨record, Table.get_of_mem hmem, rfl, hpending⟩
  · rintro ⟨record, hget, hrow, hpending⟩
    exact ⟨record, ⟨Table.mem_of_get hget, hpending⟩, hrow⟩

end Table

section View

variable {State Label Row : Type} [PendingRow Row] (machine : Machine State Label)
  (view : State → RecoveryTable Row) (statement : Label → PendingStatement Row)

/-- Once its row is settled, a request is never pending again, and no load
returns it. -/
def NeverResurrected (history : List Label) : Prop :=
  ∀ earlier middle later requestId record, history = earlier ++ middle ++ later →
    (view (machine.after earlier)).get requestId = some record → record.state ∈ settledStates →
    (∃ current, (view (machine.after (earlier ++ middle))).get requestId = some current ∧
      current.state ≠ "pending") ∧
    ∀ row ∈ (view (machine.after (earlier ++ middle))).loadPending,
      PendingRow.requestId row ≠ requestId

/-- No insert names a request whose row is settled. -/
def InsertsUnsettled (history : List Label) : Prop :=
  machine.Throughout (fun state label => ∀ row record, statement label = .insert row →
    (view state).get (PendingRow.requestId row) = some record →
    record.state ∉ settledStates) history

variable {machine view statement}

/-- One table of a machine whose steps perform the table's statements. -/
theorem neverResurrected_iff
    (hview : ∀ state label, view (machine.step state label) =
      (view state).perform (statement label).command) (history : List Label) :
    NeverResurrected machine view history ↔ InsertsUnsettled machine view statement history := by
  constructor
  · rintro hnever earlier label later rfl row record hinsert hget hsettled
    obtain ⟨⟨current, hcurrent, hstate⟩, _⟩ := hnever earlier [label] later
      (PendingRow.requestId row) record (List.append_cons ..) hget hsettled
    rw [Machine.after_concat, hview, hinsert, get_perform_insert rfl] at hcurrent
    obtain rfl := Option.some.inj hcurrent
    exact hstate rfl
  · rintro hunsettled earlier middle later requestId record rfl hget hsettled
    have hkept : ∀ middle, InsertsUnsettled machine view statement (earlier ++ middle) →
        (view (machine.after (earlier ++ middle))).get requestId = some record := by
      intro middle hunsettled
      induction middle using List.reverseRecOn with
      | nil => rwa [List.append_nil]
      | append_singleton middle label ih =>
          rw [← List.append_assoc] at hunsettled ⊢
          obtain ⟨hbefore, hlast⟩ := machine.throughout_concat.mp hunsettled
          have hnow := ih hbefore
          rw [Machine.after_concat, hview]
          rcases get_perform_of_not_pending (statement label) hnow
            (not_pending_of_settled hsettled) with hsame | ⟨row, hinsert, hkey, _⟩
          · exact hsame
          · rw [← hkey] at hnow
            exact absurd hsettled (hlast row record hinsert hnow)
    have hcurrent := hkept middle (machine.throughout_of_append hunsettled)
    refine ⟨⟨record, hcurrent, not_pending_of_settled hsettled⟩, ?_⟩
    rintro row hrow rfl
    obtain ⟨loaded, hloaded, _, hpending⟩ := mem_loadPending.mp hrow
    obtain rfl := Option.some.inj (hcurrent.symm.trans hloaded)
    exact not_pending_of_settled hsettled hpending

end View

namespace PendingCall

/-- What a transaction of a call does to the approvals. -/
def onApprovals (label : PendingCall × Nat) : PendingStatement PendingApprovalRow :=
  ((label.1.transactions)[label.2]?).elim .none PendingTransaction.approvals

/-- What a transaction of a call does to the signatures. -/
def onSignatures (label : PendingCall × Nat) : PendingStatement PendingSignatureRow :=
  ((label.1.transactions)[label.2]?).elim .none PendingTransaction.signatures

end PendingCall

theorem approvals_step (tables : PendingTables) (label : PendingCall × Nat) :
    (pendingStore.step tables label).approvals =
      tables.approvals.perform (PendingCall.onApprovals label).command := by
  show (performPart _ _ tables label).approvals = _
  rw [performPart, PendingCall.onApprovals]
  cases (label.1.transactions)[label.2]? with
  | none => rfl
  | some transaction => rfl

theorem signatures_step (tables : PendingTables) (label : PendingCall × Nat) :
    (pendingStore.step tables label).signatures =
      tables.signatures.perform (PendingCall.onSignatures label).command := by
  show (performPart _ _ tables label).signatures = _
  rw [performPart, PendingCall.onSignatures]
  cases (label.1.transactions)[label.2]? with
  | none => rfl
  | some transaction => rfl

/-- Any calls with any ids, their transactions interleaved in any way: a settled
approval or signature is never resurrected exactly when no insert names one. -/
theorem pending_never_resurrected_iff (history : List (PendingCall × Nat)) :
    (NeverResurrected pendingStore PendingTables.approvals history ∧
      NeverResurrected pendingStore PendingTables.signatures history) ↔
    (InsertsUnsettled pendingStore PendingTables.approvals PendingCall.onApprovals history ∧
      InsertsUnsettled pendingStore PendingTables.signatures PendingCall.onSignatures history) :=
  and_congr (neverResurrected_iff approvals_step history)
    (neverResurrected_iff signatures_step history)

/-! ## A retried insert -/

def requestSignature (requestId : String) (now : Int64) : PendingCall × Nat :=
  ((.insertSignatureAndMeta requestId "session-1" "tx-1" "wallet-1" "pay" [1, 2] "external"
    (some 5000), now), 0)

/-- A signature that was consumed is pending again after its insert is retried. -/
theorem consumed_signature_resurrected :
    ∃ history, ¬ NeverResurrected pendingStore PendingTables.signatures history := by
  let settled : List (PendingCall × Nat) := [requestSignature "request-1" 1,
    ((.markSignatureTerminal "request-1" "consumed" none, 2), 0)]
  refine ⟨settled ++ [requestSignature "request-1" 3], ?_⟩
  intro hnever
  obtain ⟨record, hget, hstate⟩ : ∃ record,
      (pendingStore.after settled).signatures.get "request-1" = some record ∧
        record.state = "consumed" := ⟨_, rfl, rfl⟩
  obtain ⟨⟨current, hcurrent, hterminal⟩, _⟩ := hnever settled [requestSignature "request-1" 3] []
    "request-1" record (List.append_nil _).symm hget (by rw [hstate]; decide)
  have hpending : ((pendingStore.after (settled ++ [requestSignature "request-1" 3])).signatures.get
    "request-1").map Recoverable.state = some "pending" := rfl
  rw [hcurrent] at hpending
  exact hterminal (Option.some.inj hpending)

end SolFrontier.StateStore
