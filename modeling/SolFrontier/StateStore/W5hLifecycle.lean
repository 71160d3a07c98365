import SolFrontier.StateStore.W5hFunding

/-! # The W5h lifecycle over whole histories

Every law here is about arbitrary sequences of repository calls, with arbitrary
clocks. The one relation `Changes` says what a granted transition does to its
row; each law is a case analysis over it.
-/

namespace SolFrontier.StateStore

open Foundation

/-- A call and the system clock's reading in it. -/
abbrev W5hCall := W5hOp × Int64

/-- The repository, from an empty table. -/
abbrev w5hStore : Machine W5hFundingTable W5hCall :=
  tableMachine fun call => call.1.statement call.2

/-- What a granted transition does to its row. -/
inductive W5hOp.Changes : W5hOp → RowRaw → RowRaw → Prop
  | submitted {id signature nowMs row} :
      row.status = .fundingRequired ∨ (row.status = .fundingSubmitted ∧
        (row.fundingSignature = none ∨ row.fundingSignature = some signature)) →
      Changes (.markFundingSubmittedIfRequired id signature) row
        { row with
          status := .fundingSubmitted
          fundingSignature := some signature
          updatedAtMs := nowMs }
  | reserved {id signature slot nowMs row} :
      row.status = .fundingSubmitted → row.fundingSignature = some signature →
      Changes (.markBudgetReservedIfSubmitted id signature slot) row
        { row with
          status := .budgetReserved
          fundingFinalizedSlot := some slot.toInt64
          updatedAtMs := nowMs }
  | invalid {id signature reason nowMs row} :
      row.status = .fundingSubmitted → row.fundingSignature = some signature →
      Changes (.markFundingInvalidIfSubmitted id signature reason) row
        { row with
          status := .fundingInvalid
          lastError := some reason
          updatedAtMs := nowMs }
  | leasedExecution {id nowMs row} :
      row.status = .budgetReserved → nowMs < row.expiresAtMs →
      Changes (.leaseExecutionIfBudgetReserved id nowMs) row
        { row with status := .executing, updatedAtMs := nowMs }
  | completed {id signature nowMs row} : row.status = .executing →
      Changes (.markCompletedIfExecuting id signature) row
        { row with
          status := .completed
          executionSignature := some signature
          updatedAtMs := nowMs }
  | released {id reason nowMs row} : row.status = .executing →
      Changes (.releaseExecutionLeaseToBudgetReserved id reason) row
        { row with
          status := .budgetReserved
          lastError := some reason
          updatedAtMs := nowMs }
  | expired {id nowMs row} :
      row.status = .budgetReserved → row.expiresAtMs ≤ nowMs →
      Changes (.markExpiredIfPast id nowMs) row
        { row with status := .expired, updatedAtMs := nowMs }
  | leasedRefund {id nowMs row} :
      row.status = .budgetReserved ∨ row.status = .expired → row.expiresAtMs ≤ nowMs →
      Changes (.leaseRefundIfExpiredOrPast id nowMs) row
        { row with status := .refunding, updatedAtMs := nowMs }
  | refunded {id signature nowMs row} : row.status = .refunding →
      Changes (.markRefundedIfRefunding id signature) row
        { row with
          status := .refunded
          refundSignature := some signature
          updatedAtMs := nowMs }
  | failed {id reason nowMs row} : row.status.isTerminal = false →
      Changes (.markFailed id reason) row
        { row with
          status := .failed
          lastError := some reason
          updatedAtMs := nowMs }

theorem W5hOp.changes_of_guard {op : W5hOp} {utcNowMs : Int64} {id : String}
    {write : Update RowRaw.intentId} {row : RowRaw} (hop : op.statement utcNowMs = .update id write)
    (hguard : write.guard row = true) : op.Changes row (write.set row) := by
  cases op with
  | get | listEligibleForRefund | listBudgetReserved | insert => simp [statement] at hop
  | markFundingSubmittedIfRequired =>
      obtain ⟨rfl, rfl⟩ := Statement.update.inj hop
      exact .submitted (by simpa [W5hWrite.markFundingSubmittedIfRequired] using hguard)
  | markBudgetReservedIfSubmitted =>
      obtain ⟨rfl, rfl⟩ := Statement.update.inj hop
      simp only [W5hWrite.markBudgetReservedIfSubmitted, decide_eq_true_eq] at hguard
      exact .reserved hguard.1 hguard.2
  | markFundingInvalidIfSubmitted =>
      obtain ⟨rfl, rfl⟩ := Statement.update.inj hop
      simp only [W5hWrite.markFundingInvalidIfSubmitted, decide_eq_true_eq] at hguard
      exact .invalid hguard.1 hguard.2
  | leaseExecutionIfBudgetReserved =>
      obtain ⟨rfl, rfl⟩ := Statement.update.inj hop
      simp only [W5hWrite.leaseExecutionIfBudgetReserved, decide_eq_true_eq] at hguard
      exact .leasedExecution hguard.1 hguard.2
  | markCompletedIfExecuting =>
      obtain ⟨rfl, rfl⟩ := Statement.update.inj hop
      exact .completed (by simpa [W5hWrite.markCompletedIfExecuting] using hguard)
  | releaseExecutionLeaseToBudgetReserved =>
      obtain ⟨rfl, rfl⟩ := Statement.update.inj hop
      exact .released (by simpa [W5hWrite.releaseExecutionLeaseToBudgetReserved] using hguard)
  | markExpiredIfPast =>
      obtain ⟨rfl, rfl⟩ := Statement.update.inj hop
      simp only [W5hWrite.markExpiredIfPast, decide_eq_true_eq] at hguard
      exact .expired hguard.1 hguard.2
  | leaseRefundIfExpiredOrPast =>
      obtain ⟨rfl, rfl⟩ := Statement.update.inj hop
      simp only [W5hWrite.leaseRefundIfExpiredOrPast, decide_eq_true_eq] at hguard
      exact .leasedRefund hguard.1 hguard.2
  | markRefundedIfRefunding =>
      obtain ⟨rfl, rfl⟩ := Statement.update.inj hop
      exact .refunded (by simpa [W5hWrite.markRefundedIfRefunding] using hguard)
  | markFailed =>
      obtain ⟨rfl, rfl⟩ := Statement.update.inj hop
      refine .failed ?_
      cases hstatus : row.status <;>
        simp_all [W5hWrite.markFailed, W5hIntentStatus.isTerminal]

/-- No transition is granted on a terminal row. -/
theorem W5hOp.Changes.not_terminal {op : W5hOp} {row next : RowRaw} (hchange : op.Changes row next) :
    row.status.isTerminal = false := by
  cases hchange with
  | submitted hguard => rcases hguard with h | ⟨h, _⟩ <;> rw [h] <;> rfl
  | leasedRefund hguard _ => rcases hguard with h | h <;> rw [h] <;> rfl
  | failed h => exact h
  | reserved h | invalid h | leasedExecution h | completed h | released h | expired h
  | refunded h => rw [h]; rfl

/-- The statement wrote its one row. -/
def Granted (history : List W5hCall) (call : W5hCall) : Prop :=
  (w5hStore.after history).affected (call.1.statement call.2) = 1

theorem granted_iff {history : List W5hCall} {call : W5hCall} {id : String}
    {write : Update RowRaw.intentId} (hop : call.1.statement call.2 = .update id write) :
    Granted history call ↔
      ∃ row, (w5hStore.after history).get id = some row ∧ write.guard row = true := by
  rw [Granted, hop]
  exact Table.update_affected _ _ _

/-- A call leaves a stored row alone, or it is granted and changes that row. -/
theorem get_after_concat {history : List W5hCall} {id : String} {row : RowRaw}
    (hget : (w5hStore.after history).get id = some row) (call : W5hCall) :
    (w5hStore.after (history ++ [call])).get id = some row ∨
    ∃ next write, call.1.statement call.2 = .update id write ∧ Granted history call ∧
      call.1.Changes row next ∧ (w5hStore.after (history ++ [call])).get id = some next := by
  rw [Machine.after_concat]
  rcases Table.get_execute_of_some (call.1.statement call.2) hget with
    hsame | ⟨write, hop, hguard, hnext⟩
  · exact .inl hsame
  · exact .inr ⟨write.set row, write, hop, (granted_iff hop).mpr ⟨row, hget, hguard⟩,
      W5hOp.changes_of_guard hop hguard, hnext⟩

/-- A relation to an earlier version of a row that every transition preserves. -/
theorem w5hRow_continues {R : RowRaw → RowRaw → Prop}
    (hchange : ∀ op first row next, W5hOp.Changes op row next → R first row → R first next)
    {history : List W5hCall} {id : String} {row : RowRaw} (hrefl : R row row)
    (hget : (w5hStore.after history).get id = some row) (later : List W5hCall) :
    ∃ current, (w5hStore.after (history ++ later)).get id = some current ∧ R row current :=
  row_continues (fun call _ _ first row hop hguard =>
    hchange call.1 first row _ (W5hOp.changes_of_guard hop hguard)) hrefl hget later

/-- A row property that holds at insertion and that every transition preserves. -/
theorem w5hRow_invariant {P : RowRaw → Prop}
    (hinsert : ∀ (intent : NewW5hFundingIntent) nowMs, P (intent.toRow nowMs))
    (hchange : ∀ op row next, W5hOp.Changes op row next → P row → P next)
    {history : List W5hCall} {id : String} {row : RowRaw}
    (hget : (w5hStore.after history).get id = some row) : P row := by
  refine row_invariant ?_ ?_ hget
  · rintro ⟨op, utcNowMs⟩ fresh hop
    cases op with
    | insert intent =>
        obtain rfl := Statement.insert.inj hop
        exact hinsert intent utcNowMs
    | _ => simp [W5hOp.statement] at hop
  · intro call k write row hop hguard
    exact hchange call.1 row _ (W5hOp.changes_of_guard hop hguard)

/-- A stored row survives an attempted call, unchanged or by one transition. -/
theorem attempt_stored {op : W5hOp} {answer : Except StoreError op.Answer}
    {table next : W5hFundingTable} (hattempt : w5hFundingRepository.Attempt table op answer next)
    {id : String} {row : RowRaw} (hget : table.get id = some row) :
    next.get id = some row ∨ ∃ changed write nowMs, op.statement nowMs = .update id write ∧
      op.Changes row changed ∧ next.get id = some changed := by
  rcases hattempt.get_of_some hget with hsame | ⟨nowMs, write, hop, hguard, hnext⟩
  · exact .inl hsame
  · exact .inr ⟨write.set row, write, nowMs, hop, W5hOp.changes_of_guard hop hguard, hnext⟩

/-- Where a row found after an attempted call comes from. -/
theorem attempt_found {op : W5hOp} {answer : Except StoreError op.Answer}
    {table next : W5hFundingTable} (hattempt : w5hFundingRepository.Attempt table op answer next)
    {id : String} {found : RowRaw} (hget : next.get id = some found) :
    table.get id = some found ∨
    (∃ fresh nowMs, op = .insert fresh ∧ table.get id = none ∧ found = fresh.toRow nowMs) ∨
    ∃ row write nowMs, op.statement nowMs = .update id write ∧ table.get id = some row ∧
      op.Changes row found := by
  rcases hattempt.table_cases with rfl | ⟨nowMs, rfl⟩
  · exact .inl hget
  rcases table.get_execute_cases (op.statement nowMs) id with
    hsame | ⟨added, hop, _, hfree, hadded⟩ | ⟨write, row, hop, hrow, hguard, hnext⟩
  · exact .inl (hsame.symm.trans hget)
  · obtain rfl : added = found := Option.some.inj (hadded.symm.trans hget)
    cases op with
    | insert fresh =>
        obtain rfl := Statement.insert.inj hop
        exact .inr (.inl ⟨fresh, nowMs, rfl, hfree, rfl⟩)
    | _ => cases hop
  · obtain rfl : write.set row = found := Option.some.inj (hnext.symm.trans hget)
    exact .inr (.inr ⟨row, write, nowMs, hop, hrow, W5hOp.changes_of_guard hop hguard⟩)

/-! ## Execution against refund -/

/-- Terminal rows are frozen. -/
theorem terminal_frozen {history : List W5hCall} {id : String} {row : RowRaw}
    (hget : (w5hStore.after history).get id = some row)
    (hterminal : row.status.isTerminal = true) (later : List W5hCall) :
    (w5hStore.after (history ++ later)).get id = some row := by
  obtain ⟨current, hcurrent, hsame⟩ := w5hRow_continues
    (R := fun first current => first.status.isTerminal = true → current = first)
    (fun op first row next hchange ih hfirst => by
      rw [ih hfirst] at hchange
      exact absurd hfirst (by simp [hchange.not_terminal]))
    (fun _ => rfl) hget later
  rw [hcurrent, hsame hterminal]

/-- The status recorded for an intent at the end of a history. -/
def statusAt (history : List W5hCall) (id : String) : Option W5hIntentStatus :=
  ((w5hStore.after history).get id).map RowRaw.status

theorem statusAt_append_of_terminal {history : List W5hCall} {id : String}
    {status : W5hIntentStatus} (hstatus : statusAt history id = some status)
    (hterminal : status.isTerminal = true) (later : List W5hCall) :
    statusAt (history ++ later) id = some status := by
  obtain ⟨row, hget, rfl⟩ := Option.map_eq_some_iff.mp hstatus
  simp [statusAt, terminal_frozen hget hterminal later]

/-- Two prefixes of one history cannot end in different terminal statuses. -/
theorem terminal_status_unique {history first second : List W5hCall} {id : String}
    {left right : W5hIntentStatus} (hfirst : first <+: history) (hsecond : second <+: history)
    (hleft : statusAt first id = some left) (hright : statusAt second id = some right)
    (hterminalLeft : left.isTerminal = true) (hterminalRight : right.isTerminal = true) :
    left = right := by
  rcases List.prefix_or_prefix_of_prefix hfirst hsecond with ⟨later, rfl⟩ | ⟨later, rfl⟩
  · have hlater := statusAt_append_of_terminal hleft hterminalLeft later
    exact Option.some.inj (hlater.symm.trans hright)
  · have hlater := statusAt_append_of_terminal hright hterminalRight later
    exact Option.some.inj (hleft.symm.trans hlater)

/-- Completing, releasing and failing end an execution lease. -/
def endsExecution (id : String) : W5hOp → Bool
  | .markCompletedIfExecuting id' _ | .releaseExecutionLeaseToBudgetReserved id' _
  | .markFailed id' _ => id' = id
  | _ => false

/-- An execution lease was granted and no call that ends it has been since. -/
def ExecutionLeaseOutstanding (history : List W5hCall) (id : String) : Prop :=
  ∃ granted nowMs utcNowMs during,
    history = granted ++ (.leaseExecutionIfBudgetReserved id nowMs, utcNowMs) :: during ∧
    Granted granted (.leaseExecutionIfBudgetReserved id nowMs, utcNowMs) ∧
    ∀ earlier call later, during = earlier ++ call :: later → endsExecution id call.1 = true →
      ¬ Granted (granted ++ (.leaseExecutionIfBudgetReserved id nowMs, utcNowMs) :: earlier) call

theorem granted_leaseExecution {history : List W5hCall} {id : String} {nowMs utcNowMs : Int64} :
    Granted history (.leaseExecutionIfBudgetReserved id nowMs, utcNowMs) ↔
      ∃ row, (w5hStore.after history).get id = some row ∧
        row.status = .budgetReserved ∧ nowMs < row.expiresAtMs := by
  rw [granted_iff rfl]
  simp [W5hWrite.leaseExecutionIfBudgetReserved]

theorem granted_leaseRefund {history : List W5hCall} {id : String} {nowMs utcNowMs : Int64} :
    Granted history (.leaseRefundIfExpiredOrPast id nowMs, utcNowMs) ↔
      ∃ row, (w5hStore.after history).get id = some row ∧
        (row.status = .budgetReserved ∨ row.status = .expired) ∧ row.expiresAtMs ≤ nowMs := by
  rw [granted_iff rfl]
  simp [W5hWrite.leaseRefundIfExpiredOrPast]

/-- From `executing`, only a call that ends the lease changes the status. -/
theorem endsExecution_of_changes {op : W5hOp} {utcNowMs : Int64} {id : String} {row next : RowRaw}
    {write : Update RowRaw.intentId} (hop : op.statement utcNowMs = .update id write)
    (hchange : op.Changes row next) (hexecuting : row.status = .executing) :
    endsExecution id op = true := by
  cases hchange with
  | submitted hguard => simp [hexecuting] at hguard
  | leasedRefund hguard _ => simp [hexecuting] at hguard
  | reserved h | invalid h | leasedExecution h | expired h | refunded h =>
      simp [hexecuting] at h
  | completed | released | failed =>
      simpa [endsExecution] using (Statement.update.inj hop).1

/-- An outstanding execution lease is visible as the `executing` status. -/
theorem ExecutionLeaseOutstanding.executing {history : List W5hCall} {id : String}
    (hlease : ExecutionLeaseOutstanding history id) :
    statusAt history id = some .executing := by
  obtain ⟨granted, nowMs, utcNowMs, during, rfl, hgranted, hkept⟩ := hlease
  induction during using List.reverseRecOn with
  | nil =>
      obtain ⟨row, hget, hstatus, hopen⟩ := granted_leaseExecution.mp hgranted
      simp only [statusAt, Machine.after_concat, tableMachine, W5hOp.statement, Table.execute,
        Table.get_update_self, Option.map_map, Option.map_eq_some_iff]
      refine ⟨row, hget, ?_⟩
      rw [Function.comp_apply, Update.onRow_of_guard _
        (by simpa [W5hWrite.leaseExecutionIfBudgetReserved] using ⟨hstatus, hopen⟩)]
      rfl
  | append_singleton during call ih =>
      have hbefore := ih fun earlier other later hsplit =>
        hkept earlier other (later ++ [call]) (by simp [hsplit])
      obtain ⟨row, hget, hexecuting⟩ := Option.map_eq_some_iff.mp hbefore
      have hnow := get_after_concat hget call
      rw [List.append_assoc, List.cons_append] at hnow
      rcases hnow with hsame | ⟨next, write, hop, hgranted, hchange, _⟩
      · rw [statusAt, hsame, Option.map_some, hexecuting]
      · have hends := endsExecution_of_changes hop hchange hexecuting
        exact absurd hgranted (hkept during call [] rfl hends)

/-- Execution and refund exclude each other over every history: no intent is
recorded completed and refunded, no refund lease is granted during an execution
lease, each lease is granted only on its side of the deadline, and a terminal
row keeps every column. -/
theorem execution_refund_exclusive (history : List W5hCall) (id : String) :
    (∀ first second, first <+: history → second <+: history →
      ¬ (statusAt first id = some .completed ∧ statusAt second id = some .refunded)) ∧
    (ExecutionLeaseOutstanding history id →
      ∀ nowMs utcNowMs, ¬ Granted history (.leaseRefundIfExpiredOrPast id nowMs, utcNowMs)) ∧
    (∀ nowMs utcNowMs, Granted history (.leaseExecutionIfBudgetReserved id nowMs, utcNowMs) →
      ∃ row, (w5hStore.after history).get id = some row ∧ nowMs < row.expiresAtMs) ∧
    (∀ nowMs utcNowMs, Granted history (.leaseRefundIfExpiredOrPast id nowMs, utcNowMs) →
      ∃ row, (w5hStore.after history).get id = some row ∧ row.expiresAtMs ≤ nowMs) ∧
    (∀ row later, (w5hStore.after history).get id = some row →
      row.status.isTerminal = true →
      (w5hStore.after (history ++ later)).get id = some row) := by
  refine ⟨?_, ?_, ?_, ?_, ?_⟩
  · rintro first second hfirst hsecond ⟨hcompleted, hrefunded⟩
    have hsame := terminal_status_unique hfirst hsecond hcompleted hrefunded rfl rfl
    exact absurd hsame (by decide)
  · intro hlease nowMs utcNowMs hgranted
    obtain ⟨row, hget, hstatus, _⟩ := granted_leaseRefund.mp hgranted
    have hexecuting := hlease.executing
    rw [statusAt, hget, Option.map_some, Option.some.injEq] at hexecuting
    simp [hexecuting] at hstatus
  · intro nowMs utcNowMs hgranted
    obtain ⟨row, hget, _, hopen⟩ := granted_leaseExecution.mp hgranted
    exact ⟨row, hget, hopen⟩
  · intro nowMs utcNowMs hgranted
    obtain ⟨row, hget, _, hpast⟩ := granted_leaseRefund.mp hgranted
    exact ⟨row, hget, hpast⟩
  · exact fun row later hget hterminal => terminal_frozen hget hterminal later

/-! ## The documented edges -/

/-- The transitions the lifecycle diagrams draw. -/
def documentedEdge : W5hIntentStatus → W5hIntentStatus → Bool
  | .fundingRequired, .fundingSubmitted => true
  | .fundingSubmitted, .budgetReserved | .fundingSubmitted, .fundingInvalid => true
  | .budgetReserved, .executing | .budgetReserved, .expired | .budgetReserved, .refunding => true
  | .expired, .refunding => true
  | .executing, .completed | .executing, .failed | .executing, .budgetReserved => true
  | .refunding, .refunded | .refunding, .failed => true
  | _, _ => false

/-- The call is the terminal-failure record of this intent. -/
def recordsFailure (id : String) : W5hOp → Bool
  | .markFailed id' _ => id' = id
  | _ => false

theorem edge_of_changes {op : W5hOp} {utcNowMs : Int64} {id : String} {row next : RowRaw}
    {write : Update RowRaw.intentId} (hop : op.statement utcNowMs = .update id write)
    (hchange : op.Changes row next) (hne : row.status ≠ next.status) :
    documentedEdge row.status next.status = true ∨
      (recordsFailure id op = true ∧ row.status.isTerminal = false ∧ next.status = .failed) := by
  cases hchange with
  | submitted hguard =>
      rcases hguard with h | ⟨h, _⟩
      · exact .inl (by rw [h]; rfl)
      · exact absurd h hne
  | leasedRefund hguard _ => rcases hguard with h | h <;> exact .inl (by rw [h]; rfl)
  | failed h => exact .inr ⟨by simpa [recordsFailure] using (Statement.update.inj hop).1, h, rfl⟩
  | reserved h | invalid h | leasedExecution h | completed h | released h | expired h
  | refunded h => exact .inl (by rw [h]; rfl)

/-- Every status change is a drawn edge, or the terminal-failure record taken
from a non-terminal status; and a call that wrote no row changed nothing. -/
theorem status_change_documented (history : List W5hCall) (call : W5hCall) :
    (∀ id row next, (w5hStore.after history).get id = some row →
      (w5hStore.after (history ++ [call])).get id = some next → row.status ≠ next.status →
      documentedEdge row.status next.status = true ∨
        (recordsFailure id call.1 = true ∧ row.status.isTerminal = false ∧
          next.status = .failed)) ∧
    (¬ Granted history call →
      w5hStore.after (history ++ [call]) = w5hStore.after history) := by
  constructor
  · intro id row next hget hnext hne
    rcases get_after_concat hget call with hsame | ⟨changed, write, hop, _, hchange, hchanged⟩
    · obtain rfl : next = row := Option.some.inj (hnext.symm.trans hsame)
      exact absurd rfl hne
    · obtain rfl : next = changed := Option.some.inj (hnext.symm.trans hchanged)
      exact edge_of_changes hop hchange hne
  · intro hlost
    have hle := (w5hStore.after history).affected_le_one (call.1.statement call.2)
    rw [Granted] at hlost
    have hnone : (w5hStore.after history).affected (call.1.statement call.2) = 0 := by omega
    rw [Machine.after_concat]
    exact Table.execute_eq_self hnone

/-- An intent for the runs below. -/
def sampleIntent : NewW5hFundingIntent where
  intentId := "3200000020a10700000000009a62dace"
  ruleIdHex := "3200000020a10700000000009a62dace"
  canonicalRuleHashHex := "25a8cee58db0e6a722afbeb76da9fbcf073e2de44a03101105b75ff3952ec52c"
  userWallet := "C4QQjzWxnJ5QFAbkzhQJ3wTzyX6nw1vyFvJwbPXJGPNW"
  userUsdcAta := "4bDArC4UVoBjecHUZaCKqhuhTYPoiKS4qpQQpxuvm1qn"
  controlledWallet := "BPfDMmeMBmCbMC1rWh7hwigMBoKGBrKwXxSeUu9hhs5L"
  controlledUsdcAta := "7LFdKcSV7JQYi3or5y9phHVPjhGigu5DDjUakAFbBmk3"
  amountRaw := 500000
  thresholdBps := 50
  saveDisplayApyBpsAtCreation := 60
  nativeOnchainAprBpsAtCreation := 58
  createdAtMs := 1000
  expiresAtMs := 181000

/-- A funded intent that no worker has leased. -/
def reservedRun : List W5hCall :=
  [(.insert sampleIntent, 1000),
   (.markFundingSubmittedIfRequired sampleIntent.intentId "sig", 2000),
   (.markBudgetReservedIfSubmitted sampleIntent.intentId "sig" 419000001, 3000)]

/-- Reserved money can reach `failed` without any lease, off the diagrams. -/
theorem reserved_failed_without_lease :
    ¬ ∀ (history : List W5hCall) (call : W5hCall) (id : String) (row next : RowRaw),
      (w5hStore.after history).get id = some row →
      (w5hStore.after (history ++ [call])).get id = some next → row.status ≠ next.status →
      documentedEdge row.status next.status = true := by
  intro hall
  have hedge := hall reservedRun (.markFailed sampleIntent.intentId "operator", 4000)
    sampleIntent.intentId _ _ rfl rfl (by decide)
  exact absurd hedge (by decide)

/-! ## Evidence -/

/-- The columns no transition writes agree. -/
def RowRaw.SameOrder (first row : RowRaw) : Prop :=
  row =
    { first with
      status := row.status
      fundingSignature := row.fundingSignature
      fundingFinalizedSlot := row.fundingFinalizedSlot
      executionSignature := row.executionSignature
      refundSignature := row.refundSignature
      lastError := row.lastError
      updatedAtMs := row.updatedAtMs }

theorem RowRaw.SameOrder.changes {op : W5hOp} {first row next : RowRaw}
    (hchange : op.Changes row next) (hsame : first.SameOrder row) : first.SameOrder next := by
  unfold RowRaw.SameOrder at hsame ⊢
  cases hchange <;> rw [hsame]

theorem RowRaw.SameOrder.refl (row : RowRaw) : row.SameOrder row := rfl

theorem RowRaw.SameOrder.trans {first middle last : RowRaw} (hfirst : first.SameOrder middle)
    (hlast : middle.SameOrder last) : first.SameOrder last := by
  unfold RowRaw.SameOrder at hfirst hlast ⊢
  rw [hlast, hfirst]

theorem RowRaw.SameOrder.intentId {first row : RowRaw} (hsame : first.SameOrder row) :
    row.intentId = first.intentId := by
  unfold RowRaw.SameOrder at hsame
  rw [hsame]

/-- Two versions of one order, as intents. -/
def W5hFundingIntent.SameOrder (first intent : W5hFundingIntent) : Prop :=
  intent =
    { first with
      status := intent.status
      fundingSignature := intent.fundingSignature
      fundingFinalizedSlot := intent.fundingFinalizedSlot
      executionSignature := intent.executionSignature
      refundSignature := intent.refundSignature
      lastError := intent.lastError
      updatedAtMs := intent.updatedAtMs }

/-- Every version of a readable row is readable, as the same order. -/
theorem RowRaw.SameOrder.intent {first row : RowRaw} (hsame : first.SameOrder row)
    {intent : W5hFundingIntent} (hread : rowToIntent first = .ok intent) :
    rowToIntent row = .ok row.toIntent ∧ intent.SameOrder row.toIntent := by
  obtain ⟨hamount, rfl⟩ := rowToIntent_ok.mp hread
  unfold RowRaw.SameOrder at hsame
  refine ⟨rowToIntent_ok.mpr ⟨?_, rfl⟩, ?_⟩
  · rw [hsame]
    exact hamount
  · unfold W5hFundingIntent.SameOrder RowRaw.toIntent
    rw [hsame]

/-- The statuses in which the user's funding is held or was spent. -/
def W5hIntentStatus.isFunded : W5hIntentStatus → Bool
  | budgetReserved | executing | expired | refunding | completed | refunded => true
  | _ => false

/-- What a row's status says about its evidence columns. -/
structure RowRaw.Evidenced (row : RowRaw) : Prop where
  unsigned : row.status = .fundingRequired → row.fundingSignature = none
  funded : row.status.isFunded = true →
    row.fundingSignature.isSome = true ∧ row.fundingFinalizedSlot.isSome = true
  executed : row.executionSignature.isSome = true ↔ row.status = .completed
  refunded : row.refundSignature.isSome = true ↔ row.status = .refunded

theorem evidenced_toRow (intent : NewW5hFundingIntent) (nowMs : Int64) :
    (intent.toRow nowMs).Evidenced where
  unsigned _ := rfl
  funded hfunded := absurd hfunded (by simp [NewW5hFundingIntent.toRow, W5hIntentStatus.isFunded])
  executed := by simp [NewW5hFundingIntent.toRow]
  refunded := by simp [NewW5hFundingIntent.toRow]

theorem RowRaw.Evidenced.changes {op : W5hOp} {row next : RowRaw}
    (hchange : op.Changes row next) (hrow : row.Evidenced) : next.Evidenced := by
  obtain ⟨_, hfunded, hexecuted, hrefunded⟩ := hrow
  cases hchange with
  | submitted hguard =>
      constructor <;> rcases hguard with h | ⟨h, _⟩ <;>
        simp_all [W5hIntentStatus.isFunded]
  | leasedRefund hguard _ =>
      constructor <;> rcases hguard with h | h <;> simp_all [W5hIntentStatus.isFunded]
  | failed h =>
      constructor <;> cases hstatus : row.status <;>
        simp_all [W5hIntentStatus.isFunded, W5hIntentStatus.isTerminal]
  | reserved h | invalid h | leasedExecution h | completed h | released h | expired h
  | refunded h => constructor <;> simp_all [W5hIntentStatus.isFunded]

theorem evidenced_of_get {history : List W5hCall} {id : String} {row : RowRaw}
    (hget : (w5hStore.after history).get id = some row) : row.Evidenced :=
  w5hRow_invariant evidenced_toRow (fun _ _ _ hchange => RowRaw.Evidenced.changes hchange) hget

/-- Only an unsigned row receives a funding signature. -/
theorem fundingSignature_of_changes {op : W5hOp} {row next : RowRaw} {signature : String}
    (hchange : op.Changes row next) (hrow : row.Evidenced)
    (hsigned : row.fundingSignature = some signature) :
    next.fundingSignature = some signature := by
  cases hchange with
  | submitted hguard =>
      rcases hguard with h | ⟨_, h | h⟩
      · simp [hrow.unsigned h] at hsigned
      · simp [h] at hsigned
      · exact h.symm.trans hsigned
  | _ => exact hsigned

theorem fundingSignature_kept {history : List W5hCall} {id : String} {row : RowRaw}
    {signature : String} (hget : (w5hStore.after history).get id = some row)
    (hsigned : row.fundingSignature = some signature) (later : List W5hCall) :
    ∃ current, (w5hStore.after (history ++ later)).get id = some current ∧
      current.fundingSignature = some signature := by
  obtain ⟨current, hcurrent, _, hkept⟩ := w5hRow_continues
    (R := fun _ current => current.Evidenced ∧ current.fundingSignature = some signature)
    (fun op first row next hchange hrow => ⟨hrow.1.changes hchange,
      fundingSignature_of_changes hchange hrow.1 hrow.2⟩)
    ⟨evidenced_of_get hget, hsigned⟩ hget later
  exact ⟨current, hcurrent, hkept⟩

theorem insertedOrder_of_get {history : List W5hCall} {id : String} {row : RowRaw}
    (hget : (w5hStore.after history).get id = some row) :
    ∃ before intent utcNowMs later, history = before ++ (.insert intent, utcNowMs) :: later ∧
      intent.intentId = id ∧ (w5hStore.after before).get id = none ∧
      (intent.toRow utcNowMs).SameOrder row := by
  obtain ⟨before, ⟨op, utcNowMs⟩, later, first, rfl, hop, hkey, hfresh, hsame⟩ :=
    row_origin (R := RowRaw.SameOrder) (fun _ => rfl)
      (fun op _ _ _ _ hop hguard => RowRaw.SameOrder.changes (W5hOp.changes_of_guard hop hguard))
      hget
  cases op with
  | insert intent =>
      obtain rfl := Statement.insert.inj hop
      exact ⟨before, intent, utcNowMs, later, rfl, hkey, hfresh, hsame⟩
  | _ => simp [W5hOp.statement] at hop

/-- In every reachable row the status and the evidence columns agree, the
funding signature is final, and the order's own columns are those inserted. -/
theorem row_evidence {history : List W5hCall} {id : String} {row : RowRaw}
    (hget : (w5hStore.after history).get id = some row) :
    (∀ signature later, row.fundingSignature = some signature →
      ∃ current, (w5hStore.after (history ++ later)).get id = some current ∧
        current.fundingSignature = some signature) ∧
    (row.status.isFunded = true →
      row.fundingSignature.isSome = true ∧ row.fundingFinalizedSlot.isSome = true) ∧
    (row.executionSignature.isSome = true ↔ row.status = .completed) ∧
    (row.refundSignature.isSome = true ↔ row.status = .refunded) ∧
    (∃ before intent utcNowMs later, history = before ++ (.insert intent, utcNowMs) :: later ∧
      intent.intentId = id ∧ (w5hStore.after before).get id = none ∧
      (intent.toRow utcNowMs).SameOrder row) := by
  have hevidence := evidenced_of_get hget
  exact ⟨fun _ later hsigned => fundingSignature_kept hget hsigned later, hevidence.funded,
    hevidence.executed, hevidence.refunded, insertedOrder_of_get hget⟩

/-- The reserved run ends in a row that carries its funding evidence. -/
theorem row_evidence_reservedRun :
    (((w5hStore.after reservedRun).get sampleIntent.intentId).map fun row =>
      (row.fundingSignature.isSome, row.fundingFinalizedSlot.isSome)) = some (true, true) := by
  have hget : (w5hStore.after reservedRun).get sampleIntent.intentId = some _ := rfl
  have hfunded := (row_evidence hget).2.1 rfl
  rw [hget, Option.map_some, hfunded.1, hfunded.2]

end SolFrontier.StateStore
