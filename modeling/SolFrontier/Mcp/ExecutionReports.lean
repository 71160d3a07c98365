import SolFrontier.Foundation.Moments
import SolFrontier.Mcp.SingleBroadcast
import SolFrontier.StateStore.RuleRetirement

/-! # Execution reports and the store

A run that nothing interferes with names a state only where it is the state the
store has, and an uncertain one wherever a write failed without telling whether
it was applied. At every moment of every run the rule is completed before its
funding row is.
-/

namespace SolFrontier.Mcp

open Foundation StateStore Program

/-! ## What a run may do to the store -/

/-- The rule with this id is completed, by its status and by its flag. -/
def World.RuleCompleted (world : World) (ruleIdHex : String) : Prop :=
  ∃ row, world.rules.get ruleIdHex = some row ∧
    row.status = WatchRuleStatus.completed.asStr ∧ row.completed = 1

/-- No funding row is completed while its watch rule is not. -/
def World.NoneCompletedAlone (world : World) : Prop :=
  ∀ id row, world.funding.get id = some row → row.status = .completed →
    world.RuleCompleted row.ruleIdHex

/-- What the runs on a candidate make of a store: they complete no row but the
candidate's, and that one only when the candidate's rule is completed. -/
structure Progresses (candidate : RevalidatedExecutionCandidate) (first state : World) : Prop where
  rules : ∀ id, first.RuleCompleted id → state.RuleCompleted id
  funding : ∀ id row, state.funding.get id = some row →
    ∃ before, first.funding.get id = some before ∧ row.ruleIdHex = before.ruleIdHex ∧
      (row.status = .completed → before.status = .completed ∨
        id = candidate.intentId ∧ state.RuleCompleted (ruleIdHex candidate.ruleId))

/-- The funding row that the candidate names is the one of the candidate's rule. -/
def World.Fits (world : World) (candidate : RevalidatedExecutionCandidate) : Prop :=
  ∀ row, world.funding.get candidate.intentId = some row →
    row.ruleIdHex = ruleIdHex candidate.ruleId

variable {platform : Platform} {candidate : RevalidatedExecutionCandidate}
  {first state after : World}

theorem Progresses.refl (candidate : RevalidatedExecutionCandidate) (world : World) :
    Progresses candidate world world where
  rules _ hcompleted := hcompleted
  funding _ row hget := ⟨row, hget, rfl, fun hcompleted => .inl hcompleted⟩

/-- A run on a candidate that fits completes no row alone. -/
theorem Progresses.noneCompletedAlone (hadvances : Progresses candidate first state)
    (hfits : first.Fits candidate) (hnone : first.NoneCompletedAlone) :
    state.NoneCompletedAlone := by
  intro id row hget hcompleted
  obtain ⟨before, hbefore, hrule, hhow⟩ := hadvances.funding id row hget
  rw [hrule]
  rcases hhow hcompleted with hearlier | ⟨rfl, hruleCompleted⟩
  · exact hadvances.rules _ (hnone id before hbefore hearlier)
  · rw [hfits before hbefore]
    exact hruleCompleted

/-- A funding call other than an insert completes a row only where the rule is
completed already. -/
theorem Progresses.funding_call (hadvances : Progresses candidate first state) {op : W5hOp}
    {answer : Except StoreError op.Answer} {table : W5hFundingTable}
    (hattempt : w5hFundingRepository.Attempt state.funding op answer table)
    (hinsert : ∀ fresh, op ≠ .insert fresh)
    (hcompletes : ∀ id signature, op = .markCompletedIfExecuting id signature →
      id = candidate.intentId ∧ state.RuleCompleted (ruleIdHex candidate.ruleId)) :
    Progresses candidate first { state with funding := table } where
  rules := hadvances.rules
  funding id row hget := by
    rcases attempt_found hattempt hget with
      hsame | ⟨fresh, nowMs, hop, -, -⟩ | ⟨earlier, write, nowMs, hop, hearlier, hchange⟩
    · exact hadvances.funding id row hsame
    · exact absurd hop (hinsert fresh)
    · obtain ⟨before, hbefore, hrule, -⟩ := hadvances.funding id earlier hearlier
      refine ⟨before, hbefore, ?_, ?_⟩
      · have hsame := RowRaw.SameOrder.changes hchange (RowRaw.SameOrder.refl earlier)
        unfold RowRaw.SameOrder at hsame
        rw [hsame, hrule]
      · intro hcompleted
        cases hchange with
        | completed =>
            obtain ⟨rfl, -⟩ := Statement.update.inj hop
            exact .inr (hcompletes _ _ rfl)
        | _ => cases hcompleted

/-- Completing a rule leaves every completed rule completed. -/
theorem Progresses.rules_call (hadvances : Progresses candidate first state) {ruleId : Bytes 16}
    {usedAmountRaw slot : UInt64} {answer : Except StoreError Nat} {table : WatchRuleTable}
    (hattempt : (watchRuleRepository platform.json).Attempt state.rules
      (.markCompleted ruleId usedAmountRaw slot) answer table) :
    Progresses candidate first { state with rules := table } := by
  have hkeeps : ∀ id, state.RuleCompleted id →
      World.RuleCompleted { state with rules := table } id := by
    intro id ⟨row, hget, hstatus, hflag⟩
    rcases hattempt.get_of_some hget with hsame | ⟨nowMs, write, hop, -, hnext⟩
    · exact ⟨row, hsame, hstatus, hflag⟩
    · obtain ⟨rfl, rfl⟩ := Statement.update.inj hop
      exact ⟨_, hnext, rfl, rfl⟩
  refine ⟨fun id hcompleted => hkeeps id (hadvances.rules id hcompleted), ?_⟩
  intro id row hget
  obtain ⟨before, hbefore, hrule, hhow⟩ := hadvances.funding id row hget
  refine ⟨before, hbefore, hrule, fun hcompleted => (hhow hcompleted).imp_right ?_⟩
  exact fun ⟨hid, hruleCompleted⟩ => ⟨hid, hkeeps _ hruleCompleted⟩

/-! ## What a report says -/

/-- A funding write failed, and nobody knows whether it was applied. -/
inductive FundingFailure : Event mcpFace → Prop
  | error (op : W5hOp) (error : StoreError) : FundingFailure ⟨.funding op, .error error⟩

/-- A write of the rules failed in the same way. -/
inductive RulesFailure : Event mcpFace → Prop
  | error (op : WatchRuleOp) (error : StoreError) : RulesFailure ⟨.rules op, .error error⟩

def FundingFailed (log : List (Event mcpFace)) : Prop := ∃ event ∈ log, FundingFailure event

def RulesFailed (log : List (Event mcpFace)) : Prop := ∃ event ∈ log, RulesFailure event

theorem fundingFailed_append {log : List (Event mcpFace)} {event : Event mcpFace} :
    FundingFailed (log ++ [event]) ↔ FundingFailed log ∨ FundingFailure event := by
  simp [FundingFailed, or_and_right, exists_or]

theorem rulesFailed_append {log : List (Event mcpFace)} {event : Event mcpFace} :
    RulesFailed (log ++ [event]) ↔ RulesFailed log ∨ RulesFailure event := by
  simp [RulesFailed, or_and_right, exists_or]

/-- A report that says nothing false about the store. A status it names is the
row's, an unchanged rule is unchanged, and neither is said when a write failed
without telling its effect. -/
structure Truthful (candidate : RevalidatedExecutionCandidate) (first after : World)
    (log : List (Event mcpFace)) (report : ExecutionAttemptReport) : Prop where
  funding : ∀ status, W5hIntentStatus.parse report.fundingState = some status →
    ¬ FundingFailed log ∧
      ∃ row, after.funding.get candidate.intentId = some row ∧ row.status = status
  ruleUnchanged : report.watchRuleState = "unchanged" →
    ¬ RulesFailed log ∧ after.rules = first.rules
  rule : ∀ status, WatchRuleStatus.parse report.watchRuleState = some status →
    ¬ RulesFailed log ∧ ∃ row, after.rules.get (ruleIdHex candidate.ruleId) = some row ∧
      row.status = status.asStr

/-- The store of a run that holds the lease, and has written nothing since. -/
structure Leased (candidate : RevalidatedExecutionCandidate) (first : World)
    (state : World × List (Event mcpFace)) : Prop where
  advances : Progresses candidate first state.1
  executing : ∃ row, state.1.funding.get candidate.intentId = some row ∧ row.status = .executing
  rules : state.1.rules = first.rules
  fundingKnown : ¬ FundingFailed state.2
  rulesKnown : ¬ RulesFailed state.2

/-- A call that is no store call. -/
def McpOp.OffStore : McpOp → Prop
  | .funding _ | .rules _ => False
  | _ => True

/-- A call off the store leaves the tables alone. -/
theorem tables_offStore {op : McpOp} (hop : op.OffStore) {answer : op.Answer}
    (hstep : mcpStep platform state ⟨op, answer⟩ after) :
    after.funding = state.funding ∧ after.rules = state.rules := by
  cases op with
  | funding | rules => exact hop.elim
  | sendTransaction =>
      rw [show after = _ from hstep]
      exact ⟨rfl, rfl⟩
  | _ =>
      rw [show after = state from hstep]
      exact ⟨rfl, rfl⟩

theorem Progresses.of_tables (hadvances : Progresses candidate first state)
    (htables : after.funding = state.funding ∧ after.rules = state.rules) :
    Progresses candidate first after := by
  have hcompleted : ∀ id, after.RuleCompleted id ↔ state.RuleCompleted id := by
    intro id
    unfold World.RuleCompleted
    rw [htables.2]
  refine ⟨fun id hfirst => (hcompleted id).mpr (hadvances.rules id hfirst), ?_⟩
  intro id row hget
  rw [htables.1] at hget
  simpa only [hcompleted] using hadvances.funding id row hget

/-- Calls off the store keep the lease as it is. -/
theorem Leased.offStore {before next : World × List (Event mcpFace)} {op : McpOp}
    {answer : op.Answer} (hleased : Leased candidate first before) (hop : op.OffStore)
    (hstep : logged (mcpStep platform) before ⟨op, answer⟩ next) :
    Leased candidate first next := by
  obtain ⟨hstep, hlog⟩ := hstep
  have htables := tables_offStore hop hstep
  refine ⟨hleased.advances.of_tables htables, ?_, htables.2.trans hleased.rules, ?_, ?_⟩
  · rw [htables.1]
    exact hleased.executing
  · rw [hlog, fundingFailed_append]
    rintro (hearlier | hfailure)
    · exact hleased.fundingKnown hearlier
    · cases hfailure
      exact hop
  · rw [hlog, rulesFailed_append]
    rintro (hearlier | hfailure)
    · exact hleased.rulesKnown hearlier
    · cases hfailure
      exact hop

/-! ## The submission -/

theorem pollOnce_offStore (signature : Signature) (deadline seen : Nat) (backoff : Backoff)
    (consecutiveErrors : Nat) :
    (pollOnce signature deadline seen backoff consecutiveErrors).Only McpOp.OffStore := by
  apply request_only trivial
  intro before
  split
  · trivial
  apply request_only trivial
  intro _
  apply request_only trivial
  intro woken
  split
  · trivial
  apply request_only trivial
  intro client
  cases client with
  | error => trivial
  | ok =>
      apply request_only trivial
      intro statuses
      cases statuses with
      | error => trivial
      | ok statuses =>
          dsimp only
          split <;> trivial

theorem pollLoop_offStore (signature : Signature) (deadline seen : Nat) (backoff : Backoff)
    (consecutiveErrors : Nat) :
    (pollLoop signature deadline seen backoff consecutiveErrors).Only McpOp.OffStore := by
  -- Each round ends the loop or moves the clock closer to the deadline.
  induction hleft : deadline - seen using Nat.strong_induction_on
    generalizing seen backoff consecutiveErrors with
  | _ left ih =>
      rw [pollLoop]
      apply (pollOnce_offStore ..).bind
      intro round
      cases round with
      | stop => trivial
      | again now hlater hopen errors =>
          exact ih (deadline - now) (by omega) now (nextBackoff backoff) errors rfl

theorem pollFinalized_offStore (signature : Signature) :
    (pollFinalized signature).Only McpOp.OffStore :=
  request_only trivial fun _ => pollLoop_offStore ..

theorem submitTransaction_offStore (intentId : String) (signedTxBytes : List UInt8)
    (lastValidBlockHeight : UInt64) :
    (submitTransaction platform intentId signedTxBytes lastValidBlockHeight).Only
      McpOp.OffStore := by
  unfold submitTransaction
  cases platform.deserializeTransaction signedTxBytes with
  | none => trivial
  | some tx =>
      apply request_only trivial
      intro sent
      cases sent with
      | error => trivial
      | ok signature =>
          apply request_only trivial
          intro height
          cases height <;> trivial

theorem submitOnceAndObserve_offStore (intentId : String) (payload : ReviewedSignedPayload) :
    (submitOnceAndObserve platform intentId payload).Only McpOp.OffStore := by
  apply request_only trivial
  intro client
  cases client with
  | error => trivial
  | ok =>
      apply (submitTransaction_offStore ..).bind
      intro submitted
      cases submitted with
      | error error =>
          cases error with
          | deserializationError => trivial
          | rpcError => trivial
          | heightFetchError => exact pollFinalized_offStore _
      | ok submitted =>
          dsimp only
          split
          · trivial
          · exact pollFinalized_offStore _

/-! ## The writes -/

variable {before next : World × List (Event mcpFace)}

/-- A funding write that a holder of the lease makes, with its answer. -/
theorem Leased.funding_write (hleased : Leased candidate first before) {op : W5hOp}
    {answer : Except StoreError op.Answer}
    (hstep : logged (mcpStep platform) before ⟨.funding op, answer⟩ next)
    (hinsert : ∀ fresh, op ≠ .insert fresh)
    (hcompletes : ∀ id signature, op ≠ .markCompletedIfExecuting id signature) :
    Progresses candidate first next.1 ∧ next.1.rules = first.rules ∧ ¬ RulesFailed next.2 ∧
      (FundingFailed next.2 → ∃ error, answer = .error error) := by
  obtain ⟨⟨table, hattempt, hnext⟩, hlog⟩ := hstep
  rw [hnext, hlog, fundingFailed_append, rulesFailed_append]
  refine ⟨hleased.advances.funding_call hattempt hinsert ?_, hleased.rules, ?_, ?_⟩
  · intro id signature hop
    exact absurd hop (hcompletes id signature)
  · rintro (hearlier | hfailure)
    · exact hleased.rulesKnown hearlier
    · cases hfailure
  · rintro (hearlier | hfailure)
    · exact absurd hearlier hleased.fundingKnown
    · cases hfailure with
      | error op error => exact ⟨error, rfl⟩

/-- A granted write leaves the candidate's row in the status it sets. -/
theorem status_of_granted {op : W5hOp} {value : op.Answer} {write : Int64 → Update RowRaw.intentId}
    {status : W5hIntentStatus}
    (hstep : logged (mcpStep platform) before ⟨.funding op, .ok value⟩ next)
    (hop : ∀ nowMs, op.statement nowMs = .update candidate.intentId (write nowMs))
    (hone : ∀ nowMs, w5hFundingRepository.result before.1.funding op nowMs = .ok value →
      before.1.funding.affected (op.statement nowMs) = 1)
    (hstatus : ∀ nowMs row, ((write nowMs).set row).status = status) :
    ∃ row, next.1.funding.get candidate.intentId = some row ∧ row.status = status := by
  obtain ⟨⟨table, hattempt, hnext⟩, -⟩ := hstep
  obtain ⟨nowMs, hresult, htable⟩ := hattempt.of_ok
  have haffected := hone nowMs hresult
  rw [hop nowMs] at haffected
  obtain ⟨row, -, -, hset⟩ := Table.execute_granted haffected
  refine ⟨(write nowMs).set row, ?_, hstatus nowMs row⟩
  have hstatement : w5hFundingRepository.statement nowMs op =
      .update candidate.intentId (write nowMs) := hop nowMs
  rw [hnext, htable, hstatement]
  exact hset

/-- A report that leaves the rule unchanged is judged by its funding state. -/
theorem truthful_unchanged {log : List (Event mcpFace)} {report : ExecutionAttemptReport}
    (hstate : report.watchRuleState = "unchanged") (hrules : after.rules = first.rules)
    (hruleKnown : ¬ RulesFailed log)
    (hnamed : ∀ status, W5hIntentStatus.parse report.fundingState = some status →
      ¬ FundingFailed log ∧
        ∃ row, after.funding.get candidate.intentId = some row ∧ row.status = status) :
    Truthful candidate first after log report where
  funding := hnamed
  ruleUnchanged _ := ⟨hruleKnown, hrules⟩
  rule status hparse := by
    rw [hstate] at hparse
    cases hparse

/-! ## The worker -/

/-- What the runs on a candidate guarantee of their moments and their reports. -/
abbrev Reports (platform : Platform) (candidate : RevalidatedExecutionCandidate) (first : World)
    (program : Program mcpFace ExecutionAttemptReport) (start : World × List (Event mcpFace)) :
    Prop :=
  program.Along (logged (mcpStep platform)) (fun state => Progresses candidate first state.1)
    (fun state report => Truthful candidate first state.1 state.2 report) start

/-- A lease that is given back leaves the row reserved, as far as that is known. -/
theorem reportRelease_reports (successStatus originalError : String) (abortRemainingCycle : Bool)
    (hleased : Leased candidate first before) :
    Reports platform candidate first
      (reportRelease candidate successStatus originalError abortRemainingCycle) before := by
  unfold reportRelease ExecutionState.releasePrebroadcastFailure
  rw [Reports, along_bind, request_bind, along_call]
  refine ⟨hleased.advances, ?_⟩
  intro answer next hstep
  obtain ⟨hadvances, hrules, hruleKnown, hfailed⟩ :=
    hleased.funding_write hstep (fun _ => by simp) (fun _ _ => by simp)
  split
  · have hrow := status_of_granted hstep (fun _ => rfl) (fun _ h => Except.ok.inj h)
      (fun _ _ => rfl)
    refine ⟨hadvances, hadvances, truthful_unchanged rfl hrules hruleKnown ?_⟩
    intro status hparse
    obtain rfl : W5hIntentStatus.budgetReserved = status := Option.some.inj hparse
    exact ⟨fun hunknown => by simpa using hfailed hunknown, hrow⟩
  · refine ⟨hadvances, hadvances, truthful_unchanged rfl hrules hruleKnown ?_⟩
    intro status hparse
    cases hparse
  · refine ⟨hadvances, hadvances, truthful_unchanged rfl hrules hruleKnown ?_⟩
    intro status hparse
    cases hparse

/-- A failure on the chain ends the row, as far as that is known. -/
theorem onChainFailed_reports (signature errorClass : String)
    (hleased : Leased candidate first before) :
    Reports platform candidate first
      (recordOutcome candidate (.onChainFailed signature errorClass)) before := by
  unfold recordOutcome ExecutionState.markOnchainFailed
  rw [Reports, along_bind, request_bind, along_call]
  refine ⟨hleased.advances, ?_⟩
  intro answer next hstep
  obtain ⟨hadvances, hrules, hruleKnown, hfailed⟩ :=
    hleased.funding_write hstep (fun _ => by simp) (fun _ _ => by simp)
  split
  · have hrow := status_of_granted hstep (fun _ => rfl) (fun _ h => Except.ok.inj h)
      (fun _ _ => rfl)
    refine ⟨hadvances, hadvances, truthful_unchanged rfl hrules hruleKnown ?_⟩
    intro status hparse
    obtain rfl : W5hIntentStatus.failed = status := Option.some.inj hparse
    exact ⟨fun hunknown => by simpa using hfailed hunknown, hrow⟩
  · refine ⟨hadvances, hadvances, truthful_unchanged rfl hrules hruleKnown ?_⟩
    intro status hparse
    cases hparse
  · refine ⟨hadvances, hadvances, truthful_unchanged rfl hrules hruleKnown ?_⟩
    intro status hparse
    cases hparse

/-- A finalized success completes the rule before the row, and a report of it
names what both writes answered. -/
theorem finalized_reports (signature : String) (slot : UInt64)
    (hleased : Leased candidate first before) :
    Reports platform candidate first (recordOutcome candidate (.finalized signature slot))
      before := by
  unfold recordOutcome ExecutionState.markFinalized
  rw [Reports, along_bind, request_bind, along_call]
  refine ⟨hleased.advances, ?_⟩
  intro answer middle hstep
  obtain ⟨⟨table, hattempt, hmiddle⟩, hlog⟩ := hstep
  have hadvances : Progresses candidate first middle.1 := by
    rw [hmiddle]
    exact hleased.advances.rules_call hattempt
  have hexecuting : ∃ row, middle.1.funding.get candidate.intentId = some row ∧
      row.status = .executing := by
    rw [hmiddle]
    exact hleased.executing
  have hknown : ¬ FundingFailed middle.2 := by
    rw [hlog, fundingFailed_append]
    rintro (hearlier | hfailure)
    · exact hleased.fundingKnown hearlier
    · cases hfailure
  have hnamed : ∀ status, W5hIntentStatus.parse "executing" = some status → ¬ FundingFailed middle.2 ∧
      ∃ row, middle.1.funding.get candidate.intentId = some row ∧ row.status = status := by
    intro status hparse
    obtain rfl : W5hIntentStatus.executing = status := Option.some.inj hparse
    exact ⟨hknown, hexecuting⟩
  have hunsure : "unchanged_or_unknown" ≠ "unchanged" := by decide
  split
  · -- The rule is completed; the funding write tells the rest.
    have hrule : middle.1.RuleCompleted (ruleIdHex candidate.ruleId) := by
      obtain ⟨nowMs, hresult, htable⟩ := hattempt.of_ok
      obtain ⟨row, -, -, hset⟩ := Table.execute_granted (Except.ok.inj hresult)
      rw [hmiddle, htable]
      exact ⟨_, hset, rfl, rfl⟩
    have hrulesKnown : ¬ RulesFailed middle.2 := by
      rw [hlog, rulesFailed_append]
      rintro (hearlier | hfailure)
      · exact hleased.rulesKnown hearlier
      · cases hfailure
    rw [request_bind, along_call]
    refine ⟨hadvances, ?_⟩
    intro answer next hstep
    have hgranted := hstep
    obtain ⟨⟨funding, hwrite, hnext⟩, hnextLog⟩ := hstep
    have hnextAdvances : Progresses candidate first next.1 := by
      rw [hnext]
      refine hadvances.funding_call hwrite (fun _ => by simp) ?_
      intro id written hop
      obtain ⟨rfl, -⟩ := W5hOp.markCompletedIfExecuting.inj hop
      exact ⟨rfl, hrule⟩
    have hnextRule : next.1.RuleCompleted (ruleIdHex candidate.ruleId) := by
      rw [hnext]
      exact hrule
    have hnextRulesKnown : ¬ RulesFailed next.2 := by
      rw [hnextLog, rulesFailed_append]
      rintro (hearlier | hfailure)
      · exact hrulesKnown hearlier
      · cases hfailure
    have hcompleted : ∀ status, WatchRuleStatus.parse "completed" = some status →
        ¬ RulesFailed next.2 ∧ ∃ row, next.1.rules.get (ruleIdHex candidate.ruleId) = some row ∧
          row.status = status.asStr := by
      intro status hparse
      obtain rfl : WatchRuleStatus.completed = status := Option.some.inj hparse
      obtain ⟨row, hget, hstatus, -⟩ := hnextRule
      exact ⟨hnextRulesKnown, row, hget, hstatus⟩
    have hchanged : "completed" ≠ "unchanged" := by decide
    split
    · have hrow := status_of_granted hgranted (fun _ => rfl) (fun _ h => Except.ok.inj h)
        (fun _ _ => rfl)
      refine ⟨hnextAdvances, hnextAdvances, ?_, fun h => absurd h hchanged, hcompleted⟩
      intro status hparse
      obtain rfl : W5hIntentStatus.completed = status := Option.some.inj hparse
      refine ⟨?_, hrow⟩
      rw [hnextLog, fundingFailed_append]
      rintro (hearlier | hfailure)
      · exact hknown hearlier
      · cases hfailure
    · exact ⟨hnextAdvances, hnextAdvances, fun _ h => (by cases h), fun h => absurd h hchanged,
        hcompleted⟩
    · exact ⟨hnextAdvances, hnextAdvances, fun _ h => (by cases h), fun h => absurd h hchanged,
        hcompleted⟩
  · exact ⟨hadvances, hadvances, hnamed, fun h => absurd h hunsure, fun _ h => (by cases h)⟩
  · exact ⟨hadvances, hadvances, hnamed, fun h => absurd h hunsure, fun _ h => (by cases h)⟩

theorem recordOutcome_reports (outcome : NetworkOutcome) (hleased : Leased candidate first before) :
    Reports platform candidate first (recordOutcome candidate outcome) before := by
  cases outcome with
  | preBroadcastFailure errorClass => exact reportRelease_reports _ _ _ hleased
  | onChainFailed signature errorClass => exact onChainFailed_reports _ _ hleased
  | finalized signature slot => exact finalized_reports _ _ hleased
  | unknown signature errorClass =>
      refine ⟨hleased.advances, truthful_unchanged rfl hleased.rules hleased.rulesKnown ?_⟩
      intro status hparse
      obtain rfl : W5hIntentStatus.executing = status := Option.some.inj hparse
      exact ⟨hleased.fundingKnown, hleased.executing⟩

theorem executeLeased_reports (hleased : Leased candidate first before) :
    Reports platform candidate first (executeLeased platform candidate) before := by
  unfold executeLeased
  rw [Reports, request_bind, along_call]
  refine ⟨hleased.advances, ?_⟩
  intro reviewed next hstep
  have hoff : McpOp.OffStore (.reviewAndSign candidate) := trivial
  have hnext := hleased.offStore hoff hstep
  cases reviewed with
  | error errorClass => exact reportRelease_reports _ _ _ hnext
  | ok payload =>
      dsimp only
      rw [along_bind]
      -- The submission makes no store call, so the lease is as it was.
      have hsubmission : (submitOnceAndObserve platform candidate.intentId payload).Along
          (logged (mcpStep platform)) (Leased candidate first) (fun _ _ => True) next :=
        (submitOnceAndObserve_offStore ..).along Leased.offStore hnext
      apply hsubmission.mono
      · exact fun state hheld => hheld.advances
      · exact fun state outcome hheld _ => recordOutcome_reports outcome hheld

/-- A worker on any candidate, from any store. -/
theorem executeRevalidatedCandidate_reports (candidate : RevalidatedExecutionCandidate)
    (world : World) :
    Reports platform candidate world (executeRevalidatedCandidate platform candidate)
      (world, []) := by
  have hbegins := Progresses.refl candidate world
  unfold executeRevalidatedCandidate ExecutionState.leaseAfterFinalRevalidation
  rw [Reports, request_bind, along_call]
  refine ⟨hbegins, ?_⟩
  intro leaseNowMs start hstart
  obtain ⟨hsame, hstartLog⟩ := hstart
  obtain rfl : start.1 = world := hsame
  rw [along_bind, request_bind, along_call]
  refine ⟨hbegins, ?_⟩
  intro answer next hstep
  have hgranted := hstep
  obtain ⟨⟨table, hattempt, hnext⟩, hlog⟩ := hstep
  have hadvances : Progresses candidate start.1 next.1 := by
    rw [hnext]
    exact hbegins.funding_call hattempt (fun _ => by simp) (fun _ _ h => by cases h)
  have hrules : next.1.rules = start.1.rules := by rw [hnext]
  -- The rules have not been asked yet, so no answer about them has failed.
  have hrulesKnown : ¬ RulesFailed next.2 := by
    rw [hlog, hstartLog, rulesFailed_append, rulesFailed_append]
    rintro ((hnone | hfailure) | hfailure)
    · obtain ⟨event, hmem, -⟩ := hnone
      cases hmem
    · cases hfailure
    · cases hfailure
  split
  · refine ⟨hadvances, executeLeased_reports ?_⟩
    refine ⟨hadvances, ?_, hrules, ?_, hrulesKnown⟩
    · exact status_of_granted hgranted (fun _ => rfl) (fun _ h => Except.ok.inj h) (fun _ _ => rfl)
    · rw [hlog, hstartLog, fundingFailed_append, fundingFailed_append]
      rintro ((hnone | hfailure) | hfailure)
      · obtain ⟨event, hmem, -⟩ := hnone
        cases hmem
      · cases hfailure
      · cases hfailure
  · exact ⟨hadvances, hadvances,
      truthful_unchanged rfl hrules hrulesKnown fun _ h => (by cases h)⟩
  · exact ⟨hadvances, hadvances,
      truthful_unchanged rfl hrules hrulesKnown fun _ h => (by cases h)⟩

/-! ## Sequences of runs -/

/-- Runs on candidates that fit, one after the other and without interference;
each of them may be cut short anywhere. -/
inductive ExecutionRuns (platform : Platform) (first : World) : World → Prop
  | start : ExecutionRuns platform first first
  | run {world state : World} {candidate : RevalidatedExecutionCandidate} :
      ExecutionRuns platform first world → world.Fits candidate →
      Visits (mcpStep platform) world (executeRevalidatedCandidate platform candidate) state →
      ExecutionRuns platform first state

/-- A run keeps what it started from at every moment. -/
theorem noneCompletedAlone_visits {world : World} (hnone : world.NoneCompletedAlone)
    (hfits : world.Fits candidate)
    (hvisits : Visits (mcpStep platform) world (executeRevalidatedCandidate platform candidate)
      state) : state.NoneCompletedAlone := by
  obtain ⟨log, hlogged⟩ := hvisits.logged []
  have hadvances := (executeRevalidatedCandidate_reports candidate world).visits hlogged
  exact hadvances.noneCompletedAlone hfits hnone

/-- For every answer of the store, the wallet and the network in a run that
nothing interferes with, the report says nothing false about the store and
names no state whose write failed in doubt; and along every sequence of runs,
cut short anywhere, from a store without completed funding, no funding row is
completed while its watch rule is not. -/
theorem execution_reports_truthful (platform : Platform) :
    (∀ candidate world after log report,
      Executes (logged (mcpStep platform)) (world, [])
        (executeRevalidatedCandidate platform candidate) (after, log) report →
      Truthful candidate world after log report) ∧
    (∀ first state : World,
      (∀ id row, first.funding.get id = some row → row.status ≠ .completed) →
      ExecutionRuns platform first state → state.NoneCompletedAlone) := by
  constructor
  · intro candidate world after log report hexec
    exact (executeRevalidatedCandidate_reports candidate world).executes hexec
  · intro first state hnone hruns
    induction hruns with
    | start => exact fun id row hget hcompleted => absurd hcompleted (hnone id row hget)
    | run _ hfits hvisits ih => exact noneCompletedAlone_visits ih hfits hvisits

/-- The sample candidate with the rule its funding row names. -/
def fittingCandidate : RevalidatedExecutionCandidate :=
  { sampleCandidate with
    ruleId := ⟨[50, 0, 0, 0, 32, 161, 7, 0, 0, 0, 0, 0, 154, 98, 218, 206], rfl⟩ }

theorem executes_fitting :
    Executes (mcpStep broadcastPlatform) sampleFunded
      (executeRevalidatedCandidate broadcastPlatform fittingCandidate) sampleSent sampleReport := by
  have hdecode : broadcastPlatform.deserializeTransaction samplePayload.signedTransactionBytes =
      some sampleSigned := SolanaCore.Transaction.deserialize_encode sampleSigned
  refine .call (4000 : Int64) rfl ?_
  refine .call (.ok 1) ⟨_, .answered 0, rfl⟩ ?_
  refine .call (.ok samplePayload) rfl ?_
  refine .call (.ok ()) rfl ?_
  simp only [submitTransaction, hdecode]
  exact .call (.error ()) rfl (.done _ _)

/-- The reserved run holds one row, in reserve and under the sample's rule. -/
theorem sampleFunded_row {id : String} {row : RowRaw}
    (hget : sampleFunded.funding.get id = some row) :
    row.status = .budgetReserved ∧ row.ruleIdHex = sampleIntent.ruleIdHex := by
  obtain ⟨only, honly, hstatus, hrule⟩ : ∃ only, sampleFunded.funding.rows = [only] ∧
      only.status = .budgetReserved ∧ only.ruleIdHex = sampleIntent.ruleIdHex :=
    ⟨_, rfl, rfl, rfl⟩
  have hmem := Foundation.Table.mem_of_get hget
  rw [honly, List.mem_singleton] at hmem
  rw [hmem]
  exact ⟨hstatus, hrule⟩

/-- The run that loses the answer of its send reports truthfully that the row is
executing. -/
theorem execution_report_of_lost_send :
    (∃ log, Truthful fittingCandidate sampleFunded sampleSent log sampleReport) ∧
      sampleSent.NoneCompletedAlone := by
  constructor
  · obtain ⟨log, hexec⟩ := executes_fitting.withLog []
    exact ⟨log, (execution_reports_truthful broadcastPlatform).1 _ _ _ _ _ hexec⟩
  · apply (execution_reports_truthful broadcastPlatform).2 sampleFunded
    · intro id row hget hcompleted
      rw [(sampleFunded_row hget).1] at hcompleted
      cases hcompleted
    · refine .run .start ?_ executes_fitting.visits
      intro row hget
      rw [(sampleFunded_row hget).2]
      decide

end SolFrontier.Mcp
