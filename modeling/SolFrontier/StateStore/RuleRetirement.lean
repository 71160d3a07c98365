import SolFrontier.StateStore.WatchRules
import SolFrontier.Types.CanonicalBytes

/-! # Retired watch rules

Every transition of a rule has a guarded variant next to an unguarded one. The
guarded variants never touch a retired rule; the unguarded ones write whatever
the row's status is, so a rule stays retired only in the histories that never
call one of them on a row it would spoil.
-/

namespace SolFrontier.StateStore

open Foundation Types

/-- A call and the system clock's reading in it. -/
abbrev WatchRuleCall := WatchRuleOp × Int64

/-- The repository, from an empty table. -/
abbrev watchRuleStore (json : RuleJson) : Machine WatchRuleTable WatchRuleCall :=
  tableMachine fun call => call.1.statement json call.2

variable {json : RuleJson}

/-! ## Statuses -/

namespace WatchRuleStatus

/-- The rule is completed, revoked, expired or failed. -/
def isRetired : WatchRuleStatus → Bool
  | completed | expired | revoked | failed => true
  | _ => false

theorem asStr_inj {left right : WatchRuleStatus} (heq : left.asStr = right.asStr) :
    left = right := by
  have hparse := parse_asStr left
  rw [heq, parse_asStr, Option.some.injEq] at hparse
  exact hparse.symm

/-- Setting the second status on a row of the first one neither revives it nor
contradicts its flags. -/
def mayBecome (status : WatchRuleStatus) : WatchRuleStatus → Bool
  | active | conditionMet | executing => !status.isRetired
  | failed | expired => status ≠ completed ∧ status ≠ revoked
  | completed => status ≠ revoked
  | revoked => status ≠ completed

/-- A completed rule stays completed, and a revoked one revoked. -/
theorem mayBecome_settled {status target : WatchRuleStatus}
    (hmay : status.mayBecome target = true) (hsettled : status = completed ∨ status = revoked) :
    target = status := by
  rcases hsettled with rfl | rfl
  · cases target with
    | completed => rfl
    | _ => cases hmay
  · cases target with
    | revoked => rfl
    | _ => cases hmay

/-- Only a completed or a revoked rule may not be retired in another way. -/
theorem settled_of_not_mayBecome {status target : WatchRuleStatus}
    (hretired : target.isRetired = true) (hnot : status.mayBecome target = false) :
    (status = completed ∧ target ≠ completed) ∨ (status = revoked ∧ target ≠ revoked) := by
  revert hretired hnot
  cases status <;> cases target <;> decide

/-- A retired rule stays retired. -/
theorem mayBecome_retired {status target : WatchRuleStatus}
    (hmay : status.mayBecome target = true) (hretired : status.isRetired = true) :
    target.isRetired = true := by
  cases target with
  | active | conditionMet | executing => simp [mayBecome, hretired] at hmay
  | _ => rfl

end WatchRuleStatus

/-- The flags of a row say the same as its status column. -/
structure WatchRuleRowRaw.Agrees (row : WatchRuleRowRaw) (status : WatchRuleStatus) : Prop where
  column : row.status = status.asStr
  completed : row.completed ≠ 0 ↔ status = .completed
  revoked : row.revoked ≠ 0 ↔ status = .revoked

theorem agrees_ruleToRow (rule : WatchRule) (nowMs : Int64) :
    (ruleToRow json rule nowMs).Agrees .active where
  column := rfl
  completed := by simp [ruleToRow]
  revoked := by simp [ruleToRow]

/-! ## What a call does to the lifecycle columns -/

namespace WatchRuleOp

/-- The status a call sets. -/
def target : WatchRuleOp → Option WatchRuleStatus
  | markConditionMet _ | markConditionMetIfActive _ => some .conditionMet
  | markExecuting .. | markExecutingIfConditionMet .. => some .executing
  | markCompleted .. => some .completed
  | markFailed .. | markFailedIfNotTerminal .. => some .failed
  | markExpired _ | markExpiredIfNotTerminal _ => some .expired
  | markRevoked _ => some .revoked
  | _ => none

/-- The statuses a guarded call asks for. -/
def sources : WatchRuleOp → List WatchRuleStatus
  | markConditionMetIfActive _ => [.active]
  | markExecutingIfConditionMet .. => [.conditionMet]
  | markFailedIfNotTerminal .. | markExpiredIfNotTerminal _ => [.active, .conditionMet]
  | _ => []

/-- The lifecycle columns before and after a granted call. -/
structure Moves (op : WatchRuleOp) (row next : WatchRuleRowRaw) : Prop where
  source : op.sources = [] ∨ ∃ status ∈ op.sources, row.status = status.asStr
  status : next.status = (op.target.map WatchRuleStatus.asStr).getD row.status
  completed : next.completed = if op.target = some .completed then 1 else row.completed
  revoked : next.revoked = if op.target = some .revoked then 1 else row.revoked

theorem lifecycle_guard {allowed : List WatchRuleStatus} {set : WatchRuleRowRaw → WatchRuleRowRaw}
    {hkey : ∀ row, (set row).ruleId = row.ruleId} {row : WatchRuleRowRaw}
    (hguard : (RuleWrite.lifecycle allowed set hkey).guard row = true) :
    allowed = [] ∨ ∃ status ∈ allowed, row.status = status.asStr := by
  simp only [RuleWrite.lifecycle, Bool.or_eq_true, List.isEmpty_iff, List.contains_iff_mem,
    List.mem_map] at hguard
  exact hguard.imp_right fun ⟨status, hmem, heq⟩ => ⟨status, hmem, heq.symm⟩

theorem moves_of_guard {op : WatchRuleOp} {nowMs : Int64} {id : String}
    {write : Update WatchRuleRowRaw.ruleId} {row : WatchRuleRowRaw}
    (hop : op.statement json nowMs = .update id write) (hguard : write.guard row = true) :
    op.Moves row (write.set row) := by
  cases op with
  | get | listActive | listActiveLimit | listPendingLifecycleLimit | listByUser | insert =>
      simp [statement] at hop
  | _ =>
      obtain ⟨rfl, rfl⟩ := Statement.update.inj hop
      exact ⟨lifecycle_guard hguard, rfl, rfl, rfl⟩

/-- A guarded call asks for statuses that may become its target. -/
theorem mayBecome_of_source {op : WatchRuleOp} {status target : WatchRuleStatus}
    (hsource : status ∈ op.sources) (htarget : op.target = some target) :
    status.mayBecome target = true := by
  cases op with
  | markConditionMetIfActive | markExecutingIfConditionMet =>
      obtain rfl := List.mem_singleton.mp hsource
      obtain rfl := Option.some.inj htarget
      rfl
  | markFailedIfNotTerminal | markExpiredIfNotTerminal =>
      obtain rfl := Option.some.inj htarget
      rcases List.mem_cons.mp hsource with rfl | hsource
      · rfl
      · obtain rfl := List.mem_singleton.mp hsource
        rfl
  | _ => cases hsource

/-- A call that may be made on a row keeps its columns in agreement. -/
theorem Moves.agrees {op : WatchRuleOp} {row next : WatchRuleRowRaw} {status : WatchRuleStatus}
    (hmoves : op.Moves row next) (hagrees : row.Agrees status)
    (hallowed : ∀ target, op.target = some target → status.mayBecome target = true) :
    next.Agrees (op.target.getD status) := by
  have hcolumn := hmoves.status
  have hcompleted := hmoves.completed
  have hrevoked := hmoves.revoked
  cases htarget : op.target with
  | none =>
      rw [htarget] at hcolumn hcompleted hrevoked
      exact
        { column := hcolumn.trans hagrees.column
          completed := by
            rw [hcompleted]
            exact hagrees.completed
          revoked := by
            rw [hrevoked]
            exact hagrees.revoked }
  | some target =>
      have hsettled := WatchRuleStatus.mayBecome_settled (hallowed target htarget)
      rw [htarget] at hcolumn hcompleted hrevoked
      refine ⟨hcolumn, ?_, ?_⟩
      · rw [hcompleted, Option.getD_some]
        by_cases hset : target = .completed
        · simp [hset]
        · rw [if_neg (fun h => hset (Option.some.inj h)), hagrees.completed]
          exact iff_of_false (fun h => hset ((hsettled (.inl h)).trans h)) hset
      · rw [hrevoked, Option.getD_some]
        by_cases hset : target = .revoked
        · simp [hset]
        · rw [if_neg (fun h => hset (Option.some.inj h)), hagrees.revoked]
          exact iff_of_false (fun h => hset ((hsettled (.inr h)).trans h)) hset

/-- A call that may not be made on a row revives it or spoils its flags. -/
theorem Moves.spoils {op : WatchRuleOp} {row next : WatchRuleRowRaw}
    {status target : WatchRuleStatus} (hmoves : op.Moves row next) (hagrees : row.Agrees status)
    (htarget : op.target = some target) (hnot : status.mayBecome target = false) :
    (status.isRetired = true ∧ target.isRetired = false) ∨ ¬ ∃ later, next.Agrees later := by
  have hcolumn := hmoves.status
  have hcompleted := hmoves.completed
  have hrevoked := hmoves.revoked
  rw [htarget] at hcolumn hcompleted hrevoked
  cases hlive : target.isRetired with
  | false =>
      cases target with
      | active | conditionMet | executing =>
          exact .inl ⟨by simpa [WatchRuleStatus.mayBecome] using hnot, rfl⟩
      | _ => cases hlive
  | true =>
      right
      rintro ⟨later, hlater⟩
      obtain rfl := WatchRuleStatus.asStr_inj (hcolumn.symm.trans hlater.column)
      -- A settled row keeps its flag, and the new status contradicts it.
      rcases WatchRuleStatus.settled_of_not_mayBecome hlive hnot with
        ⟨hstatus, hother⟩ | ⟨hstatus, hother⟩
      · rw [if_neg (fun h => hother (Option.some.inj h))] at hcompleted
        exact hother (hlater.completed.mp (hcompleted ▸ hagrees.completed.mpr hstatus))
      · rw [if_neg (fun h => hother (Option.some.inj h))] at hrevoked
        exact hother (hlater.revoked.mp (hrevoked ▸ hagrees.revoked.mpr hstatus))

/-- An unguarded call is granted on every row. -/
theorem guard_of_unguarded {op : WatchRuleOp} {nowMs : Int64} {id : String}
    {write : Update WatchRuleRowRaw.ruleId} (hop : op.statement json nowMs = .update id write)
    (hunguarded : op.sources = []) (row : WatchRuleRowRaw) : write.guard row = true := by
  cases op with
  | get | listActive | listActiveLimit | listPendingLifecycleLimit | listByUser | insert =>
      simp [statement] at hop
  | markConditionMetIfActive | markExecutingIfConditionMet | markFailedIfNotTerminal
  | markExpiredIfNotTerminal => cases hunguarded
  | _ =>
      obtain ⟨rfl, rfl⟩ := Statement.update.inj hop
      rfl

end WatchRuleOp

/-! ## Histories -/

/-- No unguarded call meets a row whose status may not become the one it sets. -/
def Spares (json : RuleJson) (table : WatchRuleTable) (call : WatchRuleCall) : Prop :=
  ∀ id write row (status target : WatchRuleStatus), call.1.statement json call.2 = .update id write →
    table.get id = some row → row.status = status.asStr → call.1.sources = [] →
    call.1.target = some target → status.mayBecome target = true

/-- Once a rule is completed, revoked, expired or failed, it is never active,
met or executing again. -/
def RetiredForGood (json : RuleJson) (history : List WatchRuleCall) : Prop :=
  ∀ earlier middle later id row current (status currentStatus : WatchRuleStatus),
    history = earlier ++ middle ++ later →
    ((watchRuleStore json).after earlier).get id = some row → row.status = status.asStr →
    status.isRetired = true →
    ((watchRuleStore json).after (earlier ++ middle)).get id = some current →
    current.status = currentStatus.asStr → currentStatus.isRetired = true

/-- At every point the flags of every row agree with its status. -/
def FlagsAgree (json : RuleJson) (history : List WatchRuleCall) : Prop :=
  ∀ earlier later id row, history = earlier ++ later →
    ((watchRuleStore json).after earlier).get id = some row → ∃ status, row.Agrees status

variable {history : List WatchRuleCall} {call : WatchRuleCall} {table : WatchRuleTable}
  {id : String} {row : WatchRuleRowRaw} {status : WatchRuleStatus}

/-- A spared row stays in agreement, and retired once it is. -/
theorem agrees_after_write {write : Update WatchRuleRowRaw.ruleId} (hspares : Spares json table call)
    (hop : call.1.statement json call.2 = .update id write) (hget : table.get id = some row)
    (hguard : write.guard row = true) (hagrees : row.Agrees status) :
    ∃ next, (write.set row).Agrees next ∧ (status.isRetired = true → next.isRetired = true) := by
  have hmoves := WatchRuleOp.moves_of_guard hop hguard
  have hallowed : ∀ target, call.1.target = some target → status.mayBecome target = true := by
    intro target htarget
    rcases hmoves.source with hunguarded | ⟨source, hsource, hcolumn⟩
    · exact hspares id write row status target hop hget hagrees.column hunguarded htarget
    · obtain rfl := WatchRuleStatus.asStr_inj (hcolumn.symm.trans hagrees.column)
      exact WatchRuleOp.mayBecome_of_source hsource htarget
  refine ⟨_, hmoves.agrees hagrees hallowed, ?_⟩
  cases htarget : call.1.target with
  | none => exact fun hretired => hretired
  | some target => exact WatchRuleStatus.mayBecome_retired (hallowed target htarget)

theorem agrees_of_spared (hspared : (watchRuleStore json).Throughout (Spares json) history)
    (hget : ((watchRuleStore json).after history).get id = some row) :
    ∃ status, row.Agrees status := by
  induction history using List.reverseRecOn generalizing row with
  | nil => cases hget
  | append_singleton history call ih =>
      obtain ⟨hbefore, hcall⟩ := (watchRuleStore json).throughout_concat.mp hspared
      rw [Machine.after_concat] at hget
      rcases Table.get_execute_cases ((watchRuleStore json).after history)
          (call.1.statement json call.2) id with
        hsame | ⟨fresh, hop, _, _, hnext⟩ | ⟨write, old, hop, hold, hguard, hnext⟩
      · exact ih hbefore (hsame.symm.trans hget)
      · obtain rfl : fresh = row := Option.some.inj (hnext.symm.trans hget)
        obtain ⟨op, nowMs⟩ := call
        cases op with
        | insert rule =>
            obtain rfl := Statement.insert.inj hop
            exact ⟨.active, agrees_ruleToRow rule nowMs⟩
        | _ => cases hop
      · obtain rfl : write.set old = row := Option.some.inj (hnext.symm.trans hget)
        obtain ⟨status, hagrees⟩ := ih hbefore hold
        obtain ⟨next, hnext, _⟩ := agrees_after_write hcall hop hold hguard hagrees
        exact ⟨next, hnext⟩

/-- Along a history that spares it, a retired row stays retired. -/
theorem retired_of_spared {middle : List WatchRuleCall}
    (hspared : (watchRuleStore json).Throughout (Spares json) (history ++ middle))
    (hget : ((watchRuleStore json).after history).get id = some row) (hagrees : row.Agrees status)
    (hretired : status.isRetired = true) :
    ∃ current later, ((watchRuleStore json).after (history ++ middle)).get id = some current ∧
      current.Agrees later ∧ later.isRetired = true := by
  induction middle using List.reverseRecOn with
  | nil =>
      rw [List.append_nil]
      exact ⟨row, status, hget, hagrees, hretired⟩
  | append_singleton middle call ih =>
      rw [← List.append_assoc] at hspared ⊢
      obtain ⟨hbefore, hcall⟩ := (watchRuleStore json).throughout_concat.mp hspared
      obtain ⟨current, later, hcurrent, hlater, hstill⟩ := ih hbefore
      rw [Machine.after_concat]
      rcases Table.get_execute_of_some (call.1.statement json call.2) hcurrent with
        hsame | ⟨write, hop, hguard, hnext⟩
      · exact ⟨current, later, hsame, hlater, hstill⟩
      · obtain ⟨next, hagreesNext, hkept⟩ := agrees_after_write hcall hop hcurrent hguard hlater
        exact ⟨_, next, hnext, hagreesNext, hkept hstill⟩

/-- A retired rule stays retired and every row's flags agree with its status,
throughout a history, exactly when no unguarded call of that history met a row
it would spoil. -/
theorem rule_retired_iff (json : RuleJson) (history : List WatchRuleCall) :
    RetiredForGood json history ∧ FlagsAgree json history ↔
      (watchRuleStore json).Throughout (Spares json) history := by
  constructor
  · rintro ⟨hretired, hflags⟩ earlier call later heq id write row status target hop hget hcolumn
      hunguarded htarget
    by_contra hnot
    rw [Bool.not_eq_true] at hnot
    obtain ⟨known, hknown⟩ := hflags earlier (call :: later) id row heq hget
    obtain rfl := WatchRuleStatus.asStr_inj (hcolumn.symm.trans hknown.column)
    have hguard := WatchRuleOp.guard_of_unguarded hop hunguarded row
    have hmoves := WatchRuleOp.moves_of_guard hop hguard
    have hnext : ((watchRuleStore json).after (earlier ++ [call])).get id = some (write.set row) := by
      rw [Machine.after_concat]
      exact (congrArg (fun statement => (Table.execute _ statement).get id) hop).trans
        (Table.get_execute_update hget hguard)
    rcases hmoves.spoils hknown htarget hnot with ⟨hold, hlive⟩ | hspoiled
    · have hstill := hretired earlier [call] later id row _ status target (by simp [heq]) hget hcolumn
        hold hnext (by rw [hmoves.status, htarget]; rfl)
      rw [hlive] at hstill
      cases hstill
    · exact hspoiled (hflags (earlier ++ [call]) later id _ (by simp [heq]) hnext)
  · intro hspared
    constructor
    · intro earlier middle later id row current status currentStatus heq hget hcolumn hretired
        hcurrent hcolumnNow
      rw [heq] at hspared
      obtain ⟨known, hknown⟩ := agrees_of_spared
        (Machine.throughout_of_append _ (Machine.throughout_of_append _ hspared)) hget
      obtain rfl := WatchRuleStatus.asStr_inj (hcolumn.symm.trans hknown.column)
      obtain ⟨last, final, hlast, hfinal, hstill⟩ :=
        retired_of_spared (Machine.throughout_of_append _ hspared) hget hknown hretired
      obtain rfl : last = current := Option.some.inj (hlast.symm.trans hcurrent)
      obtain rfl := WatchRuleStatus.asStr_inj (hcolumnNow.symm.trans hfinal.column)
      exact hstill
    · intro earlier later id row heq hget
      rw [heq] at hspared
      exact agrees_of_spared (Machine.throughout_of_append _ hspared) hget

/-! ## A revoked rule revived -/

/-- A rule is stored, revoked, and then reported to have met its condition. -/
def revokeThenMeet : List WatchRuleCall :=
  [(.insert (emptyDepositRule 0), 0), (.markRevoked (emptyDepositRule 0).ruleId, 1),
    (.markConditionMet (emptyDepositRule 0).ruleId, 2)]

/-- The unguarded call takes the revoked row back to `condition_met` and leaves
its `revoked` flag set. -/
theorem revoked_rule_revived :
    ¬ RetiredForGood .hex revokeThenMeet ∧ ¬ FlagsAgree .hex revokeThenMeet := by
  let json := RuleJson.hex
  let id := ruleIdHex (emptyDepositRule 0).ruleId
  let fresh := ruleToRow json (emptyDepositRule 0) 0
  let revoked := (RuleWrite.markRevoked 1).set fresh
  let met := (RuleWrite.setStatus [] .conditionMet 2).set revoked
  have hfree : (Table.empty : WatchRuleTable).get fresh.ruleId = none := rfl
  have hfresh : ((watchRuleStore json).after (revokeThenMeet.take 1)).get id = some fresh :=
    Table.get_execute_inserted hfree
  have hrevokes : (RuleWrite.markRevoked 1).guard fresh = true := rfl
  have hrevoked : ((watchRuleStore json).after (revokeThenMeet.take 2)).get id = some revoked :=
    Table.get_execute_update hfresh hrevokes
  have hmeets : (RuleWrite.setStatus [] .conditionMet 2).guard revoked = true := rfl
  have hmet : ((watchRuleStore json).after revokeThenMeet).get id = some met :=
    Table.get_execute_update hrevoked hmeets
  constructor
  · intro hretired
    have hstill := hretired (revokeThenMeet.take 2) (revokeThenMeet.drop 2) [] id revoked met
      .revoked .conditionMet rfl hrevoked rfl rfl hmet rfl
    cases hstill
  · intro hflags
    obtain ⟨status, hagrees⟩ := hflags revokeThenMeet [] id met rfl hmet
    have hcolumn : WatchRuleStatus.conditionMet.asStr = status.asStr := hagrees.column
    obtain rfl := WatchRuleStatus.asStr_inj hcolumn
    exact absurd (hagrees.revoked.mp (by decide)) (by decide)

end SolFrontier.StateStore
