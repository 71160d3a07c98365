import SolFrontier.Mcp.FreshPair

/-! # Competing confirm calls

Two compare-and-set statements and one re-read are all that concurrent confirm
calls share. Every law here holds at any point of any interleaving, with
crashes between any two steps and any answers of the chain.
-/

namespace SolFrontier.Mcp

open Foundation Types StateStore Program

/-- A call that writes to the store or to the chain. -/
def McpOp.writes : McpOp → Bool
  | .funding (.get _) | .funding (.listEligibleForRefund ..) | .funding (.listBudgetReserved _) =>
      false
  | .funding _ => true
  | .rules (.get _) | .rules (.listActive _) | .rules (.listActiveLimit ..)
  | .rules (.listPendingLifecycleLimit _) | .rules (.listByUser _) => false
  | .rules _ => true
  | .sendTransaction .. => true
  | _ => false

variable {platform : Platform} {permits : Event mcpFace → Prop} {world after base : World}
  {log : CallLog} {intentId signature : String} {tx : ObservedFundingTransaction}

/-! ## What the calls of one caller say together -/

/-- A call reads one transaction at most. -/
theorem read_once (hobeys : Discipline.Obeys (ConfirmAllows platform) log)
    {first second : String} {firstRead : McpOp.Answer (.readFundingTransaction first)}
    {secondRead : McpOp.Answer (.readFundingTransaction second)}
    (hfirst : ⟨.readFundingTransaction first, firstRead⟩ ∈ log)
    (hsecond : ⟨.readFundingTransaction second, secondRead⟩ ∈ log) :
    (⟨.readFundingTransaction first, firstRead⟩ : Event mcpFace) =
      ⟨.readFundingTransaction second, secondRead⟩ := by
  obtain ⟨before, rest, rfl⟩ := List.append_of_mem hfirst
  have hunread : Unread before := (hobeys before _ rest rfl).1
  rcases List.mem_append.mp hsecond with hearlier | hlater
  · exact absurd hearlier (hunread _ _)
  rcases List.mem_cons.mp hlater with hsame | hlater
  · exact hsame.symm
  · obtain ⟨between, later, rfl⟩ := List.append_of_mem hlater
    have hagain : Unread (before ++ ⟨.readFundingTransaction first, firstRead⟩ :: between) :=
      (hobeys _ ⟨.readFundingTransaction second, secondRead⟩ later (by simp)).1
    exact absurd (List.mem_append_right _ List.mem_cons_self) (hagain first firstRead)

/-- A call reads one row only. -/
theorem row_once (hobeys : Discipline.Obeys (ConfirmAllows platform) log)
    {first second : String} {firstRow : McpOp.Answer (.funding (.get first))}
    {secondRow : McpOp.Answer (.funding (.get second))}
    (hfirst : ⟨.funding (.get first), firstRow⟩ ∈ log)
    (hsecond : ⟨.funding (.get second), secondRow⟩ ∈ log) : first = second := by
  obtain ⟨before, rest, rfl⟩ := List.append_of_mem hfirst
  have habout : AboutRow before first := (hobeys before _ rest rfl).1
  rcases List.mem_append.mp hsecond with hearlier | hlater
  · exact (habout second secondRow hearlier).symm
  rcases List.mem_cons.mp hlater with hsame | hlater
  · cases hsame
    rfl
  · obtain ⟨between, later, rfl⟩ := List.append_of_mem hlater
    have hagain : AboutRow (before ++ ⟨.funding (.get first), firstRow⟩ :: between) second :=
      (hobeys _ ⟨.funding (.get second), secondRow⟩ later (by simp)).1
    exact hagain first firstRow (List.mem_append_right _ List.mem_cons_self)

/-- Two reads of a row are readings of one order. -/
theorem verify_once (hknows : Knows platform permits log world) {first second : W5hFundingIntent}
    (hfirst : ⟨.funding (.get intentId), .ok (some first)⟩ ∈ log)
    (hsecond : ⟨.funding (.get intentId), .ok (some second)⟩ ∈ log) :
    verifyFundingTransaction platform tx first = verifyFundingTransaction platform tx second := by
  obtain ⟨firstRow, row, hread, hget, hadvances⟩ := hknows.facts _ hfirst
  obtain ⟨secondRow, other, hother, hagain, hforward⟩ := hknows.facts _ hsecond
  obtain rfl : row = other := Option.some.inj (hget.symm.trans hagain)
  rw [← verifyFundingTransaction_sameOrder (hadvances.order.intent hread).2,
    ← verifyFundingTransaction_sameOrder (hforward.order.intent hother).2]

/-- A confirm call that wrote had verified its transaction. -/
theorem verified_of_writes {op : McpOp} (hallows : ConfirmAllows platform log op)
    (hwrites : op.writes = true) :
    ∃ intentId signature tx intent stored ruleId,
      VerifiedBy platform log intentId signature tx intent stored ruleId := by
  cases op with
  | funding op =>
      cases op with
      | get => cases hwrites
      | insert => cases hallows.2
      | markFundingSubmittedIfRequired id signature =>
          obtain ⟨tx, intent, stored, ruleId, hverified⟩ := hallows.1
          exact ⟨_, _, tx, intent, stored, ruleId, hverified⟩
      | markBudgetReservedIfSubmitted id signature slot =>
          obtain ⟨tx, intent, stored, ruleId, hverified, _⟩ := hallows.1
          exact ⟨_, _, tx, intent, stored, ruleId, hverified⟩
      | _ => exact absurd hallows.1 id
  | rules op =>
      cases op with
      | get => cases hwrites
      | insert => cases hallows.2
      | _ => exact absurd hallows.1 id
  | sendTransaction => exact absurd hallows.1 id
  | _ => cases hwrites

/-- A caller whose transaction fails the check for its row has written nothing. -/
theorem failed_writes_nothing (hobeys : Discipline.Obeys (ConfirmAllows platform) log)
    (hknows : Knows platform permits log world) {intent : W5hFundingIntent}
    (hrow : ⟨.funding (.get intentId), .ok (some intent)⟩ ∈ log)
    (hread : ⟨.readFundingTransaction signature, .ok (.confirmed tx)⟩ ∈ log)
    (hfails : verifyFundingTransaction platform tx intent ≠ .ok ()) :
    ∀ event ∈ log, event.op.writes = false := by
  intro event hmem
  by_contra hwrites
  rw [Bool.not_eq_false] at hwrites
  obtain ⟨earlier, rest, hlog⟩ := List.append_of_mem hmem
  have hsub : earlier ⊆ log := by
    rw [hlog]
    exact List.subset_append_left _ _
  obtain ⟨otherId, other, otherTx, verified, stored, ruleId, hverified⟩ :=
    verified_of_writes (hobeys earlier event rest hlog) hwrites
  have hsame := read_once hobeys hread (hsub hverified.read)
  obtain rfl := row_once hobeys hrow (hsub hverified.row)
  cases hsame
  rw [verify_once hknows hrow (hsub hverified.row)] at hfails
  exact hfails hverified.pays

/-! ## What a call reports -/

/-- A recorded signature is in the row, and stays there. -/
theorem Recorded.row (hknows : Knows platform permits log world)
    (hrecorded : Recorded log intentId signature) :
    ∃ row, world.funding.get intentId = some row ∧ row.fundingSignature = some signature := by
  rcases hrecorded with ⟨intent, hread, hstatus, hsigned⟩ | ⟨written, hwritten, hmark⟩
  · obtain ⟨first, row, hfirst, hget, hadvances⟩ := hknows.facts _ hread
    obtain ⟨_, rfl⟩ := rowToIntent_ok.mp hfirst
    refine ⟨row, hget, hadvances.signed ?_ signature hsigned⟩
    have hnot : first.status ≠ .fundingRequired := hstatus
    unfold fundingStage
    split
    · contradiction
    · exact Nat.one_ne_zero
    · exact Nat.succ_ne_zero 1
  · obtain ⟨first, row, hsigned, hstatus, hget, hadvances⟩ := hknows.facts _ hmark hwritten
    refine ⟨row, hget, hadvances.signed ?_ signature hsigned⟩
    rw [hstatus]
    exact Nat.one_ne_zero

/-! ## One call repeated -/

theorem reportsReserved_success {intent : W5hFundingIntent} {stored : StoredWatchRule}
    {slot : Option UInt64} {blockTimeMs : Option Int64} {confirmation : String} {nowMs : Int64}
    {idempotent : Bool} :
    ReportsReserved (successResponse intent stored signature slot blockTimeMs confirmation nowMs
      idempotent) signature := by
  simp [ReportsReserved, successResponse, Json.get]

/-- An undisturbed call with the recorded signature can only succeed. -/
def RetrySucceeds (platform : Platform) (world : World) (params : ConfirmFundingParams)
    (signature : String) (tx : ObservedFundingTransaction) : Prop :=
  (∃ after result, Executes (mcpWorld platform (Undisturbed signature tx)) world
      (confirmFundingJson platform params true) after result) ∧
    ∀ after result, Executes (mcpWorld platform (Undisturbed signature tx)) world
      (confirmFundingJson platform params true) after result →
      ∃ response, result = .ok response ∧ ReportsReserved response signature

theorem retrySucceeds {row : RowRaw} {params : ConfirmFundingParams}
    (hintent : trim params.intentId = intentId) (hsignature : trim params.txSignature = signature)
    (hget : world.funding.get intentId = some row) (hsigned : row.fundingSignature = some signature)
    (hstatus : row.status = .fundingSubmitted ∨ row.status = .budgetReserved)
    (hevidence : Evidence platform permits world row signature tx) :
    RetrySucceeds platform world params signature tx := by
  rcases hstatus with hsubmitted | hreserved
  · obtain ⟨stored, hruns⟩ :=
      confirmFundingJson_reserves hintent hsignature hget hevidence (.inr ⟨hsubmitted, hsigned⟩)
    refine ⟨⟨_, _, (hruns _ _).mpr ⟨0, 0, 0, rfl, rfl⟩⟩, ?_⟩
    intro after result hexec
    obtain ⟨_, _, _, _, hresult⟩ := (hruns after result).mp hexec
    exact ⟨_, hresult, reportsReserved_success⟩
  · obtain ⟨stored, hruns⟩ :=
      confirmFundingJson_repeats hintent hsignature hget hevidence hreserved hsigned
    refine ⟨⟨_, _, (hruns _ _).mpr ⟨rfl, 0, rfl⟩⟩, ?_⟩
    intro after result hexec
    obtain ⟨_, _, hresult⟩ := (hruns after result).mp hexec
    exact ⟨_, hresult, reportsReserved_success⟩

/-! ## Every interleaving -/

/-- Only a verified call moves a row. -/
theorem moved_by_verified (hknows : Knows platform permits log world) {op : McpOp}
    (hallows : ConfirmAllows platform log op) {answer : op.Answer}
    (hstep : mcpWorld platform permits world ⟨op, answer⟩ after) {row : RowRaw}
    (hget : world.funding.get intentId = some row)
    (hmoved : after.funding.get intentId ≠ some row) :
    ∃ signature tx changed, ⟨.readFundingTransaction signature, .ok (.confirmed tx)⟩ ∈ log ∧
      verifyFundingTransaction platform tx row.toIntent = .ok () ∧
      after.funding.get intentId = some changed ∧ changed.fundingSignature = some signature := by
  cases op with
  | funding op =>
      obtain ⟨table, hattempt, rfl⟩ := hstep.2
      rcases attempt_stored hattempt hget with hsame | ⟨changed, write, nowMs, hop, hchange, hnext⟩
      · exact absurd hsame hmoved
      cases hchange with
      | submitted =>
          obtain ⟨tx, intent, stored, ruleId, hverified⟩ := hallows.1
          obtain ⟨rfl, _⟩ := Statement.update.inj hop
          exact ⟨_, tx, _, hverified.read, hverified.pays_row hknows hget, hnext, rfl⟩
      | reserved _ hrecorded =>
          obtain ⟨tx, intent, stored, ruleId, hverified, _⟩ := hallows.1
          obtain ⟨rfl, _⟩ := Statement.update.inj hop
          exact ⟨_, tx, _, hverified.read, hverified.pays_row hknows hget, hnext, hrecorded⟩
      | _ => exact absurd hallows.1 id
  | rules op =>
      obtain ⟨table, _, rfl⟩ := hstep.2
      exact absurd hget hmoved
  | sendTransaction => exact absurd hallows.1 id
  | _ =>
      have hsame : after = world := hstep.2
      rw [hsame] at hmoved
      exact absurd hget hmoved

theorem allEvidenced_after (history : List W5hCall) (rules : WatchRuleTable)
    (sends : String → Nat) : AllEvidenced ⟨w5hStore.after history, rules, sends⟩ :=
  fun _ _ hget => evidenced_of_get hget

/-- A signed row is past its first stage. -/
theorem started_of_signed {row : RowRaw} (hrow : row.Evidenced)
    (hsigned : row.fundingSignature = some signature) : fundingStage row.status ≠ 0 := by
  have hnot : row.status ≠ .fundingRequired := by
    intro hrequired
    rw [hrow.unsigned hrequired] at hsigned
    cases hsigned
  unfold fundingStage
  split
  · contradiction
  · exact Nat.one_ne_zero
  · exact Nat.succ_ne_zero 1

variable {Caller : Type} [DecidableEq Caller]

/-- Confirm is bound to evidence and safe under races. At every point of every
interleaving of confirm calls over any stored history: a row is changed only by
a caller that read a transaction paying this row; from there on a recorded
signature stays and no row goes back; a caller that answered with a reservation
finds its signature recorded; a caller whose transaction failed the check has
written nothing; and an undisturbed call with a signature recorded since the
start, seeing the observation it was recorded on, succeeds. -/
theorem confirm_races (history : List W5hCall) (rules : WatchRuleTable) (sends : String → Nat)
    {pool : Pool mcpFace World Caller ToolAnswer} {logs : Caller → CallLog}
    (htrace : Pool.Trace (mcpWorld platform permits) (ConfirmEntry platform)
      (Pool.initial ⟨w5hStore.after history, rules, sends⟩) logs pool) :
    (∀ next id row, Pool.Step (mcpWorld platform permits) (ConfirmEntry platform) pool next →
      pool.world.funding.get id = some row → next.world.funding.get id ≠ some row →
      ∃ caller op resume answer, pool.callers caller = some (.call op resume) ∧
        next.callers = Function.update pool.callers caller (some (resume answer)) ∧
        ∃ signature tx changed,
          ⟨.readFundingTransaction signature, .ok (.confirmed tx)⟩ ∈ logs caller ∧
          verifyFundingTransaction platform tx row.toIntent = .ok () ∧
          next.world.funding.get id = some changed ∧
          changed.fundingSignature = some signature) ∧
    (∀ later id row, Pool.Reaches (mcpWorld platform permits) (ConfirmEntry platform) pool later →
      pool.world.funding.get id = some row →
      ∃ current, later.world.funding.get id = some current ∧
        fundingStage row.status ≤ fundingStage current.status ∧
        ∀ signature, row.fundingSignature = some signature →
          current.fundingSignature = some signature) ∧
    (∀ caller params response signature,
      pool.callers caller = some (.done (.confirmed params (.ok response))) →
      ReportsReserved response signature →
      ∃ row, pool.world.funding.get (trim params.intentId) = some row ∧
        row.fundingSignature = some signature) ∧
    (∀ caller program id intent signature tx, pool.callers caller = some program →
      ⟨.funding (.get id), .ok (some intent)⟩ ∈ logs caller →
      ⟨.readFundingTransaction signature, .ok (.confirmed tx)⟩ ∈ logs caller →
      verifyFundingTransaction platform tx intent ≠ .ok () →
      ∀ event ∈ logs caller, event.op.writes = false) ∧
    (∀ id row signature, pool.world.funding.get id = some row →
      row.fundingSignature = some signature → (w5hStore.after history).get id ≠ some row →
      ∃ tx, permits ⟨.readFundingTransaction signature, .ok (.confirmed tx)⟩ ∧
        ∀ world params, trim params.intentId = id → trim params.txSignature = signature →
          world.funding.get id = some row →
          (∀ ruleId, decodeRuleId id = some ruleId →
            world.rules.get (ruleIdHex ruleId) = pool.world.rules.get (ruleIdHex ruleId)) →
          row.status = .fundingSubmitted ∨ row.status = .budgetReserved →
          RetrySucceeds platform world params signature tx) := by
  have hassigned := assigned_of_tools (fun _ => ConfirmEntry.tool)
    (allEvidenced_after history rules sends) htrace
  have hsound := hassigned.inv
  refine ⟨?_, ?_, ?_, ?_, ?_⟩
  · intro next id row hstep hget hmoved
    cases hstep with
    | start => exact absurd hget hmoved
    | crash => exact absurd hget hmoved
    | act caller answer hcall hsem =>
        -- Only an act moves the row, and its caller has logged what it read before.
        have hfollows :=
          (PoolInvariant.recalls_of_trace (fun _ => confirmEntry_follows) htrace hcall).2
        exact ⟨caller, _, _, answer, hcall, rfl,
          moved_by_verified (hassigned.holds caller _ hcall) hfollows.1 hsem hget hmoved⟩
  · intro later id row hreaches hget
    have hlater := later_of_reaches (fun _ => ConfirmEntry.tool) hassigned hreaches
    obtain ⟨current, hcurrent, hadvances⟩ := hlater.funding id row hget
    refine ⟨current, hcurrent, hadvances.forward, fun signature hsigned => ?_⟩
    exact hadvances.signed (started_of_signed (hsound.evidenced id row hget) hsigned) signature hsigned
  · intro caller params response signature hdone hreports
    have hreported : ToolReports platform (logs caller) (.confirmed params (.ok response)) :=
      hassigned.follows caller _ hdone
    exact (hreported response signature rfl hreports).row (hassigned.holds caller _ hdone)
  · intro caller program id intent signature tx hrunning hrow hread hfails
    exact failed_writes_nothing
      (PoolInvariant.recalls_of_trace (fun _ => confirmEntry_follows) htrace hrunning).1
      (hassigned.holds caller _ hrunning) hrow hread hfails
  · intro id row signature hget hsigned hmoved
    rcases hsound.backed id row signature hget hsigned with hbase | ⟨tx, hevidence⟩
    · exact absurd hbase hmoved
    refine ⟨tx, hevidence.read, ?_⟩
    intro world params hintent hsignature hsame hrules hstatus
    -- The evidence of the recording holds in the other world too, where the rule is the same.
    obtain ⟨ruleId, ruleRow, stored, hdecoded, hrule, hstored, hmatches⟩ := hevidence.rule
    have hdecodedId := hdecoded
    rw [Table.key_of_get hget] at hdecodedId
    have hnow : Evidence platform permits world row signature tx :=
      { hevidence with
        rule := ⟨ruleId, ruleRow, stored, hdecoded, (hrules ruleId hdecodedId).trans hrule, hstored,
          hmatches⟩ }
    exact retrySucceeds hintent hsignature hsame hsigned hstatus hnow

/-- A confirm call for a stored order finds its signature recorded. -/
theorem confirm_races_halfUsdc :
    ∃ pool : Pool mcpFace World Unit ToolAnswer,
      Pool.Reaches (mcpWorld halfUsdcPlatform (Undisturbed halfUsdcSignature halfUsdcPayment))
        (ConfirmEntry halfUsdcPlatform) (Pool.initial halfUsdcStored) pool ∧
      ∃ row, pool.world.funding.get (halfUsdcOrder 50).intentId = some row ∧
        row.fundingSignature = some halfUsdcSignature := by
  have hid : trim (halfUsdcConfirm 50).intentId = (halfUsdcOrder 50).intentId := trim_hexEncode _
  have hrule : halfUsdcStored.rules.get (ruleIdHex (canonicalWatchRule (halfUsdcDraft 50)
      419000000).ruleId) = some (ruleToRow halfUsdcPlatform.json
        (canonicalWatchRule (halfUsdcDraft 50) 419000000) 1700000000000) :=
    (Table.get_execute_insert rfl _).trans (if_pos rfl)
  have hevidence : Evidence halfUsdcPlatform (Undisturbed halfUsdcSignature halfUsdcPayment)
      halfUsdcStored ((halfUsdcOrder 50).toRow 1700000000000) halfUsdcSignature halfUsdcPayment :=
    evidence_halfUsdc (by decide) List.mem_cons_self hrule .read
  obtain ⟨stored, hruns⟩ := confirmFundingJson_reserves hid trim_halfUsdcSignature
    get_halfUsdcStored hevidence (.inl rfl)
  have hcall := confirmCall_executes ((hruns _ _).mpr ⟨0, 0, 0, rfl, rfl⟩)
  have hfirst : Pool.Reaches
      (mcpWorld halfUsdcPlatform (Undisturbed halfUsdcSignature halfUsdcPayment))
      (ConfirmEntry halfUsdcPlatform) (Pool.initial halfUsdcStored)
      (Pool.initial halfUsdcStored : Pool mcpFace World Unit ToolAnswer) := .refl
  have hidle : (Pool.initial halfUsdcStored : Pool mcpFace World Unit ToolAnswer).callers () =
    none := rfl
  obtain ⟨pool, hreaches, _, hdone, _⟩ :=
    hfirst.finishes hidle (.confirm (halfUsdcConfirm 50) true) hcall
  obtain ⟨logs, htrace⟩ := hreaches.trace
  have hrecorded := (confirm_races _ _ _ htrace).2.2.1 () _ _ halfUsdcSignature hdone
    reportsReserved_success
  rw [hid] at hrecorded
  exact ⟨pool, hreaches, hrecorded⟩

end SolFrontier.Mcp
