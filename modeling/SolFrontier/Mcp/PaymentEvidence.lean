import SolFrontier.Mcp.StoreFacts

/-! # The payment behind a recorded signature

A row that records a funding signature was moved by a call that read the
signature's transaction and verified it against this row. The evidence talks
about the row's order columns and the stored rule only, so it outlives the call.
-/

namespace SolFrontier.Mcp

open Foundation Types StateStore Program

variable {platform : Platform} {permits : Event mcpFace → Prop} {world after base : World}
  {log : CallLog} {intentId signature : String} {tx : ObservedFundingTransaction}
  {intent renewed : W5hFundingIntent} {stored : StoredWatchRule} {ruleId : Bytes 16}

/-! ## Checks that read the order only -/

theorem verifyFundingTransaction_sameOrder (hsame : intent.SameOrder renewed) :
    verifyFundingTransaction platform tx renewed = verifyFundingTransaction platform tx intent := by
  rw [hsame]
  rfl

theorem watchRuleMatchesIntent_sameOrder (hsame : intent.SameOrder renewed) :
    watchRuleMatchesIntent stored renewed = watchRuleMatchesIntent stored intent := by
  rw [hsame]
  rfl

/-! ## Evidence -/

/-- A rule stored under the row's id that passes the joint check with it. -/
def RuleBacked (platform : Platform) (world : World) (row : RowRaw) : Prop :=
  ∃ ruleId ruleRow stored, decodeRuleId row.intentId = some ruleId ∧
    world.rules.get (ruleIdHex ruleId) = some ruleRow ∧
    rowToStored platform.json ruleRow = .ok stored ∧
    watchRuleMatchesIntent stored row.toIntent = true

/-- A transaction that some call read under this signature and that pays the
order of the row. -/
structure Evidence (platform : Platform) (permits : Event mcpFace → Prop) (world : World)
    (row : RowRaw) (signature : String) (tx : ObservedFundingTransaction) : Prop where
  wellFormed : (signatureFromStr signature).isSome = true
  readable : rowToIntent row = .ok row.toIntent
  rule : RuleBacked platform world row
  read : permits ⟨.readFundingTransaction signature, .ok (.confirmed tx)⟩
  pays : verifyFundingTransaction platform tx row.toIntent = .ok ()
  slot : row.status = .budgetReserved → row.fundingFinalizedSlot = some tx.slot.toInt64

theorem RuleBacked.later {row next : RowRaw} (hbacked : RuleBacked platform world row)
    (hread : rowToIntent row = .ok row.toIntent) (hsame : row.SameOrder next)
    (hlater : world.Later after) : RuleBacked platform after next := by
  obtain ⟨ruleId, ruleRow, stored, hdecoded, hget, hstored, hmatches⟩ := hbacked
  refine ⟨ruleId, ruleRow, stored, hsame.intentId ▸ hdecoded, hlater.rules _ _ hget, hstored, ?_⟩
  rw [watchRuleMatchesIntent_sameOrder (hsame.intent hread).2]
  exact hmatches

theorem Evidence.later {row : RowRaw} (hevidence : Evidence platform permits world row signature tx)
    (hlater : world.Later after) : Evidence platform permits after row signature tx :=
  { hevidence with rule := hevidence.rule.later hevidence.readable (.refl row) hlater }

/-- The row a verified call read is still the same order. -/
theorem VerifiedBy.order (hknows : Knows platform permits log world)
    (hverified : VerifiedBy platform log intentId signature tx intent stored ruleId)
    {row : RowRaw} (hget : world.funding.get intentId = some row) :
    rowToIntent row = .ok row.toIntent ∧ intent.SameOrder row.toIntent := by
  obtain ⟨first, current, hread, hcurrent, hadvances⟩ := hknows.facts _ hverified.row
  obtain rfl : current = row := Option.some.inj (hcurrent.symm.trans hget)
  exact hadvances.order.intent hread

theorem VerifiedBy.pays_row (hknows : Knows platform permits log world)
    (hverified : VerifiedBy platform log intentId signature tx intent stored ruleId)
    {row : RowRaw} (hget : world.funding.get intentId = some row) :
    verifyFundingTransaction platform tx row.toIntent = .ok () := by
  rw [verifyFundingTransaction_sameOrder (hverified.order hknows hget).2]
  exact hverified.pays

/-- A verified call is evidence for what it writes in the row it read. -/
theorem VerifiedBy.evidence (hknows : Knows platform permits log world)
    (hverified : VerifiedBy platform log intentId signature tx intent stored ruleId)
    {row next : RowRaw} (hget : world.funding.get intentId = some row) (hsame : row.SameOrder next)
    (hslot : next.status = .budgetReserved → next.fundingFinalizedSlot = some tx.slot.toInt64) :
    Evidence platform permits world next signature tx := by
  obtain ⟨hrow, horder⟩ := hverified.order hknows hget
  obtain ⟨hnext, hsameOrder⟩ := hsame.intent hrow
  obtain ⟨ruleRow, hrule, hstored⟩ := hknows.facts _ hverified.rule
  have hid : next.intentId = intentId := hsame.intentId.trans (Table.key_of_get hget)
  refine
    { wellFormed := hverified.wellFormed
      readable := hnext
      rule := ⟨ruleId, ruleRow, stored, hid ▸ hverified.decoded, hrule, hstored, ?_⟩
      read := hknows.permitted _ hverified.read
      pays := ?_
      slot := hslot }
  · rw [watchRuleMatchesIntent_sameOrder hsameOrder, watchRuleMatchesIntent_sameOrder horder]
    exact hverified.identity
  · rw [verifyFundingTransaction_sameOrder hsameOrder]
    exact hverified.pays_row hknows hget

/-! ## Every recorded signature has its evidence -/

/-- The stored rows agree with their evidence columns. -/
def AllEvidenced (world : World) : Prop :=
  ∀ id row, world.funding.get id = some row → row.Evidenced

/-- A signature was recorded before, or has evidence. -/
def Backed (platform : Platform) (permits : Event mcpFace → Prop) (base world : World) : Prop :=
  ∀ id row signature, world.funding.get id = some row → row.fundingSignature = some signature →
    base.funding.get id = some row ∨ ∃ tx, Evidence platform permits world row signature tx

/-- What every interleaving keeps, relative to the store it began with. -/
structure Sound (platform : Platform) (permits : Event mcpFace → Prop) (base world : World) :
    Prop where
  later : base.Later world
  evidenced : AllEvidenced world
  backed : Backed platform permits base world

theorem sound_base (hevidenced : AllEvidenced base) : Sound platform permits base base where
  later := .refl base
  evidenced := hevidenced
  backed _ _ _ hget _ := .inl hget

/-- A granted transition of a tool has fresh evidence for the row it leaves. -/
theorem evidence_of_changes (hknows : Knows platform permits log world) {op : W5hOp}
    (hallows : ToolAllows platform log (.funding op)) {row next : RowRaw} {nowMs : Int64}
    {write : Update RowRaw.intentId} (hop : op.statement nowMs = .update intentId write)
    (hget : world.funding.get intentId = some row) (hchange : op.Changes row next)
    (hsigned : next.fundingSignature = some signature) :
    ∃ tx, Evidence platform permits world next signature tx := by
  have hsame := RowRaw.SameOrder.changes hchange (.refl row)
  cases hchange with
  | submitted hguard =>
      obtain ⟨tx, intent, stored, ruleId, hverified⟩ := hallows
      obtain ⟨rfl, _⟩ := Statement.update.inj hop
      obtain rfl := Option.some.inj hsigned
      exact ⟨tx, hverified.evidence hknows hget hsame (fun h => by cases h)⟩
  | reserved hstatus hrecorded =>
      obtain ⟨tx, intent, stored, ruleId, hverified, rfl⟩ := hallows
      obtain ⟨rfl, _⟩ := Statement.update.inj hop
      obtain rfl := Option.some.inj (hrecorded.symm.trans hsigned)
      exact ⟨tx, hverified.evidence hknows hget hsame (fun _ => rfl)⟩
  | _ => exact absurd hallows id

/-- Every allowed call keeps the store sound. -/
theorem Sound.step (hsound : Sound platform permits base world)
    (hknows : Knows platform permits log world) {op : McpOp} {answer : op.Answer}
    (hallows : ToolAllows platform log op)
    (hstep : mcpWorld platform permits world ⟨op, answer⟩ after) :
    Sound platform permits base after := by
  have hlater := later_of_allowed hallows hstep.2
  have hrows (hfunding : after.funding = world.funding) : Sound platform permits base after :=
    { later := hsound.later.trans hlater
      evidenced := fun id row hget => hsound.evidenced id row (hfunding ▸ hget)
      backed := fun id row signature hget hsigned =>
        (hsound.backed id row signature (hfunding ▸ hget) hsigned).imp_right
          fun ⟨tx, hevidence⟩ => ⟨tx, hevidence.later hlater⟩ }
  cases op with
  | funding op =>
      obtain ⟨table, hattempt, rfl⟩ := hstep.2
      constructor
      · exact hsound.later.trans hlater
      · intro id row hget
        rcases attempt_found hattempt hget with
          hsame | ⟨fresh, nowMs, _, _, rfl⟩ | ⟨old, _, _, _, hold, hchange⟩
        · exact hsound.evidenced id row hsame
        · exact evidenced_toRow fresh nowMs
        · exact (hsound.evidenced id old hold).changes hchange
      · intro id row signature hget hsigned
        rcases attempt_found hattempt hget with
          hsame | ⟨fresh, nowMs, _, _, rfl⟩ | ⟨old, write, nowMs, hop, hold, hchange⟩
        · exact (hsound.backed id row signature hsame hsigned).imp_right
            fun ⟨tx, hevidence⟩ => ⟨tx, hevidence.later hlater⟩
        · cases hsigned
        · obtain ⟨tx, hevidence⟩ := evidence_of_changes hknows hallows hop hold hchange hsigned
          exact .inr ⟨tx, hevidence.later hlater⟩
  | rules op =>
      obtain ⟨table, _, rfl⟩ := hstep.2
      exact hrows rfl
  | sendTransaction => exact absurd hallows id
  | _ =>
      have hsame : after = world := hstep.2
      exact hrows (congrArg World.funding hsame)

/-- Soundness and every caller's knowledge, for every interleaving. -/
def soundInvariant (platform : Platform) (permits : Event mcpFace → Prop) (base : World) :
    PoolInvariant (mcpWorld platform permits) (toolDiscipline platform) :=
  toolInvariant platform permits (Sound platform permits base)
    fun hsound hknows hallows hstep => hsound.step hknows hallows hstep

variable {Caller : Type} [DecidableEq Caller] {entry : Program mcpFace ToolAnswer → Prop}

/-- Along every run of tool calls, the calls of each caller are what it knows. -/
theorem assigned_of_tools (hentry : ∀ program, entry program → ToolEntry platform program)
    (hevidenced : AllEvidenced base) {pool : Pool mcpFace World Caller ToolAnswer}
    {logs : Caller → CallLog}
    (htrace : Pool.Trace (mcpWorld platform permits) entry (Pool.initial base) logs pool) :
    (soundInvariant platform permits base).Assigned (ToolReports platform) pool logs := by
  have hassigned : (soundInvariant platform permits base).Assigned (ToolReports platform) pool
      fun caller => (toolDiscipline platform).after [] (logs caller) :=
    PoolInvariant.assigned_of_trace
      (fun program hprogram => toolEntry_follows (hentry program hprogram)) knows_nil
      (fun _ => trivial) (sound_base hevidenced) htrace
  simpa using hassigned

/-- From any point of a run on, the store only moves forward. -/
theorem later_of_reaches (hentry : ∀ program, entry program → ToolEntry platform program)
    {pool later : Pool mcpFace World Caller ToolAnswer} {logs : Caller → CallLog}
    (hassigned : (soundInvariant platform permits base).Assigned (ToolReports platform) pool logs)
    (hreaches : Pool.Reaches (mcpWorld platform permits) entry pool later) :
    pool.world.Later later.world := by
  have hgood : (soundInvariant platform permits pool.world).Good (ToolReports platform) pool :=
    ⟨logs, sound_base hassigned.inv.evidenced, hassigned.follows, hassigned.holds,
      fun _ _ _ _ _ _ _ => trivial⟩
  obtain ⟨_, hlast⟩ := hgood.reaches
    (fun program hprogram => toolEntry_follows (hentry program hprogram))
    (fun _ => knows_nil) (fun _ _ => trivial) hreaches
  exact hlast.inv.later

end SolFrontier.Mcp
