import SolFrontier.Mcp.ScanIndependence

/-! # The last check before a lease

Immediately before it leases, a worker inspects its intent again and takes the
candidate out of the inspection. Taking it out re-checks the whole inspection:
its ids, its clocks, its plan and its amounts.
-/

namespace SolFrontier.Mcp

open Foundation Types StateStore SolanaCore Executor Protocols

def CandidateArtifactError.class : CandidateArtifactError → String
  | scanUnsafe => "execute_scan_unsafe"
  | duplicateReadyIntent => "duplicate_ready_intent"
  | readyRowMissing => "revalidated_candidate_not_ready"
  | readyRowMalformed => "revalidated_candidate_malformed"

/-- Sixteen bytes in lower-case hexadecimal. -/
def exactLowerHexRuleId (value : String) : Option (Bytes 16) :=
  if (utf8Bytes value).length ≠ 32 ∨
      (utf8Bytes value).any fun byte => !Sidecar.isLowerHex byte then none
  else
    match hexDecode value with
    | .ok bytes => if h : bytes.length = 16 then some ⟨bytes, h⟩ else none
    | .error _ => none

/-- Go on with a part of the artifact that is there only. -/
def artifactPart {α : Type} (part : Option α) : Except CandidateArtifactError α :=
  match part with
  | some part => .ok part
  | none => .error .readyRowMalformed

/-- Go on with an artifact that is as expected only. -/
def artifactCheck (expected : Prop) [Decidable expected] (error : CandidateArtifactError) :
    Except CandidateArtifactError Unit :=
  if expected then .ok () else .error error

/-- Extract one exact candidate from a fresh inspection of its row. -/
def revalidatedCandidate (inspection : CandidateInspection) (expectedIntentId : String) :
    Except CandidateArtifactError RevalidatedExecutionCandidate := do
  let row := inspection.row
  artifactCheck (row.status = "ready" ∧ row.errorClass = none) .readyRowMissing
  let intentId ← artifactPart row.intentId
  let ruleIdHex ← artifactPart row.ruleIdHex
  artifactCheck (intentId = ruleIdHex) .readyRowMalformed
  artifactCheck (intentId = expectedIntentId) .readyRowMissing
  let ruleId ← artifactPart (exactLowerHexRuleId ruleIdHex)
  let candidate ← artifactPart row.candidate
  artifactCheck (candidate.classification = .ready ∧ candidate.intentId = some intentId ∧
    candidate.ruleIdHex = some ruleIdHex ∧ candidate.clocks.wallClockEligible = some true ∧
    candidate.clocks.slotClockEligible = some true) .readyRowMalformed
  let plan ← artifactPart inspection.plan
  artifactCheck (plan.report = candidate) .readyRowMalformed
  let amounts ← artifactPart candidate.amounts
  artifactCheck (amounts.allEqualAndNonzero = true) .readyRowMalformed
  let amountText := toString plan.inputAmountRaw
  artifactCheck (plan.inputAmountRaw ≠ 0 ∧ amounts.actionInputAmountRaw = some amountText ∧
    amounts.ruleMaxInputAmountRaw = some amountText ∧
    amounts.fundingAmountRaw = some amountText) .readyRowMalformed
  pure { intentId, ruleId, amountRaw := plan.inputAmountRaw, plan }

@[simp] theorem artifactPart_eq_ok {α : Type} {part : Option α} {value : α} :
    artifactPart part = .ok value ↔ part = some value := by
  cases part <;> simp [artifactPart]

@[simp] theorem artifactCheck_eq_ok {expected : Prop} [Decidable expected]
    {error : CandidateArtifactError} : artifactCheck expected error = .ok () ↔ expected := by
  by_cases hexpected : expected <;> simp [artifactCheck, hexpected]

/-! ## What a ready inspection stands for -/

/-- The report of an order that nothing blocks. -/
structure ReadyReport (funding : FundingSnapshot) (rule : WatchRule) (report : CandidateReport) :
    Prop where
  classification : report.classification = .ready
  intentId : report.intentId = some funding.intentId
  ruleIdHex : report.ruleIdHex = some (ruleIdHex rule.ruleId)
  wallClock : report.clocks.wallClockEligible = some true
  slotClock : report.clocks.slotClockEligible = some true
  amounts : report.amounts = some
    { actionInputAmountRaw := some (toString funding.amountRaw)
      ruleMaxInputAmountRaw := some (toString funding.amountRaw)
      fundingAmountRaw := some (toString funding.amountRaw)
      allEqualAndNonzero := true }

section

variable {funding : FundingSnapshot} {rule : WatchRule} {deposit : SolendDeposit}
  {rate : SolendReserveSupplyRate} {clocks : PreflightClockSnapshot} {facts : ChainFacts}
  {finalClocks : ClockSnapshot}

theorem amounts_joinedReport (hadmissible : AdmissibleDeposit funding rule deposit rate clocks) :
    (joinedReport funding rule clocks).amounts = some
      { actionInputAmountRaw := some (toString funding.amountRaw)
        ruleMaxInputAmountRaw := some (toString funding.amountRaw)
        fundingAmountRaw := some (toString funding.amountRaw)
        allEqualAndNonzero := true } := by
  have haction := canonicalDepositAction_eq_some.mpr hadmissible.action
  have hamount : deposit.inputAmountRaw = funding.amountRaw :=
    hadmissible.ruleAmount.trans hadmissible.fundedAmount
  simp [joinedReport, haction, hamount, hadmissible.fundedAmount, amountsEqual,
    hadmissible.nonzero]

/-- A validation that is ready met every requirement, and its plan and report
are those of the order. -/
theorem readyReport_of_ready (hadmissible : AdmissibleDeposit funding rule deposit rate clocks)
    {plan : ValidatedSolendPlanInputs}
    (hready : validateChain ⟨funding, rule.delegatedWallet, deposit,
      ⟨rate.comparison, rate.thresholdBps, rate.maxReserveStalenessSlots⟩,
      joinedReport funding rule clocks⟩ facts finalClocks = some (.ready plan)) :
    ChainRequirements funding rule deposit rate facts finalClocks ∧
      ReadyReport funding rule plan.report ∧
      plan = planInputs funding deposit facts plan.report := by
  let prepared : PreparedDeposit := ⟨funding, rule.delegatedWallet, deposit,
    ⟨rate.comparison, rate.thresholdBps, rate.maxReserveStalenessSlots⟩,
    joinedReport funding rule clocks⟩
  obtain ⟨found, hfound⟩ : ∃ found, found = accountFindings prepared facts
      (finalClocks.nowMs < funding.expiresAtMs)
      (finalClocks.currentConfirmedSlot < rule.expiresAtSlot) finalClocks.currentConfirmedSlot :=
    ⟨_, rfl⟩
  obtain ⟨report, hreport, houtcome⟩ := validateChain_eq prepared
    (fundingExpiresAtMs_joinedReport ..) (ruleExpiresAtSlot_joinedReport ..) hfound
  rw [houtcome] at hready
  split at hready
  next => cases hready
  next hnil =>
    rw [ne_eq, not_not] at hnil
    have hplan := (ChainOutcome.ready.inj (Option.some.inj hready)).symm
    have hrequired : ChainRequirements funding rule deposit rate facts finalClocks := by
      rw [chainFindings_eq_nil, compareWad_iff, hfound] at hnil
      exact (accountFindings_eq_nil hadmissible).mp hnil
    have hsame : plan.report = report := by rw [hplan]; rfl
    refine ⟨hrequired, ?_, ?_⟩
    · rw [hsame, hreport, hnil]
      exact
        { classification := rfl
          intentId := rfl
          ruleIdHex := rfl
          wallClock := by simp [chainReport, hrequired.wallClock]
          slotClock := by simp [chainReport, hrequired.slotClock]
          amounts := amounts_joinedReport hadmissible }
    · -- Preflight compared the wallet of the rule with the row's.
      rw [hsame, hplan]
      simp [planInputs, prepared, hadmissible.wallet]

end

/-- An inspection found its row ready: the row's columns and the stored rule of
its id are an admissible order, and the facts meet every requirement. -/
structure ReadyOrder (platform : ScanPlatform) (rules : WatchRuleTable)
    (intent : W5hFundingIntent) (ruleId : Bytes 16) (storedRule : StoredWatchRule)
    (funding : FundingSnapshot) (deposit : SolendDeposit) (facts : ChainFacts)
    (plan : ValidatedSolendPlanInputs) : Prop where
  sameId : intent.intentId = intent.ruleIdHex
  exact : exactRuleId intent.intentId = some ruleId
  stored : rules.lookup platform.json ruleId = .ok (some storedRule)
  eligible : ineligibleLifecycle storedRule = none
  snapshot : fundingSnapshot intent = .ok funding
  order : ∃ rate clocks finalClocks,
    AdmissibleDeposit funding storedRule.rule deposit rate clocks ∧
      ChainRequirements funding storedRule.rule deposit rate facts finalClocks
  report : ReadyReport funding storedRule.rule plan.report
  plan : plan = planInputs funding deposit facts plan.report

/-- What every ready inspection of a computation satisfies. -/
theorem Inspect.finish_ready (post : CandidateInspection → Prop)
    {inspect : Inspect CandidateInspection}
    (hsettles : Settles inspect fun inspection => inspection.row.status = "ready" → post inspection)
    {inspection : CandidateInspection} (hfinish : inspect.finish = some inspection)
    (hready : inspection.row.status = "ready") : post inspection := by
  obtain ⟨result, hresult, hrow, hvalue⟩ := hsettles
  rw [Inspect.finish, hresult] at hfinish
  cases result with
  | error row =>
      obtain rfl := Option.some.inj hfinish
      exact absurd hready (hrow row rfl)
  | ok value =>
      obtain rfl := Option.some.inj hfinish
      exact hvalue value rfl hready

section

variable {platform : ScanPlatform} {rules : WatchRuleTable} {intent : W5hFundingIntent}
  {readings : ScanReadings} {slot : Option UInt64} {errorClass : Option String}

/-- An inspection that ends ready was validated ready. -/
theorem inspectCandidate_ready {input : CandidateInput} {clocks : PreflightClockSnapshot}
    {prepared : PreparedDeposit} {readings : CandidateReadings}
    (hprepared : preflightCandidate input clocks = .needsChain prepared)
    {inspection : CandidateInspection}
    (hinspection : inspectCandidate platform prepared readings false = some inspection)
    (hready : inspection.row.status = "ready") :
    ∃ facts finalClocks plan, validateChain prepared facts finalClocks = some (.ready plan) ∧
      inspection = .ready plan none := by
  refine Inspect.finish_ready (fun inspection => ∃ facts finalClocks plan,
    validateChain prepared facts finalClocks = some (.ready plan) ∧
      inspection = .ready plan none) ?_ hinspection hready
  apply Settles.bind readChainFacts_settles
  intro facts _
  apply Settles.bind (Settles.read _ _)
  intro finalSlot _
  obtain ⟨outcome, houtcome, hblocked, _⟩ :=
    validateChain_settles hprepared facts ⟨readings.finalNowMs, finalSlot⟩
  rw [houtcome]
  apply Settles.bind (Settles.lift outcome)
  intro other hother
  rw [hother]
  cases outcome with
  | blocked report =>
      apply Settles.pure
      intro hstatus
      exact absurd hstatus (classificationLabel_ne_ready (hblocked report rfl))
  | ready plan =>
      apply Settles.pure
      intro _
      exact ⟨facts, _, plan, houtcome, rfl⟩

theorem status_error (status errorClass : String) (intentId ruleIdHex : Option String) :
    (WatchRowReport.error status errorClass intentId ruleIdHex).status = status := rfl

/-- Behind every ready inspection of a funding row there is its order. -/
theorem readyOrder_of_ready {inspection : CandidateInspection}
    (hinspection : inspectFundingCandidate platform rules intent readings slot errorClass false =
      some inspection) (hready : inspection.row.status = "ready") :
    ∃ ruleId storedRule funding deposit facts plan lifecycle,
      ReadyOrder platform rules intent ruleId storedRule funding deposit facts plan ∧
        inspection = (CandidateInspection.ready plan none).withLifecycle lifecycle := by
  unfold inspectFundingCandidate at hinspection
  dsimp only at hinspection
  have hblocked : ∀ row : WatchRowReport, row.status ≠ "ready" →
      some (CandidateInspection.blocked row) ≠ some inspection := by
    intro row hrow heq
    obtain rfl := Option.some.inj heq
    exact hrow hready
  split at hinspection
  next => exact absurd hinspection (hblocked _ (by simp [status_error]))
  next hid =>
    split at hinspection
    next => exact absurd hinspection (hblocked _ (by simp [status_error]))
    next ruleId hexact =>
      split at hinspection
      next => exact absurd hinspection (hblocked _ (by simp [status_error]))
      next => exact absurd hinspection (hblocked _ (by simp [WatchRowReport.databaseOnly]))
      next storedRule hstored =>
        split at hinspection
        next =>
          exact absurd hinspection
            (hblocked _ (by simp [WatchRowReport.withLifecycle, status_error]))
        next heligible =>
          split at hinspection
          next =>
            exact absurd hinspection
              (hblocked _ (by simp [WatchRowReport.withLifecycle, status_error]))
          next funding hsnapshot =>
            cases hpreflight : preflightCandidate ⟨some funding, some storedRule.rule⟩
                ⟨(readings.candidate intent.intentId).preflightNowMs, slot⟩ with
            | blocked report =>
                rw [hpreflight] at hinspection
                have hlabel := classificationLabel_ne_ready
                  (classification_ne_ready_of_blocked hpreflight)
                exact absurd hinspection (hblocked _ hlabel)
            | needsChain prepared =>
                rw [hpreflight] at hinspection
                dsimp only at hinspection
                split at hinspection
                next =>
                  exact absurd hinspection
                    (hblocked _ (by simp [WatchRowReport.withLifecycle, status_error]))
                next =>
                  obtain ⟨inner, hinner, rfl⟩ := Option.map_eq_some_iff.mp hinspection
                  obtain ⟨facts, finalClocks, plan, hvalidated, rfl⟩ :=
                    inspectCandidate_ready hpreflight hinner hready
                  obtain ⟨other, rule, deposit, rate, hinput, hadmissible, rfl⟩ :=
                    prepared_of_needsChain hpreflight
                  obtain ⟨rfl, rfl⟩ : funding = other ∧ storedRule.rule = rule := by
                    simpa using hinput
                  obtain ⟨hrequired, hreport, hplan⟩ := readyReport_of_ready hadmissible hvalidated
                  exact ⟨ruleId, storedRule, funding, deposit, facts, plan, _,
                    { sameId := not_not.mp hid
                      exact := hexact
                      stored := hstored
                      eligible := heligible
                      snapshot := hsnapshot
                      order := ⟨rate, _, finalClocks, hadmissible, hrequired⟩
                      report := hreport
                      plan := hplan }, rfl⟩

/-! ## Taking the candidate out -/

/-- Both modules check an id in the same way. -/
theorem exactLowerHexRuleId_eq : exactLowerHexRuleId = exactRuleId := rfl

variable {ruleId : Bytes 16} {storedRule : StoredWatchRule} {funding : FundingSnapshot}
  {deposit : SolendDeposit} {facts : ChainFacts} {plan : ValidatedSolendPlanInputs}

/-- The snapshot of a row keeps its id, its amount and its deadline. -/
theorem fundingSnapshot_columns (hsnapshot : fundingSnapshot intent = .ok funding) :
    funding.intentId = intent.intentId ∧ funding.amountRaw = intent.amountRaw ∧
      funding.expiresAtMs = intent.expiresAtMs := by
  unfold fundingSnapshot at hsnapshot
  split at hsnapshot
  next => cases hsnapshot
  next =>
    split at hsnapshot
    next => cases hsnapshot
    next =>
      obtain rfl := Except.ok.inj hsnapshot
      exact ⟨rfl, rfl, rfl⟩

/-- One amount: the plan's, the rule's and the row's. -/
theorem ReadyOrder.amount
    (horder : ReadyOrder platform rules intent ruleId storedRule funding deposit facts plan) :
    plan.inputAmountRaw = intent.amountRaw ∧ intent.amountRaw ≠ 0 ∧
      storedRule.rule.maxInputAmountRaw = intent.amountRaw := by
  obtain ⟨rate, clocks, finalClocks, hadmissible, _⟩ := horder.order
  obtain ⟨_, hamount, _⟩ := fundingSnapshot_columns horder.snapshot
  rw [← hamount]
  refine ⟨?_, hadmissible.nonzero, hadmissible.fundedAmount⟩
  calc plan.inputAmountRaw = deposit.inputAmountRaw := by rw [horder.plan]; rfl
    _ = storedRule.rule.maxInputAmountRaw := hadmissible.ruleAmount
    _ = funding.amountRaw := hadmissible.fundedAmount

/-- One id: the row's, the stored rule's and the one that is looked up. -/
theorem ReadyOrder.ids
    (horder : ReadyOrder platform rules intent ruleId storedRule funding deposit facts plan) :
    storedRule.rule.ruleId = ruleId ∧ intent.intentId = ruleIdHex ruleId := by
  obtain ⟨rate, clocks, finalClocks, hadmissible, _⟩ := horder.order
  have hlookup : intent.intentId = ruleIdHex ruleId := (ruleIdHex_of_exactRuleId horder.exact).symm
  obtain ⟨hid, _, _⟩ := fundingSnapshot_columns horder.snapshot
  have hsame : ruleIdHex storedRule.rule.ruleId = ruleIdHex ruleId := by
    rw [← hlookup, ← hid]
    exact hadmissible.intentId.symm
  exact ⟨Subtype.ext (hexEncode_inj hsame), hlookup⟩

/-- Every check of a ready inspection passes. -/
theorem revalidatedCandidate_of_order
    (horder : ReadyOrder platform rules intent ruleId storedRule funding deposit facts plan)
    (lifecycle : RuleLifecycleReport) (expectedIntentId : String) :
    revalidatedCandidate ((CandidateInspection.ready plan none).withLifecycle lifecycle)
        expectedIntentId =
      if intent.intentId = expectedIntentId then
        .ok { intentId := intent.intentId, ruleId, amountRaw := intent.amountRaw, plan }
      else .error .readyRowMissing := by
  obtain ⟨hamount, hnonzero, _⟩ := horder.amount
  obtain ⟨hrule, hid⟩ := horder.ids
  obtain ⟨hfundingId, hfundingAmount, _⟩ := fundingSnapshot_columns horder.snapshot
  have hreport := horder.report
  have hintentId : plan.report.intentId = some intent.intentId := by
    rw [hreport.intentId, hfundingId]
  have hruleIdHex : plan.report.ruleIdHex = some intent.intentId := by
    rw [hreport.ruleIdHex, hrule, ← hid]
  have hamounts := hreport.amounts
  rw [hfundingAmount] at hamounts
  by_cases hexpected : intent.intentId = expectedIntentId
  · rw [if_pos hexpected]
    refine check_eq_ok.mpr ⟨artifactCheck_eq_ok.mpr ⟨rfl, rfl⟩, ?_⟩
    refine bind_eq_ok.mpr ⟨intent.intentId, artifactPart_eq_ok.mpr hintentId, ?_⟩
    refine bind_eq_ok.mpr ⟨intent.intentId, artifactPart_eq_ok.mpr hruleIdHex, ?_⟩
    refine check_eq_ok.mpr ⟨artifactCheck_eq_ok.mpr rfl, ?_⟩
    refine check_eq_ok.mpr ⟨artifactCheck_eq_ok.mpr hexpected, ?_⟩
    refine bind_eq_ok.mpr ⟨ruleId, artifactPart_eq_ok.mpr horder.exact, ?_⟩
    refine bind_eq_ok.mpr ⟨plan.report, rfl, ?_⟩
    refine check_eq_ok.mpr ⟨artifactCheck_eq_ok.mpr ⟨hreport.classification, hintentId, hruleIdHex,
      hreport.wallClock, hreport.slotClock⟩, ?_⟩
    refine bind_eq_ok.mpr ⟨plan, rfl, ?_⟩
    refine check_eq_ok.mpr ⟨artifactCheck_eq_ok.mpr rfl, ?_⟩
    refine bind_eq_ok.mpr ⟨_, artifactPart_eq_ok.mpr hamounts, ?_⟩
    refine check_eq_ok.mpr ⟨artifactCheck_eq_ok.mpr rfl, ?_⟩
    rw [hamount]
    exact check_eq_ok.mpr ⟨artifactCheck_eq_ok.mpr ⟨hnonzero, rfl, rfl, rfl⟩, rfl⟩
  · simp [revalidatedCandidate, CandidateInspection.ready, CandidateInspection.withLifecycle,
      WatchRowReport.withLifecycle, artifactCheck, artifactPart, hintentId, hruleIdHex, hexpected,
      ok_bind, error_bind]

theorem revalidatedCandidate_of_not_ready {inspection : CandidateInspection}
    (hstatus : inspection.row.status ≠ "ready") (expectedIntentId : String) :
    revalidatedCandidate inspection expectedIntentId = .error .readyRowMissing := by
  simp [revalidatedCandidate, artifactCheck, hstatus]
  rfl

/-- Of the inspections of a funding row exactly the ready ones of the expected
intent give a candidate, whatever the store, the chain and the clocks answer.
The candidate is that of the order found: it carries the row's id and amount,
the id of the stored rule, and the plan of both. Every other inspection is
refused as not ready, so the checks of the artifact's form never fail. -/
theorem revalidation_exact {inspection : CandidateInspection}
    (hinspection : inspectFundingCandidate platform rules intent readings slot errorClass false =
      some inspection) (expectedIntentId : String) :
    (inspection.row.status = "ready" ∧ intent.intentId = expectedIntentId →
      ∃ ruleId storedRule funding deposit facts plan,
        ReadyOrder platform rules intent ruleId storedRule funding deposit facts plan ∧
        storedRule.rule.ruleId = ruleId ∧ plan.inputAmountRaw = intent.amountRaw ∧
        revalidatedCandidate inspection expectedIntentId =
          .ok { intentId := intent.intentId, ruleId, amountRaw := intent.amountRaw, plan }) ∧
    (¬ (inspection.row.status = "ready" ∧ intent.intentId = expectedIntentId) →
      revalidatedCandidate inspection expectedIntentId = .error .readyRowMissing) := by
  by_cases hready : inspection.row.status = "ready"
  · obtain ⟨ruleId, storedRule, funding, deposit, facts, plan, lifecycle, horder, rfl⟩ :=
      readyOrder_of_ready hinspection hready
    have hcandidate := revalidatedCandidate_of_order horder lifecycle expectedIntentId
    constructor
    · rintro ⟨_, hexpected⟩
      rw [if_pos hexpected] at hcandidate
      exact ⟨ruleId, storedRule, funding, deposit, facts, plan, horder, horder.ids.1,
        horder.amount.1, hcandidate⟩
    · intro hother
      rw [hcandidate, if_neg fun hexpected => hother ⟨hready, hexpected⟩]
  · constructor
    · rintro ⟨hstatus, _⟩
      exact absurd hstatus hready
    · intro _
      exact revalidatedCandidate_of_not_ready hready expectedIntentId

/-- The paid order for half a USDC becomes a candidate for half a USDC. -/
theorem revalidation_exact_halfUsdc :
    ∃ inspection candidate,
      inspectFundingCandidate crowdPlatform (crowdedStore 1).rules reservedHalfUsdc.toIntent
        crowdReadings crowdReadings.sampleSlot.1 crowdReadings.sampleSlot.2 false =
          some inspection ∧
      revalidatedCandidate inspection reservedHalfUsdc.intentId = .ok candidate ∧
      candidate.amountRaw = 500000 := by
  obtain ⟨row, intent, inspection, hget, _, hrow, hinspection, hready⟩ :=
    (selects_iff_readyAlone (crowdedStore_complete (by decide))).mp selects_alone
  obtain rfl : row = reservedHalfUsdc := by
    rw [get_crowdedFunding] at hget
    exact (Option.some.inj hget).symm
  obtain rfl := (rowToIntent_ok.mp hrow).2
  obtain ⟨_, _, _, _, _, _, _, _, _, hcandidate⟩ :=
    (revalidation_exact hinspection reservedHalfUsdc.intentId).1 ⟨hready, rfl⟩
  have hamount : reservedHalfUsdc.toIntent.amountRaw = 500000 := by decide
  exact ⟨inspection, _, hinspection, hcandidate, hamount⟩

end

end SolFrontier.Mcp
