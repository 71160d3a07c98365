import SolFrontier.Executor.ChainGate

/-! # Which blockers survive

Every static check stands for a requirement on the candidate, and each names
the data it talks about. A report holds the finding of a violated requirement
unless an earlier check returned before it: for a candidate without both rows,
for a rule without a deposit, for conditions of the wrong form and, at the
thresholds, for a rate condition with any other fault.
-/

namespace SolFrontier.Executor

open Foundation Types

/-- One requirement for each finding of the static checks. -/
inductive Requirement where
  | fundingHasRule
  | ruleHasFunding
  | nonEmpty
  | schemaVersion
  | oneShot
  | unused
  | walletEnvelope
  | ruleId
  | canonicalHash
  | controlledWallet
  | action
  | amountAgreement
  | amountNonZero
  | solendProgram
  | inputMint
  | wallClock
  | slotOpen
  | slotAvailable
  | conditionForm
  | conditionKind
  | conditionAction
  | rateKind
  | formulaVersion
  | staleness
  | refresh
  | fundedThreshold
  | thresholdRange
  deriving DecidableEq, Repr

namespace Requirement

/-- The finding that reports a violation. -/
def finding : Requirement → CandidateFinding
  | .fundingHasRule =>
      ⟨.orphanFundingOnly, "budget_reserved funding row has no corresponding WatchRule"⟩
  | .ruleHasFunding => ⟨.orphanRuleOnly, "WatchRule has no corresponding funding row"⟩
  | .nonEmpty => ⟨.emptyCandidate, "candidate contains neither a funding row nor a WatchRule"⟩
  | .schemaVersion =>
      ⟨.unsupportedSchemaVersion, "dry-run supports only canonical WatchRule schema v2"⟩
  | .oneShot => ⟨.multiUseRule, "dry-run supports one-shot rules only"⟩
  | .unused => ⟨.usedAmountNonZero, "a dry-run candidate must have used_amount_raw == 0"⟩
  | .walletEnvelope =>
      ⟨.controlledWalletEnvelopeMismatch,
        "executor and destination must equal the fingerprint-bound delegated wallet"⟩
  | .ruleId =>
      ⟨.ruleIdMismatch, "funding intent/rule id is not the exact canonical lowercase rule id"⟩
  | .canonicalHash =>
      ⟨.canonicalHashMismatch,
        "funding canonical_rule_hash_hex is not the exact recomputed lowercase hash"⟩
  | .controlledWallet =>
      ⟨.controlledWalletMismatch,
        "funding controlled wallet differs from the fingerprint-bound delegated wallet"⟩
  | .action => ⟨.unsupportedAction, "WatchRule action is not ActionSpec::SolendDeposit"⟩
  | .amountAgreement =>
      ⟨.amountMismatch, "action, WatchRule maximum, and funding amounts are not exactly equal"⟩
  | .amountNonZero => ⟨.amountZero, "deposit amount must be non-zero"⟩
  | .solendProgram =>
      ⟨.unsupportedSolendProgram,
        "canonical action does not pin the audited mainnet Solend program"⟩
  | .inputMint => ⟨.unsupportedInputMint, "canonical action input mint is not mainnet USDC"⟩
  | .wallClock => ⟨.wallClockExpired, "now_ms is at or beyond funding.expires_at_ms"⟩
  | .slotOpen =>
      ⟨.slotExpired, "current_confirmed_slot is at or beyond WatchRule.expires_at_slot"⟩
  | .slotAvailable =>
      ⟨.confirmedSlotUnavailable,
        "confirmed slot is unavailable; candidate cannot advance to account reads"⟩
  | .conditionForm =>
      ⟨.unsupportedConditionShape,
        "dry-run supports exactly one ALL-combined Solend reserve-rate condition"⟩
  | .conditionKind =>
      ⟨.unsupportedConditionShape, "dry-run supports only SolendReserveSupplyRate"⟩
  | .conditionAction =>
      ⟨.conditionActionMismatch,
        "condition reserve, market, or program differs from the canonical action"⟩
  | .rateKind => ⟨.unsupportedRateKind, "only the native Solend APR condition is supported"⟩
  | .formulaVersion =>
      ⟨.unsupportedFormulaVersion, "condition formula_version is not the reviewed WAD formula v1"⟩
  | .staleness =>
      ⟨.unsupportedConditionShape, "max_reserve_staleness_slots must equal the reviewed value 16"⟩
  | .refresh =>
      ⟨.refreshNotRequired, "canonical deposit must require RefreshReserve in the same transaction"⟩
  | .fundedThreshold =>
      ⟨.conditionFundingMismatch,
        "funding threshold differs from the fingerprint-bound condition threshold"⟩
  | .thresholdRange =>
      ⟨.thresholdOutOfRange, "threshold_bps must be in the inclusive supported range 1..=10000"⟩

/-- The data a requirement talks about is present and violates it. -/
def Violated (input : CandidateInput) (clocks : PreflightClockSnapshot) : Requirement → Prop
  | .fundingHasRule => input.funding.isSome ∧ input.rule = none
  | .ruleHasFunding => input.rule.isSome ∧ input.funding = none
  | .nonEmpty => input.funding = none ∧ input.rule = none
  | .schemaVersion => ∃ rule ∈ input.rule, rule.schemaVersion ≠ stage2WatchRuleSchemaV2
  | .oneShot => ∃ rule ∈ input.rule, rule.oneShot = false
  | .unused => ∃ rule ∈ input.rule, rule.usedAmountRaw ≠ 0
  | .walletEnvelope =>
      ∃ rule ∈ input.rule,
        rule.executor ≠ rule.delegatedWallet ∨ rule.destination ≠ rule.delegatedWallet
  | .ruleId =>
      ∃ funding ∈ input.funding, ∃ rule ∈ input.rule,
        funding.intentId ≠ hexEncode rule.ruleId.1 ∨ funding.ruleIdHex ≠ hexEncode rule.ruleId.1
  | .canonicalHash =>
      ∃ funding ∈ input.funding, ∃ rule ∈ input.rule,
        funding.canonicalRuleHashHex ≠ hexEncode (canonicalRuleHash rule).1
  | .controlledWallet =>
      ∃ funding ∈ input.funding, ∃ rule ∈ input.rule,
        funding.controlledWallet ≠ rule.delegatedWallet
  | .action => ∃ rule ∈ input.rule, canonicalDepositAction rule = none
  | .amountAgreement =>
      ∃ funding ∈ input.funding, ∃ rule ∈ input.rule, ∃ action ∈ canonicalDepositAction rule,
        ¬ (action.inputAmountRaw = rule.maxInputAmountRaw ∧
          rule.maxInputAmountRaw = funding.amountRaw)
  | .amountNonZero =>
      ∃ funding ∈ input.funding, ∃ rule ∈ input.rule, ∃ action ∈ canonicalDepositAction rule,
        action.inputAmountRaw = 0 ∨ rule.maxInputAmountRaw = 0 ∨ funding.amountRaw = 0
  | .solendProgram =>
      ∃ rule ∈ input.rule, ∃ action ∈ canonicalDepositAction rule,
        action.solendProgramId ≠ auditedSolendProgram
  | .inputMint =>
      ∃ rule ∈ input.rule, ∃ action ∈ canonicalDepositAction rule, action.inputMint ≠ usdcMint
  | .wallClock => ∃ funding ∈ input.funding, funding.expiresAtMs ≤ clocks.nowMs
  | .slotOpen =>
      ∃ rule ∈ input.rule, ∃ slot ∈ clocks.currentConfirmedSlot, rule.expiresAtSlot ≤ slot
  | .slotAvailable => input.rule.isSome ∧ clocks.currentConfirmedSlot = none
  | .conditionForm =>
      ∃ rule ∈ input.rule, rule.conditionLogic ≠ .all ∨ rule.conditions.length ≠ 1
  | .conditionKind =>
      ∃ rule ∈ input.rule, ∃ condition ∈ rule.conditions,
        ∀ rate, condition ≠ .solendReserveSupplyRate rate
  | .conditionAction =>
      ∃ rule ∈ input.rule, ∃ action ∈ canonicalDepositAction rule, ∃ rate,
        .solendReserveSupplyRate rate ∈ rule.conditions ∧
          (rate.reservePubkey ≠ action.reservePubkey ∨ rate.lendingMarket ≠ action.lendingMarket ∨
            rate.solendProgramId ≠ action.solendProgramId)
  | .rateKind =>
      ∃ rule ∈ input.rule, ∃ rate, .solendReserveSupplyRate rate ∈ rule.conditions ∧
        rate.rateKind ≠ .apr
  | .formulaVersion =>
      ∃ rule ∈ input.rule, ∃ rate, .solendReserveSupplyRate rate ∈ rule.conditions ∧
        rate.formulaVersion ≠ supportedFormulaVersion
  | .staleness =>
      ∃ rule ∈ input.rule, ∃ rate, .solendReserveSupplyRate rate ∈ rule.conditions ∧
        rate.maxReserveStalenessSlots ≠ requiredMaxReserveStalenessSlots
  | .refresh =>
      ∃ rule ∈ input.rule, ∃ rate, .solendReserveSupplyRate rate ∈ rule.conditions ∧
        rate.requiredRefreshSameTx = false
  | .fundedThreshold =>
      ∃ funding ∈ input.funding, ∃ rule ∈ input.rule, ∃ rate,
        .solendReserveSupplyRate rate ∈ rule.conditions ∧ rate.thresholdBps ≠ funding.thresholdBps
  | .thresholdRange =>
      ∃ rule ∈ input.rule, ∃ rate, .solendReserveSupplyRate rate ∈ rule.conditions ∧
        ¬ (1 ≤ rate.thresholdBps ∧ rate.thresholdBps ≤ maxSupportedThresholdBps)

/-- The requirements that say which rows there are. -/
def OnRows (requirement : Requirement) : Prop :=
  requirement ∈ [fundingHasRule, ruleHasFunding, nonEmpty]

/-- The requirements on the one rate condition that are checked together. -/
def OnRate (requirement : Requirement) : Prop :=
  requirement ∈ [conditionKind, conditionAction, rateKind, formulaVersion, staleness, refresh]

/-- The requirements on the condition's threshold. -/
def OnThreshold (requirement : Requirement) : Prop :=
  requirement ∈ [fundedThreshold, thresholdRange]

section Cases

variable {requirement : Requirement}

theorem OnRows.cases (hrows : requirement.OnRows) :
    requirement = fundingHasRule ∨ requirement = ruleHasFunding ∨ requirement = nonEmpty := by
  simpa [OnRows] using hrows

theorem OnRate.cases (hrate : requirement.OnRate) :
    requirement = conditionKind ∨ requirement = conditionAction ∨ requirement = rateKind ∨
      requirement = formulaVersion ∨ requirement = staleness ∨ requirement = refresh := by
  simpa [OnRate] using hrate

theorem OnThreshold.cases (hthreshold : requirement.OnThreshold) :
    requirement = fundedThreshold ∨ requirement = thresholdRange := by
  simpa [OnThreshold] using hthreshold

end Cases

/-- The requirements that need the condition, its form first. -/
def OnCondition (requirement : Requirement) : Prop :=
  requirement = conditionForm ∨ requirement.OnRate ∨ requirement.OnThreshold

instance (requirement : Requirement) : Decidable requirement.OnRows := by
  unfold OnRows
  infer_instance

instance (requirement : Requirement) : Decidable requirement.OnRate := by
  unfold OnRate
  infer_instance

instance (requirement : Requirement) : Decidable requirement.OnThreshold := by
  unfold OnThreshold
  infer_instance

instance (requirement : Requirement) : Decidable requirement.OnCondition := by
  unfold OnCondition
  infer_instance

/-- The checks return before they reach the requirement. -/
inductive Skipped (input : CandidateInput) (clocks : PreflightClockSnapshot) : Requirement → Prop
  | orphan {requirement : Requirement} (hrow : input.funding = none ∨ input.rule = none)
      (hother : ¬ requirement.OnRows) : Skipped input clocks requirement
  | noDeposit {requirement : Requirement} {rule : WatchRule} (hrule : input.rule = some rule)
      (haction : canonicalDepositAction rule = none)
      (hcondition : requirement.OnCondition) : Skipped input clocks requirement
  | form {requirement : Requirement} (hform : conditionForm.Violated input clocks)
      (hcondition : requirement.OnRate ∨ requirement.OnThreshold) :
      Skipped input clocks requirement
  | rate {requirement other : Requirement} (hother : other.OnRate)
      (hviolated : other.Violated input clocks) (hthreshold : requirement.OnThreshold) :
      Skipped input clocks requirement

end Requirement

/-- The report of the static checks, whether it blocks or not. -/
def PreflightOutcome.report : PreflightOutcome → CandidateReport
  | .blocked report => report
  | .needsChain prepared => prepared.report

/-- The finding of the requirement is in the report. -/
def Requirement.Reported (input : CandidateInput) (clocks : PreflightClockSnapshot)
    (requirement : Requirement) : Prop :=
  requirement.finding ∈ (preflightCandidate input clocks).report.findings

@[simp] theorem mem_blockerIf (failed : Prop) [Decidable failed] (code : FindingCode)
    (detail : String) (finding : CandidateFinding) :
    finding ∈ blockerIf failed code detail ↔ failed ∧ finding = ⟨code, detail⟩ := by
  by_cases hfailed : failed <;> simp [blockerIf, hfailed]

/-! ## A candidate with both rows -/

section Joined

variable {funding : FundingSnapshot} {rule : WatchRule} {clocks : PreflightClockSnapshot}

/-- The findings of the checks before the condition. -/
def staticFindings (funding : FundingSnapshot) (rule : WatchRule)
    (clocks : PreflightClockSnapshot) : List CandidateFinding :=
  envelopeFindings rule ++ identityFindings funding rule ++ actionFindings funding rule ++
    clockFindings funding rule clocks

/-- With both rows the report holds the joined findings, blocked or not. -/
theorem reported_joined (requirement : Requirement) :
    requirement.Reported ⟨some funding, some rule⟩ clocks ↔
      requirement.finding ∈ (joinedFindings funding rule clocks).2 := by
  have hreport : (joinedReport funding rule clocks).findings =
      (joinedFindings funding rule clocks).2 := rfl
  unfold Requirement.Reported preflightCandidate
  dsimp only
  rw [← hreport]
  split <;> rfl

/-- The codes of the findings on the condition. -/
def conditionCodes : List FindingCode :=
  [.unsupportedConditionShape, .unsupportedFormulaVersion, .unsupportedRateKind,
    .refreshNotRequired, .conditionActionMismatch, .conditionFundingMismatch,
    .thresholdOutOfRange]

theorem mem_actionFindings (finding : CandidateFinding) :
    finding ∈ actionFindings funding rule ↔
      (canonicalDepositAction rule = none ∧ finding = Requirement.action.finding) ∨
      ∃ action, canonicalDepositAction rule = some action ∧
        ((¬ amountsEqual funding rule action ∧
            finding = Requirement.amountAgreement.finding) ∨
          ((action.inputAmountRaw = 0 ∨ rule.maxInputAmountRaw = 0 ∨ funding.amountRaw = 0) ∧
            finding = Requirement.amountNonZero.finding) ∨
          (action.solendProgramId ≠ auditedSolendProgram ∧
            finding = Requirement.solendProgram.finding) ∨
          (action.inputMint ≠ usdcMint ∧ finding = Requirement.inputMint.finding)) := by
  unfold actionFindings
  cases haction : canonicalDepositAction rule with
  | none => simp [Requirement.finding]
  | some action => simp [Requirement.finding]

theorem mem_clockFindings (finding : CandidateFinding) :
    finding ∈ clockFindings funding rule clocks ↔
      (funding.expiresAtMs ≤ clocks.nowMs ∧ finding = Requirement.wallClock.finding) ∨
      (∃ slot, clocks.currentConfirmedSlot = some slot ∧ rule.expiresAtSlot ≤ slot ∧
        finding = Requirement.slotOpen.finding) ∨
      (clocks.currentConfirmedSlot = none ∧ finding = Requirement.slotAvailable.finding) := by
  unfold clockFindings slotClockEligible
  cases hslot : clocks.currentConfirmedSlot with
  | none => simp [wallClockEligible, Requirement.finding]
  | some slot =>
      by_cases hopen : slot < rule.expiresAtSlot
      · simp [wallClockEligible, Requirement.finding, hopen]
      · simp [wallClockEligible, Requirement.finding, hopen, UInt64.not_lt.mp hopen]

/-- Before the condition every violated requirement is reported. -/
theorem mem_staticFindings {requirement : Requirement} (hrows : ¬ requirement.OnRows)
    (hcondition : ¬ requirement.OnCondition) :
    requirement.finding ∈ staticFindings funding rule clocks ↔
      requirement.Violated ⟨some funding, some rule⟩ clocks := by
  unfold staticFindings envelopeFindings identityFindings
  simp only [List.mem_append, mem_actionFindings, mem_clockFindings, mem_blockerIf]
  cases requirement with
  | fundingHasRule | ruleHasFunding | nonEmpty => exact absurd (by decide) hrows
  | conditionForm | conditionKind | conditionAction | rateKind | formulaVersion | staleness
  | refresh | fundedThreshold | thresholdRange => exact absurd (by decide) hcondition
  | schemaVersion | oneShot | unused | walletEnvelope | ruleId | canonicalHash
  | controlledWallet | action | amountNonZero | solendProgram | inputMint | wallClock
  | slotOpen | slotAvailable => simp [Requirement.finding, Requirement.Violated]
  | amountAgreement => simp [Requirement.finding, Requirement.Violated, amountsEqual]

/-- No check before the condition reports on it. -/
theorem not_mem_staticFindings {finding : CandidateFinding} (hcode : finding.code ∈ conditionCodes) :
    finding ∉ staticFindings funding rule clocks := by
  obtain ⟨code, detail⟩ := finding
  unfold staticFindings envelopeFindings identityFindings
  simp only [List.mem_append, mem_actionFindings, mem_clockFindings, mem_blockerIf]
  simp only [conditionCodes, List.mem_cons, List.not_mem_nil, or_false] at hcode
  rcases hcode with rfl | rfl | rfl | rfl | rfl | rfl | rfl <;> simp [Requirement.finding]

/-! ## The condition -/

/-- The findings on the condition of a deposit: its form, then its rate, then
the threshold of a rate without fault. -/
def conditionFindings (funding : FundingSnapshot) (rule : WatchRule) (action : SolendDeposit) :
    List CandidateFinding :=
  if rule.conditionLogic ≠ .all ∨ rule.conditions.length ≠ 1 then
    [Requirement.conditionForm.finding]
  else
    match rule.conditions with
    | .solendReserveSupplyRate rate :: _ =>
        if rateFindings rate action = [] then
          thresholdFindings funding
            (some ⟨rate.comparison, rate.thresholdBps, rate.maxReserveStalenessSlots⟩)
        else rateFindings rate action
    | _ => [Requirement.conditionKind.finding]

/-- The rate's findings are those the checks look for before the threshold. -/
theorem has_rateFindings (funding : FundingSnapshot) (rule : WatchRule)
    (clocks : PreflightClockSnapshot) (rate : SolendReserveSupplyRate) (action : SolendDeposit) :
    has (staticFindings funding rule clocks ++ rateFindings rate action)
      [.unsupportedConditionShape, .unsupportedFormulaVersion, .unsupportedRateKind,
        .refreshNotRequired, .conditionActionMismatch] = true ↔ rateFindings rate action ≠ [] := by
  rw [has, List.any_eq_true]
  constructor
  · rintro ⟨finding, hmem, hcode⟩ hempty
    rw [hempty, List.append_nil] at hmem
    refine not_mem_staticFindings ?_ hmem
    simp only [List.contains_eq_mem, decide_eq_true_eq] at hcode
    simp only [conditionCodes, List.mem_cons, List.not_mem_nil, or_false] at hcode ⊢
    tauto
  · intro hfound
    obtain ⟨finding, hmem⟩ := List.exists_mem_of_ne_nil _ hfound
    refine ⟨finding, List.mem_append_right _ hmem, ?_⟩
    simp only [rateFindings, List.mem_append, mem_blockerIf] at hmem
    rcases hmem with (((⟨-, rfl⟩ | ⟨-, rfl⟩) | ⟨-, rfl⟩) | ⟨-, rfl⟩) | ⟨-, rfl⟩ <;> rfl

/-- The joined findings are the earlier ones and, for a deposit, the condition's. -/
theorem joinedFindings_eq :
    (joinedFindings funding rule clocks).2 = staticFindings funding rule clocks ++
      match canonicalDepositAction rule with
      | none => []
      | some action => conditionFindings funding rule action := by
  unfold joinedFindings
  cases canonicalDepositAction rule with
  | none => exact (List.append_nil _).symm
  | some action =>
      dsimp only
      have hstatic : envelopeFindings rule ++ identityFindings funding rule ++
          actionFindings funding rule ++ clockFindings funding rule clocks =
            staticFindings funding rule clocks := rfl
      rw [hstatic, conditionFindings, supportedCondition]
      by_cases hform : rule.conditionLogic ≠ .all ∨ rule.conditions.length ≠ 1
      · rw [if_pos hform, if_pos hform]
        exact List.append_nil _
      rw [if_neg hform, if_neg hform]
      cases rule.conditions with
      | nil => exact List.append_nil _
      | cons condition rest =>
          cases condition with
          | pythPrice => exact List.append_nil _
          | solendReserveSupplyRate rate =>
              have hrate := has_rateFindings funding rule clocks rate action
              dsimp only
              by_cases hfound : rateFindings rate action = []
              · rw [if_pos hfound, if_neg (fun h => hrate.mp h hfound), hfound, List.append_nil]
              · rw [if_neg hfound, if_pos (hrate.mpr hfound)]
                exact List.append_nil _

/-- A requirement of the earlier checks is not reported with the condition. -/
theorem not_mem_conditionFindings {requirement : Requirement} {action : SolendDeposit}
    (hcondition : ¬ requirement.OnCondition) :
    requirement.finding ∉ conditionFindings funding rule action := by
  have hcode : requirement.finding.code ∉ conditionCodes := by
    cases requirement with
    | conditionForm | conditionKind | conditionAction | rateKind | formulaVersion | staleness
    | refresh | fundedThreshold | thresholdRange => exact absurd (by decide) hcondition
    | _ => decide
  intro hmem
  apply hcode
  generalize requirement.finding = finding at hmem ⊢
  unfold conditionFindings at hmem
  split at hmem
  · obtain rfl := List.mem_singleton.mp hmem
    decide
  split at hmem
  · split at hmem
    · simp only [thresholdFindings, List.mem_append, mem_blockerIf] at hmem
      rcases hmem with ⟨-, rfl⟩ | ⟨-, rfl⟩ <;> decide
    · simp only [rateFindings, List.mem_append, mem_blockerIf] at hmem
      rcases hmem with (((⟨-, rfl⟩ | ⟨-, rfl⟩) | ⟨-, rfl⟩) | ⟨-, rfl⟩) | ⟨-, rfl⟩ <;> decide
  · obtain rfl := List.mem_singleton.mp hmem
    decide

/-- Of a lone rate condition the checks report what it violates. -/
theorem mem_rateFindings {requirement : Requirement} {action : SolendDeposit}
    {rate : SolendReserveSupplyRate} (haction : canonicalDepositAction rule = some action)
    (hconditions : rule.conditions = [.solendReserveSupplyRate rate])
    (hrate : requirement.OnRate) :
    requirement.finding ∈ rateFindings rate action ↔
      requirement.Violated ⟨some funding, some rule⟩ clocks := by
  rcases hrate.cases with rfl | rfl | rfl | rfl | rfl | rfl <;>
    simp [Requirement.finding, Requirement.Violated, rateFindings, haction, hconditions]

/-- A fault of the rate is the violation of some requirement on it. -/
theorem rateFindings_ne_nil {action : SolendDeposit} {rate : SolendReserveSupplyRate}
    (haction : canonicalDepositAction rule = some action)
    (hconditions : rule.conditions = [.solendReserveSupplyRate rate]) :
    rateFindings rate action ≠ [] ↔ ∃ requirement : Requirement, requirement.OnRate ∧
      requirement.Violated ⟨some funding, some rule⟩ clocks := by
  constructor
  · intro hfound
    obtain ⟨finding, hmem⟩ := List.exists_mem_of_ne_nil _ hfound
    have hnamed : ∃ requirement : Requirement, requirement.OnRate ∧
        requirement.finding = finding := by
      simp only [rateFindings, List.mem_append, mem_blockerIf] at hmem
      rcases hmem with (((⟨-, rfl⟩ | ⟨-, rfl⟩) | ⟨-, rfl⟩) | ⟨-, rfl⟩) | ⟨-, rfl⟩
      · exact ⟨.conditionAction, by decide, rfl⟩
      · exact ⟨.rateKind, by decide, rfl⟩
      · exact ⟨.formulaVersion, by decide, rfl⟩
      · exact ⟨.staleness, by decide, rfl⟩
      · exact ⟨.refresh, by decide, rfl⟩
    obtain ⟨requirement, hrate, rfl⟩ := hnamed
    exact ⟨requirement, hrate, (mem_rateFindings haction hconditions hrate).mp hmem⟩
  · rintro ⟨requirement, hrate, hviolated⟩
    exact List.ne_nil_of_mem ((mem_rateFindings haction hconditions hrate).mpr hviolated)

/-- The threshold of a lone rate condition is reported when it is violated. -/
theorem mem_thresholdFindings {requirement : Requirement} {rate : SolendReserveSupplyRate}
    (hconditions : rule.conditions = [.solendReserveSupplyRate rate])
    (hthreshold : requirement.OnThreshold) :
    requirement.finding ∈ thresholdFindings funding
        (some ⟨rate.comparison, rate.thresholdBps, rate.maxReserveStalenessSlots⟩) ↔
      requirement.Violated ⟨some funding, some rule⟩ clocks := by
  rcases hthreshold.cases with rfl | rfl <;>
    simp [Requirement.finding, Requirement.Violated, thresholdFindings, hconditions]

theorem not_mem_of_onThreshold {requirement : Requirement} {action : SolendDeposit}
    {rate : SolendReserveSupplyRate} (hthreshold : requirement.OnThreshold) :
    requirement.finding ∉ rateFindings rate action := by
  rcases hthreshold.cases with rfl | rfl <;> simp [Requirement.finding, rateFindings]

theorem not_mem_of_onRate {requirement : Requirement} {condition : Option SupportedRateCondition}
    (hrate : requirement.OnRate) : requirement.finding ∉ thresholdFindings funding condition := by
  cases condition with
  | none => exact List.not_mem_nil
  | some condition =>
      rcases hrate.cases with rfl | rfl | rfl | rfl | rfl | rfl <;>
        simp [Requirement.finding, thresholdFindings]

/-- With a deposit only the condition's own checks return early. -/
theorem skipped_deposit_iff {requirement : Requirement} {action : SolendDeposit}
    (haction : canonicalDepositAction rule = some action) :
    requirement.Skipped ⟨some funding, some rule⟩ clocks ↔
      (Requirement.conditionForm.Violated ⟨some funding, some rule⟩ clocks ∧
        (requirement.OnRate ∨ requirement.OnThreshold)) ∨
      ((∃ other : Requirement, other.OnRate ∧
        other.Violated ⟨some funding, some rule⟩ clocks) ∧ requirement.OnThreshold) := by
  constructor
  · intro hskipped
    cases hskipped with
    | orphan hrow => simp at hrow
    | noDeposit hrule hnone =>
        obtain rfl := Option.some.inj hrule
        rw [haction] at hnone
        cases hnone
    | form hform hcondition => exact .inl ⟨hform, hcondition⟩
    | rate hother hviolated hthreshold => exact .inr ⟨⟨_, hother, hviolated⟩, hthreshold⟩
  · rintro (⟨hform, hcondition⟩ | ⟨⟨other, hother, hviolated⟩, hthreshold⟩)
    · exact .form hform hcondition
    · exact .rate hother hviolated hthreshold

theorem mem_conditionFindings {requirement : Requirement} {action : SolendDeposit}
    (haction : canonicalDepositAction rule = some action) (hcondition : requirement.OnCondition) :
    requirement.finding ∈ conditionFindings funding rule action ↔
      requirement.Violated ⟨some funding, some rule⟩ clocks ∧
        ¬ requirement.Skipped ⟨some funding, some rule⟩ clocks := by
  rw [skipped_deposit_iff haction]
  have hformIff : Requirement.conditionForm.Violated ⟨some funding, some rule⟩ clocks ↔
      rule.conditionLogic ≠ .all ∨ rule.conditions.length ≠ 1 := by
    simp [Requirement.Violated]
  have hrateForm : ¬ Requirement.conditionForm.OnRate ∧ ¬ Requirement.conditionForm.OnThreshold := by
    decide
  unfold conditionFindings
  by_cases hform : rule.conditionLogic ≠ .all ∨ rule.conditions.length ≠ 1
  · rw [if_pos hform]
    rcases hcondition with rfl | hrest
    · simp [hformIff.mpr hform, hrateForm]
    · have hother : requirement.finding ≠ Requirement.conditionForm.finding := by
        rcases hrest with hrate | hthreshold
        · rcases hrate.cases with rfl | rfl | rfl | rfl | rfl | rfl <;> simp [Requirement.finding]
        · rcases hthreshold.cases with rfl | rfl <;> simp [Requirement.finding]
      simp [hother, hformIff.mpr hform, hrest]
  rw [if_neg hform]
  have hnotForm : ¬ Requirement.conditionForm.Violated ⟨some funding, some rule⟩ clocks := by
    rwa [hformIff]
  simp only [hnotForm, false_and, false_or]
  obtain ⟨condition, hconditions⟩ : ∃ condition, rule.conditions = [condition] := by
    apply List.length_eq_one_iff.mp
    by_contra hlength
    exact hform (.inr hlength)
  rw [hconditions]
  cases condition with
  | pythPrice price =>
      -- Without a rate only the kind of the condition can be violated.
      rcases hcondition with rfl | hrate | hthreshold
      · simp only [hnotForm, false_and, iff_false]
        simp [Requirement.finding]
      · rcases hrate.cases with rfl | rfl | rfl | rfl | rfl | rfl <;>
          simp [Requirement.finding, Requirement.Violated, hconditions, Requirement.OnThreshold]
      · rcases hthreshold.cases with rfl | rfl <;>
          simp [Requirement.finding, Requirement.Violated, hconditions]
  | solendReserveSupplyRate rate =>
      dsimp only
      rw [← rateFindings_ne_nil haction hconditions]
      rcases hcondition with rfl | hrate | hthreshold
      · simp only [hnotForm, false_and, iff_false]
        split <;> simp [Requirement.finding, rateFindings, thresholdFindings]
      · have hnotThreshold : ¬ requirement.OnThreshold := by
          rcases hrate.cases with rfl | rfl | rfl | rfl | rfl | rfl <;> decide
        rw [← mem_rateFindings haction hconditions hrate]
        by_cases hfound : rateFindings rate action = []
        · simp [hfound, not_mem_of_onRate hrate]
        · simp [hfound, hnotThreshold]
      · rw [← mem_thresholdFindings hconditions hthreshold]
        by_cases hfound : rateFindings rate action = []
        · simp [hfound]
        · simp [hfound, hthreshold, not_mem_of_onThreshold hthreshold]

/-- With both rows a violated requirement is reported unless it is skipped. -/
theorem reported_joined_iff (requirement : Requirement) :
    requirement.Reported ⟨some funding, some rule⟩ clocks ↔
      requirement.Violated ⟨some funding, some rule⟩ clocks ∧
        ¬ requirement.Skipped ⟨some funding, some rule⟩ clocks := by
  rw [reported_joined, joinedFindings_eq, List.mem_append]
  by_cases hcondition : requirement.OnCondition
  · have hstatic : requirement.finding ∉ staticFindings funding rule clocks := by
      apply not_mem_staticFindings
      rcases hcondition with rfl | hrate | hthreshold
      · decide
      · rcases hrate.cases with rfl | rfl | rfl | rfl | rfl | rfl <;> decide
      · rcases hthreshold.cases with rfl | rfl <;> decide
    cases haction : canonicalDepositAction rule with
    | none =>
        have hskipped : requirement.Skipped ⟨some funding, some rule⟩ clocks :=
          .noDeposit rfl haction hcondition
        simp [hstatic, hskipped]
    | some action =>
        rw [or_iff_right hstatic]
        exact mem_conditionFindings haction hcondition
  · have hrest : requirement.finding ∉ (match canonicalDepositAction rule with
        | none => []
        | some action => conditionFindings funding rule action) := by
      cases canonicalDepositAction rule with
      | none => exact List.not_mem_nil
      | some action => exact not_mem_conditionFindings hcondition
    by_cases hrows : requirement.OnRows
    · have hnever : ¬ requirement.Violated ⟨some funding, some rule⟩ clocks := by
        rcases hrows.cases with rfl | rfl | rfl <;> simp [Requirement.Violated]
      have hstatic : requirement.finding ∉ staticFindings funding rule clocks := by
        unfold staticFindings envelopeFindings identityFindings
        simp only [List.mem_append, mem_actionFindings, mem_clockFindings, mem_blockerIf]
        rcases hrows.cases with rfl | rfl | rfl <;> simp [Requirement.finding]
      simp [hnever, hstatic, hrest]
    · have hseen : ¬ requirement.Skipped ⟨some funding, some rule⟩ clocks := by
        intro hskipped
        cases hskipped with
        | orphan hrow => simp at hrow
        | noDeposit _ _ hskip => exact hcondition hskip
        | form _ hskip => exact hcondition (.inr hskip)
        | rate _ _ hskip => exact hcondition (.inr (.inr hskip))
      simp [mem_staticFindings hrows hcondition, hrest, hseen]

end Joined

/-! ## Every candidate -/

/-- The findings on the rows tell the missing row and nothing else. -/
theorem finding_eq_of_onRows {requirement only : Requirement} (hrows : only.OnRows) :
    requirement.finding = only.finding ↔ requirement = only := by
  rcases hrows.cases with rfl | rfl | rfl <;> cases requirement <;> simp [Requirement.finding]

/-- Without both rows the report is the one finding that says so. -/
theorem reported_orphan_iff {input : CandidateInput} {clocks : PreflightClockSnapshot}
    (only : Requirement) (hrow : input.funding = none ∨ input.rule = none) (hrows : only.OnRows)
    (hfindings : (preflightCandidate input clocks).report.findings = [only.finding])
    (honly : ∀ requirement : Requirement, requirement.OnRows →
      (requirement.Violated input clocks ↔ requirement = only)) (requirement : Requirement) :
    requirement.Reported input clocks ↔
      requirement.Violated input clocks ∧ ¬ requirement.Skipped input clocks := by
  rw [Requirement.Reported, hfindings, List.mem_singleton, finding_eq_of_onRows hrows]
  by_cases hother : requirement.OnRows
  · have hseen : ¬ requirement.Skipped input clocks := by
      intro hskipped
      cases hskipped with
      | orphan _ hskip => exact hskip hother
      | noDeposit _ _ hskip =>
          rcases hother.cases with rfl | rfl | rfl <;> exact absurd hskip (by decide)
      | form _ hskip =>
          rcases hother.cases with rfl | rfl | rfl <;> exact absurd hskip (by decide)
      | rate _ _ hskip =>
          rcases hother.cases with rfl | rfl | rfl <;> exact absurd hskip (by decide)
    rw [honly requirement hother, and_iff_left hseen]
  · have hne : requirement ≠ only := fun heq => hother (heq ▸ hrows)
    have hskipped : requirement.Skipped input clocks := .orphan hrow hother
    simp [hne, hskipped]

/-- A report holds a violated requirement exactly where it is not skipped. -/
theorem reported_iff (input : CandidateInput) (clocks : PreflightClockSnapshot)
    (requirement : Requirement) :
    requirement.Reported input clocks ↔
      requirement.Violated input clocks ∧ ¬ requirement.Skipped input clocks := by
  obtain ⟨funding, rule⟩ := input
  cases funding with
  | some funding =>
      cases rule with
      | some rule => exact reported_joined_iff requirement
      | none =>
          apply reported_orphan_iff .fundingHasRule (.inr rfl) (by decide) rfl
          intro requirement hrows
          rcases hrows.cases with rfl | rfl | rfl <;> simp [Requirement.Violated]
  | none =>
      cases rule with
      | some rule =>
          apply reported_orphan_iff .ruleHasFunding (.inl rfl) (by decide) rfl
          intro requirement hrows
          rcases hrows.cases with rfl | rfl | rfl <;> simp [Requirement.Violated]
      | none =>
          apply reported_orphan_iff .nonEmpty (.inl rfl) (by decide) rfl
          intro requirement hrows
          rcases hrows.cases with rfl | rfl | rfl <;> simp [Requirement.Violated]

/-- The blockers of an input are accumulated: every violated requirement is in
its report, and so is whatever was reported of an input with fewer violations. -/
def Accumulates (input : CandidateInput) (clocks : PreflightClockSnapshot) : Prop :=
  (∀ requirement : Requirement, requirement.Violated input clocks →
    requirement.Reported input clocks) ∧
  ∀ origin originClocks, (∀ requirement : Requirement,
      requirement.Violated origin originClocks → requirement.Violated input clocks) →
    ∀ requirement : Requirement, requirement.Reported origin originClocks →
      requirement.Reported input clocks

/-- They are accumulated exactly where no violated requirement is behind a check
that returns early. -/
theorem accumulates_iff (input : CandidateInput) (clocks : PreflightClockSnapshot) :
    Accumulates input clocks ↔ ∀ requirement : Requirement,
      requirement.Violated input clocks → ¬ requirement.Skipped input clocks := by
  constructor
  · intro haccumulates requirement hviolated
    exact ((reported_iff input clocks requirement).mp (haccumulates.1 requirement hviolated)).2
  · intro hseen
    have hall : ∀ requirement : Requirement, requirement.Violated input clocks →
        requirement.Reported input clocks := by
      intro requirement hviolated
      exact (reported_iff input clocks requirement).mpr ⟨hviolated, hseen requirement hviolated⟩
    refine ⟨hall, ?_⟩
    intro origin originClocks hmore requirement hreported
    apply hall
    apply hmore
    exact ((reported_iff origin originClocks requirement).mp hreported).1

/-- The sample rate with the threshold 0. -/
def zeroThresholdRate : SolendReserveSupplyRate := { sampleRate with thresholdBps := 0 }

/-- The same rate with a formula version that was not reviewed. -/
def twiceFaultyRate : SolendReserveSupplyRate := { zeroThresholdRate with formulaVersion := 2 }

/-- The sample candidate on a condition. -/
def candidateWith (rate : SolendReserveSupplyRate) : CandidateInput :=
  ⟨some sampleFunding, some { sampleRule with conditions := [.solendReserveSupplyRate rate] }⟩

/-- A wrong formula version takes the threshold out of the report: the rule with
the zero threshold alone is reported for it, the one with both faults is not. -/
theorem zero_threshold_not_accumulated :
    let clocks : PreflightClockSnapshot := ⟨1700000100000, some 1100⟩
    Requirement.thresholdRange.Reported (candidateWith zeroThresholdRate) clocks ∧
      Requirement.thresholdRange.Violated (candidateWith twiceFaultyRate) clocks ∧
      ¬ Requirement.thresholdRange.Reported (candidateWith twiceFaultyRate) clocks ∧
      ¬ Accumulates (candidateWith twiceFaultyRate) clocks := by
  intro clocks
  have hdeposit : ∀ conditions, canonicalDepositAction { sampleRule with conditions } =
      some sampleDeposit := fun _ => rfl
  have hrange : ∀ rate : SolendReserveSupplyRate, rate.thresholdBps = 0 →
      Requirement.thresholdRange.Violated (candidateWith rate) clocks := by
    intro rate hzero
    refine ⟨_, rfl, rate, List.mem_singleton_self _, ?_⟩
    rw [hzero]
    decide
  have hreported : Requirement.thresholdRange.Reported (candidateWith zeroThresholdRate) clocks := by
    apply (reported_iff _ _ _).mpr
    refine ⟨hrange _ rfl, ?_⟩
    unfold candidateWith
    rw [skipped_deposit_iff (hdeposit _)]
    rintro (⟨hform, -⟩ | ⟨⟨other, hother, hviolated⟩, -⟩)
    · simp [Requirement.Violated, sampleRule] at hform
    · rcases hother.cases with rfl | rfl | rfl | rfl | rfl | rfl <;>
        simp [Requirement.Violated, hdeposit, zeroThresholdRate, sampleRate, sampleDeposit,
          supportedFormulaVersion, requiredMaxReserveStalenessSlots] at hviolated
  have hskipped : ¬ Requirement.thresholdRange.Reported (candidateWith twiceFaultyRate) clocks := by
    intro hfaulty
    apply ((reported_iff _ _ _).mp hfaulty).2
    refine .rate (show Requirement.formulaVersion.OnRate by decide) ?_ (by decide)
    exact ⟨_, rfl, twiceFaultyRate, List.mem_singleton_self _, by decide⟩
  refine ⟨hreported, hrange _ rfl, hskipped, ?_⟩
  intro haccumulates
  exact hskipped (haccumulates.1 _ (hrange _ rfl))

end SolFrontier.Executor
