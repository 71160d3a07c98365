import SolFrontier.Executor.Candidate

/-! # Preflight gates exactly the admissible candidates

`Admissible` says what a candidate must be, without mentioning findings. Each
group of checks finds nothing exactly when its part of the description holds.
-/

namespace SolFrontier.Executor

open Foundation Types

/-- A deposit order that may proceed to chain reads at these clocks. -/
structure AdmissibleDeposit (funding : FundingSnapshot) (rule : WatchRule)
    (deposit : SolendDeposit) (rate : SolendReserveSupplyRate)
    (clocks : PreflightClockSnapshot) : Prop where
  schemaVersion : rule.schemaVersion = 2
  oneShot : rule.oneShot = true
  unused : rule.usedAmountRaw = 0
  executor : rule.executor = rule.delegatedWallet
  destination : rule.destination = rule.delegatedWallet
  intentId : funding.intentId = hexEncode rule.ruleId.1
  ruleId : funding.ruleIdHex = hexEncode rule.ruleId.1
  ruleHash : funding.canonicalRuleHashHex = hexEncode (canonicalRuleHash rule).1
  wallet : funding.controlledWallet = rule.delegatedWallet
  action : rule.action = .solendDeposit deposit
  program : deposit.solendProgramId = auditedSolendProgram
  mint : deposit.inputMint = usdcMint
  ruleAmount : deposit.inputAmountRaw = rule.maxInputAmountRaw
  fundedAmount : rule.maxInputAmountRaw = funding.amountRaw
  nonzero : funding.amountRaw ≠ 0
  wallClock : clocks.nowMs < funding.expiresAtMs
  slotClock : ∃ slot, clocks.currentConfirmedSlot = some slot ∧ slot < rule.expiresAtSlot
  logic : rule.conditionLogic = .all
  conditions : rule.conditions = [.solendReserveSupplyRate rate]
  rateReserve : rate.reservePubkey = deposit.reservePubkey
  rateMarket : rate.lendingMarket = deposit.lendingMarket
  rateProgram : rate.solendProgramId = deposit.solendProgramId
  rateKind : rate.rateKind = .apr
  formula : rate.formulaVersion = 1
  staleness : rate.maxReserveStalenessSlots = 16
  refresh : rate.requiredRefreshSameTx = true
  threshold : rate.thresholdBps = funding.thresholdBps
  thresholdPos : 1 ≤ rate.thresholdBps
  thresholdLe : rate.thresholdBps ≤ 10000

def Admissible (input : CandidateInput) (clocks : PreflightClockSnapshot) : Prop :=
  ∃ funding rule deposit rate, input = ⟨some funding, some rule⟩ ∧
    AdmissibleDeposit funding rule deposit rate clocks

theorem envelopeFindings_eq_nil (rule : WatchRule) :
    envelopeFindings rule = [] ↔ rule.schemaVersion = stage2WatchRuleSchemaV2 ∧
      rule.oneShot = true ∧ rule.usedAmountRaw = 0 ∧ rule.executor = rule.delegatedWallet ∧
      rule.destination = rule.delegatedWallet := by
  simp [envelopeFindings]

theorem identityFindings_eq_nil (funding : FundingSnapshot) (rule : WatchRule) :
    identityFindings funding rule = [] ↔ funding.intentId = hexEncode rule.ruleId.1 ∧
      funding.ruleIdHex = hexEncode rule.ruleId.1 ∧
      funding.canonicalRuleHashHex = hexEncode (canonicalRuleHash rule).1 ∧
      funding.controlledWallet = rule.delegatedWallet := by
  simp [identityFindings, and_assoc]

theorem canonicalDepositAction_eq_some {rule : WatchRule} {deposit : SolendDeposit} :
    canonicalDepositAction rule = some deposit ↔ rule.action = .solendDeposit deposit := by
  unfold canonicalDepositAction
  split
  next action heq => simp [heq]
  next hne =>
    simp only [reduceCtorEq, false_iff]
    exact hne deposit

theorem actionFindings_eq_nil (funding : FundingSnapshot) (rule : WatchRule) :
    actionFindings funding rule = [] ↔ ∃ deposit, rule.action = .solendDeposit deposit ∧
      deposit.inputAmountRaw = rule.maxInputAmountRaw ∧
      rule.maxInputAmountRaw = funding.amountRaw ∧ funding.amountRaw ≠ 0 ∧
      deposit.solendProgramId = auditedSolendProgram ∧ deposit.inputMint = usdcMint := by
  unfold actionFindings
  cases haction : canonicalDepositAction rule with
  | none =>
      have hnone : ∀ deposit, rule.action ≠ .solendDeposit deposit := by
        intro deposit heq
        rw [canonicalDepositAction_eq_some.mpr heq] at haction
        exact absurd haction (by simp)
      simp [hnone]
  | some deposit =>
      have hdeposit := canonicalDepositAction_eq_some.mp haction
      simp only [hdeposit, ActionSpec.solendDeposit.injEq, exists_eq_left', List.append_eq_nil_iff,
        blockerIf_eq_nil, amountsEqual, decide_eq_true_eq, not_or, ne_eq, not_not]
      constructor
      · rintro ⟨⟨⟨⟨hrule, hfunded⟩, _, _, hnonzero⟩, hprogram⟩, hmint⟩
        exact ⟨hrule, hfunded, hnonzero, hprogram, hmint⟩
      · rintro ⟨hrule, hfunded, hnonzero, hprogram, hmint⟩
        have hmaximum : rule.maxInputAmountRaw ≠ 0 := hfunded ▸ hnonzero
        exact ⟨⟨⟨⟨hrule, hfunded⟩, hrule ▸ hmaximum, hmaximum, hnonzero⟩, hprogram⟩, hmint⟩

theorem clockFindings_eq_nil (funding : FundingSnapshot) (rule : WatchRule)
    (clocks : PreflightClockSnapshot) :
    clockFindings funding rule clocks = [] ↔ clocks.nowMs < funding.expiresAtMs ∧
      ∃ slot, clocks.currentConfirmedSlot = some slot ∧ slot < rule.expiresAtSlot := by
  cases hslot : clocks.currentConfirmedSlot with
  | none => simp [clockFindings, slotClockEligible, hslot]
  | some slot =>
      by_cases hopen : slot < rule.expiresAtSlot <;>
        simp [clockFindings, slotClockEligible, wallClockEligible, hslot, hopen]

theorem rateFindings_eq_nil (rate : SolendReserveSupplyRate) (deposit : SolendDeposit) :
    rateFindings rate deposit = [] ↔ rate.reservePubkey = deposit.reservePubkey ∧
      rate.lendingMarket = deposit.lendingMarket ∧
      rate.solendProgramId = deposit.solendProgramId ∧ rate.rateKind = .apr ∧
      rate.formulaVersion = supportedFormulaVersion ∧
      rate.maxReserveStalenessSlots = requiredMaxReserveStalenessSlots ∧
      rate.requiredRefreshSameTx = true := by
  simp [rateFindings, and_assoc]

/-- The findings stay empty exactly for the reviewed shape, and then the
condition is supported. -/
theorem supportedCondition_findings {rule : WatchRule} {deposit : SolendDeposit}
    {findings : List CandidateFinding} :
    (supportedCondition rule deposit findings).2 = [] ↔ findings = [] ∧
      ∃ rate, rule.conditionLogic = .all ∧ rule.conditions = [.solendReserveSupplyRate rate] ∧
        rateFindings rate deposit = [] := by
  unfold supportedCondition
  split
  next hshape =>
    have hnone : ¬ ∃ rate, rule.conditionLogic = .all ∧
        rule.conditions = [.solendReserveSupplyRate rate] ∧ rateFindings rate deposit = [] := by
      rintro ⟨rate, hlogic, hconditions, _⟩
      simp [hlogic, hconditions] at hshape
    simp [hnone]
  next hshape =>
    simp only [ne_eq, not_or, not_not] at hshape
    obtain ⟨hlogic, hlength⟩ := hshape
    obtain ⟨only, honly⟩ := List.length_eq_one_iff.mp hlength
    cases only with
    | pythPrice price => simp [honly]
    | solendReserveSupplyRate rate =>
        simp only [honly]
        split <;> simp [hlogic]

theorem supportedCondition_of_rate {rule : WatchRule} {deposit : SolendDeposit}
    {rate : SolendReserveSupplyRate} (hlogic : rule.conditionLogic = .all)
    (hconditions : rule.conditions = [.solendReserveSupplyRate rate])
    (hrate : rateFindings rate deposit = []) :
    supportedCondition rule deposit [] =
      (some ⟨rate.comparison, rate.thresholdBps, rate.maxReserveStalenessSlots⟩, []) := by
  simp [supportedCondition, hlogic, hconditions, hrate, has]

theorem thresholdFindings_eq_nil (funding : FundingSnapshot)
    (condition : SupportedRateCondition) :
    thresholdFindings funding (some condition) = [] ↔
      condition.thresholdBps = funding.thresholdBps ∧ 1 ≤ condition.thresholdBps ∧
        condition.thresholdBps ≤ maxSupportedThresholdBps := by
  simp only [thresholdFindings, List.append_eq_nil_iff, blockerIf_eq_nil, ne_eq, not_not]

/-- Only an admissible candidate is free of findings. -/
theorem admissible_of_joinedFindings {funding : FundingSnapshot} {rule : WatchRule}
    {clocks : PreflightClockSnapshot} (hnil : (joinedFindings funding rule clocks).2 = []) :
    ∃ deposit rate, AdmissibleDeposit funding rule deposit rate clocks := by
  unfold joinedFindings at hnil
  cases haction : canonicalDepositAction rule with
  | none =>
      simp only [haction, List.append_eq_nil_iff] at hnil
      obtain ⟨deposit, hdeposit, _⟩ := (actionFindings_eq_nil funding rule).mp hnil.1.2
      rw [canonicalDepositAction_eq_some.mpr hdeposit] at haction
      exact absurd haction (by simp)
  | some deposit =>
      have hdeposit := canonicalDepositAction_eq_some.mp haction
      simp only [haction, List.append_eq_nil_iff] at hnil
      obtain ⟨hsupported, hthreshold⟩ := hnil
      obtain ⟨hstatic, rate, hlogic, hconditions, hrate⟩ :=
        supportedCondition_findings.mp hsupported
      simp only [hstatic, supportedCondition_of_rate hlogic hconditions hrate,
        thresholdFindings_eq_nil] at hthreshold
      simp only [List.append_eq_nil_iff] at hstatic
      obtain ⟨⟨⟨henvelope, hidentity⟩, haction'⟩, hclock⟩ := hstatic
      obtain ⟨hversion, honeShot, hunused, hexecutor, hdestination⟩ :=
        (envelopeFindings_eq_nil rule).mp henvelope
      obtain ⟨hintent, hruleId, hhash, hwallet⟩ :=
        (identityFindings_eq_nil funding rule).mp hidentity
      obtain ⟨other, hother, hamount, hfunded, hnonzero, hprogram, hmint⟩ :=
        (actionFindings_eq_nil funding rule).mp haction'
      obtain rfl : other = deposit :=
        ActionSpec.solendDeposit.inj (hother.symm.trans hdeposit)
      obtain ⟨hwall, hslot⟩ := (clockFindings_eq_nil funding rule clocks).mp hclock
      obtain ⟨hreserve, hmarket, hrateProgram, hkind, hformula, hstaleness, hrefresh⟩ :=
        (rateFindings_eq_nil rate other).mp hrate
      exact ⟨other, rate, hversion, honeShot, hunused, hexecutor, hdestination, hintent, hruleId, hhash,
        hwallet, hdeposit, hprogram, hmint, hamount, hfunded, hnonzero, hwall, hslot, hlogic,
        hconditions, hreserve, hmarket, hrateProgram, hkind, hformula, hstaleness, hrefresh,
        hthreshold.1, hthreshold.2.1, hthreshold.2.2⟩

/-- An admissible candidate has its condition and no findings. -/
theorem joinedFindings_of_admissible {funding : FundingSnapshot} {rule : WatchRule}
    {deposit : SolendDeposit} {rate : SolendReserveSupplyRate} {clocks : PreflightClockSnapshot}
    (h : AdmissibleDeposit funding rule deposit rate clocks) :
    joinedFindings funding rule clocks =
      (some ⟨rate.comparison, rate.thresholdBps, rate.maxReserveStalenessSlots⟩, []) := by
  have haction := canonicalDepositAction_eq_some.mpr h.action
  have hrate := (rateFindings_eq_nil rate deposit).mpr
    ⟨h.rateReserve, h.rateMarket, h.rateProgram, h.rateKind, h.formula, h.staleness, h.refresh⟩
  have henvelope := (envelopeFindings_eq_nil rule).mpr
    ⟨h.schemaVersion, h.oneShot, h.unused, h.executor, h.destination⟩
  have hidentity := (identityFindings_eq_nil funding rule).mpr
    ⟨h.intentId, h.ruleId, h.ruleHash, h.wallet⟩
  have hactionFindings := (actionFindings_eq_nil funding rule).mpr
    ⟨deposit, h.action, h.ruleAmount, h.fundedAmount, h.nonzero, h.program, h.mint⟩
  have hclock := (clockFindings_eq_nil funding rule clocks).mpr ⟨h.wallClock, h.slotClock⟩
  have hthreshold := (thresholdFindings_eq_nil funding
    ⟨rate.comparison, rate.thresholdBps, rate.maxReserveStalenessSlots⟩).mpr
    ⟨h.threshold, h.thresholdPos, h.thresholdLe⟩
  simp only [joinedFindings, haction, henvelope, hidentity, hactionFindings, hclock,
    List.append_nil, supportedCondition_of_rate h.logic h.conditions hrate, hthreshold]

theorem findings_joinedReport (funding : FundingSnapshot) (rule : WatchRule)
    (clocks : PreflightClockSnapshot) :
    (joinedReport funding rule clocks).findings = (joinedFindings funding rule clocks).2 := rfl

/-- An admissible pair passes, with itself as the prepared deposit. -/
theorem preflightCandidate_of_admissible {funding : FundingSnapshot} {rule : WatchRule}
    {deposit : SolendDeposit} {rate : SolendReserveSupplyRate} {clocks : PreflightClockSnapshot}
    (hadmissible : AdmissibleDeposit funding rule deposit rate clocks) :
    preflightCandidate ⟨some funding, some rule⟩ clocks =
      .needsChain ⟨funding, rule.delegatedWallet, deposit,
        ⟨rate.comparison, rate.thresholdBps, rate.maxReserveStalenessSlots⟩,
        joinedReport funding rule clocks⟩ := by
  have haction := canonicalDepositAction_eq_some.mpr hadmissible.action
  simp [preflightCandidate, findings_joinedReport, joinedFindings_of_admissible hadmissible,
    haction]

/-- A joined candidate with findings is blocked with those findings. -/
theorem preflightCandidate_of_findings {funding : FundingSnapshot} {rule : WatchRule}
    {clocks : PreflightClockSnapshot} (hfound : (joinedFindings funding rule clocks).2 ≠ []) :
    preflightCandidate ⟨some funding, some rule⟩ clocks =
      .blocked (joinedReport funding rule clocks) := by
  have hnonempty : (joinedFindings funding rule clocks).2.isEmpty = false := by
    simpa [List.isEmpty_iff] using hfound
  simp [preflightCandidate, findings_joinedReport, hnonempty]

/-- Preflight passes exactly the admissible candidates, and blocks every other
with a finding. -/
theorem preflightCandidate_needsChain_iff (input : CandidateInput)
    (clocks : PreflightClockSnapshot) :
    ((∃ prepared, preflightCandidate input clocks = .needsChain prepared) ↔
      Admissible input clocks) ∧
    (¬ Admissible input clocks →
      ∃ report, preflightCandidate input clocks = .blocked report ∧ report.findings ≠ []) := by
  by_cases hadmissible : Admissible input clocks
  · obtain ⟨funding, rule, deposit, rate, rfl, h⟩ := hadmissible
    have hpass := preflightCandidate_of_admissible h
    exact ⟨⟨fun _ => ⟨funding, rule, deposit, rate, rfl, h⟩, fun _ => ⟨_, hpass⟩⟩,
      fun hnot => absurd ⟨funding, rule, deposit, rate, rfl, h⟩ hnot⟩
  · have hblocked : ∃ report, preflightCandidate input clocks = .blocked report ∧
        report.findings ≠ [] := by
      obtain ⟨funding, rule⟩ := input
      cases funding with
      | none => cases rule <;> exact ⟨_, rfl, by simp [CandidateReport.bare]⟩
      | some funding =>
          cases rule with
          | none => exact ⟨_, rfl, by simp [CandidateReport.bare]⟩
          | some rule =>
              have hfound : (joinedFindings funding rule clocks).2 ≠ [] := by
                intro hnil
                obtain ⟨deposit, rate, h⟩ := admissible_of_joinedFindings hnil
                exact hadmissible ⟨funding, rule, deposit, rate, rfl, h⟩
              exact ⟨_, preflightCandidate_of_findings hfound, hfound⟩
    obtain ⟨report, hreport, hfindings⟩ := hblocked
    refine ⟨⟨?_, fun h => absurd h hadmissible⟩, fun _ => ⟨report, hreport, hfindings⟩⟩
    rintro ⟨prepared, hprepared⟩
    rw [hreport] at hprepared
    exact absurd hprepared (by simp)

end SolFrontier.Executor
