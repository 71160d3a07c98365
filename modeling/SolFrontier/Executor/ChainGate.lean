import SolFrontier.Executor.Chain
import SolFrontier.Executor.Preflight

/-! # Chain validation passes exactly what it should

`ChainRequirements` says what the accounts and the final clocks must be for a
rule and its funding row, without mentioning findings. Each group of checks
finds nothing exactly when its part of the requirements holds.
-/

namespace SolFrontier.Executor

open Foundation Types

/-- The comparison over unbounded numbers. -/
def Holds (comparison : Comparison) (observed threshold : Nat) : Prop :=
  match comparison with
  | .lt => observed < threshold
  | .lte => observed ≤ threshold
  | .gt => threshold < observed
  | .gte => threshold ≤ observed

instance (comparison : Comparison) (observed threshold : Nat) :
    Decidable (Holds comparison observed threshold) := by
  unfold Holds
  cases comparison <;> infer_instance

/-- A token account that can be moved as the deposit needs. -/
structure Usable (account : TokenAccountFacts) (address program mint owner : PubkeyBytes) :
    Prop where
  address : account.address = address
  program : account.accountOwner = program
  mint : account.mint = mint
  owner : account.tokenOwner = owner
  initialized : account.initialized = true
  thawed : account.frozen = false

/-- What a deposit order needs of the chain at the final clocks. -/
structure ChainRequirements (funding : FundingSnapshot) (rule : WatchRule)
    (deposit : SolendDeposit) (rate : SolendReserveSupplyRate) (facts : ChainFacts)
    (finalClocks : ClockSnapshot) : Prop where
  wallClock : finalClocks.nowMs < funding.expiresAtMs
  slotClock : finalClocks.currentConfirmedSlot < rule.expiresAtSlot
  reserveAddress : facts.reserve.address = deposit.reservePubkey
  reserveProgram : facts.reserve.accountOwner = deposit.solendProgramId
  reserveMarket : facts.reserve.lendingMarket = deposit.lendingMarket
  reserveMint : facts.reserve.liquidityMint = deposit.inputMint
  decimals : facts.reserve.liquidityMintDecimals = 6
  obligationAddress : facts.obligation.address = deposit.targetObligation
  obligationProgram : facts.obligation.accountOwner = deposit.solendProgramId
  obligationMarket : facts.obligation.lendingMarket = deposit.lendingMarket
  obligationOwner : facts.obligation.obligationOwner = rule.delegatedWallet
  sourceAta : facts.derived.sourceLiquidityAta = funding.controlledUsdcAta
  tokenProgram : facts.derived.tokenProgram = classicTokenProgram
  source : ∃ source, facts.sourceLiquidity = some source ∧
    Usable source facts.derived.sourceLiquidityAta facts.derived.tokenProgram deposit.inputMint
      rule.delegatedWallet ∧
    deposit.inputAmountRaw ≤ source.amountRaw
  collateral : ∃ collateral, facts.collateral = some collateral ∧
    Usable collateral facts.derived.collateralAta facts.derived.tokenProgram
      facts.reserve.collateralMint rule.delegatedWallet
  notAhead : facts.reserve.lastUpdateSlot ≤ finalClocks.currentConfirmedSlot
  notStale : facts.reserve.lastUpdateStale = false
  fresh : finalClocks.currentConfirmedSlot.toNat - facts.reserve.lastUpdateSlot.toNat ≤
    rate.maxReserveStalenessSlots.toNat
  condition : Holds rate.comparison facts.nativeSupplyAprWad.toNat
    (rate.thresholdBps.toNat * bpsWad)

/-- The plan of an order: its action, its funding row and the facts. -/
def planInputs (funding : FundingSnapshot) (deposit : SolendDeposit) (facts : ChainFacts)
    (report : CandidateReport) : ValidatedSolendPlanInputs where
  solendProgramId := deposit.solendProgramId
  inputMint := deposit.inputMint
  inputAmountRaw := deposit.inputAmountRaw
  sourceLiquidity := facts.derived.sourceLiquidityAta
  userCollateral := facts.derived.collateralAta
  reserve := deposit.reservePubkey
  reserveLiquiditySupply := facts.reserve.liquiditySupply
  reserveCollateralMint := facts.reserve.collateralMint
  lendingMarket := deposit.lendingMarket
  destinationDepositCollateral := facts.reserve.collateralSupply
  obligation := deposit.targetObligation
  obligationOwner := funding.controlledWallet
  pythOracle := facts.reserve.pythOracle
  switchboardOracle := facts.reserve.switchboardOracle
  userTransferAuthority := funding.controlledWallet
  tokenProgram := facts.derived.tokenProgram
  report

theorem thresholdWad_toNat (thresholdBps : UInt32) :
    (BitVec.ofNat 128 thresholdBps.toNat * BitVec.ofNat 128 bpsWad).toNat =
      thresholdBps.toNat * bpsWad := by
  have hbps : thresholdBps.toNat < 2 ^ 128 :=
    thresholdBps.toNat_lt.trans (Nat.pow_lt_pow_right (by norm_num) (by norm_num))
  have hwad : bpsWad < 2 ^ 96 := by norm_num [bpsWad]
  have hproduct : thresholdBps.toNat * bpsWad < 2 ^ 128 := by
    calc thresholdBps.toNat * bpsWad < 2 ^ 32 * 2 ^ 96 :=
          Nat.mul_lt_mul_of_lt_of_lt thresholdBps.toNat_lt hwad
      _ = 2 ^ 128 := by norm_num
  rw [BitVec.toNat_mul, BitVec.toNat_ofNat, BitVec.toNat_ofNat, Nat.mod_eq_of_lt hbps,
    Nat.mod_eq_of_lt (hwad.trans (by norm_num)), Nat.mod_eq_of_lt hproduct]

/-- The threshold fits its word, so the comparison loses nothing. -/
theorem compareWad_iff (observedWad : BitVec 128) (comparison : Comparison)
    (thresholdBps : UInt32) :
    compareWad observedWad comparison thresholdBps = true ↔
      Holds comparison observedWad.toNat (thresholdBps.toNat * bpsWad) := by
  have hthreshold := thresholdWad_toNat thresholdBps
  unfold compareWad
  -- The product of two literals must not be evaluated.
  generalize BitVec.ofNat 128 thresholdBps.toNat * BitVec.ofNat 128 bpsWad = thresholdWad
    at hthreshold ⊢
  rw [← hthreshold]
  cases comparison <;> simp [Holds, BitVec.lt_def, BitVec.le_def]

/-! ## The groups of checks -/

theorem finalClockFindings_eq_nil (wallClockEligible slotClockEligible : Bool) :
    finalClockFindings wallClockEligible slotClockEligible = [] ↔
      wallClockEligible = true ∧ slotClockEligible = true := by
  simp [finalClockFindings]

theorem reserveFindings_eq_nil (action : SolendDeposit) (reserve : ReserveFacts) :
    reserveFindings action reserve = [] ↔ reserve.address = action.reservePubkey ∧
      reserve.accountOwner = action.solendProgramId ∧
      reserve.lendingMarket = action.lendingMarket ∧ reserve.liquidityMint = action.inputMint ∧
      reserve.liquidityMintDecimals = 6 := by
  rw [reserveFindings, List.append_eq_nil_iff, blockerIf_eq_nil, blockerIf_eq_nil]
  simp [requiredLiquidityMintDecimals, and_assoc]

theorem obligationFindings_eq_nil (action : SolendDeposit) (wallet : PubkeyBytes)
    (obligation : ObligationFacts) :
    obligationFindings action wallet obligation = [] ↔
      obligation.address = action.targetObligation ∧
      obligation.accountOwner = action.solendProgramId ∧
      obligation.lendingMarket = action.lendingMarket ∧ obligation.obligationOwner = wallet := by
  simp [obligationFindings]

theorem usable_iff (account : TokenAccountFacts) (address program mint owner : PubkeyBytes) :
    Usable account address program mint owner ↔
      account.address = address ∧ ¬ account.Unusable program mint owner := by
  have hunusable : ¬ account.Unusable program mint owner ↔ account.accountOwner = program ∧
      account.mint = mint ∧ account.tokenOwner = owner ∧ account.initialized = true ∧
      account.frozen = false := by
    simp [TokenAccountFacts.Unusable]
  rw [hunusable]
  constructor
  · rintro ⟨haddress, hprogram, hmint, howner, hinitialized, hthawed⟩
    exact ⟨haddress, hprogram, hmint, howner, hinitialized, hthawed⟩
  · rintro ⟨haddress, hprogram, hmint, howner, hinitialized, hthawed⟩
    exact ⟨haddress, hprogram, hmint, howner, hinitialized, hthawed⟩

theorem sourceFindings_eq_nil (action : SolendDeposit) (wallet controlledUsdcAta : PubkeyBytes)
    (derived : DerivedAccounts) (sourceLiquidity : Option TokenAccountFacts) :
    sourceFindings action wallet controlledUsdcAta derived sourceLiquidity = [] ↔
      derived.sourceLiquidityAta = controlledUsdcAta ∧
      derived.tokenProgram = classicTokenProgram ∧
      ∃ source, sourceLiquidity = some source ∧
        Usable source derived.sourceLiquidityAta derived.tokenProgram action.inputMint wallet ∧
        action.inputAmountRaw ≤ source.amountRaw := by
  cases sourceLiquidity with
  | none => simp [sourceFindings]
  | some source => simp [sourceFindings, usable_iff, and_assoc]

theorem collateralFindings_eq_nil (wallet collateralMint : PubkeyBytes)
    (derived : DerivedAccounts) (collateral : Option TokenAccountFacts) :
    collateralFindings wallet collateralMint derived collateral = [] ↔
      ∃ account, collateral = some account ∧
        Usable account derived.collateralAta derived.tokenProgram collateralMint wallet := by
  cases collateral with
  | none => simp [collateralFindings]
  | some account => simp [collateralFindings, usable_iff]

theorem freshnessFindings_eq_nil (reserve : ReserveFacts) (currentConfirmedSlot : UInt64)
    (maxReserveStalenessSlots : UInt32) :
    freshnessFindings reserve currentConfirmedSlot maxReserveStalenessSlots = [] ↔
      reserve.lastUpdateSlot ≤ currentConfirmedSlot ∧ reserve.lastUpdateStale = false ∧
      currentConfirmedSlot.toNat - reserve.lastUpdateSlot.toNat ≤
        maxReserveStalenessSlots.toNat := by
  unfold freshnessFindings reserveAgeSlots
  dsimp only
  split
  next hle =>
    have hage : currentConfirmedSlot - reserve.lastUpdateSlot ≤ maxReserveStalenessSlots.toUInt64 ↔
        currentConfirmedSlot.toNat - reserve.lastUpdateSlot.toNat ≤
          maxReserveStalenessSlots.toNat := by
      rw [UInt64.le_iff_toNat_le, UInt64.toNat_sub_of_le _ _ hle]
      simp
    simp [hle, hage]
  next hahead => simp [hahead]

/-! ## The whole validation -/

section

variable {input : CandidateInput} {clocks : PreflightClockSnapshot} {prepared : PreparedDeposit}
  {funding : FundingSnapshot} {rule : WatchRule} {deposit : SolendDeposit}
  {rate : SolendReserveSupplyRate} {facts : ChainFacts} {finalClocks : ClockSnapshot}

theorem fundingExpiresAtMs_joinedReport (funding : FundingSnapshot) (rule : WatchRule)
    (clocks : PreflightClockSnapshot) :
    (joinedReport funding rule clocks).clocks.fundingExpiresAtMs = some funding.expiresAtMs := rfl

theorem ruleExpiresAtSlot_joinedReport (funding : FundingSnapshot) (rule : WatchRule)
    (clocks : PreflightClockSnapshot) :
    (joinedReport funding rule clocks).clocks.ruleExpiresAtSlot = some rule.expiresAtSlot := rfl

/-- A candidate that passes preflight is an admissible pair, prepared as it is. -/
theorem prepared_of_needsChain (hprepared : preflightCandidate input clocks = .needsChain prepared) :
    ∃ funding rule deposit rate, input = ⟨some funding, some rule⟩ ∧
      AdmissibleDeposit funding rule deposit rate clocks ∧
      prepared = ⟨funding, rule.delegatedWallet, deposit,
        ⟨rate.comparison, rate.thresholdBps, rate.maxReserveStalenessSlots⟩,
        joinedReport funding rule clocks⟩ := by
  obtain ⟨funding, rule⟩ := input
  cases funding with
  | none => cases rule <;> cases hprepared
  | some funding =>
      cases rule with
      | none => cases hprepared
      | some rule =>
          by_cases hnil : (joinedFindings funding rule clocks).2 = []
          · obtain ⟨deposit, rate, hadmissible⟩ := admissible_of_joinedFindings hnil
            rw [preflightCandidate_of_admissible hadmissible] at hprepared
            exact ⟨funding, rule, deposit, rate, rfl, hadmissible,
              (PreflightOutcome.needsChain.inj hprepared).symm⟩
          · rw [preflightCandidate_of_findings hnil] at hprepared
            cases hprepared

/-- The requirements are the groups of checks and the condition. -/
theorem accountFindings_eq_nil (hadmissible : AdmissibleDeposit funding rule deposit rate clocks) :
    accountFindings ⟨funding, rule.delegatedWallet, deposit,
        ⟨rate.comparison, rate.thresholdBps, rate.maxReserveStalenessSlots⟩,
        joinedReport funding rule clocks⟩ facts (finalClocks.nowMs < funding.expiresAtMs)
        (finalClocks.currentConfirmedSlot < rule.expiresAtSlot)
        finalClocks.currentConfirmedSlot = [] ∧
      Holds rate.comparison facts.nativeSupplyAprWad.toNat (rate.thresholdBps.toNat * bpsWad) ↔
    ChainRequirements funding rule deposit rate facts finalClocks := by
  have hnone : (joinedReport funding rule clocks).findings = [] := by
    rw [findings_joinedReport, joinedFindings_of_admissible hadmissible]
  simp only [accountFindings, hnone, List.nil_append, List.append_eq_nil_iff,
    finalClockFindings_eq_nil, reserveFindings_eq_nil, obligationFindings_eq_nil,
    sourceFindings_eq_nil, collateralFindings_eq_nil, freshnessFindings_eq_nil, decide_eq_true_eq]
  constructor
  · rintro ⟨⟨⟨⟨⟨⟨⟨hwall, hslot⟩, haddress, hprogram, hmarket, hmint, hdecimals⟩, hobligation,
      hobligationProgram, hobligationMarket, howner⟩, hata, htoken, hsource⟩, hcollateral⟩,
      hahead, hstale, hfresh⟩, hcondition⟩
    exact ⟨hwall, hslot, haddress, hprogram, hmarket, hmint, hdecimals, hobligation,
      hobligationProgram, hobligationMarket, howner, hata, htoken, hsource, hcollateral, hahead,
      hstale, hfresh, hcondition⟩
  · intro h
    exact ⟨⟨⟨⟨⟨⟨⟨h.wallClock, h.slotClock⟩, h.reserveAddress, h.reserveProgram, h.reserveMarket,
      h.reserveMint, h.decimals⟩, h.obligationAddress, h.obligationProgram, h.obligationMarket,
      h.obligationOwner⟩, h.sourceAta, h.tokenProgram, h.source⟩, h.collateral⟩, h.notAhead,
      h.notStale, h.fresh⟩, h.condition⟩

/-- The five findings are about the observation only, so a condition that is
not met adds none of them. -/
theorem has_observationCodes_concat {findings : List CandidateFinding} {failed : Prop}
    [Decidable failed] (detail : String) :
    has (findings ++ blockerIf failed .conditionNotMet detail) observationCodes =
      has findings observationCodes := by
  by_cases hfailed : failed <;> simp [has, blockerIf, hfailed, observationCodes]

/-- The blockers of a validation, the condition among them. -/
def chainFindings (prepared : PreparedDeposit) (facts : ChainFacts)
    (found : List CandidateFinding) : List CandidateFinding :=
  found ++ blockerIf (publishedCondition prepared facts found = some false) .conditionNotMet
    "full-precision native supply APR does not satisfy the canonical condition"

/-- What a validation answers, by its findings. -/
theorem validateChain_eq (prepared : PreparedDeposit) {fundingExpiresAtMs : Int64}
    {ruleExpiresAtSlot : UInt64} {found : List CandidateFinding}
    (hfunding : prepared.report.clocks.fundingExpiresAtMs = some fundingExpiresAtMs)
    (hrule : prepared.report.clocks.ruleExpiresAtSlot = some ruleExpiresAtSlot)
    (hfound : found = accountFindings prepared facts (finalClocks.nowMs < fundingExpiresAtMs)
      (finalClocks.currentConfirmedSlot < ruleExpiresAtSlot) finalClocks.currentConfirmedSlot) :
    ∃ report, report = chainReport prepared facts finalClocks
        (finalClocks.nowMs < fundingExpiresAtMs)
        (finalClocks.currentConfirmedSlot < ruleExpiresAtSlot)
        (chainFindings prepared facts found) (publishedCondition prepared facts found) ∧
      validateChain prepared facts finalClocks =
        if chainFindings prepared facts found ≠ [] then some (.blocked report)
        else some (.ready { planInputs prepared.funding prepared.action facts report with
          obligationOwner := prepared.delegatedWallet
          userTransferAuthority := prepared.delegatedWallet }) := by
  refine ⟨_, rfl, ?_⟩
  subst hfound
  rw [validateChain, hfunding, hrule]
  rfl

theorem has_chainFindings (found : List CandidateFinding) :
    has (chainFindings prepared facts found) observationCodes = has found observationCodes :=
  has_observationCodes_concat _

/-- Nothing blocks exactly when the checks found nothing and the condition holds. -/
theorem chainFindings_eq_nil (prepared : PreparedDeposit) (facts : ChainFacts)
    (found : List CandidateFinding) :
    chainFindings prepared facts found = [] ↔ found = [] ∧
      compareWad facts.nativeSupplyAprWad prepared.condition.comparison
        prepared.condition.thresholdBps = true := by
  rw [chainFindings, List.append_eq_nil_iff, blockerIf_eq_nil]
  refine and_congr_right fun hfound => ?_
  subst hfound
  simp [publishedCondition, has]

/-- A report publishes the truth of its condition exactly when the observation
raised nothing. -/
theorem condition_chainReport {wallClockEligible slotClockEligible : Bool}
    {found findings : List CandidateFinding} {condition : ConditionReport}
    (hcondition : prepared.report.condition = some condition) (hunmet : condition.met = none)
    (met : Bool) :
    (∃ observed, (chainReport prepared facts finalClocks wallClockEligible slotClockEligible
        findings (publishedCondition prepared facts found)).condition = some observed ∧
        observed.met = some met) ↔
      has found observationCodes = false ∧
        met = compareWad facts.nativeSupplyAprWad prepared.condition.comparison
          prepared.condition.thresholdBps := by
  unfold publishedCondition
  by_cases hinvalid : has found observationCodes = true
  · simp [chainReport, hinvalid, hcondition, hunmet]
  · have hvalid : has found observationCodes = false := by simpa using hinvalid
    simp [chainReport, hvalid, hcondition, ConditionReport.observed, eq_comm]

/-- An order that meets every requirement is ready. -/
theorem ready_of_requirements (hadmissible : AdmissibleDeposit funding rule deposit rate clocks)
    (hrequired : ChainRequirements funding rule deposit rate facts finalClocks) :
    ∃ report, validateChain ⟨funding, rule.delegatedWallet, deposit,
        ⟨rate.comparison, rate.thresholdBps, rate.maxReserveStalenessSlots⟩,
        joinedReport funding rule clocks⟩ facts finalClocks =
      some (.ready (planInputs funding deposit facts report)) := by
  obtain ⟨haccounts, hcondition⟩ := (accountFindings_eq_nil hadmissible).mpr hrequired
  obtain ⟨report, _, houtcome⟩ := validateChain_eq ⟨funding, rule.delegatedWallet, deposit,
    ⟨rate.comparison, rate.thresholdBps, rate.maxReserveStalenessSlots⟩,
    joinedReport funding rule clocks⟩ (fundingExpiresAtMs_joinedReport ..)
    (ruleExpiresAtSlot_joinedReport ..) haccounts.symm
  have hnil := (chainFindings_eq_nil ⟨funding, rule.delegatedWallet, deposit,
    ⟨rate.comparison, rate.thresholdBps, rate.maxReserveStalenessSlots⟩,
    joinedReport funding rule clocks⟩ facts []).mpr
    ⟨rfl, (compareWad_iff _ _ _).mpr hcondition⟩
  refine ⟨report, ?_⟩
  rw [houtcome, if_neg (not_not.mpr hnil)]
  simp [planInputs, hadmissible.wallet]

/-- The plan of an order takes its fields from the action, the row and the facts. -/
theorem planInputs_of_ready (hprepared : preflightCandidate input clocks = .needsChain prepared)
    {plan : ValidatedSolendPlanInputs}
    (hready : validateChain prepared facts finalClocks = some (.ready plan)) :
    ∃ funding rule deposit rate report, AdmissibleDeposit funding rule deposit rate clocks ∧
      plan = planInputs funding deposit facts report := by
  obtain ⟨funding, rule, deposit, rate, _, hadmissible, rfl⟩ := prepared_of_needsChain hprepared
  obtain ⟨report, _, houtcome⟩ := validateChain_eq ⟨funding, rule.delegatedWallet, deposit,
    ⟨rate.comparison, rate.thresholdBps, rate.maxReserveStalenessSlots⟩,
    joinedReport funding rule clocks⟩ (fundingExpiresAtMs_joinedReport ..)
    (ruleExpiresAtSlot_joinedReport ..) rfl
  rw [houtcome] at hready
  split at hready
  · cases hready
  · refine ⟨funding, rule, deposit, rate, report, hadmissible, ?_⟩
    -- Preflight compared the wallet of the rule with the row's.
    rw [← ChainOutcome.ready.inj (Option.some.inj hready)]
    simp [planInputs, hadmissible.wallet]

/-- Validation at final clocks of whatever passed preflight: it is ready exactly
when every requirement holds; the plan takes its fields from the action, the
funding row and the facts; and the truth of the condition is published exactly
when the reserve observation raised nothing, and is then that of the comparison
over unbounded numbers. -/
theorem validate_chain_iff (input : CandidateInput) (clocks : PreflightClockSnapshot)
    (prepared : PreparedDeposit) (hprepared : preflightCandidate input clocks = .needsChain prepared)
    (facts : ChainFacts) (finalClocks : ClockSnapshot) :
    ∃ funding rule deposit rate outcome, input = ⟨some funding, some rule⟩ ∧
      rule.action = .solendDeposit deposit ∧
      rule.conditions = [.solendReserveSupplyRate rate] ∧
      validateChain prepared facts finalClocks = some outcome ∧
      ((∃ plan, outcome = .ready plan) ↔
        ChainRequirements funding rule deposit rate facts finalClocks) ∧
      (∀ plan, outcome = .ready plan → plan = planInputs funding deposit facts plan.report) ∧
      ∀ met, (∃ condition, outcome.report.condition = some condition ∧ condition.met = some met) ↔
        has outcome.report.findings observationCodes = false ∧
          met = decide (Holds rate.comparison facts.nativeSupplyAprWad.toNat
            (rate.thresholdBps.toNat * bpsWad)) := by
  obtain ⟨funding, rule, deposit, rate, hinput, hadmissible, rfl⟩ :=
    prepared_of_needsChain hprepared
  let prepared : PreparedDeposit := ⟨funding, rule.delegatedWallet, deposit,
    ⟨rate.comparison, rate.thresholdBps, rate.maxReserveStalenessSlots⟩,
    joinedReport funding rule clocks⟩
  obtain ⟨found, hfound⟩ : ∃ found, found = accountFindings prepared facts
      (finalClocks.nowMs < funding.expiresAtMs)
      (finalClocks.currentConfirmedSlot < rule.expiresAtSlot) finalClocks.currentConfirmedSlot :=
    ⟨_, rfl⟩
  have hrequirements : chainFindings prepared facts found = [] ↔
      ChainRequirements funding rule deposit rate facts finalClocks := by
    rw [chainFindings_eq_nil, compareWad_iff, hfound]
    exact accountFindings_eq_nil hadmissible
  obtain ⟨report, hreport, houtcome⟩ := validateChain_eq prepared
    (fundingExpiresAtMs_joinedReport ..) (ruleExpiresAtSlot_joinedReport ..) hfound
  have hmet : prepared.report.condition = some (conditionReport prepared.condition) := by
    show (joinedReport funding rule clocks).condition = _
    simp [joinedReport, joinedFindings_of_admissible hadmissible, prepared]
  have hpublished : ∀ met, (∃ condition, report.condition = some condition ∧
      condition.met = some met) ↔ has report.findings observationCodes = false ∧
        met = decide (Holds rate.comparison facts.nativeSupplyAprWad.toNat
          (rate.thresholdBps.toNat * bpsWad)) := by
    intro met
    have hholds : compareWad facts.nativeSupplyAprWad rate.comparison rate.thresholdBps =
        decide (Holds rate.comparison facts.nativeSupplyAprWad.toNat
          (rate.thresholdBps.toNat * bpsWad)) := by
      rw [Bool.eq_iff_iff, compareWad_iff, decide_eq_true_eq]
    have hfindings : report.findings = chainFindings prepared facts found := by
      rw [hreport]
      rfl
    rw [hfindings, has_chainFindings, hreport, condition_chainReport hmet rfl met, ← hholds]
  by_cases hnil : chainFindings prepared facts found = []
  · -- The wallet of the plan is the rule's, which preflight compared with the row's.
    have hwallet : planInputs funding deposit facts report =
        { planInputs funding deposit facts report with
          obligationOwner := rule.delegatedWallet
          userTransferAuthority := rule.delegatedWallet } := by
      simp [planInputs, hadmissible.wallet]
    refine ⟨funding, rule, deposit, rate, .ready (planInputs funding deposit facts report), hinput,
      hadmissible.action, hadmissible.conditions, ?_, ?_, ?_, hpublished⟩
    · rw [houtcome, if_neg (not_not.mpr hnil), hwallet]
    · exact ⟨fun _ => hrequirements.mp hnil, fun _ => ⟨_, rfl⟩⟩
    · intro plan hplan
      rw [← ChainOutcome.ready.inj hplan]
      rfl
  · refine ⟨funding, rule, deposit, rate, .blocked report, hinput, hadmissible.action,
      hadmissible.conditions, ?_, ?_, ?_, hpublished⟩
    · rw [houtcome, if_pos hnil]
    · constructor
      · rintro ⟨plan, hplan⟩
        cases hplan
      · intro hrequired
        exact absurd (hrequirements.mpr hrequired) hnil
    · intro plan hplan
      cases hplan

end

/-! ## An order that validation passes -/

def samplePubkey (byte : UInt8) : PubkeyBytes := ⟨⟨List.replicate 32 byte, by simp⟩⟩

def sampleDeposit : SolendDeposit where
  targetObligation := samplePubkey 1
  reservePubkey := samplePubkey 2
  lendingMarket := samplePubkey 3
  solendProgramId := auditedSolendProgram
  inputMint := usdcMint
  inputAmountRaw := 500000

def sampleRate : SolendReserveSupplyRate where
  reservePubkey := samplePubkey 2
  lendingMarket := samplePubkey 3
  solendProgramId := auditedSolendProgram
  comparison := .gt
  thresholdBps := 250
  rateKind := .apr
  formulaVersion := 1
  maxReserveStalenessSlots := 16
  requiredRefreshSameTx := true

def sampleRule : WatchRule where
  schemaVersion := 2
  ruleId := ⟨List.replicate 16 5, rfl⟩
  user := samplePubkey 4
  executor := samplePubkey 6
  delegatedWallet := samplePubkey 6
  createdAtSlot := 1000
  expiresAtSlot := 1480
  oneShot := true
  conditionLogic := .all
  conditions := [.solendReserveSupplyRate sampleRate]
  action := .solendDeposit sampleDeposit
  maxInputAmountRaw := 500000
  usedAmountRaw := 0
  destination := samplePubkey 6
  slippageBps := 0

def sampleFunding : FundingSnapshot where
  intentId := hexEncode sampleRule.ruleId.1
  ruleIdHex := hexEncode sampleRule.ruleId.1
  canonicalRuleHashHex := hexEncode (canonicalRuleHash sampleRule).1
  controlledWallet := samplePubkey 6
  controlledUsdcAta := samplePubkey 7
  amountRaw := 500000
  thresholdBps := 250
  expiresAtMs := 1700000240000

theorem admissible_sample :
    AdmissibleDeposit sampleFunding sampleRule sampleDeposit sampleRate
      ⟨1700000100000, some 1100⟩ where
  schemaVersion := rfl
  oneShot := rfl
  unused := rfl
  executor := rfl
  destination := rfl
  intentId := rfl
  ruleId := rfl
  ruleHash := rfl
  wallet := rfl
  action := rfl
  program := rfl
  mint := rfl
  ruleAmount := rfl
  fundedAmount := rfl
  nonzero := by decide
  wallClock := by decide
  slotClock := ⟨1100, rfl, by decide⟩
  logic := rfl
  conditions := rfl
  rateReserve := rfl
  rateMarket := rfl
  rateProgram := rfl
  rateKind := rfl
  formula := rfl
  staleness := rfl
  refresh := rfl
  threshold := rfl
  thresholdPos := by decide
  thresholdLe := by decide

/-- A usable account of the wallet. -/
def sampleAccount (address mint : PubkeyBytes) : TokenAccountFacts where
  address
  accountOwner := classicTokenProgram
  mint
  tokenOwner := samplePubkey 6
  amountRaw := 500000
  initialized := true
  frozen := false

/-- A reserve that pays 3 % and was refreshed ten slots before the clock. -/
def sampleFacts : ChainFacts where
  reserve :=
    { address := samplePubkey 2
      accountOwner := auditedSolendProgram
      lastUpdateSlot := 1100
      lastUpdateStale := false
      lendingMarket := samplePubkey 3
      liquidityMint := usdcMint
      liquidityMintDecimals := 6
      liquiditySupply := samplePubkey 8
      pythOracle := samplePubkey 9
      switchboardOracle := samplePubkey 10
      collateralMint := samplePubkey 11
      collateralSupply := samplePubkey 12 }
  obligation :=
    { address := samplePubkey 1
      accountOwner := auditedSolendProgram
      lendingMarket := samplePubkey 3
      obligationOwner := samplePubkey 6 }
  sourceLiquidity := some (sampleAccount (samplePubkey 7) usdcMint)
  collateral := some (sampleAccount (samplePubkey 13) (samplePubkey 11))
  derived :=
    { tokenProgram := classicTokenProgram
      sourceLiquidityAta := samplePubkey 7
      collateralAta := samplePubkey 13 }
  nativeSupplyAprWad := 30000000000000000

def sampleClocks : ClockSnapshot := ⟨1700000200000, 1110⟩

theorem chainRequirements_sample :
    ChainRequirements sampleFunding sampleRule sampleDeposit sampleRate sampleFacts sampleClocks where
  wallClock := by decide
  slotClock := by decide
  reserveAddress := rfl
  reserveProgram := rfl
  reserveMarket := rfl
  reserveMint := rfl
  decimals := rfl
  obligationAddress := rfl
  obligationProgram := rfl
  obligationMarket := rfl
  obligationOwner := rfl
  sourceAta := rfl
  tokenProgram := rfl
  source := ⟨_, rfl, ⟨rfl, rfl, rfl, rfl, rfl, rfl⟩, by decide⟩
  collateral := ⟨_, rfl, rfl, rfl, rfl, rfl, rfl, rfl⟩
  notAhead := by decide
  notStale := rfl
  fresh := by decide
  condition := by decide

/-- A funded order whose condition holds at fresh accounts is ready, with the
truth of its condition in the report. -/
theorem validate_chain_ready :
    ∃ prepared plan,
      preflightCandidate ⟨some sampleFunding, some sampleRule⟩ ⟨1700000100000, some 1100⟩ =
        .needsChain prepared ∧
      validateChain prepared sampleFacts sampleClocks = some (.ready plan) ∧
      plan = planInputs sampleFunding sampleDeposit sampleFacts plan.report := by
  have hprepared := preflightCandidate_of_admissible admissible_sample
  obtain ⟨funding, rule, deposit, rate, outcome, hinput, haction, hconditions, houtcome, hready,
    hplan, _⟩ := validate_chain_iff _ _ _ hprepared sampleFacts sampleClocks
  obtain ⟨hfunding, hrule⟩ := CandidateInput.mk.inj hinput
  obtain rfl := Option.some.inj hfunding
  obtain rfl := Option.some.inj hrule
  obtain rfl : sampleDeposit = deposit := ActionSpec.solendDeposit.inj haction
  obtain rfl : sampleRate = rate :=
    Condition.solendReserveSupplyRate.inj (List.singleton_inj.mp hconditions)
  obtain ⟨plan, rfl⟩ := hready.mpr chainRequirements_sample
  exact ⟨_, plan, hprepared, houtcome, hplan plan rfl⟩

end SolFrontier.Executor
