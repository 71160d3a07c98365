import SolFrontier.Executor.Report
import SolFrontier.Types.WatchRule

/-! # Static validation of a candidate

`preflightCandidate` performs every check that needs no chain data over one
funding snapshot and one watch rule, and accumulates all blockers.
-/

namespace SolFrontier.Executor

open Foundation Types

def supportedFormulaVersion : UInt8 := 1

def requiredMaxReserveStalenessSlots : UInt32 := 16

def maxSupportedThresholdBps : UInt32 := 10000

/-- One basis point in the 18-decimal WAD domain. -/
def bpsWad : Nat := 100000000000000

def auditedSolendProgram : PubkeyBytes :=
  pinnedPubkey "So1endDq2YkqhipRh3WViPa8hdiSpxWy6z3Z6tMCpAo" (by decide +kernel)

def usdcMint : PubkeyBytes :=
  pinnedPubkey "EPjFWdd5AufqSSqeM2qN1xzybapC8G4wEGGkZwyTDt1v" (by decide +kernel)

/-- The columns of one `budget_reserved` funding row. -/
structure FundingSnapshot where
  intentId : String
  ruleIdHex : String
  canonicalRuleHashHex : String
  controlledWallet : PubkeyBytes
  controlledUsdcAta : PubkeyBytes
  amountRaw : UInt64
  thresholdBps : UInt32
  expiresAtMs : Int64
  deriving DecidableEq, Repr

structure CandidateInput where
  funding : Option FundingSnapshot
  rule : Option WatchRule
  deriving DecidableEq, Repr

/-- The initial clocks; the confirmed slot may be unavailable. -/
structure PreflightClockSnapshot where
  nowMs : Int64
  currentConfirmedSlot : Option UInt64
  deriving DecidableEq, Repr

structure SupportedRateCondition where
  comparison : Comparison
  thresholdBps : UInt32
  maxReserveStalenessSlots : UInt32
  deriving DecidableEq, Repr

/-- The static checks passed; chain data is needed next. -/
structure PreparedDeposit where
  funding : FundingSnapshot
  delegatedWallet : PubkeyBytes
  action : SolendDeposit
  condition : SupportedRateCondition
  report : CandidateReport
  deriving DecidableEq, Repr

/-- Everything a deposit transaction is built from, once all checks passed. -/
structure ValidatedSolendPlanInputs where
  solendProgramId : PubkeyBytes
  inputMint : PubkeyBytes
  inputAmountRaw : UInt64
  sourceLiquidity : PubkeyBytes
  userCollateral : PubkeyBytes
  reserve : PubkeyBytes
  reserveLiquiditySupply : PubkeyBytes
  reserveCollateralMint : PubkeyBytes
  lendingMarket : PubkeyBytes
  destinationDepositCollateral : PubkeyBytes
  obligation : PubkeyBytes
  obligationOwner : PubkeyBytes
  pythOracle : PubkeyBytes
  switchboardOracle : PubkeyBytes
  userTransferAuthority : PubkeyBytes
  tokenProgram : PubkeyBytes
  report : CandidateReport
  deriving DecidableEq, Repr

inductive PreflightOutcome where
  | blocked (report : CandidateReport)
  | needsChain (prepared : PreparedDeposit)
  deriving DecidableEq, Repr

/-- A blocker, present when its check failed. -/
def blockerIf (failed : Prop) [Decidable failed] (code : FindingCode) (detail : String) :
    List CandidateFinding :=
  if failed then [⟨code, detail⟩] else []

@[simp] theorem blockerIf_eq_nil (failed : Prop) [Decidable failed] (code : FindingCode)
    (detail : String) : blockerIf failed code detail = [] ↔ ¬ failed := by
  by_cases hfailed : failed <;> simp [blockerIf, hfailed]

/-- The rule must be a fresh one-shot v2 rule closed over the delegated wallet. -/
def envelopeFindings (rule : WatchRule) : List CandidateFinding :=
  blockerIf (rule.schemaVersion ≠ stage2WatchRuleSchemaV2) .unsupportedSchemaVersion
      "dry-run supports only canonical WatchRule schema v2" ++
    blockerIf (¬ rule.oneShot) .multiUseRule "dry-run supports one-shot rules only" ++
    blockerIf (rule.usedAmountRaw ≠ 0) .usedAmountNonZero
      "a dry-run candidate must have used_amount_raw == 0" ++
    blockerIf (rule.executor ≠ rule.delegatedWallet ∨ rule.destination ≠ rule.delegatedWallet)
      .controlledWalletEnvelopeMismatch
      "executor and destination must equal the fingerprint-bound delegated wallet"

/-- The funding row must name this rule, its hash and its wallet. -/
def identityFindings (funding : FundingSnapshot) (rule : WatchRule) : List CandidateFinding :=
  let expectedRuleIdHex := hexEncode rule.ruleId.1
  let expectedHashHex := hexEncode (canonicalRuleHash rule).1
  blockerIf (funding.intentId ≠ expectedRuleIdHex ∨ funding.ruleIdHex ≠ expectedRuleIdHex)
      .ruleIdMismatch "funding intent/rule id is not the exact canonical lowercase rule id" ++
    blockerIf (funding.canonicalRuleHashHex ≠ expectedHashHex) .canonicalHashMismatch
      "funding canonical_rule_hash_hex is not the exact recomputed lowercase hash" ++
    blockerIf (funding.controlledWallet ≠ rule.delegatedWallet) .controlledWalletMismatch
      "funding controlled wallet differs from the fingerprint-bound delegated wallet"

/-- The deposit the rule asks for, if it is one. -/
def canonicalDepositAction (rule : WatchRule) : Option SolendDeposit :=
  match rule.action with
  | .solendDeposit action => some action
  | _ => none

def amountsEqual (funding : FundingSnapshot) (rule : WatchRule) (action : SolendDeposit) : Bool :=
  action.inputAmountRaw = rule.maxInputAmountRaw ∧ rule.maxInputAmountRaw = funding.amountRaw

/-- The action must be a non-zero USDC deposit of exactly the funded amount. -/
def actionFindings (funding : FundingSnapshot) (rule : WatchRule) : List CandidateFinding :=
  match canonicalDepositAction rule with
  | none =>
      [⟨.unsupportedAction, "WatchRule action is not ActionSpec::SolendDeposit"⟩]
  | some action =>
      blockerIf (¬ amountsEqual funding rule action) .amountMismatch
          "action, WatchRule maximum, and funding amounts are not exactly equal" ++
        blockerIf (action.inputAmountRaw = 0 ∨ rule.maxInputAmountRaw = 0 ∨ funding.amountRaw = 0)
          .amountZero "deposit amount must be non-zero" ++
        blockerIf (action.solendProgramId ≠ auditedSolendProgram) .unsupportedSolendProgram
          "canonical action does not pin the audited mainnet Solend program" ++
        blockerIf (action.inputMint ≠ usdcMint) .unsupportedInputMint
          "canonical action input mint is not mainnet USDC"

def wallClockEligible (funding : FundingSnapshot) (clocks : PreflightClockSnapshot) : Bool :=
  clocks.nowMs < funding.expiresAtMs

def slotClockEligible (rule : WatchRule) (clocks : PreflightClockSnapshot) : Option Bool :=
  clocks.currentConfirmedSlot.map fun slot => slot < rule.expiresAtSlot

/-- Both deadlines must still be open. -/
def clockFindings (funding : FundingSnapshot) (rule : WatchRule)
    (clocks : PreflightClockSnapshot) : List CandidateFinding :=
  blockerIf (¬ wallClockEligible funding clocks) .wallClockExpired
      "now_ms is at or beyond funding.expires_at_ms" ++
    match slotClockEligible rule clocks with
    | some false =>
        [⟨.slotExpired, "current_confirmed_slot is at or beyond WatchRule.expires_at_slot"⟩]
    | none =>
        [⟨.confirmedSlotUnavailable,
          "confirmed slot is unavailable; candidate cannot advance to account reads"⟩]
    | some true => []

/-- The rate condition must be the reviewed one, on the action's own reserve. -/
def rateFindings (rate : SolendReserveSupplyRate) (action : SolendDeposit) :
    List CandidateFinding :=
  blockerIf (rate.reservePubkey ≠ action.reservePubkey ∨
        rate.lendingMarket ≠ action.lendingMarket ∨ rate.solendProgramId ≠ action.solendProgramId)
      .conditionActionMismatch
      "condition reserve, market, or program differs from the canonical action" ++
    blockerIf (rate.rateKind ≠ .apr) .unsupportedRateKind
      "only the native Solend APR condition is supported" ++
    blockerIf (rate.formulaVersion ≠ supportedFormulaVersion) .unsupportedFormulaVersion
      "condition formula_version is not the reviewed WAD formula v1" ++
    blockerIf (rate.maxReserveStalenessSlots ≠ requiredMaxReserveStalenessSlots)
      .unsupportedConditionShape "max_reserve_staleness_slots must equal the reviewed value 16" ++
    blockerIf (¬ rate.requiredRefreshSameTx) .refreshNotRequired
      "canonical deposit must require RefreshReserve in the same transaction"

/-- The one supported condition, with the findings extended by its blockers. -/
def supportedCondition (rule : WatchRule) (action : SolendDeposit)
    (findings : List CandidateFinding) : Option SupportedRateCondition × List CandidateFinding :=
  if rule.conditionLogic ≠ .all ∨ rule.conditions.length ≠ 1 then
    (none, findings ++ [⟨.unsupportedConditionShape,
      "dry-run supports exactly one ALL-combined Solend reserve-rate condition"⟩])
  else
    match rule.conditions with
    | .solendReserveSupplyRate rate :: _ =>
        let findings := findings ++ rateFindings rate action
        if has findings [.unsupportedConditionShape, .unsupportedFormulaVersion,
            .unsupportedRateKind, .refreshNotRequired, .conditionActionMismatch] then
          (none, findings)
        else
          (some ⟨rate.comparison, rate.thresholdBps, rate.maxReserveStalenessSlots⟩, findings)
    | _ =>
        (none, findings ++ [⟨.unsupportedConditionShape,
          "dry-run supports only SolendReserveSupplyRate"⟩])

/-- The threshold must be the funded one, within the supported range. -/
def thresholdFindings (funding : FundingSnapshot) (condition : Option SupportedRateCondition) :
    List CandidateFinding :=
  match condition with
  | none => []
  | some condition =>
      blockerIf (condition.thresholdBps ≠ funding.thresholdBps) .conditionFundingMismatch
          "funding threshold differs from the fingerprint-bound condition threshold" ++
        blockerIf (¬ (1 ≤ condition.thresholdBps ∧
            condition.thresholdBps ≤ maxSupportedThresholdBps)) .thresholdOutOfRange
          "threshold_bps must be in the inclusive supported range 1..=10000"

def comparisonLabel : Comparison → String
  | .lt => "lt"
  | .lte => "lte"
  | .gt => "gt"
  | .gte => "gte"

def conditionReport (condition : SupportedRateCondition) : ConditionReport where
  comparison := comparisonLabel condition.comparison
  thresholdBps := condition.thresholdBps
  thresholdWad := toString (condition.thresholdBps.toNat * bpsWad)
  observedAprWad := none
  observedAprFloorBps := none
  met := none

/-- The supported condition and all findings of a joined candidate. -/
def joinedFindings (funding : FundingSnapshot) (rule : WatchRule)
    (clocks : PreflightClockSnapshot) : Option SupportedRateCondition × List CandidateFinding :=
  let findings := envelopeFindings rule ++ identityFindings funding rule ++
    actionFindings funding rule ++ clockFindings funding rule clocks
  match canonicalDepositAction rule with
  | none => (none, findings)
  | some action =>
      let (condition, findings) := supportedCondition rule action findings
      (condition, findings ++ thresholdFindings funding condition)

def joinedReport (funding : FundingSnapshot) (rule : WatchRule) (clocks : PreflightClockSnapshot) :
    CandidateReport :=
  let action := canonicalDepositAction rule
  let (condition, findings) := joinedFindings funding rule clocks
  { classification := primaryClassification findings
    intentId := some funding.intentId
    ruleIdHex := some (hexEncode rule.ruleId.1)
    findings
    clocks :=
      { nowMs := clocks.nowMs
        fundingExpiresAtMs := some funding.expiresAtMs
        wallClockEligible := some (wallClockEligible funding clocks)
        currentConfirmedSlot := clocks.currentConfirmedSlot
        ruleExpiresAtSlot := some rule.expiresAtSlot
        slotClockEligible := slotClockEligible rule clocks
        reserveLastUpdateSlot := none
        reserveAgeSlots := none
        maxReserveStalenessSlots := condition.map SupportedRateCondition.maxReserveStalenessSlots }
    amounts := some
      { actionInputAmountRaw := action.map fun action => toString action.inputAmountRaw
        ruleMaxInputAmountRaw := some (toString rule.maxInputAmountRaw)
        fundingAmountRaw := some (toString funding.amountRaw)
        allEqualAndNonzero :=
          (action.any fun action => amountsEqual funding rule action) && funding.amountRaw ≠ 0 }
    condition := condition.map conditionReport }

/-- Perform all checks that need no account data. -/
def preflightCandidate (input : CandidateInput) (clocks : PreflightClockSnapshot) :
    PreflightOutcome :=
  match input.funding, input.rule with
  | some funding, some rule =>
      let report := joinedReport funding rule clocks
      match report.findings.isEmpty, canonicalDepositAction rule,
          (joinedFindings funding rule clocks).1 with
      | true, some action, some condition =>
          .needsChain ⟨funding, rule.delegatedWallet, action, condition, report⟩
      | _, _, _ => .blocked report
  | some funding, none =>
      .blocked
        { CandidateReport.bare .orphanFundingOnly
            [⟨.orphanFundingOnly, "budget_reserved funding row has no corresponding WatchRule"⟩]
            clocks.nowMs clocks.currentConfirmedSlot with
          intentId := some funding.intentId
          ruleIdHex := some funding.ruleIdHex }
  | none, some rule =>
      .blocked
        { CandidateReport.bare .orphanRuleOnly
            [⟨.orphanRuleOnly, "WatchRule has no corresponding funding row"⟩]
            clocks.nowMs clocks.currentConfirmedSlot with
          ruleIdHex := some (hexEncode rule.ruleId.1) }
  | none, none =>
      .blocked (CandidateReport.bare .emptyCandidate
        [⟨.emptyCandidate, "candidate contains neither a funding row nor a WatchRule"⟩]
        clocks.nowMs clocks.currentConfirmedSlot)

end SolFrontier.Executor
