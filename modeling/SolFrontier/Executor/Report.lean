/-! # Candidate reports

A dry run reports every simultaneous finding and one primary classification,
selected from the findings in a fixed order of precedence.
-/

namespace SolFrontier.Executor

inductive CandidateClassification where
  | ready
  | orphanFundingOnly
  | orphanRuleOnly
  | emptyCandidate
  | unsupportedAction
  | unsupportedRuleEnvelope
  | unsupportedCondition
  | hashMismatch
  | identityMismatch
  | amountMismatch
  | wallClockExpired
  | slotExpired
  | clockUnavailable
  | reserveStale
  | ataMissing
  | accountMissing
  | accountMismatch
  | sourceBalanceInsufficient
  | conditionNotMet
  deriving DecidableEq, Repr

inductive FindingCode where
  | orphanFundingOnly
  | orphanRuleOnly
  | emptyCandidate
  | unsupportedAction
  | unsupportedSchemaVersion
  | multiUseRule
  | usedAmountNonZero
  | thresholdOutOfRange
  | controlledWalletEnvelopeMismatch
  | unsupportedConditionShape
  | unsupportedFormulaVersion
  | unsupportedRateKind
  | refreshNotRequired
  | conditionActionMismatch
  | conditionFundingMismatch
  | controlledWalletMismatch
  | ruleIdMismatch
  | canonicalHashMismatch
  | amountMismatch
  | amountZero
  | wallClockExpired
  | slotExpired
  | confirmedSlotUnavailable
  | reserveExplicitlyStale
  | reserveSlotAhead
  | reserveTooOld
  | accountMissing
  | ataMissing
  | reserveIdentityMismatch
  | obligationIdentityMismatch
  | sourceAtaMismatch
  | sourceTokenMismatch
  | sourceBalanceInsufficient
  | collateralAtaMismatch
  | collateralTokenMismatch
  | unsupportedMintDecimals
  | unsupportedSolendProgram
  | unsupportedInputMint
  | unsupportedTokenProgram
  | conditionNotMet
  deriving DecidableEq, Repr

structure CandidateFinding where
  code : FindingCode
  detail : String
  deriving DecidableEq, Repr

structure ClockReport where
  nowMs : Int64
  fundingExpiresAtMs : Option Int64
  wallClockEligible : Option Bool
  currentConfirmedSlot : Option UInt64
  ruleExpiresAtSlot : Option UInt64
  slotClockEligible : Option Bool
  reserveLastUpdateSlot : Option UInt64
  reserveAgeSlots : Option UInt64
  maxReserveStalenessSlots : Option UInt32
  deriving DecidableEq, Repr

structure AmountReport where
  actionInputAmountRaw : Option String
  ruleMaxInputAmountRaw : Option String
  fundingAmountRaw : Option String
  allEqualAndNonzero : Bool
  deriving DecidableEq, Repr

structure ConditionReport where
  comparison : String
  thresholdBps : UInt32
  thresholdWad : String
  observedAprWad : Option String
  observedAprFloorBps : Option String
  met : Option Bool
  deriving DecidableEq, Repr

structure CandidateReport where
  classification : CandidateClassification
  intentId : Option String
  ruleIdHex : Option String
  findings : List CandidateFinding
  clocks : ClockReport
  amounts : Option AmountReport
  condition : Option ConditionReport
  deriving DecidableEq, Repr

/-- A report about nothing but its findings and the sampled clocks. -/
def CandidateReport.bare (classification : CandidateClassification)
    (findings : List CandidateFinding) (nowMs : Int64) (currentConfirmedSlot : Option UInt64) :
    CandidateReport where
  classification
  intentId := none
  ruleIdHex := none
  findings
  clocks :=
    { nowMs
      fundingExpiresAtMs := none
      wallClockEligible := none
      currentConfirmedSlot
      ruleExpiresAtSlot := none
      slotClockEligible := none
      reserveLastUpdateSlot := none
      reserveAgeSlots := none
      maxReserveStalenessSlots := none }
  amounts := none
  condition := none

def has (findings : List CandidateFinding) (needles : List FindingCode) : Bool :=
  findings.any fun finding => needles.contains finding.code

/-- The first class, in order of precedence, that some finding belongs to. -/
def primaryClassification (findings : List CandidateFinding) : CandidateClassification :=
  if has findings [.orphanFundingOnly] then .orphanFundingOnly
  else if has findings [.orphanRuleOnly] then .orphanRuleOnly
  else if has findings [.emptyCandidate] then .emptyCandidate
  else if has findings [.unsupportedAction] then .unsupportedAction
  else if has findings
      [.unsupportedSchemaVersion, .multiUseRule, .usedAmountNonZero, .thresholdOutOfRange,
        .controlledWalletEnvelopeMismatch, .unsupportedSolendProgram, .unsupportedInputMint] then
    .unsupportedRuleEnvelope
  else if has findings
      [.unsupportedConditionShape, .unsupportedFormulaVersion, .unsupportedRateKind,
        .refreshNotRequired] then
    .unsupportedCondition
  else if has findings [.canonicalHashMismatch] then .hashMismatch
  else if has findings
      [.ruleIdMismatch, .conditionActionMismatch, .conditionFundingMismatch,
        .controlledWalletMismatch] then
    .identityMismatch
  else if has findings [.amountMismatch, .amountZero] then .amountMismatch
  else if has findings [.wallClockExpired] then .wallClockExpired
  else if has findings [.slotExpired] then .slotExpired
  else if has findings [.confirmedSlotUnavailable] then .clockUnavailable
  else if has findings [.reserveExplicitlyStale, .reserveSlotAhead, .reserveTooOld] then
    .reserveStale
  else if has findings [.ataMissing] then .ataMissing
  else if has findings [.accountMissing] then .accountMissing
  else if has findings
      [.reserveIdentityMismatch, .obligationIdentityMismatch, .sourceAtaMismatch,
        .sourceTokenMismatch, .collateralAtaMismatch, .collateralTokenMismatch,
        .unsupportedMintDecimals, .unsupportedTokenProgram] then
    .accountMismatch
  else if has findings [.sourceBalanceInsufficient] then .sourceBalanceInsufficient
  else if has findings [.conditionNotMet] then .conditionNotMet
  else .ready

end SolFrontier.Executor
