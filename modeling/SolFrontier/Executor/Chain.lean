import SolFrontier.Executor.Candidate

/-! # Validation against the chain

`validateChain` judges the accounts read for a prepared deposit, with clocks
sampled after the reads. It accumulates all blockers, and publishes the truth
of the condition only for a reserve observation that is valid.
-/

namespace SolFrontier.Executor

open Foundation Types

def requiredLiquidityMintDecimals : UInt8 := 6

def classicTokenProgram : PubkeyBytes :=
  pinnedPubkey "TokenkegQfeZyiNwAJbNbGKPFXCWuBvf9Ss623VQ5DA" tokenProgram_valid

/-- The two clocks of one pass. -/
structure ClockSnapshot where
  nowMs : Int64
  currentConfirmedSlot : UInt64
  deriving DecidableEq, Repr

structure ReserveFacts where
  address : PubkeyBytes
  accountOwner : PubkeyBytes
  lastUpdateSlot : UInt64
  lastUpdateStale : Bool
  lendingMarket : PubkeyBytes
  liquidityMint : PubkeyBytes
  liquidityMintDecimals : UInt8
  liquiditySupply : PubkeyBytes
  pythOracle : PubkeyBytes
  switchboardOracle : PubkeyBytes
  collateralMint : PubkeyBytes
  collateralSupply : PubkeyBytes
  deriving DecidableEq, Repr

structure ObligationFacts where
  address : PubkeyBytes
  accountOwner : PubkeyBytes
  lendingMarket : PubkeyBytes
  obligationOwner : PubkeyBytes
  deriving DecidableEq, Repr

structure TokenAccountFacts where
  address : PubkeyBytes
  accountOwner : PubkeyBytes
  mint : PubkeyBytes
  tokenOwner : PubkeyBytes
  amountRaw : UInt64
  initialized : Bool
  frozen : Bool
  deriving DecidableEq, Repr

/-- The addresses the adapter derives. -/
structure DerivedAccounts where
  tokenProgram : PubkeyBytes
  sourceLiquidityAta : PubkeyBytes
  collateralAta : PubkeyBytes
  deriving DecidableEq, Repr

structure ChainFacts where
  reserve : ReserveFacts
  obligation : ObligationFacts
  sourceLiquidity : Option TokenAccountFacts
  collateral : Option TokenAccountFacts
  derived : DerivedAccounts
  nativeSupplyAprWad : BitVec 128
  deriving DecidableEq, Repr

inductive ChainOutcome where
  | blocked (report : CandidateReport)
  | ready (plan : ValidatedSolendPlanInputs)
  deriving DecidableEq, Repr

def ChainOutcome.report : ChainOutcome → CandidateReport
  | blocked report => report
  | ready plan => plan.report

/-- Compare a full-precision observation with a threshold in basis points. -/
def compareWad (observedWad : BitVec 128) (comparison : Comparison) (thresholdBps : UInt32) :
    Bool :=
  let thresholdWad : BitVec 128 := BitVec.ofNat 128 thresholdBps.toNat * BitVec.ofNat 128 bpsWad
  match comparison with
  | .lt => observedWad < thresholdWad
  | .lte => observedWad ≤ thresholdWad
  | .gt => thresholdWad < observedWad
  | .gte => thresholdWad ≤ observedWad

/-- Both deadlines must still be open at the final clocks. -/
def finalClockFindings (wallClockEligible slotClockEligible : Bool) : List CandidateFinding :=
  blockerIf (¬ wallClockEligible) .wallClockExpired
      "final now_ms is at or beyond funding.expires_at_ms" ++
    blockerIf (¬ slotClockEligible) .slotExpired
      "final confirmed slot is at or beyond WatchRule.expires_at_slot"

def reserveFindings (action : SolendDeposit) (reserve : ReserveFacts) : List CandidateFinding :=
  blockerIf (reserve.address ≠ action.reservePubkey ∨
        reserve.accountOwner ≠ action.solendProgramId ∨
        reserve.lendingMarket ≠ action.lendingMarket ∨ reserve.liquidityMint ≠ action.inputMint)
      .reserveIdentityMismatch
      "decoded reserve identity differs from the fingerprint-bound action" ++
    blockerIf (reserve.liquidityMintDecimals ≠ requiredLiquidityMintDecimals)
      .unsupportedMintDecimals "the reviewed USDC rail requires reserve liquidity decimals == 6"

def obligationFindings (action : SolendDeposit) (wallet : PubkeyBytes)
    (obligation : ObligationFacts) : List CandidateFinding :=
  blockerIf (obligation.address ≠ action.targetObligation ∨
      obligation.accountOwner ≠ action.solendProgramId ∨
      obligation.lendingMarket ≠ action.lendingMarket ∨ obligation.obligationOwner ≠ wallet)
    .obligationIdentityMismatch
    "decoded obligation identity, market, or owner does not match the rule"

/-- The program, mint, authority or state of a token account is not as required. -/
def TokenAccountFacts.Unusable (account : TokenAccountFacts) (program mint owner : PubkeyBytes) :
    Prop :=
  account.accountOwner ≠ program ∨ account.mint ≠ mint ∨ account.tokenOwner ≠ owner ∨
    ¬ account.initialized ∨ account.frozen
deriving Decidable

def sourceFindings (action : SolendDeposit) (wallet controlledUsdcAta : PubkeyBytes)
    (derived : DerivedAccounts) (sourceLiquidity : Option TokenAccountFacts) :
    List CandidateFinding :=
  blockerIf (derived.sourceLiquidityAta ≠ controlledUsdcAta) .sourceAtaMismatch
      "derived source ATA differs from the funding row" ++
    blockerIf (derived.tokenProgram ≠ classicTokenProgram) .unsupportedTokenProgram
      "derived token program is not the pinned classic SPL Token program" ++
    match sourceLiquidity with
    | none => [⟨.accountMissing, "source liquidity token account is missing"⟩]
    | some source =>
        blockerIf (source.address ≠ derived.sourceLiquidityAta) .sourceAtaMismatch
            "source token account address differs from the derived ATA" ++
          blockerIf (source.Unusable derived.tokenProgram action.inputMint wallet)
            .sourceTokenMismatch
            "source token account program, mint, authority, or state is invalid" ++
          blockerIf (source.amountRaw < action.inputAmountRaw) .sourceBalanceInsufficient
            "source token account balance is smaller than the canonical deposit amount"

def collateralFindings (wallet collateralMint : PubkeyBytes) (derived : DerivedAccounts)
    (collateral : Option TokenAccountFacts) : List CandidateFinding :=
  match collateral with
  | none =>
      [⟨.ataMissing,
        "controlled-wallet collateral ATA does not exist; dry-run never creates it"⟩]
  | some collateral =>
      blockerIf (collateral.address ≠ derived.collateralAta) .collateralAtaMismatch
          "collateral token account address differs from the derived ATA" ++
        blockerIf (collateral.Unusable derived.tokenProgram collateralMint wallet)
          .collateralTokenMismatch
          "collateral token account program, mint, authority, or state is invalid"

/-- The age of the reserve's last update, unless it is newer than the clock. -/
def reserveAgeSlots (reserve : ReserveFacts) (currentConfirmedSlot : UInt64) : Option UInt64 :=
  if reserve.lastUpdateSlot ≤ currentConfirmedSlot then
    some (currentConfirmedSlot - reserve.lastUpdateSlot)
  else none

def freshnessFindings (reserve : ReserveFacts) (currentConfirmedSlot : UInt64)
    (maxReserveStalenessSlots : UInt32) : List CandidateFinding :=
  let age := reserveAgeSlots reserve currentConfirmedSlot
  blockerIf (age = none) .reserveSlotAhead
      "reserve last_update_slot is newer than the confirmed-slot observation" ++
    blockerIf reserve.lastUpdateStale .reserveExplicitlyStale
      "reserve LastUpdate stale flag is set" ++
    blockerIf (age.any fun age => maxReserveStalenessSlots.toUInt64 < age) .reserveTooOld
      "reserve age exceeds max_reserve_staleness_slots"

/-- The findings that make a reserve observation invalid. -/
def observationCodes : List FindingCode :=
  [.reserveIdentityMismatch, .unsupportedMintDecimals, .reserveExplicitlyStale, .reserveSlotAhead,
    .reserveTooOld]

/-- The condition's report with what was observed. -/
def ConditionReport.observed (condition : ConditionReport) (nativeSupplyAprWad : BitVec 128)
    (met : Bool) : ConditionReport :=
  { condition with
    observedAprWad := some (toString nativeSupplyAprWad.toNat)
    observedAprFloorBps := some (toString (nativeSupplyAprWad.toNat / bpsWad))
    met := some met }

/-- Every blocker but the condition itself. -/
def accountFindings (prepared : PreparedDeposit) (facts : ChainFacts)
    (wallClockEligible slotClockEligible : Bool) (currentConfirmedSlot : UInt64) :
    List CandidateFinding :=
  prepared.report.findings ++ finalClockFindings wallClockEligible slotClockEligible ++
    reserveFindings prepared.action facts.reserve ++
    obligationFindings prepared.action prepared.delegatedWallet facts.obligation ++
    sourceFindings prepared.action prepared.delegatedWallet prepared.funding.controlledUsdcAta
      facts.derived facts.sourceLiquidity ++
    collateralFindings prepared.delegatedWallet facts.reserve.collateralMint facts.derived
      facts.collateral ++
    freshnessFindings facts.reserve currentConfirmedSlot prepared.condition.maxReserveStalenessSlots

/-- The truth of the condition, unless a finding invalidates the observation. -/
def publishedCondition (prepared : PreparedDeposit) (facts : ChainFacts)
    (findings : List CandidateFinding) : Option Bool :=
  if has findings observationCodes then none
  else some (compareWad facts.nativeSupplyAprWad prepared.condition.comparison
    prepared.condition.thresholdBps)

/-- The prepared report with the final clocks and everything observed. -/
def chainReport (prepared : PreparedDeposit) (facts : ChainFacts) (finalClocks : ClockSnapshot)
    (wallClockEligible slotClockEligible : Bool) (findings : List CandidateFinding)
    (conditionMet : Option Bool) : CandidateReport :=
  { prepared.report with
    classification := primaryClassification findings
    findings
    clocks :=
      { prepared.report.clocks with
        nowMs := finalClocks.nowMs
        wallClockEligible := some wallClockEligible
        currentConfirmedSlot := some finalClocks.currentConfirmedSlot
        slotClockEligible := some slotClockEligible
        reserveLastUpdateSlot := some facts.reserve.lastUpdateSlot
        reserveAgeSlots := reserveAgeSlots facts.reserve finalClocks.currentConfirmedSlot }
    condition :=
      match conditionMet with
      | none => prepared.report.condition
      | some met =>
          prepared.report.condition.map fun condition =>
            condition.observed facts.nativeSupplyAprWad met }

/-- Validate account identities, reserve freshness and the condition. There is
no outcome for a report without the two deadlines, where the code panics. -/
def validateChain (prepared : PreparedDeposit) (facts : ChainFacts) (finalClocks : ClockSnapshot) :
    Option ChainOutcome := do
  let fundingExpiresAtMs ← prepared.report.clocks.fundingExpiresAtMs
  let ruleExpiresAtSlot ← prepared.report.clocks.ruleExpiresAtSlot
  let wallClockEligible : Bool := finalClocks.nowMs < fundingExpiresAtMs
  let slotClockEligible : Bool := finalClocks.currentConfirmedSlot < ruleExpiresAtSlot
  let found := accountFindings prepared facts wallClockEligible slotClockEligible
    finalClocks.currentConfirmedSlot
  let conditionMet := publishedCondition prepared facts found
  let findings := found ++ blockerIf (conditionMet = some false) .conditionNotMet
    "full-precision native supply APR does not satisfy the canonical condition"
  let report := chainReport prepared facts finalClocks wallClockEligible slotClockEligible findings
    conditionMet
  if findings ≠ [] then some (.blocked report)
  else
    some (.ready
      { solendProgramId := prepared.action.solendProgramId
        inputMint := prepared.action.inputMint
        inputAmountRaw := prepared.action.inputAmountRaw
        sourceLiquidity := facts.derived.sourceLiquidityAta
        userCollateral := facts.derived.collateralAta
        reserve := prepared.action.reservePubkey
        reserveLiquiditySupply := facts.reserve.liquiditySupply
        reserveCollateralMint := facts.reserve.collateralMint
        lendingMarket := prepared.action.lendingMarket
        destinationDepositCollateral := facts.reserve.collateralSupply
        obligation := prepared.action.targetObligation
        obligationOwner := prepared.delegatedWallet
        pythOracle := facts.reserve.pythOracle
        switchboardOracle := facts.reserve.switchboardOracle
        userTransferAuthority := prepared.delegatedWallet
        tokenProgram := facts.derived.tokenProgram
        report })

end SolFrontier.Executor
