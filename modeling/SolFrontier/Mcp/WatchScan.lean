import SolFrontier.Mcp.ActionableRule
import SolFrontier.Mcp.DraftIds
import SolFrontier.Mcp.FinalizeMarket
import SolFrontier.Mcp.FinalizedPair
import SolFrontier.Mcp.WatchBuild

/-! # Scanning for candidates

One cycle lists the reserved funding rows and the pending rules, both up to a
limit, and inspects every listed row. Execute mode takes ready intents of a
complete scan only.
-/

namespace SolFrontier.Mcp

open Foundation Types StateStore SolanaCore Executor Protocols

def watchBatchLimit : Nat := 128

def watchFetchLimit : UInt32 := 129

inductive ScanMode where
  | dryRun
  | executePreflight
  deriving DecidableEq, Repr

namespace ScanMode

def reportMode : ScanMode → String
  | dryRun => "dry_run"
  | executePreflight => "execute_preflight"

def databaseAccess : ScanMode → String
  | dryRun => "sqlite_read_only_query_only"
  | executePreflight => "sqlite_read_only_preflight_with_execute_writer"

def assembleUnsigned (mode : ScanMode) : Bool := mode = dryRun

end ScanMode

/-! ## What a cycle reads -/

structure WatchStore where
  funding : W5hFundingTable
  rules : WatchRuleTable

/-- The fields of an account that the code reads. -/
structure Account where
  owner : PubkeyBytes
  data : List UInt8
  deriving DecidableEq, Repr

structure ConfirmedReserveObservation where
  currentConfirmedSlot : UInt64
  reservePubkey : PubkeyBytes
  reserveAccount : Account
  deriving DecidableEq, Repr

/-- What the clock and the chain answer while one candidate is inspected. -/
structure CandidateReadings where
  preflightNowMs : Int64
  confirmedReserve : PubkeyBytes → Except FinalizeMarketReadError ConfirmedReserveObservation
  confirmedAccount : PubkeyBytes → Except FinalizeMarketReadError (Option Account)
  finalSlot : Except FinalizeMarketReadError UInt64
  finalNowMs : Int64

/-- What a cycle reads besides the store. Without a source there is no slot;
the readings of a candidate are looked up by the id of its row. -/
structure ScanReadings where
  confirmedSlot : Option (Except FinalizeMarketReadError UInt64)
  candidate : String → CandidateReadings

/-- The slot a cycle works with, or the reason why there is none. -/
def ScanReadings.sampleSlot (readings : ScanReadings) : Option UInt64 × Option String :=
  match readings.confirmedSlot with
  | some (.ok slot) => (some slot, none)
  | some (.error error) => (none, some error.category)
  | none => (none, some "config_missing")

inductive AccountState where
  | uninitialized
  | initialized
  | frozen
  deriving DecidableEq, Repr

structure SplTokenAccount where
  mint : PubkeyBytes
  owner : PubkeyBytes
  amount : UInt64
  state : AccountState
  deriving DecidableEq, Repr

/-- What the scan takes from other packages. -/
structure ScanPlatform where
  json : RuleJson
  sdk : Sdk
  findProgramAddress : FindProgramAddress
  unpackTokenAccount : List UInt8 → Option SplTokenAccount

/-! ## Reports -/

structure RuleLifecycleReport where
  status : String
  completed : Bool
  revoked : Bool
  executionNonce : UInt64
  deriving DecidableEq, Repr

structure WatchRowReport where
  status : String
  intentId : Option String
  ruleIdHex : Option String
  ruleLifecycle : Option RuleLifecycleReport
  candidate : Option CandidateReport
  errorClass : Option String
  unsignedTransaction : Option UnsignedTransactionReport
  deriving DecidableEq, Repr

def classificationLabel : CandidateClassification → String
  | .ready => "ready"
  | .orphanFundingOnly => "orphan_funding_only"
  | .orphanRuleOnly => "orphan_rule_only"
  | .emptyCandidate => "empty_candidate"
  | .unsupportedAction => "unsupported_action"
  | .unsupportedRuleEnvelope => "unsupported_rule_envelope"
  | .unsupportedCondition => "unsupported_condition"
  | .hashMismatch => "hash_mismatch"
  | .identityMismatch => "identity_mismatch"
  | .amountMismatch => "amount_mismatch"
  | .wallClockExpired => "wall_clock_expired"
  | .slotExpired => "slot_expired"
  | .clockUnavailable => "clock_unavailable"
  | .reserveStale => "reserve_stale"
  | .ataMissing => "ata_missing"
  | .accountMissing => "account_missing"
  | .accountMismatch => "account_mismatch"
  | .sourceBalanceInsufficient => "source_balance_insufficient"
  | .conditionNotMet => "condition_not_met"

namespace WatchRowReport

/-- A row about nothing but its identity. -/
def databaseOnly (status : String) (intentId ruleIdHex : Option String) : WatchRowReport :=
  ⟨status, intentId, ruleIdHex, none, none, none, none⟩

def error (status errorClass : String) (intentId ruleIdHex : Option String) : WatchRowReport :=
  { databaseOnly status intentId ruleIdHex with errorClass := some errorClass }

def fromCandidate (report : CandidateReport) : WatchRowReport :=
  { databaseOnly (classificationLabel report.classification) report.intentId report.ruleIdHex with
    candidate := some report }

/-- A failure after preflight keeps what preflight found out. -/
def candidateError (status errorClass : String) (candidate : CandidateReport) : WatchRowReport :=
  { error status errorClass candidate.intentId candidate.ruleIdHex with
    candidate := some candidate }

def withLifecycle (row : WatchRowReport) (lifecycle : RuleLifecycleReport) : WatchRowReport :=
  { row with ruleLifecycle := some lifecycle }

end WatchRowReport

/-- A row, with the plan of a candidate that is ready. -/
structure CandidateInspection where
  row : WatchRowReport
  plan : Option ValidatedSolendPlanInputs
  deriving DecidableEq, Repr

namespace CandidateInspection

def blocked (row : WatchRowReport) : CandidateInspection := ⟨row, none⟩

/-- The row of a ready plan takes its identity from the plan's report. -/
def ready (plan : ValidatedSolendPlanInputs)
    (unsignedTransaction : Option UnsignedTransactionReport) : CandidateInspection :=
  ⟨{ status := "ready"
     intentId := plan.report.intentId
     ruleIdHex := plan.report.ruleIdHex
     ruleLifecycle := none
     candidate := some plan.report
     errorClass := none
     unsignedTransaction }, some plan⟩

def withLifecycle (inspection : CandidateInspection) (lifecycle : RuleLifecycleReport) :
    CandidateInspection :=
  { inspection with row := inspection.row.withLifecycle lifecycle }

end CandidateInspection

structure WatchCycleReport where
  mode : String
  databaseAccess : String
  currentConfirmedSlot : Option UInt64
  slotErrorClass : Option String
  rows : List WatchRowReport
  summary : List (String × Nat)
  scanErrors : List String
  deriving DecidableEq, Repr

/-! ## Inspecting one candidate -/

/-- An inspection that ends early with a row; no result is a panic. -/
abbrev Inspect (α : Type) := ExceptT WatchRowReport Option α

namespace Inspect

/-- Go on with what the chain answered. -/
def read {α : Type} (audit : CandidateReport) (answer : Except FinalizeMarketReadError α) :
    Inspect α :=
  match answer with
  | .ok value => pure value
  | .error error => throw (.candidateError "chain_read_error" error.category audit)

/-- Go on with what some bytes decode to. -/
def decode {Error α : Type} (audit : CandidateReport) (errorClass : Error → String)
    (decoded : Decode Error α) : Inspect α :=
  ExceptT.mk (decoded.run.map fun decoded => decoded.mapError fun error =>
    .candidateError "decode_error" (errorClass error) audit)

/-- The row where an inspection ended, or its inspection. -/
def finish (inspect : Inspect CandidateInspection) : Option CandidateInspection :=
  inspect.run.map fun
    | .ok inspection => inspection
    | .error row => .blocked row

end Inspect

def decodeTokenAccount (platform : ScanPlatform) (address : PubkeyBytes) :
    Option Account → Decode String (Option TokenAccountFacts)
  | none => pure none
  | some account => do
      let decoded ← orThrow (platform.unpackTokenAccount account.data) "token_account_decode_failed"
      pure (some
        { address
          accountOwner := account.owner
          mint := decoded.mint
          tokenOwner := decoded.owner
          amountRaw := decoded.amount
          initialized := decoded.state = .initialized
          frozen := decoded.state = .frozen })

def reserveFacts (observation : ConfirmedReserveObservation) (decoded : SolendReserveRaw) :
    ReserveFacts where
  address := observation.reservePubkey
  accountOwner := observation.reserveAccount.owner
  lastUpdateSlot := decoded.lastUpdateSlot
  lastUpdateStale := decoded.lastUpdateStale
  lendingMarket := decoded.lendingMarket
  liquidityMint := decoded.liquidityMint
  liquidityMintDecimals := decoded.liquidityMintDecimals
  liquiditySupply := decoded.liquiditySupply
  pythOracle := decoded.pythOracle
  switchboardOracle := decoded.switchboardOracle
  collateralMint := decoded.collateralMint
  collateralSupply := decoded.collateralSupply

/-- Read the accounts of a prepared deposit. -/
def readChainFacts (platform : ScanPlatform) (prepared : PreparedDeposit)
    (readings : CandidateReadings) : Inspect ChainFacts := do
  let audit := prepared.report
  let observation ← Inspect.read audit (readings.confirmedReserve prepared.action.reservePubkey)
  let data := observation.reserveAccount.data
  let reserve ← Inspect.decode audit (fun _ => "reserve_decode_failed") (decodeReserve data)
  let (nativeSupplyAprWad, _) ← Inspect.decode audit FinalizeMarketReadError.category
    (nativeSupplyAprFromReserveData data)
  let obligationAddress := prepared.action.targetObligation
  let obligationAccount ← orThrow
    (← Inspect.read audit (readings.confirmedAccount obligationAddress))
    (.candidateError "account_missing" "obligation_account_missing" audit)
  let obligation ← Inspect.decode audit (fun _ => "obligation_decode_failed")
    (decodeObligation obligationAccount.data)
  let tokenProgram := splTokenProgramId
  let ata mint :=
    deriveAssociatedTokenAddress platform.findProgramAddress prepared.delegatedWallet mint
      tokenProgram
  let sourceLiquidityAta := ata prepared.action.inputMint
  let collateralAta := ata reserve.collateralMint
  let sourceLiquidity ← Inspect.decode audit id (decodeTokenAccount platform sourceLiquidityAta
    (← Inspect.read audit (readings.confirmedAccount sourceLiquidityAta)))
  let collateral ← Inspect.decode audit id (decodeTokenAccount platform collateralAta
    (← Inspect.read audit (readings.confirmedAccount collateralAta)))
  pure
    { reserve := reserveFacts observation reserve
      obligation :=
        { address := obligationAddress
          accountOwner := obligationAccount.owner
          lendingMarket := obligation.lendingMarket
          obligationOwner := obligation.owner }
      sourceLiquidity
      collateral
      derived := { tokenProgram, sourceLiquidityAta, collateralAta }
      nativeSupplyAprWad }

/-- Judge a prepared deposit; the slot is sampled after every account read. -/
def inspectCandidate (platform : ScanPlatform) (prepared : PreparedDeposit)
    (readings : CandidateReadings) (assembleUnsigned : Bool) : Option CandidateInspection :=
  Inspect.finish do
    let facts ← readChainFacts platform prepared readings
    let finalSlot ← Inspect.read prepared.report readings.finalSlot
    match ← (validateChain prepared facts ⟨readings.finalNowMs, finalSlot⟩ : Option ChainOutcome) with
    | .blocked report => pure (.blocked (.fromCandidate report))
    | .ready plan =>
        if assembleUnsigned then
          match ← (buildUnsignedTransaction platform.sdk platform.findProgramAddress plan :
            Option (Except String (Transaction × UnsignedTransactionReport))) with
          | .ok (_, unsigned) => pure (.ready plan (some unsigned))
          | .error errorClass =>
              pure (.blocked (.candidateError "plan_build_error" errorClass plan.report))
        else pure (.ready plan none)

/-- Sixteen bytes in lower-case hexadecimal. -/
def exactRuleId (value : String) : Option (Bytes 16) :=
  if (utf8Bytes value).length ≠ 32 ∨ (utf8Bytes value).any fun byte => !Sidecar.isLowerHex byte then none
  else
    match hexDecode value with
    | .ok bytes => if h : bytes.length = 16 then some ⟨bytes, h⟩ else none
    | .error _ => none

def lifecycleReport (stored : StoredWatchRule) : RuleLifecycleReport where
  status := stored.status.asStr
  completed := stored.completed
  revoked := stored.revoked
  executionNonce := stored.executionNonce

/-- Inspect a listed funding row against its rule. -/
def inspectFundingCandidate (platform : ScanPlatform) (rules : WatchRuleTable)
    (funding : W5hFundingIntent) (readings : ScanReadings) (currentConfirmedSlot : Option UInt64)
    (slotErrorClass : Option String) (assembleUnsigned : Bool) : Option CandidateInspection :=
  let readings' := readings.candidate funding.intentId
  let error status errorClass : WatchRowReport :=
    .error status errorClass (some funding.intentId) (some funding.ruleIdHex)
  if funding.intentId ≠ funding.ruleIdHex then
    some (.blocked (error "identity_mismatch" "funding_intent_rule_id_mismatch"))
  else
    match exactRuleId funding.intentId with
    | none => some (.blocked (error "malformed_funding_row" "invalid_intent_id"))
    | some lookupId =>
        match rules.lookup platform.json lookupId with
        | .error _ => some (.blocked (error "rule_read_error" "state_store_read_failed"))
        | .ok none =>
            some (.blocked (.databaseOnly "orphan_funding_only" (some funding.intentId)
              (some funding.ruleIdHex)))
        | .ok (some storedRule) =>
            let lifecycle := lifecycleReport storedRule
            match ineligibleLifecycle storedRule with
            | some errorClass =>
                some (.blocked
                  ((error "ineligible_rule_lifecycle" errorClass).withLifecycle lifecycle))
            | none =>
                match fundingSnapshot funding with
                | .error errorClass =>
                    some (.blocked
                      ((error "malformed_funding_row" errorClass).withLifecycle lifecycle))
                | .ok snapshot =>
                    match preflightCandidate ⟨some snapshot, some storedRule.rule⟩
                        ⟨readings'.preflightNowMs, currentConfirmedSlot⟩ with
                    | .blocked report =>
                        some (.blocked ((WatchRowReport.fromCandidate report).withLifecycle lifecycle))
                    | .needsChain prepared =>
                        if readings.confirmedSlot.isNone then
                          some (.blocked ((error "chain_unavailable"
                            (slotErrorClass.getD "confirmed_slot_unavailable")).withLifecycle
                              lifecycle))
                        else
                          (inspectCandidate platform prepared readings' assembleUnsigned).map
                            fun inspection => inspection.withLifecycle lifecycle

/-! ## The cycle -/

/-- The rows of a scan up to the limit, and what is wrong with it. -/
def boundedScan {α : Type} (table : String) (listed : Except StoreError (List α)) :
    List α × List String :=
  match listed with
  | .error _ => ([], [table ++ "_scan_failed"])
  | .ok rows =>
      if watchBatchLimit < rows.length then
        (rows.take watchBatchLimit, [table ++ "_scan_truncated"])
      else (rows, [])

def WatchStore.scanFunding (store : WatchStore) : List W5hFundingIntent × List String :=
  boundedScan "funding" (store.funding.listBudgetReserved watchFetchLimit)

def WatchStore.scanRules (json : RuleJson) (store : WatchStore) :
    List StoredWatchRule × List String :=
  boundedScan "watch_rule" (store.rules.listPendingLifecycleLimit json watchFetchLimit)

/-- A pending rule is reported unless it has a funding row. -/
def orphanRow (funding : W5hFundingTable) (stored : StoredWatchRule) : Option WatchRowReport :=
  let ruleIdHex := hexEncode stored.rule.ruleId.1
  match funding.lookup ruleIdHex with
  | .ok (some _) => none
  | .ok none =>
      some ((WatchRowReport.databaseOnly "orphan_rule_only" none (some ruleIdHex)).withLifecycle
        (lifecycleReport stored))
  | .error _ =>
      some ((WatchRowReport.error "funding_read_error" "state_store_read_failed" none
        (some ruleIdHex)).withLifecycle (lifecycleReport stored))

/-- Count one more of a status, keeping the statuses in order. -/
def countStatus (status : String) : List (String × Nat) → List (String × Nat)
  | [] => [(status, 1)]
  | (head, count) :: rest =>
      if status = head then (head, count + 1) :: rest
      else if status < head then (status, 1) :: (head, count) :: rest
      else (head, count) :: countStatus status rest

def summarize (rows : List WatchRowReport) : List (String × Nat) :=
  rows.foldl (fun summary row => countStatus row.status summary) [("total", rows.length)]

def scanCycle (platform : ScanPlatform) (mode : ScanMode) (readings : ScanReadings)
    (store : WatchStore) : Option WatchCycleReport := do
  let (currentConfirmedSlot, slotErrorClass) := readings.sampleSlot
  let (fundingRows, fundingErrors) := store.scanFunding
  let inspections ← fundingRows.mapM fun funding =>
    inspectFundingCandidate platform store.rules funding readings currentConfirmedSlot
      slotErrorClass mode.assembleUnsigned
  let (pendingRules, ruleErrors) := store.scanRules platform.json
  let rows := inspections.map CandidateInspection.row ++
    pendingRules.filterMap (orphanRow store.funding)
  some
    { mode := mode.reportMode
      databaseAccess := mode.databaseAccess
      currentConfirmedSlot
      slotErrorClass
      rows
      summary := summarize rows
      scanErrors := fundingErrors ++ ruleErrors }

/-! ## Taking the ready intents -/

inductive CandidateArtifactError where
  | scanUnsafe
  | duplicateReadyIntent
  | readyRowMissing
  | readyRowMalformed
  deriving DecidableEq, Repr

/-- The ids of the ready rows, each of them once. -/
def collectReady : List WatchRowReport → List String → Except CandidateArtifactError (List String)
  | [], ids => .ok ids
  | row :: rows, ids =>
      match row.intentId with
      | none => .error .readyRowMalformed
      | some intentId =>
          if ids.contains intentId then .error .duplicateReadyIntent
          else collectReady rows (ids ++ [intentId])

/-- Ready intents of a complete scan; any flag of the scan refuses them all. -/
def executeReadyIntentIds (report : WatchCycleReport) :
    Except CandidateArtifactError (List String) :=
  if report.scanErrors ≠ [] then .error .scanUnsafe
  else collectReady (report.rows.filter fun row => row.status = "ready") []

end SolFrontier.Mcp
