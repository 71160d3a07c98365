import SolFrontier.Mcp.Effects
import SolFrontier.Mcp.Propose

/-! # Finalizing a draft

A verified draft is claimed, its watch rule is stored, and then its funding
row. The two inserts are separate statements, and each one recovers from a
failure by reading back what is stored under the same deterministic id, whoever
stored it. The response offers funding instructions only at the very end.
-/

namespace SolFrontier.Mcp

open Foundation Types StateStore Program

def usdcMintBs58 : String := "EPjFWdd5AufqSSqeM2qN1xzybapC8G4wEGGkZwyTDt1v"

def solendReserveBs58 : String := "BgxfHJDzm44T7XG68MYKx7YisTjZu73tVovyZSjJMpmw"

def solendLendingMarketBs58 : String := "4UpD2fh7xH3VP9QQaXtsS1YY3bxzWhtfpks7FatyKvdY"

def solendProgramIdBs58 : String := "So1endDq2YkqhipRh3WViPa8hdiSpxWy6z3Z6tMCpAo"

def solendTargetObligationBs58 : String := "BdFLjCcP9mCy557vNNGVbTUuvHxXsh8hc6jXzaPra1wN"

def memoProgramIdBs58 : String := "MemoSq4gqABAXKb96qnH8TysNcWxMyWCqXgDLGmfcHr"

def controlledWallet : PubkeyBytes := pinnedPubkey controlledWalletBs58 (by decide +kernel)

def solendReserve : PubkeyBytes := pinnedPubkey solendReserveBs58 (by decide +kernel)

def solendLendingMarket : PubkeyBytes := pinnedPubkey solendLendingMarketBs58 (by decide +kernel)

def solendProgramId : PubkeyBytes := pinnedPubkey solendProgramIdBs58 (by decide +kernel)

def solendTargetObligation : PubkeyBytes :=
  pinnedPubkey solendTargetObligationBs58 (by decide +kernel)

def usdcMint : PubkeyBytes := pinnedPubkey usdcMintBs58 (by decide +kernel)

def watchRuleExpirySlots : UInt64 := 480

def signingPageBaseUrl : String := "http://127.0.0.1:8080/index.html"

def fundingWindowMs : Int64 := 180000

def fundingWindowSeconds : Int64 := fundingWindowMs / 1000

def canonicalDepositMappingError : String :=
  "the approved draft cannot be represented as the canonical SolendDeposit action"

/-- `u64::saturating_add`. -/
def saturatingAddU64 (left right : UInt64) : UInt64 :=
  if left.toNat + right.toNat < 2 ^ 64 then left + right else 18446744073709551615

/-- `i64::saturating_add`. -/
def saturatingAddI64 (left right : Int64) : Int64 :=
  .ofInt (max (-2 ^ 63) (min (left.toInt + right.toInt) (2 ^ 63 - 1)))

structure FinalizeIntentParams where
  proposal : ProposeIntentParams
  draftId : String
  draftHash : String
  userWallet : String
  deriving DecidableEq, Repr

/-- Only a failure of the main store is an error; the rest are responses. -/
inductive FinalizeInternalError where
  | stateStore (error : StoreError)
  deriving DecidableEq, Repr

namespace FinalizeMarketReadError

def category : FinalizeMarketReadError → String
  | rpcPoolUnavailable => "rpc_pool_unavailable"
  | slotRequestFailed => "slot_request_failed"
  | reserveRequestFailed => "reserve_request_failed"
  | accountRequestFailed => "account_request_failed"
  | reserveAccountMissing => "reserve_account_missing"
  | reserveDecodeFailed => "reserve_decode_failed"
  | aprComputationFailed => "apr_computation_failed"
  | aprOutOfRange => "apr_out_of_range"
  | saveClientUnavailable => "save_client_unavailable"
  | saveTimeout => "save_timeout"
  | saveRequestFailed => "save_request_failed"
  | saveHttpStatus _ => "save_http_status"
  | saveInvalidResponse => "save_invalid_response"
  | saveIdentityMismatch => "save_identity_mismatch"
  | saveRateInvalid => "save_rate_invalid"

def text : FinalizeMarketReadError → String
  | rpcPoolUnavailable => "Solana RPC pool is unavailable"
  | slotRequestFailed => "Solana confirmed-slot request failed"
  | reserveRequestFailed => "Solana reserve-account request failed"
  | accountRequestFailed => "Solana account request failed"
  | reserveAccountMissing => "the requested Solend reserve account was not found"
  | reserveDecodeFailed => "the pinned Solend reserve account could not be decoded"
  | aprComputationFailed => "Solend native supply APR calculation failed"
  | aprOutOfRange => "Solend native supply APR was outside the accepted range"
  | saveClientUnavailable => "Save market-data HTTP client is unavailable"
  | saveTimeout => "Save market-data request timed out"
  | saveRequestFailed => "Save market-data request failed"
  | saveHttpStatus status =>
      "Save market-data API returned HTTP status " ++ toString status.toNat
  | saveInvalidResponse => "Save market-data response was invalid"
  | saveIdentityMismatch =>
      "Save market-data response did not match the pinned Main Pool USDC reserve"
  | saveRateInvalid => "Save display APY was invalid"

end FinalizeMarketReadError

/-! ## Draft ids -/

/-- The sixteen bytes of hexadecimal text with hyphens after 8, 12, 16 and 20
digits. -/
def parseHyphenated (bytes : List UInt8) : Option (List UInt8) :=
  if bytes[8]? = some 45 ∧ bytes[13]? = some 45 ∧ bytes[18]? = some 45 ∧ bytes[23]? = some 45 then
    (hexPairs (bytes.take 8 ++ (bytes.drop 9).take 4 ++ (bytes.drop 14).take 4 ++
      (bytes.drop 19).take 4 ++ bytes.drop 24)).toOption
  else none

/-- A UUID in its simple, hyphenated, braced or URN form. -/
def parseUuid (value : String) : Option (List UInt8) :=
  let bytes := utf8Bytes value
  if bytes.length = 32 then (hexPairs bytes).toOption
  else if bytes.length = 36 then parseHyphenated bytes
  else if bytes.length = 38 then
    if bytes.head? = some 123 ∧ bytes.getLast? = some 125 then
      parseHyphenated ((bytes.drop 1).take 36)
    else none
  else if bytes.length = 45 then
    if bytes.take 9 = utf8Bytes "urn:uuid:" then parseHyphenated (bytes.drop 9) else none
  else none

def isV4Uuid (value : String) : Bool :=
  (parseUuid value).any fun bytes => bytes[6]?.any fun byte => byte / 16 = 4

/-! ## The canonical rule -/

def validateCanonicalSolendDepositDraft (draft : DraftIntent) : Except String Unit :=
  if draft.action ≠ "deposit" ∨ draft.protocol ≠ "solend" ∨ draft.asset ≠ "USDC" ∨
      draft.displaySource ≠ "save" ∨ draft.comparison ≠ "gt" ∨
      draft.expirySecondsAfterFinalize ≠ 180 ∨ draft.controlledWallet ≠ controlledWalletBs58 ∨
      draft.controlledUsdcAta ≠ controlledUsdcAtaBs58 then
    .error canonicalDepositMappingError
  else .ok ()

/-- The deterministic id: threshold and amount in little-endian bytes, then
four bytes of the controlled wallet. -/
def deriveRuleId (thresholdBps : UInt32) (amountRaw : UInt64) (controlled : PubkeyBytes) :
    Bytes 16 :=
  ⟨Codec.u32.encode thresholdBps ++ Codec.u64.encode amountRaw ++ controlled.bytes.1.take 4, by
    have hwallet := controlled.bytes.2
    have hthreshold : (Codec.u32.encode thresholdBps).length = 4 := Codec.length_leBytes ..
    have hamount : (Codec.u64.encode amountRaw).length = 8 := Codec.length_leBytes ..
    simp only [List.length_append, List.length_take]
    omega⟩

/-- The rule a representable draft stands for at a market slot. -/
def canonicalWatchRule (draft : DraftIntent) (lastCheckedSlot : UInt64) : WatchRule where
  schemaVersion := stage2WatchRuleSchemaV2
  ruleId := deriveRuleId draft.thresholdBps draft.amountRaw controlledWallet
  user := controlledWallet
  executor := controlledWallet
  delegatedWallet := controlledWallet
  createdAtSlot := lastCheckedSlot
  expiresAtSlot := saturatingAddU64 lastCheckedSlot watchRuleExpirySlots
  oneShot := true
  conditionLogic := .all
  conditions :=
    [.solendReserveSupplyRate
      { reservePubkey := solendReserve
        lendingMarket := solendLendingMarket
        solendProgramId := solendProgramId
        comparison := .gt
        thresholdBps := draft.thresholdBps
        rateKind := .apr
        formulaVersion := 1
        maxReserveStalenessSlots := 16
        requiredRefreshSameTx := true }]
  action := .solendDeposit
    { targetObligation := solendTargetObligation
      reservePubkey := solendReserve
      lendingMarket := solendLendingMarket
      solendProgramId := solendProgramId
      inputMint := usdcMint
      inputAmountRaw := draft.amountRaw }
  maxInputAmountRaw := draft.amountRaw
  usedAmountRaw := 0
  destination := controlledWallet
  slippageBps := 0

def buildWatchRule (draft : DraftIntent) (lastCheckedSlot : UInt64) : Except String WatchRule := do
  let _ ← validateCanonicalSolendDepositDraft draft
  .ok (canonicalWatchRule draft lastCheckedSlot)

def canonicalSolendDepositAmountRaw (rule : WatchRule) : Option UInt64 :=
  match rule.action with
  | .solendDeposit action =>
      if action.inputAmountRaw = rule.maxInputAmountRaw then some action.inputAmountRaw else none
  | _ => none

def hasExactSolendDepositAmountInvariant (rule : WatchRule) (fundingAmountRaw : UInt64) : Bool :=
  canonicalSolendDepositAmountRaw rule = some fundingAmountRaw

/-- `str::eq_ignore_ascii_case`. -/
def eqIgnoreAsciiCase (left right : String) : Bool := asciiLower left = asciiLower right

/-- The funding row belongs to the rule under this id and hash. -/
def fundingRowMatchesIdentity (platform : Platform) (funding : W5hFundingIntent)
    (rule : WatchRule) (intentId ruleHash : String) : Bool :=
  if funding.intentId ≠ intentId ∨ funding.ruleIdHex ≠ intentId ∨
      ¬ eqIgnoreAsciiCase funding.canonicalRuleHashHex ruleHash ∨
      funding.controlledWallet ≠ controlledWalletBs58 ∨
      funding.controlledUsdcAta ≠ controlledUsdcAtaBs58 ∨
      ¬ hasExactSolendDepositAmountInvariant rule funding.amountRaw then
    false
  else
    match rule.conditions.head? with
    | some (.solendReserveSupplyRate rate) =>
        if funding.thresholdBps ≠ rate.thresholdBps then false
        else
          match pubkeyFromStr funding.userWallet with
          | none => false
          | some userWallet =>
              (platform.associatedTokenAddress userWallet usdcMint).toBase58 = funding.userUsdcAta
    | _ => false

/-! ## Persistence with recovery -/

/-- Insert the rule; when that fails, take whatever is stored under its id. A
rule that can neither be inserted nor read back goes on unconfirmed. -/
def persistRuleWithLegacyRecovery (fresh : WatchRule) : Program mcpFace (WatchRule × Bool) := do
  match ← request (.rules (.insert fresh)) with
  | .ok _ => pure (fresh, true)
  | .error _ =>
      match ← request (.rules (.get fresh.ruleId)) with
      | .ok (some stored) => pure (stored.rule, true)
      | .ok none => pure (fresh, false)
      | .error _ => pure (fresh, false)

inductive FundingPersistOutcome where
  | inserted (row : W5hFundingIntent)
  | existing (row : W5hFundingIntent)
  deriving DecidableEq, Repr

def FundingPersistOutcome.intoRow : FundingPersistOutcome → W5hFundingIntent
  | inserted row => row
  | existing row => row

def FundingPersistOutcome.isExisting : FundingPersistOutcome → Bool
  | inserted _ => false
  | existing _ => true

/-- Insert the funding row and read back the stored one, whoever inserted it. -/
def persistFundingWithLegacyRecovery (fresh : NewW5hFundingIntent) :
    Program mcpFace (Except FinalizeInternalError FundingPersistOutcome) := do
  match ← request (.funding (.insert fresh)) with
  | .ok _ =>
      match ← request (.funding (.get fresh.intentId)) with
      | .ok (some persisted) => pure (.ok (.inserted persisted))
      | .ok none =>
          pure (.error (.stateStore (.notFound "stage2_w5h_funding_intents" fresh.intentId)))
      | .error readError => pure (.error (.stateStore readError))
  | .error insertError =>
      match ← request (.funding (.get fresh.intentId)) with
      | .ok (some existing) => pure (.ok (.existing existing))
      | .ok none => pure (.error (.stateStore insertError))
      | .error readError => pure (.error (.stateStore readError))

/-! ## Responses -/

def isUnreserved (byte : UInt8) : Bool :=
  (48 ≤ byte && byte ≤ 57) || (65 ≤ byte && byte ≤ 90) || (97 ≤ byte && byte ≤ 122) ||
    byte = 45 || byte = 95 || byte = 46 || byte = 126

/-- An upper-case hexadecimal digit. -/
def upperHexDigit (value : Nat) : Char := "0123456789ABCDEF".toList.getD value '0'

def percentEncodeFragmentComponent (value : String) : String :=
  String.ofList ((utf8Bytes value).flatMap fun byte =>
    if isUnreserved byte then [Char.ofNat byte.toNat]
    else ['%', upperHexDigit (byte.toNat / 16), upperHexDigit (byte.toNat % 16)])

def buildSigningPageUrl (status intentId ruleHash : String) (funding : Json) : String :=
  let payload := Json.object
    [("status", .string status),
     ("funding_actionable", .bool true),
     ("intent_id", .string intentId),
     ("rule_hash", .string ruleHash),
     ("funding", funding)]
  signingPageBaseUrl ++ "#payload=" ++ percentEncodeFragmentComponent payload.render

/-- The memo a payer must attach. -/
def fundingMemo (intentId ruleHash : String) : String :=
  "claw:w5h:" ++ intentId ++ ":" ++ ruleHash

/-- The answer when the rule could not be confirmed. -/
def unconfirmedRuleResponse (params : FinalizeIntentParams) (intentId ruleHash : String)
    (persistedFundingStatus : String) (reusedExistingIntent : Bool) : Json :=
  .object
    [("status", .string "rule_unconfirmed"),
     ("draft_id", .string params.draftId),
     ("draft_hash", .string params.draftHash),
     ("intent_id", .string intentId),
     ("rule_hash", .string ruleHash),
     ("rule_persisted", .bool false),
     ("funding_intent_persisted", .bool true),
     ("persisted_funding_status", .string persistedFundingStatus),
     ("reused_existing_intent", .bool reusedExistingIntent),
     ("funding_actionable", .bool false),
     ("draft_consumed", .bool true),
     ("reason", .string
       ("the monitoring rule could not be confirmed; funding now would be stranded pending " ++
        "manual refund, so no funding instructions were issued"))]

def notActionableResponse (params : FinalizeIntentParams) (current : W5hFundingIntent)
    (intentId ruleHash : String) (reusedExistingIntent expired : Bool) : Json :=
  .object
    [("status", .string current.status.asStr),
     ("draft_id", .string params.draftId),
     ("intent_id", .string intentId),
     ("rule_hash", .string ruleHash),
     ("reused_existing_intent", .bool reusedExistingIntent),
     ("funding_actionable", .bool false),
     ("created_at_ms", .number current.createdAtMs.toInt),
     ("expires_at_ms", .number current.expiresAtMs.toInt),
     ("reason", .string
       (if expired then
          "the persisted funding deadline has elapsed; no funding instructions were issued"
        else
          "the persisted intent has already advanced beyond funding_required; no funding " ++
            "instructions were issued")),
     ("draft_consumed", .bool true)]

def fundingPayload (current : W5hFundingIntent) (intentId ruleHash : String) : Json :=
  .object
    [("user_wallet", .string current.userWallet),
     ("user_usdc_ata", .string current.userUsdcAta),
     ("controlled_wallet", .string current.controlledWallet),
     ("controlled_usdc_ata", .string current.controlledUsdcAta),
     ("mint", .string usdcMintBs58),
     ("decimals", .number 6),
     ("amount_raw", .string (toString current.amountRaw)),
     ("memo", .string (fundingMemo intentId ruleHash)),
     ("memo_program_id", .string memoProgramIdBs58),
     ("instruction_order", .array [.string "memo", .string "transfer_checked"]),
     ("funding_window_seconds", .number fundingWindowSeconds.toInt),
     ("expires_at_ms", .number current.expiresAtMs.toInt)]

def actionableResponse (params : FinalizeIntentParams) (current : W5hFundingIntent)
    (intentId ruleHash : String) (reusedExistingIntent requestWalletMatchesPersisted : Bool) :
    Json :=
  let funding := fundingPayload current intentId ruleHash
  .object
    [("status", .string current.status.asStr),
     ("draft_id", .string params.draftId),
     ("draft_hash", .string params.draftHash),
     ("intent_id", .string intentId),
     ("rule_hash", .string ruleHash),
     ("rule_persisted", .bool true),
     ("reused_existing_intent", .bool reusedExistingIntent),
     ("funding_actionable", .bool true),
     ("created_at_ms", .number current.createdAtMs.toInt),
     ("expires_at_ms", .number current.expiresAtMs.toInt),
     ("funding", funding),
     ("signing_page_url", .string
       (buildSigningPageUrl current.status.asStr intentId ruleHash funding)),
     ("signing", .object
       [("required", .bool true),
        ("performed_by_server", .bool false),
        ("request_wallet_matches_persisted", .bool requestWalletMatchesPersisted),
        ("note", .string
          ("The connected Phantom wallet must equal funding.user_wallet. This MCP server " ++
           "never signs."))])]

def existingIntentConflict (params : FinalizeIntentParams) (intentId : String)
    (persistedStatus : Option String) (reason : String) : Json :=
  .object
    ([("status", .string "existing_intent_conflict"),
      ("draft_id", .string params.draftId),
      ("intent_id", .string intentId)] ++
     (persistedStatus.map fun status => ("persisted_status", .string status)).toList ++
     [("reason", .string reason), ("draft_consumed", .bool true)])

def existingRuleConflict (params : FinalizeIntentParams) (reason : String) : Json :=
  .object
    [("status", .string "existing_rule_conflict"),
     ("draft_id", .string params.draftId),
     ("reason", .string reason),
     ("draft_consumed", .bool true)]

/-! ## The finalize call -/

abbrev FinalizeResult := Except FinalizeInternalError Json

/-- The checks between the stored funding row and the response. -/
def finalizeHandOff (platform : Platform) (params : FinalizeIntentParams)
    (userWallet : PubkeyBytes) (rule : WatchRule) (rulePersisted : Bool)
    (persistence : FundingPersistOutcome) : Program mcpFace FinalizeResult := do
  let intentId := hexEncode rule.ruleId.1
  let ruleHash := hexEncode (canonicalRuleHash rule).1
  let reusedExistingIntent := persistence.isExisting
  let current := persistence.intoRow
  if ¬ rulePersisted then
    pure (.ok (unconfirmedRuleResponse params intentId ruleHash current.status.asStr
      reusedExistingIntent))
  else if ¬ fundingRowMatchesIdentity platform current rule intentId ruleHash then
    pure (.ok (existingIntentConflict params intentId none
      ("the authoritative funding row does not match the persisted WatchRule; no funding " ++
       "instructions were issued")))
  else
    let requestWalletMatchesPersisted := current.userWallet = userWallet.toBase58
    if reusedExistingIntent ∧ ¬ requestWalletMatchesPersisted then
      pure (.ok (existingIntentConflict params intentId (some current.status.asStr)
        ("this deterministic intent id is already bound to a different funding wallet; no " ++
         "funding instructions were issued")))
    else
      let checkedAtMs ← request .nowMs
      let expired := current.expiresAtMs ≤ checkedAtMs
      if current.status ≠ .fundingRequired ∨ expired then
        pure (.ok (notActionableResponse params current intentId ruleHash reusedExistingIntent
          expired))
      else
        pure (.ok (actionableResponse params current intentId ruleHash reusedExistingIntent
          requestWalletMatchesPersisted))

/-- The row a finalize call inserts for its rule. -/
def newFundingIntent (platform : Platform) (draft : DraftIntent)
    (snapshot : FinalizeMarketSnapshot) (userWallet : PubkeyBytes) (rule : WatchRule)
    (amountRaw : UInt64) (createdAtMs : Int64) : NewW5hFundingIntent where
  intentId := hexEncode rule.ruleId.1
  ruleIdHex := hexEncode rule.ruleId.1
  canonicalRuleHashHex := hexEncode (canonicalRuleHash rule).1
  userWallet := userWallet.toBase58
  userUsdcAta := (platform.associatedTokenAddress userWallet usdcMint).toBase58
  controlledWallet := controlledWalletBs58
  controlledUsdcAta := controlledUsdcAtaBs58
  amountRaw
  thresholdBps := draft.thresholdBps
  saveDisplayApyBpsAtCreation := snapshot.saveDisplayApyBps
  nativeOnchainAprBpsAtCreation := snapshot.nativeOnchainAprBps
  createdAtMs
  expiresAtMs := saturatingAddI64 createdAtMs fundingWindowMs

/-- Store the funding row of a rule. -/
def finalizeFunding (platform : Platform) (params : FinalizeIntentParams) (draft : DraftIntent)
    (snapshot : FinalizeMarketSnapshot) (userWallet : PubkeyBytes) (rule : WatchRule)
    (rulePersisted : Bool) (amountRaw : UInt64) : Program mcpFace FinalizeResult := do
  let persistedCreatedAtMs ← request .nowMs
  match ← persistFundingWithLegacyRecovery
      (newFundingIntent platform draft snapshot userWallet rule amountRaw
        persistedCreatedAtMs) with
  | .error error => pure (.error error)
  | .ok persistence => finalizeHandOff platform params userWallet rule rulePersisted persistence

/-- Record the hash of a confirmed rule in the index; its answer changes
nothing. -/
def indexRule (params : FinalizeIntentParams) (rule : WatchRule) (rulePersisted : Bool) :
    Program mcpFace Unit :=
  if rulePersisted then do
    let indexedAtMs ← request .nowMs
    let _ ← request (.indexHash (hexEncode (canonicalRuleHash rule).1) (hexEncode rule.ruleId.1)
      params.draftId params.draftHash indexedAtMs)
    pure ()
  else pure ()

/-- Check the rule under the draft's id, then go on to its funding row. -/
def finalizeRule (platform : Platform) (params : FinalizeIntentParams) (draft : DraftIntent)
    (snapshot : FinalizeMarketSnapshot) (userWallet : PubkeyBytes) (rule : WatchRule)
    (rulePersisted : Bool) : Program mcpFace FinalizeResult :=
  -- The draft was validated above, so building the expected rule cannot fail.
  if rulePersisted ∧ rule ≠ canonicalWatchRule draft rule.createdAtSlot then
    pure (.ok (existingRuleConflict params
      ("the persisted WatchRule with this deterministic id does not match the approved " ++
       "canonical SolendDeposit rule shape")))
  else
    match canonicalSolendDepositAmountRaw rule with
    | none =>
        pure (.ok (existingRuleConflict params
          ("the persisted WatchRule violates the exact SolendDeposit action/rule amount " ++
           "invariant")))
    | some canonicalAmountRaw => do
        indexRule params rule rulePersisted
        finalizeFunding platform params draft snapshot userWallet rule rulePersisted
          canonicalAmountRaw

/-- Read the market and store the rule of a claimed draft. -/
def finalizeClaimed (platform : Platform) (params : FinalizeIntentParams) (draft : DraftIntent)
    (userWallet : PubkeyBytes) : Program mcpFace FinalizeResult := do
  let _ ← request .nowMs
  match ← request .fetchSnapshot with
  | .error error =>
      pure (.ok (.object
        [("status", .string "market_data_error"),
         ("error_class", .string error.category),
         ("reason", .string error.text),
         ("draft_consumed", .bool true)]))
  | .ok snapshot =>
      match buildWatchRule draft snapshot.lastCheckedSlot with
      | .error reason =>
          pure (.ok (.object
            [("status", .string "canonical_action_unsupported"),
             ("reason", .string reason),
             ("draft_consumed", .bool true),
             ("main_database_writes", .number 0)]))
      | .ok freshRule =>
          let (rule, rulePersisted) ← persistRuleWithLegacyRecovery freshRule
          finalizeRule platform params draft snapshot userWallet rule rulePersisted

/-- Claim the draft id, once. -/
def finalizeClaim (platform : Platform) (params : FinalizeIntentParams) (draft : DraftIntent)
    (userWallet : PubkeyBytes) : Program mcpFace FinalizeResult := do
  let draftConsumedAtMs ← request .nowMs
  match ← request (.claimDraft params.draftId params.draftHash draftConsumedAtMs) with
  | .claimed => finalizeClaimed platform params draft userWallet
  | .alreadyConsumed =>
      pure (.ok (.object
        [("status", .string "already_finalized_or_missing"),
         ("draft_id", .string params.draftId)]))
  | .conflict =>
      pure (.ok (.object
        [("status", .string "draft_id_conflict"),
         ("draft_id", .string params.draftId),
         ("reason", .string "draft_id is already bound to a different draft hash")]))
  | .unavailable =>
      pure (.ok (.object
        [("status", .string "sidecar_unavailable"),
         ("reason", .string
           ("the local finalize index is unavailable; no main database row was written"))]))

/-- Finalize an approved draft. -/
def finalizeIntentJson (platform : Platform) (params : FinalizeIntentParams)
    (marketConfigured : Bool) : Program mcpFace FinalizeResult :=
  match validateAndHashDraft params.proposal with
  | .error error =>
      pure (.ok (.object
        [("status", .string "invalid_input"), ("reason", .string error.text)]))
  | .ok (draft, recomputedHash) =>
      if recomputedHash ≠ params.draftHash then
        pure (.ok (.object
          [("status", .string "hash_mismatch"),
           ("draft_id", .string params.draftId),
           ("expected_draft_hash", .string recomputedHash),
           ("provided_draft_hash", .string params.draftHash),
           ("database_writes", .number 0)]))
      else if ¬ isV4Uuid params.draftId then
        pure (.ok (.object
          [("status", .string "invalid_input"),
           ("reason", .string
             "draft_id must be a random UUID v4 returned by propose_intent")]))
      else
        match validateCanonicalSolendDepositDraft draft with
        | .error reason =>
            pure (.ok (.object
              [("status", .string "canonical_action_unsupported"),
               ("reason", .string reason),
               ("draft_consumed", .bool false),
               ("database_writes", .number 0)]))
        | .ok _ =>
            if ¬ marketConfigured then
              pure (.ok (.object
                [("status", .string "config_missing"),
                 ("reason", .string "SOLFRONTIER_RPC_URL is not set"),
                 ("setup", .string
                   ("Set SOLFRONTIER_RPC_URL in the server environment, restart, then retry " ++
                    "finalize with the same unconsumed draft_id")),
                 ("draft_consumed", .bool false)]))
            else
              match pubkeyFromStr (trim params.userWallet) with
              | none =>
                  pure (.ok (.object
                    [("status", .string "invalid_user_wallet"),
                     ("reason", .string "user_wallet must be a valid Solana public key"),
                     ("draft_consumed", .bool false)]))
              | some userWallet => finalizeClaim platform params draft userWallet

end SolFrontier.Mcp
