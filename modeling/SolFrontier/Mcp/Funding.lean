import SolFrontier.Mcp.Finalize

/-! # Confirming a funding transaction

An observed transaction is checked against one funding row, and only then is
the row moved by two compare-and-set statements. The check is pure: it looks at
the transaction and this row, and at no other row.
-/

namespace SolFrontier.Mcp

open Foundation Types StateStore Program

structure ConfirmFundingParams where
  intentId : String
  txSignature : String
  deriving DecidableEq, Repr

def ConfirmationLevel.asStr : ConfirmationLevel → String
  | confirmed => "confirmed"
  | finalized => "finalized"

namespace FundingReadError

def code : FundingReadError → String
  | poolUnavailable => "rpc_pool_unavailable"
  | statusRequestFailed => "signature_status_request_failed"
  | transactionRequestFailed => "transaction_request_failed"
  | responseDecodeFailed => "transaction_response_decode_failed"

def text : FundingReadError → String
  | poolUnavailable => "Solana RPC pool is unavailable"
  | statusRequestFailed => "Solana signature-status request failed"
  | transactionRequestFailed => "Solana transaction request failed"
  | responseDecodeFailed => "Solana transaction response could not be safely decoded"

end FundingReadError

/-! ## Verification -/

inductive VerificationError where
  | onChainFailure
  | memoMismatch
  | funderNotSigner
  | transferMissing
  | wrongMint
  | sourceAtaMismatch
  | receivingAtaMismatch
  | transferAuthorityMismatch
  | transferAmountMismatch
  | tokenDecimalsMismatch
  | sourceBalanceMissing
  | receivingBalanceMissing
  | sourceOwnerMismatch
  | receivingOwnerMismatch
  | sourceDeltaMismatch
  | receivingDeltaMismatch
  | storedAtaMismatch
  deriving DecidableEq, Repr

namespace VerificationError

def code : VerificationError → String
  | onChainFailure => "on_chain_failure"
  | memoMismatch => "memo_mismatch"
  | funderNotSigner => "funder_not_signer"
  | transferMissing => "transfer_checked_missing"
  | wrongMint => "wrong_mint"
  | sourceAtaMismatch => "source_ata_mismatch"
  | receivingAtaMismatch => "receiving_ata_mismatch"
  | transferAuthorityMismatch => "transfer_authority_mismatch"
  | transferAmountMismatch => "transfer_amount_mismatch"
  | tokenDecimalsMismatch => "token_decimals_mismatch"
  | sourceBalanceMissing => "source_balance_missing"
  | receivingBalanceMissing => "receiving_balance_missing"
  | sourceOwnerMismatch => "source_owner_mismatch"
  | receivingOwnerMismatch => "receiving_owner_mismatch"
  | sourceDeltaMismatch => "source_delta_mismatch"
  | receivingDeltaMismatch => "receiving_delta_mismatch"
  | storedAtaMismatch => "stored_ata_mismatch"

def reason : VerificationError → String
  | onChainFailure => "the transaction failed on-chain"
  | memoMismatch => "the exact canonical funding memo is missing"
  | funderNotSigner => "the registered user wallet did not sign the transaction"
  | transferMissing => "no TransferChecked instruction was found"
  | wrongMint => "the transfer or token balance mint is not mainnet USDC"
  | sourceAtaMismatch => "TransferChecked did not debit the registered user ATA"
  | receivingAtaMismatch => "TransferChecked did not credit the registered controlled ATA"
  | transferAuthorityMismatch =>
      "TransferChecked authority is not the registered user wallet"
  | transferAmountMismatch => "TransferChecked amount does not exactly match intent"
  | tokenDecimalsMismatch => "TransferChecked or token balance decimals are not 6"
  | sourceBalanceMissing => "the registered user ATA balance proof is incomplete"
  | receivingBalanceMissing => "the registered controlled ATA balance proof is incomplete"
  | sourceOwnerMismatch => "the source ATA is not owned by the registered user"
  | receivingOwnerMismatch => "the receiving ATA is not owned by the controlled wallet"
  | sourceDeltaMismatch => "the registered user ATA did not decrease by the exact amount"
  | receivingDeltaMismatch => "the controlled ATA did not increase by the exact amount"
  | storedAtaMismatch => "stored token accounts are not the owners' canonical USDC ATAs"

end VerificationError

def usdcTokenDecimals : UInt8 := 6

/-- Both token accounts of the row are the canonical ones of their owners. -/
def validateStoredAtas (platform : Platform) (intent : W5hFundingIntent) :
    Except VerificationError Unit :=
  match pubkeyFromStr usdcMintBs58, pubkeyFromStr intent.userWallet,
      pubkeyFromStr intent.controlledWallet with
  | some mint, some user, some controlled =>
      if (platform.associatedTokenAddress user mint).toBase58 ≠ intent.userUsdcAta ∨
          (platform.associatedTokenAddress controlled mint).toBase58 ≠
            intent.controlledUsdcAta then
        .error .storedAtaMismatch
      else .ok ()
  | _, _, _ => .error .storedAtaMismatch

/-- The transfer makes the payment the row asks for. -/
def transferMatches (intent : W5hFundingIntent) (transfer : ObservedTransferChecked) : Bool :=
  transfer.source = intent.userUsdcAta ∧ transfer.destination = intent.controlledUsdcAta ∧
    transfer.mint = usdcMintBs58 ∧ transfer.authority = intent.userWallet ∧
    transfer.amountRaw = intent.amountRaw ∧ transfer.decimals = usdcTokenDecimals

/-- The error to report when no transfer matches, from the first one. -/
def diagnoseTransferMismatch (transfer : Option ObservedTransferChecked)
    (intent : W5hFundingIntent) : VerificationError :=
  match transfer with
  | none => .transferMissing
  | some transfer =>
      if transfer.mint ≠ usdcMintBs58 then .wrongMint
      else if transfer.source ≠ intent.userUsdcAta then .sourceAtaMismatch
      else if transfer.destination ≠ intent.controlledUsdcAta then .receivingAtaMismatch
      else if transfer.authority ≠ intent.userWallet then .transferAuthorityMismatch
      else if transfer.amountRaw ≠ intent.amountRaw then .transferAmountMismatch
      else if transfer.decimals ≠ usdcTokenDecimals then .tokenDecimalsMismatch
      else .transferMissing

def findBalance (balances : List ObservedTokenBalance) (account : String) :
    Option ObservedTokenBalance :=
  balances.find? fun balance => balance.account = account

def validateBalanceIdentity (balance : ObservedTokenBalance) (expectedOwner : String)
    (source : Bool) : Except VerificationError Unit :=
  if balance.mint ≠ usdcMintBs58 then .error .wrongMint
  else if balance.decimals ≠ usdcTokenDecimals then .error .tokenDecimalsMismatch
  else if balance.owner ≠ expectedOwner then
    .error (if source then .sourceOwnerMismatch else .receivingOwnerMismatch)
  else .ok ()

/-- `u64::checked_sub`. -/
def checkedSubU64 (left right : UInt64) : Option UInt64 :=
  if right ≤ left then some (left - right) else none

/-- A balance change that must be exactly the amount of the row. -/
def validateDelta (delta : Option UInt64) (amountRaw : UInt64) (error : VerificationError) :
    Except VerificationError Unit :=
  match delta with
  | none => .error error
  | some delta => if delta ≠ amountRaw then .error error else .ok ()

/-- The user's account lost the amount. -/
def verifySource (tx : ObservedFundingTransaction) (intent : W5hFundingIntent) :
    Except VerificationError Unit :=
  match findBalance tx.preTokenBalances intent.userUsdcAta,
      findBalance tx.postTokenBalances intent.userUsdcAta with
  | some sourcePre, some sourcePost => do
      validateBalanceIdentity sourcePre intent.userWallet true
      validateBalanceIdentity sourcePost intent.userWallet true
      validateDelta (checkedSubU64 sourcePre.amountRaw sourcePost.amountRaw) intent.amountRaw
        .sourceDeltaMismatch
  | _, _ => .error .sourceBalanceMissing

/-- The controlled account gained the amount; it may not have existed before. -/
def verifyReceiving (tx : ObservedFundingTransaction) (intent : W5hFundingIntent) :
    Except VerificationError Unit :=
  let receivingPre := findBalance tx.preTokenBalances intent.controlledUsdcAta
  match findBalance tx.postTokenBalances intent.controlledUsdcAta with
  | none => .error .receivingBalanceMissing
  | some receivingPost => do
      receivingPre.forM fun balance =>
        validateBalanceIdentity balance intent.controlledWallet false
      validateBalanceIdentity receivingPost intent.controlledWallet false
      validateDelta
        (checkedSubU64 receivingPost.amountRaw
          (receivingPre.elim 0 ObservedTokenBalance.amountRaw))
        intent.amountRaw .receivingDeltaMismatch

/-- Check an observed transaction against one row. -/
def verifyFundingTransaction (platform : Platform) (tx : ObservedFundingTransaction)
    (intent : W5hFundingIntent) : Except VerificationError Unit :=
  if ¬ tx.succeeded then .error .onChainFailure
  else if ¬ tx.memos.any (· = fundingMemo intent.intentId intent.canonicalRuleHashHex) then
    .error .memoMismatch
  else if ¬ tx.signerPubkeys.any (· = intent.userWallet) then .error .funderNotSigner
  else do
    validateStoredAtas platform intent
    if (tx.transferChecked.find? (transferMatches intent)).isNone then
      .error (diagnoseTransferMismatch tx.transferChecked.head? intent)
    else do
      verifySource tx intent
      verifyReceiving tx intent

/-! ## The rule of a row -/

def watchRuleMatchesIntent (rule : StoredWatchRule) (intent : W5hFundingIntent) : Bool :=
  hexEncode rule.rule.ruleId.1 = intent.intentId ∧ intent.ruleIdHex = intent.intentId ∧
    eqIgnoreAsciiCase (hexEncode rule.canonicalRuleHash.1) intent.canonicalRuleHashHex ∧
    rule.rule.maxInputAmountRaw = intent.amountRaw ∧
    rule.rule.destination.toBase58 = intent.controlledWallet

/-- A lower-case hexadecimal digit. -/
def isLowerHexByte (byte : UInt8) : Bool := (48 ≤ byte ∧ byte ≤ 57) ∨ (97 ≤ byte ∧ byte ≤ 102)

theorem isLowerHexByte_hexDigitByte {value : Nat} (hvalue : value < 16) :
    isLowerHexByte (hexDigitByte value) = true := by
  interval_cases value <;> rfl

def decodeRuleId (value : String) : Option (Bytes 16) :=
  let bytes := utf8Bytes value
  if bytes.length ≠ 32 ∨ ¬ bytes.all isLowerHexByte then none
  else
    match hexPairs bytes with
    | .error _ => none
    | .ok output => if h : output.length = 16 then some ⟨output, h⟩ else none

theorem decodeRuleId_hexEncode (id : Bytes 16) : decodeRuleId (hexEncode id.1) = some id := by
  have hlength : (utf8Bytes (hexEncode id.1)).length = 32 := by
    simp [utf8Bytes_hexEncode, List.length_flatMap, id.2]
  have hdigits : (utf8Bytes (hexEncode id.1)).all isLowerHexByte = true := by
    rw [utf8Bytes_hexEncode, List.all_flatMap, List.all_eq_true]
    intro byte _
    have hbound := byte.toNat_lt
    simp [isLowerHexByte_hexDigitByte (show byte.toNat / 16 < 16 by omega),
      isLowerHexByte_hexDigitByte (show byte.toNat % 16 < 16 by omega)]
  unfold decodeRuleId
  dsimp only
  rw [if_neg (by simp [hlength, hdigits]), hexPairs_hexEncode]
  simp [id.2]

/-- A text that names a signature. The SDK's extra bound on the length of the
text rejects nothing that the byte count does not. -/
def signatureFromStr (text : String) : Option Signature :=
  (base58Decode text).bind fun bytes => if h : bytes.length = 64 then some ⟨bytes, h⟩ else none

theorem trim_of_signatureFromStr {text : String} (hsignature : (signatureFromStr text).isSome = true) :
    trim text = text := by
  obtain ⟨signature, hread⟩ := Option.isSome_iff_exists.mp hsignature
  obtain ⟨bytes, hdecode, _⟩ := Option.bind_eq_some_iff.mp hread
  exact trim_of_base58Decode hdecode

/-! ## Responses -/

/-- A number, or null. -/
def jsonSlot (slot : Option UInt64) : Json :=
  slot.elim .null fun slot => .number slot.toNat

def lateFunding (arrivedAfterFundingDeadline : Bool) : Json :=
  if arrivedAfterFundingDeadline then
    .object
      [("refundable", .bool true),
       ("automatic_refund_available", .bool false),
       ("manual_refund_required", .bool true),
       ("notice", .string "此入金於過期後到達，已記錄為可退款；退款目前需人工處理"),
       ("warning", .string
         ("funds may remain in the controlled ATA until the manual refund procedure is " ++
          "performed"))]
  else .null

def successResponse (intent : W5hFundingIntent) (storedRule : StoredWatchRule)
    (txSignature : String) (observedSlot : Option UInt64) (observedBlockTimeMs : Option Int64)
    (confirmation : String) (nowMs : Int64) (idempotent : Bool) : Json :=
  let fundingArrivalTimeMs := observedBlockTimeMs.getD nowMs
  let arrivedAfterFundingDeadline := decide (intent.expiresAtMs ≤ fundingArrivalTimeMs)
  .object
    [("status", .string "budget_reserved"),
     ("intent_id", .string intent.intentId),
     ("tx_signature", .string txSignature),
     ("funding_finalized_slot", jsonSlot observedSlot),
     ("confirmation_level", .string confirmation),
     ("required_commitment", .string "confirmed"),
     ("idempotent", .bool idempotent),
     ("amount_raw", .string (toString intent.amountRaw)),
     ("funding_row_expires_at_ms", .number intent.expiresAtMs.toInt),
     ("funding_deadline_basis", .string "funding_row.expires_at_ms"),
     ("funding_arrival_time_ms", .number fundingArrivalTimeMs.toInt),
     ("funding_arrival_time_source", .string
       (if observedBlockTimeMs.isSome then "funding_transaction.blockTime"
        else "confirmation_clock_fallback")),
     ("arrived_after_funding_deadline", .bool arrivedAfterFundingDeadline),
     ("watch_rule", .object
       [("expires_at_slot", .number storedRule.rule.expiresAtSlot.toNat),
        ("funding_transaction_slot", jsonSlot observedSlot),
        ("expired_at_funding_slot", .bool
          (observedSlot.any fun slot => storedRule.rule.expiresAtSlot ≤ slot)),
        ("purpose", .string
          ("the 480-slot WatchRule deadline determines whether the executor can obtain a " ++
           "lease"))]),
     ("late_funding", lateFunding arrivedAfterFundingDeadline)]

/-- An answer that names the intent, a reason and no write. -/
def noWriteResponse (status intentId : String) (members : List (String × Json)) (reason : String) :
    Json :=
  .object ([("status", .string status), ("intent_id", .string intentId)] ++ members ++
    [("reason", .string reason), ("database_writes", .number 0)])

def invalidInput (reason : String) : Json :=
  .object [("status", .string "invalid_input"), ("reason", .string reason)]

def pendingConfirmation (intentId txSignature : String) : Json :=
  .object
    [("status", .string "pending_confirmation"),
     ("intent_id", .string intentId),
     ("tx_signature", .string txSignature),
     ("required_commitment", .string "confirmed"),
     ("retryable", .bool true),
     ("database_writes", .number 0)]

/-! ## The confirm call -/

inductive ConfirmFundingInternalError where
  | stateStore (error : StoreError)
  deriving DecidableEq, Repr

abbrev ConfirmResult := Except ConfirmFundingInternalError Json

/-- Report what a lost transition left behind. -/
def resolveTransitionRace (storedRule : StoredWatchRule) (intentId txSignature : String)
    (observation : ObservedFundingTransaction) (nowMs : Int64) :
    Program mcpFace ConfirmResult := do
  match ← request (.funding (.get intentId)) with
  | .error error => pure (.error (.stateStore error))
  | .ok none =>
      pure (.ok (.object
        [("status", .string "state_conflict"),
         ("intent_id", .string intentId),
         ("reason", .string "the intent disappeared during the state transition")]))
  | .ok (some current) =>
      if current.status = .budgetReserved ∧ current.fundingSignature = some txSignature then
        pure (.ok (successResponse current storedRule txSignature
          (current.fundingFinalizedSlot <|> some observation.slot) observation.blockTimeMs
          observation.confirmation.asStr nowMs true))
      else if current.status = .fundingSubmitted ∧ current.fundingSignature = some txSignature then
        pure (.ok (.object
          [("status", .string "funding_submitted"),
           ("intent_id", .string intentId),
           ("tx_signature", .string txSignature),
           ("retryable", .bool true),
           ("reason", .string
             ("the verified signature is recorded but budget reservation did not complete; " ++
              "retry confirm_funding with the same signature")),
           ("mark_funding_invalid_called", .bool false)]))
      else
        pure (.ok (.object
          [("status", .string "state_conflict"),
           ("intent_id", .string intentId),
           ("current_status", .string current.status.asStr),
           ("reason", .string "the intent changed state or signature during confirmation")]))

/-- A transition that wrote no row: read the clock, then see who won. -/
def transitionLost (storedRule : StoredWatchRule) (intentId txSignature : String)
    (observation : ObservedFundingTransaction) : Program mcpFace ConfirmResult := do
  let nowMs ← request .nowMs
  resolveTransitionRace storedRule intentId txSignature observation nowMs

/-- The two transitions of a verified row. -/
def confirmTransitions (storedRule : StoredWatchRule) (intentId txSignature : String)
    (observation : ObservedFundingTransaction) : Program mcpFace ConfirmResult := do
  match ← request (.funding (.markFundingSubmittedIfRequired intentId txSignature)) with
  | .error error => pure (.error (.stateStore error))
  | .ok submitted =>
      if submitted = 0 then transitionLost storedRule intentId txSignature observation
      else do
        match ← request (.funding
            (.markBudgetReservedIfSubmitted intentId txSignature observation.slot)) with
        | .error error => pure (.error (.stateStore error))
        | .ok reserved =>
            if reserved = 0 then transitionLost storedRule intentId txSignature observation
            else do
              match ← request (.funding (.get intentId)) with
              | .error error => pure (.error (.stateStore error))
              | .ok none =>
                  pure (.ok (.object
                    [("status", .string "state_conflict"),
                     ("intent_id", .string intentId),
                     ("reason", .string "the intent disappeared after the state transition")]))
              | .ok (some current) => do
                  let nowMs ← request .nowMs
                  pure (.ok (successResponse current storedRule txSignature
                    (some observation.slot) observation.blockTimeMs
                    observation.confirmation.asStr nowMs false))

/-- Verify an observed transaction, then accept it. A row that is reserved
already is verified again all the same. -/
def confirmObserved (platform : Platform) (intent : W5hFundingIntent)
    (storedRule : StoredWatchRule) (alreadyReserved : Bool) (intentId txSignature : String)
    (observation : ObservedFundingTransaction) : Program mcpFace ConfirmResult :=
  match verifyFundingTransaction platform observation intent with
  | .error error =>
      pure (.ok (noWriteResponse "verification_failed" intentId
        [("tx_signature", .string txSignature), ("reason_code", .string error.code)]
        error.reason))
  | .ok _ =>
      if alreadyReserved then
        if intent.fundingFinalizedSlot.any fun slot => slot ≠ observation.slot then
          pure (.ok (noWriteResponse "intent_integrity_error" intentId []
            "the stored funding slot does not match the verified transaction"))
        else do
          let nowMs ← request .nowMs
          pure (.ok (successResponse intent storedRule txSignature
            (intent.fundingFinalizedSlot <|> some observation.slot) observation.blockTimeMs
            observation.confirmation.asStr nowMs true))
      else confirmTransitions storedRule intentId txSignature observation

/-- Read the transaction of a row that may still be confirmed. -/
def confirmRead (platform : Platform) (intent : W5hFundingIntent) (storedRule : StoredWatchRule)
    (readerConfigured alreadyReserved : Bool) (intentId txSignature : String) :
    Program mcpFace ConfirmResult :=
  if ¬ readerConfigured then
    pure (.ok (.object
      [("status", .string "config_missing"),
       ("intent_id", .string intentId),
       ("reason", .string "SOLFRONTIER_RPC_URL is not set"),
       ("setup", .string
         ("Set SOLFRONTIER_RPC_URL in the server environment, restart, then retry " ++
          "confirm_funding")),
       ("database_writes", .number 0)]))
  else do
    match ← request (.readFundingTransaction txSignature) with
    | .error error =>
        pure (.ok (.object
          [("status", .string "rpc_error"),
           ("intent_id", .string intentId),
           ("error_class", .string error.code),
           ("reason", .string error.text),
           ("retryable", .bool true),
           ("database_writes", .number 0)]))
    | .ok .pending => pure (.ok (pendingConfirmation intentId txSignature))
    | .ok (.confirmed observation) =>
        confirmObserved platform intent storedRule alreadyReserved intentId txSignature
          observation

/-- Whether a row may be confirmed with a signature, and whether it is reserved
with it already. -/
def alreadyReserved (intent : W5hFundingIntent) (intentId txSignature : String) :
    Except Json Bool :=
  match intent.status with
  | .fundingRequired => .ok false
  | .budgetReserved | .fundingSubmitted =>
      if intent.fundingSignature = some txSignature then
        .ok (decide (intent.status = .budgetReserved))
      else
        .error (noWriteResponse "signature_conflict" intentId
          [("current_status", .string intent.status.asStr)]
          "this intent is already bound to a different funding signature")
  | _ =>
      .error (noWriteResponse "state_conflict" intentId
        [("current_status", .string intent.status.asStr)]
        "this lifecycle state cannot accept funding confirmation")

/-- Join a row with its rule before anything is read from the chain. -/
def confirmIntent (platform : Platform) (intent : W5hFundingIntent) (readerConfigured : Bool)
    (ruleId : Bytes 16) (intentId txSignature : String) : Program mcpFace ConfirmResult := do
  match ← request (.rules (.get ruleId)) with
  | .error error => pure (.error (.stateStore error))
  | .ok none =>
      pure (.ok (noWriteResponse "rule_unavailable" intentId []
        "the authoritative WatchRule is missing; funding was not accepted"))
  | .ok (some storedRule) =>
      if ¬ watchRuleMatchesIntent storedRule intent then
        pure (.ok (noWriteResponse "intent_integrity_error" intentId []
          ("the authoritative WatchRule and funding row do not have the same canonical " ++
           "identity")))
      else
        match alreadyReserved intent intentId txSignature with
        | .error response => pure (.ok response)
        | .ok reserved =>
            confirmRead platform intent storedRule readerConfigured reserved intentId
              txSignature

/-- Confirm a user-signed funding transaction. -/
def confirmFundingJson (platform : Platform) (params : ConfirmFundingParams)
    (readerConfigured : Bool) : Program mcpFace ConfirmResult :=
  let intentId := trim params.intentId
  let txSignature := trim params.txSignature
  match decodeRuleId intentId with
  | none =>
      pure (.ok (invalidInput "intent_id must be exactly 32 lowercase hexadecimal characters"))
  | some ruleId =>
      if (signatureFromStr txSignature).isNone then
        pure (.ok (invalidInput "tx_signature must be a valid base58 Solana signature"))
      else do
        match ← request (.funding (.get intentId)) with
        | .error error => pure (.error (.stateStore error))
        | .ok none =>
            pure (.ok (.object
              [("status", .string "not_found"), ("intent_id", .string intentId)]))
        | .ok (some intent) =>
            confirmIntent platform intent readerConfigured ruleId intentId txSignature

end SolFrontier.Mcp
