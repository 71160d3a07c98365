import SolFrontier.Mcp.Effects
import SolFrontier.RiskEngine.Policy
import SolFrontier.WalletEngine.Review

/-! # Review and signing with the controlled wallet

The wallet checks the builder's transaction against the canonical deposit of
the plan, simulates it, has it audited, checks it again, asks the policy and
signs. The signer is wrapped, so that exactly what it signed is captured, and
the captured bytes are checked once more when they are taken.
-/

namespace SolFrontier.Mcp

open Foundation Types SolanaCore WalletEngine RiskEngine Executor Program

def classicTokenProgram : PubkeyBytes :=
  pinnedPubkey "TokenkegQfeZyiNwAJbNbGKPFXCWuBvf9Ss623VQ5DA" tokenProgram_valid

def solendRefreshReserveTag : UInt8 := 3

def solendDepositAndObligationTag : UInt8 := 14

def expectedDepositAccountCount : Nat := 14

def reviewedComputeUnitLimitData : List UInt8 := [2, 0x80, 0x1a, 0x06, 0]

def reviewedComputeUnitPriceData : List UInt8 := [3, 0x50, 0xc3, 0, 0, 0, 0, 0, 0]

/-- A stable failure class that names no secret. -/
inductive WatchWalletError where
  | keypairConfigMissing
  | keypairReadFailed
  | keypairFormatInvalid
  | controlledWalletMismatch
  | transactionShapeRejected
  | serializationFailed
  | auditOutputFailed
  | auditIntegrityFailed
  | simulationFailed
  | policyRejected
  | policyNotAutoApproved
  | signingFailed
  | signedCaptureMissing
  | captureUnavailable
  | messageBytesChanged
  | signatureInvalid
  deriving DecidableEq, Repr

def WatchWalletError.class : WatchWalletError → String
  | keypairConfigMissing => "controlled_keypair_config_missing"
  | keypairReadFailed => "controlled_keypair_read_failed"
  | keypairFormatInvalid => "controlled_keypair_format_invalid"
  | controlledWalletMismatch => "controlled_wallet_mismatch"
  | transactionShapeRejected => "transaction_shape_rejected"
  | serializationFailed => "transaction_serialization_failed"
  | auditOutputFailed => "execute_transaction_review_serialization_failed_before_signing"
  | auditIntegrityFailed => "execute_transaction_review_integrity_failed_before_signing"
  | simulationFailed => "wallet_pipeline_simulation_failed"
  | policyRejected => "risk_policy_rejected"
  | policyNotAutoApproved => "risk_policy_not_auto_approved"
  | signingFailed => "controlled_wallet_signing_failed"
  | signedCaptureMissing => "signed_transaction_capture_missing"
  | captureUnavailable => "signed_transaction_capture_unavailable"
  | messageBytesChanged => "reviewed_message_bytes_changed"
  | signatureInvalid => "signed_transaction_signature_invalid"

/-- The values that the executor validated and the fingerprint binds. -/
structure CanonicalExecutionPolicy where
  solendProgramId : PubkeyBytes
  inputMint : PubkeyBytes
  inputAmountRaw : UInt64
  sourceLiquidity : PubkeyBytes
  reserveLiquiditySupply : PubkeyBytes
  /-- The builder's message, whose blockhash is a placeholder of zeros. -/
  expectedMessageBytes : List UInt8
  deriving DecidableEq, Repr

/-- What the backend tells the wallet about a plan and what was built for it. -/
def canonicalPolicy (plan : ValidatedSolendPlanInputs) (unsigned : Transaction) :
    CanonicalExecutionPolicy where
  solendProgramId := plan.solendProgramId
  inputMint := plan.inputMint
  inputAmountRaw := plan.inputAmountRaw
  sourceLiquidity := plan.sourceLiquidity
  reserveLiquiditySupply := plan.reserveLiquiditySupply
  expectedMessageBytes := unsigned.message.serialize

/-! ## The shape of the transaction -/

def zeroHash : Hash := Bytes.filled 32 0

def defaultSignature : Signature := ⟨List.replicate 64 0, rfl⟩

/-- The message is the builder's, but for its blockhash. -/
def messageMatchesBuilderTemplate (transaction : Transaction) (expected : List UInt8) : Bool :=
  (transaction.withBlockhash zeroHash).message.serialize = expected

/-- Go on under a condition only. -/
def ensure (condition : Prop) [Decidable condition] (error : WatchWalletError) :
    Except WatchWalletError Unit :=
  if condition then .ok () else .error error

/-- Go on with a value that is present only. -/
def okOr {α : Type} (value : Option α) (error : WatchWalletError) : Except WatchWalletError α :=
  match value with
  | some value => .ok value
  | none => .error error

/-- Go on with the expected shape only. -/
def accept (shape : Prop) [Decidable shape] : Except WatchWalletError Unit :=
  ensure shape .transactionShapeRejected

def accountKey (transaction : Transaction) (index : UInt8) : Except WatchWalletError PubkeyBytes :=
  okOr transaction.message.accountKeys[index.toNat]? .transactionShapeRejected

def instructionAccount (transaction : Transaction) (instruction : CompiledInstruction)
    (position : Nat) : Except WatchWalletError PubkeyBytes := do
  let accountIndex ← okOr instruction.accounts[position]? .transactionShapeRejected
  accountKey transaction accountIndex

/-- An account that is missing is rejected like an account that differs. -/
def validateAccount (transaction : Transaction) (instruction : CompiledInstruction)
    (position : Nat) (expected : PubkeyBytes) : Except WatchWalletError Unit := do
  let account ← instructionAccount transaction instruction position
  accept (account = expected)

/-- One reviewed instruction for the policy. -/
def summarizeInstruction (sdk : Sdk) (transaction : Transaction)
    (canonical : CanonicalExecutionPolicy) (instructionIndex : Nat) (programId : PubkeyBytes)
    (instruction : CompiledInstruction) : Except WatchWalletError InstructionSummary := do
  let accounts ← instruction.accounts.mapM fun index => do
    let pubkey ← accountKey transaction index
    pure
      { pubkey := pubkey.toBase58
        label := none
        isSigner := sdk.isSigner transaction.message index.toNat
        isWritable := sdk.isMaybeWritable transaction.message index.toNat : AccountRole }
  let tokenTransfer : TokenTransfer :=
    { mint := canonical.inputMint.toBase58
      amount := canonical.inputAmountRaw
      decimals := some 6
      source := canonical.sourceLiquidity.toBase58
      destination := canonical.reserveLiquiditySupply.toBase58 }
  pure
    { programId := programId.toBase58
      programName := some (if programId = computeBudgetId then "ComputeBudget" else "Solend")
      description :=
        match instructionIndex with
        | 0 => "set compute unit limit"
        | 1 => "set compute unit price"
        | 2 => "refresh the fingerprint-bound Solend reserve"
        | 3 => "deposit the fingerprint-bound USDC amount"
        | _ => "unsupported instruction"
      transferLamports := none
      tokenTransfer := if instructionIndex = 3 then some tokenTransfer else none
      isLegacyTokenTransfer := false
      accounts }

/-- The four instructions of a deposit, whose programs and data are the
reviewed ones. -/
def validateInstructions (transaction : Transaction) (controlledWallet : PubkeyBytes)
    (canonical : CanonicalExecutionPolicy) (programIds : List PubkeyBytes) :
    List CompiledInstruction → Except WatchWalletError Unit
  | [limit, price, refresh, deposit] => do
      accept (programIds =
          [computeBudgetId, computeBudgetId, auditedSolendProgram, auditedSolendProgram] ∧
        limit.data = reviewedComputeUnitLimitData ∧ price.data = reviewedComputeUnitPriceData)
      accept (refresh.data = [solendRefreshReserveTag])
      accept (deposit.data.length = 9 ∧
        deposit.data.head? = some solendDepositAndObligationTag ∧
        deposit.accounts.length = expectedDepositAccountCount)
      let encodedAmount := UInt64.ofNat (Codec.ofLeBytes ((deposit.data.drop 1).take 8))
      accept (encodedAmount = canonical.inputAmountRaw)
      validateAccount transaction deposit 0 canonical.sourceLiquidity
      validateAccount transaction deposit 3 canonical.reserveLiquiditySupply
      validateAccount transaction deposit 9 controlledWallet
      validateAccount transaction deposit 12 controlledWallet
      validateAccount transaction deposit 13 classicTokenProgram
  | _ => .error .transactionShapeRejected

/-- The transaction is the canonical deposit, signed by nobody yet; it is
summarized for the policy. -/
def validateAndSummarize (sdk : Sdk) (transaction : Transaction) (controlledWallet : PubkeyBytes)
    (canonical : CanonicalExecutionPolicy) : Except WatchWalletError (List InstructionSummary) := do
  accept (canonical.solendProgramId = auditedSolendProgram ∧ canonical.inputMint = Executor.usdcMint ∧
    canonical.inputAmountRaw ≠ 0 ∧
    messageMatchesBuilderTemplate transaction canonical.expectedMessageBytes = true ∧
    transaction.message.instructions.length = 4 ∧
    transaction.message.accountKeys.head? = some controlledWallet ∧
    transaction.message.header.numRequiredSignatures = 1 ∧
    transaction.signatures.length = 1 ∧
    ∀ signature ∈ transaction.signatures, signature = defaultSignature)
  let programIds ← transaction.message.instructions.mapM fun instruction =>
    accountKey transaction instruction.programIdIndex
  validateInstructions transaction controlledWallet canonical programIds
    transaction.message.instructions
  (programIds.zip transaction.message.instructions).zipIdx.mapM
    fun ((programId, instruction), index) =>
      summarizeInstruction sdk transaction canonical index programId instruction

/-! ## The policy of the execution -/

def rejecting (name description reason : String) (condition : PolicyCondition) : PolicyRule where
  name
  description
  condition
  action := .reject reason

/-- Everything but the canonical deposit is rejected. -/
def executionPolicy (canonical : CanonicalExecutionPolicy) : Except WatchWalletError PolicySet := do
  let approvedLimit ←
    okOr (if canonical.inputAmountRaw.toNat + 1 < 2 ^ 64 then
      some (canonical.inputAmountRaw + 1) else none) .transactionShapeRejected
  pure
    { rules :=
        [rejecting "simulation-required" "Reject transactions without a successful simulation"
          "simulation did not pass" .simulationNotPassed,
         rejecting "program-allowlist" "Reject programs outside ComputeBudget and pinned Solend"
          "program outside executor allowlist" .programNotInAllowlist,
         rejecting "legacy-token-transfer" "Reject opaque legacy token transfers"
          "legacy token transfer is not reviewable" .legacyTokenTransferPresent,
         rejecting "usdc-only" "Reject any non-USDC token movement"
          "executor permits only mainnet USDC"
          (.mintNotInAllowlist ["EPjFWdd5AufqSSqeM2qN1xzybapC8G4wEGGkZwyTDt1v"]),
         rejecting "canonical-amount-cap"
          "Reject token movement above the fingerprint-bound amount"
          "amount exceeds canonical intent"
          (.tokenAmountExceeds "EPjFWdd5AufqSSqeM2qN1xzybapC8G4wEGGkZwyTDt1v" approvedLimit),
         { name := "canonical-solend-deposit"
           description := "Approve the fully validated canonical Solend deposit"
           condition := .always
           action := .approve }]
      programAllowlist :=
        [computeBudgetId.toBase58, "So1endDq2YkqhipRh3WViPa8hdiSpxWy6z3Z6tMCpAo"]
      destinationDenylist := [] }

/-! ## The calls of a review -/

/-- Calls to the network and the signer, the audit of the exact transaction
before it is signed, and the clock in seconds. -/
inductive ReviewOp where
  | wallet (op : WalletOp)
  | audit (transaction : Transaction)
  | utcNow
  deriving DecidableEq, Repr

abbrev ReviewOp.Answer : ReviewOp → Type
  | wallet op => op.Answer
  | audit _ => Except WatchWalletError Unit
  | utcNow => Int

abbrev reviewFace : Interface := ⟨ReviewOp, ReviewOp.Answer⟩

def simulationPort : Port pipelineFace reviewFace := ⟨fun op => .wallet (.rpc op), fun _ => .refl _⟩

/-- A review without bytes panicked, or failed with an error. -/
inductive ReviewFailure where
  | panicked
  | failed (error : WatchWalletError)
  deriving DecidableEq, Repr

abbrev ReviewM := ExceptT ReviewFailure (Program reviewFace)

namespace ReviewM

/-- Go on with the value of a computation that succeeds. -/
def check {α : Type} : Except WatchWalletError α → ReviewM α
  | .ok value => ExceptT.mk (pure (.ok value))
  | .error error => ExceptT.mk (pure (.error (.failed error)))

/-- Go on with the result of a program. -/
def ofProgram {α : Type} (program : Program reviewFace α) : ReviewM α :=
  ExceptT.mk do
    let result ← program
    pure (.ok result)

def ask (op : ReviewOp) : ReviewM op.Answer := ofProgram (@perform reviewFace op)

end ReviewM

/-! ## Capturing what was signed -/

structure SignedCapture where
  signature : Signature
  messageBytes : List UInt8
  transactionBytes : List UInt8
  deriving DecidableEq, Repr

/-- The controlled wallet behind the interface. -/
def controlledSigner : SignerRef (Program reviewFace) :=
  fun transaction => @perform reviewFace (.wallet (.signTransaction transaction))

/-- What the capturing signer makes of the inner signer's answer. -/
def captureSigned (before : List UInt8) (transaction : Transaction) (slot : Option SignedCapture) :
    Except WalletError Signature → Except WalletError Signature × Option SignedCapture
  | .error error => (.error error, slot)
  | .ok signature =>
      let after := transaction.message.serialize
      if before ≠ after then
        (.error (.signingFailed "capturing_signer_message_changed"), slot)
      else if slot.isSome then
        (.error (.signingFailed "signed_capture_already_present"), slot)
      else (.ok signature, some
        { signature
          messageBytes := after
          transactionBytes := Transaction.codec.encode transaction })

/-- A signer that keeps what its inner signer signed. -/
def capturingSigner (inner : SignerRef (Program reviewFace)) :
    SignerRef (StateT (Option SignedCapture) (Program reviewFace)) :=
  fun transaction slot => do
    let (signed, answer) ← inner transaction
    let (answer, slot) := captureSigned transaction.message.serialize signed slot answer
    pure ((signed, answer), slot)

/-! ## The reviewed transaction -/

/-- What the code takes from other packages: the SDK, and the verification of a
signature by a key over a message. -/
structure ReviewPlatform where
  sdk : Sdk
  verifySignature : PubkeyBytes → List UInt8 → Signature → Bool

/-- `Transaction::verify`: the signatures belong to the first account keys. -/
def ReviewPlatform.verify (platform : ReviewPlatform) (transaction : Transaction) : Bool :=
  (transaction.signatures.zip transaction.message.accountKeys).all fun (signature, key) =>
    platform.verifySignature key transaction.message.serialize signature

structure ReviewedSignedTransaction where
  signature : Signature
  signerPubkey : PubkeyBytes
  lastValidBlockHeight : UInt64
  approvedMessageBytes : List UInt8
  signedMessageBytes : List UInt8
  signedTransactionBytes : List UInt8
  deriving DecidableEq, Repr

/-- `position`, and the signature in that slot. -/
def signatureOf (transaction : Transaction) (key : PubkeyBytes) :
    Except WatchWalletError Signature := do
  let signerIndex ← okOr (transaction.message.accountKeys.findIdx? (· = key)) .signatureInvalid
  okOr transaction.signatures[signerIndex]? .signatureInvalid

/-- The captured bytes, checked once more. -/
def ReviewedSignedTransaction.submissionBytes (platform : ReviewPlatform)
    (reviewed : ReviewedSignedTransaction) : Except WatchWalletError (List UInt8) := do
  ensure (reviewed.approvedMessageBytes = reviewed.signedMessageBytes) .messageBytesChanged
  let transaction ←
    okOr (Transaction.deserialize reviewed.signedTransactionBytes) .serializationFailed
  let preSubmitMessageBytes := transaction.message.serialize
  ensure (preSubmitMessageBytes = reviewed.approvedMessageBytes ∧
    preSubmitMessageBytes = reviewed.signedMessageBytes) .messageBytesChanged
  let signature ← signatureOf transaction reviewed.signerPubkey
  ensure (reviewed.signature ≠ defaultSignature ∧ signature = reviewed.signature) .signatureInvalid
  ensure (platform.verify transaction = true) .signatureInvalid
  pure reviewed.signedTransactionBytes

/-! ## The review -/

/-- The text of the signature of a pipeline that signed. -/
def signedText : Except WalletError PipelineResult → Except WatchWalletError String
  | .ok (.signed _ _ signature) => .ok signature
  | _ => .error .signingFailed

def takeCapture (slot : Option SignedCapture) : Except WatchWalletError SignedCapture :=
  okOr slot .signedCaptureMissing

/-- The simulation stage of the wallet's pipeline, without a priority fee. -/
def simulateReviewed (sdk : Sdk) (transaction : Transaction) : ReviewM SimulatedTransaction :=
  ExceptT.mk do
    match ← (simulate sdk .none transaction).via simulationPort with
    | none => pure (.error .panicked)
    | some (.error _) => pure (.error (.failed .simulationFailed))
    | some (.ok simulated) => pure (.ok simulated)

/-- What the policy is asked about. -/
def reviewContext (controlledWallet : PubkeyBytes) (intentId : String)
    (summaries : List InstructionSummary) (simulation : SimulationResult) :
    PolicyEvaluationContext where
  proposal :=
    { walletPubkey := controlledWallet.toBase58
      network := .mainnetBeta
      description := "execute canonical Solend deposit for intent " ++ intentId
      instructionsSummary := summaries }
  simulationResult := some simulation
  network := .mainnetBeta
  sessionSpendLamports := 0
  walletDailySpendLamports := 0

/-- Sign an approved transaction through the capturing signer. -/
def signReviewed (controlledWallet : PubkeyBytes) (approved : ApprovedTransaction) :
    ReviewM ReviewedSignedTransaction := do
  let (result, slot) ← .ofProgram
    ((sign (capturingSigner controlledSigner) .automatic approved).run none)
  let pipelineSignature ← .check (signedText result)
  let captured ← .check (takeCapture slot)
  .check (ensure (pipelineSignature = captured.signature.text) .signatureInvalid)
  pure
    { signature := captured.signature
      signerPubkey := controlledWallet
      lastValidBlockHeight := approved.inner.lastValidBlockHeight
      approvedMessageBytes := approved.inner.inner.message.serialize
      signedMessageBytes := captured.messageBytes
      signedTransactionBytes := captured.transactionBytes }

/-- Simulate, have the policy approve, and sign. -/
def reviewAndSign (platform : ReviewPlatform) (controlledWallet : PubkeyBytes) (intentId : String)
    (unsigned : Transaction) (canonical : CanonicalExecutionPolicy) :
    ReviewM ReviewedSignedTransaction := do
  let _ ← .check (validateAndSummarize platform.sdk unsigned controlledWallet canonical)
  let simulated ← simulateReviewed platform.sdk unsigned
  -- Without a record of the audit the signer is out of reach.
  .check (← .ask (.audit simulated.inner))
  let summaries ←
    .check (validateAndSummarize platform.sdk simulated.inner controlledWallet canonical)
  let policy ← .check (executionPolicy canonical)
  let now ← .ask .utcNow
  let context := reviewContext controlledWallet intentId summaries simulated.simulation
  let verdict := (policy.evaluateAt context now).verdict
  let approved ← .check ((evaluatePolicy simulated fun _ => verdict).mapError fun _ =>
    .policyRejected)
  -- A verdict that does not block need not be an approval.
  .check (ensure (approved.policyVerdict.isAutoApproved = true) .policyNotAutoApproved)
  let reviewed ← signReviewed controlledWallet approved
  let _ ← .check (reviewed.submissionBytes platform)
  pure reviewed

/-- The backend of the executor: review what was built for a leased candidate,
and take the bytes. No result is a panic. -/
def executionReviewAndSign (platform : ReviewPlatform) (controlledWallet : PubkeyBytes)
    (candidate : RevalidatedExecutionCandidate) (unsigned : Transaction) :
    Program reviewFace (Option (Except String ReviewedSignedPayload)) := do
  match ← (reviewAndSign platform controlledWallet candidate.intentId unsigned
      (canonicalPolicy candidate.plan unsigned)).run with
  | .error .panicked => pure none
  | .error (.failed error) => pure (some (.error error.class))
  | .ok reviewed =>
      match reviewed.submissionBytes platform with
      | .error error => pure (some (.error error.class))
      | .ok signedTransactionBytes =>
          pure (some (.ok
            { signedTransactionBytes
              signature := reviewed.signature
              lastValidBlockHeight := reviewed.lastValidBlockHeight }))

end SolFrontier.Mcp
