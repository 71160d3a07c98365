import SolFrontier.Executor.ChainGate
import SolFrontier.Mcp.ReviewedMessage
import SolFrontier.Protocols.Solend
import SolFrontier.SolanaCore.Compile

/-! # Builder, reviewer and policy agree

The builder makes one transaction of a ready plan. The wallet's review accepts
it, the policy of the execution approves whatever the review accepts, and the
review accepts no other message but for the blockhash. The accounts of a plan
may coincide in any way.
-/

namespace SolFrontier.Mcp

open Foundation Types SolanaCore RiskEngine Executor Protocols

/-! ## Building -/

def computeUnitLimit : UInt32 := 400000

def computeUnitPriceMicroLamports : UInt64 := 50000

structure AccountMetaReport where
  position : Nat
  pubkey : String
  isSigner : Bool
  isWritable : Bool
  deriving DecidableEq, Repr

structure InstructionReport where
  instructionIndex : Nat
  label : String
  programId : String
  dataHex : String
  accounts : List AccountMetaReport
  deriving DecidableEq, Repr

structure UnsignedTransactionReport where
  kind : String
  sendable : Bool
  feePayer : String
  recentBlockhash : Option String
  transactionBase64 : String
  signatureSlots : Nat
  allSignatureSlotsDefault : Bool
  inputAmountRaw : String
  solendProgramId : String
  inputMint : String
  sourceLiquidity : String
  reserveLiquiditySupply : String
  computeUnitLimit : UInt32
  computeUnitPriceMicroLamports : UInt64
  instructions : List InstructionReport
  deriving DecidableEq, Repr

/-- One instruction for the report; its accounts are counted from one. -/
def instructionReport (instructionIndex : Nat) (label : String) (instruction : Instruction) :
    InstructionReport where
  instructionIndex
  label
  programId := instruction.programId.toBase58
  dataHex := hexEncode instruction.data
  accounts := instruction.accounts.zipIdx.map fun (account, index) =>
    { position := index + 1
      pubkey := account.pubkey.toBase58
      isSigner := account.isSigner
      isWritable := account.isWritable }

/-- `Transaction::new_unsigned`: one default signature for each required one. -/
def newUnsigned (message : Message) : Transaction where
  signatures := List.replicate message.header.numRequiredSignatures.toNat defaultSignature
  message

/-- The plan's reserve, refreshed in the transaction of the deposit. -/
def refreshInputs (plan : ValidatedSolendPlanInputs) : RefreshPlanInputs where
  solendProgramId := plan.solendProgramId
  reserves := [⟨plan.reserve, plan.pythOracle, plan.switchboardOracle⟩]
  obligation := none

def depositInputs (plan : ValidatedSolendPlanInputs) : DepositInstructionInputs where
  solendProgramId := plan.solendProgramId
  amount := plan.inputAmountRaw
  sourceLiquidity := plan.sourceLiquidity
  userCollateral := plan.userCollateral
  reserve := plan.reserve
  reserveLiquiditySupply := plan.reserveLiquiditySupply
  reserveCollateralMint := plan.reserveCollateralMint
  lendingMarket := plan.lendingMarket
  destinationDepositCollateral := plan.destinationDepositCollateral
  obligation := plan.obligation
  obligationOwner := plan.obligationOwner
  pythOracle := plan.pythOracle
  switchboardOracle := plan.switchboardOracle
  userTransferAuthority := plan.userTransferAuthority

/-- The four labelled instructions of a plan, in their order. -/
def planInstructions (findProgramAddress : FindProgramAddress) (plan : ValidatedSolendPlanInputs) :
    Except String (List (String × Instruction)) := do
  let refreshReserve ←
    match (buildRefreshInstructions (refreshInputs plan)).instructions.head? with
    | some instruction => pure instruction
    | none => .error "refresh_plan_empty"
  let deposit ←
    match buildDepositReserveLiquidityAndObligationCollateralInstruction findProgramAddress
      (depositInputs plan) with
    | .ok instruction => pure instruction
    | .error _ => .error "deposit_builder_rejected"
  pure
    [("set_compute_unit_limit", setComputeUnitLimit computeUnitLimit),
     ("set_compute_unit_price", setComputeUnitPrice computeUnitPriceMicroLamports),
     ("refresh_reserve", refreshReserve),
     ("deposit_reserve_liquidity_and_obligation_collateral", deposit)]

/-- The report names the transaction that is built; its blockhash is a
placeholder and it is signed by nobody. -/
def unsignedReport (sdk : Sdk) (plan : ValidatedSolendPlanInputs)
    (instructions : List (String × Instruction)) (transaction : Transaction) :
    UnsignedTransactionReport where
  kind := "unsigned_transaction_with_placeholder_blockhash"
  sendable := false
  feePayer := plan.obligationOwner.toBase58
  recentBlockhash := none
  transactionBase64 := base64Encode (sdk.serialize transaction)
  signatureSlots := transaction.signatures.length
  allSignatureSlotsDefault := transaction.signatures.all (· = defaultSignature)
  inputAmountRaw := toString plan.inputAmountRaw
  solendProgramId := plan.solendProgramId.toBase58
  inputMint := plan.inputMint.toBase58
  sourceLiquidity := plan.sourceLiquidity.toBase58
  reserveLiquiditySupply := plan.reserveLiquiditySupply.toBase58
  computeUnitLimit
  computeUnitPriceMicroLamports
  instructions := instructions.zipIdx.map fun ((label, instruction), index) =>
    instructionReport index label instruction

/-- Assemble the single audited shape. No result is a panic of the compiler. -/
def buildUnsignedTransaction (sdk : Sdk) (findProgramAddress : FindProgramAddress)
    (plan : ValidatedSolendPlanInputs) :
    Option (Except String (Transaction × UnsignedTransactionReport)) :=
  match planInstructions findProgramAddress plan with
  | .error error => some (.error error)
  | .ok instructions => do
      let message ← sdk.newMessage (instructions.map Prod.snd) (some plan.obligationOwner)
      let transaction := newUnsigned message
      some (.ok (transaction, unsignedReport sdk plan instructions transaction))

/-! ## What the review needs of a plan -/

/-- A plan of the audited program, for some of the pinned token, whose deposit
the wallet owns and authorizes. -/
structure Reviewable (plan : ValidatedSolendPlanInputs) (wallet : PubkeyBytes) : Prop where
  audited : plan.solendProgramId = auditedSolendProgram
  usdc : plan.inputMint = Executor.usdcMint
  nonzero : plan.inputAmountRaw ≠ 0
  owner : plan.obligationOwner = wallet
  authority : plan.userTransferAuthority = wallet

theorem reviewable_of_ready {input : CandidateInput} {clocks : PreflightClockSnapshot}
    {prepared : PreparedDeposit} {facts : ChainFacts} {finalClocks : ClockSnapshot}
    {plan : ValidatedSolendPlanInputs}
    (hprepared : preflightCandidate input clocks = .needsChain prepared)
    (hready : validateChain prepared facts finalClocks = some (.ready plan)) :
    Reviewable plan plan.obligationOwner := by
  obtain ⟨funding, rule, deposit, rate, report, hadmissible, rfl⟩ :=
    planInputs_of_ready hprepared hready
  -- The amount of the action is the funded one, which preflight found nonzero.
  have hfunded : deposit.inputAmountRaw = funding.amountRaw :=
    hadmissible.ruleAmount.trans hadmissible.fundedAmount
  exact ⟨hadmissible.program, hadmissible.mint, by simpa [planInputs, hfunded] using
    hadmissible.nonzero, by simp [planInputs], by simp [planInputs]⟩

/-! ## The built message -/

section

variable {sdk : Sdk} (findProgramAddress : FindProgramAddress)
  {plan : ValidatedSolendPlanInputs} {wallet : PubkeyBytes}

def refreshInstruction (plan : ValidatedSolendPlanInputs) : Instruction :=
  refreshReserve plan.solendProgramId ⟨plan.reserve, plan.pythOracle, plan.switchboardOracle⟩

def depositInstruction (findProgramAddress : FindProgramAddress)
    (plan : ValidatedSolendPlanInputs) : Instruction where
  programId := plan.solendProgramId
  accounts :=
    [writable plan.sourceLiquidity false, writable plan.userCollateral false,
     writable plan.reserve false, writable plan.reserveLiquiditySupply false,
     writable plan.reserveCollateralMint false, readonly plan.lendingMarket false,
     readonly (findProgramAddress [plan.lendingMarket.bytes.1] plan.solendProgramId) false,
     writable plan.destinationDepositCollateral false, writable plan.obligation false,
     writable plan.obligationOwner true, readonly plan.pythOracle false,
     readonly plan.switchboardOracle false, readonly plan.userTransferAuthority true,
     readonly splTokenProgramId false]
  data := solendDepositAndObligationTag :: Codec.u64.encode plan.inputAmountRaw

/-- The instructions of a plan, without their labels. -/
def instructionsOf (findProgramAddress : FindProgramAddress) (plan : ValidatedSolendPlanInputs) :
    List Instruction :=
  [setComputeUnitLimit computeUnitLimit, setComputeUnitPrice computeUnitPriceMicroLamports,
    refreshInstruction plan, depositInstruction findProgramAddress plan]

theorem planInstructions_eq_ok (hnonzero : plan.inputAmountRaw ≠ 0) :
    ∃ instructions, planInstructions findProgramAddress plan = .ok instructions ∧
      instructions.map Prod.snd = instructionsOf findProgramAddress plan := by
  have hdeposit : buildDepositReserveLiquidityAndObligationCollateralInstruction
      findProgramAddress (depositInputs plan) = .ok (depositInstruction findProgramAddress plan) := by
    rw [buildDepositReserveLiquidityAndObligationCollateralInstruction]
    exact if_neg hnonzero
  refine ⟨[("set_compute_unit_limit", setComputeUnitLimit computeUnitLimit),
    ("set_compute_unit_price", setComputeUnitPrice computeUnitPriceMicroLamports),
    ("refresh_reserve", refreshInstruction plan),
    ("deposit_reserve_liquidity_and_obligation_collateral",
      depositInstruction findProgramAddress plan)], ?_, by simp [instructionsOf]⟩
  rw [planInstructions, hdeposit]
  rfl

/-- Only the wallet signs: it is the owner and the authority of the deposit. -/
theorem onlySigner_instructionsOf (hreviewable : Reviewable plan wallet) :
    Message.OnlySigner (instructionsOf findProgramAddress plan) wallet := by
  intro instruction hinstruction account haccount hsigner
  simp only [instructionsOf, List.mem_cons, List.not_mem_nil, or_false] at hinstruction
  rcases hinstruction with rfl | rfl | rfl | rfl
  · simp [setComputeUnitLimit] at haccount
  · simp [setComputeUnitPrice] at haccount
  · simp only [refreshInstruction, refreshReserve, List.mem_cons, List.not_mem_nil, or_false]
      at haccount
    rcases haccount with rfl | rfl | rfl | rfl <;> simp [writable, readonly] at hsigner
  · simp only [depositInstruction, List.mem_cons, List.not_mem_nil, or_false] at haccount
    have howner := hreviewable.owner
    have hauthority := hreviewable.authority
    rcases haccount with rfl | rfl | rfl | rfl | rfl | rfl | rfl | rfl | rfl | rfl | rfl | rfl |
      rfl | rfl <;> simp_all [writable, readonly]

/-- The builder gives an unsigned transaction of the plan's four instructions. -/
theorem buildUnsignedTransaction_ok (hcompile : sdk.newMessage = Message.compile)
    (hreviewable : Reviewable plan wallet) :
    ∃ message report, buildUnsignedTransaction sdk findProgramAddress plan =
        some (.ok (newUnsigned message, report)) ∧
      message.header.numRequiredSignatures = 1 ∧ message.accountKeys.head? = some wallet ∧
      message.recentBlockhash = zeroHash ∧
      List.Forall₂ (Lowers message.accountKeys) (instructionsOf findProgramAddress plan)
        message.instructions := by
  obtain ⟨instructions, hplan, hunlabelled⟩ :=
    planInstructions_eq_ok findProgramAddress hreviewable.nonzero
  obtain ⟨message, hmessage, hsigners, hpayer, hhash, hlowers⟩ :=
    Message.compile_onlySigner
      (onlySigner_instructionsOf findProgramAddress hreviewable)
      (by simp [instructionsOf, setComputeUnitLimit, setComputeUnitPrice, refreshInstruction,
        refreshReserve, depositInstruction])
  refine ⟨message, unsignedReport sdk plan instructions (newUnsigned message), ?_, hsigners, hpayer,
    hhash, hlowers⟩
  rw [buildUnsignedTransaction, hplan, hcompile]
  simp [hunlabelled, hreviewable.owner, hmessage]

end

/-! ## The review accepts it -/

section

variable {sdk : Sdk} {findProgramAddress : FindProgramAddress}
  {plan : ValidatedSolendPlanInputs} {wallet : PubkeyBytes}

/-- The positions of a lowered instruction name the accounts of its source. -/
theorem accountOf_of_lowers {message : Message} {instruction : Instruction}
    {compiled : CompiledInstruction} (hlowers : Lowers message.accountKeys instruction compiled)
    (position : Nat) (account : AccountMeta)
    (haccount : instruction.accounts[position]? = some account) :
    accountOf message compiled position = some account.pubkey := by
  obtain ⟨hlt, hget⟩ := List.getElem?_eq_some_iff.mp haccount
  have hlength := hlowers.accounts.length_eq
  have hkey := hlowers.accounts.get hlt (hlength ▸ hlt)
  rw [accountOf, List.getElem?_eq_getElem (hlength ▸ hlt)]
  simpa [hget] using hkey

/-- An instruction whose accounts all exist is summarized. -/
theorem summarizeInstruction_of_lowers {transaction : Transaction} {instruction : Instruction}
    {compiled : CompiledInstruction} {canonical : CanonicalExecutionPolicy} (index : Nat)
    (programId : PubkeyBytes)
    (hlowers : Lowers transaction.message.accountKeys instruction compiled) :
    ∃ summary, summarizeInstruction sdk transaction canonical index programId compiled =
      .ok summary := by
  have haccounts : ∀ position ∈ compiled.accounts, ∃ account, (do
      let pubkey ← accountKey transaction position
      pure
        { pubkey := pubkey.toBase58
          label := none
          isSigner := sdk.isSigner transaction.message position.toNat
          isWritable := sdk.isMaybeWritable transaction.message position.toNat : AccountRole }) =
      Except.ok account := by
    intro position hposition
    obtain ⟨count, hcount, rfl⟩ := List.mem_iff_getElem.mp hposition
    have hkey := hlowers.accounts.get (hlowers.accounts.length_eq ▸ hcount) hcount
    exact ⟨_, bind_eq_ok.mpr ⟨_, accountKey_eq_ok.mpr hkey, rfl⟩⟩
  obtain ⟨accounts, haccounts⟩ := exists_mapM_eq_ok haccounts
  exact ⟨_, bind_eq_ok.mpr ⟨accounts, haccounts, rfl⟩⟩

@[simp] theorem length_encode_u64 (value : UInt64) : (Codec.u64.encode value).length = 8 :=
  Codec.length_leBytes 8 _

/-- The review reads back the amount that the builder wrote. -/
theorem amount_of_depositData (amount : UInt64) :
    UInt64.ofNat (Codec.ofLeBytes
      (((solendDepositAndObligationTag :: Codec.u64.encode amount).drop 1).take 8)) = amount := by
  have hencode : Codec.u64.encode amount = Codec.leBytes 8 amount.toNat := rfl
  rw [List.drop_one, List.tail_cons, List.take_of_length_le (length_encode_u64 amount).le, hencode,
    Codec.ofLeBytes_leBytes amount.toNat_lt, UInt64.ofNat_toNat]

theorem validate_of_lowers (sdk : Sdk) {message : Message} {unsigned : Transaction}
    (hreviewable : Reviewable plan wallet) (hunsigned : unsigned = newUnsigned message)
    (hsigners : message.header.numRequiredSignatures = 1)
    (hpayer : message.accountKeys.head? = some wallet)
    (hhash : message.recentBlockhash = zeroHash)
    (hlowers : List.Forall₂ (Lowers message.accountKeys) (instructionsOf findProgramAddress plan)
      message.instructions) :
    ∃ summaries, validateAndSummarize sdk unsigned wallet (canonicalPolicy plan unsigned) =
      .ok summaries := by
  subst hunsigned
  simp only [instructionsOf, List.forall₂_cons_left_iff, List.forall₂_nil_left_iff] at hlowers
  obtain ⟨limit, _, hlimit, ⟨price, _, hprice, ⟨refresh, _, hrefresh, ⟨deposit, _, hdeposit, rfl,
    rfl⟩, rfl⟩, rfl⟩, hlist⟩ := hlowers
  have haudited := hreviewable.audited
  have hprograms : (newUnsigned message).message.instructions.mapM (fun instruction =>
      accountKey (newUnsigned message) instruction.programIdIndex) =
      .ok [computeBudgetId, computeBudgetId, auditedSolendProgram, auditedSolendProgram] := by
    rw [newUnsigned, hlist, mapM_eq_ok]
    refine .cons (accountKey_eq_ok.mpr hlimit.program) (.cons (accountKey_eq_ok.mpr hprice.program)
      (.cons (accountKey_eq_ok.mpr ?_) (.cons (accountKey_eq_ok.mpr ?_) .nil)))
    · rw [← haudited]
      exact hrefresh.program
    · rw [← haudited]
      exact hdeposit.program
  -- Every account is reviewed at the position where the builder lists it.
  have hinstructions : validateInstructions (newUnsigned message) wallet
      (canonicalPolicy plan (newUnsigned message))
      [computeBudgetId, computeBudgetId, auditedSolendProgram, auditedSolendProgram]
      [limit, price, refresh, deposit] = .ok () := by
    rw [validateInstructions_eq_ok]
    refine ⟨⟨rfl, hlimit.data, hprice.data⟩, hrefresh.data, ⟨?_, ?_, ?_⟩, ?_, ?_, ?_, ?_, ?_, ?_⟩
    · simp [hdeposit.data, depositInstruction]
    · simp [hdeposit.data, depositInstruction]
    · rw [← hdeposit.accounts.length_eq]
      rfl
    · rw [hdeposit.data]
      exact amount_of_depositData plan.inputAmountRaw
    · exact accountOf_of_lowers hdeposit 0 (writable plan.sourceLiquidity false) rfl
    · exact accountOf_of_lowers hdeposit 3 (writable plan.reserveLiquiditySupply false) rfl
    · rw [← hreviewable.owner]
      exact accountOf_of_lowers hdeposit 9 (writable plan.obligationOwner true) rfl
    · rw [← hreviewable.authority]
      exact accountOf_of_lowers hdeposit 12 (readonly plan.userTransferAuthority true) rfl
    · exact accountOf_of_lowers hdeposit 13 (readonly splTokenProgramId false) rfl
  have hsummaries : ∃ summaries,
      (([computeBudgetId, computeBudgetId, auditedSolendProgram, auditedSolendProgram].zip
        [limit, price, refresh, deposit]).zipIdx.mapM fun item =>
        summarizeInstruction sdk (newUnsigned message)
          (canonicalPolicy plan (newUnsigned message)) item.2 item.1.1 item.1.2) =
      .ok summaries := by
    refine exists_mapM_eq_ok fun item hitem => ?_
    simp only [List.zip_cons_cons, List.zip_nil_left, List.zipIdx_cons, List.zipIdx_nil,
      List.mem_cons, List.not_mem_nil, or_false] at hitem
    rcases hitem with rfl | rfl | rfl | rfl
    · exact summarizeInstruction_of_lowers _ _ hlimit
    · exact summarizeInstruction_of_lowers _ _ hprice
    · exact summarizeInstruction_of_lowers _ _ hrefresh
    · exact summarizeInstruction_of_lowers _ _ hdeposit
  have htemplate : (newUnsigned message).withBlockhash zeroHash = newUnsigned message :=
    Transaction.withBlockhash_self hhash
  obtain ⟨summaries, hsummaries⟩ := hsummaries
  refine ⟨summaries, check_eq_ok.mpr ⟨accept_eq_ok.mpr ⟨hreviewable.audited, hreviewable.usdc,
    hreviewable.nonzero, ?_, ?_, hpayer, hsigners, ?_, ?_⟩, bind_eq_ok.mpr ⟨_, hprograms, ?_⟩⟩⟩
  · simp [messageMatchesBuilderTemplate, htemplate, canonicalPolicy]
  · simp [newUnsigned, hlist]
  · simp [newUnsigned, hsigners]
  · intro signature hsignature
    exact List.eq_of_mem_replicate hsignature
  · rw [show (newUnsigned message).message.instructions = [limit, price, refresh, deposit] from
      hlist]
    exact check_eq_ok.mpr ⟨hinstructions, hsummaries⟩

/-! ## The policy approves what the review accepts -/

/-- The one transfer that the policy is told of. -/
def depositTransfer (canonical : CanonicalExecutionPolicy) : TokenTransfer where
  mint := canonical.inputMint.toBase58
  amount := canonical.inputAmountRaw
  decimals := some 6
  source := canonical.sourceLiquidity.toBase58
  destination := canonical.reserveLiquiditySupply.toBase58

/-- What the policy sees of an accepted transaction. -/
structure ReviewedSummaries (canonical : CanonicalExecutionPolicy)
    (summaries : List InstructionSummary) : Prop where
  usdc : canonical.inputMint = Executor.usdcMint
  programs : ∀ summary ∈ summaries, summary.programId = computeBudgetId.toBase58 ∨
    summary.programId = auditedSolendProgram.toBase58
  notLegacy : ∀ summary ∈ summaries, summary.isLegacyTokenTransfer = false
  transfers : summaries.filterMap InstructionSummary.tokenTransfer = [depositTransfer canonical]

theorem summarizeInstruction_eq_ok {transaction : Transaction} {compiled : CompiledInstruction}
    {canonical : CanonicalExecutionPolicy} {index : Nat} {programId : PubkeyBytes}
    {summary : InstructionSummary}
    (hsummary : summarizeInstruction sdk transaction canonical index programId compiled =
      .ok summary) :
    summary.programId = programId.toBase58 ∧ summary.isLegacyTokenTransfer = false ∧
      summary.tokenTransfer = if index = 3 then some (depositTransfer canonical) else none := by
  obtain ⟨accounts, _, hsummary⟩ := bind_eq_ok.mp hsummary
  rw [← Except.ok.inj hsummary]
  simp [depositTransfer]

theorem reviewedSummaries_of_validate {transaction : Transaction}
    {canonical : CanonicalExecutionPolicy} {summaries : List InstructionSummary}
    (hvalid : validateAndSummarize sdk transaction wallet canonical = .ok summaries) :
    ReviewedSummaries canonical summaries := by
  obtain ⟨henvelope, hvalid⟩ := check_eq_ok.mp hvalid
  obtain ⟨programIds, _, hvalid⟩ := bind_eq_ok.mp hvalid
  obtain ⟨hinstructions, hsummaries⟩ := check_eq_ok.mp hvalid
  obtain ⟨limit, price, refresh, deposit, hlist⟩ := validateInstructions_length hinstructions
  rw [hlist] at hinstructions hsummaries
  obtain ⟨⟨rfl, _⟩, _⟩ := validateInstructions_eq_ok.mp hinstructions
  simp only [List.zip_cons_cons, List.zip_nil_left, List.zipIdx_cons, List.zipIdx_nil, mapM_eq_ok,
    List.forall₂_cons_left_iff, List.forall₂_nil_left_iff] at hsummaries
  obtain ⟨first, _, hfirst, ⟨second, _, hsecond, ⟨third, _, hthird, ⟨last, _, hlast, rfl, rfl⟩,
    rfl⟩, rfl⟩, rfl⟩ := hsummaries
  obtain ⟨hfirst, hfirstLegacy, hfirstTransfer⟩ := summarizeInstruction_eq_ok hfirst
  obtain ⟨hsecond, hsecondLegacy, hsecondTransfer⟩ := summarizeInstruction_eq_ok hsecond
  obtain ⟨hthird, hthirdLegacy, hthirdTransfer⟩ := summarizeInstruction_eq_ok hthird
  obtain ⟨hlast, hlastLegacy, hlastTransfer⟩ := summarizeInstruction_eq_ok hlast
  exact
    { usdc := (accept_eq_ok.mp henvelope).2.1
      programs := by simp [hfirst, hsecond, hthird, hlast]
      notLegacy := by simp [hfirstLegacy, hsecondLegacy, hthirdLegacy, hlastLegacy]
      transfers := by simp [hfirstTransfer, hsecondTransfer, hthirdTransfer, hlastTransfer] }

/-- No rejecting rule matches what the review accepts, so the last one approves. -/
theorem approved_of_reviewedSummaries {canonical : CanonicalExecutionPolicy}
    {summaries : List InstructionSummary} (hreviewed : ReviewedSummaries canonical summaries)
    (hamount : canonical.inputAmountRaw.toNat + 1 < 2 ^ 64) :
    ∃ policy, executionPolicy canonical = .ok policy ∧
      ∀ intentId simulation now, simulation.success = true →
        (policy.evaluateAt (reviewContext wallet intentId summaries simulation) now).verdict =
          .approved "canonical-solend-deposit" := by
  have hlimit : okOr (if canonical.inputAmountRaw.toNat + 1 < 2 ^ 64 then
      some (canonical.inputAmountRaw + 1) else none) WatchWalletError.transactionShapeRejected =
      .ok (canonical.inputAmountRaw + 1) := by
    rw [okOr_eq_ok, if_pos hamount]
  refine ⟨_, bind_eq_ok.mpr ⟨_, hlimit, rfl⟩, ?_⟩
  intro intentId simulation now hsuccess
  have hsolend : auditedSolendProgram.toBase58 = "So1endDq2YkqhipRh3WViPa8hdiSpxWy6z3Z6tMCpAo" :=
    toBase58_pinned _
  have husdc : canonical.inputMint.toBase58 = "EPjFWdd5AufqSSqeM2qN1xzybapC8G4wEGGkZwyTDt1v" := by
    rw [hreviewed.usdc]
    exact toBase58_pinned _
  have hprograms : ∀ summary ∈ summaries, ¬ summary.programId = computeBudgetId.toBase58 →
      summary.programId = "So1endDq2YkqhipRh3WViPa8hdiSpxWy6z3Z6tMCpAo" := by
    intro summary hsummary hother
    rw [← hsolend]
    exact (hreviewed.programs summary hsummary).resolve_left hother
  -- The cap is one above the only transfer, and does not wrap.
  have hcap : ¬ canonical.inputAmountRaw + 1 ≤ canonical.inputAmountRaw := by
    rw [UInt64.le_iff_toNat_le, UInt64.toNat_add]
    have hone : (1 : UInt64).toNat = 1 := rfl
    omega
  let approval : PolicyRule :=
    { name := "canonical-solend-deposit"
      description := "Approve the fully validated canonical Solend deposit"
      condition := .always
      action := .approve }
  refine PolicySet.verdict_of_unmatched approval rfl hsuccess
    (List.dropLast_append_getLast (List.cons_ne_nil _ _)).symm ?_ rfl rfl
  intro rule hrule
  simp only [List.dropLast_cons_cons, List.dropLast_singleton, List.mem_cons, List.not_mem_nil,
    or_false] at hrule
  rcases hrule with rfl | rfl | rfl | rfl | rfl
  · simp [PolicySet.conditionMatchesAt, rejecting, reviewContext, hsuccess]
  · simpa [PolicySet.conditionMatchesAt, rejecting, reviewContext] using hprograms
  · simpa [PolicySet.conditionMatchesAt, rejecting, reviewContext] using hreviewed.notLegacy
  · simp [PolicySet.conditionMatchesAt, rejecting, PolicySet.tokenTransfers, reviewContext,
      hreviewed.transfers, depositTransfer, husdc]
  · simp [PolicySet.conditionMatchesAt, rejecting, PolicySet.tokenTransfers, reviewContext,
      hreviewed.transfers, depositTransfer, husdc, hcap]

/-- Whatever a successful simulation shows, the policy approves on its own. -/
def Approves (policy : PolicySet) (wallet : PubkeyBytes) (summaries : List InstructionSummary) :
    Prop :=
  ∀ intentId simulation now, simulation.success = true →
    (policy.evaluateAt (reviewContext wallet intentId summaries simulation) now).verdict =
      .approved "canonical-solend-deposit"

/-- Builder, reviewer and policy agree on every ready plan of the wallet: the
transaction is built and accepted, the policy approves it and whatever else is
accepted, and what is accepted is the built message under some blockhash. -/
theorem builder_reviewer_policy_agree (sdk : Sdk) (hcompile : sdk.newMessage = Message.compile)
    (findProgramAddress : FindProgramAddress) (input : CandidateInput)
    (clocks : PreflightClockSnapshot) (prepared : PreparedDeposit)
    (hprepared : preflightCandidate input clocks = .needsChain prepared) (facts : ChainFacts)
    (finalClocks : ClockSnapshot) (plan : ValidatedSolendPlanInputs)
    (hready : validateChain prepared facts finalClocks = some (.ready plan))
    (wallet : PubkeyBytes) (hwallet : plan.obligationOwner = wallet)
    (hamount : plan.inputAmountRaw.toNat < 2 ^ 64 - 1) :
    ∃ unsigned report summaries policy,
      buildUnsignedTransaction sdk findProgramAddress plan = some (.ok (unsigned, report)) ∧
      validateAndSummarize sdk unsigned wallet (canonicalPolicy plan unsigned) = .ok summaries ∧
      executionPolicy (canonicalPolicy plan unsigned) = .ok policy ∧
      Approves policy wallet summaries ∧
      ∀ transaction others,
        validateAndSummarize sdk transaction wallet (canonicalPolicy plan unsigned) = .ok others →
        transaction.message =
            (unsigned.withBlockhash transaction.message.recentBlockhash).message ∧
          Approves policy wallet others := by
  have hreviewable : Reviewable plan wallet := hwallet ▸ reviewable_of_ready hprepared hready
  obtain ⟨message, report, hbuilt, hsigners, hpayer, hhash, hlowers⟩ :=
    buildUnsignedTransaction_ok findProgramAddress hcompile hreviewable
  obtain ⟨summaries, hvalid⟩ :=
    validate_of_lowers sdk hreviewable rfl hsigners hpayer hhash hlowers
  have happroved : ∀ transaction others, validateAndSummarize sdk transaction wallet
      (canonicalPolicy plan (newUnsigned message)) = .ok others →
      ∃ policy, executionPolicy (canonicalPolicy plan (newUnsigned message)) = .ok policy ∧
        Approves policy wallet others := by
    intro transaction others haccepted
    apply approved_of_reviewedSummaries (reviewedSummaries_of_validate haccepted)
    show plan.inputAmountRaw.toNat + 1 < 2 ^ 64
    omega
  obtain ⟨policy, hpolicy, happroves⟩ := happroved _ _ hvalid
  refine ⟨newUnsigned message, report, summaries, policy, hbuilt, hvalid, hpolicy, happroves, ?_⟩
  intro transaction others haccepted
  constructor
  · -- Only the blockhash was normalized before the comparison.
    obtain ⟨hnormalized, _⟩ := depositsExactly_of_validate haccepted
    rw [Transaction.withBlockhash, ← hnormalized]
    simp [Transaction.withBlockhash]
  · obtain ⟨same, hsame, hothers⟩ := happroved _ _ haccepted
    obtain rfl := Except.ok.inj (hsame.symm.trans hpolicy)
    exact hothers

end

/-- The authority of the sample market, found with bump 249. -/
def sampleAuthority : PubkeyBytes :=
  ⟨⟨[207, 128, 48, 164, 188, 55, 112, 33, 165, 162, 36, 201, 108, 178, 205, 93, 59, 223, 100, 165,
    37, 58, 241, 229, 172, 129, 142, 9, 64, 171, 254, 28], rfl⟩⟩

/-- The ready order of the samples is built, accepted and approved. -/
theorem builder_reviewer_policy_agree_sample :
    ∃ plan unsigned report summaries policy,
      buildUnsignedTransaction standardSdk (fun _ _ => sampleAuthority) plan =
        some (.ok (unsigned, report)) ∧
      validateAndSummarize standardSdk unsigned (samplePubkey 6) (canonicalPolicy plan unsigned) =
        .ok summaries ∧
      executionPolicy (canonicalPolicy plan unsigned) = .ok policy ∧
      Approves policy (samplePubkey 6) summaries := by
  have hprepared := preflightCandidate_of_admissible admissible_sample
  obtain ⟨report, hready⟩ := ready_of_requirements admissible_sample chainRequirements_sample
  have hamount : sampleDeposit.inputAmountRaw.toNat < 2 ^ 64 - 1 := by decide
  obtain ⟨unsigned, built, summaries, policy, hbuilt, hvalid, hpolicy, happroves, _⟩ :=
    builder_reviewer_policy_agree standardSdk rfl (fun _ _ => sampleAuthority) _ _ _ hprepared
      sampleFacts sampleClocks _ hready (samplePubkey 6) rfl hamount
  exact ⟨_, unsigned, built, summaries, policy, hbuilt, hvalid, hpolicy, happroves⟩

end SolFrontier.Mcp
