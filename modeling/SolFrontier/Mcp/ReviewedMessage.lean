import SolFrontier.Mcp.WatchWallet
import SolFrontier.WalletEngine.SimulatedBytes

/-! # Only the reviewed message is submitted

The bytes that a review gives out read as a transaction whose message is the
builder's with a fresh blockhash. That message was checked against the plan,
its policy approved it, and the controlled wallet's signature is over it.
Nothing is assumed about the network, the audit, the clock or the signer.
-/

namespace SolFrontier.Mcp

open Foundation Types SolanaCore WalletEngine RiskEngine Executor Program

/-! ## Steps that succeed -/

@[simp] theorem ensure_eq_ok {condition : Prop} [Decidable condition] {error : WatchWalletError} :
    ensure condition error = .ok () ↔ condition := by
  by_cases hcondition : condition <;> simp [ensure, hcondition]

@[simp] theorem accept_eq_ok {shape : Prop} [Decidable shape] : accept shape = .ok () ↔ shape :=
  ensure_eq_ok

@[simp] theorem okOr_eq_ok {α : Type} {value : Option α} {error : WatchWalletError} {result : α} :
    okOr value error = .ok result ↔ value = some result := by
  cases value <;> simp [okOr]

namespace ReviewM

theorem traces_check {α : Type} {value : Except WatchWalletError α}
    {trace : List (Event reviewFace)} {result : α} :
    (check value).run.Traces trace (.ok result) ↔ trace = [] ∧ value = .ok result := by
  cases value with
  | error error => simp [check, traces_done_iff]
  | ok value => simp [check, traces_done_iff, eq_comm]

theorem traces_ofProgram {α : Type} {program : Program reviewFace α}
    {trace : List (Event reviewFace)} {result : α} :
    (ofProgram program).run.Traces trace (.ok result) ↔ program.Traces trace result := by
  rw [ofProgram, ExceptT.run_mk, traces_bind_iff]
  constructor
  · rintro ⟨before, value, after, rfl, hprogram, hafter⟩
    obtain ⟨rfl, hvalue⟩ := traces_done_iff.mp hafter
    rw [Except.ok.injEq] at hvalue
    rw [List.append_nil, hvalue]
    exact hprogram
  · intro hprogram
    exact ⟨trace, result, [], (List.append_nil _).symm, hprogram, traces_done_iff.mpr ⟨rfl, rfl⟩⟩

/-- A check in a review passes and the review goes on. -/
theorem traces_check_bind {α β : Type} {value : Except WatchWalletError α}
    {rest : α → ReviewM β} {trace : List (Event reviewFace)} {result : β} :
    (check value >>= rest).run.Traces trace (.ok result) ↔
      ∃ checked, value = .ok checked ∧ (rest checked).run.Traces trace (.ok result) := by
  rw [traces_ok_bind_iff]
  constructor
  · rintro ⟨before, checked, after, rfl, hcheck, hrest⟩
    obtain ⟨rfl, hvalue⟩ := traces_check.mp hcheck
    exact ⟨checked, hvalue, hrest⟩
  · rintro ⟨checked, hvalue, hrest⟩
    exact ⟨[], checked, trace, rfl, traces_check.mpr ⟨rfl, hvalue⟩, hrest⟩

end ReviewM

/-! ## The shape that passes -/

/-- The program an instruction calls. -/
def programOf (message : Message) (instruction : CompiledInstruction) :
    Option PubkeyBytes :=
  message.accountKeys[instruction.programIdIndex.toNat]?

/-- The account in a position of an instruction. -/
def accountOf (message : Message) (instruction : CompiledInstruction) (position : Nat) :
    Option PubkeyBytes := do
  let index ← instruction.accounts[position]?
  message.accountKeys[index.toNat]?

/-- The message is the deposit of the plan, exactly: its programs, its amount,
its accounts and its wallet. -/
structure DepositsExactly (plan : ValidatedSolendPlanInputs) (wallet : PubkeyBytes)
    (message : Message) (limit price refresh deposit : CompiledInstruction) : Prop where
  audited : plan.solendProgramId = auditedSolendProgram
  usdc : plan.inputMint = Executor.usdcMint
  nonzero : plan.inputAmountRaw ≠ 0
  payer : message.accountKeys.head? = some wallet
  signers : message.header.numRequiredSignatures = 1
  instructions : message.instructions = [limit, price, refresh, deposit]
  limitProgram : programOf message limit = some computeBudgetId
  priceProgram : programOf message price = some computeBudgetId
  refreshProgram : programOf message refresh = some plan.solendProgramId
  depositProgram : programOf message deposit = some plan.solendProgramId
  limitData : limit.data = reviewedComputeUnitLimitData
  priceData : price.data = reviewedComputeUnitPriceData
  refreshData : refresh.data = [solendRefreshReserveTag]
  depositData : deposit.data =
    solendDepositAndObligationTag :: Codec.u64.encode plan.inputAmountRaw
  depositAccounts : deposit.accounts.length = expectedDepositAccountCount
  source : accountOf message deposit 0 = some plan.sourceLiquidity
  reserveSupply : accountOf message deposit 3 = some plan.reserveLiquiditySupply
  owner : accountOf message deposit 9 = some wallet
  authority : accountOf message deposit 12 = some wallet
  tokenProgram : accountOf message deposit 13 = some classicTokenProgram

theorem accountKey_eq_ok {transaction : Transaction} {index : UInt8} {key : PubkeyBytes} :
    accountKey transaction index = .ok key ↔
      transaction.message.accountKeys[index.toNat]? = some key := by
  rw [accountKey, okOr_eq_ok]

theorem validateAccount_eq_ok {transaction : Transaction} {instruction : CompiledInstruction}
    {position : Nat} {expected : PubkeyBytes} :
    validateAccount transaction instruction position expected = .ok () ↔
      accountOf transaction.message instruction position = some expected := by
  rw [validateAccount, bind_eq_ok, accountOf, Option.bind_eq_bind,
    Option.bind_eq_some_iff]
  constructor
  · rintro ⟨account, haccount, hexpected⟩
    obtain rfl := accept_eq_ok.mp hexpected
    obtain ⟨index, hindex, hkey⟩ := bind_eq_ok.mp haccount
    exact ⟨index, okOr_eq_ok.mp hindex, accountKey_eq_ok.mp hkey⟩
  · rintro ⟨index, hindex, hkey⟩
    exact ⟨expected, bind_eq_ok.mpr ⟨index, okOr_eq_ok.mpr hindex, accountKey_eq_ok.mpr hkey⟩,
      accept_eq_ok.mpr rfl⟩

/-- Nine bytes that begin with the tag and carry an amount. -/
theorem depositData_eq {data : List UInt8} {amount : UInt64} {tag : UInt8}
    (hlength : data.length = 9) (htag : data.head? = some tag)
    (hamount : UInt64.ofNat (Codec.ofLeBytes ((data.drop 1).take 8)) = amount) :
    data = tag :: Codec.u64.encode amount := by
  cases data with
  | nil => simp at htag
  | cons head rest =>
      have hrest : rest.length = 8 := by simpa using hlength
      obtain rfl : head = tag := by simpa using htag
      rw [List.drop_one, List.tail_cons, List.take_of_length_le hrest.le] at hamount
      have hlt : Codec.ofLeBytes rest < 2 ^ 64 := by
        have hlt := Codec.ofLeBytes_lt rest
        rw [hrest] at hlt
        exact hlt
      have hbytes := Codec.leBytes_ofLeBytes rest
      rw [hrest] at hbytes
      rw [← hamount]
      change head :: rest =
        head :: Codec.leBytes 8 (UInt64.ofNat (Codec.ofLeBytes rest)).toNat
      rw [UInt64.toNat_ofNat_of_lt' hlt, hbytes]

/-- Four instructions that pass have the reviewed programs, data and accounts. -/
theorem validateInstructions_eq_ok {transaction : Transaction} {wallet : PubkeyBytes}
    {canonical : CanonicalExecutionPolicy} {programIds : List PubkeyBytes}
    {limit price refresh deposit : CompiledInstruction} :
    validateInstructions transaction wallet canonical programIds
        [limit, price, refresh, deposit] = .ok () ↔
      (programIds =
          [computeBudgetId, computeBudgetId, auditedSolendProgram, auditedSolendProgram] ∧
        limit.data = reviewedComputeUnitLimitData ∧ price.data = reviewedComputeUnitPriceData) ∧
      refresh.data = [solendRefreshReserveTag] ∧
      (deposit.data.length = 9 ∧ deposit.data.head? = some solendDepositAndObligationTag ∧
        deposit.accounts.length = expectedDepositAccountCount) ∧
      UInt64.ofNat (Codec.ofLeBytes ((deposit.data.drop 1).take 8)) = canonical.inputAmountRaw ∧
      accountOf transaction.message deposit 0 = some canonical.sourceLiquidity ∧
      accountOf transaction.message deposit 3 = some canonical.reserveLiquiditySupply ∧
      accountOf transaction.message deposit 9 = some wallet ∧
      accountOf transaction.message deposit 12 = some wallet ∧
      accountOf transaction.message deposit 13 = some classicTokenProgram := by
  simp only [validateInstructions, check_eq_ok, accept_eq_ok, validateAccount_eq_ok]

theorem validateInstructions_length {transaction : Transaction} {wallet : PubkeyBytes}
    {canonical : CanonicalExecutionPolicy} {programIds : List PubkeyBytes}
    {instructions : List CompiledInstruction}
    (hvalid : validateInstructions transaction wallet canonical programIds instructions = .ok ()) :
    ∃ limit price refresh deposit, instructions = [limit, price, refresh, deposit] := by
  unfold validateInstructions at hvalid
  split at hvalid
  next limit price refresh deposit => exact ⟨limit, price, refresh, deposit, rfl⟩
  · cases hvalid

/-- A transaction that passes is the builder's but for the blockhash, and is
the deposit of the plan. -/
theorem depositsExactly_of_validate {sdk : Sdk} {transaction unsigned : Transaction}
    {wallet : PubkeyBytes} {plan : ValidatedSolendPlanInputs} {summaries : List InstructionSummary}
    (hvalid : validateAndSummarize sdk transaction wallet (canonicalPolicy plan unsigned) =
      .ok summaries) :
    (transaction.withBlockhash zeroHash).message = unsigned.message ∧
      ∃ limit price refresh deposit,
        DepositsExactly plan wallet transaction.message limit price refresh deposit := by
  obtain ⟨henvelope, hvalid⟩ := check_eq_ok.mp hvalid
  obtain ⟨programIds, hprograms, hvalid⟩ := bind_eq_ok.mp hvalid
  obtain ⟨hinstructions, _⟩ := check_eq_ok.mp hvalid
  obtain ⟨haudited, husdc, hnonzero, htemplate, _, hpayer, hsigners, _⟩ :=
    accept_eq_ok.mp henvelope
  simp only [messageMatchesBuilderTemplate, decide_eq_true_eq] at htemplate
  refine ⟨Message.serialize_inj htemplate, ?_⟩
  obtain ⟨limit, price, refresh, deposit, hlist⟩ := validateInstructions_length hinstructions
  rw [hlist, validateInstructions_eq_ok] at hinstructions
  obtain ⟨⟨rfl, hlimit, hprice⟩, hrefresh, ⟨hlength, htag, haccounts⟩, hamount, hsource, hreserve,
    howner, hauthority, htoken⟩ := hinstructions
  rw [hlist, mapM_eq_ok] at hprograms
  simp only [List.forall₂_cons, List.forall₂_nil_right_iff, accountKey_eq_ok, and_true] at hprograms
  obtain ⟨hlimitProgram, hpriceProgram, hrefreshProgram, hdepositProgram⟩ := hprograms
  have haudited' : auditedSolendProgram = plan.solendProgramId := haudited.symm
  rw [haudited'] at hrefreshProgram hdepositProgram
  exact ⟨limit, price, refresh, deposit,
    { audited := haudited
      usdc := husdc
      nonzero := hnonzero
      payer := hpayer
      signers := hsigners
      instructions := hlist
      limitProgram := hlimitProgram
      priceProgram := hpriceProgram
      refreshProgram := hrefreshProgram
      depositProgram := hdepositProgram
      limitData := hlimit
      priceData := hprice
      refreshData := hrefresh
      depositData := depositData_eq hlength htag hamount
      depositAccounts := haccounts
      source := hsource
      reserveSupply := hreserve
      owner := howner
      authority := hauthority
      tokenProgram := htoken }⟩

/-! ## The bytes that are taken -/

/-- The key's slot in the message holds the signature. -/
def InSlot (transaction : Transaction) (key : PubkeyBytes) (signature : Signature) : Prop :=
  ∃ index : Nat, transaction.message.accountKeys[index]? = some key ∧
    transaction.signatures[index]? = some signature

theorem signatureOf_eq_ok {transaction : Transaction} {key : PubkeyBytes} {signature : Signature}
    (hsignature : signatureOf transaction key = .ok signature) :
    InSlot transaction key signature := by
  obtain ⟨index, hindex, hfound⟩ := bind_eq_ok.mp hsignature
  obtain ⟨hlt, hkey, _⟩ := List.findIdx?_eq_some_iff_getElem.mp (okOr_eq_ok.mp hindex)
  refine ⟨index, ?_, okOr_eq_ok.mp hfound⟩
  rw [List.getElem?_eq_getElem hlt]
  exact congrArg some (by simpa using hkey)

/-- A verified transaction carries each signer's signature over its message. -/
theorem verifySignature_of_verify {platform : ReviewPlatform} {transaction : Transaction}
    {key : PubkeyBytes} {signature : Signature} (hverify : platform.verify transaction = true)
    (hslot : InSlot transaction key signature) :
    platform.verifySignature key transaction.message.serialize signature = true := by
  obtain ⟨index, hkey, hsignature⟩ := hslot
  have hpair : (signature, key) ∈ transaction.signatures.zip transaction.message.accountKeys := by
    refine List.mem_of_getElem? (i := index) ?_
    rw [List.getElem?_zip_eq_some]
    exact ⟨hsignature, hkey⟩
  exact List.all_eq_true.mp hverify (signature, key) hpair

/-- Bytes that are given out read as the approved message with the signature of
the reviewed signer over it. -/
theorem submissionBytes_eq_ok {platform : ReviewPlatform} {reviewed : ReviewedSignedTransaction}
    {bytes : List UInt8} (hbytes : reviewed.submissionBytes platform = .ok bytes) :
    bytes = reviewed.signedTransactionBytes ∧
      ∃ transaction, Transaction.deserialize bytes = some transaction ∧
        transaction.message.serialize = reviewed.approvedMessageBytes ∧
        InSlot transaction reviewed.signerPubkey reviewed.signature ∧
        platform.verifySignature reviewed.signerPubkey transaction.message.serialize
          reviewed.signature = true := by
  obtain ⟨_, hbytes⟩ := check_eq_ok.mp hbytes
  obtain ⟨transaction, hread, hbytes⟩ := bind_eq_ok.mp hbytes
  obtain ⟨hmessage, hbytes⟩ := check_eq_ok.mp hbytes
  obtain ⟨signature, hslot, hbytes⟩ := bind_eq_ok.mp hbytes
  obtain ⟨hsignature, hbytes⟩ := check_eq_ok.mp hbytes
  obtain ⟨hverify, hbytes⟩ := check_eq_ok.mp hbytes
  obtain rfl := Except.ok.inj hbytes
  have hslot := signatureOf_eq_ok hslot
  rw [(ensure_eq_ok.mp hsignature).2] at hslot
  exact ⟨rfl, transaction, okOr_eq_ok.mp hread, (ensure_eq_ok.mp hmessage).1, hslot,
    verifySignature_of_verify (ensure_eq_ok.mp hverify) hslot⟩

/-! ## The review -/

theorem signReviewed_ok {wallet : PubkeyBytes} {approved : ApprovedTransaction}
    {trace : List (Event reviewFace)} {reviewed : ReviewedSignedTransaction}
    (htrace : (signReviewed wallet approved).run.Traces trace (.ok reviewed)) :
    reviewed.signerPubkey = wallet ∧
      reviewed.approvedMessageBytes = approved.inner.inner.message.serialize := by
  rw [signReviewed, traces_ok_bind_iff] at htrace
  obtain ⟨_, ⟨result, slot⟩, _, _, _, htrace⟩ := htrace
  obtain ⟨_, _, htrace⟩ := ReviewM.traces_check_bind.mp htrace
  obtain ⟨_, _, htrace⟩ := ReviewM.traces_check_bind.mp htrace
  obtain ⟨_, _, htrace⟩ := ReviewM.traces_check_bind.mp htrace
  obtain ⟨_, hreviewed⟩ := traces_done_iff.mp htrace
  obtain rfl := Except.ok.inj hreviewed
  exact ⟨rfl, rfl⟩

theorem simulateReviewed_ok {sdk : Sdk} {transaction : Transaction}
    {trace : List (Event reviewFace)} {simulated : SimulatedTransaction}
    (htrace : (simulateReviewed sdk transaction).run.Traces trace (.ok simulated)) :
    ∃ own, trace = own.map simulationPort.event ∧
      (simulate sdk .none transaction).Traces own (some (.ok simulated)) := by
  rw [simulateReviewed, ExceptT.run_mk, traces_bind_iff] at htrace
  obtain ⟨before, simulation, after, rfl, hsimulate, hafter⟩ := htrace
  obtain ⟨own, rfl, hown⟩ := traces_via_iff.mp hsimulate
  rcases simulation with _ | (error | found)
  · exact absurd (traces_done_iff.mp hafter).2 (by simp)
  · exact absurd (traces_done_iff.mp hafter).2 (by simp)
  · obtain ⟨rfl, hfound⟩ := traces_done_iff.mp hafter
    rw [Except.ok.injEq] at hfound
    exact ⟨own, List.append_nil _, hfound ▸ hown⟩

/-- The transaction that is given out was reviewed: the simulation of the
builder's transaction, the shape it was checked for, the policy's verdict and
the signature are all about its message. -/
structure ReviewedSubmission (platform : ReviewPlatform) (wallet : PubkeyBytes)
    (intentId : String) (plan : ValidatedSolendPlanInputs) (unsigned : Transaction)
    (trace : List (Event reviewFace)) (signature : Signature) (transaction : Transaction)
    (simulated : SimulatedTransaction) (summaries : List InstructionSummary)
    (policy : PolicySet) (now : Int) : Prop where
  /-- Only the blockhash differs from what was built. -/
  built : transaction.message =
    (unsigned.withBlockhash transaction.message.recentBlockhash).message
  simulation : ∃ own rest, trace = own.map simulationPort.event ++ rest ∧
    (simulate platform.sdk .none unsigned).Traces own (some (.ok simulated))
  message : simulated.inner.message = transaction.message
  validated : validateAndSummarize platform.sdk simulated.inner wallet
    (canonicalPolicy plan unsigned) = .ok summaries
  deposits : ∃ limit price refresh deposit,
    DepositsExactly plan wallet transaction.message limit price refresh deposit
  compiled : executionPolicy (canonicalPolicy plan unsigned) = .ok policy
  approved : (policy.evaluateAt (reviewContext wallet intentId summaries simulated.simulation)
    now).verdict.isAutoApproved = true
  slot : InSlot transaction wallet signature
  signed : platform.verifySignature wallet transaction.message.serialize signature = true

/-- Whatever the network, the audit, the clock and the signer answer, the bytes
a review gives out are those of a reviewed submission. -/
theorem only_reviewed_message_submitted {platform : ReviewPlatform} {wallet : PubkeyBytes}
    {intentId : String} {plan : ValidatedSolendPlanInputs} {unsigned : Transaction}
    {trace : List (Event reviewFace)} {reviewed : ReviewedSignedTransaction} {bytes : List UInt8}
    (hreview : (reviewAndSign platform wallet intentId unsigned
      (canonicalPolicy plan unsigned)).run.Traces trace (.ok reviewed))
    (hbytes : reviewed.submissionBytes platform = .ok bytes) :
    ∃ transaction simulated summaries policy now,
      Transaction.deserialize bytes = some transaction ∧
      ReviewedSubmission platform wallet intentId plan unsigned trace reviewed.signature transaction
        simulated summaries policy now := by
  obtain ⟨_, _, hsimulated⟩ := ReviewM.traces_check_bind.mp hreview
  obtain ⟨before, simulated, after, htrace, hsimulate, haudited⟩ :=
    traces_ok_bind_iff.mp hsimulated
  obtain ⟨_, _, _, _, _, hrecorded⟩ := traces_ok_bind_iff.mp haudited
  obtain ⟨_, _, hchecked⟩ := ReviewM.traces_check_bind.mp hrecorded
  obtain ⟨summaries, hvalid, hcompiled⟩ := ReviewM.traces_check_bind.mp hchecked
  obtain ⟨policy, hpolicy, hasked⟩ := ReviewM.traces_check_bind.mp hcompiled
  obtain ⟨_, now, _, _, _, hevaluated⟩ := traces_ok_bind_iff.mp hasked
  obtain ⟨approved, happroved, hrequired⟩ := ReviewM.traces_check_bind.mp hevaluated
  obtain ⟨_, hauto, hsigned⟩ := ReviewM.traces_check_bind.mp hrequired
  obtain ⟨_, signed, _, _, hsign, hlast⟩ := traces_ok_bind_iff.mp hsigned
  obtain ⟨_, _, hdone⟩ := ReviewM.traces_check_bind.mp hlast
  obtain rfl := Except.ok.inj (traces_done_iff.mp hdone).2
  obtain ⟨own, rfl, hown⟩ := simulateReviewed_ok hsimulate
  -- The approved transaction is the simulated one, with the policy's verdict.
  obtain ⟨hinner, hverdict⟩ := evaluatePolicy_ok (mapError_eq_ok.mp happroved)
  obtain ⟨hsigner, hmessageBytes⟩ := signReviewed_ok hsign
  obtain ⟨_, transaction, hread, hserialize, hslot, hverify⟩ := submissionBytes_eq_ok hbytes
  have hmessage : simulated.inner.message = transaction.message := by
    rw [hmessageBytes, hinner] at hserialize
    exact (Message.serialize_inj hserialize).symm
  obtain ⟨htemplate, hdeposits⟩ := depositsExactly_of_validate hvalid
  rw [hmessage] at hdeposits
  rw [hsigner] at hslot hverify
  rw [ensure_eq_ok, hverdict] at hauto
  refine ⟨transaction, simulated, summaries, policy, now, hread,
    { built := ?_
      simulation := ⟨own, after, htrace, hown⟩
      message := hmessage
      validated := hvalid
      deposits := hdeposits
      compiled := hpolicy
      approved := hauto
      slot := hslot
      signed := hverify }⟩
  -- Giving the normalized message its own blockhash back.
  rw [← hmessage]
  change simulated.inner.message =
    { unsigned.message with recentBlockhash := simulated.inner.message.recentBlockhash }
  rw [← htemplate]
  rfl

/-! ## Reviews that give out bytes -/

/-- The calls of a review of a transaction that brings its own budget. -/
def reviewTrace (transaction : Transaction) (hash : Hash) (height : UInt64)
    (output : SimulationOutput) (now : Int) (signed : Transaction) (signature : Signature) :
    List (Event reviewFace) :=
  [⟨.wallet (.rpc .getFresh), .ok (hash, height)⟩,
    ⟨.wallet (.rpc (.simulate transaction)), .ok output⟩, ⟨.audit transaction, .ok ()⟩,
    ⟨.utcNow, now⟩, ⟨.wallet (.signTransaction transaction), (signed, .ok signature)⟩]

/-- What a review keeps of a signed transaction. -/
def reviewedOf (wallet : PubkeyBytes) (height : UInt64) (signed : Transaction)
    (signature : Signature) : ReviewedSignedTransaction where
  signature
  signerPubkey := wallet
  lastValidBlockHeight := height
  approvedMessageBytes := signed.message.serialize
  signedMessageBytes := signed.message.serialize
  signedTransactionBytes := Transaction.codec.encode signed

theorem submissionBytes_reviewedOf {platform : ReviewPlatform} {wallet : PubkeyBytes}
    {height : UInt64} {signed : Transaction} {signature : Signature}
    (hslot : signatureOf signed wallet = .ok signature) (hsignature : signature ≠ defaultSignature)
    (hverify : platform.verify signed = true) :
    (reviewedOf wallet height signed signature).submissionBytes platform =
      .ok (Transaction.codec.encode signed) := by
  refine check_eq_ok.mpr ⟨ensure_eq_ok.mpr rfl, bind_eq_ok.mpr ⟨signed, ?_, ?_⟩⟩
  · exact okOr_eq_ok.mpr (Transaction.deserialize_encode signed)
  refine check_eq_ok.mpr ⟨ensure_eq_ok.mpr ⟨rfl, rfl⟩, bind_eq_ok.mpr ⟨signature, hslot, ?_⟩⟩
  exact check_eq_ok.mpr ⟨ensure_eq_ok.mpr ⟨hsignature, rfl⟩,
    check_eq_ok.mpr ⟨ensure_eq_ok.mpr hverify, rfl⟩⟩

/-- The capturing signer gives back what was signed, when the inner signer left
the message alone. -/
theorem traces_signReviewed {wallet : PubkeyBytes} {simulated : SimulatedTransaction}
    {ruleName : String} {signed : Transaction} {signature : Signature}
    (hmessage : signed.message = simulated.inner.message) :
    (signReviewed wallet (.newUnchecked simulated (.approved ruleName) rfl)).run.Traces
      [⟨.wallet (.signTransaction simulated.inner), (signed, .ok signature)⟩]
      (.ok (reviewedOf wallet simulated.lastValidBlockHeight signed signature)) := by
  have hcapture : captureSigned simulated.inner.message.serialize signed none (.ok signature) =
      (.ok signature, some
        { signature
          messageBytes := signed.message.serialize
          transactionBytes := Transaction.codec.encode signed }) := by
    simp [captureSigned, hmessage]
  have hsign : ((signWith (capturingSigner controlledSigner)
      (.newUnchecked simulated (.approved ruleName) rfl)).run none).Traces
      [⟨.wallet (.signTransaction simulated.inner), (signed, .ok signature)⟩]
      (.ok (.signed simulated.simulation (.approved ruleName) (signatureText signature)), some
        { signature
          messageBytes := signed.message.serialize
          transactionBytes := Transaction.codec.encode signed }) := by
    refine traces_call_iff.mpr ⟨(signed, .ok signature), [], rfl, ?_⟩
    refine traces_done_iff.mpr ⟨rfl, ?_⟩
    change _ = (Except.map _ (captureSigned simulated.inner.message.serialize signed none
      (.ok signature)).1, (captureSigned simulated.inner.message.serialize signed none
      (.ok signature)).2)
    rw [hcapture]
    rfl
  rw [signReviewed, sign_automatic_newUnchecked _ rfl rfl, traces_ok_bind_iff]
  refine ⟨_, _, [], (List.append_nil _).symm, ReviewM.traces_ofProgram.mpr hsign, ?_⟩
  refine ReviewM.traces_check_bind.mpr ⟨signatureText signature, rfl, ?_⟩
  refine ReviewM.traces_check_bind.mpr ⟨_, rfl, ?_⟩
  refine ReviewM.traces_check_bind.mpr ⟨(), ensure_eq_ok.mpr rfl, ?_⟩
  refine traces_done_iff.mpr ⟨rfl, ?_⟩
  rw [reviewedOf, hmessage]
  rfl

/-- A review goes through when the shape passes, the policy approves, and the
signer signs the message it was given. -/
theorem traces_reviewAndSign {platform : ReviewPlatform} {wallet : PubkeyBytes} {intentId : String}
    {unsigned signed : Transaction} {canonical : CanonicalExecutionPolicy} {hash : Hash}
    {height : UInt64} {output : SimulationOutput} {now : Int} {signature : Signature}
    {first summaries : List InstructionSummary} {policy : PolicySet} {ruleName : String}
    (hbudget : hasComputeBudgetInstructions unsigned = true) (hsuccess : output.success = true)
    (hunsigned : validateAndSummarize platform.sdk unsigned wallet canonical = .ok first)
    (hvalid : validateAndSummarize platform.sdk (unsigned.withBlockhash hash) wallet canonical =
      .ok summaries)
    (hpolicy : executionPolicy canonical = .ok policy)
    (hverdict : (policy.evaluateAt (reviewContext wallet intentId summaries output.intoResult)
      now).verdict = .approved ruleName)
    (hmessage : signed.message = (unsigned.withBlockhash hash).message)
    (hslot : signatureOf signed wallet = .ok signature) (hsignature : signature ≠ defaultSignature)
    (hverify : platform.verify signed = true) :
    (reviewAndSign platform wallet intentId unsigned canonical).run.Traces
      (reviewTrace (unsigned.withBlockhash hash) hash height output now signed signature)
      (.ok (reviewedOf wallet height signed signature)) := by
  let simulated : SimulatedTransaction := ⟨unsigned.withBlockhash hash, output.intoResult, height⟩
  have hsimulate : (simulateReviewed platform.sdk unsigned).run.Traces
      [⟨.wallet (.rpc .getFresh), .ok (hash, height)⟩,
        ⟨.wallet (.rpc (.simulate (unsigned.withBlockhash hash))), .ok output⟩]
      (.ok simulated) := by
    rw [simulateReviewed, ExceptT.run_mk, traces_bind_iff]
    refine ⟨_, _, [], (List.append_nil _).symm, traces_via_iff.mpr
      ⟨_, rfl, executes_simulate_budgeted hbudget hsuccess⟩, traces_done_iff.mpr ⟨rfl, rfl⟩⟩
  have hask (op : ReviewOp) (answer : op.Answer) :
      (ReviewM.ask op).run.Traces [⟨op, answer⟩] (.ok answer) :=
    ReviewM.traces_ofProgram.mpr
      (traces_call_iff.mpr ⟨answer, [], rfl, traces_done_iff.mpr ⟨rfl, rfl⟩⟩)
  refine ReviewM.traces_check_bind.mpr ⟨first, hunsigned, ?_⟩
  refine traces_ok_bind_iff.mpr ⟨_, simulated, _, rfl, hsimulate, ?_⟩
  refine traces_ok_bind_iff.mpr ⟨_, .ok (), _, rfl, hask (.audit _) (.ok ()), ?_⟩
  refine ReviewM.traces_check_bind.mpr ⟨(), rfl, ?_⟩
  refine ReviewM.traces_check_bind.mpr ⟨summaries, hvalid, ?_⟩
  refine ReviewM.traces_check_bind.mpr ⟨policy, hpolicy, ?_⟩
  refine traces_ok_bind_iff.mpr ⟨_, now, _, rfl, hask .utcNow now, ?_⟩
  dsimp only
  rw [hverdict]
  refine ReviewM.traces_check_bind.mpr ⟨.newUnchecked simulated (.approved ruleName) rfl, ?_, ?_⟩
  · exact mapError_eq_ok.mpr (evaluatePolicy_of_not_blocked rfl)
  refine ReviewM.traces_check_bind.mpr ⟨(), ensure_eq_ok.mpr rfl, ?_⟩
  refine traces_ok_bind_iff.mpr
    ⟨_, _, [], (List.append_nil _).symm, traces_signReviewed hmessage, ?_⟩
  exact ReviewM.traces_check_bind.mpr
    ⟨_, submissionBytes_reviewedOf hslot hsignature hverify, traces_done_iff.mpr ⟨rfl, rfl⟩⟩

/-- The executor's payload is what its review gave out. -/
theorem executionReviewAndSign_ok {platform : ReviewPlatform} {wallet : PubkeyBytes}
    {candidate : RevalidatedExecutionCandidate} {unsigned : Transaction}
    {trace : List (Event reviewFace)} {payload : ReviewedSignedPayload}
    (htrace : (executionReviewAndSign platform wallet candidate unsigned).Traces trace
      (some (.ok payload))) :
    ∃ reviewed, (reviewAndSign platform wallet candidate.intentId unsigned
        (canonicalPolicy candidate.plan unsigned)).run.Traces trace (.ok reviewed) ∧
      reviewed.submissionBytes platform = .ok payload.signedTransactionBytes ∧
      reviewed.signature = payload.signature := by
  obtain ⟨before, result, after, rfl, hreview, hafter⟩ := traces_bind_iff.mp htrace
  rcases result with (_ | error) | reviewed
  · exact absurd (traces_done_iff.mp hafter).2 (by simp)
  · exact absurd (traces_done_iff.mp hafter).2 (by simp)
  · dsimp only at hafter
    cases hbytes : reviewed.submissionBytes platform with
    | error error =>
        rw [hbytes] at hafter
        exact absurd (traces_done_iff.mp hafter).2 (by simp)
    | ok bytes =>
        rw [hbytes] at hafter
        obtain ⟨rfl, hpayload⟩ := traces_done_iff.mp hafter
        rw [Option.some.injEq, Except.ok.injEq] at hpayload
        rw [List.append_nil, hpayload]
        exact ⟨reviewed, hreview, hbytes, rfl⟩

def filledKey (byte : UInt8) : PubkeyBytes := ⟨Bytes.filled 32 byte⟩

def depositWallet : PubkeyBytes :=
  ⟨⟨[230, 1, 139, 167, 107, 44, 33, 164, 235, 232, 90, 95, 99, 29, 248, 32, 80, 119, 222, 5, 201,
    40, 194, 55, 73, 30, 230, 62, 47, 16, 48, 177], rfl⟩⟩

def depositPlan : ValidatedSolendPlanInputs where
  solendProgramId := auditedSolendProgram
  inputMint := Executor.usdcMint
  inputAmountRaw := 500000
  sourceLiquidity := filledKey 3
  userCollateral := filledKey 4
  reserve := filledKey 5
  reserveLiquiditySupply := filledKey 6
  reserveCollateralMint := filledKey 7
  lendingMarket := filledKey 8
  destinationDepositCollateral := filledKey 9
  obligation := filledKey 10
  obligationOwner := depositWallet
  pythOracle := filledKey 12
  switchboardOracle := filledKey 13
  userTransferAuthority := depositWallet
  tokenProgram := classicTokenProgram
  report := .bare .ready [] 4000 (some 419000002)

/-- The unsigned deposit of the plan. -/
def depositUnsigned : Transaction where
  signatures := [defaultSignature]
  message :=
    { header := ⟨1, 0, 8⟩
      accountKeys := depositWallet :: [3, 4, 5, 6, 7, 9, 10].map filledKey ++
        [computeBudgetId, auditedSolendProgram, classicTokenProgram] ++
        [8, 12, 13, 20, 21].map filledKey
      recentBlockhash := zeroHash
      instructions :=
        [⟨8, [], reviewedComputeUnitLimitData⟩, ⟨8, [], reviewedComputeUnitPriceData⟩,
         ⟨9, [3, 12, 13, 15], [solendRefreshReserveTag]⟩,
         ⟨9, [1, 2, 3, 4, 5, 11, 14, 6, 7, 0, 12, 13, 0, 10],
          solendDepositAndObligationTag :: Codec.u64.encode 500000⟩] }

/-- The wallet's Ed25519 signature of the deposit with a blockhash of ones. -/
def depositSignature : Signature :=
  ⟨[57, 106, 208, 242, 99, 147, 28, 220, 159, 24, 100, 124, 253, 225, 47, 150, 110, 218, 58,
    203, 223, 74, 100, 183, 125, 198, 98, 151, 187, 164, 39, 159, 244, 161, 85, 226, 202, 196,
    130, 14, 77, 177, 241, 125, 223, 89, 57, 13, 154, 126, 146, 192, 185, 162, 167, 238, 211,
    202, 171, 170, 32, 214, 198, 12], rfl⟩

def depositHash : Hash := Bytes.filled 32 1

def depositSigned : Transaction :=
  { depositUnsigned.withBlockhash depositHash with signatures := [depositSignature] }

/-- The standard SDK, and a verification that knows this one signature. -/
def depositPlatform : ReviewPlatform where
  sdk := standardSdk
  verifySignature key message signature :=
    key = depositWallet && message = depositSigned.message.serialize &&
      signature = depositSignature

def depositOutput : SimulationOutput := ⟨true, none, some 150000, [], none, some 25000, []⟩

/-- A review of the deposit of the sample plan gives out bytes. -/
theorem only_reviewed_message_submitted_deposit :
    ∃ transaction simulated summaries policy now,
      Transaction.deserialize (Transaction.codec.encode depositSigned) = some transaction ∧
      ReviewedSubmission depositPlatform depositWallet "intent-1" depositPlan depositUnsigned
        (reviewTrace (depositUnsigned.withBlockhash depositHash) depositHash 1000 depositOutput 0
          depositSigned depositSignature)
        depositSignature transaction simulated summaries policy now := by
  let canonical := canonicalPolicy depositPlan depositUnsigned
  have hunsigned : (validateAndSummarize standardSdk depositUnsigned depositWallet
      canonical).isOk = true := by decide +kernel
  have hverdict : (do
      let summaries ← validateAndSummarize standardSdk
        (depositUnsigned.withBlockhash depositHash) depositWallet canonical
      let policy ← executionPolicy canonical
      pure (policy.evaluateAt (reviewContext depositWallet "intent-1" summaries
        depositOutput.intoResult) 0).verdict) =
      Except.ok (.approved "canonical-solend-deposit") := by decide +kernel
  have hbudget : hasComputeBudgetInstructions depositUnsigned = true := by decide +kernel
  have hslot : signatureOf depositSigned depositWallet = .ok depositSignature := by decide +kernel
  have hsignature : depositSignature ≠ defaultSignature := by decide
  have hverify : depositPlatform.verify depositSigned = true := by decide +kernel
  obtain ⟨first, hfirst⟩ : ∃ first, validateAndSummarize standardSdk depositUnsigned depositWallet
      canonical = .ok first := by
    cases hvalid : validateAndSummarize standardSdk depositUnsigned depositWallet canonical with
    | error => simp [hvalid, Except.isOk, Except.toBool] at hunsigned
    | ok first => exact ⟨first, rfl⟩
  obtain ⟨summaries, hvalid, hverdict⟩ := bind_eq_ok.mp hverdict
  obtain ⟨policy, hpolicy, hverdict⟩ := bind_eq_ok.mp hverdict
  have hreview : (reviewAndSign depositPlatform depositWallet "intent-1" depositUnsigned
      canonical).run.Traces
      (reviewTrace (depositUnsigned.withBlockhash depositHash) depositHash 1000 depositOutput 0
        depositSigned depositSignature)
      (.ok (reviewedOf depositWallet 1000 depositSigned depositSignature)) :=
    traces_reviewAndSign hbudget rfl hfirst hvalid hpolicy (Except.ok.inj hverdict) rfl hslot
      hsignature hverify
  exact only_reviewed_message_submitted hreview
    (submissionBytes_reviewedOf hslot hsignature hverify)

end SolFrontier.Mcp
