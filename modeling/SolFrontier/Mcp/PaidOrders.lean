import SolFrontier.Mcp.ExecuteRuns

/-! # Every transaction sent pays its order

A worker sends only what was reviewed for its own candidate, and its candidate
is that of the row it read. So whatever was sent for an intent is, exactly, the
deposit that the row of the intent and its rule order.
-/

namespace SolFrontier.Mcp

open Foundation Types SolanaCore StateStore WalletEngine Executor Protocols Program

/-! ## The reviewed transaction -/

/-- The transaction is what was built for the plan, with a blockhash and the
signature of the controlled wallet. -/
structure SignedPlan (platform : ExecutePlatform) (plan : ValidatedSolendPlanInputs)
    (tx : Transaction) : Prop where
  built : ∃ unsigned report,
    buildUnsignedTransaction platform.review.sdk platform.findProgramAddress plan =
      some (.ok (unsigned, report)) ∧
    tx.message = (unsigned.withBlockhash tx.message.recentBlockhash).message
  deposits : ∃ limit price refresh deposit,
    DepositsExactly plan platform.controlledWallet tx.message limit price refresh deposit
  signed : ∃ signature, InSlot tx platform.controlledWallet signature ∧
    platform.review.verifySignature platform.controlledWallet tx.message.serialize signature = true

/-- The bytes of a review read as its transaction: the built one but for the
blockhash, the deposit of the plan, and signed. -/
theorem reviewed_transaction {platform : ReviewPlatform} {wallet : PubkeyBytes} {intentId : String}
    {plan : ValidatedSolendPlanInputs} {unsigned : Transaction} {trace : List (Event reviewFace)}
    {reviewed : ReviewedSignedTransaction} {bytes : List UInt8}
    (hreview : (reviewAndSign platform wallet intentId unsigned
      (canonicalPolicy plan unsigned)).run.Traces trace (.ok reviewed))
    (hbytes : reviewed.submissionBytes platform = .ok bytes) :
    ∃ tx, Transaction.deserialize bytes = some tx ∧
      (tx.withBlockhash zeroHash).message = unsigned.message ∧
      (∃ limit price refresh deposit,
        DepositsExactly plan wallet tx.message limit price refresh deposit) ∧
      ∃ signature, InSlot tx wallet signature ∧
        platform.verifySignature wallet tx.message.serialize signature = true := by
  obtain ⟨_, _, hsimulated⟩ := ReviewM.traces_check_bind.mp hreview
  obtain ⟨_, simulated, _, _, _, haudited⟩ := traces_ok_bind_iff.mp hsimulated
  obtain ⟨_, _, _, _, _, hrecorded⟩ := traces_ok_bind_iff.mp haudited
  obtain ⟨_, _, hchecked⟩ := ReviewM.traces_check_bind.mp hrecorded
  obtain ⟨summaries, hvalid, hcompiled⟩ := ReviewM.traces_check_bind.mp hchecked
  obtain ⟨policy, _, hasked⟩ := ReviewM.traces_check_bind.mp hcompiled
  obtain ⟨_, now, _, _, _, hevaluated⟩ := traces_ok_bind_iff.mp hasked
  obtain ⟨approved, happroved, hrequired⟩ := ReviewM.traces_check_bind.mp hevaluated
  obtain ⟨_, _, hsigned⟩ := ReviewM.traces_check_bind.mp hrequired
  obtain ⟨_, signed, _, _, hsign, hlast⟩ := traces_ok_bind_iff.mp hsigned
  obtain ⟨_, _, hdone⟩ := ReviewM.traces_check_bind.mp hlast
  obtain rfl := Except.ok.inj (traces_done_iff.mp hdone).2
  obtain ⟨hinner, _⟩ := evaluatePolicy_ok (mapError_eq_ok.mp happroved)
  obtain ⟨hsigner, hmessageBytes⟩ := signReviewed_ok hsign
  obtain ⟨_, tx, hread, hserialize, hslot, hverify⟩ := submissionBytes_eq_ok hbytes
  -- What is signed is the simulated message, which is the one that was checked.
  have hmessage : simulated.inner.message = tx.message := by
    rw [hmessageBytes, hinner] at hserialize
    exact (Message.serialize_inj hserialize).symm
  obtain ⟨htemplate, hdeposits⟩ := depositsExactly_of_validate hvalid
  rw [hmessage] at hdeposits
  rw [hsigner] at hslot hverify
  refine ⟨tx, hread, ?_, hdeposits, _, hslot, hverify⟩
  rw [← htemplate]
  change { tx.message with recentBlockhash := zeroHash } =
    { simulated.inner.message with recentBlockhash := zeroHash }
  rw [hmessage]

variable {platform : ExecutePlatform}

/-- Whatever is printed and answered, a payload of a review carries the signed
plan of its candidate. -/
theorem signedPlan_of_review {candidate : RevalidatedExecutionCandidate}
    {emitted : Except Unit Unit} {trace : List (Event reviewFace)}
    {payload : ReviewedSignedPayload} {tx : Transaction}
    (htrace : (platform.reviewAndSign candidate emitted).Traces trace (some (.ok payload)))
    (hread : Transaction.deserialize payload.signedTransactionBytes = some tx) :
    SignedPlan platform candidate.plan tx := by
  unfold ExecutePlatform.reviewAndSign transactionAfterVisibleReview at htrace
  cases hbuilt : buildUnsignedTransaction platform.review.sdk platform.findProgramAddress
      candidate.plan with
  | none =>
      rw [hbuilt] at htrace
      exact absurd (traces_done_iff.mp htrace).2 (by simp)
  | some built =>
      rw [hbuilt] at htrace
      cases built with
      | error errorClass => exact absurd (traces_done_iff.mp htrace).2 (by simp)
      | ok built =>
          obtain ⟨unsigned, report⟩ := built
          cases emitted with
          | error => exact absurd (traces_done_iff.mp htrace).2 (by simp)
          | ok =>
              obtain ⟨reviewed, hreview, hbytes, _⟩ := executionReviewAndSign_ok htrace
              obtain ⟨other, hother, htemplate, hdeposits, hsigned⟩ :=
                reviewed_transaction hreview hbytes
              obtain rfl : tx = other := Option.some.inj (hread.symm.trans hother)
              refine ⟨⟨unsigned, report, hbuilt, ?_⟩, hdeposits, hsigned⟩
              -- Giving the normalized message its own blockhash back.
              change tx.message =
                { unsigned.message with recentBlockhash := tx.message.recentBlockhash }
              rw [← htemplate]
              rfl

/-! ## The order of a row -/

/-- The transaction is the deposit that the row and its rule order: of the
row's amount, from the row's account, into the rule's reserve, market and
obligation. -/
structure PaysOrder (platform : ExecutePlatform) (intent : W5hFundingIntent) (rule : WatchRule)
    (deposit : SolendDeposit) (plan : ValidatedSolendPlanInputs) (tx : Transaction) : Prop where
  ruleId : intent.intentId = ruleIdHex rule.ruleId
  ruleHash : intent.canonicalRuleHashHex = hexEncode (canonicalRuleHash rule).1
  action : rule.action = .solendDeposit deposit
  amount : plan.inputAmountRaw = intent.amountRaw
  ruleAmount : rule.maxInputAmountRaw = intent.amountRaw
  wallet : PubkeyBytes.fromBase58 intent.controlledWallet = .ok plan.obligationOwner
  source : PubkeyBytes.fromBase58 intent.controlledUsdcAta = .ok plan.sourceLiquidity
  reserve : plan.reserve = deposit.reservePubkey
  market : plan.lendingMarket = deposit.lendingMarket
  obligation : plan.obligation = deposit.targetObligation
  signedPlan : SignedPlan platform plan tx

theorem PaysOrder.sameOrder {intent renewed : W5hFundingIntent} {rule : WatchRule}
    {deposit : SolendDeposit} {plan : ValidatedSolendPlanInputs} {tx : Transaction}
    (hpays : PaysOrder platform intent rule deposit plan tx) (hsame : intent.SameOrder renewed) :
    PaysOrder platform renewed rule deposit plan tx := by
  unfold W5hFundingIntent.SameOrder at hsame
  rw [hsame]
  exact { hpays with }

theorem fundingSnapshot_keys {intent : W5hFundingIntent} {funding : FundingSnapshot}
    (hsnapshot : fundingSnapshot intent = .ok funding) :
    PubkeyBytes.fromBase58 intent.controlledWallet = .ok funding.controlledWallet ∧
      PubkeyBytes.fromBase58 intent.controlledUsdcAta = .ok funding.controlledUsdcAta ∧
      funding.canonicalRuleHashHex = intent.canonicalRuleHashHex := by
  unfold fundingSnapshot at hsnapshot
  split at hsnapshot
  next => cases hsnapshot
  next hwallet =>
    split at hsnapshot
    next => cases hsnapshot
    next hata =>
      obtain rfl := Except.ok.inj hsnapshot
      exact ⟨hwallet, hata, rfl⟩

/-- What is signed for the plan of a ready order pays it. -/
theorem paysOrder_of_ready {scan : ScanPlatform} {rules : WatchRuleTable}
    {intent : W5hFundingIntent} {ruleId : Bytes 16} {storedRule : StoredWatchRule}
    {funding : FundingSnapshot} {deposit : SolendDeposit} {facts : ChainFacts}
    {plan : ValidatedSolendPlanInputs} {tx : Transaction}
    (horder : ReadyOrder scan rules intent ruleId storedRule funding deposit facts plan)
    (hsigned : SignedPlan platform plan tx) :
    PaysOrder platform intent storedRule.rule deposit plan tx := by
  obtain ⟨rate, clocks, finalClocks, hadmissible, hrequired⟩ := horder.order
  obtain ⟨hamount, _, hruleAmount⟩ := horder.amount
  obtain ⟨hrule, hid⟩ := horder.ids
  obtain ⟨hwallet, hata, hhash⟩ := fundingSnapshot_keys horder.snapshot
  exact
    { ruleId := by rw [hid, hrule]
      ruleHash := by rw [← hhash, hadmissible.ruleHash]
      action := hadmissible.action
      amount := hamount
      ruleAmount := hruleAmount
      wallet := by rw [hwallet, horder.plan]; rfl
      source := by rw [hata, horder.plan, ← hrequired.sourceAta]; rfl
      reserve := by rw [horder.plan]; rfl
      market := by rw [horder.plan]; rfl
      obligation := by rw [horder.plan]; rfl
      signedPlan := hsigned }

/-! ## What a process knows -/

/-- What the calls of a process say about the world, then and later. -/
structure Vouched (platform : ExecutePlatform) (log : List (Event executeFace))
    (world : ExecuteWorld) : Prop where
  rows : ∀ id funding,
    (⟨.worker (.funding (.get id)), .ok (some funding)⟩ : Event executeFace) ∈ log →
    ∃ first row, rowToIntent first = .ok funding ∧ world.store.funding.get id = some row ∧
      first.SameOrder row
  inspections : ∀ funding inspection, (⟨.inspect funding, inspection⟩ : Event executeFace) ∈ log →
    ∃ (rules : WatchRuleTable) (readings : ScanReadings),
      inspectFundingCandidate platform.scan rules funding readings readings.sampleSlot.1
        readings.sampleSlot.2 false = some inspection
  reviews : ∀ candidate answer,
    (⟨.worker (.reviewAndSign candidate), answer⟩ : Event executeFace) ∈ log →
    ∃ emitted trace, (platform.reviewAndSign candidate emitted).Traces trace (some answer)

/-- The stored rows keep their orders. -/
def ExecuteWorld.KeepsOrders (world after : ExecuteWorld) : Prop :=
  ∀ id row, world.store.funding.get id = some row →
    ∃ current, after.store.funding.get id = some current ∧ row.SameOrder current

/-- Every transaction sent pays the order of its row. -/
def SendsPaid (platform : ExecutePlatform) (world : ExecuteWorld) : Prop :=
  ∀ sent ∈ world.sent, ∃ row rule deposit plan,
    world.store.funding.get sent.1 = some row ∧
    rowToIntent row = .ok row.toIntent ∧
    PaysOrder platform row.toIntent rule deposit plan sent.2

variable {world after : ExecuteWorld} {log : List (Event executeFace)}

theorem vouched_nil (world : ExecuteWorld) : Vouched platform [] world where
  rows _ _ hmem := by cases hmem
  inspections _ _ hmem := by cases hmem
  reviews _ _ hmem := by cases hmem

theorem keepsOrders_step {op : ExecuteOp} {answer : op.Answer}
    (hstep : executeStep platform world ⟨op, answer⟩ after) : world.KeepsOrders after := by
  have hkept : ∀ other : ExecuteWorld, other.store.funding = world.store.funding →
      world.KeepsOrders other := by
    intro other hsame id row hget
    exact ⟨row, by rw [hsame]; exact hget, .refl row⟩
  cases op with
  | worker op =>
      obtain ⟨hstore, _, _⟩ := hstep
      cases op with
      | funding op =>
          obtain ⟨table, hattempt, hafter⟩ := hstore
          intro id row hget
          rw [hafter]
          rcases attempt_stored hattempt hget with hsame | ⟨changed, _, _, _, hchange, hnext⟩
          · exact ⟨row, hsame, .refl row⟩
          · exact ⟨changed, hnext, RowRaw.SameOrder.changes hchange (.refl row)⟩
      | rules op =>
          obtain ⟨table, _, hafter⟩ := hstore
          exact hkept after (by rw [hafter])
      | sendTransaction =>
          exact hkept after (by rw [show after.store = _ from hstore])
      | _ => exact hkept after (by rw [show after.store = _ from hstore])
  | inspect funding => exact hkept after (by rw [hstep.1])
  | scan | emitCycle | emitAttempt => exact hkept after (by rw [show after = world from hstep])

theorem Vouched.keeps (hvouched : Vouched platform log world) (hkeeps : world.KeepsOrders after) :
    Vouched platform log after where
  rows id funding hmem := by
    obtain ⟨first, row, hread, hget, hsame⟩ := hvouched.rows id funding hmem
    obtain ⟨current, hcurrent, hlater⟩ := hkeeps id row hget
    exact ⟨first, current, hread, hcurrent, hsame.trans hlater⟩
  inspections := hvouched.inspections
  reviews := hvouched.reviews

/-- An answered call vouches for itself. -/
theorem Vouched.step (hvouched : Vouched platform log world) {op : ExecuteOp} {answer : op.Answer}
    (hstep : executeStep platform world ⟨op, answer⟩ after) :
    Vouched platform (log ++ [⟨op, answer⟩]) after := by
  have hkept := hvouched.keeps (keepsOrders_step hstep)
  have hlast : ∀ event : Event executeFace, event ∈ log ++ [⟨op, answer⟩] →
      event ∈ log ∨ event = ⟨op, answer⟩ := by
    intro event hmem
    rwa [List.mem_append, List.mem_singleton] at hmem
  constructor
  · intro id funding hmem
    rcases hlast _ hmem with hold | hnew
    · exact hkept.rows id funding hold
    · obtain ⟨rfl, hanswer⟩ := Event.mk.inj hnew
      obtain rfl := eq_of_heq hanswer
      obtain ⟨⟨table, hattempt, hafter⟩, _, _⟩ := hstep
      obtain ⟨_, hlookup, rfl⟩ := hattempt.of_ok
      obtain ⟨row, hget, hread⟩ := W5hFundingTable.lookup_eq_some.mp hlookup
      exact ⟨row, row, hread, by rw [hafter]; exact hget, .refl row⟩
  · intro funding inspection hmem
    rcases hlast _ hmem with hold | hnew
    · exact hkept.inspections funding inspection hold
    · obtain ⟨rfl, hanswer⟩ := Event.mk.inj hnew
      obtain rfl := eq_of_heq hanswer
      obtain ⟨_, readings, hinspection⟩ := hstep
      exact ⟨_, readings, hinspection⟩
  · intro candidate payload hmem
    rcases hlast _ hmem with hold | hnew
    · exact hkept.reviews candidate payload hold
    · obtain ⟨rfl, hanswer⟩ := Event.mk.inj hnew
      obtain rfl := eq_of_heq hanswer
      exact hstep.2.2

/-- What was reviewed for a candidate pays the order of the candidate's row. -/
theorem Vouched.pays (hvouched : Vouched platform log world) {sent : String × Transaction}
    (hreviewed : ReviewedFor log sent) :
    ∃ row rule deposit plan, world.store.funding.get sent.1 = some row ∧
      rowToIntent row = .ok row.toIntent ∧
      PaysOrder platform row.toIntent rule deposit plan sent.2 := by
  obtain ⟨candidate, payload, hid, ⟨funding, inspection, hread, hinspected, htaken⟩, hreview,
    hbytes⟩ := hreviewed
  obtain ⟨first, row, hfirst, hget, hsame⟩ := hvouched.rows _ _ hread
  obtain ⟨rules, readings, hinspection⟩ := hvouched.inspections _ _ hinspected
  obtain ⟨emitted, trace, htrace⟩ := hvouched.reviews _ _ hreview
  obtain ⟨hrow, hintent⟩ := hsame.intent hfirst
  have hready : inspection.row.status = "ready" := by
    by_contra hblocked
    rw [revalidatedCandidate_of_not_ready hblocked] at htaken
    cases htaken
  obtain ⟨ruleId, storedRule, snapshot, deposit, facts, plan, lifecycle, horder, rfl⟩ :=
    readyOrder_of_ready hinspection hready
  have hcandidate := htaken.symm.trans (revalidatedCandidate_of_order horder lifecycle _)
  split at hcandidate
  next =>
    obtain rfl := Except.ok.inj hcandidate
    have hpays := paysOrder_of_ready horder (signedPlan_of_review htrace hbytes)
    rw [hid] at hget
    exact ⟨row, storedRule.rule, deposit, plan, hget, hrow, hpays.sameOrder hintent⟩
  next => cases hcandidate

/-! ## Every interleaving -/

theorem SendsPaid.keeps (hpaid : SendsPaid platform world) (hkeeps : world.KeepsOrders after)
    {sent : String × Transaction} (hsent : sent ∈ world.sent) :
    ∃ row rule deposit plan, after.store.funding.get sent.1 = some row ∧
      rowToIntent row = .ok row.toIntent ∧
      PaysOrder platform row.toIntent rule deposit plan sent.2 := by
  obtain ⟨row, rule, deposit, plan, hget, hread, hpays⟩ := hpaid sent hsent
  obtain ⟨current, hcurrent, hsame⟩ := hkeeps _ _ hget
  obtain ⟨hrow, hintent⟩ := hsame.intent hread
  exact ⟨current, rule, deposit, plan, hcurrent, hrow, hpays.sameOrder hintent⟩

/-- A call that is allowed leaves only paid orders behind. -/
theorem sendsPaid_step {op : ExecuteOp} {answer : op.Answer} (hpaid : SendsPaid platform world)
    (hvouched : Vouched platform log world) (hallows : sendsReviewed log op)
    (hstep : executeStep platform world ⟨op, answer⟩ after) : SendsPaid platform after := by
  have hkeeps := keepsOrders_step hstep
  have hsame : after.sent = world.sent → SendsPaid platform after := by
    intro hsame sent hsent
    rw [hsame] at hsent
    exact hpaid.keeps hkeeps hsent
  cases op with
  | worker op =>
      intro sent hsent
      rw [hstep.2.1, List.mem_append] at hsent
      rcases hsent with hold | hnew
      · exact hpaid.keeps hkeeps hold
      · exact (hvouched.keeps hkeeps).pays (hallows sent hnew)
  | inspect funding => exact hsame (by rw [hstep.1])
  | scan | emitCycle | emitAttempt => exact hsame (by rw [show after = world from hstep])

def paidInvariant (platform : ExecutePlatform) :
    PoolInvariant (executeStep platform) (.recall sendsReviewed) where
  inv := SendsPaid platform
  holds := Vouched platform
  compat _ _ := True
  compat_symm _ := trivial
  step hpaid hvouched hallows hstep :=
    ⟨sendsPaid_step hpaid hvouched hallows hstep, hvouched.step hstep⟩
  frame _ _ hother _ _ hstep := ⟨hother.keeps (keepsOrders_step hstep), trivial⟩

variable {Caller : Type} [DecidableEq Caller]

theorem sendsPaid_of_reaches {funding : W5hFundingTable} {rules : WatchRuleTable}
    {pool : Pool executeFace ExecuteWorld Caller Unit}
    (hreaches : Pool.Reaches (executeStep platform) (ExecuteEntry platform)
      (.initial (.unsent funding rules)) pool) : SendsPaid platform pool.world := by
  have hunsent : (paidInvariant platform).inv (.unsent funding rules) := by
    intro sent hsent
    cases hsent
  have hinitial : (paidInvariant platform).Good (fun _ _ => True)
      (.initial (.unsent funding rules) : Pool executeFace ExecuteWorld Caller Unit) :=
    (paidInvariant platform).good_initial _ hunsent
  obtain ⟨phases, hassigned⟩ := PoolInvariant.Good.reaches
    (fun _ hentry => ExecuteEntry.reviewed hentry) (fun _ => vouched_nil) (fun _ _ => trivial)
    hinitial hreaches
  exact hassigned.inv

theorem sendsBounded_of_reaches {funding : W5hFundingTable} {rules : WatchRuleTable}
    {pool : Pool executeFace ExecuteWorld Caller Unit}
    (hreaches : Pool.Reaches (executeStep platform) (ExecuteEntry platform)
      (.initial (.unsent funding rules)) pool) (id : String) :
    (pool.world.sent.countP fun sent => sent.1 = id) ≤ 1 := by
  have hunsent : (processInvariant platform).inv (.unsent funding rules) :=
    ⟨broadcastsBounded_unsent funding rules, fun _ => rfl⟩
  have hinitial : (processInvariant platform).Good (fun _ _ => True)
      (.initial (.unsent funding rules) : Pool executeFace ExecuteWorld Caller Unit) :=
    (processInvariant platform).good_initial _ hunsent
  obtain ⟨phases, hassigned⟩ := PoolInvariant.Good.reaches
    (fun _ hentry => ExecuteEntry.follows hentry) (fun _ _ => leaseHeld_idle _)
    (fun _ => leasesApart_idle) hinitial hreaches
  obtain ⟨hbounded, hcounted⟩ := hassigned.inv
  rw [← hcounted id]
  exact (hbounded id).1

/-- For every interleaving of any number of execute-mode processes and other
users of the store, every answer of the store, the chain, the clocks, the wallet
and the network, and a crash of any of them anywhere: no two transactions are
sent for one intent, and each one sent is the signed deposit that the stored row
of its intent and the rule with the row's hash order. -/
theorem processes_pay_orders {funding : W5hFundingTable} {rules : WatchRuleTable}
    {pool : Pool executeFace ExecuteWorld Caller Unit}
    (hreaches : Pool.Reaches (executeStep platform) (ExecuteEntry platform)
      (.initial (.unsent funding rules)) pool) :
    ∀ sent ∈ pool.world.sent,
      (pool.world.sent.countP fun other => other.1 = sent.1) = 1 ∧
      ∃ row rule deposit plan, pool.world.store.funding.get sent.1 = some row ∧
        rowToIntent row = .ok row.toIntent ∧
        PaysOrder platform row.toIntent rule deposit plan sent.2 := by
  intro sent hsent
  refine ⟨?_, sendsPaid_of_reaches hreaches sent hsent⟩
  have hpos : 0 < pool.world.sent.countP fun other => other.1 = sent.1 :=
    List.countP_pos_iff.mpr ⟨sent, hsent, by simp⟩
  have hle := sendsBounded_of_reaches hreaches sent.1
  omega

/-! ## A process that pays -/

section

variable {scan : ScanPlatform} {prepared : PreparedDeposit} {readings : CandidateReadings}

/-- What an inspection finds out when every account is there and decodes. -/
theorem readChainFacts_of_accounts {observation : ConfirmedReserveObservation}
    {reserve : SolendReserveRaw} {rate : BitVec 128 × UInt32} {obligationAccount : Account}
    {obligation : SolendObligationRaw} {sourceAta collateralAta : PubkeyBytes}
    {sourceAccount collateralAccount : Option Account}
    {source collateral : Option TokenAccountFacts}
    (hreserveRead : readings.confirmedReserve prepared.action.reservePubkey = .ok observation)
    (hreserve : (decodeReserve observation.reserveAccount.data).run = some (.ok reserve))
    (hrate : (nativeSupplyAprFromReserveData observation.reserveAccount.data).run = some (.ok rate))
    (hobligationRead : readings.confirmedAccount prepared.action.targetObligation =
      .ok (some obligationAccount))
    (hobligation : (decodeObligation obligationAccount.data).run = some (.ok obligation))
    (hsourceAta : deriveAssociatedTokenAddress scan.findProgramAddress prepared.delegatedWallet
      prepared.action.inputMint splTokenProgramId = sourceAta)
    (hcollateralAta : deriveAssociatedTokenAddress scan.findProgramAddress prepared.delegatedWallet
      reserve.collateralMint splTokenProgramId = collateralAta)
    (hsourceRead : readings.confirmedAccount sourceAta = .ok sourceAccount)
    (hsource : (decodeTokenAccount scan sourceAta sourceAccount).run = some (.ok source))
    (hcollateralRead : readings.confirmedAccount collateralAta = .ok collateralAccount)
    (hcollateral : (decodeTokenAccount scan collateralAta collateralAccount).run =
      some (.ok collateral)) :
    readChainFacts scan prepared readings = pure
      { reserve := reserveFacts observation reserve
        obligation :=
          { address := prepared.action.targetObligation
            accountOwner := obligationAccount.owner
            lendingMarket := obligation.lendingMarket
            obligationOwner := obligation.owner }
        sourceLiquidity := source
        collateral
        derived := ⟨splTokenProgramId, sourceAta, collateralAta⟩
        nativeSupplyAprWad := rate.1 } := by
  have hread : ∀ {α : Type} (value : α), Inspect.read prepared.report (.ok value) = pure value :=
    fun _ => rfl
  have hdecode : ∀ {Error α : Type} (errorClass : Error → String) (decoded : Decode Error α) value,
      decoded.run = some (.ok value) →
      Inspect.decode prepared.report errorClass decoded = pure value := by
    intro Error α errorClass decoded value hrun
    rw [Inspect.decode, hrun]
    rfl
  unfold readChainFacts
  simp only [hreserveRead, hread, pure_bind]
  rw [hdecode _ _ _ hreserve, pure_bind, hdecode _ _ _ hrate, pure_bind]
  simp only [hobligationRead, hread, pure_bind, orThrow]
  rw [hdecode _ _ _ hobligation]
  simp only [pure_bind, hsourceAta, hcollateralAta, hsourceRead, hcollateralRead, hread]
  rw [hdecode _ _ _ hsource, pure_bind, hdecode _ _ _ hcollateral, pure_bind]

end

def payingWalletBs58 : String := "FAe4sisG95oZ42w7buUn5qEE4TAnfTTFPiguZUHmhiF"

def payingWallet : PubkeyBytes :=
  ⟨⟨[3, 161, 7, 191, 243, 206, 16, 190, 29, 112, 221, 24, 231, 75, 192, 153, 103, 228, 214, 48,
    155, 165, 13, 95, 29, 220, 134, 100, 18, 85, 49, 184], rfl⟩⟩

def payingUsdcAtaBs58 : String := "hkcktF2Akp3vj8pbBVJuxJfk5m41i4t4TSVLx2VoNHT"

def payingUsdcAta : PubkeyBytes :=
  ⟨⟨[10, 112, 140, 184, 110, 146, 140, 80, 192, 186, 73, 233, 104, 65, 243, 149, 15, 23, 23,
    119, 7, 68, 200, 228, 85, 47, 109, 54, 181, 177, 3, 126], rfl⟩⟩

def payingCollateralAta : PubkeyBytes :=
  ⟨⟨[202, 100, 114, 213, 55, 1, 5, 178, 204, 114, 131, 79, 188, 216, 250, 20, 224, 136, 189,
    203, 19, 238, 232, 17, 96, 191, 193, 65, 199, 24, 31, 137], rfl⟩⟩

def solendMarketAuthority : PubkeyBytes :=
  ⟨⟨[187, 169, 205, 253, 121, 174, 38, 159, 3, 111, 182, 151, 155, 75, 152, 167, 114, 146, 123,
    23, 110, 246, 183, 25, 101, 118, 135, 33, 241, 241, 242, 228], rfl⟩⟩

/-- The addresses that a deposit of the wallet derives. -/
def payingAddress : FindProgramAddress := fun seeds _ =>
  if seeds = [payingWallet.bytes.1, splTokenProgramId.bytes.1, usdcMint.bytes.1] then payingUsdcAta
  else if seeds = [payingWallet.bytes.1, splTokenProgramId.bytes.1, collateralMint.bytes.1] then
    payingCollateralAta
  else solendMarketAuthority

theorem deriveAssociatedTokenAddress_usdc :
    deriveAssociatedTokenAddress payingAddress payingWallet usdcMint splTokenProgramId =
      payingUsdcAta := by
  unfold deriveAssociatedTokenAddress payingAddress
  exact if_pos rfl

theorem deriveAssociatedTokenAddress_collateral (hmints : collateralMint ≠ usdcMint) :
    deriveAssociatedTokenAddress payingAddress payingWallet collateralMint splTokenProgramId =
      payingCollateralAta := by
  unfold deriveAssociatedTokenAddress payingAddress
  refine (if_neg fun hseeds => ?_).trans (if_pos rfl)
  simp only [List.cons.injEq, true_and, and_true] at hseeds
  exact hmints (PubkeyBytes.ext_bytes hseeds)

/-- The rule for half a USDC, of the wallet. -/
def payingRule : WatchRule :=
  { canonicalWatchRule (halfUsdcDraft 50) 419000000 with
    user := payingWallet
    executor := payingWallet
    delegatedWallet := payingWallet
    destination := payingWallet }

def payingRow : RowRaw :=
  { reservedHalfUsdc with
    canonicalRuleHashHex := hexEncode (canonicalRuleHash payingRule).1
    controlledWallet := payingWalletBs58
    controlledUsdcAta := payingUsdcAtaBs58 }

def payingTokenAccount (mint : PubkeyBytes) (amountRaw : UInt64) : List UInt8 :=
  mint.bytes.1 ++ payingWallet.bytes.1 ++ Codec.u64.encode amountRaw ++ List.replicate 36 0 ++
    [1] ++ List.replicate 56 0

def payingObligation : List UInt8 :=
  [1] ++ Codec.u64.encode 419000090 ++ [0] ++ solendLendingMarket.bytes.1 ++
    payingWallet.bytes.1 ++ List.replicate 1226 0

def payingReadings : ScanReadings where
  confirmedSlot := some (.ok 419000100)
  candidate _ :=
    { preflightNowMs := 1700000100000
      confirmedReserve := fun reserve =>
        .ok ⟨419000100, reserve, ⟨solendProgramId, halfBorrowedReserve⟩⟩
      confirmedAccount := fun address =>
        .ok (some
          (if address = solendTargetObligation then ⟨solendProgramId, payingObligation⟩
          else if address = payingUsdcAta then
            ⟨splTokenProgramId, payingTokenAccount usdcMint 500000⟩
          else ⟨splTokenProgramId, payingTokenAccount collateralMint 0⟩))
      finalSlot := .ok 419000100
      finalNowMs := 1700000100500 }

def payingFacts : ChainFacts :=
  { crowdFacts with
    obligation := { crowdFacts.obligation with obligationOwner := payingWallet }
    sourceLiquidity := some
      ⟨payingUsdcAta, splTokenProgramId, usdcMint, payingWallet, 500000, true, false⟩
    collateral := some
      ⟨payingCollateralAta, splTokenProgramId, collateralMint, payingWallet, 0, true, false⟩
    derived := ⟨splTokenProgramId, payingUsdcAta, payingCollateralAta⟩ }

def payingSnapshot : FundingSnapshot :=
  { freshSnapshot (halfUsdcDraft 50) 419000000 1700000180000 with
    canonicalRuleHashHex := hexEncode (canonicalRuleHash payingRule).1
    controlledWallet := payingWallet
    controlledUsdcAta := payingUsdcAta }

def payingDeposit : SolendDeposit where
  targetObligation := solendTargetObligation
  reservePubkey := solendReserve
  lendingMarket := solendLendingMarket
  solendProgramId := solendProgramId
  inputMint := usdcMint
  inputAmountRaw := (halfUsdcDraft 50).amountRaw

def payingPlan (report : CandidateReport) : ValidatedSolendPlanInputs :=
  planInputs payingSnapshot payingDeposit payingFacts report

def bareReport : CandidateReport := .bare .ready [] 4000 none

def payingRules : WatchRuleTable :=
  ⟨[ruleToRow .hex payingRule 1700000000000], List.nodup_singleton _⟩

def payingFunding : W5hFundingTable := ⟨[payingRow], List.nodup_singleton _⟩

/-- The unsigned deposit of the plan. -/
def payingUnsigned : Transaction where
  signatures := [defaultSignature]
  message :=
    { header := ⟨1, 0, 8⟩
      accountKeys :=
        [payingWallet, samplePubkey 8, payingUsdcAta, samplePubkey 12, collateralMint,
          solendTargetObligation, solendReserve, payingCollateralAta, computeBudgetId,
          auditedSolendProgram, clockSysvar, classicTokenProgram, samplePubkey 9,
          samplePubkey 10, solendLendingMarket, solendMarketAuthority]
      recentBlockhash := zeroHash
      instructions :=
        [⟨8, [], reviewedComputeUnitLimitData⟩, ⟨8, [], reviewedComputeUnitPriceData⟩,
         ⟨9, [6, 12, 13, 10], [solendRefreshReserveTag]⟩,
         ⟨9, [2, 7, 6, 1, 4, 14, 15, 3, 5, 0, 12, 13, 0, 11],
          solendDepositAndObligationTag :: Codec.u64.encode 500000⟩] }

theorem payingPlan_builds :
    ((buildUnsignedTransaction standardSdk payingAddress (payingPlan bareReport)).bind
      Except.toOption).map Prod.fst = some payingUnsigned := by
  decide +kernel

/-- The wallet's Ed25519 signature of it with a blockhash of ones. -/
def payingSignature : Signature :=
  ⟨[34, 36, 126, 69, 170, 157, 71, 57, 122, 160, 213, 192, 109, 181, 221, 203, 144, 162, 84, 153,
    61, 174, 227, 196, 29, 92, 76, 254, 25, 31, 152, 231, 14, 228, 234, 86, 16, 49, 23, 165, 102,
    94, 157, 210, 172, 136, 56, 143, 158, 199, 166, 131, 110, 90, 4, 93, 107, 132, 207, 73, 185,
    26, 87, 3], rfl⟩

def payingSigned : Transaction :=
  { payingUnsigned.withBlockhash depositHash with signatures := [payingSignature] }

/-- The standard SDK, and a verification that knows this one signature. -/
def payingPlatform : ExecutePlatform where
  json := .hex
  associatedTokenAddress wallet mint :=
    deriveAssociatedTokenAddress payingAddress wallet mint splTokenProgramId
  review :=
    { sdk := standardSdk
      verifySignature := fun key message signature =>
        key = payingWallet && message = payingSigned.message.serialize &&
          signature = payingSignature }
  findProgramAddress := payingAddress
  unpackTokenAccount := unpackInitialized
  controlledWallet := payingWallet

theorem paying_accounts :
    (decodeObligation payingObligation).run = some (.ok
      { version := 1
        lastUpdateSlot := 419000090
        lastUpdateStale := false
        lendingMarket := solendLendingMarket
        owner := payingWallet
        deposits := []
        borrows := []
        borrowedValueUpperBoundWads := 0
        borrowingIsolatedAsset := false
        superUnhealthyBorrowValueWads := 0
        unweightedBorrowedValueWads := 0
        closeable := false }) ∧
    (decodeTokenAccount payingPlatform.scan payingUsdcAta
      (some ⟨splTokenProgramId, payingTokenAccount usdcMint 500000⟩)).run =
        some (.ok payingFacts.sourceLiquidity) ∧
    (decodeTokenAccount payingPlatform.scan payingCollateralAta
      (some ⟨splTokenProgramId, payingTokenAccount collateralMint 0⟩)).run =
        some (.ok payingFacts.collateral) ∧
    payingUsdcAta ≠ solendTargetObligation ∧ payingCollateralAta ≠ solendTargetObligation ∧
    payingCollateralAta ≠ payingUsdcAta := by
  decide +kernel

theorem readChainFacts_paying {prepared : PreparedDeposit} {intentId : String}
    (haction : prepared.action = payingDeposit)
    (hwallet : prepared.delegatedWallet = payingWallet) :
    readChainFacts payingPlatform.scan prepared (payingReadings.candidate intentId) =
      pure payingFacts := by
  obtain ⟨hobligation, hsource, hcollateral, husdc, hreceipt, hother⟩ := paying_accounts
  obtain ⟨hreserve, hrate, _, _, _, _, _, _, hmints⟩ := decode_halfBorrowedReserve
  have hsourceAta : deriveAssociatedTokenAddress payingPlatform.scan.findProgramAddress
      prepared.delegatedWallet prepared.action.inputMint splTokenProgramId = payingUsdcAta := by
    rw [haction, hwallet]
    exact deriveAssociatedTokenAddress_usdc
  have hcollateralAta : deriveAssociatedTokenAddress payingPlatform.scan.findProgramAddress
      prepared.delegatedWallet collateralMint splTokenProgramId = payingCollateralAta := by
    rw [hwallet]
    exact deriveAssociatedTokenAddress_collateral hmints
  have hobligationRead : (payingReadings.candidate intentId).confirmedAccount
      prepared.action.targetObligation = .ok (some ⟨solendProgramId, payingObligation⟩) := by
    rw [haction]
    simp [payingReadings, payingDeposit]
  have hsourceRead : (payingReadings.candidate intentId).confirmedAccount payingUsdcAta =
      .ok (some ⟨splTokenProgramId, payingTokenAccount usdcMint 500000⟩) := by
    simp [payingReadings, husdc]
  have hcollateralRead : (payingReadings.candidate intentId).confirmedAccount payingCollateralAta =
      .ok (some ⟨splTokenProgramId, payingTokenAccount collateralMint 0⟩) := by
    simp [payingReadings, hreceipt, hother]
  have hreserveRead : (payingReadings.candidate intentId).confirmedReserve
      prepared.action.reservePubkey =
        .ok ⟨419000100, solendReserve, ⟨solendProgramId, halfBorrowedReserve⟩⟩ := by
    rw [haction]
    rfl
  rw [readChainFacts_of_accounts hreserveRead hreserve hrate hobligationRead hobligation hsourceAta
    hcollateralAta hsourceRead hsource hcollateralRead hcollateral]
  simp only [haction]
  rfl

def payingRate : SolendReserveSupplyRate where
  reservePubkey := solendReserve
  lendingMarket := solendLendingMarket
  solendProgramId := solendProgramId
  comparison := .gt
  thresholdBps := (halfUsdcDraft 50).thresholdBps
  rateKind := .apr
  formulaVersion := 1
  maxReserveStalenessSlots := 16
  requiredRefreshSameTx := true

theorem chainRequirements_paying :
    ChainRequirements payingSnapshot payingRule payingDeposit payingRate payingFacts
      ⟨1700000100500, 419000100⟩ where
  wallClock := by decide
  slotClock := by decide
  reserveAddress := rfl
  reserveProgram := rfl
  reserveMarket := rfl
  reserveMint := rfl
  decimals := rfl
  obligationAddress := rfl
  obligationProgram := rfl
  obligationMarket := rfl
  obligationOwner := rfl
  sourceAta := rfl
  tokenProgram := rfl
  source := ⟨_, rfl, ⟨rfl, rfl, rfl, rfl, rfl, rfl⟩, by decide⟩
  collateral := ⟨_, rfl, rfl, rfl, rfl, rfl, rfl, rfl⟩
  notAhead := by decide
  notStale := rfl
  fresh := by decide
  condition := by decide

/-- The row is read back as its order. -/
theorem inspectFundingCandidate_paying :
    ∃ report lifecycle, inspectFundingCandidate payingPlatform.scan payingRules payingRow.toIntent
        payingReadings payingReadings.sampleSlot.1 payingReadings.sampleSlot.2 false =
      some ((CandidateInspection.ready (payingPlan report) none).withLifecycle lifecycle) := by
  have hpaying : AdmissibleDeposit payingSnapshot payingRule payingDeposit payingRate
      ⟨1700000100000, some 419000100⟩ :=
    { schemaVersion := rfl
      oneShot := rfl
      unused := rfl
      executor := rfl
      destination := rfl
      intentId := rfl
      ruleId := rfl
      ruleHash := rfl
      wallet := rfl
      action := rfl
      program := rfl
      mint := rfl
      ruleAmount := rfl
      fundedAmount := rfl
      nonzero := by decide
      wallClock := by decide
      slotClock := ⟨419000100, rfl, by decide⟩
      logic := rfl
      conditions := rfl
      rateReserve := rfl
      rateMarket := rfl
      rateProgram := rfl
      rateKind := rfl
      formula := rfl
      staleness := rfl
      refresh := rfl
      threshold := rfl
      thresholdPos := by decide
      thresholdLe := by decide }
  have hsnapshot : fundingSnapshot payingRow.toIntent = .ok payingSnapshot := by
    have hwallet : PubkeyBytes.fromBase58 payingWalletBs58 = .ok payingWallet := by decide +kernel
    have hata : PubkeyBytes.fromBase58 payingUsdcAtaBs58 = .ok payingUsdcAta := by decide +kernel
    unfold fundingSnapshot
    simp only [show payingRow.toIntent.controlledWallet = payingWalletBs58 from rfl,
      show payingRow.toIntent.controlledUsdcAta = payingUsdcAtaBs58 from rfl, hwallet, hata]
    rfl
  have hstored : WatchRule.codec.valid payingRule :=
    WatchRule.codec_valid (show payingRule.conditions.length < 256 ^ 4 by decide)
  have hmem : ruleToRow .hex payingRule 1700000000000 ∈ payingRules.rows :=
    List.mem_singleton_self _
  have hget : payingRules.get (ruleIdHex payingRule.ruleId) =
      some (ruleToRow .hex payingRule 1700000000000) :=
    payingRules.get_of_mem hmem
  have hlookup : payingRules.lookup payingPlatform.scan.json payingRule.ruleId =
      .ok (some (.fresh payingRule 1700000000000)) :=
    WatchRuleTable.lookup_eq_some.mpr ⟨_, hget, rowToStored_ruleToRow _ hstored _⟩
  have hid : payingRow.toIntent.intentId =
      ruleIdHex (StoredWatchRule.fresh payingRule 1700000000000).rule.ruleId := rfl
  exact inspectFundingCandidate_eq_of_requirements hid rfl hlookup rfl hsnapshot rfl hpaying
    (fun prepared haction hwallet => readChainFacts_paying haction hwallet) rfl
    chainRequirements_paying

def payingCandidate (report : CandidateReport) : RevalidatedExecutionCandidate where
  intentId := payingRow.toIntent.intentId
  ruleId := payingRule.ruleId
  amountRaw := payingRow.toIntent.amountRaw
  plan := payingPlan report

def payingPayload : ReviewedSignedPayload where
  signedTransactionBytes := Transaction.codec.encode payingSigned
  signature := payingSignature
  lastValidBlockHeight := 1000

/-- The policy of a plan does not depend on its report. -/
theorem canonicalPolicy_payingPlan (report : CandidateReport) (unsigned : Transaction) :
    canonicalPolicy (payingPlan report) unsigned =
      canonicalPolicy (payingPlan bareReport) unsigned := rfl

theorem buildUnsignedTransaction_paying (report : CandidateReport) :
    ∃ transactionReport, buildUnsignedTransaction standardSdk payingAddress (payingPlan report) =
      some (.ok (payingUnsigned, transactionReport)) := by
  obtain ⟨⟨unsigned, transactionReport⟩, hbuilt, rfl⟩ := Option.map_eq_some_iff.mp payingPlan_builds
  obtain ⟨result, hresult, hok⟩ := Option.bind_eq_some_iff.mp hbuilt
  cases result with
  | error => cases hok
  | ok found =>
      obtain rfl := Option.some.inj hok
      exact ⟨transactionReport, hresult⟩

theorem payingUnsigned_reviewable :
    (validateAndSummarize standardSdk payingUnsigned payingWallet
      (canonicalPolicy (payingPlan bareReport) payingUnsigned)).isOk = true ∧
    (do
      let summaries ← validateAndSummarize standardSdk (payingUnsigned.withBlockhash depositHash)
        payingWallet (canonicalPolicy (payingPlan bareReport) payingUnsigned)
      let policy ← executionPolicy (canonicalPolicy (payingPlan bareReport) payingUnsigned)
      pure (policy.evaluateAt (reviewContext payingWallet payingRow.intentId summaries
        depositOutput.intoResult) 0).verdict) =
      Except.ok (.approved "canonical-solend-deposit") ∧
    hasComputeBudgetInstructions payingUnsigned = true ∧
    signatureOf payingSigned payingWallet = .ok payingSignature ∧
    payingSignature ≠ defaultSignature ∧
    payingPlatform.review.verify payingSigned = true := by
  decide +kernel

def payingReview : List (Event reviewFace) :=
  reviewTrace (payingUnsigned.withBlockhash depositHash) depositHash 1000 depositOutput 0
    payingSigned payingSignature

theorem reviewAndSign_paying {platform : ReviewPlatform} (hsdk : platform.sdk = standardSdk)
    (hverify : platform.verify payingSigned = true) :
    (reviewAndSign platform payingWallet payingRow.intentId payingUnsigned
      (canonicalPolicy (payingPlan bareReport) payingUnsigned)).run.Traces payingReview
      (.ok (reviewedOf payingWallet 1000 payingSigned payingSignature)) := by
  obtain ⟨hunsigned, hverdict, hbudget, hslot, hsignature, _⟩ := payingUnsigned_reviewable
  obtain ⟨first, hfirst⟩ : ∃ first, validateAndSummarize standardSdk payingUnsigned payingWallet
      (canonicalPolicy (payingPlan bareReport) payingUnsigned) = .ok first := by
    revert hunsigned
    cases validateAndSummarize standardSdk payingUnsigned payingWallet
      (canonicalPolicy (payingPlan bareReport) payingUnsigned) with
    | error => exact fun hfalse => by cases hfalse
    | ok first => exact fun _ => ⟨first, rfl⟩
  obtain ⟨summaries, hvalid, hverdict⟩ := bind_eq_ok.mp hverdict
  obtain ⟨policy, hpolicy, hverdict⟩ := bind_eq_ok.mp hverdict
  rw [← hsdk] at hfirst hvalid
  exact traces_reviewAndSign hbudget rfl hfirst hvalid hpolicy (Except.ok.inj hverdict) rfl hslot
    hsignature hverify

/-- The review of the order's plan gives out its signed bytes. -/
theorem traces_paying (report : CandidateReport) :
    (payingPlatform.reviewAndSign (payingCandidate report) (.ok ())).Traces payingReview
      (some (.ok payingPayload)) := by
  obtain ⟨transactionReport, hbuilt⟩ := buildUnsignedTransaction_paying report
  obtain ⟨_, _, _, hslot, hsignature, hverify⟩ := payingUnsigned_reviewable
  unfold ExecutePlatform.reviewAndSign transactionAfterVisibleReview
  rw [show buildUnsignedTransaction payingPlatform.review.sdk payingPlatform.findProgramAddress
    (payingCandidate report).plan = _ from hbuilt]
  refine traces_bind_iff.mpr ⟨_, .ok (reviewedOf payingWallet 1000 payingSigned payingSignature),
    [], (List.append_nil _).symm, reviewAndSign_paying rfl hverify, ?_⟩
  dsimp only
  rw [submissionBytes_reviewedOf hslot hsignature hverify]
  exact traces_done_iff.mpr ⟨rfl, rfl⟩

/-! The one cycle: the row is found ready, leased, reviewed and sent, and the
answer of the send is lost. -/

def payingScan : WatchCycleReport where
  mode := ScanMode.executePreflight.reportMode
  databaseAccess := ScanMode.executePreflight.databaseAccess
  currentConfirmedSlot := some 419000100
  slotErrorClass := none
  rows := [.databaseOnly "ready" (some payingRow.intentId) (some payingRow.intentId)]
  summary := []
  scanErrors := []

/-- The order's row is leased, and nothing was sent yet. -/
def leasedWorld : ExecuteWorld :=
  .unsent (payingFunding.execute
    (W5hOp.statement 0 (.leaseExecutionIfBudgetReserved payingRow.intentId 1700000101000)))
    payingRules

def paidWorld : ExecuteWorld where
  store :=
    { leasedWorld.store with sends := Function.update (fun _ => 0) payingRow.intentId 1 }
  sent := [(payingRow.intentId, payingSigned)]

theorem executeStep_get :
    executeStep payingPlatform (.unsent payingFunding payingRules)
      ⟨.worker (.funding (.get payingRow.intentId)), .ok (some payingRow.toIntent)⟩
      (.unsent payingFunding payingRules) := by
  have hrow : payingFunding.get payingRow.intentId = some payingRow :=
    payingFunding.get_of_mem (List.mem_singleton_self _)
  have hread : rowToIntent payingRow = .ok payingRow.toIntent :=
    rowToIntent_ok.mpr ⟨by decide, rfl⟩
  have hlookup : payingFunding.lookup payingRow.intentId = .ok (some payingRow.toIntent) :=
    W5hFundingTable.lookup_eq_some.mpr ⟨payingRow, hrow, hread⟩
  have hresult : w5hFundingRepository.result payingFunding (.get payingRow.intentId) 0 =
      .ok (some payingRow.toIntent) := hlookup
  exact ⟨⟨_, .of_result hresult, rfl⟩, rfl, trivial⟩

theorem executeStep_lease :
    executeStep payingPlatform (.unsent payingFunding payingRules)
      ⟨.worker (.funding (.leaseExecutionIfBudgetReserved payingRow.intentId 1700000101000)), .ok 1⟩
      leasedWorld := by
  have hrow : payingFunding.get payingRow.intentId = some payingRow :=
    payingFunding.get_of_mem (List.mem_singleton_self _)
  have hleased : (payingFunding.update payingRow.intentId
      (W5hWrite.leaseExecutionIfBudgetReserved 1700000101000)).2 = 1 :=
    (Table.update_affected _ _ _).mpr ⟨payingRow, hrow, by decide⟩
  have hresult : w5hFundingRepository.result payingFunding
      (.leaseExecutionIfBudgetReserved payingRow.intentId 1700000101000) 0 = .ok (1 : Nat) :=
    congrArg Except.ok hleased
  exact ⟨⟨_, .of_result hresult, rfl⟩, rfl, trivial⟩

def payingReport (report : CandidateReport) : ExecutionAttemptReport :=
  { ExecutionAttemptReport.base (payingCandidate report) with
    status := "result_unknown_manual_reconciliation_required"
    signature := some payingSignature.text
    errorClass := some "send_result_unknown"
    fundingState := "executing" }

/-- A worker sends the reviewed transaction and loses the answer. -/
theorem executes_payingWorker (report : CandidateReport) :
    Executes (executeStep payingPlatform) (.unsent payingFunding payingRules)
      ((executeRevalidatedCandidate payingPlatform.store (payingCandidate report)).via workerPort)
      paidWorld (payingReport report) := by
  have hdecode : payingPlatform.store.deserializeTransaction payingPayload.signedTransactionBytes =
      some payingSigned := Transaction.deserialize_encode payingSigned
  have hreviewed : payingPlatform.Permits (.reviewAndSign (payingCandidate report))
      (.ok payingPayload) := ⟨.ok (), payingReview, traces_paying report⟩
  have hclock : executeStep payingPlatform (.unsent payingFunding payingRules)
      ⟨.worker .nowMs, (1700000101000 : Int64)⟩ (.unsent payingFunding payingRules) :=
    ⟨rfl, rfl, trivial⟩
  have hreview : executeStep payingPlatform leasedWorld
      ⟨.worker (.reviewAndSign (payingCandidate report)), .ok payingPayload⟩ leasedWorld :=
    ⟨rfl, rfl, hreviewed⟩
  have hclient : executeStep payingPlatform leasedWorld ⟨.worker .writeClient, .ok ()⟩
      leasedWorld :=
    ⟨rfl, rfl, trivial⟩
  have hsend : executeStep payingPlatform leasedWorld
      ⟨.worker (.sendTransaction payingRow.intentId payingSigned), .error ()⟩ paidWorld :=
    ⟨rfl, rfl, trivial⟩
  refine .call _ hclock (.call _ executeStep_lease (.call _ hreview (.call _ hclient ?_)))
  simp only [submitTransaction, hdecode]
  exact .call _ hsend (.done _ _)

/-- The order's inspection gives its candidate. -/
theorem revalidatedCandidate_paying :
    ∃ report lifecycle, inspectFundingCandidate payingPlatform.scan payingRules payingRow.toIntent
        payingReadings payingReadings.sampleSlot.1 payingReadings.sampleSlot.2 false =
      some ((CandidateInspection.ready (payingPlan report) none).withLifecycle lifecycle) ∧
      revalidatedCandidate
        ((CandidateInspection.ready (payingPlan report) none).withLifecycle lifecycle)
        payingRow.intentId = .ok (payingCandidate report) := by
  obtain ⟨report, lifecycle, hinspection⟩ := inspectFundingCandidate_paying
  refine ⟨report, lifecycle, hinspection, ?_⟩
  obtain ⟨ruleId, _, _, _, _, plan, other, horder, hsame⟩ := readyOrder_of_ready hinspection rfl
  obtain rfl : payingPlan report = plan :=
    Option.some.inj (congrArg CandidateInspection.plan hsame)
  obtain rfl : payingRule.ruleId = ruleId := by
    have hexact : exactRuleId (ruleIdHex payingRule.ruleId) = some ruleId := horder.exact
    exact Option.some.inj ((exactRuleId_ruleIdHex _).symm.trans hexact)
  exact (revalidatedCandidate_of_order horder lifecycle _).trans (if_pos rfl)

theorem executes_paying :
    Executes (executeStep payingPlatform) (.unsent payingFunding payingRules)
      (runExecuteWatch payingPlatform.store 1) paidWorld () := by
  obtain ⟨report, lifecycle, hinspection, hcandidate⟩ := revalidatedCandidate_paying
  have hids : executeReadyIntentIds payingScan = .ok [payingRow.intentId] := rfl
  have hinspected : Executes (executeStep payingPlatform) (.unsent payingFunding payingRules)
      (revalidateOne payingRow.intentId) (.unsent payingFunding payingRules)
      ((CandidateInspection.ready (payingPlan report) none).withLifecycle lifecycle) :=
    .call _ executeStep_get (.call _ ⟨rfl, payingReadings, hinspection⟩ (.done _ _))
  have hattempted : Executes (executeStep payingPlatform) (.unsent payingFunding payingRules)
      (executeFromFinalRevalidation payingPlatform.store
        ((CandidateInspection.ready (payingPlan report) none).withLifecycle lifecycle)
        payingRow.intentId) paidWorld (.ok (payingReport report)) := by
    simp only [executeFromFinalRevalidation, hcandidate]
    exact Executes.bind_iff.mpr ⟨_, _, executes_payingWorker report, .done _ _⟩
  have hintents : Executes (executeStep payingPlatform) (.unsent payingFunding payingRules)
      (executeReadyIntents payingPlatform.store [payingRow.intentId]) paidWorld false :=
    Executes.bind_iff.mpr ⟨_, _, hinspected, Executes.bind_iff.mpr ⟨paidWorld, _, hattempted,
      .call (.ok ()) rfl (.done _ _)⟩⟩
  refine Executes.bind_iff.mpr ⟨paidWorld, false, .call payingScan rfl (.call (.ok ()) rfl ?_),
    .done _ _⟩
  simp only [Program.bind, hids]
  exact hintents

/-- The process of the order for half a USDC sends its deposit, and sends it once. -/
theorem processes_pay_orders_paying :
    (paidWorld.sent.countP fun sent => sent.1 = payingRow.intentId) = 1 ∧
      ∃ row rule deposit plan, paidWorld.store.funding.get payingRow.intentId = some row ∧
        rowToIntent row = .ok row.toIntent ∧
        PaysOrder payingPlatform row.toIntent rule deposit plan payingSigned := by
  let first : Pool executeFace ExecuteWorld Unit Unit :=
    .initial (.unsent payingFunding payingRules)
  have hstart : Pool.Reaches (executeStep payingPlatform) (ExecuteEntry payingPlatform)
      first first := .refl
  have hidle : first.callers () = none := rfl
  have hreaches := hstart.start_run hidle (.process 1) executes_paying
  exact processes_pay_orders hreaches (payingRow.intentId, payingSigned) (List.mem_singleton_self _)

end SolFrontier.Mcp
