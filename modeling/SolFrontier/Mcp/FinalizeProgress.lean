import SolFrontier.Mcp.FinalizeRuns

/-! # Calls of finalize that go through

The converse of reading a run off its result: where the store and the answers
let a stage go on, a run with the expected end exists.
-/

namespace SolFrontier.Mcp

open Foundation Types SolanaCore StateStore Program

variable {platform : Platform} {permits : Event mcpFace → Prop} {world middle after : World}
  {params : FinalizeIntentParams} {draft : DraftIntent} {snapshot : FinalizeMarketSnapshot}
  {userWallet : PubkeyBytes}

/-- An answer that lets a call of finalize go on. -/
inductive Smooth (snapshot : FinalizeMarketSnapshot) : Event mcpFace → Prop
  | clock (nowMs : Int64) : Smooth snapshot ⟨.nowMs, nowMs⟩
  | claimed (draftId draftHash : String) (consumedAtMs : Int64) :
      Smooth snapshot ⟨.claimDraft draftId draftHash consumedAtMs, .claimed⟩
  | market : Smooth snapshot ⟨.fetchSnapshot, .ok snapshot⟩
  | indexed (ruleHash intentId draftId draftHash : String) (indexedAtMs : Int64) :
      Smooth snapshot ⟨.indexHash ruleHash intentId draftId draftHash indexedAtMs, .indexed⟩
  | ruleInsert (rule : WatchRule) (answer : Except StoreError Unit) :
      Smooth snapshot ⟨.rules (.insert rule), answer⟩
  | ruleFound (ruleId : Bytes 16) (stored : StoredWatchRule) :
      Smooth snapshot ⟨.rules (.get ruleId), .ok (some stored)⟩
  | funding (op : W5hOp) (answer : Except StoreError op.Answer) :
      Smooth snapshot ⟨.funding op, answer⟩

/-- A clock that does not go back before the epoch. -/
def AfterEpoch : Event mcpFace → Prop
  | ⟨.nowMs, nowMs⟩ => 0 ≤ Int64.toInt nowMs
  | _ => True

/-! ## The pair a call writes -/

/-- A freshly written pair passes the identity check. -/
theorem fundingRowMatchesIdentity_fresh (platform : Platform) (draft : DraftIntent)
    (snapshot : FinalizeMarketSnapshot) (userWallet : PubkeyBytes) (slot : UInt64)
    (createdAtMs nowMs : Int64) :
    fundingRowMatchesIdentity platform
      ((newFundingIntent platform draft snapshot userWallet (canonicalWatchRule draft slot)
        draft.amountRaw createdAtMs).intent nowMs)
      (canonicalWatchRule draft slot) (hexEncode (canonicalWatchRule draft slot).ruleId.1)
      (hexEncode (canonicalRuleHash (canonicalWatchRule draft slot)).1) = true := by
  have hamount : hasExactSolendDepositAmountInvariant (canonicalWatchRule draft slot)
      draft.amountRaw = true :=
    decide_eq_true (canonicalSolendDepositAmountRaw_canonical draft slot)
  simp [fundingRowMatchesIdentity, NewW5hFundingIntent.intent, newFundingIntent,
    eqIgnoreAsciiCase, hamount]
  simp [canonicalWatchRule]

/-! ## Stages that go through -/

section
variable (hsmooth : ∀ event, Smooth snapshot event → AfterEpoch event → permits event)
include hsmooth

/-- A rule with a free id is inserted. -/
theorem persistRule_inserts {fresh : WatchRule}
    (hfree : world.rules.get (ruleIdHex fresh.ruleId) = none) (nowMs : Int64) :
    Executes (mcpWorld platform permits) world (persistRuleWithLegacyRecovery fresh)
      { world with
        rules := world.rules.execute (.insert (ruleToRow platform.json fresh nowMs)) }
      (fresh, true) := by
  have hinserted : (watchRuleRepository platform.json).result world.rules (.insert fresh) nowMs =
      .ok () := watchRule_insert_ok.mpr hfree
  exact executes_request.mpr ⟨.ok (), _,
    ⟨hsmooth _ (.ruleInsert ..) trivial, _, .of_result hinserted, rfl⟩, .done _ _⟩

/-- A rule whose id is taken gives way to the stored one. -/
theorem persistRule_recovers {fresh : WatchRule} {row : WatchRuleRowRaw} {stored : StoredWatchRule}
    (hget : world.rules.get (ruleIdHex fresh.ruleId) = some row)
    (hstored : rowToStored platform.json row = .ok stored) :
    Executes (mcpWorld platform permits) world (persistRuleWithLegacyRecovery fresh) world
      (stored.rule, true) := by
  have hrefused : (watchRuleRepository platform.json).Attempt world.rules (.insert fresh)
      (.error StoreError.sqlx) world.rules := .failedBefore _
  have hfound : (watchRuleRepository platform.json).result world.rules (.get fresh.ruleId) 0 =
      .ok (some stored) := WatchRuleTable.lookup_eq_some.mpr ⟨row, hget, hstored⟩
  refine executes_request.mpr ⟨.error .sqlx, world,
    ⟨hsmooth _ (.ruleInsert ..) trivial, _, hrefused, rfl⟩, ?_⟩
  exact executes_request.mpr ⟨.ok (some stored), world,
    ⟨hsmooth _ (.ruleFound ..) trivial, _, .of_result hfound, rfl⟩, .done _ _⟩

/-- A funding row with a free id is inserted and read back. -/
theorem persistFunding_inserts {fresh : NewW5hFundingIntent}
    (hamount : fresh.amountRaw.toNat < 2 ^ 63)
    (hfree : world.funding.get fresh.intentId = none) (nowMs : Int64) :
    Executes (mcpWorld platform permits) world (persistFundingWithLegacyRecovery fresh)
      { world with funding := world.funding.execute (.insert (fresh.toRow nowMs)) }
      (.ok (.inserted (fresh.intent nowMs))) := by
  have hinserted : w5hFundingRepository.result world.funding (.insert fresh) nowMs = .ok () :=
    w5hFunding_insert_ok.mpr hfree
  have hfound : w5hFundingRepository.result
      (world.funding.execute (.insert (fresh.toRow nowMs))) (.get fresh.intentId) 0 =
      .ok (some (fresh.intent nowMs)) :=
    W5hFundingTable.lookup_eq_some.mpr ⟨fresh.toRow nowMs,
      Table.get_execute_inserted hfree, rowToIntent_toRow hamount nowMs⟩
  refine executes_request.mpr ⟨.ok (), _,
    ⟨hsmooth _ (.funding ..) trivial, _, .of_result hinserted, rfl⟩, ?_⟩
  exact executes_request.mpr ⟨.ok (some (fresh.intent nowMs)), _,
    ⟨hsmooth _ (.funding ..) trivial, _, .of_result hfound, rfl⟩, .done _ _⟩

/-- A funding row that cannot be stored ends the call with the store's error. -/
theorem finalizeFunding_fails (rule : WatchRule) (amountRaw : UInt64) {createdAtMs : Int64}
    (hcreated : 0 ≤ createdAtMs.toInt) (error : StoreError) :
    Executes (mcpWorld platform permits) world
      (finalizeFunding platform params draft snapshot userWallet rule true amountRaw) world
      (.error (.stateStore error)) := by
  refine (executes_quiet rfl).mpr ⟨createdAtMs, hsmooth _ (.clock _) hcreated, ?_⟩
  refine executes_request.mpr ⟨.error error, world,
    ⟨hsmooth _ (.funding ..) trivial, _, .failedBefore _, rfl⟩, ?_⟩
  exact executes_request.mpr ⟨.error error, world,
    ⟨hsmooth _ (.funding ..) trivial, _, .failedBefore _, rfl⟩, .done _ _⟩

/-- A hand-off whose checks pass offers the funding. -/
theorem finalizeHandOff_offers (world : World) (params : FinalizeIntentParams) {rule : WatchRule}
    {persistence : FundingPersistOutcome} {checkedAtMs : Int64}
    (hhanded : HandedOff platform userWallet rule persistence checkedAtMs)
    (hchecked : 0 ≤ checkedAtMs.toInt) :
    Executes (mcpWorld platform permits) world
      (finalizeHandOff platform params userWallet rule true persistence) world
      (.ok (actionableResponse params persistence.intoRow (hexEncode rule.ruleId.1)
        (hexEncode (canonicalRuleHash rule).1) persistence.isExisting
        (persistence.intoRow.userWallet = userWallet.toBase58))) := by
  have hready : ¬ (persistence.intoRow.status ≠ .fundingRequired ∨
      persistence.intoRow.expiresAtMs ≤ checkedAtMs) := by
    rw [not_or, not_not]
    exact ⟨hhanded.status, Int64.not_le.mpr hhanded.deadline⟩
  have hwallet : ¬ (persistence.isExisting = true ∧
      ¬ persistence.intoRow.userWallet = userWallet.toBase58) := by
    rw [not_and, not_not]
    exact hhanded.wallet
  unfold finalizeHandOff
  dsimp only
  rw [if_neg (not_not.mpr rfl), if_neg (not_not.mpr hhanded.identity), if_neg hwallet]
  refine (executes_quiet rfl).mpr ⟨checkedAtMs, hsmooth _ (.clock _) hchecked, ?_⟩
  rw [if_neg hready]
  exact .done _ _

/-- A fresh funding row is stored and handed off. -/
theorem finalizeFunding_inserts (platform : Platform) (world : World)
    (params : FinalizeIntentParams) (userWallet : PubkeyBytes) (slot : UInt64)
    {createdAtMs checkedAtMs : Int64} (hcreated : 0 ≤ createdAtMs.toInt)
    (hchecked : 0 ≤ checkedAtMs.toInt) (hvalid : draft.Validated)
    (hfree : world.funding.get (hexEncode (canonicalWatchRule draft slot).ruleId.1) = none)
    (hopen : checkedAtMs < saturatingAddI64 createdAtMs fundingWindowMs) (nowMs : Int64) :
    Executes (mcpWorld platform permits) world
      (finalizeFunding platform params draft snapshot userWallet (canonicalWatchRule draft slot)
        true draft.amountRaw)
      { world with
        funding := world.funding.execute (.insert ((newFundingIntent platform draft snapshot
          userWallet (canonicalWatchRule draft slot) draft.amountRaw createdAtMs).toRow nowMs)) }
      (.ok (actionableResponse params
        ((newFundingIntent platform draft snapshot userWallet (canonicalWatchRule draft slot)
          draft.amountRaw createdAtMs).intent nowMs)
        (hexEncode (canonicalWatchRule draft slot).ruleId.1)
        (hexEncode (canonicalRuleHash (canonicalWatchRule draft slot)).1) false true)) := by
  have hamount : draft.amountRaw.toNat < 2 ^ 63 := by
    have hle := UInt64.le_iff_toNat_le.mp hvalid.amount.2
    have hmax : maxAmountRaw.toNat = 1000000 := rfl
    omega
  refine (executes_quiet rfl).mpr ⟨createdAtMs, hsmooth _ (.clock _) hcreated, ?_⟩
  refine Executes.bind_iff.mpr ⟨_, _, persistFunding_inserts hsmooth hamount hfree nowMs, ?_⟩
  have hhanded : HandedOff platform userWallet (canonicalWatchRule draft slot)
      (.inserted ((newFundingIntent platform draft snapshot userWallet
        (canonicalWatchRule draft slot) draft.amountRaw createdAtMs).intent nowMs)) checkedAtMs :=
    { identity := fundingRowMatchesIdentity_fresh ..
      wallet := fun _ => rfl
      status := rfl
      deadline := hopen }
  have hoffered := finalizeHandOff_offers hsmooth { world with
    funding := world.funding.execute (.insert ((newFundingIntent platform draft snapshot
      userWallet (canonicalWatchRule draft slot) draft.amountRaw createdAtMs).toRow nowMs)) }
    params hhanded hchecked
  simpa [FundingPersistOutcome.intoRow, FundingPersistOutcome.isExisting,
    NewW5hFundingIntent.intent, newFundingIntent] using hoffered

/-- An accepted request runs from its rule on to its funding row. -/
theorem finalizeIntentJson_runs {rule : WatchRule} {result : FinalizeResult}
    (haccepted : params.Accepted draft userWallet)
    (hstored : Executes (mcpWorld platform permits) world
      (persistRuleWithLegacyRecovery (canonicalWatchRule draft snapshot.lastCheckedSlot)) middle
      (rule, true))
    (hcanonical : rule = canonicalWatchRule draft rule.createdAtSlot)
    (hfunding : Executes (mcpWorld platform permits) middle
      (finalizeFunding platform params draft snapshot userWallet rule true draft.amountRaw)
      after result) :
    Executes (mcpWorld platform permits) world (finalizeIntentJson platform params true) after
      result := by
  have hvalid := validated_of_ok haccepted.validated
  have hcanonicalDraft : validateCanonicalSolendDepositDraft draft = .ok () := by
    simp [validateCanonicalSolendDepositDraft, hvalid.action, hvalid.protocol, hvalid.asset,
      hvalid.displaySource, hvalid.comparison, hvalid.expiry, hvalid.wallet, hvalid.ata]
  have hhashed : validateAndHashDraft params.proposal = .ok (draft, params.draftHash) :=
    bind_eq_ok.mpr ⟨draft, haccepted.validated, by rw [haccepted.hash]⟩
  have hbuilt : buildWatchRule draft snapshot.lastCheckedSlot =
      .ok (canonicalWatchRule draft snapshot.lastCheckedSlot) :=
    bind_eq_ok.mpr ⟨(), hcanonicalDraft, rfl⟩
  have hamount : canonicalSolendDepositAmountRaw rule = some draft.amountRaw := by
    rw [hcanonical]
    exact canonicalSolendDepositAmountRaw_canonical ..
  have hstart : 0 ≤ (0 : Int64).toInt := by decide
  simp only [finalizeIntentJson, hhashed, hcanonicalDraft, haccepted.wallet]
  rw [if_neg (not_not.mpr rfl), if_neg (not_not.mpr haccepted.draftId),
    if_neg (not_not.mpr trivial)]
  refine (executes_quiet rfl).mpr ⟨0, hsmooth _ (.clock _) hstart, ?_⟩
  refine (executes_quiet rfl).mpr ⟨.claimed, hsmooth _ (.claimed ..) trivial, ?_⟩
  refine (executes_quiet rfl).mpr ⟨0, hsmooth _ (.clock _) hstart, ?_⟩
  refine (executes_quiet rfl).mpr ⟨.ok snapshot, hsmooth _ .market trivial, ?_⟩
  simp only [hbuilt]
  refine Executes.bind_iff.mpr ⟨middle, _, hstored, ?_⟩
  unfold finalizeRule
  rw [if_neg (not_and.mpr fun _ => not_not.mpr hcanonical)]
  simp only [hamount]
  refine Executes.bind_iff.mpr ⟨middle, (), ?_, hfunding⟩
  refine (executes_quiet rfl).mpr ⟨0, hsmooth _ (.clock _) hstart, ?_⟩
  exact (executes_quiet rfl).mpr ⟨.indexed, hsmooth _ (.indexed ..) trivial, .done _ _⟩

/-- The world after a first call for a draft, at one reading of the clock. -/
def World.finalized (platform : Platform) (world : World) (draft : DraftIntent)
    (snapshot : FinalizeMarketSnapshot) (userWallet : PubkeyBytes) (nowMs : Int64) : World where
  funding := world.funding.execute (.insert ((newFundingIntent platform draft snapshot userWallet
    (canonicalWatchRule draft snapshot.lastCheckedSlot) draft.amountRaw nowMs).toRow nowMs))
  rules := world.rules.execute (.insert
    (ruleToRow platform.json (canonicalWatchRule draft snapshot.lastCheckedSlot) nowMs))
  sends := world.sends

/-- The offer a first call for a draft makes. -/
def firstOffer (platform : Platform) (params : FinalizeIntentParams) (draft : DraftIntent)
    (snapshot : FinalizeMarketSnapshot) (userWallet : PubkeyBytes) (nowMs : Int64) : Json :=
  actionableResponse params
    ((newFundingIntent platform draft snapshot userWallet
      (canonicalWatchRule draft snapshot.lastCheckedSlot) draft.amountRaw nowMs).intent nowMs)
    (hexEncode (canonicalWatchRule draft snapshot.lastCheckedSlot).ruleId.1)
    (hexEncode (canonicalRuleHash (canonicalWatchRule draft snapshot.lastCheckedSlot)).1) false true

omit hsmooth in
theorem offersFunding_firstOffer (platform : Platform) (params : FinalizeIntentParams)
    (draft : DraftIntent) (snapshot : FinalizeMarketSnapshot) (userWallet : PubkeyBytes)
    (nowMs : Int64) :
    offersFunding (firstOffer platform params draft snapshot userWallet nowMs) = true :=
  (offersFunding_actionableResponse ..).1

/-- A first call for a draft writes its pair and offers it. -/
theorem finalizeIntentJson_inserts (platform : Platform) (world : World)
    (haccepted : params.Accepted draft userWallet) {nowMs : Int64} (hnow : 0 ≤ nowMs.toInt)
    (hrule : world.rules.get (ruleIdHex (canonicalWatchRule draft snapshot.lastCheckedSlot).ruleId) =
      none)
    (hfunding : world.funding.get
      (hexEncode (canonicalWatchRule draft snapshot.lastCheckedSlot).ruleId.1) = none)
    (hopen : nowMs < saturatingAddI64 nowMs fundingWindowMs) :
    Executes (mcpWorld platform permits) world (finalizeIntentJson platform params true)
      (world.finalized platform draft snapshot userWallet nowMs)
      (.ok (firstOffer platform params draft snapshot userWallet nowMs)) := by
  have hhanded := finalizeFunding_inserts hsmooth platform
    { world with rules := world.rules.execute (.insert
      (ruleToRow platform.json (canonicalWatchRule draft snapshot.lastCheckedSlot) nowMs)) }
    params userWallet snapshot.lastCheckedSlot hnow hnow (validated_of_ok haccepted.validated)
    hfunding hopen nowMs
  exact finalizeIntentJson_runs hsmooth haccepted (persistRule_inserts hsmooth hrule nowMs) rfl
    hhanded

end

/-! ## Orders for half a USDC -/

def halfUsdcProposal (thresholdBps : UInt32) : ProposeIntentParams where
  action := .deposit
  protocol := .solend
  asset := .usdc
  displaySource := .save
  comparison := .gt
  amount := "0.5"
  thresholdBps
  expirySecondsAfterFinalize := 180
  controlledWallet := controlledWalletBs58
  controlledUsdcAta := controlledUsdcAtaBs58
  originalUserMessage := "If Save APY > 0.5%, deposit 0.5 USDC"

def halfUsdcDraft (thresholdBps : UInt32) : DraftIntent where
  action := "deposit"
  protocol := "solend"
  asset := "USDC"
  displaySource := "save"
  comparison := "gt"
  thresholdBps
  amountRaw := 500000
  expirySecondsAfterFinalize := 180
  controlledWallet := controlledWalletBs58
  controlledUsdcAta := controlledUsdcAtaBs58
  originalUserMessageHash := sha256Hex "If Save APY > 0.5%, deposit 0.5 USDC"

def payerWalletBs58 : String := "C4QQjzWxnJ5QFAbkzhQJ3wTzyX6nw1vyFvJwbPXJGPNW"

def payerUsdcAtaBs58 : String := "4bDArC4UVoBjecHUZaCKqhuhTYPoiKS4qpQQpxuvm1qn"

def payerWallet : PubkeyBytes := pinnedPubkey payerWalletBs58 (by decide +kernel)

def halfUsdcRequest (thresholdBps : UInt32) (draftId : String) : FinalizeIntentParams where
  proposal := halfUsdcProposal thresholdBps
  draftId
  draftHash := computeDraftHash (halfUsdcDraft thresholdBps).canonicalPreimage
  userWallet := payerWalletBs58

theorem validateDraft_halfUsdc {thresholdBps : UInt32}
    (hthreshold : 1 ≤ thresholdBps ∧ thresholdBps ≤ maxThresholdBps) :
    validateDraft (halfUsdcProposal thresholdBps) = .ok (halfUsdcDraft thresholdBps) := by
  have hamount : (parseUsdcAmountToRaw "0.5").mapError ProposeIntentError.amountFormat =
      .ok 500000 := by decide +kernel
  have hcontrolled : pubkeyFromStr controlledWalletBs58 = some controlledWallet :=
    pubkeyFromStr_pinned _
  have hwallet : (pubkeyFromStr controlledWalletBs58).isNone = false := by
    rw [hcontrolled]
    rfl
  have hata : (pubkeyFromStr controlledUsdcAtaBs58).isNone = false := by decide +kernel
  have hmessage : (trimmed "If Save APY > 0.5%, deposit 0.5 USDC").isEmpty = false := by
    decide +kernel
  have hrange : minAmountRaw ≤ 500000 ∧ 500000 ≤ maxAmountRaw := by decide
  refine bind_eq_ok.mpr ⟨500000, hamount, ?_⟩
  simp only [halfUsdcProposal, if_neg (not_not.mpr hrange)]
  simp [expirySecondsAfterFinalize, hwallet, hata, hmessage, halfUsdcDraft,
    DraftActionParam.asStr, DraftProtocolParam.asStr, DraftAssetParam.asStr,
    DraftDisplaySourceParam.asStr, DraftComparisonParam.asStr]
  exact hthreshold

/-- Every such order is accepted, under any draft id of the right form. -/
theorem accepted_halfUsdc {thresholdBps : UInt32}
    (hthreshold : 1 ≤ thresholdBps ∧ thresholdBps ≤ maxThresholdBps) {draftId : String}
    (hid : isV4Uuid draftId = true) :
    (halfUsdcRequest thresholdBps draftId).Accepted (halfUsdcDraft thresholdBps) payerWallet where
  validated := validateDraft_halfUsdc hthreshold
  hash := rfl
  draftId := hid
  wallet := by
    have hread : pubkeyFromStr payerWalletBs58 = some payerWallet := pubkeyFromStr_pinned _
    rw [halfUsdcRequest, trim_of_pubkeyFromStr hread, hread]

def firstRequest : FinalizeIntentParams :=
  halfUsdcRequest 50 "aaaaaaaa-aaaa-4aaa-8aaa-aaaaaaaaaaaa"

theorem accepted_firstRequest : firstRequest.Accepted (halfUsdcDraft 50) payerWallet :=
  accepted_halfUsdc (by decide) (by decide +kernel)

def firstMarket : FinalizeMarketSnapshot := ⟨419000000, 165, 210⟩

/-- The stored text of such an order's rule. -/
def halfUsdcRuleText (thresholdBps createdAtSlot expiresAtSlot : String) : String :=
  "\x7b" ++ ("\"schema_version\":2,\"rule_id\":[" ++ thresholdBps ++
    ",0,0,0,32,161,7,0,0,0,0,0,154,98,218,206],\"user\":\"" ++ controlledWalletBs58 ++
    "\",\"executor\":\"" ++ controlledWalletBs58 ++ "\",\"delegated_wallet\":\"" ++
    controlledWalletBs58 ++ "\",\"created_at_slot\":" ++ createdAtSlot ++
    ",\"expires_at_slot\":" ++ expiresAtSlot ++
    ",\"one_shot\":true,\"condition_logic\":\"all\",\"conditions\":[\x7b\"kind\":" ++
    "\"solend_reserve_supply_rate\",\"reserve_pubkey\":\"" ++ solendReserveBs58 ++
    "\",\"lending_market\":\"" ++ solendLendingMarketBs58 ++ "\",\"solend_program_id\":\"" ++
    solendProgramIdBs58 ++ "\",\"comparison\":\"gt\",\"threshold_bps\":" ++ thresholdBps ++
    ",\"rate_kind\":\"apr\",\"formula_version\":1,\"max_reserve_staleness_slots\":16," ++
    "\"required_refresh_same_tx\":true\x7d],\"action\":\x7b\"kind\":\"solend_deposit\"," ++
    "\"target_obligation\":\"" ++ solendTargetObligationBs58 ++ "\",\"reserve_pubkey\":\"" ++
    solendReserveBs58 ++ "\",\"lending_market\":\"" ++ solendLendingMarketBs58 ++
    "\",\"solend_program_id\":\"" ++ solendProgramIdBs58 ++ "\",\"input_mint\":\"" ++
    usdcMintBs58 ++ "\",\"input_amount_raw\":500000\x7d,\"max_input_amount_raw\":500000," ++
    "\"used_amount_raw\":0,\"destination\":\"" ++ controlledWalletBs58 ++
    "\",\"slippage_bps\":0\x7d")

/-- The texts of three rules, and the two token accounts of such orders. -/
def halfUsdcPlatform : Platform where
  json :=
    ((RuleJson.hex.pinned (canonicalWatchRule (halfUsdcDraft 50) 419000000)
      (halfUsdcRuleText "50" "419000000" "419000480") (RuleJson.hex_ne _)).pinned
      (canonicalWatchRule (halfUsdcDraft 50) 419001000)
      (halfUsdcRuleText "50" "419001000" "419001480")
      (RuleJson.pinned_ne (by decide +kernel) (RuleJson.hex_ne _))).pinned
      (canonicalWatchRule (halfUsdcDraft 51) 419000000)
      (halfUsdcRuleText "51" "419000000" "419000480")
      (RuleJson.pinned_ne (by decide +kernel)
        (RuleJson.pinned_ne (by decide +kernel) (RuleJson.hex_ne _)))
  associatedTokenAddress wallet _ :=
    if wallet = payerWallet then pinnedPubkey payerUsdcAtaBs58 (by decide +kernel)
    else pinnedPubkey controlledUsdcAtaBs58 controlledUsdcAta_valid
  deserializeTransaction := Transaction.deserialize

end SolFrontier.Mcp
