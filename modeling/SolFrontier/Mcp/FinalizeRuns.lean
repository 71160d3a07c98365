import SolFrontier.Mcp.Finalize

/-! # Undisturbed runs of finalize

What one run of finalize did to the store, read off from its result: each stage
has one lemma, and every later result is derived from those.
-/

namespace SolFrontier.Mcp

open Foundation Types StateStore Program

variable {platform : Platform} {permits : Event mcpFace → Prop} {world after : World}

/-- The response hands out something to pay or to sign. -/
def offersFunding (response : Json) : Bool :=
  (match response.get "funding_actionable" with
    | some (.bool actionable) => actionable
    | _ => false) ||
  (response.get "funding").isSome || (response.get "signing_page_url").isSome ||
  (response.get "signing").isSome

/-- The result is not a response that offers funding. -/
def Declined (result : FinalizeResult) : Prop :=
  ∀ response, result = .ok response → offersFunding response = false

theorem declined_ok {response : Json} (hoffers : offersFunding response = false) :
    Declined (.ok response) := by
  intro other hother
  obtain rfl := Except.ok.inj hother
  exact hoffers

theorem declined_error (error : FinalizeInternalError) : Declined (.error error) := by
  intro other hother
  cases hother

theorem offersFunding_actionableResponse (params : FinalizeIntentParams)
    (current : W5hFundingIntent) (intentId ruleHash : String) (reused matching : Bool) :
    offersFunding (actionableResponse params current intentId ruleHash reused matching) = true ∧
      (actionableResponse params current intentId ruleHash reused matching).get "intent_id" =
        some (.string intentId) := by
  simp [offersFunding, actionableResponse, Json.get]

/-! ## The rule -/

theorem canonicalWatchRule_valid (draft : DraftIntent) (slot : UInt64) :
    WatchRule.codec.valid (canonicalWatchRule draft slot) :=
  WatchRule.codec_valid (show 1 < 256 ^ 4 by decide)

theorem canonicalSolendDepositAmountRaw_canonical (draft : DraftIntent) (slot : UInt64) :
    canonicalSolendDepositAmountRaw (canonicalWatchRule draft slot) = some draft.amountRaw :=
  if_pos rfl

/-- Storing the rule leaves the funding rows alone, and takes the fresh rule
when nothing confirms another. -/
theorem persistRule_frame {fresh rule : WatchRule} {persisted : Bool}
    (hexec : Executes (mcpWorld platform permits) world (persistRuleWithLegacyRecovery fresh)
      after (rule, persisted)) :
    after.funding = world.funding ∧ (persisted = false → rule = fresh) := by
  obtain ⟨inserted, middle, ⟨_, table, _, rfl⟩, hexec⟩ := executes_request.mp hexec
  cases inserted with
  | ok =>
      obtain ⟨rfl, hresult⟩ := Executes.done_iff.mp hexec
      rw [Prod.mk.injEq] at hresult
      exact ⟨rfl, fun hfalse => by simp [hresult.2] at hfalse⟩
  | error =>
      obtain ⟨found, last, ⟨_, read, _, rfl⟩, hexec⟩ := executes_request.mp hexec
      cases found with
      | error =>
          obtain ⟨rfl, hresult⟩ := Executes.done_iff.mp hexec
          rw [Prod.mk.injEq] at hresult
          exact ⟨rfl, fun _ => hresult.1⟩
      | ok found =>
          cases found with
          | none =>
              obtain ⟨rfl, hresult⟩ := Executes.done_iff.mp hexec
              rw [Prod.mk.injEq] at hresult
              exact ⟨rfl, fun _ => hresult.1⟩
          | some stored =>
              obtain ⟨rfl, hresult⟩ := Executes.done_iff.mp hexec
              rw [Prod.mk.injEq] at hresult
              exact ⟨rfl, fun hfalse => by simp [hresult.2] at hfalse⟩

/-- A confirmed rule is the one stored under its id: stored before, or stored
by this call. -/
theorem persistRule_confirmed {fresh rule : WatchRule} (hvalid : WatchRule.codec.valid fresh)
    (hexec : Executes (mcpWorld platform permits) world (persistRuleWithLegacyRecovery fresh)
      after (rule, true)) :
    ∃ row stored, after.rules.get (ruleIdHex fresh.ruleId) = some row ∧
      rowToStored platform.json row = .ok stored ∧ stored.rule = rule ∧
      (world.rules.get (ruleIdHex fresh.ruleId) = some row ∨
        world.rules.get (ruleIdHex fresh.ruleId) = none ∧
          ∃ nowMs, stored = .fresh fresh nowMs) := by
  obtain ⟨inserted, middle, ⟨_, table, hattempt, rfl⟩, hexec⟩ := executes_request.mp hexec
  cases inserted with
  | ok =>
      obtain ⟨rfl, hresult⟩ := Executes.done_iff.mp hexec
      obtain ⟨clock, hok, rfl⟩ := hattempt.of_ok
      have hfree := watchRule_insert_ok.mp hok
      refine ⟨_, _, ?_, rowToStored_ruleToRow platform.json hvalid clock, ?_,
        .inr ⟨hfree, clock, rfl⟩⟩
      · exact Table.get_execute_inserted hfree
      · exact (Prod.mk.inj hresult).1.symm
  | error =>
      obtain ⟨found, last, ⟨_, read, hread, rfl⟩, hexec⟩ := executes_request.mp hexec
      rcases found with error | none | stored
      · obtain ⟨_, hresult⟩ := Executes.done_iff.mp hexec
        cases hresult
      · obtain ⟨_, hresult⟩ := Executes.done_iff.mp hexec
        cases hresult
      · obtain ⟨rfl, hresult⟩ := Executes.done_iff.mp hexec
        obtain ⟨_, hlookup, rfl⟩ := hread.of_ok
        obtain ⟨row, hget, hrow⟩ := WatchRuleTable.lookup_eq_some.mp hlookup
        refine ⟨row, stored, hget, hrow, (Prod.mk.inj hresult).1.symm, ?_⟩
        -- The failed insert may have happened all the same.
        rcases hattempt.table_cases with rfl | ⟨clock, rfl⟩
        · exact .inl hget
        · rcases Table.get_execute_cases world.rules _ (ruleIdHex fresh.ruleId) with
            hsame | ⟨added, hinsert, _, hfree, hadded⟩ | ⟨write, _, hupdate, _⟩
          · exact .inl (hsame.symm.trans hget)
          · obtain rfl := Statement.insert.inj hinsert
            obtain rfl : row = ruleToRow platform.json fresh clock :=
              Option.some.inj (hget.symm.trans hadded)
            rw [rowToStored_ruleToRow platform.json hvalid, Except.ok.injEq] at hrow
            exact .inr ⟨hfree, clock, hrow.symm⟩
          · cases hupdate

/-! ## The funding row -/

/-- Storing the funding row leaves the rules alone, and every funding row it
finds or leaves under an id was there before or is the one it inserts. -/
theorem persistFunding_frame {fresh : NewW5hFundingIntent}
    {outcome : Except FinalizeInternalError FundingPersistOutcome}
    (hexec : Executes (mcpWorld platform permits) world
      (persistFundingWithLegacyRecovery fresh) after outcome) :
    after.rules = world.rules ∧
      ∀ id row, after.funding.get id = some row → world.funding.get id = some row ∨
        id = fresh.intentId ∧ world.funding.get id = none ∧ ∃ nowMs, row = fresh.toRow nowMs := by
  obtain ⟨inserted, middle, ⟨_, table, hattempt, rfl⟩, hexec⟩ := executes_request.mp hexec
  have hrows : ∀ id row, table.get id = some row → world.funding.get id = some row ∨
      id = fresh.intentId ∧ world.funding.get id = none ∧ ∃ nowMs, row = fresh.toRow nowMs := by
    intro id row hget
    rcases hattempt.table_cases with rfl | ⟨clock, rfl⟩
    · exact .inl hget
    · rcases Table.get_execute_cases world.funding _ id with
        hsame | ⟨added, hinsert, hkey, hfree, hadded⟩ | ⟨write, _, hupdate, _⟩
      · exact .inl (hsame.symm.trans hget)
      · obtain rfl := Statement.insert.inj hinsert
        obtain rfl : row = fresh.toRow clock := Option.some.inj (hget.symm.trans hadded)
        exact .inr ⟨hkey.symm, hfree, clock, rfl⟩
      · cases hupdate
  have hread : ∀ {found last}, mcpWorld platform permits { world with funding := table }
      ⟨.funding (.get fresh.intentId), found⟩ last → last = { world with funding := table } := by
    rintro found last ⟨_, read, hread, rfl⟩
    rw [hread.eq_of_read fun _ => rfl]
  have hlast : after = { world with funding := table } := by
    cases inserted with
    | ok =>
        obtain ⟨found, last, hstep, hexec⟩ := executes_request.mp hexec
        rw [hread hstep] at hexec
        rcases found with error | none | stored <;> exact (Executes.done_iff.mp hexec).1
    | error =>
        obtain ⟨found, last, hstep, hexec⟩ := executes_request.mp hexec
        rw [hread hstep] at hexec
        rcases found with error | none | stored <;> exact (Executes.done_iff.mp hexec).1
  rw [hlast]
  exact ⟨rfl, hrows⟩

/-- What it means for a funding row to belong to a rule. -/
structure RowIdentity (platform : Platform) (funding : W5hFundingIntent) (rule : WatchRule)
    (id hash : String) : Prop where
  intentId : funding.intentId = id
  ruleId : funding.ruleIdHex = id
  ruleHash : asciiLower funding.canonicalRuleHashHex = asciiLower hash
  controlledWallet : funding.controlledWallet = controlledWalletBs58
  controlledUsdcAta : funding.controlledUsdcAta = controlledUsdcAtaBs58
  amount : canonicalSolendDepositAmountRaw rule = some funding.amountRaw
  threshold : ∃ rate, rule.conditions.head? = some (.solendReserveSupplyRate rate) ∧
    funding.thresholdBps = rate.thresholdBps
  payer : ∃ payer, pubkeyFromStr funding.userWallet = some payer ∧
    (platform.associatedTokenAddress payer usdcMint).toBase58 = funding.userUsdcAta

theorem fundingRowMatchesIdentity_iff {platform : Platform} {funding : W5hFundingIntent}
    {rule : WatchRule} {intentId ruleHash : String} :
    fundingRowMatchesIdentity platform funding rule intentId ruleHash = true ↔
      RowIdentity platform funding rule intentId ruleHash := by
  unfold fundingRowMatchesIdentity
  constructor
  · intro hmatches
    split at hmatches
    · cases hmatches
    next hcolumns =>
    simp only [not_or, not_not, eqIgnoreAsciiCase, hasExactSolendDepositAmountInvariant,
      decide_eq_true_eq] at hcolumns
    obtain ⟨hid, hrule, hhash, hwallet, hata, hamount⟩ := hcolumns
    split at hmatches
    next rate hhead =>
      split at hmatches
      · cases hmatches
      next hthreshold =>
      split at hmatches
      · cases hmatches
      next payer hpayer =>
      exact
        { intentId := hid
          ruleId := hrule
          ruleHash := hhash
          controlledWallet := hwallet
          controlledUsdcAta := hata
          amount := hamount
          threshold := ⟨rate, hhead, not_not.mp hthreshold⟩
          payer := ⟨payer, hpayer, of_decide_eq_true hmatches⟩ }
    · cases hmatches
  · intro hidentity
    obtain ⟨rate, hhead, hthreshold⟩ := hidentity.threshold
    obtain ⟨payer, hpayer, hata⟩ := hidentity.payer
    have hcolumns : ¬ (funding.intentId ≠ intentId ∨ funding.ruleIdHex ≠ intentId ∨
        ¬ eqIgnoreAsciiCase funding.canonicalRuleHashHex ruleHash = true ∨
        funding.controlledWallet ≠ controlledWalletBs58 ∨
        funding.controlledUsdcAta ≠ controlledUsdcAtaBs58 ∨
        ¬ hasExactSolendDepositAmountInvariant rule funding.amountRaw = true) := by
      simp [hidentity.intentId, hidentity.ruleId, eqIgnoreAsciiCase, hidentity.ruleHash,
        hidentity.controlledWallet, hidentity.controlledUsdcAta,
        hasExactSolendDepositAmountInvariant, hidentity.amount]
    rw [if_neg hcolumns, hhead]
    simp only [if_neg (not_not.mpr hthreshold), hpayer, hata, decide_true]

/-- The checks a hand-off of funding instructions passed. -/
structure HandedOff (platform : Platform) (userWallet : PubkeyBytes) (rule : WatchRule)
    (persistence : FundingPersistOutcome) (checkedAtMs : Int64) : Prop where
  identity : fundingRowMatchesIdentity platform persistence.intoRow rule
    (hexEncode rule.ruleId.1) (hexEncode (canonicalRuleHash rule).1) = true
  wallet : persistence.isExisting = true → persistence.intoRow.userWallet = userWallet.toBase58
  status : persistence.intoRow.status = .fundingRequired
  deadline : checkedAtMs < persistence.intoRow.expiresAtMs

/-- The hand-off writes nothing, and offers funding only for a confirmed rule
after all checks. -/
theorem finalizeHandOff_run {params : FinalizeIntentParams} {userWallet : PubkeyBytes}
    {rule : WatchRule} {persisted : Bool} {persistence : FundingPersistOutcome}
    {result : FinalizeResult}
    (hexec : Executes (mcpWorld platform permits) world
      (finalizeHandOff platform params userWallet rule persisted persistence) after result) :
    after = world ∧ (Declined result ∨
      persisted = true ∧ (∃ checkedAtMs, HandedOff platform userWallet rule persistence checkedAtMs) ∧
        ∃ matching, result = .ok (actionableResponse params persistence.intoRow
          (hexEncode rule.ruleId.1) (hexEncode (canonicalRuleHash rule).1)
          persistence.isExisting matching)) := by
  unfold finalizeHandOff at hexec
  dsimp only at hexec
  split at hexec
  · obtain ⟨rfl, rfl⟩ := Executes.done_iff.mp hexec
    exact ⟨rfl, .inl (declined_ok rfl)⟩
  next hpersisted =>
  split at hexec
  · obtain ⟨rfl, rfl⟩ := Executes.done_iff.mp hexec
    exact ⟨rfl, .inl (declined_ok rfl)⟩
  next hidentity =>
  split at hexec
  · obtain ⟨rfl, rfl⟩ := Executes.done_iff.mp hexec
    exact ⟨rfl, .inl (declined_ok rfl)⟩
  next hwallet =>
  obtain ⟨checkedAtMs, _, hexec⟩ := (executes_quiet rfl).mp hexec
  split at hexec
  · obtain ⟨rfl, rfl⟩ := Executes.done_iff.mp hexec
    exact ⟨rfl, .inl (declined_ok rfl)⟩
  next hopen =>
  obtain ⟨rfl, rfl⟩ := Executes.done_iff.mp hexec
  rw [not_or, not_not] at hopen
  rw [not_and, not_not] at hwallet
  refine ⟨rfl, .inr ⟨by simpa using hpersisted, ⟨checkedAtMs, ?_⟩, _, rfl⟩⟩
  exact
    { identity := not_not.mp hidentity
      wallet := hwallet
      status := hopen.1
      deadline := Int64.not_le.mp hopen.2 }

/-- Storing the funding row and handing it off. -/
theorem finalizeFunding_run {params : FinalizeIntentParams} {draft : DraftIntent}
    {snapshot : FinalizeMarketSnapshot} {userWallet : PubkeyBytes} {rule : WatchRule}
    {persisted : Bool} {amountRaw : UInt64} {result : FinalizeResult}
    (hexec : Executes (mcpWorld platform permits) world
      (finalizeFunding platform params draft snapshot userWallet rule persisted amountRaw)
      after result) :
    ∃ createdAtMs outcome, Executes (mcpWorld platform permits) world
        (persistFundingWithLegacyRecovery
          (newFundingIntent platform draft snapshot userWallet rule amountRaw createdAtMs))
        after outcome ∧
      (Declined result ∨ persisted = true ∧ ∃ persistence, outcome = .ok persistence ∧
        (∃ checkedAtMs, HandedOff platform userWallet rule persistence checkedAtMs) ∧
        ∃ matching, result = .ok (actionableResponse params persistence.intoRow
          (hexEncode rule.ruleId.1) (hexEncode (canonicalRuleHash rule).1)
          persistence.isExisting matching)) := by
  obtain ⟨createdAtMs, _, hexec⟩ := (executes_quiet rfl).mp hexec
  obtain ⟨last, outcome, hpersist, hexec⟩ := Executes.bind_iff.mp hexec
  cases outcome with
  | error error =>
      obtain ⟨rfl, rfl⟩ := Executes.done_iff.mp hexec
      exact ⟨createdAtMs, _, hpersist, .inl (declined_error error)⟩
  | ok persistence =>
      obtain ⟨rfl, hresult⟩ := finalizeHandOff_run hexec
      refine ⟨createdAtMs, _, hpersist, ?_⟩
      rcases hresult with hdeclined | ⟨hpersisted, hhanded, hmatching⟩
      · exact .inl hdeclined
      · exact .inr ⟨hpersisted, persistence, rfl, hhanded, hmatching⟩

theorem indexRule_run {params : FinalizeIntentParams} {rule : WatchRule} {persisted : Bool}
    (hexec : Executes (mcpWorld platform permits) world (indexRule params rule persisted) after ()) :
    after = world := by
  unfold indexRule at hexec
  split at hexec
  · obtain ⟨indexedAtMs, _, hexec⟩ := (executes_quiet rfl).mp hexec
    obtain ⟨_, _, hexec⟩ := (executes_quiet rfl).mp hexec
    exact (Executes.done_iff.mp hexec).1
  · exact (Executes.done_iff.mp hexec).1

/-- Checking the stored rule, and going on to its funding row. -/
theorem finalizeRule_run {params : FinalizeIntentParams} {draft : DraftIntent}
    {snapshot : FinalizeMarketSnapshot} {userWallet : PubkeyBytes} {rule : WatchRule}
    {persisted : Bool} {result : FinalizeResult}
    (hexec : Executes (mcpWorld platform permits) world
      (finalizeRule platform params draft snapshot userWallet rule persisted) after result) :
    (after = world ∧ Declined result) ∨
      (persisted = true → rule = canonicalWatchRule draft rule.createdAtSlot) ∧
        ∃ amountRaw, canonicalSolendDepositAmountRaw rule = some amountRaw ∧
          Executes (mcpWorld platform permits) world
            (finalizeFunding platform params draft snapshot userWallet rule persisted amountRaw)
            after result := by
  unfold finalizeRule at hexec
  split at hexec
  · obtain ⟨rfl, rfl⟩ := Executes.done_iff.mp hexec
    exact .inl ⟨rfl, declined_ok rfl⟩
  next hcanonical =>
  rw [not_and, not_not] at hcanonical
  split at hexec
  · obtain ⟨rfl, rfl⟩ := Executes.done_iff.mp hexec
    exact .inl ⟨rfl, declined_ok rfl⟩
  next amountRaw hamount =>
  obtain ⟨middle, _, hindexed, hexec⟩ := Executes.bind_iff.mp hexec
  rw [indexRule_run hindexed] at hexec
  exact .inr ⟨hcanonical, amountRaw, hamount, hexec⟩

/-! ## The whole call -/

/-- A request that passes every check before its draft is claimed. -/
structure FinalizeIntentParams.Accepted (params : FinalizeIntentParams) (draft : DraftIntent)
    (userWallet : PubkeyBytes) : Prop where
  validated : validateDraft params.proposal = .ok draft
  hash : computeDraftHash draft.canonicalPreimage = params.draftHash
  draftId : isV4Uuid params.draftId = true
  wallet : pubkeyFromStr (trim params.userWallet) = some userWallet

theorem finalizeClaimed_run {params : FinalizeIntentParams} {draft : DraftIntent}
    {userWallet : PubkeyBytes} {result : FinalizeResult}
    (hexec : Executes (mcpWorld platform permits) world
      (finalizeClaimed platform params draft userWallet) after result) :
    (after = world ∧ Declined result) ∨ ∃ snapshot middle rule persisted,
      permits ⟨.fetchSnapshot, .ok snapshot⟩ ∧
      Executes (mcpWorld platform permits) world
        (persistRuleWithLegacyRecovery (canonicalWatchRule draft snapshot.lastCheckedSlot)) middle
        (rule, persisted) ∧
      Executes (mcpWorld platform permits) middle
        (finalizeRule platform params draft snapshot userWallet rule persisted) after result := by
  obtain ⟨_, _, hexec⟩ := (executes_quiet rfl).mp hexec
  obtain ⟨market, hpermits, hexec⟩ := (executes_quiet rfl).mp hexec
  cases market with
  | error =>
      obtain ⟨rfl, rfl⟩ := Executes.done_iff.mp hexec
      exact .inl ⟨rfl, declined_ok rfl⟩
  | ok snapshot =>
      dsimp only at hexec
      cases hvalid : validateCanonicalSolendDepositDraft draft with
      | error =>
          rw [buildWatchRule, hvalid] at hexec
          obtain ⟨rfl, rfl⟩ := Executes.done_iff.mp hexec
          exact .inl ⟨rfl, declined_ok rfl⟩
      | ok =>
          rw [buildWatchRule, hvalid] at hexec
          obtain ⟨middle, ⟨rule, persisted⟩, hstored, hexec⟩ := Executes.bind_iff.mp hexec
          exact .inr ⟨snapshot, middle, rule, persisted, hpermits, hstored, hexec⟩

theorem finalizeIntentJson_run {params : FinalizeIntentParams} {marketConfigured : Bool}
    {result : FinalizeResult}
    (hexec : Executes (mcpWorld platform permits) world
      (finalizeIntentJson platform params marketConfigured) after result) :
    (after = world ∧ Declined result) ∨ ∃ draft userWallet snapshot middle rule persisted,
      params.Accepted draft userWallet ∧
      (∃ claimedAtMs, permits ⟨.claimDraft params.draftId params.draftHash claimedAtMs, .claimed⟩) ∧
      permits ⟨.fetchSnapshot, .ok snapshot⟩ ∧
      Executes (mcpWorld platform permits) world
        (persistRuleWithLegacyRecovery (canonicalWatchRule draft snapshot.lastCheckedSlot)) middle
        (rule, persisted) ∧
      Executes (mcpWorld platform permits) middle
        (finalizeRule platform params draft snapshot userWallet rule persisted) after result := by
  unfold finalizeIntentJson at hexec
  split at hexec
  · obtain ⟨rfl, rfl⟩ := Executes.done_iff.mp hexec
    exact .inl ⟨rfl, declined_ok rfl⟩
  next draft recomputedHash hvalidated =>
  obtain ⟨validated, hdraft, hhash⟩ := bind_eq_ok.mp hvalidated
  obtain ⟨rfl, rfl⟩ := Prod.mk.inj (Except.ok.inj hhash)
  split at hexec
  · obtain ⟨rfl, rfl⟩ := Executes.done_iff.mp hexec
    exact .inl ⟨rfl, declined_ok rfl⟩
  next hmatches =>
  split at hexec
  · obtain ⟨rfl, rfl⟩ := Executes.done_iff.mp hexec
    exact .inl ⟨rfl, declined_ok rfl⟩
  next hdraftId =>
  split at hexec
  · obtain ⟨rfl, rfl⟩ := Executes.done_iff.mp hexec
    exact .inl ⟨rfl, declined_ok rfl⟩
  split at hexec
  · obtain ⟨rfl, rfl⟩ := Executes.done_iff.mp hexec
    exact .inl ⟨rfl, declined_ok rfl⟩
  split at hexec
  · obtain ⟨rfl, rfl⟩ := Executes.done_iff.mp hexec
    exact .inl ⟨rfl, declined_ok rfl⟩
  next userWallet hwallet =>
  obtain ⟨claimedAtMs, _, hexec⟩ := (executes_quiet rfl).mp hexec
  obtain ⟨claim, hclaimed, hexec⟩ := (executes_quiet rfl).mp hexec
  cases claim with
  | alreadyConsumed | conflict | unavailable =>
      obtain ⟨rfl, rfl⟩ := Executes.done_iff.mp hexec
      exact .inl ⟨rfl, declined_ok rfl⟩
  | claimed =>
      rcases finalizeClaimed_run hexec with hnone | ⟨snapshot, stored, rule, persisted, hmarket,
        hstored, hexec⟩
      · exact .inl hnone
      · refine .inr ⟨validated, userWallet, snapshot, stored, rule, persisted, ?_,
          ⟨claimedAtMs, hclaimed⟩, hmarket, hstored, hexec⟩
        exact
          { validated := hdraft
            hash := not_not.mp hmatches
            draftId := not_not.mp hdraftId
            wallet := hwallet }

/-- An offer of funding names a confirmed rule of the draft, and nothing after
that rule was stored wrote a rule. -/
theorem finalizeIntentJson_offers {params : FinalizeIntentParams} {marketConfigured : Bool}
    {response : Json} (hoffers : offersFunding response = true)
    (hexec : Executes (mcpWorld platform permits) world
      (finalizeIntentJson platform params marketConfigured) after (.ok response)) :
    ∃ draft userWallet snapshot middle rule,
      params.Accepted draft userWallet ∧ permits ⟨.fetchSnapshot, .ok snapshot⟩ ∧
      Executes (mcpWorld platform permits) world
        (persistRuleWithLegacyRecovery (canonicalWatchRule draft snapshot.lastCheckedSlot)) middle
        (rule, true) ∧
      rule = canonicalWatchRule draft rule.createdAtSlot ∧ after.rules = middle.rules ∧
      response.get "intent_id" = some (.string (hexEncode rule.ruleId.1)) := by
  have hnot : ¬ Declined (.ok response) := by
    intro hdeclined
    rw [hdeclined response rfl] at hoffers
    cases hoffers
  rcases finalizeIntentJson_run hexec with ⟨_, hdeclined⟩ | ⟨draft, userWallet, snapshot, middle,
    rule, persisted, haccepted, _, hmarket, hstored, hrest⟩
  · exact absurd hdeclined hnot
  rcases finalizeRule_run hrest with ⟨_, hdeclined⟩ | ⟨hcanonical, amountRaw, _, hfunding⟩
  · exact absurd hdeclined hnot
  obtain ⟨createdAtMs, outcome, hpersist, hresult⟩ := finalizeFunding_run hfunding
  rcases hresult with hdeclined | ⟨rfl, persistence, _, _, matching, hresponse⟩
  · exact absurd hdeclined hnot
  refine ⟨draft, userWallet, snapshot, middle, rule, haccepted, hmarket, hstored, hcanonical rfl,
    (persistFunding_frame hpersist).1, ?_⟩
  rw [Except.ok.inj hresponse]
  exact (offersFunding_actionableResponse ..).2

end SolFrontier.Mcp
