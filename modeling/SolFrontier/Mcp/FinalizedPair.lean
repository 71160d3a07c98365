import SolFrontier.Executor.Preflight
import SolFrontier.Mcp.FreshPair
import SolFrontier.Mcp.Offers

/-! # What finalize writes, confirm and watch accept

Three components derive the identity, the amounts, the ids and the hash of one
order from different columns. A pair that finalize writes passes the check of
each of them, at every later point at which the funding is reserved.
-/

namespace SolFrontier.Mcp

open Foundation Types StateStore Program Executor

variable {platform : Platform} {permits : Event mcpFace → Prop} {world after : World}
  {params : FinalizeIntentParams} {draft : DraftIntent} {snapshot : FinalizeMarketSnapshot}
  {userWallet : PubkeyBytes} {rule : WatchRule} {result : FinalizeResult}

/-- The columns of a reserved row that a candidate is judged by. -/
def fundingSnapshot (funding : W5hFundingIntent) : Except String FundingSnapshot :=
  match PubkeyBytes.fromBase58 funding.controlledWallet with
  | .error _ => .error "invalid_controlled_wallet"
  | .ok controlledWallet =>
      match PubkeyBytes.fromBase58 funding.controlledUsdcAta with
      | .error _ => .error "invalid_controlled_usdc_ata"
      | .ok controlledUsdcAta =>
          .ok
            { intentId := funding.intentId
              ruleIdHex := funding.ruleIdHex
              canonicalRuleHashHex := funding.canonicalRuleHashHex
              controlledWallet
              controlledUsdcAta
              amountRaw := funding.amountRaw
              thresholdBps := funding.thresholdBps
              expiresAtMs := funding.expiresAtMs }

theorem fundingSnapshot_sameOrder {intent renewed : W5hFundingIntent}
    (hsame : intent.SameOrder renewed) : fundingSnapshot renewed = fundingSnapshot intent := by
  rw [hsame]
  rfl

/-! ## What a call adds -/

/-- Every stored rule was there before, or is the fresh one. -/
theorem persistRule_rows {fresh : WatchRule} {persisted : Bool}
    (hexec : Executes (mcpWorld platform permits) world (persistRuleWithLegacyRecovery fresh)
      after (rule, persisted)) {id : String} {row : WatchRuleRowRaw}
    (hget : after.rules.get id = some row) :
    world.rules.get id = some row ∨
      id = ruleIdHex fresh.ruleId ∧ ∃ nowMs, row = ruleToRow platform.json fresh nowMs := by
  obtain ⟨inserted, middle, ⟨_, table, hattempt, rfl⟩, hexec⟩ := executes_request.mp hexec
  have hafter : after.rules = table := by
    cases inserted with
    | ok => rw [(Executes.done_iff.mp hexec).1]
    | error =>
        obtain ⟨found, last, ⟨_, read, hread, rfl⟩, hexec⟩ := executes_request.mp hexec
        rw [hread.eq_of_read fun _ => rfl] at hexec
        rcases found with error | none | stored
        · rw [(Executes.done_iff.mp hexec).1]
        · rw [(Executes.done_iff.mp hexec).1]
        · rw [(Executes.done_iff.mp hexec).1]
  rw [hafter] at hget
  rcases hattempt.table_cases with rfl | ⟨clock, rfl⟩
  · exact .inl hget
  · rcases Table.get_execute_cases world.rules _ id with
      hsame | ⟨added, hinsert, hkey, _, hadded⟩ | ⟨write, _, hupdate, _⟩
    · exact .inl (hsame.symm.trans hget)
    · obtain rfl := Statement.insert.inj hinsert
      exact .inr ⟨hkey.symm, clock, Option.some.inj (hget.symm.trans hadded)⟩
    · cases hupdate

/-- Nothing but a confirmed rule keeps a call from answering
`rule_unconfirmed`. -/
theorem finalizeFunding_unconfirmed {amountRaw : UInt64}
    (hexec : Executes (mcpWorld platform permits) world
      (finalizeFunding platform params draft snapshot userWallet rule false amountRaw) after result)
    {response : Json} (hresponse : result = .ok response) :
    response.get "status" = some (.string "rule_unconfirmed") := by
  obtain ⟨createdAtMs, _, hexec⟩ := (executes_quiet rfl).mp hexec
  obtain ⟨last, outcome, _, hexec⟩ := Executes.bind_iff.mp hexec
  cases outcome with
  | error error =>
      obtain ⟨_, rfl⟩ := Executes.done_iff.mp hexec
      cases hresponse
  | ok persistence =>
      obtain ⟨_, rfl⟩ := Executes.done_iff.mp hexec
      obtain rfl := Except.ok.inj hresponse
      rfl

/-- The rule under this id was stored by the call, or confirmed by it. -/
def RuleProduced (world after : World) (id : String) (result : FinalizeResult) : Prop :=
  (world.rules.get id = none ∧ after.rules.get id ≠ none) ∨
    ∃ response, result = .ok response ∧
      response.get "status" ≠ some (.string "rule_unconfirmed")

/-- A funding row that a call adds is that of a canonical rule, and the rule it
produced with it is the same one. -/
theorem finalizeIntentJson_adds {marketConfigured : Bool}
    (hexec : Executes (mcpWorld platform permits) world
      (finalizeIntentJson platform params marketConfigured) after result) {id : String}
    {row : RowRaw} (hnew : world.funding.get id = none) (hrow : after.funding.get id = some row)
    (hproduced : RuleProduced world after id result) :
    ∃ draft snapshot userWallet slot createdAtMs nowMs ruleRow stored, draft.Validated ∧
      id = hexEncode (canonicalWatchRule draft slot).ruleId.1 ∧
      row = (newFundingIntent platform draft snapshot userWallet (canonicalWatchRule draft slot)
        draft.amountRaw createdAtMs).toRow nowMs ∧
      after.rules.get id = some ruleRow ∧ rowToStored platform.json ruleRow = .ok stored ∧
      stored.rule = canonicalWatchRule draft slot := by
  rcases finalizeIntentJson_run hexec with ⟨rfl, _⟩ | ⟨draft, userWallet, snapshot, middle, rule,
    persisted, haccepted, _, _, hstored, hrest⟩
  · rw [hnew] at hrow
    cases hrow
  have hmiddle : middle.funding = world.funding := (persistRule_frame hstored).1
  rcases finalizeRule_run hrest with ⟨rfl, _⟩ | ⟨hcanonical, amountRaw, hamount, hfunding⟩
  · rw [hmiddle, hnew] at hrow
    cases hrow
  have hrule : rule = canonicalWatchRule draft rule.createdAtSlot := by
    cases persisted with
    | true => exact hcanonical rfl
    | false =>
        rw [(persistRule_frame hstored).2 rfl]
        rfl
  obtain ⟨createdAtMs, outcome, hpersist, _⟩ := finalizeFunding_run hfunding
  obtain ⟨hrules, hrows⟩ := persistFunding_frame hpersist
  rw [hrule, canonicalSolendDepositAmountRaw_canonical, Option.some.injEq] at hamount
  subst hamount
  rcases hrows id row hrow with hold | ⟨hid, _, nowMs, hadded⟩
  · rw [hmiddle, hnew] at hold
    cases hold
  refine ⟨draft, snapshot, userWallet, rule.createdAtSlot, createdAtMs, nowMs, ?_⟩
  rw [← hrule, hrules]
  have hkey : id = ruleIdHex (canonicalWatchRule draft snapshot.lastCheckedSlot).ruleId := by
    rw [hid, newFundingIntent, hrule]
    rfl
  cases persisted with
  | true =>
      obtain ⟨ruleRow, stored, hget, hread, hsame, _⟩ :=
        persistRule_confirmed (canonicalWatchRule_valid ..) hstored
      rw [← hkey] at hget
      exact ⟨ruleRow, stored, validated_of_ok haccepted.validated, hid, hadded, hget, hread, hsame⟩
  | false =>
      -- The rule is there all the same if the insertion went through before its answer was lost.
      rcases hproduced with ⟨hfree, hfound⟩ | ⟨response, hresponse, hconfirmed⟩
      · obtain ⟨ruleRow, hget⟩ := Option.ne_none_iff_exists'.mp hfound
        rw [hrules] at hget
        rcases persistRule_rows hstored hget with hold | ⟨_, clock, rfl⟩
        · rw [hfree] at hold
          cases hold
        · exact ⟨_, _, validated_of_ok haccepted.validated, hid, hadded, hget,
            rowToStored_ruleToRow platform.json (canonicalWatchRule_valid ..) clock,
            ((persistRule_frame hstored).2 rfl).symm⟩
      · exact absurd (finalizeFunding_unconfirmed hfunding hresponse) hconfirmed

/-! ## The watcher's checks -/

/-- The snapshot of a freshly written row. -/
def freshSnapshot (draft : DraftIntent) (slot : UInt64) (expiresAtMs : Int64) : FundingSnapshot where
  intentId := hexEncode (canonicalWatchRule draft slot).ruleId.1
  ruleIdHex := hexEncode (canonicalWatchRule draft slot).ruleId.1
  canonicalRuleHashHex := hexEncode (canonicalRuleHash (canonicalWatchRule draft slot)).1
  controlledWallet
  controlledUsdcAta := pinnedPubkey controlledUsdcAtaBs58 controlledUsdcAta_valid
  amountRaw := draft.amountRaw
  thresholdBps := draft.thresholdBps
  expiresAtMs

theorem fundingSnapshot_fresh (slot : UInt64) (createdAtMs nowMs : Int64) :
    fundingSnapshot ((newFundingIntent platform draft snapshot userWallet
      (canonicalWatchRule draft slot) draft.amountRaw createdAtMs).intent nowMs) =
        .ok (freshSnapshot draft slot (saturatingAddI64 createdAtMs fundingWindowMs)) := by
  have hwallet : PubkeyBytes.fromBase58 controlledWalletBs58 = .ok controlledWallet := by
    exact fromBase58_pinned _
  have hata := fromBase58_pinned
    (show (PubkeyBytes.fromBase58 controlledUsdcAtaBs58).toOption.isSome = true by decide +kernel)
  simp only [fundingSnapshot, NewW5hFundingIntent.intent, newFundingIntent, hwallet, hata]
  rfl

/-- A freshly written pair is admissible as long as both deadlines are open. -/
theorem admissible_fresh (hvalid : draft.Validated) {slot current : UInt64}
    {expiresAtMs nowMs : Int64} (hopen : nowMs < expiresAtMs)
    (hslot : current < (canonicalWatchRule draft slot).expiresAtSlot) :
    AdmissibleDeposit (freshSnapshot draft slot expiresAtMs) (canonicalWatchRule draft slot)
      { targetObligation := solendTargetObligation
        reservePubkey := solendReserve
        lendingMarket := solendLendingMarket
        solendProgramId := solendProgramId
        inputMint := Mcp.usdcMint
        inputAmountRaw := draft.amountRaw }
      { reservePubkey := solendReserve
        lendingMarket := solendLendingMarket
        solendProgramId := solendProgramId
        comparison := .gt
        thresholdBps := draft.thresholdBps
        rateKind := .apr
        formulaVersion := 1
        maxReserveStalenessSlots := 16
        requiredRefreshSameTx := true }
      ⟨nowMs, some current⟩ where
  schemaVersion := rfl
  oneShot := rfl
  unused := rfl
  executor := rfl
  destination := rfl
  intentId := rfl
  ruleId := rfl
  ruleHash := rfl
  wallet := rfl
  action := rfl
  program := rfl
  mint := rfl
  ruleAmount := rfl
  fundedAmount := rfl
  nonzero := by
    intro hzero
    have hmin := hvalid.amount.1
    rw [show draft.amountRaw = 0 from hzero] at hmin
    exact absurd hmin (by decide)
  wallClock := hopen
  slotClock := ⟨current, rfl, hslot⟩
  logic := rfl
  conditions := rfl
  rateReserve := rfl
  rateMarket := rfl
  rateProgram := rfl
  rateKind := rfl
  formula := rfl
  staleness := rfl
  refresh := rfl
  threshold := rfl
  thresholdPos := hvalid.threshold.1
  thresholdLe := hvalid.threshold.2

/-! ## The pair along every run -/

/-- What finalize writes, confirm and watch accept. A funding row that a call
adds over any store, with the rule it produced, passes the identity check and
the joint check; and in every store that tool calls reach from there, once the
row is reserved, it gates through to the chain reads as long as both deadlines
are open. -/
theorem finalized_pair_accepted (Caller : Type) [DecidableEq Caller] {marketConfigured : Bool}
    (hexec : Executes (mcpWorld platform permits) world
      (finalizeIntentJson platform params marketConfigured) after result) {id : String}
    {row : RowRaw} (hnew : world.funding.get id = none) (hrow : after.funding.get id = some row)
    (hproduced : RuleProduced world after id result) :
    ∃ ruleRow stored, after.rules.get id = some ruleRow ∧
      rowToStored platform.json ruleRow = .ok stored ∧
      rowToIntent row = .ok row.toIntent ∧
      fundingRowMatchesIdentity platform row.toIntent stored.rule id
        (hexEncode (canonicalRuleHash stored.rule).1) = true ∧
      watchRuleMatchesIntent stored row.toIntent = true ∧
      ∀ (pool : Pool mcpFace World Caller ToolAnswer) (reserved : RowRaw),
        Pool.Reaches (mcpWorld platform permits) (ToolEntry platform) (Pool.initial after) pool →
        pool.world.funding.get id = some reserved → reserved.status = .budgetReserved →
        ∃ funding, fundingSnapshot reserved.toIntent = .ok funding ∧
          pool.world.rules.get id = some ruleRow ∧
          ∀ nowMs slot, nowMs < reserved.toIntent.expiresAtMs →
            slot < stored.rule.expiresAtSlot →
            ∃ prepared, preflightCandidate ⟨some funding, some stored.rule⟩ ⟨nowMs, some slot⟩ =
              .needsChain prepared := by
  obtain ⟨draft, snapshot, userWallet, slot, createdAtMs, nowMs, ruleRow, stored, hvalid, hid,
    hadded, hrule, hread, hsame⟩ := finalizeIntentJson_adds hexec hnew hrow hproduced
  have hamount : draft.amountRaw.toNat < 2 ^ 63 := by
    have hle := UInt64.le_iff_toNat_le.mp hvalid.amount.2
    have hmax : maxAmountRaw.toNat = 1000000 := rfl
    omega
  have hintent : rowToIntent row = .ok ((newFundingIntent platform draft snapshot userWallet
      (canonicalWatchRule draft slot) draft.amountRaw createdAtMs).intent nowMs) := by
    rw [hadded]
    exact rowToIntent_toRow hamount nowMs
  obtain ⟨_, hview⟩ := rowToIntent_ok.mp hintent
  refine ⟨ruleRow, stored, hrule, hread, hview ▸ hintent, ?_, ?_, ?_⟩
  · rw [hview, hsame, hid]
    exact fundingRowMatchesIdentity_fresh ..
  · rw [hview]
    exact watchRuleMatchesIntent_fresh platform snapshot userWallet createdAtMs nowMs hsame
      (rowToStored_ok hread).2.1
  · -- Later calls advance the row, but its order and the rule stay.
    intro pool reserved hreaches hreserved _
    obtain ⟨_, hgood⟩ := good_of_tools hreaches
    have hlater : after.Later pool.world := hgood.inv
    obtain ⟨current, hcurrent, hadvances⟩ := hlater.funding id row hrow
    obtain rfl : current = reserved := Option.some.inj (hcurrent.symm.trans hreserved)
    have horder := (hadvances.order.intent hintent).2
    have hdeadline : current.toIntent.expiresAtMs =
        saturatingAddI64 createdAtMs fundingWindowMs := by
      rw [horder]
      rfl
    refine ⟨freshSnapshot draft slot (saturatingAddI64 createdAtMs fundingWindowMs), ?_,
      hlater.rules id ruleRow hrule, ?_⟩
    · rw [fundingSnapshot_sameOrder horder]
      exact fundingSnapshot_fresh slot createdAtMs nowMs
    · intro clock seen hopen hslot
      rw [hdeadline] at hopen
      rw [hsame] at hslot ⊢
      exact ⟨_, preflightCandidate_of_admissible (admissible_fresh hvalid hopen hslot)⟩

/-- An order for half a USDC gates through once its payment is confirmed. -/
theorem finalized_pair_accepted_halfUsdc :
    ∃ (after : World) (pool : Pool mcpFace World Unit ToolAnswer) (funding : FundingSnapshot)
      (stored : StoredWatchRule) (prepared : PreparedDeposit),
      Pool.Reaches (mcpWorld halfUsdcPlatform fun _ => True) (ToolEntry halfUsdcPlatform)
        (Pool.initial after) pool ∧
      preflightCandidate ⟨some funding, some stored.rule⟩ ⟨1700000000000, some 419000000⟩ =
        .needsChain prepared := by
  have hsmooth : ∀ event, Smooth firstMarket event → AfterEpoch event → True := fun _ _ _ => trivial
  have hrun := finalizeIntentJson_inserts hsmooth halfUsdcPlatform (.unsent .empty .empty)
    accepted_firstRequest (by decide : 0 ≤ (1700000000000 : Int64).toInt) rfl rfl (by decide)
  have hrow : ((World.unsent .empty .empty).finalized halfUsdcPlatform (halfUsdcDraft 50)
      firstMarket payerWallet 1700000000000).funding.get (halfUsdcOrder 50).intentId =
        some ((halfUsdcOrder 50).toRow 1700000000000) :=
    (Table.get_execute_insert rfl _).trans (if_pos rfl)
  have hrule : ((World.unsent .empty .empty).finalized halfUsdcPlatform (halfUsdcDraft 50)
      firstMarket payerWallet 1700000000000).rules.get (halfUsdcOrder 50).intentId =
        some (ruleToRow halfUsdcPlatform.json (canonicalWatchRule (halfUsdcDraft 50) 419000000)
          1700000000000) :=
    (Table.get_execute_insert rfl _).trans (if_pos rfl)
  have hstored : ((World.unsent .empty .empty).finalized halfUsdcPlatform (halfUsdcDraft 50)
      firstMarket payerWallet 1700000000000).rules.get (halfUsdcOrder 50).intentId ≠ none := by
    rw [hrule]
    exact Option.some_ne_none _
  obtain ⟨ruleRow, stored, hget, hread, _, _, _, hgate⟩ :=
    finalized_pair_accepted Unit hrun rfl hrow (.inl ⟨rfl, hstored⟩)
  have hevidence : Evidence halfUsdcPlatform (Undisturbed halfUsdcSignature halfUsdcPayment)
      ((World.unsent .empty .empty).finalized halfUsdcPlatform (halfUsdcDraft 50)
        firstMarket payerWallet 1700000000000) ((halfUsdcOrder 50).toRow 1700000000000)
      halfUsdcSignature halfUsdcPayment :=
    evidence_halfUsdc (by decide) List.mem_cons_self hrule .read
  have hid : trim (halfUsdcConfirm 50).intentId = (halfUsdcOrder 50).intentId := trim_hexEncode _
  obtain ⟨confirmed, hruns⟩ := confirmFundingJson_reserves hid trim_halfUsdcSignature hrow hevidence
    (.inl rfl)
  have hconfirm : Executes (mcpWorld halfUsdcPlatform fun _ => True) _ _ _ _ :=
    ((hruns _ _).mpr ⟨0, 0, 0, rfl, rfl⟩).mono fun _ _ _ hstep => ⟨trivial, hstep.2⟩
  have hstart : Pool.Reaches (mcpWorld halfUsdcPlatform fun _ => True)
      (ToolEntry halfUsdcPlatform) (Pool.initial _)
      (Pool.initial ((World.unsent .empty .empty).finalized halfUsdcPlatform (halfUsdcDraft 50)
        firstMarket payerWallet 1700000000000) : Pool mcpFace World Unit ToolAnswer) := .refl
  have hidle : (Pool.initial ((World.unsent .empty .empty).finalized halfUsdcPlatform
      (halfUsdcDraft 50) firstMarket payerWallet 1700000000000) :
        Pool mcpFace World Unit ToolAnswer).callers () = none := rfl
  obtain ⟨pool, hreaches, hworld, _⟩ :=
    hstart.finishes hidle (.confirm (halfUsdcConfirm 50) true) (confirmCall_executes hconfirm)
  have hreserved : pool.world.funding.get (halfUsdcOrder 50).intentId =
      some (reservedRow ((halfUsdcOrder 50).toRow 1700000000000) halfUsdcSignature
        halfUsdcPayment.slot 0) := by
    rw [hworld]
    exact (get_reserved (get_submitted hrow (.inl rfl) 0).1 halfUsdcPayment.slot 0).1
  obtain ⟨funding, _, _, hpasses⟩ := hgate pool _ hreaches hreserved rfl
  obtain rfl := Option.some.inj (hget.symm.trans hrule)
  rw [rowToStored_ruleToRow _ (canonicalWatchRule_valid ..)] at hread
  obtain rfl := Except.ok.inj hread
  have hslot : (419000000 : UInt64) < saturatingAddU64 419000000 watchRuleExpirySlots := by
    decide
  obtain ⟨prepared, hprepared⟩ := hpasses 1700000000000 419000000 (by decide) hslot
  exact ⟨_, pool, funding, _, prepared, hreaches, hprepared⟩

end SolFrontier.Mcp
