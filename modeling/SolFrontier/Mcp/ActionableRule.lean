import SolFrontier.Mcp.FinalizeProgress

/-! # The rule behind an actionable response

Finalize checks the deadline and the status of the funding row it hands off,
but of the stored rule only its shape. A rule that an earlier call left behind
is offered for funding whatever its lifecycle and its slot deadline.
-/

namespace SolFrontier.Mcp

open Foundation Types StateStore Program

variable {platform : Platform} {world after : World}

/-- Why the watch loop leaves a stored rule alone. -/
def ineligibleLifecycle (stored : StoredWatchRule) : Option String :=
  if stored.completed ∨ stored.revoked then some "rule_lifecycle_flags_terminal"
  else if stored.status ≠ .active ∧ stored.status ≠ .conditionMet then
    some "rule_lifecycle_status_ineligible"
  else none

/-- The rule stored under an id can still be executed after a slot. -/
def ExecutableRule (json : RuleJson) (rules : WatchRuleTable) (ruleId : String) (slot : UInt64) :
    Prop :=
  ∃ row stored, rules.get ruleId = some row ∧ rowToStored json row = .ok stored ∧
    ineligibleLifecycle stored = none ∧ slot < stored.rule.expiresAtSlot

/-- The market read of a call answers with this snapshot. -/
def MarketAt (snapshot : FinalizeMarketSnapshot) (event : Event mcpFace) : Prop :=
  ∀ answer, event = ⟨.fetchSnapshot, answer⟩ → answer = .ok snapshot

theorem marketAt_of_smooth {snapshot : FinalizeMarketSnapshot} {event : Event mcpFace}
    (hsmooth : Smooth snapshot event) : MarketAt snapshot event := by
  intro answer hevent
  cases hsmooth with
  | market =>
      cases hevent
      rfl
  | _ => cases hevent

/-- The response names a rule that can still be executed after a slot. -/
def NamesExecutableRule (platform : Platform) (rules : WatchRuleTable) (response : Json)
    (slot : UInt64) : Prop :=
  ∃ ruleId, response.get "intent_id" = some (.string ruleId) ∧
    ExecutableRule platform.json rules ruleId slot

/-- The id under which every rule of a draft is stored. -/
def draftRuleId (draft : DraftIntent) : String :=
  ruleIdHex (deriveRuleId draft.thresholdBps draft.amountRaw controlledWallet)

theorem lt_saturatingAdd_expiry (slot : UInt64) :
    slot < saturatingAddU64 slot watchRuleExpirySlots ↔ slot ≠ 18446744073709551615 := by
  have hbound := slot.toNat_lt
  rw [ne_eq, ← UInt64.toNat_inj, UInt64.lt_iff_toNat_lt]
  have hwindow : watchRuleExpirySlots.toNat = 480 := rfl
  unfold saturatingAddU64
  split
  · rw [UInt64.toNat_add]
    simp only [UInt64.reduceToNat]
    omega
  · simp only [UInt64.reduceToNat]
    omega

/-- An actionable response names an executable rule exactly when, at the start
of the call, the draft's rule id is free or names an executable rule. -/
theorem names_executable_rule_iff {params : FinalizeIntentParams} {marketConfigured : Bool}
    {draft : DraftIntent} {snapshot : FinalizeMarketSnapshot} {response : Json}
    (hdraft : validateDraft params.proposal = .ok draft)
    (hexec : Executes (mcpWorld platform (MarketAt snapshot)) world
      (finalizeIntentJson platform params marketConfigured) after (.ok response))
    (hoffers : offersFunding response = true) :
    NamesExecutableRule platform after.rules response snapshot.lastCheckedSlot ↔
      (world.rules.get (draftRuleId draft) = none ∧
          snapshot.lastCheckedSlot ≠ 18446744073709551615) ∨
        ExecutableRule platform.json world.rules (draftRuleId draft) snapshot.lastCheckedSlot := by
  obtain ⟨accepted, userWallet, market, middle, rule, haccepted, hmarket, hstored, hcanonical,
    hrules, hid⟩ := finalizeIntentJson_offers hoffers hexec
  obtain rfl : accepted = draft := Except.ok.inj (haccepted.validated.symm.trans hdraft)
  obtain rfl : market = snapshot := Except.ok.inj (hmarket _ rfl)
  have hruleId : hexEncode rule.ruleId.1 = draftRuleId accepted := by
    rw [hcanonical]
    rfl
  have hnames : NamesExecutableRule platform after.rules response market.lastCheckedSlot ↔
      ExecutableRule platform.json middle.rules (draftRuleId accepted) market.lastCheckedSlot := by
    unfold NamesExecutableRule
    rw [hid, hrules, hruleId]
    simp
  obtain ⟨row, stored, hget, hrow, hrule, hbefore⟩ :=
    persistRule_confirmed (canonicalWatchRule_valid accepted market.lastCheckedSlot) hstored
  have hid : ruleIdHex (canonicalWatchRule accepted market.lastCheckedSlot).ruleId =
      draftRuleId accepted := rfl
  rw [hid] at hget hbefore
  have hafter : ExecutableRule platform.json middle.rules (draftRuleId accepted)
      market.lastCheckedSlot ↔
        ineligibleLifecycle stored = none ∧ market.lastCheckedSlot < stored.rule.expiresAtSlot := by
    simp [ExecutableRule, hget, hrow]
  rw [hnames, hafter]
  -- The stored rule was there before, or this call made it of its own slot.
  rcases hbefore with hbefore | ⟨hfree, nowMs, rfl⟩
  · simp [ExecutableRule, hbefore, hrow]
  · have heligible : ineligibleLifecycle
        (.fresh (canonicalWatchRule accepted market.lastCheckedSlot) nowMs) = none := by
      simp [ineligibleLifecycle, StoredWatchRule.fresh]
    have hexpiry := lt_saturatingAdd_expiry market.lastCheckedSlot
    simp only [StoredWatchRule.fresh, canonicalWatchRule] at heligible ⊢
    rw [hexpiry]
    simp [ExecutableRule, hfree, heligible]

/-! ## An order whose first call was cut short -/

def laterMarket : FinalizeMarketSnapshot := ⟨419001000, 165, 210⟩

def laterRequest : FinalizeIntentParams :=
  halfUsdcRequest 50 "bbbbbbbb-bbbb-4bbb-8bbb-bbbbbbbbbbbb"

theorem accepted_laterRequest : laterRequest.Accepted (halfUsdcDraft 50) payerWallet :=
  accepted_halfUsdc (by decide) (by decide +kernel)

/-- A first order is offered with the rule it stored. -/
theorem names_executable_rule_first :
    ∃ after response,
      Executes (mcpWorld halfUsdcPlatform (MarketAt firstMarket)) (.unsent .empty .empty)
        (finalizeIntentJson halfUsdcPlatform firstRequest true) after (.ok response) ∧
      NamesExecutableRule halfUsdcPlatform after.rules response firstMarket.lastCheckedSlot := by
  have hsmooth : ∀ event, Smooth firstMarket event → AfterEpoch event →
      MarketAt firstMarket event := fun _ hevent _ => marketAt_of_smooth hevent
  have hrun := finalizeIntentJson_inserts hsmooth halfUsdcPlatform (.unsent .empty .empty)
    accepted_firstRequest (by decide : 0 ≤ (1700000000000 : Int64).toInt) rfl rfl (by decide)
  exact ⟨_, _, hrun, (names_executable_rule_iff accepted_firstRequest.validated hrun
    (offersFunding_firstOffer ..)).mpr (.inl ⟨rfl, by decide⟩)⟩

/-- The rule of the first call, stored alone. -/
def firstRuleStored : World :=
  .unsent .empty (Table.empty.execute (.insert
    (ruleToRow halfUsdcPlatform.json (canonicalWatchRule (halfUsdcDraft 50) 419000000)
      1700000000000)))

/-- A first call whose funding row cannot be stored leaves its rule behind. -/
theorem firstRuleStored_run :
    Executes (mcpWorld halfUsdcPlatform (MarketAt firstMarket)) (.unsent .empty .empty)
      (finalizeIntentJson halfUsdcPlatform firstRequest true) firstRuleStored
      (.error (.stateStore .sqlx)) := by
  have hsmooth : ∀ event, Smooth firstMarket event → AfterEpoch event →
      MarketAt firstMarket event := fun _ hevent _ => marketAt_of_smooth hevent
  exact finalizeIntentJson_runs hsmooth accepted_firstRequest
    (persistRule_inserts hsmooth rfl 1700000000000) rfl
    (finalizeFunding_fails hsmooth _ _ (by decide : 0 ≤ (1700000000000 : Int64).toInt) .sqlx)

theorem get_firstRuleStored :
    firstRuleStored.rules.get (ruleIdHex (canonicalWatchRule (halfUsdcDraft 50) 419001000).ruleId) =
      some (ruleToRow halfUsdcPlatform.json (canonicalWatchRule (halfUsdcDraft 50) 419000000)
        1700000000000) :=
  (Table.get_execute_insert rfl _).trans (if_pos rfl)

/-- A later call after the rule's deadline offers the order for funding. -/
theorem offers_expired_rule :
    ∃ (before after : World) (response : Json),
      (∃ result, Executes (mcpWorld halfUsdcPlatform (MarketAt firstMarket))
        (.unsent .empty .empty) (finalizeIntentJson halfUsdcPlatform firstRequest true) before
        result) ∧
      Executes (mcpWorld halfUsdcPlatform (MarketAt laterMarket)) before
        (finalizeIntentJson halfUsdcPlatform laterRequest true) after (.ok response) ∧
      offersFunding response = true ∧
      ¬ NamesExecutableRule halfUsdcPlatform after.rules response laterMarket.lastCheckedSlot := by
  have hsmooth : ∀ event, Smooth laterMarket event → AfterEpoch event →
      MarketAt laterMarket event := fun _ hevent _ => marketAt_of_smooth hevent
  have hread := rowToStored_ruleToRow halfUsdcPlatform.json
    (canonicalWatchRule_valid (halfUsdcDraft 50) 419000000) 1700000000000
  have hstored := persistRule_recovers hsmooth get_firstRuleStored hread
  have hopen : (1700000400000 : Int64) < saturatingAddI64 1700000400000 fundingWindowMs := by decide
  have hhanded := finalizeFunding_inserts hsmooth halfUsdcPlatform firstRuleStored laterRequest
    payerWallet 419000000 (by decide) (by decide)
    (validated_of_ok accepted_laterRequest.validated) rfl hopen 1700000400000
  refine ⟨firstRuleStored, _, _, ⟨_, firstRuleStored_run⟩,
    finalizeIntentJson_runs hsmooth accepted_laterRequest hstored rfl hhanded,
    (offersFunding_actionableResponse ..).1, ?_⟩
  rintro ⟨ruleId, hnamed, row, stored, hget, hrow, _, hopen⟩
  rw [(offersFunding_actionableResponse ..).2, Option.some.injEq, Json.string.injEq] at hnamed
  subst hnamed
  obtain rfl : ruleToRow halfUsdcPlatform.json (canonicalWatchRule (halfUsdcDraft 50) 419000000)
      1700000000000 = row := Option.some.inj (get_firstRuleStored.symm.trans hget)
  obtain rfl := Except.ok.inj (hread.symm.trans hrow)
  have hclosed : ¬ laterMarket.lastCheckedSlot < saturatingAddU64 419000000 watchRuleExpirySlots :=
    by decide
  exact hclosed hopen

end SolFrontier.Mcp
