import SolFrontier.Mcp.FinalizeProgress
import SolFrontier.Mcp.Offers

/-! # Finalize fails closed

Seven steps over three stores may each fail or meet what an interrupted call
left behind. Funding is offered only at the end of the one path on which every
step confirmed the pair, and nothing is written before the draft is claimed.
-/

namespace SolFrontier.Mcp

open Foundation Types StateStore Program

variable {platform : Platform} {permits : Event mcpFace → Prop} {world after : World}
  {log : CallLog} {params : FinalizeIntentParams}

/-- A funding row belongs to a draft's rule and to a user wallet. -/
structure FundsRule (platform : Platform) (draft : DraftIntent) (rule : WatchRule)
    (user : PubkeyBytes) (funding : W5hFundingIntent) : Prop where
  intentId : funding.intentId = hexEncode rule.ruleId.1
  ruleId : funding.ruleIdHex = hexEncode rule.ruleId.1
  ruleHash : asciiLower funding.canonicalRuleHashHex = hexEncode (canonicalRuleHash rule).1
  amount : funding.amountRaw = draft.amountRaw
  threshold : funding.thresholdBps = draft.thresholdBps
  controlledWallet : funding.controlledWallet = controlledWalletBs58
  controlledUsdcAta : funding.controlledUsdcAta = controlledUsdcAtaBs58
  userWallet : funding.userWallet = user.toBase58
  userUsdcAta : funding.userUsdcAta = (platform.associatedTokenAddress user usdcMint).toBase58

/-- Everything a call that offers funding went through. -/
structure Guarded (platform : Platform) (params : FinalizeIntentParams) (log : CallLog)
    (after : World) (response : Json) (draft : DraftIntent) (userWallet : PubkeyBytes)
    (rule : WatchRule) (funding : W5hFundingIntent) : Prop where
  validated : validateDraft params.proposal = .ok draft
  draftHash : params.draftHash = computeDraftHash draft.canonicalPreimage
  claimed : ∃ consumedAtMs,
    ⟨.claimDraft params.draftId params.draftHash consumedAtMs, .claimed⟩ ∈ log
  named : response.get "intent_id" = some (.string (hexEncode rule.ruleId.1))
  confirmed : ⟨.rules (.insert rule), .ok ()⟩ ∈ log ∨
    ∃ stored, ⟨.rules (.get rule.ruleId), .ok (some stored)⟩ ∈ log ∧ stored.rule = rule
  stored : ∃ row stored, after.rules.get (ruleIdHex rule.ruleId) = some row ∧
    rowToStored platform.json row = .ok stored ∧ stored.rule = rule
  canonical : rule = canonicalWatchRule draft rule.createdAtSlot
  read : ⟨.funding (.get (hexEncode rule.ruleId.1)), .ok (some funding)⟩ ∈ log
  funds : FundsRule platform draft rule userWallet funding
  status : funding.status = .fundingRequired
  deadline : ∃ checkedAtMs,
    log.getLast? = some ⟨.nowMs, checkedAtMs⟩ ∧ checkedAtMs < funding.expiresAtMs
  wallet : pubkeyFromStr (trim params.userWallet) = some userWallet

/-- The row of an offer belongs to its rule and to the request's wallet. -/
theorem Offer.funds (offer : Offer platform params log)
    (hknows : Knows platform permits log world) :
    FundsRule platform offer.draft offer.rule offer.userWallet offer.persistence.intoRow := by
  have hidentity := fundingRowMatchesIdentity_iff.mp offer.handed.identity
  have hwallet := offer.userWallet_eq hknows
  obtain ⟨rate, hrate, hthreshold⟩ := hidentity.threshold
  obtain ⟨payer, hpayer, hata⟩ := hidentity.payer
  have hamount := hidentity.amount
  rw [offer.canonical] at hrate hamount
  rw [canonicalSolendDepositAmountRaw_canonical] at hamount
  rw [hwallet, pubkeyFromStr_toBase58] at hpayer
  obtain rfl := Option.some.inj hpayer
  obtain rfl := Condition.solendReserveSupplyRate.inj (Option.some.inj hrate)
  exact
    { intentId := hidentity.intentId
      ruleId := hidentity.ruleId
      ruleHash := hidentity.ruleHash.trans (asciiLower_hexEncode _)
      amount := (Option.some.inj hamount).symm
      threshold := hthreshold
      controlledWallet := hidentity.controlledWallet
      controlledUsdcAta := hidentity.controlledUsdcAta
      userWallet := hwallet
      userUsdcAta := hata.symm }

theorem Offer.guarded (offer : Offer platform params log)
    (hknows : Knows platform permits log world) :
    Guarded platform params log world offer.response offer.draft offer.userWallet offer.rule
      offer.persistence.intoRow where
  validated := offer.known.accepted.validated
  draftHash := offer.known.accepted.hash.symm
  claimed := offer.known.claimed
  named := offer.response_intentId
  confirmed := by
    rcases offer.known.stored rfl with ⟨hinserted, _⟩ | ⟨found, hfound, hrule⟩
    · exact .inl hinserted
    · have hid : offer.rule.ruleId =
          deriveRuleId offer.draft.thresholdBps offer.draft.amountRaw controlledWallet := by
        rw [offer.canonical]
        rfl
      rw [← hid] at hfound
      exact .inr ⟨found, hfound, hrule.symm⟩
  stored := offer.rule_stored hknows
  canonical := offer.canonical
  read := offer.row
  funds := offer.funds hknows
  status := offer.handed.status
  deadline := ⟨offer.checkedAtMs, offer.lastClock, offer.handed.deadline⟩
  wallet := offer.known.accepted.wallet

/-- Finalize fails closed. Over any store and for any answers, a response that
offers funding comes from a call that went through all its guards, and a call
whose draft was not claimed leaves both tables as they were. -/
theorem finalize_fails_closed {marketConfigured : Bool} {result : FinalizeResult}
    (hexec : Executes (logged (mcpWorld platform permits)) (world, [])
      (finalizeIntentJson platform params marketConfigured) (after, log) result) :
    (∀ response, result = .ok response → offersFunding response = true →
      ∃ draft userWallet rule funding,
        Guarded platform params log after response draft userWallet rule funding) ∧
    ((∀ consumedAtMs,
        ⟨.claimDraft params.draftId params.draftHash consumedAtMs, .claimed⟩ ∉ log) →
      after.rules = world.rules ∧ after.funding = world.funding) := by
  have hfollows : (finalizeIntentJson platform params marketConfigured).Follows
      (toolDiscipline platform) (FinalizeReports platform params) [] :=
    finalizeIntentJson_follows params marketConfigured
  constructor
  · intro response hresponse hoffers
    have hreports : FinalizeReports platform params log result := hfollows.executes hexec
    obtain ⟨offer, rfl⟩ := hreports response hresponse hoffers
    have hkept : world.Later after ∧ Knows platform permits log after :=
      (laterInvariant platform permits world).executes hexec hfollows (.refl world)
        (knows_nil world)
    exact ⟨_, _, _, _, offer.guarded hkept.2⟩
  · intro hunclaimed
    have hwithin : Executes (mcpWorld platform (· ∈ log)) world
        (finalizeIntentJson platform params marketConfigured) after result :=
      hexec.within.2.mono fun _ _ _ hstep => ⟨hstep.1, hstep.2.2⟩
    rcases finalizeIntentJson_run hwithin with ⟨rfl, _⟩ | ⟨_, _, _, _, _, _, _,
      ⟨consumedAtMs, hclaimed⟩, _⟩
    · exact ⟨rfl, rfl⟩
    · exact absurd hclaimed (hunclaimed consumedAtMs)

/-- A first order is offered, with all its guards behind it. -/
theorem finalize_fails_closed_halfUsdc :
    ∃ after log response draft userWallet rule funding,
      Executes (logged (mcpWorld halfUsdcPlatform (Smooth firstMarket)))
        (.unsent .empty .empty, []) (finalizeIntentJson halfUsdcPlatform firstRequest true)
        (after, log) (.ok response) ∧
      Guarded halfUsdcPlatform firstRequest log after response draft userWallet rule funding := by
  have hsmooth : ∀ event, Smooth firstMarket event → AfterEpoch event →
      Smooth firstMarket event := fun _ h _ => h
  have hrun := finalizeIntentJson_inserts hsmooth halfUsdcPlatform (.unsent .empty .empty)
    accepted_firstRequest (by decide : 0 ≤ (1700000000000 : Int64).toInt) rfl rfl (by decide)
  obtain ⟨log, hlogged⟩ := hrun.withLog []
  obtain ⟨draft, userWallet, rule, funding, hguarded⟩ :=
    (finalize_fails_closed hlogged).1 _ rfl (offersFunding_firstOffer ..)
  exact ⟨_, log, _, draft, userWallet, rule, funding, hlogged, hguarded⟩

end SolFrontier.Mcp
