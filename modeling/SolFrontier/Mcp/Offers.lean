import SolFrontier.Mcp.StoreFacts

/-! # What an offer of funding rests on

The pair an offer names is in the store, and stays there: the funding row moves
forward under one order, and the rule row is never written again by the tools.
-/

namespace SolFrontier.Mcp

open Foundation Types StateStore Program

variable {platform : Platform} {permits : Event mcpFace → Prop} {world base : World}
  {log : CallLog} {params : FinalizeIntentParams}

/-! ## The text of an offer -/

/-- The funding payload shows the columns of an order only. -/
theorem fundingPayload_sameOrder {intent renewed : W5hFundingIntent}
    (hsame : intent.SameOrder renewed) (intentId ruleHash : String) :
    fundingPayload renewed intentId ruleHash = fundingPayload intent intentId ruleHash := by
  rw [hsame]
  rfl

namespace Offer

def intentId (offer : Offer platform params log) : String := hexEncode offer.rule.ruleId.1

def ruleHash (offer : Offer platform params log) : String :=
  hexEncode (canonicalRuleHash offer.rule).1

theorem response_intentId (offer : Offer platform params log) :
    offer.response.get "intent_id" = some (.string offer.intentId) := by
  simp [response, actionableResponse, Json.get, intentId]

theorem response_ruleHash (offer : Offer platform params log) :
    offer.response.get "rule_hash" = some (.string offer.ruleHash) := by
  simp [response, actionableResponse, Json.get, ruleHash]

theorem response_funding (offer : Offer platform params log) :
    offer.response.get "funding" =
      some (fundingPayload offer.persistence.intoRow offer.intentId offer.ruleHash) := by
  simp [response, actionableResponse, Json.get, intentId, ruleHash]

/-- The id is derived from threshold and amount alone. -/
theorem intentId_eq (offer : Offer platform params log) :
    offer.intentId =
      hexEncode (deriveRuleId offer.draft.thresholdBps offer.draft.amountRaw controlledWallet).1 := by
  unfold intentId
  rw [offer.canonical]
  rfl

/-! ## The pair in the store -/

/-- The row an offer read is still the same order. -/
theorem row_stored (offer : Offer platform params log) (hknows : Knows platform permits log world) :
    ∃ row, world.funding.get offer.intentId = some row ∧ rowToIntent row = .ok row.toIntent ∧
      offer.persistence.intoRow.SameOrder row.toIntent := by
  obtain ⟨first, row, hread, hget, hadvances⟩ := hknows.facts _ offer.row
  obtain ⟨hrow, horder⟩ := hadvances.order.intent hread
  exact ⟨row, hget, hrow, horder⟩

/-- The rule an offer stored or read is still the one stored under its id. -/
theorem rule_stored (offer : Offer platform params log)
    (hknows : Knows platform permits log world) :
    ∃ row stored, world.rules.get offer.intentId = some row ∧
      rowToStored platform.json row = .ok stored ∧ stored.rule = offer.rule := by
  rcases offer.known.stored rfl with ⟨hinsert, _⟩ | ⟨found, hread, hrule⟩
  · obtain ⟨nowMs, hget⟩ := hknows.facts _ hinsert
    have hvalid : WatchRule.codec.valid offer.rule := by
      rw [offer.canonical]
      exact canonicalWatchRule_valid ..
    exact ⟨_, _, hget, rowToStored_ruleToRow platform.json hvalid nowMs, rfl⟩
  · obtain ⟨row, hget, hstored⟩ := hknows.facts _ hread
    rw [offer.intentId_eq]
    exact ⟨row, found, hget, hstored, hrule.symm⟩

/-- The row an offer read back from its own insert is its own. -/
theorem userWallet_eq (offer : Offer platform params log)
    (hknows : Knows platform permits log world) :
    offer.persistence.intoRow.userWallet = offer.userWallet.toBase58 := by
  cases hexisting : offer.persistence.isExisting with
  | true => exact offer.handed.wallet hexisting
  | false =>
      obtain ⟨createdAtMs, hinserted⟩ := offer.inserted hexisting
      obtain ⟨nowMs, row, hget, hadvances⟩ := hknows.facts _ hinserted
      obtain ⟨current, hcurrent, _, horder⟩ := offer.row_stored hknows
      obtain rfl : row = current := Option.some.inj (hget.symm.trans hcurrent)
      have hwritten : row.userWallet = offer.userWallet.toBase58 := by
        rw [hadvances.order]
        rfl
      have hread : row.toIntent.userWallet = offer.persistence.intoRow.userWallet := by rw [horder]
      exact hread.symm.trans hwritten

end Offer

/-! ## From any store on -/

/-- What the callers know, over a store that only moves forward from its base. -/
def laterInvariant (platform : Platform) (permits : Event mcpFace → Prop) (base : World) :
    PoolInvariant (mcpWorld platform permits) (toolDiscipline platform) :=
  toolInvariant platform permits base.Later
    fun hlater _ hallows hstep => hlater.trans (later_of_allowed hallows hstep.2)

variable {Caller : Type} [DecidableEq Caller] {first pool : Pool mcpFace World Caller ToolAnswer}

theorem good_of_reaches
    (hgood : (laterInvariant platform permits base).Good (ToolReports platform) first)
    (hreaches : Pool.Reaches (mcpWorld platform permits) (ToolEntry platform) first pool) :
    (laterInvariant platform permits base).Good (ToolReports platform) pool :=
  hgood.reaches (fun _ => toolEntry_follows) (fun _ => knows_nil) (fun _ _ => trivial) hreaches

/-- Tool calls over any store keep what they know. -/
theorem good_of_tools
    (hreaches : Pool.Reaches (mcpWorld platform permits) (ToolEntry platform) (Pool.initial base)
      pool) :
    (laterInvariant platform permits base).Good (ToolReports platform) pool :=
  good_of_reaches (PoolInvariant.good_initial _ _ (World.Later.refl base)) hreaches

/-- What a caller offered rests on its calls, and these still tell the truth at
every later point. -/
theorem offer_of_done
    (hgood : (laterInvariant platform permits base).Good (ToolReports platform) pool)
    {caller : Caller} {response : Json}
    (hdone : pool.callers caller = some (.done (.finalized params (.ok response))))
    (hoffers : offersFunding response = true) :
    ∃ (log : CallLog) (offer : Offer platform params log), response = offer.response ∧
      ∀ last, Pool.Reaches (mcpWorld platform permits) (ToolEntry platform) pool last →
        Knows platform permits log last.world := by
  obtain ⟨logs, hassigned⟩ := hgood
  have hreports : ToolReports platform (logs caller) (.finalized params (.ok response)) :=
    hassigned.follows caller _ hdone
  obtain ⟨offer, hresponse⟩ := hreports response rfl hoffers
  refine ⟨logs caller, offer, hresponse, fun last hreaches => ?_⟩
  have hrebased : (laterInvariant platform permits pool.world).Good (ToolReports platform) pool :=
    ⟨logs, .refl _, hassigned.follows, hassigned.holds, fun _ _ _ _ _ _ _ => trivial⟩
  obtain ⟨_, hlast⟩ := good_of_reaches hrebased hreaches
  exact (hassigned.holds caller _ hdone).later hlast.inv

end SolFrontier.Mcp
