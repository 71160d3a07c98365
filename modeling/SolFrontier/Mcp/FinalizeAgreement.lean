import SolFrontier.Mcp.FinalizeProgress
import SolFrontier.Mcp.Offers

/-! # Finalizations of one order agree

Two calls may race for one deterministic id, each with a rule of its own slot
and a row of its own wallet and deadline. The loser of an insert adopts the
winner's row or declines, so all offers under one id show one pair.
-/

namespace SolFrontier.Mcp

open Foundation Types StateStore Program

/-- Threshold and amount are read back from the id. -/
theorem deriveRuleId_inj {thresholdBps otherThreshold : UInt32} {amountRaw otherAmount : UInt64}
    {controlled other : PubkeyBytes}
    (heq : deriveRuleId thresholdBps amountRaw controlled =
      deriveRuleId otherThreshold otherAmount other) :
    thresholdBps = otherThreshold ∧ amountRaw = otherAmount := by
  have hbytes := congrArg Subtype.val heq
  simp only [deriveRuleId, List.append_assoc] at hbytes
  obtain ⟨hthreshold, hrest⟩ := Codec.u32.encode_append_inj (Codec.u32_valid _)
    (Codec.u32_valid _) hbytes
  exact ⟨hthreshold,
    (Codec.u64.encode_append_inj (Codec.u64_valid _) (Codec.u64_valid _) hrest).1⟩

/-- The response shows the funding row and the rule stored under its id. -/
def ShowsStored (platform : Platform) (world : World) (response : Json) : Prop :=
  ∃ intentId ruleHash row ruleRow stored,
    response.get "intent_id" = some (.string intentId) ∧
    response.get "rule_hash" = some (.string ruleHash) ∧
    world.funding.get intentId = some row ∧
    response.get "funding" = some (fundingPayload row.toIntent intentId ruleHash) ∧
    world.rules.get intentId = some ruleRow ∧
    rowToStored platform.json ruleRow = .ok stored ∧
    hexEncode stored.canonicalRuleHash.1 = ruleHash ∧
    asciiLower row.canonicalRuleHashHex = ruleHash

variable {platform : Platform} {permits : Event mcpFace → Prop} {world base : World}
  {log : CallLog} {params : FinalizeIntentParams}

theorem Offer.shows (offer : Offer platform params log)
    (hknows : Knows platform permits log world) :
    ShowsStored platform world offer.response := by
  obtain ⟨row, hget, _, horder⟩ := offer.row_stored hknows
  obtain ⟨ruleRow, stored, hrule, hstored, hsame⟩ := offer.rule_stored hknows
  refine ⟨offer.intentId, offer.ruleHash, row, ruleRow, stored, offer.response_intentId,
    offer.response_ruleHash, hget, ?_, hrule, hstored, ?_, ?_⟩
  · rw [fundingPayload_sameOrder horder]
    exact offer.response_funding
  · rw [(rowToStored_ok hstored).2.1, hsame]
    rfl
  · have hcolumn : row.toIntent.canonicalRuleHashHex =
        offer.persistence.intoRow.canonicalRuleHashHex := by rw [horder]
    have hhash := (fundingRowMatchesIdentity_iff.mp offer.handed.identity).ruleHash
    exact (congrArg asciiLower hcolumn).trans (hhash.trans (asciiLower_hexEncode _))

/-- One store shows one payload and one hash under an id. -/
theorem ShowsStored.agree {first second : Json} (hfirst : ShowsStored platform world first)
    (hsecond : ShowsStored platform world second)
    (hid : first.get "intent_id" = second.get "intent_id") :
    first.get "funding" = second.get "funding" ∧
      first.get "rule_hash" = second.get "rule_hash" := by
  obtain ⟨id, hash, row, _, _, hfirstId, hfirstHash, hget, hfunding, _, _, _, hcolumn⟩ := hfirst
  obtain ⟨otherId, otherHash, other, _, _, hsecondId, hsecondHash, hagain, hpayload, _, _, _,
    hsame⟩ := hsecond
  rw [hfirstId, hsecondId, Option.some.injEq, Json.string.injEq] at hid
  subst hid
  obtain rfl : row = other := Option.some.inj (hget.symm.trans hagain)
  obtain rfl : hash = otherHash := hcolumn.symm.trans hsame
  exact ⟨hfunding.trans hpayload.symm, hfirstHash.trans hsecondHash.symm⟩

variable {Caller : Type} [DecidableEq Caller] {pool : Pool mcpFace World Caller ToolAnswer}

/-- A caller has answered its request with an offer of funding. -/
def Offered (pool : Pool mcpFace World Caller ToolAnswer) (caller : Caller)
    (params : FinalizeIntentParams) (response : Json) : Prop :=
  pool.callers caller = some (.done (.finalized params (.ok response))) ∧
    offersFunding response = true

/-- Concurrent finalizations agree. Whatever finalize and confirm calls
interleave over any store: an offer shows the pair stored under its id, from
then on; two offers with one id show one payload and one hash; and offers for
drafts that differ in amount or threshold have different ids. -/
theorem finalizations_agree
    (hreaches : Pool.Reaches (mcpWorld platform permits) (ToolEntry platform) (Pool.initial base)
      pool) :
    (∀ caller params response, Offered pool caller params response →
      ∀ later, Pool.Reaches (mcpWorld platform permits) (ToolEntry platform) pool later →
        ShowsStored platform later.world response) ∧
    (∀ first second firstParams secondParams firstResponse secondResponse,
      Offered pool first firstParams firstResponse →
      Offered pool second secondParams secondResponse →
      firstResponse.get "intent_id" = secondResponse.get "intent_id" →
      firstResponse.get "funding" = secondResponse.get "funding" ∧
        firstResponse.get "rule_hash" = secondResponse.get "rule_hash") ∧
    (∀ first second firstParams secondParams firstResponse secondResponse firstDraft secondDraft,
      Offered pool first firstParams firstResponse →
      Offered pool second secondParams secondResponse →
      validateDraft firstParams.proposal = .ok firstDraft →
      validateDraft secondParams.proposal = .ok secondDraft →
      firstDraft.amountRaw ≠ secondDraft.amountRaw ∨
        firstDraft.thresholdBps ≠ secondDraft.thresholdBps →
      firstResponse.get "intent_id" ≠ secondResponse.get "intent_id") := by
  have hgood := good_of_tools hreaches
  have hshows {caller : Caller} {params : FinalizeIntentParams} {response : Json}
      (hoffered : Offered pool caller params response)
      (later : Pool mcpFace World Caller ToolAnswer)
      (hlater : Pool.Reaches (mcpWorld platform permits) (ToolEntry platform) pool later) :
      ShowsStored platform later.world response := by
    obtain ⟨log, offer, rfl, hknows⟩ := offer_of_done hgood hoffered.1 hoffered.2
    exact offer.shows (hknows later hlater)
  refine ⟨fun _ _ _ => hshows, ?_, ?_⟩
  · intro first second _ _ _ _ hfirst hsecond hid
    exact (hshows hfirst pool .refl).agree (hshows hsecond pool .refl) hid
  · intro first second _ _ _ _ firstDraft secondDraft hfirst hsecond hfirstDraft hsecondDraft
      hdiffer hid
    obtain ⟨_, offer, rfl, _⟩ := offer_of_done hgood hfirst.1 hfirst.2
    obtain ⟨_, other, rfl, _⟩ := offer_of_done hgood hsecond.1 hsecond.2
    rw [offer.response_intentId, other.response_intentId, Option.some.injEq, Json.string.injEq,
      offer.intentId_eq, other.intentId_eq] at hid
    obtain ⟨hthreshold, hamount⟩ := deriveRuleId_inj (Subtype.ext (hexEncode_inj hid))
    obtain rfl := Except.ok.inj (offer.known.accepted.validated.symm.trans hfirstDraft)
    obtain rfl := Except.ok.inj (other.known.accepted.validated.symm.trans hsecondDraft)
    exact hdiffer.elim (fun h => h hamount) (fun h => h hthreshold)

/-- An offer made over the empty store shows what it stored. -/
theorem finalizations_agree_halfUsdc :
    ∃ (pool : Pool mcpFace World Unit ToolAnswer) (response : Json),
      Offered pool () firstRequest response ∧
        ShowsStored halfUsdcPlatform pool.world response := by
  have hsmooth : ∀ event, Smooth firstMarket event → AfterEpoch event →
      Smooth firstMarket event := fun _ h _ => h
  have hrun := finalizeIntentJson_inserts hsmooth halfUsdcPlatform (.unsent .empty .empty)
    accepted_firstRequest (by decide : 0 ≤ (1700000000000 : Int64).toInt) rfl rfl (by decide)
  have hstart : Pool.Reaches (mcpWorld halfUsdcPlatform (Smooth firstMarket))
      (ToolEntry halfUsdcPlatform) (Pool.initial (.unsent .empty .empty))
      (Pool.initial (.unsent .empty .empty) : Pool mcpFace World Unit ToolAnswer) := .refl
  have hidle : (Pool.initial (.unsent .empty .empty) : Pool mcpFace World Unit ToolAnswer).callers
    () = none := rfl
  obtain ⟨pool, hreaches, _, hdone, _⟩ :=
    hstart.finishes hidle (.finalize firstRequest true) (finalizeCall_executes hrun)
  have hoffers := offersFunding_firstOffer halfUsdcPlatform firstRequest (halfUsdcDraft 50)
    firstMarket payerWallet 1700000000000
  exact ⟨pool, _, ⟨hdone, hoffers⟩,
    (finalizations_agree hreaches).1 () _ _ ⟨hdone, hoffers⟩ pool .refl⟩

end SolFrontier.Mcp
