import SolFrontier.Mcp.FinalizeAgreement
import SolFrontier.Mcp.StatusAnswers
import SolFrontier.StateStore.RuleDrift

/-! # Offered intents stay on record

A user keeps the id and the hash of an offer. Whatever any caller does to the
two tables afterwards, a status query finds the order again under its id, and
under its hash as long as the index leads there.
-/

namespace SolFrontier.Mcp

open Foundation Types StateStore Program Status

/-! ## The main store under any calls -/

/-- One call of either repository on the main store, answered, failed or lost. -/
inductive StoreCall : MainStore → MainStore → Prop
  | funding {store : MainStore} {table : W5hFundingTable} (op : W5hOp)
      (answer : Except StoreError op.Answer) :
      w5hFundingRepository.Attempt store.funding op answer table →
      StoreCall store { store with funding := table }
  | rules {store : MainStore} {table : WatchRuleTable} (op : WatchRuleOp)
      (answer : Except StoreError op.Answer) :
      (watchRuleRepository store.json).Attempt store.rules op answer table →
      StoreCall store { store with rules := table }

/-- Any calls, by anyone. -/
abbrev StoreCalls : MainStore → MainStore → Prop := Relation.ReflTransGen StoreCall

/-- The tables as a status query reads them. -/
def World.mainStore (json : RuleJson) (world : World) : MainStore :=
  ⟨json, world.funding, world.rules⟩

/-- Both rows of an order are stored: a later version of the funding row, and a
row that reads back as the rule. -/
structure OnRecord (rule : WatchRule) (intent : W5hFundingIntent) (store : MainStore) : Prop where
  funding : ∃ first row, rowToIntent first = .ok intent ∧
    store.funding.get (hexEncode rule.ruleId.1) = some row ∧ first.SameOrder row
  rule : ∃ row stored, store.rules.get (hexEncode rule.ruleId.1) = some row ∧
    rowToStored store.json row = .ok stored ∧ stored.rule = rule

variable {rule : WatchRule} {intent : W5hFundingIntent} {store later : MainStore}

theorem OnRecord.call (hrecord : OnRecord rule intent store) (hcall : StoreCall store later) :
    OnRecord rule intent later := by
  obtain ⟨⟨first, row, hread, hget, horder⟩, ⟨ruleRow, stored, hrule, hstored, hsame⟩⟩ := hrecord
  cases hcall with
  | funding op answer hattempt =>
      refine ⟨?_, ⟨ruleRow, stored, hrule, hstored, hsame⟩⟩
      rcases attempt_stored hattempt hget with hkept | ⟨next, _, _, _, hchange, hnext⟩
      · exact ⟨first, row, hread, hkept, horder⟩
      · exact ⟨first, next, hread, hnext, horder.changes hchange⟩
  | rules op answer hattempt =>
      obtain ⟨next, kept, hnext, hkept, hkeptRule⟩ := attempt_reads hattempt hrule hstored
      exact ⟨⟨first, row, hread, hget, horder⟩, ⟨next, kept, hnext, hkept, hkeptRule.trans hsame⟩⟩

/-- Nothing that is called takes an order off the record. -/
theorem OnRecord.calls (hrecord : OnRecord rule intent store) (hcalls : StoreCalls store later) :
    OnRecord rule intent later := by
  induction hcalls with
  | refl => exact hrecord
  | tail _ hcall ih => exact ih.call hcall

/-! ## What a query answers -/

/-- The answer is about the order that the response offers. -/
structure AnswersOrder (response : Json) (answer : IntentStatusResponse) : Prop where
  source : answer.source = some "w5h_funding_intent"
  intentId : ∃ intentId, answer.resolvedIntentId = some intentId ∧
    response.get "intent_id" = some (.string intentId)
  ruleHash : ∃ ruleHash, answer.canonicalRuleHash.map asciiLower = some ruleHash ∧
    response.get "rule_hash" = some (.string ruleHash)
  amount : ∃ amountRaw funding, answer.amountRaw = some amountRaw ∧
    response.get "funding" = some funding ∧
    funding.get "amount_raw" = some (.string (toString amountRaw))
  deadline : ∃ expiresAtMs, answer.expiresAtMs = some expiresAtMs ∧
    response.get "expires_at_ms" = some (.number expiresAtMs.toInt)
  watched : answer.watchRuleStatus ≠ none

/-- The rows that a query for the order reads. -/
theorem OnRecord.rows (hrecord : OnRecord rule intent store) :
    ∃ current stored, Rows store ⟨hexEncode rule.ruleId.1, rule.ruleId⟩ (some current)
        (some stored) ∧ intent.SameOrder current ∧ stored.rule = rule := by
  obtain ⟨⟨first, row, hread, hget, horder⟩, ⟨ruleRow, stored, hrule, hstored, hsame⟩⟩ := hrecord
  obtain ⟨hcurrent, hcurrentOrder⟩ := horder.intent hread
  refine ⟨row.toIntent, stored, ⟨?_, ?_⟩, hcurrentOrder, hsame⟩
  · exact W5hFundingTable.lookup_eq_some.mpr ⟨row, hget, hcurrent⟩
  · exact WatchRuleTable.lookup_eq_some.mpr ⟨ruleRow, hrule, hstored⟩

variable {platform : Platform} {permits : Event mcpFace → Prop} {world : World} {log : CallLog}
  {params : FinalizeIntentParams}

namespace Offer

theorem onRecord (offer : Offer platform params log) (hknows : Knows platform permits log world) :
    OnRecord offer.rule offer.persistence.intoRow (world.mainStore platform.json) where
  funding := by
    obtain ⟨first, row, hread, hget, hadvances⟩ := hknows.facts _ offer.row
    exact ⟨first, row, hread, hget, hadvances.order⟩
  rule := offer.rule_stored hknows

/-- Any version of the offered order, under its own id, answers for the offer. -/
theorem answersOrder (offer : Offer platform params log) {current : W5hFundingIntent}
    (horder : offer.persistence.intoRow.SameOrder current) (stored : StoredWatchRule)
    (text : String) :
    AnswersOrder offer.response (projectStatus text
      ⟨hexEncode offer.rule.ruleId.1, offer.rule.ruleId⟩ (some current) (some stored)) where
  source := rfl
  intentId := ⟨offer.intentId, rfl, offer.response_intentId⟩
  ruleHash := by
    have hcolumn : current.canonicalRuleHashHex =
        offer.persistence.intoRow.canonicalRuleHashHex := by rw [horder]
    have hhash := (fundingRowMatchesIdentity_iff.mp offer.handed.identity).ruleHash
    refine ⟨offer.ruleHash, congrArg some ?_, offer.response_ruleHash⟩
    exact (congrArg asciiLower hcolumn).trans (hhash.trans (asciiLower_hexEncode _))
  amount := by
    refine ⟨current.amountRaw, _, rfl, offer.response_funding, ?_⟩
    rw [← fundingPayload_sameOrder horder]
    simp [fundingPayload, Json.get]
  deadline := by
    refine ⟨current.expiresAtMs, rfl, ?_⟩
    have hdeadline : current.expiresAtMs = offer.persistence.intoRow.expiresAtMs := by rw [horder]
    rw [hdeadline]
    simp [response, actionableResponse, Json.get]
  watched := by simp [projectStatus, fundingResponse]

end Offer

/-! ## Queries by id and by hash -/

/-- The server's own text of an id is a spelling of it. -/
theorem uuidSpelling_hexEncode (id : Bytes 16) : UuidSpelling id (hexEncode id.1) := by
  refine ⟨utf8Bytes (hexEncode id.1), ?_, .inl (by rw [trim_hexEncode])⟩
  have hlower : ∀ digit < 16, toAsciiLowercase (hexDigitByte digit) = hexDigitByte digit := by
    decide
  rw [Digits, utf8Bytes_hexEncode, List.map_flatMap]
  congr 1
  funext byte
  have hbound := byte.toNat_lt
  simp [hlower (byte.toNat / 16) (by omega), hlower (byte.toNat % 16) (by omega)]

section

variable {after : MainStore} {text : String} {answer : IntentStatusResponse}

/-- A query by id answers unless a read fails, and only from the order's rows. -/
theorem OnRecord.query_uuid (hrecord : OnRecord rule intent store)
    (hspelling : UuidSpelling rule.ruleId text) :
    ∃ current stored, intent.SameOrder current ∧
      ∀ after result, Executes statusStep store (queryIntentStatus text) after result ↔
        after = store ∧ ((∃ error, result = .error error) ∨
          result = .ok (projectStatus text ⟨hexEncode rule.ruleId.1, rule.ruleId⟩ (some current)
            (some stored))) := by
  obtain ⟨current, stored, hrows, horder, _⟩ := hrecord.rows
  refine ⟨current, stored, horder, fun after result => ?_⟩
  rw [query_of_uuid hspelling, answerResolved_iff]
  refine and_congr_right fun _ => or_congr_right ?_
  constructor
  · rintro ⟨other, otherRule, hother, rfl⟩
    obtain rfl : some current = other := Except.ok.inj (hrows.funding.symm.trans hother.funding)
    obtain rfl : some stored = otherRule := Except.ok.inj (hrows.rule.symm.trans hother.rule)
    rfl
  · rintro rfl
    exact ⟨some current, some stored, hrows, rfl⟩

/-- A query by hash is refused, or answered from the order's rows, unless
another stored rule collides with it. -/
theorem OnRecord.query_hash (hrecord : OnRecord rule intent store)
    (hspelling : HashSpelling (canonicalRuleHash rule) text)
    (hexec : Executes statusStep store (queryIntentStatus text) after (.ok answer)) :
    answer.status = "unsupported_ref" ∨ StoredCollision store ∨
      ∃ current stored, intent.SameOrder current ∧ answer =
        projectStatus text ⟨hexEncode rule.ruleId.1, rule.ruleId⟩ (some current) (some stored) := by
  obtain ⟨current, stored, hrows, horder, rfl⟩ := hrecord.rows
  rcases query_of_hash hspelling hexec with
    ⟨_, herror⟩ | ⟨reason, hresponse⟩ | ⟨resolved, found, foundRule, hfound, hmatches, hresponse⟩
  · cases herror
  · cases hresponse
    exact .inl rfl
  · right
    cases hresponse
    obtain ⟨other, rfl, hid, htext, _, hhash, _⟩ := mapping_matches_iff.mp hmatches
    obtain ⟨row, hget, hstored⟩ := WatchRuleTable.lookup_eq_some.mp hrows.rule
    obtain ⟨otherRow, hotherGet, hother⟩ := WatchRuleTable.lookup_eq_some.mp hfound.rule
    by_cases hbytes : canonicalRuleBytes other.rule = canonicalRuleBytes stored.rule
    · right
      have hsame : resolved = ⟨hexEncode stored.rule.ruleId.1, stored.rule.ruleId⟩ := by
        obtain ⟨intentId, ruleId⟩ := resolved
        obtain rfl : other.rule.ruleId = ruleId := hid
        obtain rfl : hexEncode other.rule.ruleId.1 = intentId := htext
        rw [ruleId_of_canonicalRuleBytes hbytes]
      subst hsame
      obtain rfl : some current = found := Except.ok.inj (hrows.funding.symm.trans hfound.funding)
      obtain rfl : stored = other :=
        Option.some.inj (Except.ok.inj (hrows.rule.symm.trans hfound.rule))
      exact ⟨current, stored, horder, rfl⟩
    · left
      exact ⟨otherRow, Table.mem_of_get hotherGet, row, Table.mem_of_get hget, other, stored,
        hother, hstored, hbytes, Subtype.ext (hexEncode_inj hhash)⟩

end

variable {Caller : Type} [DecidableEq Caller] {base : World}
  {pool : Pool mcpFace World Caller ToolAnswer}

/-- An offered intent is never lost. Whatever tools interleaved before an offer,
and whatever calls anyone makes on the two tables after it: a query by the
offered id answers unless a read fails, and with the offered order; a query by
the offered hash is refused or answers with that order, unless two stored rules
collide. -/
theorem offered_stays_answerable
    (hreaches : Pool.Reaches (mcpWorld platform permits) (ToolEntry platform) (Pool.initial base)
      pool) {caller : Caller} {response : Json}
    (hoffered : Offered pool caller params response)
    (hcalls : StoreCalls (pool.world.mainStore platform.json) store) :
    ∃ (id : Bytes 16) (hash : Bytes 32),
      response.get "intent_id" = some (.string (hexEncode id.1)) ∧
      response.get "rule_hash" = some (.string (hexEncode hash.1)) ∧
      (∀ text, UuidSpelling id text →
        (∃ answer, Executes statusStep store (queryIntentStatus text) store (.ok answer)) ∧
        ∀ after answer, Executes statusStep store (queryIntentStatus text) after (.ok answer) →
          AnswersOrder response answer) ∧
      ∀ text after answer, HashSpelling hash text →
        Executes statusStep store (queryIntentStatus text) after (.ok answer) →
        answer.status = "unsupported_ref" ∨ StoredCollision store ∨
          AnswersOrder response answer := by
  obtain ⟨log, offer, rfl, hknows⟩ := offer_of_done (good_of_tools hreaches) hoffered.1 hoffered.2
  have hrecord := (offer.onRecord (hknows pool .refl)).calls hcalls
  refine ⟨offer.rule.ruleId, canonicalRuleHash offer.rule, offer.response_intentId,
    offer.response_ruleHash, ?_, ?_⟩
  · intro text hspelling
    obtain ⟨current, stored, horder, hanswers⟩ := hrecord.query_uuid hspelling
    refine ⟨⟨_, (hanswers store _).mpr ⟨rfl, .inr rfl⟩⟩, ?_⟩
    intro after answer hexec
    obtain ⟨_, ⟨_, herror⟩ | hanswer⟩ := (hanswers after _).mp hexec
    · cases herror
    · obtain rfl := Except.ok.inj hanswer
      exact offer.answersOrder horder stored text
  · intro text after answer hspelling hexec
    rcases hrecord.query_hash hspelling hexec with hrefused | hcollision |
      ⟨current, stored, horder, rfl⟩
    · exact .inl hrefused
    · exact .inr (.inl hcollision)
    · exact .inr (.inr (offer.answersOrder horder stored text))

/-- An order that was offered, failed and had its rule revoked is still found. -/
theorem offered_stays_answerable_failed :
    ∃ (pool : Pool mcpFace World Unit ToolAnswer) (response : Json) (store : MainStore),
      Offered pool () firstRequest response ∧
      StoreCalls (pool.world.mainStore halfUsdcPlatform.json) store ∧
      ∃ (id : Bytes 16) (answer : IntentStatusResponse),
        response.get "intent_id" = some (.string (hexEncode id.1)) ∧
        Executes statusStep store (queryIntentStatus (hexEncode id.1)) store (.ok answer) ∧
        AnswersOrder response answer := by
  have hsmooth : ∀ event, Smooth firstMarket event → AfterEpoch event →
      Smooth firstMarket event := fun _ h _ => h
  have hrun := finalizeIntentJson_inserts hsmooth halfUsdcPlatform (.unsent .empty .empty)
    accepted_firstRequest (by decide : 0 ≤ (1700000000000 : Int64).toInt) rfl rfl (by decide)
  have hstart : Pool.Reaches (mcpWorld halfUsdcPlatform (Smooth firstMarket))
      (ToolEntry halfUsdcPlatform) (Pool.initial (.unsent .empty .empty))
      (Pool.initial (.unsent .empty .empty) : Pool mcpFace World Unit ToolAnswer) := .refl
  have hidle : (Pool.initial (.unsent .empty .empty) : Pool mcpFace World Unit ToolAnswer).callers
    () = none := rfl
  obtain ⟨pool, hreaches, _, hdone, _⟩ :=
    hstart.finishes hidle (.finalize firstRequest true) (finalizeCall_executes hrun)
  have hoffered : Offered pool () firstRequest _ := ⟨hdone,
    offersFunding_firstOffer halfUsdcPlatform firstRequest (halfUsdcDraft 50) firstMarket
      payerWallet 1700000000000⟩
  let orderId := deriveRuleId 50 500000 controlledWallet
  have hfailed (store : MainStore) : StoreCall store _ :=
    .funding (.markFailed (hexEncode orderId.1) "stuck") _ (.answered 1700000500000)
  have hrevoked (store : MainStore) : StoreCall store _ :=
    .rules (.markRevoked orderId) _ (.answered 1700000600000)
  have hcalls := (Relation.ReflTransGen.single
    (hfailed (pool.world.mainStore halfUsdcPlatform.json))).tail (hrevoked _)
  obtain ⟨id, hash, hid, _, huuid, _⟩ := offered_stays_answerable hreaches hoffered hcalls
  obtain ⟨⟨answer, hanswer⟩, hshows⟩ := huuid _ (uuidSpelling_hexEncode id)
  exact ⟨pool, _, _, hoffered, hcalls, id, answer, hid, hanswer, hshows _ _ hanswer⟩

end SolFrontier.Mcp
