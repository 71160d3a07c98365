import SolFrontier.Mcp.ConfirmProgress
import SolFrontier.Mcp.FinalizeProgress

/-! # Confirming what finalize wrote

Finalize derives a row's columns from the rule and the draft, confirm derives
them again from the row and the stored rule. On a freshly written pair the two
derivations agree, so a payment of the order is accepted.
-/

namespace SolFrontier.Mcp

open Foundation Types StateStore Program

variable {platform : Platform} {permits : Event mcpFace → Prop} {world : World}
  {draft : DraftIntent} {snapshot : FinalizeMarketSnapshot} {userWallet : PubkeyBytes}
  {slot : UInt64} {createdAtMs nowMs : Int64} {stored : StoredWatchRule}

/-- The row of a canonical rule passes the joint check with that rule. -/
theorem watchRuleMatchesIntent_fresh (platform : Platform) (snapshot : FinalizeMarketSnapshot)
    (userWallet : PubkeyBytes) (createdAtMs nowMs : Int64)
    (hrule : stored.rule = canonicalWatchRule draft slot)
    (hhash : stored.canonicalRuleHash = canonicalRuleHash stored.rule) :
    watchRuleMatchesIntent stored ((newFundingIntent platform draft snapshot userWallet
      (canonicalWatchRule draft slot) draft.amountRaw createdAtMs).intent nowMs) = true := by
  have hdestination : (canonicalWatchRule draft slot).destination.toBase58 = controlledWalletBs58 :=
    toBase58_pinned _
  simp [watchRuleMatchesIntent, hhash, hrule, NewW5hFundingIntent.intent, newFundingIntent,
    eqIgnoreAsciiCase, hdestination]
  rfl

/-- A payment of a freshly written order is evidence for it. -/
theorem evidence_fresh (hvalid : draft.Validated) {ruleRow : WatchRuleRowRaw}
    (hget : world.rules.get (ruleIdHex (canonicalWatchRule draft slot).ruleId) = some ruleRow)
    (hstored : rowToStored platform.json ruleRow = .ok stored)
    (hrule : stored.rule = canonicalWatchRule draft slot) {signature : String}
    {tx : ObservedFundingTransaction} (hsignature : (signatureFromStr signature).isSome = true)
    (hread : permits ⟨.readFundingTransaction signature, .ok (.confirmed tx)⟩)
    (hpays : Pays platform tx ((newFundingIntent platform draft snapshot userWallet
      (canonicalWatchRule draft slot) draft.amountRaw createdAtMs).intent nowMs)) :
    Evidence platform permits world ((newFundingIntent platform draft snapshot userWallet
      (canonicalWatchRule draft slot) draft.amountRaw createdAtMs).toRow nowMs) signature tx := by
  have hamount : (newFundingIntent platform draft snapshot userWallet
      (canonicalWatchRule draft slot) draft.amountRaw createdAtMs).amountRaw.toNat < 2 ^ 63 := by
    have hle := UInt64.le_iff_toNat_le.mp hvalid.amount.2
    have hmax : maxAmountRaw.toNat = 1000000 := rfl
    have hsame : (newFundingIntent platform draft snapshot userWallet
      (canonicalWatchRule draft slot) draft.amountRaw createdAtMs).amountRaw = draft.amountRaw := rfl
    rw [hsame]
    omega
  obtain ⟨hpositive, hintent⟩ := rowToIntent_ok.mp (rowToIntent_toRow hamount nowMs)
  have hmatches := watchRuleMatchesIntent_fresh platform snapshot userWallet createdAtMs nowMs
    hrule (rowToStored_ok hstored).2.1
  exact
    { wellFormed := hsignature
      readable := rowToIntent_ok.mpr ⟨hpositive, rfl⟩
      rule := ⟨(canonicalWatchRule draft slot).ruleId, ruleRow, stored,
        decodeRuleId_hexEncode _, hget, hstored, hintent ▸ hmatches⟩
      read := hread
      pays := hintent ▸ verifyFundingTransaction_ok.mpr hpays
      slot := fun hstatus => by cases hstatus }

/-! ## A payment of two orders for half a USDC -/

def halfUsdcOrder (thresholdBps : UInt32) : NewW5hFundingIntent :=
  newFundingIntent halfUsdcPlatform (halfUsdcDraft thresholdBps) firstMarket payerWallet
    (canonicalWatchRule (halfUsdcDraft thresholdBps) 419000000) 500000 1700000000000

def halfUsdcMemo (thresholdBps : UInt32) : String :=
  fundingMemo (halfUsdcOrder thresholdBps).intentId (halfUsdcOrder thresholdBps).canonicalRuleHashHex

def usdcBalance (account owner : String) (amountRaw : UInt64) : ObservedTokenBalance :=
  ⟨account, usdcMintBs58, owner, amountRaw, usdcTokenDecimals⟩

/-- One transfer of half a USDC with the memos of two orders. -/
def halfUsdcPayment : ObservedFundingTransaction where
  slot := 419000010
  blockTimeMs := some 1700000010000
  confirmation := .finalized
  succeeded := true
  signerPubkeys := [payerWalletBs58]
  memos := [halfUsdcMemo 50, halfUsdcMemo 51]
  transferChecked :=
    [{ source := payerUsdcAtaBs58
       mint := usdcMintBs58
       destination := controlledUsdcAtaBs58
       authority := payerWalletBs58
       amountRaw := 500000
       decimals := usdcTokenDecimals }]
  preTokenBalances :=
    [usdcBalance payerUsdcAtaBs58 payerWalletBs58 2000000,
     usdcBalance controlledUsdcAtaBs58 controlledWalletBs58 0]
  postTokenBalances :=
    [usdcBalance payerUsdcAtaBs58 payerWalletBs58 1500000,
     usdcBalance controlledUsdcAtaBs58 controlledWalletBs58 500000]

def halfUsdcSignature : String :=
  "5HX28k3QXzz9RrVUEYmVFPWVKiMp36spX7b5FtS5PAike9rdoQ6rokEuw3qakAeTD9JaPf4qLAAe7QJKVn7XygC2"

theorem halfUsdcSignature_isSome : (signatureFromStr halfUsdcSignature).isSome = true := by
  decide +kernel

theorem payerAta_halfUsdc :
    (halfUsdcPlatform.associatedTokenAddress payerWallet usdcMint).toBase58 = payerUsdcAtaBs58 := by
  unfold halfUsdcPlatform
  dsimp only
  rw [if_pos rfl, toBase58_pinned]

theorem controlledWallet_ne_payerWallet : controlledWallet ≠ payerWallet := by
  intro heq
  have htexts := congrArg PubkeyBytes.toBase58 heq
  rw [controlledWallet, payerWallet, toBase58_pinned, toBase58_pinned] at htexts
  simp [controlledWalletBs58, payerWalletBs58] at htexts

theorem controlledAta_halfUsdc :
    (halfUsdcPlatform.associatedTokenAddress controlledWallet usdcMint).toBase58 =
      controlledUsdcAtaBs58 := by
  unfold halfUsdcPlatform
  dsimp only
  rw [if_neg controlledWallet_ne_payerWallet, toBase58_pinned]

/-- The payment is one of each order whose memo it carries. -/
theorem pays_halfUsdc {thresholdBps : UInt32}
    (hmemo : halfUsdcMemo thresholdBps ∈ halfUsdcPayment.memos) (nowMs : Int64) :
    Pays halfUsdcPlatform halfUsdcPayment ((halfUsdcOrder thresholdBps).intent nowMs) := by
  have hwallet : ((halfUsdcOrder thresholdBps).intent nowMs).userWallet = payerWalletBs58 :=
    toBase58_pinned _
  have hata : ((halfUsdcOrder thresholdBps).intent nowMs).userUsdcAta = payerUsdcAtaBs58 :=
    payerAta_halfUsdc
  have hcontrolled : ((halfUsdcOrder thresholdBps).intent nowMs).controlledWallet =
    controlledWalletBs58 := rfl
  have hreceiving : ((halfUsdcOrder thresholdBps).intent nowMs).controlledUsdcAta =
    controlledUsdcAtaBs58 := rfl
  have hamount : ((halfUsdcOrder thresholdBps).intent nowMs).amountRaw = 500000 := rfl
  constructor
  · rfl
  · exact hmemo
  · rw [hwallet]
    exact List.mem_cons_self
  · rw [hwallet, hata]
    exact ⟨payerWallet, pubkeyFromStr_pinned _, payerAta_halfUsdc⟩
  · rw [hcontrolled, hreceiving]
    exact ⟨controlledWallet, pubkeyFromStr_pinned _, controlledAta_halfUsdc⟩
  · rw [orderTransfer, hwallet, hata, hreceiving, hamount]
    exact List.mem_cons_self
  · rw [hwallet, hata, hamount]
    exact ⟨_, _, rfl, rfl, ⟨rfl, rfl, rfl⟩, ⟨rfl, rfl, rfl⟩, rfl⟩
  · rw [hcontrolled, hreceiving, hamount]
    have hbefore : findBalance halfUsdcPayment.preTokenBalances controlledUsdcAtaBs58 =
        some (usdcBalance controlledUsdcAtaBs58 controlledWalletBs58 0) := by decide
    refine ⟨usdcBalance controlledUsdcAtaBs58 controlledWalletBs58 500000, by decide, ?_,
      ⟨rfl, rfl, rfl⟩, ?_⟩
    · intro before hfound
      obtain rfl := Option.some.inj (hbefore.symm.trans hfound)
      exact ⟨rfl, rfl, rfl⟩
    · rw [hbefore]
      rfl

/-- A confirm call for such an order. -/
def halfUsdcConfirm (thresholdBps : UInt32) : ConfirmFundingParams where
  intentId := (halfUsdcOrder thresholdBps).intentId
  txSignature := halfUsdcSignature

theorem trim_halfUsdcSignature : trim halfUsdcSignature = halfUsdcSignature :=
  trim_of_signatureFromStr halfUsdcSignature_isSome

/-- An order for half a USDC and its rule, as finalize leaves them. -/
def halfUsdcStored : World where
  funding := w5hStore.after [(.insert (halfUsdcOrder 50), 1700000000000)]
  rules := Table.empty.execute (.insert
    (ruleToRow halfUsdcPlatform.json (canonicalWatchRule (halfUsdcDraft 50) 419000000)
      1700000000000))
  sends _ := 0

theorem get_halfUsdcStored : halfUsdcStored.funding.get (halfUsdcOrder 50).intentId =
    some ((halfUsdcOrder 50).toRow 1700000000000) := by
  have hfree : (Table.empty : W5hFundingTable).get (halfUsdcOrder 50).intentId = none := rfl
  have hinserted : ((Table.empty : W5hFundingTable).execute
      (.insert ((halfUsdcOrder 50).toRow 1700000000000))).get (halfUsdcOrder 50).intentId =
        some ((halfUsdcOrder 50).toRow 1700000000000) :=
    Table.get_execute_inserted hfree
  exact hinserted

/-- The payment is evidence for an order that is stored with its rule. -/
theorem evidence_halfUsdc {thresholdBps : UInt32}
    (hthreshold : 1 ≤ thresholdBps ∧ thresholdBps ≤ maxThresholdBps)
    (hmemo : halfUsdcMemo thresholdBps ∈ halfUsdcPayment.memos) {nowMs : Int64}
    (hrule : world.rules.get (ruleIdHex (canonicalWatchRule (halfUsdcDraft thresholdBps)
      419000000).ruleId) = some (ruleToRow halfUsdcPlatform.json
        (canonicalWatchRule (halfUsdcDraft thresholdBps) 419000000) nowMs))
    (hread : permits ⟨.readFundingTransaction halfUsdcSignature, .ok (.confirmed halfUsdcPayment)⟩) :
    Evidence halfUsdcPlatform permits world ((halfUsdcOrder thresholdBps).toRow nowMs)
      halfUsdcSignature halfUsdcPayment :=
  evidence_fresh (validated_of_ok (validateDraft_halfUsdc hthreshold)) hrule
    (rowToStored_ruleToRow halfUsdcPlatform.json (canonicalWatchRule_valid _ _) nowMs) rfl
    halfUsdcSignature_isSome hread (pays_halfUsdc hmemo nowMs)

end SolFrontier.Mcp
