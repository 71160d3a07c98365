import SolFrontier.Mcp.FailClosed
import SolFrontier.Mcp.FinalizeAgreement
import SolFrontier.Mcp.FreshPair
import SolFrontier.Mcp.PaymentEvidence
import SolFrontier.Mcp.StoredHashes
import SolFrontier.Web.FundingTransaction
import SolFrontier.Web.PayloadHandoff

/-! # The page and the server agree on a payment

What the page makes of an offer is the payment that the server waits for: a
transaction that runs the instructions of the page is accepted for the row
behind the offer.
-/

namespace SolFrontier.Web

open Foundation Types SolanaCore StateStore Mcp

/-! ## The transaction of an order -/

variable {platform : Platform} {tx : FinalizedTransaction fundingPrograms}

def fundingInstructions (parsed : ParsedFunding) : List Instruction :=
  [memoInstruction parsed, transferCheckedInstruction parsed]

theorem buildTransaction_expectedOrder {parsed : ParsedFunding}
    (horder : parsed.instructionOrder = expectedOrder) (blockhash : LatestBlockhash) :
    buildTransaction parsed blockhash = .ok
      { instructions := fundingInstructions parsed
        feePayer := parsed.userWallet
        recentBlockhash := blockhash.blockhash
        lastValidBlockHeight := blockhash.lastValidBlockHeight } := by
  rw [buildTransaction, horder]
  rfl

/-- The token accounts of a payment are two, and belong to the two wallets. -/
structure OwnedAsDerived (parsed : ParsedFunding) (ledger : TokenLedger) : Prop where
  distinct : parsed.userAta ≠ parsed.controlledAta
  user : ∀ account, ledger parsed.userAta = some account → account.owner = parsed.userWallet
  controlled : ∀ account, ledger parsed.controlledAta = some account →
    account.owner = parsed.controlledWallet

/-- The programs read the two instructions as the memo and the transfer. -/
theorem arePayments_fundingInstructions {parsed : ParsedFunding}
    (hmemo : parsed.memoProgramId = fundingPrograms.memo)
    (htoken : parsed.tokenProgramId = fundingPrograms.token) (hamount : parsed.amount < 2 ^ 64) :
    ArePayments fundingPrograms (fundingInstructions parsed)
      [.memo parsed.memo, .transfer parsed.transfer] := by
  have hne : fundingPrograms.token ≠ fundingPrograms.memo := by
    intro heq
    have htexts := congrArg PubkeyBytes.toBase58 heq
    rw [fundingPrograms] at htexts
    simp [tokenProgramIdBs58, memoProgramIdBs58] at htexts
  have hread : (memoInstruction parsed).named.payment fundingPrograms = some (.memo parsed.memo) := by
    have htext := memoText_memoInstruction parsed []
    have hprogram : (memoInstruction parsed).named.programId = fundingPrograms.memo := hmemo
    rw [NamedInstruction.payment, if_pos hprogram]
    exact congrArg (Option.map PaymentInstruction.memo) htext
  have htransfer : (transferCheckedInstruction parsed).named.payment fundingPrograms =
      some (.transfer parsed.transfer) := by
    have hparsed := transferChecked_transferCheckedInstruction hamount
    have hprogram : (transferCheckedInstruction parsed).named.programId = fundingPrograms.token :=
      htoken
    rw [NamedInstruction.payment, if_neg (hprogram ▸ hne), if_pos hprogram]
    exact congrArg (Option.map PaymentInstruction.transfer) hparsed
  exact .cons hread (.cons htransfer .nil)

/-- The balance of a token account as the tool keeps it. -/
def showBalance (key : PubkeyBytes) (account : TokenAccount) : ObservedTokenBalance where
  account := key.toBase58
  mint := account.mint.toBase58
  owner := account.owner.toBase58
  amountRaw := account.amount
  decimals := account.decimals

/-- The node shows the balance of an account that a message names. -/
theorem findBalance_observed (ledger : TokenLedger) {keys : List PubkeyBytes} {key : PubkeyBytes}
    (hmem : key ∈ keys) :
    findBalance (keys.filterMap (observedBalance ledger)) key.toBase58 =
      observedBalance ledger key := by
  have haccount : ∀ {other : PubkeyBytes} {balance : ObservedTokenBalance},
      observedBalance ledger other = some balance → balance.account = other.toBase58 := by
    intro other balance hbalance
    obtain ⟨account, _, rfl⟩ := Option.map_eq_some_iff.mp hbalance
    rfl
  induction keys with
  | nil => cases hmem
  | cons other rest ih =>
      by_cases hsame : other = key
      · subst hsame
        cases hbalance : observedBalance ledger other with
        | none =>
            -- no other occurrence of the key shows a balance either
            rw [findBalance, List.find?_eq_none]
            intro balance hshown
            obtain ⟨shown, _, hobserved⟩ := List.mem_filterMap.mp hshown
            intro hfound
            have hkey : shown = other := by
              apply PubkeyBytes.toBase58_inj
              rw [← haccount hobserved]
              exact of_decide_eq_true hfound
            rw [hkey, hbalance] at hobserved
            cases hobserved
        | some balance =>
            rw [List.filterMap_cons_some hbalance, findBalance, List.find?_cons_of_pos]
            exact decide_eq_true (haccount hbalance)
      · have hrest := ih ((List.mem_cons.mp hmem).resolve_left (Ne.symm hsame))
        cases hbalance : observedBalance ledger other with
        | none => rw [List.filterMap_cons_none hbalance, hrest]
        | some balance =>
            have hother : decide (balance.account = key.toBase58) = false := by
              rw [haccount hbalance, decide_eq_false_iff_not]
              exact fun htext => hsame (PubkeyBytes.toBase58_inj htext)
            rw [List.filterMap_cons_some hbalance, findBalance, List.find?_cons, hother]
            exact hrest

theorem exists_related {α β : Type} {related : α → β → Prop} {left : List α} {right : List β}
    (hall : List.Forall₂ related left right) {item : α} (hmem : item ∈ left) :
    ∃ other ∈ right, related item other := by
  induction hall with
  | nil => cases hmem
  | @cons first second left right hrelated _ ih =>
      rcases List.mem_cons.mp hmem with rfl | hrest
      · exact ⟨second, List.mem_cons_self, hrelated⟩
      · obtain ⟨other, hother, hitem⟩ := ih hrest
        exact ⟨other, List.mem_cons_of_mem _ hother, hitem⟩

/-- A message names the accounts of the instructions it carries. -/
theorem mem_accountKeys {message : Message} {instructions : List Instruction}
    {feePayer : PubkeyBytes} (hcarries : message.Carries instructions feePayer)
    {instruction : Instruction} (hinstruction : instruction ∈ instructions) {account : AccountMeta}
    (haccount : account ∈ instruction.accounts) : account.pubkey ∈ message.accountKeys := by
  obtain ⟨compiled, _, hlowers⟩ := exists_related hcarries.lowers hinstruction
  obtain ⟨index, _, hkey⟩ := exists_related hlowers.accounts haccount
  exact List.mem_of_getElem? hkey

/-- What the page keeps of an order, named by the columns of its row. -/
structure Keeps (platform : Platform) (parsed : ParsedFunding) (intent : W5hFundingIntent) :
    Prop where
  memo : parsed.memo = fundingMemo intent.intentId intent.canonicalRuleHashHex
  userWallet : parsed.userWallet.toBase58 = intent.userWallet
  userAta : parsed.userAta.toBase58 = intent.userUsdcAta
  controlledWallet : parsed.controlledWallet.toBase58 = intent.controlledWallet
  controlledAta : parsed.controlledAta.toBase58 = intent.controlledUsdcAta
  amount : parsed.amount = intent.amountRaw.toNat
  mint : parsed.mint = usdcMint
  decimals : parsed.decimals = usdcTokenDecimals
  memoProgram : parsed.memoProgramId = fundingPrograms.memo
  tokenProgram : parsed.tokenProgramId = fundingPrograms.token
  derivedUser : platform.associatedTokenAddress parsed.userWallet usdcMint = parsed.userAta
  derivedControlled :
    platform.associatedTokenAddress parsed.controlledWallet usdcMint = parsed.controlledAta

section Paid

variable {parsed : ParsedFunding} {intent : W5hFundingIntent}

theorem Keeps.orderTransfer (hkeeps : Keeps platform parsed intent) :
    observedTransfer parsed.transfer = orderTransfer intent := by
  have hmint : usdcMint.toBase58 = usdcMintBs58 := toBase58_pinned _
  rw [observedTransfer, Mcp.orderTransfer, ParsedFunding.transfer, ← hkeeps.userWallet,
    ← hkeeps.userAta, ← hkeeps.controlledAta]
  simp only [hkeeps.mint, hkeeps.decimals, hkeeps.amount, hmint, UInt64.ofNat_toNat]

/-- A finalized transaction that runs the instructions of the page pays the order. -/
theorem pays_of_carries (hkeeps : Keeps platform parsed intent)
    (hcarries : tx.message.Carries (fundingInstructions parsed) parsed.userWallet)
    (howned : OwnedAsDerived parsed tx.before) : Pays platform (observation tx) intent := by
  have hamount : parsed.amount < 2 ^ 64 := hkeeps.amount ▸ intent.amountRaw.toNat_lt
  have hpayments := arePayments_fundingInstructions hkeeps.memoProgram hkeeps.tokenProgram hamount
  have hshown := tx.message.payments_of_lowers hcarries.lowers hpayments
  -- Of the page's instructions the transfer alone moves tokens.
  have hrun : parsed.transfer.run tx.before = some tx.after := by
    have hran := tx.ran
    rw [Message.run_of_lowers hcarries.lowers hpayments] at hran
    simpa [PaymentInstruction.run] using hran
  obtain ⟨source, destination, hsource, hdestination, hsourceMint, hdestinationMint,
    hsourceDecimals, hdestinationDecimals, hfunds, hfits, hdebited, hcredited⟩ :=
    TransferChecked.of_run hrun howned.distinct
  -- Its accounts are keys of the message, so the metadata shows their balances.
  have hnamed : ∀ account ∈ (transferCheckedInstruction parsed).accounts,
      account.pubkey ∈ tx.message.accountKeys := by
    intro account hmem
    exact mem_accountKeys hcarries (by simp [fundingInstructions]) hmem
  have hbalance : ∀ (ledger : TokenLedger) {key : PubkeyBytes} {account : TokenAccount},
      key ∈ tx.message.accountKeys → ledger key = some account →
      findBalance (tx.message.accountKeys.filterMap (observedBalance ledger)) key.toBase58 =
        some (showBalance key account) := by
    intro ledger key account hmem haccount
    rw [findBalance_observed ledger hmem, observedBalance, haccount]
    rfl
  have huserMem : parsed.userAta ∈ tx.message.accountKeys :=
    hnamed { pubkey := parsed.userAta, isSigner := false, isWritable := true }
      (by simp [transferCheckedInstruction])
  have hcontrolledMem : parsed.controlledAta ∈ tx.message.accountKeys :=
    hnamed { pubkey := parsed.controlledAta, isSigner := false, isWritable := true }
      (by simp [transferCheckedInstruction])
  have husdc : ∀ {key wallet : PubkeyBytes} {account : TokenAccount},
      account.mint = parsed.mint → account.decimals = parsed.decimals → account.owner = wallet →
      (showBalance key account).IsUsdcOf wallet.toBase58 := by
    rintro key _ account hmint hdecimals rfl
    refine ⟨?_, hdecimals.trans hkeeps.decimals, rfl⟩
    rw [showBalance, hmint, hkeeps.mint]
    exact toBase58_pinned _
  have hmoved : parsed.transfer.amount = intent.amountRaw := by
    rw [ParsedFunding.transfer, hkeeps.amount, UInt64.ofNat_toNat]
  constructor
  · rfl
  · rw [← hkeeps.memo, observation, hshown]
    simp [PaymentInstruction.text?]
  · rw [← hkeeps.userWallet]
    exact List.mem_map_of_mem hcarries.payer
  · rw [← hkeeps.userWallet, ← hkeeps.userAta]
    exact ⟨parsed.userWallet, pubkeyFromStr_toBase58 _, congrArg _ hkeeps.derivedUser⟩
  · rw [← hkeeps.controlledWallet, ← hkeeps.controlledAta]
    exact ⟨parsed.controlledWallet, pubkeyFromStr_toBase58 _, congrArg _ hkeeps.derivedControlled⟩
  · rw [← hkeeps.orderTransfer, observation, hshown]
    simp [PaymentInstruction.transfer?]
  · rw [← hkeeps.userAta, ← hkeeps.userWallet]
    refine ⟨_, _, hbalance tx.before huserMem hsource, hbalance tx.after huserMem hdebited,
      husdc hsourceMint hsourceDecimals (howned.user source hsource),
      husdc hsourceMint hsourceDecimals (howned.user source hsource), ?_⟩
    rw [hmoved] at hfunds
    have hle := UInt64.le_iff_toNat_le.mp hfunds
    have hleft := UInt64.toNat_sub_of_le _ _ hfunds
    simp only [showBalance, hmoved, hleft]
    omega
  · rw [← hkeeps.controlledAta, ← hkeeps.controlledWallet]
    refine ⟨_, hbalance tx.after hcontrolledMem hcredited, ?_,
      husdc hdestinationMint hdestinationDecimals (howned.controlled destination hdestination), ?_⟩
    · intro before hbefore
      obtain rfl := Option.some.inj
        ((hbalance tx.before hcontrolledMem hdestination).symm.trans hbefore)
      exact husdc hdestinationMint hdestinationDecimals (howned.controlled destination hdestination)
    · have hbefore := hbalance tx.before hcontrolledMem hdestination
      have hsum := UInt64.toNat_add destination.amount parsed.transfer.amount
      rw [Nat.mod_eq_of_lt hfits, hmoved] at hsum
      rw [observation, hbefore, Option.elim_some]
      simp only [showBalance, hmoved]
      exact hsum

end Paid

/-! ## From the offer to the row -/

/-- The page's values are those of the response. -/
structure ShowsOrder (response funding : Json) (parsed : ParsedFunding) : Prop where
  intentId : response.get "intent_id" = some (.string parsed.intentId)
  ruleHash : response.get "rule_hash" = some (.string parsed.ruleHash)
  userWallet : funding.get "user_wallet" = some (.string parsed.userWallet.toBase58)
  userAta : funding.get "user_usdc_ata" = some (.string parsed.userAta.toBase58)
  controlledWallet : funding.get "controlled_wallet" =
    some (.string parsed.controlledWallet.toBase58)
  controlledAta : funding.get "controlled_usdc_ata" = some (.string parsed.controlledAta.toBase58)
  mint : funding.get "mint" = some (.string parsed.mint.toBase58)
  amount : funding.get "amount_raw" = some (.string (toString parsed.amount))
  decimals : funding.get "decimals" = some (.number parsed.decimals.toNat)
  memo : funding.get "memo" = some (.string parsed.memo)
  deadline : funding.get "expires_at_ms" = some (.number parsed.expiresAtMs)

/-- The controlled account is the derived one of the controlled wallet. -/
def ControlledDerived (platform : Platform) : Prop :=
  (platform.associatedTokenAddress controlledWallet usdcMint).toBase58 = controlledUsdcAtaBs58

section Offers

variable {web3 : SolanaWeb3} {permits : Event mcpFace → Prop} {world base : World}
  {log : CallLog} {params : FinalizeIntentParams} {Caller : Type} [DecidableEq Caller]
  {pool : Pool mcpFace World Caller ToolAnswer}

/-- What the page keeps of an offer. -/
def offerFunding (offer : Offer platform params log) : ParsedFunding :=
  keptFunding platform offer.intentId offer.ruleHash offer.userWallet controlledWallet
    offer.persistence.intoRow.amountRaw offer.persistence.intoRow.expiresAtMs.toInt

theorem offer_amount_pos (offer : Offer platform params log)
    (hknows : Knows platform permits log world) : 0 < offer.persistence.intoRow.amountRaw := by
  have hvalid := validated_of_ok offer.known.accepted.validated
  have hleast := UInt64.le_iff_toNat_le.mp hvalid.amount.1
  have hmin : 0 < minAmountRaw.toNat := by decide
  rw [(offer.funds hknows).amount]
  exact UInt64.lt_iff_toNat_lt.mpr (hmin.trans_le hleast)

theorem offer_deadline_pos (offer : Offer platform params log)
    (hknows : Knows platform permits log world)
    (hclock : ∀ event, permits event → AfterEpoch event) :
    0 < offer.persistence.intoRow.expiresAtMs.toInt := by
  have hread := hknows.permitted _ (List.mem_of_getLast? offer.lastClock)
  have hlater := Int64.lt_iff_toInt_lt.mp offer.handed.deadline
  have hreading : 0 ≤ offer.checkedAtMs.toInt := hclock _ hread
  exact hreading.trans_lt hlater

/-- The page accepts the URL of an offer. -/
theorem page_reads_offer (hderives : SameDerivation web3 platform)
    (hcontrolled : ControlledDerived platform)
    (hclock : ∀ event, permits event → AfterEpoch event)
    (offer : Offer platform params log) (hknows : Knows platform permits log world)
    (hsafe : offer.persistence.intoRow.expiresAtMs.toInt < 2 ^ 53) :
    ∃ url, offer.response.get "signing_page_url" = some (.string url) ∧
      (readFinalizePayload (locationHash url) >>= validateFundingPayload web3) =
        .ok (offerFunding offer) := by
  have hfunds := offer.funds hknows
  have hwallet : offer.persistence.intoRow.controlledWallet = controlledWallet.toBase58 := by
    rw [hfunds.controlledWallet]
    exact (toBase58_pinned _).symm
  have haccount : offer.persistence.intoRow.controlledUsdcAta =
      (platform.associatedTokenAddress controlledWallet usdcMint).toBase58 := by
    rw [hfunds.controlledUsdcAta, hcontrolled]
  have hread := page_reads_order hderives offer.rule.ruleId (canonicalRuleHash offer.rule)
    hfunds.userWallet hfunds.userUsdcAta hwallet haccount (offer_amount_pos offer hknows)
    (offer_deadline_pos offer hknows hclock) hsafe
  refine ⟨_, rfl, ?_⟩
  rw [offer.handed.status]
  exact hread

theorem showsOrder_offer (hcontrolled : ControlledDerived platform)
    (offer : Offer platform params log) (hknows : Knows platform permits log world) :
    ∃ funding, offer.response.get "funding" = some funding ∧
      ShowsOrder offer.response funding (offerFunding offer) := by
  have hfunds := offer.funds hknows
  have hwallet : controlledWallet.toBase58 = controlledWalletBs58 := toBase58_pinned _
  have hmint : usdcMint.toBase58 = usdcMintBs58 := toBase58_pinned _
  refine ⟨_, offer.response_funding, ?_⟩
  exact
    { intentId := offer.response_intentId
      ruleHash := offer.response_ruleHash
      userWallet := by rw [offerFunding, keptFunding, ← hfunds.userWallet]; rfl
      userAta := by rw [offerFunding, keptFunding, ← hfunds.userUsdcAta]; rfl
      controlledWallet := by
        rw [offerFunding, keptFunding, hwallet, ← hfunds.controlledWallet]
        rfl
      controlledAta := by
        rw [offerFunding, keptFunding, hcontrolled, ← hfunds.controlledUsdcAta]
        rfl
      mint := by rw [offerFunding, keptFunding, hmint]; rfl
      amount := rfl
      decimals := rfl
      memo := rfl
      deadline := rfl }

/-- The row behind an offer is the order that the page keeps. -/
theorem keeps_offer (hcontrolled : ControlledDerived platform)
    (offer : Offer platform params log) (hknows : Knows platform permits log world)
    (hhashes : LowerCaseHashes world) :
    ∃ row, world.funding.get offer.intentId = some row ∧ rowToIntent row = .ok row.toIntent ∧
      Keeps platform (offerFunding offer) row.toIntent := by
  obtain ⟨row, hget, hread, horder⟩ := offer.row_stored hknows
  have hfunds := offer.funds hknows
  have hwallet : controlledWallet.toBase58 = controlledWalletBs58 := toBase58_pinned _
  -- the column holds the lower-case text that the offer shows
  have hhash : row.toIntent.canonicalRuleHashHex = offer.ruleHash := by
    have hcolumn : row.toIntent.canonicalRuleHashHex =
        offer.persistence.intoRow.canonicalRuleHashHex := by rw [horder]
    have hlower := hhashes _ row hget
    have hsame := hfunds.ruleHash
    rw [← hcolumn] at hsame
    exact hlower.symm.trans hsame
  refine ⟨row, hget, hread, ?_⟩
  constructor
  · rw [hhash, show row.toIntent.intentId = offer.intentId by rw [horder]; exact hfunds.intentId]
    rfl
  · rw [horder]
    exact hfunds.userWallet.symm
  · rw [horder]
    exact hfunds.userUsdcAta.symm
  · rw [horder]
    exact hwallet.trans hfunds.controlledWallet.symm
  · rw [horder]
    exact hcontrolled.trans hfunds.controlledUsdcAta.symm
  · rw [horder]
    rfl
  all_goals rfl

/-- The page and the server agree on a payment. Whatever tool calls interleave,
the URL of an offer is read by the page as exactly the offer's values; and a
finalized transaction that runs the two instructions the page builds from them
is accepted, from then on, for the row behind the offer. -/
theorem signing_page_agrees (hderives : SameDerivation web3 platform)
    (hcontrolled : ControlledDerived platform)
    (hclock : ∀ event, permits event → AfterEpoch event)
    (hbase : LowerCaseHashes base)
    (hreaches : Pool.Reaches (mcpWorld platform permits) (ToolEntry platform) (Pool.initial base)
      pool) {caller : Caller} {response : Json} (hoffered : Offered pool caller params response)
    {deadline : Int} (hdeadline : response.get "expires_at_ms" = some (.number deadline))
    (hsafe : deadline < 2 ^ 53) :
    ∃ url funding parsed, response.get "signing_page_url" = some (.string url) ∧
      response.get "funding" = some funding ∧
      (readFinalizePayload (locationHash url) >>= validateFundingPayload web3) = .ok parsed ∧
      ShowsOrder response funding parsed ∧
      ∀ later, Pool.Reaches (mcpWorld platform permits) (ToolEntry platform) pool later →
        ∃ row, later.world.funding.get parsed.intentId = some row ∧
          rowToIntent row = .ok row.toIntent ∧
          ∀ blockhash, ∃ transaction, buildTransaction parsed blockhash = .ok transaction ∧
            ∀ tx : FinalizedTransaction fundingPrograms,
              tx.message.Carries transaction.instructions transaction.feePayer →
              OwnedAsDerived parsed tx.before →
              ∃ observed, parseJsonParsedTransaction (nodeAnswer tx) .finalized = .ok observed ∧
                verifyFundingTransaction platform observed row.toIntent = .ok () := by
  obtain ⟨log, offer, rfl, hknows⟩ :=
    offer_of_done (good_of_tools hreaches) hoffered.1 hoffered.2
  have hnow := hknows pool .refl
  have hshown : offer.persistence.intoRow.expiresAtMs.toInt = deadline :=
    Json.number.inj (Option.some.inj hdeadline)
  obtain ⟨url, hurl, hread⟩ :=
    page_reads_offer hderives hcontrolled hclock offer hnow (hshown ▸ hsafe)
  obtain ⟨funding, hfunding, hshows⟩ := showsOrder_offer hcontrolled offer hnow
  refine ⟨url, funding, offerFunding offer, hurl, hfunding, hread, hshows, ?_⟩
  intro later hlater
  have hhashes : LowerCaseHashes later.world :=
    lowerCaseHashes_reaches hbase (hreaches.trans hlater)
  obtain ⟨row, hget, hrow, hkeeps⟩ := keeps_offer hcontrolled offer (hknows later hlater) hhashes
  refine ⟨row, hget, hrow, fun blockhash => ⟨_, buildTransaction_expectedOrder rfl blockhash, ?_⟩⟩
  intro tx hcarries howned
  refine ⟨observation tx, parse_nodeAnswer tx, ?_⟩
  exact verifyFundingTransaction_ok.mpr (pays_of_carries hkeeps hcarries howned)

end Offers

/-! ## A payment of half a USDC -/

/-- A message for the instructions of the page, with its keys written out. -/
def signingMessage (parsed : ParsedFunding) : Message where
  header := ⟨1, 0, 3⟩
  accountKeys :=
    [parsed.userWallet, parsed.userAta, parsed.controlledAta, parsed.mint, parsed.tokenProgramId,
     parsed.memoProgramId]
  recentBlockhash := Bytes.filled 32 0
  instructions :=
    [{ programIdIndex := 5, accounts := [], data := (memoInstruction parsed).data },
     { programIdIndex := 4
       accounts := [1, 3, 2, 0]
       data := (transferCheckedInstruction parsed).data }]

theorem carries_signingMessage (parsed : ParsedFunding) :
    (signingMessage parsed).Carries (fundingInstructions parsed) parsed.userWallet where
  lowers := by
    refine .cons ⟨rfl, .nil, rfl⟩ (.cons ⟨rfl, ?_, rfl⟩ .nil)
    exact .cons rfl (.cons rfl (.cons rfl (.cons rfl .nil)))
  payer := List.mem_cons_self
  signers := by
    simp [fundingInstructions, memoInstruction, transferCheckedInstruction, signingMessage,
      Message.signers]

/-- The page's payment between two accounts, of which the first has two USDC. -/
def signingLedger (parsed : ParsedFunding) : TokenLedger :=
  Function.update
    (Function.update (fun _ => none) parsed.userAta
      (some ⟨parsed.mint, parsed.userWallet, 2000000, parsed.decimals⟩))
    parsed.controlledAta (some ⟨parsed.mint, parsed.controlledWallet, 0, parsed.decimals⟩)

theorem ownedAsDerived_signingLedger {parsed : ParsedFunding}
    (hdistinct : parsed.userAta ≠ parsed.controlledAta) :
    OwnedAsDerived parsed (signingLedger parsed) where
  distinct := hdistinct
  user account haccount := by
    rw [signingLedger, Function.update_of_ne hdistinct, Function.update_self] at haccount
    obtain rfl := Option.some.inj haccount
    rfl
  controlled account haccount := by
    rw [signingLedger, Function.update_self] at haccount
    obtain rfl := Option.some.inj haccount
    rfl

/-- The payment runs. -/
theorem run_signingMessage {parsed : ParsedFunding}
    (hmemo : parsed.memoProgramId = fundingPrograms.memo)
    (htoken : parsed.tokenProgramId = fundingPrograms.token)
    (hdistinct : parsed.userAta ≠ parsed.controlledAta) (hamount : parsed.amount = 500000) :
    ∃ after, (signingMessage parsed).run fundingPrograms (signingLedger parsed) = some after := by
  have hfits : parsed.amount < 2 ^ 64 := by omega
  have hmoved : parsed.transfer.amount = 500000 := by
    rw [ParsedFunding.transfer, hamount]
    rfl
  have hsource : signingLedger parsed parsed.transfer.source =
      some ⟨parsed.mint, parsed.userWallet, 2000000, parsed.decimals⟩ := by
    rw [signingLedger, ParsedFunding.transfer, Function.update_of_ne hdistinct,
      Function.update_self]
  have hdestination : signingLedger parsed parsed.transfer.destination =
      some ⟨parsed.mint, parsed.controlledWallet, 0, parsed.decimals⟩ := by
    rw [signingLedger, ParsedFunding.transfer, Function.update_self]
  have hpayments := arePayments_fundingInstructions hmemo htoken hfits
  rw [Message.run_of_lowers (carries_signingMessage parsed).lowers hpayments]
  obtain ⟨after, hrun⟩ : ∃ after, parsed.transfer.run (signingLedger parsed) = some after := by
    have hfunds : (500000 : UInt64) ≤ 2000000 := by decide
    have hroom : (0 : UInt64).toNat + (500000 : UInt64).toNat < 2 ^ 64 := by decide
    refine TransferChecked.run_funded hsource hdestination ⟨rfl, rfl⟩ ⟨rfl, rfl⟩ hdistinct ?_ ?_
    · rw [hmoved]
      exact hfunds
    · rw [hmoved]
      exact hroom
  refine ⟨after, ?_⟩
  simpa [PaymentInstruction.run] using hrun

/-- A page that derives the two accounts of the sample orders. -/
def halfUsdcWeb3 : SolanaWeb3 where
  findProgramAddressSync seeds _ :=
    some (if seeds.head? = some payerWallet.bytes.1 then
      halfUsdcPlatform.associatedTokenAddress payerWallet usdcMint
    else halfUsdcPlatform.associatedTokenAddress controlledWallet usdcMint)

theorem sameDerivation_halfUsdc : SameDerivation halfUsdcWeb3 halfUsdcPlatform := by
  intro owner mint
  unfold halfUsdcWeb3 halfUsdcPlatform
  dsimp only
  rw [if_neg controlledWallet_ne_payerWallet]
  by_cases howner : owner = payerWallet
  · rw [howner]
    simp
  · have hbytes : ¬ [owner.bytes.1, tokenProgramId.bytes.1, mint.bytes.1].head? =
        some payerWallet.bytes.1 := by
      intro hsame
      exact howner (PubkeyBytes.ext_bytes (Option.some.inj hsame))
    rw [if_neg hbytes, if_neg howner]

def halfUsdcRule : WatchRule := canonicalWatchRule (halfUsdcDraft 50) 419000000

/-- What the page keeps of the first order. -/
def halfUsdcKept : ParsedFunding :=
  keptFunding halfUsdcPlatform (hexEncode halfUsdcRule.ruleId.1)
    (hexEncode (canonicalRuleHash halfUsdcRule).1) payerWallet controlledWallet
    ((halfUsdcOrder 50).intent 1700000000000).amountRaw
    ((halfUsdcOrder 50).intent 1700000000000).expiresAtMs.toInt

theorem page_reads_halfUsdc :
    (readFinalizePayload (locationHash (buildSigningPageUrl "funding_required"
        (hexEncode halfUsdcRule.ruleId.1) (hexEncode (canonicalRuleHash halfUsdcRule).1)
        (fundingPayload ((halfUsdcOrder 50).intent 1700000000000)
          (hexEncode halfUsdcRule.ruleId.1) (hexEncode (canonicalRuleHash halfUsdcRule).1)))) >>=
      validateFundingPayload halfUsdcWeb3) = .ok halfUsdcKept :=
  page_reads_order sameDerivation_halfUsdc _ _ rfl rfl (toBase58_pinned _).symm
    controlledAta_halfUsdc.symm (by decide) (by decide) (by decide)

theorem distinct_halfUsdcKept : halfUsdcKept.userAta ≠ halfUsdcKept.controlledAta := by
  intro heq
  have htexts := congrArg PubkeyBytes.toBase58 heq
  rw [show halfUsdcKept.userAta.toBase58 = payerUsdcAtaBs58 from payerAta_halfUsdc,
    show halfUsdcKept.controlledAta.toBase58 = controlledUsdcAtaBs58 from
      controlledAta_halfUsdc] at htexts
  simp [payerUsdcAtaBs58, controlledUsdcAtaBs58] at htexts

/-- An order for half a USDC is read by the page, and paid by its transaction. -/
theorem signing_page_agrees_halfUsdc :
    ∃ (pool : Pool mcpFace World Unit ToolAnswer) (response funding : Json)
      (parsed : ParsedFunding) (row : RowRaw) (tx : FinalizedTransaction fundingPrograms)
      (observed : ObservedFundingTransaction),
      Offered pool () firstRequest response ∧ ShowsOrder response funding parsed ∧
        pool.world.funding.get parsed.intentId = some row ∧
        parseJsonParsedTransaction (nodeAnswer tx) .finalized = .ok observed ∧
        verifyFundingTransaction halfUsdcPlatform observed row.toIntent = .ok () := by
  let permits : Event mcpFace → Prop := fun event => Smooth firstMarket event ∧ AfterEpoch event
  have hsmooth : ∀ event, Smooth firstMarket event → AfterEpoch event → permits event :=
    fun _ hevent hclock => ⟨hevent, hclock⟩
  have hrun := finalizeIntentJson_inserts hsmooth halfUsdcPlatform (.unsent .empty .empty)
    accepted_firstRequest (by decide : 0 ≤ (1700000000000 : Int64).toInt) rfl rfl (by decide)
  have hstart : Pool.Reaches (mcpWorld halfUsdcPlatform permits) (ToolEntry halfUsdcPlatform)
      (Pool.initial (.unsent .empty .empty))
      (Pool.initial (.unsent .empty .empty) : Pool mcpFace World Unit ToolAnswer) := .refl
  obtain ⟨pool, hreaches, _, hdone, _⟩ :=
    hstart.finishes rfl (.finalize firstRequest true) (finalizeCall_executes hrun)
  have hoffered : Offered pool () firstRequest _ :=
    ⟨hdone, offersFunding_firstOffer halfUsdcPlatform firstRequest (halfUsdcDraft 50) firstMarket
      payerWallet 1700000000000⟩
  have hbase : LowerCaseHashes (.unsent .empty .empty) := by
    intro id row hget
    cases hget
  have hcontrolled : ControlledDerived halfUsdcPlatform := controlledAta_halfUsdc
  obtain ⟨url, funding, parsed, hurl, _, hread, hshows, hlater⟩ :=
    signing_page_agrees sameDerivation_halfUsdc hcontrolled (fun _ hevent => hevent.2) hbase
      hreaches hoffered rfl (by decide)
  obtain ⟨row, hget, _, hbuilt⟩ := hlater pool .refl
  obtain ⟨transaction, htransaction, haccepted⟩ := hbuilt ⟨"", 0⟩
  -- the page's values are known, so its transaction can be written down
  obtain rfl := Json.string.inj (Option.some.inj hurl)
  obtain rfl : halfUsdcKept = parsed := Except.ok.inj (page_reads_halfUsdc.symm.trans hread)
  obtain rfl := Except.ok.inj
    ((buildTransaction_expectedOrder rfl ⟨"", 0⟩).symm.trans htransaction)
  obtain ⟨after, hran⟩ := run_signingMessage rfl rfl distinct_halfUsdcKept rfl
  let tx : FinalizedTransaction fundingPrograms :=
    { slot := 419000010
      blockTime := some 1700000010
      blockTime_range := by
        rintro _ ⟨⟩
        decide
      message := signingMessage halfUsdcKept
      keys_le := by decide
      before := signingLedger halfUsdcKept
      after
      ran := hran }
  obtain ⟨observed, hparsed, hverified⟩ := haccepted tx (carries_signingMessage halfUsdcKept)
    (ownedAsDerived_signingLedger distinct_halfUsdcKept)
  exact ⟨pool, _, funding, halfUsdcKept, row, tx, observed, hoffered, hshows, hget, hparsed,
    hverified⟩

end SolFrontier.Web
