import SolFrontier.Mcp.FreshPair
import SolFrontier.Mcp.NodeReport

/-! # Instructions beside a payment

The reader passes over the instructions it does not know, but a token transfer
with a checked amount must name a single authority. One such transfer by a
multisig, whoever's tokens it moves, fails the whole read.
-/

namespace SolFrontier.Mcp

open Foundation Types StateStore

/-! ## The shapes of the node's encoder -/

/-- An amount as text and a number of decimals, whatever else is shown. -/
def EncodesTokenAmount (value : Json) : Prop :=
  ∃ (amount : UInt64) (decimals : UInt8),
    value.get "amount" = some (.string (toString amount.toNat)) ∧
      value.get "decimals" = some (.number decimals.toNat)

/-- What the info of every checked transfer shows. -/
structure TransferInfo (info : Json) : Prop where
  source : ∃ text, info.get "source" = some (.string text)
  mint : ∃ text, info.get "mint" = some (.string text)
  destination : ∃ text, info.get "destination" = some (.string text)
  tokenAmount : ∃ value, info.get "tokenAmount" = some value ∧ EncodesTokenAmount value

/-- A checked transfer of the token program, with the info it shows. -/
structure CheckedTransfer (instruction info : Json) : Prop where
  programId : instruction.get "programId" = some (.string tokenProgramIdBs58)
  parsed : ∃ parsed, instruction.get "parsed" = some parsed ∧
    parsed.get "type" = some (.string "transferChecked") ∧ parsed.get "info" = some info
  shows : TransferInfo info

/-- A checked transfer by a multisig: its address and its signers stand where a
single authority would. -/
def MultisigTransfer (instruction : Json) : Prop :=
  ∃ info, CheckedTransfer instruction info ∧ info.get "authority" = none ∧
    (∃ text, info.get "multisigAuthority" = some (.string text)) ∧
    ∃ signers : List String, info.get "signers" = some (.array (signers.map .string))

/-- The shapes of an outer instruction in a `jsonParsed` answer. -/
inductive EncodedInstruction (instruction : Json) : Prop
  /-- Not parsed: by its program's id, or by the index of that id. -/
  | raw : instruction.get "parsed" = none → EncodedInstruction instruction
  | memo (text : String) : instruction.get "programId" = some (.string memoProgramIdBs58) →
      instruction.get "parsed" = some (.string text) → EncodedInstruction instruction
  | program (programId : String) : instruction.get "programId" = some (.string programId) →
      programId ≠ memoProgramIdBs58 → programId ≠ tokenProgramIdBs58 →
      EncodedInstruction instruction
  | token (parsed : Json) (kind : String) :
      instruction.get "programId" = some (.string tokenProgramIdBs58) →
      instruction.get "parsed" = some parsed → parsed.get "type" = some (.string kind) →
      kind ≠ "transferChecked" → EncodedInstruction instruction
  | transfer (info : Json) (authority : String) : CheckedTransfer instruction info →
      info.get "authority" = some (.string authority) → EncodedInstruction instruction
  | multisig : MultisigTransfer instruction → EncodedInstruction instruction

/-- The second answer is the first with further outer instructions in any
places; its keys, its balances and the rest of what is read are the same. -/
structure InsertsInstructions (result extended : Json) (inserted : List Json) : Prop where
  slot : extended.get "slot" = result.get "slot"
  blockTime : extended.get "blockTime" = result.get "blockTime"
  accountMeta : extended.get "meta" = result.get "meta"
  message : ∃ transaction message transaction' message' items items',
    result.get "transaction" = some transaction ∧ transaction.get "message" = some message ∧
    extended.get "transaction" = some transaction' ∧ transaction'.get "message" = some message' ∧
    message'.get "accountKeys" = message.get "accountKeys" ∧
    message'.get "header" = message.get "header" ∧
    message.get "instructions" = some (.array items) ∧
    message'.get "instructions" = some (.array items') ∧ items'.Perm (items ++ inserted)

/-! ## Reading one instruction -/

theorem required_eq_ok {α : Type} {value : Option α} {result : α} :
    required value = .ok result ↔ value = some result := by
  cases value with
  | none => simp [required]
  | some value => simp [required]

theorem requiredString_of_get {value : Json} {field text : String}
    (hget : value.get field = some (.string text)) : requiredString value field = .ok text := by
  rw [requiredString, hget]
  rfl

theorem EncodesTokenAmount.parse {value : Json} (hamount : EncodesTokenAmount value) :
    ∃ read, parseTokenAmount value = .ok read := by
  obtain ⟨amount, decimals, hget, hdecimals⟩ := hamount
  have hlt := decimals.toNat_lt
  refine ⟨(amount, decimals), ?_⟩
  rw [parseTokenAmount, hget, hdecimals, Option.bind_some, Option.bind_some, asStr,
    Option.bind_some, parseAmount_toString, asU64_natCast (by omega), Option.bind_some, toU8_toNat]
  rfl

namespace CheckedTransfer

variable {instruction info : Json}

/-- Everything but the authority of a checked transfer can be read. -/
theorem parse (hchecked : CheckedTransfer instruction info) :
    ∃ transfer : String → ObservedTransferChecked, parseOuterInstruction instruction =
      requiredString info "authority" >>= fun authority => pure (none, some (transfer authority)) := by
  obtain ⟨parsed, hparsed, htype, hinfo⟩ := hchecked.parsed
  obtain ⟨source, hsource⟩ := hchecked.shows.source
  obtain ⟨mint, hmint⟩ := hchecked.shows.mint
  obtain ⟨destination, hdestination⟩ := hchecked.shows.destination
  obtain ⟨tokenAmount, hamount, hencoded⟩ := hchecked.shows.tokenAmount
  obtain ⟨⟨amountRaw, decimals⟩, hread⟩ := hencoded.parse
  have hprogram : (instruction.get "programId").bind asStr = some tokenProgramIdBs58 := by
    rw [hchecked.programId]
    rfl
  have hkind : ¬ (parsed.get "type").bind asStr ≠ some "transferChecked" := by
    rw [htype]
    exact not_not.mpr rfl
  refine ⟨fun authority => { source, mint, destination, authority, amountRaw, decimals }, ?_⟩
  rw [parseOuterInstruction, hprogram]
  dsimp only
  rw [if_neg (by decide), if_neg (not_not.mpr rfl), hparsed]
  dsimp only
  rw [if_neg hkind, hinfo, required_some, ok_bind, hamount, required_some, ok_bind, hread, ok_bind]
  dsimp only
  rw [requiredString_of_get hsource, ok_bind, requiredString_of_get hmint, ok_bind,
    requiredString_of_get hdestination, ok_bind]

/-- One instruction shows one info. -/
theorem info_unique {other : Json} (hchecked : CheckedTransfer instruction info)
    (hother : CheckedTransfer instruction other) : other = info := by
  obtain ⟨parsed, hparsed, _, hinfo⟩ := hchecked.parsed
  obtain ⟨parsed', hparsed', _, hinfo'⟩ := hother.parsed
  obtain rfl := Option.some.inj (hparsed.symm.trans hparsed')
  exact Option.some.inj (hinfo'.symm.trans hinfo)

end CheckedTransfer

/-- Every shape but a multisig's transfer can be read. -/
theorem parseOuterInstruction_ok_iff {instruction : Json}
    (hencoded : EncodedInstruction instruction) :
    (∃ observed, parseOuterInstruction instruction = .ok observed) ↔
      ¬ MultisigTransfer instruction := by
  cases hencoded with
  | raw hparsed =>
      constructor
      · rintro _ ⟨info, hchecked, _⟩
        obtain ⟨parsed, hsome, _⟩ := hchecked.parsed
        cases hparsed.symm.trans hsome
      · intro _
        rw [parseOuterInstruction, hparsed]
        cases (instruction.get "programId").bind asStr with
        | none => exact ⟨_, rfl⟩
        | some programId =>
            dsimp only
            split
            · exact ⟨_, rfl⟩
            · split <;> exact ⟨_, rfl⟩
  | memo text hprogram hparsed =>
      constructor
      · rintro _ ⟨info, hchecked, _⟩
        have hsame := Option.some.inj (hprogram.symm.trans hchecked.programId)
        exact absurd (Json.string.inj hsame) (by decide)
      · intro _
        refine ⟨(some text, none), ?_⟩
        rw [parseOuterInstruction, hprogram, hparsed]
        rfl
  | program programId hprogram hmemo htoken =>
      constructor
      · rintro _ ⟨info, hchecked, _⟩
        have hsame := Option.some.inj (hprogram.symm.trans hchecked.programId)
        exact htoken (Json.string.inj hsame)
      · intro _
        refine ⟨(none, none), ?_⟩
        rw [parseOuterInstruction, hprogram, Option.bind_some, asStr]
        dsimp only
        rw [if_neg hmemo, if_pos htoken]
  | token parsed kind hprogram hparsed hkind hother =>
      constructor
      · rintro _ ⟨info, hchecked, _⟩
        obtain ⟨same, hsame, htype, _⟩ := hchecked.parsed
        obtain rfl := Option.some.inj (hparsed.symm.trans hsame)
        exact hother (Json.string.inj (Option.some.inj (hkind.symm.trans htype)))
      · intro _
        have htype : (parsed.get "type").bind asStr ≠ some "transferChecked" := by
          rw [hkind]
          exact fun h => hother (Option.some.inj h)
        refine ⟨(none, none), ?_⟩
        rw [parseOuterInstruction, hprogram, Option.bind_some, asStr]
        dsimp only
        rw [if_neg (by decide), if_neg (not_not.mpr rfl), hparsed]
        dsimp only
        rw [if_pos htype]
  | transfer info authority hchecked hauthority =>
      constructor
      · rintro _ ⟨other, hother, hnone, _⟩
        obtain rfl := hchecked.info_unique hother
        cases hauthority.symm.trans hnone
      · intro _
        obtain ⟨transfer, hread⟩ := hchecked.parse
        exact ⟨(none, some (transfer authority)), by rw [hread, requiredString_of_get hauthority]; rfl⟩
  | multisig hmultisig =>
      constructor
      · -- The transfer is read up to its authority, which a multisig's does not have.
        rintro ⟨observed, hread⟩ _
        obtain ⟨info, hchecked, hnone, _⟩ := hmultisig
        obtain ⟨transfer, hparse⟩ := hchecked.parse
        obtain ⟨authority, hauthority, _⟩ := bind_eq_ok.mp (hparse.symm.trans hread)
        rw [requiredString, required_eq_ok, hnone] at hauthority
        cases hauthority
      · exact fun hsingle => absurd hmultisig hsingle

/-! ## Reading the longer answer -/

theorem parseOuterInstructions_ok {message : Json} {items : List Json}
    {read : List String × List ObservedTransferChecked}
    (hitems : message.get "instructions" = some (.array items)) :
    parseOuterInstructions message = .ok read ↔
      ∃ parsed, items.mapM parseOuterInstruction = .ok parsed ∧
        (parsed.filterMap Prod.fst, parsed.filterMap Prod.snd) = read := by
  rw [parseOuterInstructions, hitems, Option.bind_some, asArray, required_some, ok_bind, bind_eq_ok]
  simp [pure, Except.pure]

/-- Everything the reader takes from an answer. -/
theorem parseJsonParsedTransaction_ok {result : Json} {confirmation : ConfirmationLevel}
    {tx : ObservedFundingTransaction} :
    parseJsonParsedTransaction result confirmation = .ok tx ↔
      ∃ slot blockTimeMs transaction message accountMeta keys read pre post,
        (result.get "slot").bind asU64 = some slot ∧
        parseBlockTime (result.get "blockTime") = .ok blockTimeMs ∧
        result.get "transaction" = some transaction ∧ transaction.get "message" = some message ∧
        result.get "meta" = some accountMeta ∧ parseAccountKeys message accountMeta = .ok keys ∧
        parseOuterInstructions message = .ok read ∧
        parseTokenBalances (accountMeta.get "preTokenBalances") keys.1 = .ok pre ∧
        parseTokenBalances (accountMeta.get "postTokenBalances") keys.1 = .ok post ∧
        tx =
          { slot
            blockTimeMs
            confirmation
            succeeded := (accountMeta.get "err").elim false isNull
            signerPubkeys := keys.2
            memos := read.1
            transferChecked := read.2
            preTokenBalances := pre
            postTokenBalances := post } := by
  unfold parseJsonParsedTransaction
  simp only [bind_eq_ok, required_eq_ok, pure, Except.pure, Except.ok.injEq]
  constructor
  · rintro ⟨slot, hslot, blockTimeMs, htime, transaction, htransaction, message, hmessage,
      accountMeta, hmeta, keys, hkeys, read, hread, pre, hpre, post, hpost, rfl⟩
    exact ⟨slot, blockTimeMs, transaction, message, accountMeta, keys, read, pre, post, hslot, htime,
      htransaction, hmessage, hmeta, hkeys, hread, hpre, hpost, rfl⟩
  · rintro ⟨slot, blockTimeMs, transaction, message, accountMeta, keys, read, pre, post, hslot,
      htime, htransaction, hmessage, hmeta, hkeys, hread, hpre, hpost, rfl⟩
    exact ⟨slot, hslot, blockTimeMs, htime, transaction, htransaction, message, hmessage,
      accountMeta, hmeta, keys, hkeys, read, hread, pre, hpre, post, hpost, rfl⟩

/-- The keys are read from the key list and the header alone. -/
theorem parseAccountKeys_congr {message message' : Json} (accountMeta : Json)
    (hkeys : message'.get "accountKeys" = message.get "accountKeys")
    (hheader : message'.get "header" = message.get "header") :
    parseAccountKeys message' accountMeta = parseAccountKeys message accountMeta := by
  rw [parseAccountKeys, parseAccountKeys, hkeys, hheader]

/-- More memos and more transfers leave a payment a payment. -/
theorem Pays.mono {platform : Platform} {tx : ObservedFundingTransaction}
    {intent : W5hFundingIntent} (hpays : Pays platform tx intent) {memos : List String}
    {transfers : List ObservedTransferChecked} (hmemos : tx.memos ⊆ memos)
    (htransfers : tx.transferChecked ⊆ transfers) :
    Pays platform { tx with memos, transferChecked := transfers } intent where
  succeeded := hpays.succeeded
  memo := hmemos hpays.memo
  signer := hpays.signer
  payerAccount := hpays.payerAccount
  receivingAccount := hpays.receivingAccount
  transfer := htransfers hpays.transfer
  debit := hpays.debit
  credit := hpays.credit

section Inserted

variable {result extended : Json} {inserted : List Json} {confirmation : ConfirmationLevel}
  {tx : ObservedFundingTransaction}

/-- An answer with a multisig's transfer inserted cannot be read. -/
theorem not_multisig_of_parse (hinserts : InsertsInstructions result extended inserted)
    (hencoded : ∀ instruction ∈ inserted, EncodedInstruction instruction)
    {tx' : ObservedFundingTransaction}
    (hparse : parseJsonParsedTransaction extended confirmation = .ok tx') :
    ∀ instruction ∈ inserted, ¬ MultisigTransfer instruction := by
  intro instruction hmem
  obtain ⟨_, _, transaction, message, _, items', _, _, htransaction, hmessage, _, _, _, hitems,
    hperm⟩ := hinserts.message
  obtain ⟨_, _, transaction', message', _, _, read, _, _, _, _, htransaction', hmessage', _, _,
    hread, _⟩ := parseJsonParsedTransaction_ok.mp hparse
  obtain rfl := Option.some.inj (htransaction.symm.trans htransaction')
  obtain rfl := Option.some.inj (hmessage.symm.trans hmessage')
  obtain ⟨parsed, hparsed, _⟩ := (parseOuterInstructions_ok hitems).mp hread
  have hinside : instruction ∈ items' := hperm.mem_iff.mpr (List.mem_append_right _ hmem)
  obtain ⟨observed, _, hobserved⟩ := exists_of_mapM_eq_ok hparsed hinside
  exact (parseOuterInstruction_ok_iff (hencoded instruction hmem)).mp ⟨observed, hobserved⟩

/-- Without a multisig's transfer among the inserted instructions the longer
answer is read as the same transaction with more memos and transfers. -/
theorem parse_of_not_multisig (hinserts : InsertsInstructions result extended inserted)
    (hencoded : ∀ instruction ∈ inserted, EncodedInstruction instruction)
    (hsingle : ∀ instruction ∈ inserted, ¬ MultisigTransfer instruction)
    (hparse : parseJsonParsedTransaction result confirmation = .ok tx) :
    ∃ memos transfers, tx.memos ⊆ memos ∧ tx.transferChecked ⊆ transfers ∧
      parseJsonParsedTransaction extended confirmation =
        .ok { tx with memos, transferChecked := transfers } := by
  obtain ⟨transaction, message, transaction', message', items, items', htransaction, hmessage,
    htransaction', hmessage', hkeys', hheader', hitems, hitems', hperm⟩ := hinserts.message
  obtain ⟨slot, blockTimeMs, same, same', accountMeta, keys, read, pre, post, hslot, htime, hsame,
    hsame', hmeta, hkeys, hread, hpre, hpost, rfl⟩ := parseJsonParsedTransaction_ok.mp hparse
  obtain rfl := Option.some.inj (htransaction.symm.trans hsame)
  obtain rfl := Option.some.inj (hmessage.symm.trans hsame')
  obtain ⟨parsed, hparsed, rfl⟩ := (parseOuterInstructions_ok hitems).mp hread
  have hall : ∀ instruction ∈ items', ∃ observed,
      parseOuterInstruction instruction = .ok observed := by
    intro instruction hmem
    rcases List.mem_append.mp (hperm.mem_iff.mp hmem) with hold | hnew
    · obtain ⟨observed, _, hobserved⟩ := exists_of_mapM_eq_ok hparsed hold
      exact ⟨observed, hobserved⟩
    · exact (parseOuterInstruction_ok_iff (hencoded instruction hnew)).mpr (hsingle instruction hnew)
  obtain ⟨parsed', hparsed'⟩ := exists_mapM_eq_ok hall
  have hkept : parsed ⊆ parsed' := by
    intro observed hmem
    obtain ⟨instruction, hinside, hobserved⟩ := (mem_of_mapM_eq_ok hparsed).mp hmem
    exact (mem_of_mapM_eq_ok hparsed').mpr
      ⟨instruction, hperm.mem_iff.mpr (List.mem_append_left _ hinside), hobserved⟩
  refine ⟨parsed'.filterMap Prod.fst, parsed'.filterMap Prod.snd, ?_, ?_, ?_⟩
  · exact List.filterMap_subset _ hkept
  · exact List.filterMap_subset _ hkept
  · refine parseJsonParsedTransaction_ok.mpr ⟨slot, blockTimeMs, transaction', message', accountMeta,
      keys, _, pre, post, hinserts.slot ▸ hslot, hinserts.blockTime ▸ htime, htransaction',
      hmessage', hinserts.accountMeta ▸ hmeta, ?_,
      (parseOuterInstructions_ok hitems').mpr ⟨parsed', hparsed', rfl⟩, hpre, hpost, rfl⟩
    rw [parseAccountKeys_congr accountMeta hkeys' hheader']
    exact hkeys

/-- An accepted payment stays accepted beside any further instructions of the
encoder's shapes exactly when none of them is a multisig's checked transfer. -/
theorem payment_survives_iff {platform : Platform} {intent : W5hFundingIntent}
    (hparse : parseJsonParsedTransaction result confirmation = .ok tx)
    (hverify : verifyFundingTransaction platform tx intent = .ok ())
    (hinserts : InsertsInstructions result extended inserted)
    (hencoded : ∀ instruction ∈ inserted, EncodedInstruction instruction) :
    (∃ tx', parseJsonParsedTransaction extended confirmation = .ok tx' ∧
      verifyFundingTransaction platform tx' intent = .ok ()) ↔
        ∀ instruction ∈ inserted, ¬ MultisigTransfer instruction := by
  constructor
  · rintro ⟨tx', hread, _⟩
    exact not_multisig_of_parse hinserts hencoded hread
  · intro hsingle
    obtain ⟨memos, transfers, hmemos, htransfers, hread⟩ :=
      parse_of_not_multisig hinserts hencoded hsingle hparse
    refine ⟨_, hread, ?_⟩
    exact verifyFundingTransaction_ok.mpr
      ((verifyFundingTransaction_ok.mp hverify).mono hmemos htransfers)

end Inserted

/-! ## A payment beside a multisig's transfer -/

def halfUsdcTransferJson (authority : List (String × Json)) : Json :=
  .object
    [("programId", .string tokenProgramIdBs58),
     ("parsed", .object
       [("type", .string "transferChecked"),
        ("info", .object
          ([("source", .string payerUsdcAtaBs58),
            ("mint", .string usdcMintBs58),
            ("destination", .string controlledUsdcAtaBs58),
            ("tokenAmount", tokenAmountJson 500000 6)] ++ authority))])]

def halfUsdcBalanceJson (index : Int) (owner : String) (amountRaw : UInt64) : Json :=
  .object
    [("accountIndex", .number index),
     ("mint", .string usdcMintBs58),
     ("owner", .string owner),
     ("uiTokenAmount", tokenAmountJson amountRaw 6)]

/-- The node's answer about the payment, with further instructions. -/
def halfUsdcAnswer (further : List Json) : Json :=
  .object
    [("slot", .number 419000010),
     ("blockTime", .number 1700000010),
     ("transaction", .object
       [("message", .object
         [("accountKeys", .array
           ([(payerWalletBs58, true), (payerUsdcAtaBs58, false),
              (controlledUsdcAtaBs58, false)].map fun key =>
             .object [("pubkey", .string key.1), ("signer", .bool key.2)])),
          ("instructions", .array
           ([.object [("programId", .string memoProgramIdBs58), ("parsed", .string (halfUsdcMemo 50))],
             .object [("programId", .string memoProgramIdBs58), ("parsed", .string (halfUsdcMemo 51))],
             halfUsdcTransferJson [("authority", .string payerWalletBs58)]] ++ further))])]),
     ("meta", .object
       [("err", .null),
        ("preTokenBalances", .array
          [halfUsdcBalanceJson 1 payerWalletBs58 2000000,
           halfUsdcBalanceJson 2 controlledWalletBs58 0]),
        ("postTokenBalances", .array
          [halfUsdcBalanceJson 1 payerWalletBs58 1500000,
           halfUsdcBalanceJson 2 controlledWalletBs58 500000])])]

theorem parse_halfUsdcAnswer :
    parseJsonParsedTransaction (halfUsdcAnswer []) .finalized = .ok halfUsdcPayment := by
  rfl

theorem inserts_halfUsdcAnswer (further : List Json) :
    InsertsInstructions (halfUsdcAnswer []) (halfUsdcAnswer further) further where
  slot := rfl
  blockTime := rfl
  accountMeta := rfl
  message := ⟨_, _, _, _, _, _, rfl, rfl, rfl, rfl, rfl, rfl, rfl, rfl, .refl _⟩

/-- A memo beside the payment is passed over. -/
theorem payment_survives_memo :
    ∃ tx, parseJsonParsedTransaction (halfUsdcAnswer
        [.object [("programId", .string memoProgramIdBs58), ("parsed", .string "hello")]])
        .finalized = .ok tx ∧
      verifyFundingTransaction halfUsdcPlatform tx ((halfUsdcOrder 50).intent 0) = .ok () := by
  have hverified := verifyFundingTransaction_ok.mpr (pays_halfUsdc List.mem_cons_self 0)
  refine (payment_survives_iff parse_halfUsdcAnswer hverified (inserts_halfUsdcAnswer _) ?_).mpr ?_
  · intro instruction hmem
    rw [List.mem_singleton.mp hmem]
    exact .memo "hello" rfl rfl
  · intro instruction hmem
    rw [List.mem_singleton.mp hmem]
    rintro ⟨info, hchecked, _⟩
    exact absurd (Json.string.inj (Option.some.inj hchecked.programId)) (by decide)

/-- A multisig's transfer beside the payment hides it. -/
theorem payment_lost_beside_multisig :
    ∃ result extended inserted tx, InsertsInstructions result extended inserted ∧
      (∀ instruction ∈ inserted, EncodedInstruction instruction) ∧
      parseJsonParsedTransaction result .finalized = .ok tx ∧
      verifyFundingTransaction halfUsdcPlatform tx ((halfUsdcOrder 50).intent 0) = .ok () ∧
      parseJsonParsedTransaction extended .finalized = .error .responseDecodeFailed := by
  let multisig := halfUsdcTransferJson [("multisigAuthority", .string controlledWalletBs58),
    ("signers", .array [.string payerWalletBs58])]
  refine ⟨_, halfUsdcAnswer [multisig], [multisig], _, inserts_halfUsdcAnswer _, ?_,
    parse_halfUsdcAnswer, verifyFundingTransaction_ok.mpr (pays_halfUsdc List.mem_cons_self 0), rfl⟩
  intro instruction hmem
  rw [List.mem_singleton.mp hmem]
  refine .multisig ⟨_, ⟨rfl, ⟨_, rfl, rfl, rfl⟩, ?_⟩, rfl, ⟨_, rfl⟩, [payerWalletBs58], rfl⟩
  exact ⟨⟨_, rfl⟩, ⟨_, rfl⟩, ⟨_, rfl⟩, ⟨_, rfl, 500000, 6, rfl, rfl⟩⟩

end SolFrontier.Mcp
