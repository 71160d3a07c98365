import SolFrontier.Foundation.JsonText
import SolFrontier.Mcp.FundingReads
import SolFrontier.SolanaCore.TokenLedger

/-! # The node's answer about a finalized transaction

The members of a `jsonParsed` answer that the tool looks at, for a transaction
that ran. The tool reads back the memos, the transfers, the signers and the
balances of that transaction.
-/

namespace SolFrontier.Mcp

open Foundation Types SolanaCore

/-- The two programs whose instructions the tool knows. -/
def fundingPrograms : PaymentPrograms where
  memo := pinnedPubkey memoProgramIdBs58 (by decide +kernel)
  token := pinnedPubkey tokenProgramIdBs58 (by decide +kernel)

variable (tx : FinalizedTransaction fundingPrograms)

/-! ## The answer -/

def tokenAmountJson (amount : UInt64) (decimals : UInt8) : Json :=
  .object [("amount", .string (toString amount.toNat)), ("decimals", .number decimals.toNat)]

def transferCheckedJson (transfer : TransferChecked) : Json :=
  .object
    [("type", .string "transferChecked"),
     ("info", .object
       [("source", .string transfer.source.toBase58),
        ("mint", .string transfer.mint.toBase58),
        ("destination", .string transfer.destination.toBase58),
        ("authority", .string transfer.authority.toBase58),
        ("tokenAmount", tokenAmountJson transfer.amount transfer.decimals)])]

/-- An instruction as its program's parser shows it. -/
def paymentJson : PaymentInstruction → Json
  | .memo text =>
      .object [("programId", .string memoProgramIdBs58), ("parsed", .string text)]
  | .transfer moved =>
      .object [("programId", .string tokenProgramIdBs58), ("parsed", transferCheckedJson moved)]

def accountKeyJson (requiredSignatures : Nat) (key : PubkeyBytes × Nat) : Json :=
  .object [("pubkey", .string key.1.toBase58), ("signer", .bool (key.2 < requiredSignatures))]

/-- The balance of one key of the message, if it is a token account. -/
def tokenBalanceJson (ledger : TokenLedger) (key : PubkeyBytes × Nat) : Option Json :=
  (ledger key.1).map fun account =>
    .object
      [("accountIndex", .number key.2),
       ("mint", .string account.mint.toBase58),
       ("owner", .string account.owner.toBase58),
       ("uiTokenAmount", tokenAmountJson account.amount account.decimals)]

def messageJson : Json :=
  .object
    [("accountKeys", .array (tx.message.accountKeys.zipIdx.map
       (accountKeyJson tx.message.header.numRequiredSignatures.toNat))),
     ("instructions", .array ((tx.message.payments fundingPrograms).map paymentJson))]

def accountMetaJson : Json :=
  .object
    [("err", .null),
     ("preTokenBalances", .array
       (tx.message.accountKeys.zipIdx.filterMap (tokenBalanceJson tx.before))),
     ("postTokenBalances", .array
       (tx.message.accountKeys.zipIdx.filterMap (tokenBalanceJson tx.after)))]

def nodeAnswer : Json :=
  .object
    [("slot", .number tx.slot.toNat),
     ("blockTime", tx.blockTime.elim .null fun seconds => .number seconds.toInt),
     ("transaction", .object [("message", messageJson tx)]),
     ("meta", accountMetaJson tx)]

/-! ## What the tool reads -/

def observedTransfer (transfer : TransferChecked) : ObservedTransferChecked where
  source := transfer.source.toBase58
  mint := transfer.mint.toBase58
  destination := transfer.destination.toBase58
  authority := transfer.authority.toBase58
  amountRaw := transfer.amount
  decimals := transfer.decimals

def observedBalance (ledger : TokenLedger) (key : PubkeyBytes) : Option ObservedTokenBalance :=
  (ledger key).map fun account =>
    { account := key.toBase58
      mint := account.mint.toBase58
      owner := account.owner.toBase58
      amountRaw := account.amount
      decimals := account.decimals }

/-- The proof the tool keeps of a finalized transaction. -/
def observation : ObservedFundingTransaction where
  slot := tx.slot
  blockTimeMs := tx.blockTime.map (· * 1000)
  confirmation := .finalized
  succeeded := true
  signerPubkeys := tx.message.signers.map PubkeyBytes.toBase58
  memos := (tx.message.payments fundingPrograms).filterMap PaymentInstruction.text?
  transferChecked :=
    ((tx.message.payments fundingPrograms).filterMap PaymentInstruction.transfer?).map
      observedTransfer
  preTokenBalances := tx.message.accountKeys.filterMap (observedBalance tx.before)
  postTokenBalances := tx.message.accountKeys.filterMap (observedBalance tx.after)

/-! ## Reading the answer back -/

theorem asU64_natCast {value : Nat} (hvalue : value < 2 ^ 64) :
    asU64 (.number value) = some (UInt64.ofNat value) := by
  rw [asU64, if_pos (by omega), Int.toNat_natCast]

theorem asU64_toNat (value : UInt64) : asU64 (.number value.toNat) = some value := by
  rw [asU64_natCast value.toNat_lt, UInt64.ofNat_toNat]

theorem toU8_toNat (value : UInt8) : toU8 (UInt64.ofNat value.toNat) = some value := by
  have hlt := value.toNat_lt
  have hcast : (UInt64.ofNat value.toNat).toNat = value.toNat := by
    rw [UInt64.toNat_ofNat']
    omega
  have hsmall : UInt64.ofNat value.toNat < 256 := by
    apply UInt64.lt_iff_toNat_lt.mpr
    rw [hcast]
    exact hlt
  rw [toU8, if_pos hsmall, Option.some.injEq]
  apply UInt8.toNat_inj.mp
  rw [UInt64.toNat_toUInt8, hcast]
  omega

theorem parseAmount_toString (amount : UInt64) :
    parseAmount (toString amount.toNat) = some amount := by
  have hlt := amount.toNat_lt
  have htext : (toString amount.toNat).toList = Nat.toDigits 10 amount.toNat := Nat.toList_repr
  obtain ⟨c, rest, hdigits, hc⟩ := JsonText.toDigits_cons amount.toNat
  have hsign : (Nat.toDigits 10 amount.toNat).head? ≠ some '+' := by
    intro h
    obtain rfl : c = '+' := by simpa [hdigits] using h
    cases hc
  have hall : (Nat.toDigits 10 amount.toNat).all Char.isDigit = true := by
    apply List.all_eq_true.mpr
    intro d hmem
    exact Nat.isDigit_of_mem_toDigits (by norm_num) (by norm_num) hmem
  have hdecimal : ¬ (Nat.toDigits 10 amount.toNat = [] ∨
      ¬ (Nat.toDigits 10 amount.toNat).all Char.isDigit = true) := by
    rw [not_or, not_not]
    exact ⟨Nat.toDigits_ne_nil, hall⟩
  rw [parseAmount, htext, if_neg hsign, if_neg hdecimal, Nat.ofDigitChars_ten_toDigits, if_pos hlt,
    UInt64.ofNat_toNat]

theorem parseTokenAmount_json (amount : UInt64) (decimals : UInt8) :
    parseTokenAmount (tokenAmountJson amount decimals) = .ok (amount, decimals) := by
  have hamount : ((tokenAmountJson amount decimals).get "amount").bind asStr =
      some (toString amount.toNat) := rfl
  have hdecimals : ((tokenAmountJson amount decimals).get "decimals").bind asU64 =
      some (UInt64.ofNat decimals.toNat) := by
    have hget : (tokenAmountJson amount decimals).get "decimals" =
        some (.number decimals.toNat) := rfl
    have hlt := decimals.toNat_lt
    rw [hget, Option.bind_some]
    apply asU64_natCast
    omega
  rw [parseTokenAmount, hamount, hdecimals, Option.bind_some, Option.bind_some,
    parseAmount_toString, toU8_toNat]
  rfl

/-- A step that succeeds on every item, whatever the items are. -/
theorem mapM_ok {α β ε : Type} {step : α → Except ε β} {result : α → β} {items : List α}
    (hstep : ∀ item ∈ items, step item = .ok (result item)) :
    items.mapM step = .ok (items.map result) := by
  induction items with
  | nil => rfl
  | cons item rest ih =>
      have hrest := ih fun other hmem => hstep other (by simp [hmem])
      rw [List.mapM_cons, hstep item (by simp), hrest]
      rfl

@[simp] theorem required_some {α : Type} (value : α) : required (some value) = .ok value := rfl

theorem parseTokenBalance_json {keys : List PubkeyBytes} (hkeys : keys.length ≤ 256)
    {key : PubkeyBytes} {index : Nat} (hkey : keys[index]? = some key) (account : TokenAccount) :
    parseTokenBalance (keys.map PubkeyBytes.toBase58)
      (.object
        [("accountIndex", .number index),
         ("mint", .string account.mint.toBase58),
         ("owner", .string account.owner.toBase58),
         ("uiTokenAmount", tokenAmountJson account.amount account.decimals)]) =
      .ok
        { account := key.toBase58
          mint := account.mint.toBase58
          owner := account.owner.toBase58
          amountRaw := account.amount
          decimals := account.decimals } := by
  obtain ⟨hindex, _⟩ := List.getElem?_eq_some_iff.mp hkey
  have hcast : (UInt64.ofNat index).toNat = index := by
    rw [UInt64.toNat_ofNat']
    omega
  have hread : asU64 (.number index) = some (UInt64.ofNat index) := asU64_natCast (by omega)
  have hpubkey : (keys.map PubkeyBytes.toBase58)[(UInt64.ofNat index).toNat]? =
      some key.toBase58 := by
    rw [hcast, List.getElem?_map, hkey, Option.map_some]
  generalize hbalance : Json.object _ = balance
  have hget : balance.get "accountIndex" = some (.number index) := by rw [← hbalance]; rfl
  have hamount : balance.get "uiTokenAmount" =
      some (tokenAmountJson account.amount account.decimals) := by rw [← hbalance]; rfl
  have hmint : requiredString balance "mint" = .ok account.mint.toBase58 := by
    rw [← hbalance]; rfl
  have howner : requiredString balance "owner" = .ok account.owner.toBase58 := by
    rw [← hbalance]; rfl
  rw [parseTokenBalance, hget, Option.bind_some, hread, required_some, ok_bind, hpubkey,
    required_some, ok_bind, hamount, required_some, ok_bind, parseTokenAmount_json, ok_bind]
  dsimp only
  rw [hmint, ok_bind, howner]
  rfl

/-- The balances of the keys that are token accounts, read with their keys. -/
theorem parseTokenBalances_json {keys : List PubkeyBytes} (hkeys : keys.length ≤ 256)
    (ledger : TokenLedger) :
    parseTokenBalances (some (.array (keys.zipIdx.filterMap (tokenBalanceJson ledger))))
      (keys.map PubkeyBytes.toBase58) = .ok (keys.filterMap (observedBalance ledger)) := by
  have hall : ∀ pairs : List (PubkeyBytes × Nat), (∀ pair ∈ pairs, keys[pair.2]? = some pair.1) →
      (pairs.filterMap (tokenBalanceJson ledger)).mapM
          (parseTokenBalance (keys.map PubkeyBytes.toBase58)) =
        .ok ((pairs.map Prod.fst).filterMap (observedBalance ledger)) := by
    intro pairs hpairs
    induction pairs with
    | nil => rfl
    | cons pair rest ih =>
        have hrest := ih fun other hmem => hpairs other (by simp [hmem])
        cases haccount : ledger pair.1 with
        | none =>
            rw [List.filterMap_cons_none (by simp [tokenBalanceJson, haccount]), List.map_cons,
              List.filterMap_cons_none (by simp [observedBalance, haccount])]
            exact hrest
        | some account =>
            have hread := parseTokenBalance_json hkeys (hpairs pair (by simp)) account
            rw [List.filterMap_cons_some (by rw [tokenBalanceJson, haccount, Option.map_some]),
              List.map_cons,
              List.filterMap_cons_some (by rw [observedBalance, haccount, Option.map_some]),
              List.mapM_cons, hread, hrest]
            rfl
  have hkeyed : keys.zipIdx.map Prod.fst = keys := by simp
  have hread := hall keys.zipIdx fun pair hmem => List.mem_zipIdx_iff_getElem?.mp hmem
  rw [hkeyed] at hread
  exact hread

/-- The items in front are those with the low positions. -/
theorem filter_zipIdx_lt {α : Type} (items : List α) (start count : Nat) :
    ((items.zipIdx start).filter fun item => item.2 < start + count).map Prod.fst =
      items.take count := by
  induction items generalizing start count with
  | nil => simp
  | cons item rest ih =>
      cases count with
      | zero =>
          have hnone : ((item :: rest).zipIdx start).filter (fun item => item.2 < start + 0) = [] := by
            apply List.filter_eq_nil_iff.mpr
            intro pair hmem
            have hle := List.le_snd_of_mem_zipIdx hmem
            simp
            omega
          rw [hnone]
          rfl
      | succ count =>
          have hrest := ih (start + 1) count
          rw [List.zipIdx_cons, List.filter_cons_of_pos (by simp), List.map_cons,
            List.take_succ_cons, show start + (count + 1) = start + 1 + count by omega, hrest]

theorem parseAccountKeys_json {message accountMeta : Json} {keys : List PubkeyBytes} {count : Nat}
    (hmessage : message.get "accountKeys" =
      some (.array (keys.zipIdx.map (accountKeyJson count))))
    (hmeta : accountMeta.get "loadedAddresses" = none) :
    parseAccountKeys message accountMeta =
      .ok (keys.map PubkeyBytes.toBase58, (keys.take count).map PubkeyBytes.toBase58) := by
  have hread (requiredSignatures : UInt64) (pairs : List (PubkeyBytes × Nat)) (start : Nat) :
      ((pairs.map (accountKeyJson count)).zipIdx start).mapM
          (fun entry => parseAccountKey requiredSignatures entry.1 entry.2) =
        .ok (pairs.map fun key => (key.1.toBase58, decide (key.2 < count))) := by
    induction pairs generalizing start with
    | nil => rfl
    | cons pair rest ih =>
        rw [List.map_cons, List.zipIdx_cons, List.mapM_cons, ih (start + 1)]
        rfl
  have hkeys : (keys.zipIdx.map fun key => (key.1.toBase58, decide (key.2 < count))).map Prod.fst =
      keys.map PubkeyBytes.toBase58 := by
    rw [List.map_map]
    have hfirst := congrArg (List.map PubkeyBytes.toBase58) (List.zipIdx_map_fst 0 keys)
    rw [List.map_map] at hfirst
    exact hfirst
  have hsigners : ((keys.zipIdx.map fun key =>
      (key.1.toBase58, decide (key.2 < count))).filter Prod.snd).map Prod.fst =
      (keys.take count).map PubkeyBytes.toBase58 := by
    have htake := filter_zipIdx_lt keys 0 count
    rw [Nat.zero_add] at htake
    rw [← htake, List.filter_map, List.map_map, List.map_map]
    rfl
  rw [parseAccountKeys, hmessage, Option.bind_some, asArray, required_some, ok_bind]
  dsimp only
  rw [hread, ok_bind, hmeta]
  dsimp only
  rw [hkeys, hsigners]
  simp
  rfl

theorem parseOuterInstruction_memo (text : String) :
    parseOuterInstruction (paymentJson (.memo text)) = .ok (some text, none) := by
  have hprogram : ((paymentJson (.memo text)).get "programId").bind asStr =
      some memoProgramIdBs58 := rfl
  rw [parseOuterInstruction, hprogram]
  dsimp only
  rw [if_pos rfl]
  rfl

theorem parseOuterInstruction_transfer (moved : TransferChecked) :
    parseOuterInstruction (paymentJson (.transfer moved)) =
      .ok (none, some (observedTransfer moved)) := by
  have hprogram : ((paymentJson (.transfer moved)).get "programId").bind asStr =
      some tokenProgramIdBs58 := rfl
  have hparsed : (paymentJson (.transfer moved)).get "parsed" = some (transferCheckedJson moved) :=
    rfl
  have hmemo : tokenProgramIdBs58 ≠ memoProgramIdBs58 := by decide
  have htype : ¬ ((transferCheckedJson moved).get "type").bind asStr ≠ some "transferChecked" :=
    not_not.mpr rfl
  obtain ⟨info, hinfo, hamount, hsource, hmint, hdestination, hauthority⟩ :
      ∃ info, (transferCheckedJson moved).get "info" = some info ∧
        info.get "tokenAmount" = some (tokenAmountJson moved.amount moved.decimals) ∧
        requiredString info "source" = .ok moved.source.toBase58 ∧
        requiredString info "mint" = .ok moved.mint.toBase58 ∧
        requiredString info "destination" = .ok moved.destination.toBase58 ∧
        requiredString info "authority" = .ok moved.authority.toBase58 :=
    ⟨_, rfl, rfl, rfl, rfl, rfl, rfl⟩
  rw [parseOuterInstruction, hprogram]
  dsimp only
  rw [if_neg hmemo, if_neg (not_not.mpr rfl), hparsed]
  dsimp only
  rw [if_neg htype, hinfo, required_some, ok_bind, hamount, required_some, ok_bind,
    parseTokenAmount_json, ok_bind]
  dsimp only
  rw [hsource, ok_bind, hmint, ok_bind, hdestination, ok_bind, hauthority]
  rfl

theorem parseBlockTime_json {blockTime : Option Int64}
    (hrange : ∀ seconds, blockTime = some seconds →
      0 ≤ seconds.toInt ∧ seconds.toInt * 1000 < 2 ^ 63) :
    parseBlockTime (some (blockTime.elim .null fun seconds => .number seconds.toInt)) =
      .ok (blockTime.map (· * 1000)) := by
  cases blockTime with
  | none => rfl
  | some seconds =>
      have hread : asI64 (.number seconds.toInt) = some seconds := by
        rw [asI64, if_pos ⟨seconds.le_toInt, seconds.toInt_lt⟩, Int64.ofInt_toInt]
      rw [Option.elim_some, parseBlockTime, hread]
      dsimp only
      · rw [if_pos (hrange seconds rfl)]
        rfl
      · intro h
        cases h

theorem parseOuterInstruction_json (payment : PaymentInstruction) :
    parseOuterInstruction (paymentJson payment) =
      .ok (payment.text?, payment.transfer?.map observedTransfer) := by
  cases payment with
  | memo text => exact parseOuterInstruction_memo text
  | transfer moved => exact parseOuterInstruction_transfer moved

theorem parseOuterInstructions_json {message : Json} {payments : List PaymentInstruction}
    (hmessage : message.get "instructions" = some (.array (payments.map paymentJson))) :
    parseOuterInstructions message = .ok
      (payments.filterMap PaymentInstruction.text?,
        (payments.filterMap PaymentInstruction.transfer?).map observedTransfer) := by
  have hread : (payments.map paymentJson).mapM parseOuterInstruction =
      .ok (payments.map fun payment =>
        (payment.text?, payment.transfer?.map observedTransfer)) := by
    rw [List.mapM_map]
    exact mapM_ok fun payment _ => parseOuterInstruction_json payment
  rw [parseOuterInstructions, hmessage, Option.bind_some, asArray, required_some, ok_bind, hread,
    ok_bind, List.filterMap_map, List.filterMap_map, List.map_filterMap]
  rfl

/-- The tool reads back what the transaction did. -/
theorem parse_nodeAnswer :
    parseJsonParsedTransaction (nodeAnswer tx) .finalized = .ok (observation tx) := by
  have hslot : (nodeAnswer tx).get "slot" = some (.number tx.slot.toNat) := rfl
  have hblockTime : parseBlockTime ((nodeAnswer tx).get "blockTime") =
      .ok (tx.blockTime.map (· * 1000)) := parseBlockTime_json tx.blockTime_range
  have htransaction : (nodeAnswer tx).get "transaction" =
      some (.object [("message", messageJson tx)]) := rfl
  have hmessage : (Json.object [("message", messageJson tx)]).get "message" =
      some (messageJson tx) := rfl
  have hmeta : (nodeAnswer tx).get "meta" = some (accountMetaJson tx) := rfl
  have hkeys : parseAccountKeys (messageJson tx) (accountMetaJson tx) =
      .ok (tx.message.accountKeys.map PubkeyBytes.toBase58,
        tx.message.signers.map PubkeyBytes.toBase58) := parseAccountKeys_json rfl rfl
  have hinstructions : parseOuterInstructions (messageJson tx) = .ok
      ((tx.message.payments fundingPrograms).filterMap PaymentInstruction.text?,
        ((tx.message.payments fundingPrograms).filterMap PaymentInstruction.transfer?).map
          observedTransfer) :=
    parseOuterInstructions_json rfl
  have hbefore : parseTokenBalances ((accountMetaJson tx).get "preTokenBalances")
      (tx.message.accountKeys.map PubkeyBytes.toBase58) =
        .ok (tx.message.accountKeys.filterMap (observedBalance tx.before)) :=
    parseTokenBalances_json tx.keys_le tx.before
  have hafter : parseTokenBalances ((accountMetaJson tx).get "postTokenBalances")
      (tx.message.accountKeys.map PubkeyBytes.toBase58) =
        .ok (tx.message.accountKeys.filterMap (observedBalance tx.after)) :=
    parseTokenBalances_json tx.keys_le tx.after
  rw [parseJsonParsedTransaction, hslot, Option.bind_some, asU64_toNat, required_some, ok_bind,
    hblockTime, ok_bind, htransaction, required_some, ok_bind, hmessage, required_some, ok_bind,
    hmeta, required_some, ok_bind, hkeys, ok_bind]
  dsimp only
  rw [hinstructions, ok_bind]
  dsimp only
  rw [hbefore, ok_bind, hafter]
  rfl

end SolFrontier.Mcp
