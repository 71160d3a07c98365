import SolFrontier.Mcp.NodeReport
import SolFrontier.Web.FundingPayload

/-! # The payload handed to the page

The server puts the payload of an offer into the fragment of a URL, and the
page reads it from its own address. The page accepts what the server wrote and
keeps exactly its values.
-/

namespace SolFrontier.Web

open Foundation Types SolanaCore StateStore Mcp

/-! ## The fragment -/

/-- The server's encoding is percent-encoding. -/
theorem percentEncodeFragmentComponent_eq (value : String) :
    percentEncodeFragmentComponent value = percentEncode isUnreserved value :=
  rfl

theorem isUnreserved_range {byte : UInt8} (hbyte : isUnreserved byte = true) :
    44 < byte.toNat ∧ byte.toNat < 127 ∧ byte.toNat ≠ 61 ∧ byte.toNat ≠ 63 ∧ byte.toNat ≠ 60 ∧
      byte.toNat ≠ 62 ∧ byte.toNat ≠ 96 := by
  simp only [isUnreserved, Bool.or_eq_true, Bool.and_eq_true, decide_eq_true_eq,
    UInt8.le_iff_toNat_le, ← UInt8.toNat_inj, UInt8.reduceToNat] at hbyte
  omega

theorem keepsFormBytes_isUnreserved : KeepsFormBytes isUnreserved := by
  intro byte hbyte
  have hrange := isUnreserved_range hbyte
  simp only [UInt8.lt_iff_toNat_lt, List.mem_cons, ← UInt8.toNat_inj, UInt8.reduceToNat,
    List.not_mem_nil, or_false]
  omega

/-- The browser writes no character of an encoded text by its code. -/
theorem plain_percentEncode (text : String) :
    ∀ c ∈ (percentEncode isUnreserved text).toList, isFragmentEncoded c = false := by
  intro c hmem
  rw [percentEncode, String.toList_ofList, List.mem_flatMap] at hmem
  obtain ⟨byte, _, hmem⟩ := hmem
  split at hmem
  next hkept =>
    obtain rfl := List.mem_singleton.mp hmem
    have hrange := isUnreserved_range hkept
    have hcode := toNat_ofByte byte
    simp only [isFragmentEncoded, Bool.or_eq_false_iff, decide_eq_false_iff_not,
      ← Char.toNat_inj, hcode, Char.reduceToNat]
    omega
  next =>
    have hdigit : ∀ value < 16, isFragmentEncoded (upperHex value) = false := by
      intro value hvalue
      interval_cases value <;> rfl
    have hbyte := byte.toNat_lt
    rcases List.mem_cons.mp hmem with rfl | hmem
    · rfl
    rcases List.mem_cons.mp hmem with rfl | hmem
    · exact hdigit _ (by omega)
    · obtain rfl := List.mem_singleton.mp hmem
      exact hdigit _ (by omega)

theorem join_singletons (chars : List Char) :
    String.join (chars.map String.singleton) = String.ofList chars := by
  apply String.toList_inj.mp
  induction chars with
  | nil => rfl
  | cons c rest ih => simp [String.join_cons, ih]

/-- A fragment of plain characters is shown as it is. -/
theorem locationHash_plain {base fragment : String} (hbase : ∀ c ∈ base.toList, c ≠ '#')
    (hne : fragment ≠ "") (hplain : ∀ c ∈ fragment.toList, isFragmentEncoded c = false) :
    locationHash (base ++ "#" ++ fragment) = "#" ++ fragment := by
  have hchars : ((base ++ "#" ++ fragment).toList.dropWhile (· ≠ '#')).tail = fragment.toList := by
    have hsign : "#".toList = ['#'] := rfl
    rw [String.toList_append, String.toList_append, List.append_assoc, hsign,
      List.dropWhile_append_of_pos (by simpa using hbase)]
    simp
  have hnonempty : fragment.toList ≠ [] := by simpa using hne
  have hshown : (fragment.toList.map fun c =>
      if isFragmentEncoded c then percentEncode (fun _ => false) (String.singleton c)
      else String.singleton c) = fragment.toList.map String.singleton := by
    apply List.map_congr_left
    intro c hmem
    rw [if_neg (by simp [hplain c hmem])]
  rw [locationHash, hchars, if_neg hnonempty, hshown, join_singletons, String.ofList_toList]

theorem utf16Length_plain {text : String} (hplain : ∀ c ∈ text.toList, isFragmentEncoded c = false) :
    utf16Length text = text.length := by
  have hunits : (text.toList.map fun c => if c.toNat < 65536 then 1 else 2) =
      text.toList.map fun _ => 1 := by
    apply List.map_congr_left
    intro c hmem
    have hcode := hplain c hmem
    simp only [isFragmentEncoded, Bool.or_eq_false_iff, decide_eq_false_iff_not] at hcode
    rw [if_pos (by omega)]
  rw [utf16Length, hunits, List.map_const', List.sum_replicate, String.length_toList, nsmul_one,
    Nat.cast_id]

theorem length_percentEncode_le (text : String) :
    (percentEncode isUnreserved text).length ≤ 12 * text.length := by
  have hbyte : ∀ bytes : List UInt8, (bytes.flatMap fun byte =>
      if isUnreserved byte then [Char.ofNat byte.toNat]
      else ['%', upperHex (byte.toNat / 16), upperHex (byte.toNat % 16)]).length ≤
        3 * bytes.length := by
    intro bytes
    induction bytes with
    | nil => rfl
    | cons byte rest ih =>
        rw [List.flatMap_cons, List.length_append, List.length_cons]
        split
        · rw [List.length_singleton]
          omega
        · simp only [List.length_cons, List.length_nil]
          omega
  have hchar : ∀ chars : List Char, (chars.flatMap String.utf8EncodeChar).length ≤
      4 * chars.length := by
    intro chars
    induction chars with
    | nil => rfl
    | cons c rest ih =>
        have hsize := c.utf8Size_le_four
        rw [List.flatMap_cons, List.length_append, String.length_utf8EncodeChar, List.length_cons]
        omega
  have hbytes := hbyte (utf8Bytes text)
  have hchars := hchar text.toList
  rw [String.length_toList] at hchars
  rw [percentEncode, String.length_ofList]
  unfold utf8Bytes at hbytes ⊢
  omega

/-- The payload that a signing page URL carries. -/
def handedPayload (status intentId ruleHash : String) (funding : Json) : Json :=
  .object
    [("status", .string status),
     ("funding_actionable", .bool true),
     ("intent_id", .string intentId),
     ("rule_hash", .string ruleHash),
     ("funding", funding)]

theorem buildSigningPageUrl_eq (status intentId ruleHash : String) (funding : Json) :
    buildSigningPageUrl status intentId ruleHash funding =
      signingPageBaseUrl ++ "#" ++ ("payload=" ++ percentEncode isUnreserved
        (handedPayload status intentId ruleHash funding).render) := by
  have hname : "#payload=" = "#" ++ "payload=" := rfl
  rw [buildSigningPageUrl, percentEncodeFragmentComponent_eq, hname, handedPayload]
  simp only [String.append_assoc]

/-- The page reads the payload back from the URL, unless it is very long. -/
theorem readFinalizePayload_url {status intentId ruleHash : String} {funding : Json}
    (hlength : 12 * JsonText.lengthBound (handedPayload status intentId ruleHash funding) + 8 ≤
      131072) :
    readFinalizePayload (locationHash (buildSigningPageUrl status intentId ruleHash funding)) =
      .ok (JsonText.ofJson (handedPayload status intentId ruleHash funding)) := by
  generalize hpayload : handedPayload status intentId ruleHash funding = payload
  rw [hpayload] at hlength
  obtain ⟨encoded, hencoded⟩ : ∃ encoded, encoded = percentEncode isUnreserved payload.render :=
    ⟨_, rfl⟩
  have hplain : ∀ c ∈ ("payload=" ++ encoded).toList, isFragmentEncoded c = false := by
    intro c hmem
    rw [String.toList_append, List.mem_append] at hmem
    rcases hmem with hname | hvalue
    · have hall : ("payload=".toList.all fun c => !isFragmentEncoded c) = true := by decide
      simpa using List.all_eq_true.mp hall c hname
    · rw [hencoded] at hvalue
      exact plain_percentEncode payload.render c hvalue
  have hne : "payload=" ++ encoded ≠ "" := by
    intro hempty
    have hlength := congrArg String.length hempty
    have hname : "payload=".length = 8 := rfl
    rw [String.length_append, hname] at hlength
    simp at hlength
  have hhash : locationHash (buildSigningPageUrl status intentId ruleHash funding) =
      "#" ++ ("payload=" ++ encoded) := by
    rw [buildSigningPageUrl_eq, hpayload, ← hencoded]
    have hbase : (signingPageBaseUrl.toList.all (· ≠ '#')) = true := by decide
    exact locationHash_plain (by simpa using List.all_eq_true.mp hbase) hne hplain
  have hraw : String.ofList (("#" ++ ("payload=" ++ encoded)).toList.drop 1) =
      "payload=" ++ encoded := by
    have hsign : "#".toList = ['#'] := rfl
    rw [String.toList_append, hsign, List.singleton_append, List.drop_one, List.tail_cons,
      String.ofList_toList]
  have hshort : ¬ 131072 < utf16Length ("payload=" ++ encoded) := by
    have hencodedLength := length_percentEncode_le payload.render
    have hrendered := JsonText.length_render_le payload
    have hname : "payload=".length = 8 := rfl
    rw [utf16Length_plain hplain, String.length_append, hname, hencoded]
    omega
  have hparameters : formParameters ("payload=" ++ encoded) = [("payload", payload.render)] := by
    have hname : percentEncode isUnreserved "payload" ++ "=" = "payload=" := by decide
    rw [← hname, hencoded]
    exact formParameters_percentEncode keepsFormBytes_isUnreserved "payload" payload.render
  rw [hhash, readFinalizePayload, hraw]
  dsimp only
  rw [if_neg hne, if_neg hshort, hparameters]
  have hparsed : JsonText.parse payload.render = some (JsonText.ofJson payload) :=
    JsonText.parse_render payload
  simp only [List.length_singleton, List.head?_cons, Option.map_some, List.filter_cons,
    List.filter_nil, List.map_cons, List.map_nil, decide_true, if_true, ne_eq, not_true_eq_false,
    or_self, if_false, Option.bind_some, hparsed]
  rw [← hpayload, handedPayload, JsonText.ofJson_object]

/-! ## Lengths -/

theorem length_toBase58_le (key : PubkeyBytes) : key.toBase58.length ≤ 76 := by
  have hbound : Nat.ofDigits 256 (key.bytes.1.map UInt8.toNat).reverse < 58 ^ 44 := by
    have hlt := Nat.ofDigits_lt_base_pow_length (b := 256) (l := (key.bytes.1.map UInt8.toNat).reverse)
      (by norm_num) (by
        intro digit hmem
        obtain ⟨byte, _, rfl⟩ := List.mem_map.mp (List.mem_reverse.mp hmem)
        exact byte.toNat_lt)
    rw [List.length_reverse, List.length_map, key.bytes.2] at hlt
    exact hlt.trans (by norm_num)
  have hdigits := (Nat.digits_length_le_iff (by norm_num : 1 < 58)
    (Nat.ofDigits 256 (key.bytes.1.map UInt8.toNat).reverse)).mpr hbound
  have hzeros := (List.takeWhile_sublist (l := key.bytes.1.map UInt8.toNat) (· = 0)).length_le
  rw [List.length_map, key.bytes.2] at hzeros
  rw [PubkeyBytes.toBase58, base58Encode, String.length_ofList, List.length_map, reradix,
    List.length_append, List.length_replicate, List.length_reverse]
  omega

theorem length_hexEncode {count : Nat} (bytes : Bytes count) :
    (hexEncode bytes.1).length = 2 * count := by
  rw [hexEncode, String.length_ofList, hexChars, List.length_flatMap]
  simp [bytes.2, mul_comm]

theorem length_toString_le {value : Nat} (hvalue : value < 10 ^ 20) :
    (toString value).length ≤ 20 :=
  Nat.repr_length value 20 (by norm_num) hvalue

/-! ## The checks on what the server wrote -/

theorem requireString_text {text : String} (hne : text ≠ "") (field : String) :
    requireString (some (.string text)) field = .ok text :=
  if_neg hne

theorem toBase58_ne_empty (key : PubkeyBytes) : key.toBase58 ≠ "" := by
  intro hempty
  have hread := PubkeyBytes.fromBase58_toBase58 key
  rw [hempty] at hread
  cases hread

theorem requirePublicKey_toBase58 (key : PubkeyBytes) (field : String) :
    requirePublicKey (some (.string key.toBase58)) field = .ok key := by
  simp [requirePublicKey, requireString_text (toBase58_ne_empty key), ok_bind]

theorem requirePinned_toBase58 {key : PubkeyBytes} {text : String} (hkey : key.toBase58 = text)
    (field error : String) : requirePinned (some (.string text)) field text error = .ok key := by
  have hread := requirePublicKey_toBase58 key field
  rw [hkey] at hread
  rw [requirePinned, hread, ok_bind, if_neg (not_not.mpr hkey)]

theorem requireSafeEpochMs_number {deadline : Int} (hpositive : 0 < deadline)
    (hsafe : deadline < 2 ^ 53) :
    requireSafeEpochMs (some (JsonText.ofJson (.number deadline))) = .ok deadline := by
  have habs : |deadline| < 2 ^ 53 := by
    rw [abs_of_pos hpositive]
    exact hsafe
  have hdouble : JsonText.ofJson (.number deadline) = .number (.finite deadline) := by
    rw [JsonText.ofJson, Double.nearest_intCast habs]
  have hinteger : (Double.finite deadline).isSafeInteger = true := by
    have hcast : |(deadline : ℚ)| < 2 ^ 53 := by exact_mod_cast habs
    simp [Double.isSafeInteger, hcast]
  have hnot : ¬ (¬ (Double.finite deadline).isSafeInteger = true ∨ (deadline : ℚ) ≤ 0) := by
    rw [not_or, not_not]
    exact ⟨hinteger, not_le.mpr (by exact_mod_cast hpositive)⟩
  rw [hdouble, requireSafeEpochMs, if_neg hnot]
  rfl

theorem parseAmountRaw_toString {amount : UInt64} (hpositive : 0 < amount) :
    parseAmountRaw (some (.string (toString amount))) = .ok amount.toNat := by
  have hlt := amount.toNat_lt
  have hne : 0 < amount.toNat := UInt64.lt_iff_toNat_lt.mp hpositive
  have htext : (toString amount).toList = Nat.toDigits 10 amount.toNat := Nat.toList_repr
  have hdigits : (Nat.toDigits 10 amount.toNat).all Char.isDigit = true := by
    apply List.all_eq_true.mpr
    intro digit hmem
    exact Nat.isDigit_of_mem_toDigits (by norm_num) (by norm_num) hmem
  have hnonempty : toString amount ≠ "" := by
    intro hempty
    rw [hempty] at htext
    exact Nat.toDigits_ne_nil htext.symm
  have hvalue : ¬ (amount.toNat = 0 ∨ maxU64 < amount.toNat) := by
    unfold maxU64
    omega
  have hplain : ¬ (toString amount = "" ∨
      ¬ (toString amount).toList.all Char.isDigit = true) := by
    rw [htext, not_or, not_not]
    exact ⟨hnonempty, hdigits⟩
  rw [parseAmountRaw, if_neg hplain, htext, Nat.ofDigitChars_ten_toDigits]
  exact if_neg hvalue

theorem requireDecimals_six :
    requireDecimals (some (JsonText.ofJson (.number 6))) = .ok 6 := by
  have hdouble : JsonText.ofJson (.number 6) = .number (.finite (6 : Int)) := by
    rw [JsonText.ofJson, Double.nearest_intCast (by norm_num)]
  rw [hdouble]
  decide

/-- The text of bytes is lower-case hexadecimal. -/
theorem isLowerHexText_hexEncode {count : Nat} (bytes : Bytes count) :
    isLowerHexText (2 * count) (hexEncode bytes.1) = true := by
  have hdigit : ∀ value < 16, ((hexDigit value).isDigit ||
      ('a' ≤ hexDigit value && hexDigit value ≤ 'f')) = true := by
    intro value hvalue
    interval_cases value <;> rfl
  have hlength : (hexChars bytes.1).length = 2 * count := by
    rw [← length_hexEncode bytes, hexEncode, String.length_ofList]
  have hall : (hexChars bytes.1).all
      (fun c => c.isDigit || ('a' ≤ c && c ≤ 'f')) = true := by
    apply List.all_eq_true.mpr
    intro c hmem
    obtain ⟨byte, _, hmem⟩ := List.mem_flatMap.mp hmem
    have hbyte := byte.toNat_lt
    rcases List.mem_cons.mp hmem with rfl | hmem
    · exact hdigit _ (by omega)
    · obtain rfl := List.mem_singleton.mp hmem
      exact hdigit _ (by omega)
  rw [isLowerHexText, hexEncode, String.toList_ofList]
  exact decide_eq_true ⟨hlength, hall⟩

/-! ## The whole payload -/

/-- The page derives token accounts as the server does. -/
def SameDerivation (web3 : SolanaWeb3) (platform : Platform) : Prop :=
  ∀ owner mint, web3.findProgramAddressSync [owner.bytes.1, tokenProgramId.bytes.1, mint.bytes.1]
    associatedTokenProgramId = some (platform.associatedTokenAddress owner mint)

/-- What the page keeps of the payload of an order. -/
def keptFunding (platform : Platform) (intentId ruleHash : String)
    (userWallet wallet : PubkeyBytes) (amount : UInt64) (deadline : Int) : ParsedFunding where
  intentId
  ruleHash
  userWallet
  userAta := platform.associatedTokenAddress userWallet usdcMint
  controlledWallet := wallet
  controlledAta := platform.associatedTokenAddress wallet usdcMint
  mint := usdcMint
  memoProgramId := fundingPrograms.memo
  tokenProgramId
  amount := amount.toNat
  decimals := 6
  expiresAtMs := deadline
  memo := fundingMemo intentId ruleHash
  instructionOrder := expectedOrder

theorem get_handedPayload (status intentId ruleHash : String) (funding : Json) (key : String) :
    (JsonText.ofJson (handedPayload status intentId ruleHash funding)).get key =
      ((handedPayload status intentId ruleHash funding).get key).map JsonText.ofJson := by
  apply JsonText.get_ofJson
  show ["status", "funding_actionable", "intent_id", "rule_hash", "funding"].Nodup
  decide

theorem get_fundingPayload (current : W5hFundingIntent) (intentId ruleHash key : String) :
    (JsonText.ofJson (fundingPayload current intentId ruleHash)).get key =
      ((fundingPayload current intentId ruleHash).get key).map JsonText.ofJson := by
  apply JsonText.get_ofJson
  show ["user_wallet", "user_usdc_ata", "controlled_wallet", "controlled_usdc_ata", "mint",
    "decimals", "amount_raw", "memo", "memo_program_id", "instruction_order",
    "funding_window_seconds", "expires_at_ms"].Nodup
  decide

theorem requireActionable_handed (intentId ruleHash : String) (funding : Json) :
    requireActionable (JsonText.ofJson
      (handedPayload "funding_required" intentId ruleHash funding)) = .ok () := by
  have hget := get_handedPayload "funding_required" intentId ruleHash funding
  have hstatus := hget "status"
  have hactionable := hget "funding_actionable"
  have hsigning := hget "signing"
  rw [show (handedPayload "funding_required" intentId ruleHash funding).get "status" =
    some (.string "funding_required") from rfl] at hstatus
  rw [show (handedPayload "funding_required" intentId ruleHash funding).get "funding_actionable" =
    some (.bool true) from rfl] at hactionable
  rw [show (handedPayload "funding_required" intentId ruleHash funding).get "signing" =
    none from rfl] at hsigning
  rw [requireActionable, hstatus, hactionable, hsigning]
  rfl

section Handed

variable {web3 : SolanaWeb3} {platform : Platform} {current : W5hFundingIntent}
  {userWallet wallet : PubkeyBytes}

theorem requireAta_same (hsame : SameDerivation web3 platform) (owner mint : PubkeyBytes)
    (error : String) :
    requireAta web3 owner mint (platform.associatedTokenAddress owner mint) error = .ok () := by
  rw [requireAta, deriveAta, hsame]
  dsimp only
  rw [ok_bind, if_neg (not_not.mpr rfl)]

/-- The page accepts the payload of an order on canonical accounts, whatever its
amount and wallets are, and keeps its values. -/
theorem validateFundingPayload_handed (hsame : SameDerivation web3 platform) (id : Bytes 16)
    (hash : Bytes 32) (huser : current.userWallet = userWallet.toBase58)
    (huserAta : current.userUsdcAta =
      (platform.associatedTokenAddress userWallet usdcMint).toBase58)
    (hwallet : current.controlledWallet = wallet.toBase58)
    (haccount : current.controlledUsdcAta =
      (platform.associatedTokenAddress wallet usdcMint).toBase58)
    (hamount : 0 < current.amountRaw) (hpositive : 0 < current.expiresAtMs.toInt)
    (hsafe : current.expiresAtMs.toInt < 2 ^ 53) :
    validateFundingPayload web3 (JsonText.ofJson (handedPayload "funding_required"
        (hexEncode id.1) (hexEncode hash.1)
        (fundingPayload current (hexEncode id.1) (hexEncode hash.1)))) =
      .ok (keptFunding platform (hexEncode id.1) (hexEncode hash.1) userWallet wallet
        current.amountRaw current.expiresAtMs.toInt) := by
  have hidText := isLowerHexText_hexEncode id
  have hhashText := isLowerHexText_hexEncode hash
  have hnonempty : ∀ text : String, isLowerHexText 32 text = true ∨ isLowerHexText 64 text = true →
      text ≠ "" := by
    rintro _ (h | h) rfl <;> cases h
  -- Of the two ids only their shape matters from here on.
  generalize hexEncode id.1 = intentId at hidText ⊢
  generalize hexEncode hash.1 = ruleHash at hhashText ⊢
  have hactionable := requireActionable_handed intentId ruleHash
    (fundingPayload current intentId ruleHash)
  have hget := get_handedPayload "funding_required" intentId ruleHash
    (fundingPayload current intentId ruleHash)
  have hmember := get_fundingPayload current intentId ruleHash
  generalize JsonText.ofJson (handedPayload "funding_required" intentId ruleHash
    (fundingPayload current intentId ruleHash)) = payload at hactionable hget ⊢
  obtain ⟨members, hmembers⟩ : ∃ members,
      JsonText.ofJson (fundingPayload current intentId ruleHash) = .object members :=
    ⟨_, JsonText.ofJson_object _⟩
  rw [hmembers] at hmember
  have hfunding : payload.get "funding" = some (.object members) := by
    rw [hget, ← hmembers]
    rfl
  have hintentId : requireString (payload.get "intent_id") "intent_id" = .ok intentId := by
    rw [hget]
    exact requireString_text (hnonempty _ (.inl hidText)) "intent_id"
  have hruleHash : requireString (payload.get "rule_hash") "rule_hash" = .ok ruleHash := by
    rw [hget]
    exact requireString_text (hnonempty _ (.inr hhashText)) "rule_hash"
  have hidentity : ¬ (¬ isLowerHexText 32 intentId = true ∨ ¬ isLowerHexText 64 ruleHash = true) := by
    rw [not_or, not_not, not_not]
    exact ⟨hidText, hhashText⟩
  have horder : requireInstructionOrder ((JsonValue.object members).get "instruction_order") =
      .ok expectedOrder := by
    rw [hmember]
    rfl
  have hkey : ∀ {field : String} {key : PubkeyBytes},
      (fundingPayload current intentId ruleHash).get field = some (.string key.toBase58) →
      requirePublicKey ((JsonValue.object members).get field) field = .ok key := by
    intro field key hfield
    rw [hmember, hfield]
    exact requirePublicKey_toBase58 key field
  have huserKey : requirePublicKey ((JsonValue.object members).get "user_wallet") "user_wallet" =
      .ok userWallet := hkey (huser ▸ rfl)
  have huserAtaKey : requirePublicKey ((JsonValue.object members).get "user_usdc_ata")
      "user_usdc_ata" = .ok (platform.associatedTokenAddress userWallet usdcMint) :=
    hkey (huserAta ▸ rfl)
  have hwalletKey : requirePublicKey ((JsonValue.object members).get "controlled_wallet")
      "controlled_wallet" = .ok wallet := hkey (hwallet ▸ rfl)
  have haccountKey : requirePublicKey ((JsonValue.object members).get "controlled_usdc_ata")
      "controlled_usdc_ata" = .ok (platform.associatedTokenAddress wallet usdcMint) :=
    hkey (haccount ▸ rfl)
  have hmint : requirePinned ((JsonValue.object members).get "mint") "mint" usdcMintText
      "unsupported_mint" = .ok usdcMint := by
    have hkey : usdcMint.toBase58 = usdcMintText := toBase58_pinned _
    rw [hmember]
    exact requirePinned_toBase58 hkey "mint" "unsupported_mint"
  have hmemoProgram : requirePinned ((JsonValue.object members).get "memo_program_id")
      "memo_program_id" memoProgramIdText "unsupported_memo_program" =
        .ok fundingPrograms.memo := by
    have hkey : fundingPrograms.memo.toBase58 = memoProgramIdText := toBase58_pinned _
    rw [hmember]
    exact requirePinned_toBase58 hkey "memo_program_id" "unsupported_memo_program"
  have hdeadline : requireSafeEpochMs (nullish ((JsonValue.object members).get "expires_at_ms")
      (payload.get "expires_at_ms")) = .ok current.expiresAtMs.toInt := by
    rw [hmember]
    exact requireSafeEpochMs_number hpositive hsafe
  have hmemo : requireString ((JsonValue.object members).get "memo") "memo" =
      .ok (fundingMemo intentId ruleHash) := by
    have hne : fundingMemo intentId ruleHash ≠ "" := by
      intro hempty
      have hlength := congrArg String.length hempty
      simp [fundingMemo, String.length_append] at hlength
    rw [hmember]
    exact requireString_text hne "memo"
  have hamountRaw : parseAmountRaw ((JsonValue.object members).get "amount_raw") =
      .ok current.amountRaw.toNat := by
    rw [hmember]
    exact parseAmountRaw_toString hamount
  have hdecimals : requireDecimals ((JsonValue.object members).get "decimals") = .ok 6 := by
    rw [hmember]
    exact requireDecimals_six
  -- The checks in the order in which the page makes them.
  rw [validateFundingPayload, hactionable, ok_bind, hfunding]
  dsimp only
  rw [hintentId, ok_bind, hruleHash, ok_bind, if_neg hidentity, horder, ok_bind, huserKey, ok_bind,
    huserAtaKey, ok_bind, hwalletKey, ok_bind, haccountKey, ok_bind, hmint, ok_bind, hmemoProgram,
    ok_bind, requireAta_same hsame, ok_bind, requireAta_same hsame, ok_bind, hdeadline, ok_bind,
    hmemo, ok_bind, hamountRaw, ok_bind, hdecimals, ok_bind]
  rfl

/-- The payload of an order is far from the limit of the page. -/
theorem lengthBound_handedPayload {userAta account : PubkeyBytes}
    (id : Bytes 16) (hash : Bytes 32) (huser : current.userWallet = userWallet.toBase58)
    (huserAta : current.userUsdcAta = userAta.toBase58)
    (hwallet : current.controlledWallet = wallet.toBase58)
    (haccount : current.controlledUsdcAta = account.toBase58)
    (hpositive : 0 < current.expiresAtMs.toInt) :
    JsonText.lengthBound (handedPayload "funding_required" (hexEncode id.1) (hexEncode hash.1)
      (fundingPayload current (hexEncode id.1) (hexEncode hash.1))) ≤ 6000 := by
  have huserLength := length_toBase58_le userWallet
  have huserAtaLength := length_toBase58_le userAta
  have hwalletLength := length_toBase58_le wallet
  have haccountLength := length_toBase58_le account
  have hamount := length_toString_le (current.amountRaw.toNat_lt.trans (by norm_num))
  have hdeadline : (toString current.expiresAtMs.toInt).length ≤ 20 := by
    have hlt := current.expiresAtMs.toInt_lt
    obtain ⟨deadline, hnat⟩ := Int.eq_ofNat_of_zero_le hpositive.le
    rw [hnat] at hlt ⊢
    exact length_toString_le (by omega)
  have hid := length_hexEncode id
  have hhash := length_hexEncode hash
  have hdecimals : (toString (6 : Int)).length = 1 := rfl
  have hwindow : (toString fundingWindowSeconds.toInt).length = 3 := by decide
  have hamountText : toString current.amountRaw = toString current.amountRaw.toNat := rfl
  simp only [handedPayload, fundingPayload, JsonText.lengthBound, JsonText.membersBound,
    JsonText.itemsBound, huser, huserAta, hwallet, haccount, fundingMemo, usdcMintBs58,
    memoProgramIdBs58, String.length_append, hid, hhash, hdecimals, hwindow, hamountText]
  -- the lengths of the literals are evaluated over their characters
  simp only [← String.length_toList] at huserLength huserAtaLength hwalletLength haccountLength
  simp only [← String.length_toList] at hamount hdeadline ⊢
  simp only [String.reduceToList, List.length_cons, List.length_nil]
  omega

/-- The page reads the payload of an order from the URL of the server. -/
theorem page_reads_order (hsame : SameDerivation web3 platform) (id : Bytes 16) (hash : Bytes 32)
    (huser : current.userWallet = userWallet.toBase58)
    (huserAta : current.userUsdcAta =
      (platform.associatedTokenAddress userWallet usdcMint).toBase58)
    (hwallet : current.controlledWallet = wallet.toBase58)
    (haccount : current.controlledUsdcAta =
      (platform.associatedTokenAddress wallet usdcMint).toBase58)
    (hamount : 0 < current.amountRaw) (hpositive : 0 < current.expiresAtMs.toInt)
    (hsafe : current.expiresAtMs.toInt < 2 ^ 53) :
    (readFinalizePayload (locationHash (buildSigningPageUrl "funding_required" (hexEncode id.1)
        (hexEncode hash.1) (fundingPayload current (hexEncode id.1) (hexEncode hash.1)))) >>=
      validateFundingPayload web3) =
      .ok (keptFunding platform (hexEncode id.1) (hexEncode hash.1) userWallet wallet
        current.amountRaw current.expiresAtMs.toInt) := by
  have hlength := lengthBound_handedPayload id hash huser huserAta hwallet haccount hpositive
  rw [readFinalizePayload_url (by omega), ok_bind]
  exact validateFundingPayload_handed hsame id hash huser huserAta hwallet haccount hamount
    hpositive hsafe

end Handed

end SolFrontier.Web
