import SolFrontier.Foundation.Json
import SolFrontier.Foundation.Sha256
import SolFrontier.Foundation.Words
import SolFrontier.Types.Pubkey

/-! # Draft validation and the draft hash

A proposal is checked field by field into a draft; the draft's hash is taken
over its sorted compact JSON. Nothing is stored and nothing is called.
-/

namespace SolFrontier.Mcp

open Foundation Types

def minAmountRaw : UInt64 := 100000

def maxAmountRaw : UInt64 := 1000000

def expirySecondsAfterFinalize : UInt64 := 180

def maxThresholdBps : UInt32 := 10000

def controlledWalletBs58 : String := "BPfDMmeMBmCbMC1rWh7hwigMBoKGBrKwXxSeUu9hhs5L"

def controlledUsdcAtaBs58 : String := "7LFdKcSV7JQYi3or5y9phHVPjhGigu5DDjUakAFbBmk3"

theorem controlledUsdcAta_valid :
    (PubkeyBytes.fromBase58 controlledUsdcAtaBs58).toOption.isSome = true := by
  decide +kernel

def usdcDecimals : Nat := 6

def usdcRawPerWhole : Nat := 1000000

/-! ## Text helpers -/

/-- Drop white space at both ends. -/
def trimmed (text : String) : List Char :=
  ((text.toList.dropWhile isWhiteSpace).reverse.dropWhile isWhiteSpace).reverse

-- The trimmed parameters of a call stay symbolic in proofs about the call.
@[irreducible] def trim (text : String) : String := String.ofList (trimmed text)

/-- A text that names a key. The SDK's extra bound on the length of the text
rejects nothing that the byte count does not. -/
def pubkeyFromStr (text : String) : Option PubkeyBytes := (PubkeyBytes.fromBase58 text).toOption

@[simp] theorem pubkeyFromStr_toBase58 (key : PubkeyBytes) :
    pubkeyFromStr key.toBase58 = some key := by
  simp [pubkeyFromStr, Except.toOption]

theorem pubkeyFromStr_pinned {value : String}
    (hvalid : (PubkeyBytes.fromBase58 value).toOption.isSome = true) :
    pubkeyFromStr value = some (pinnedPubkey value hvalid) :=
  (Option.some_get hvalid).symm

/-- A text without white space is trimmed already. -/
theorem trim_of_forall {text : String} (hplain : ∀ char ∈ text.toList, isWhiteSpace char = false) :
    trim text = text := by
  have hdrop : ∀ chars : List Char, (∀ char ∈ chars, isWhiteSpace char = false) →
      chars.dropWhile isWhiteSpace = chars := by
    intro chars hchars
    cases chars with
    | nil => rfl
    | cons char rest =>
        rw [List.dropWhile_cons, if_neg (by simp [hchars char List.mem_cons_self])]
  have hback : ∀ char ∈ text.toList.reverse, isWhiteSpace char = false :=
    fun char hmem => hplain char (List.mem_reverse.mp hmem)
  rw [trim, trimmed, hdrop _ hplain, hdrop _ hback, List.reverse_reverse, String.ofList_toList]

theorem trim_hexEncode (bytes : List UInt8) : trim (hexEncode bytes) = hexEncode bytes := by
  apply trim_of_forall
  intro char hmem
  rw [hexEncode, String.toList_ofList, hexChars, List.mem_flatMap] at hmem
  obtain ⟨byte, _, hdigit⟩ := hmem
  have hbyte := byte.toNat_lt
  rcases List.mem_pair.mp hdigit with rfl | rfl
  · exact isWhiteSpace_hexDigit (by omega)
  · exact isWhiteSpace_hexDigit (by omega)

theorem trim_of_base58Decode {text : String} {bytes : List UInt8}
    (hdecode : base58Decode text = some bytes) : trim text = text := by
  obtain ⟨values, hvalues, _⟩ := Option.map_eq_some_iff.mp hdecode
  obtain ⟨hall, hchars⟩ := map_base58Char hvalues
  apply trim_of_forall
  intro char hmem
  rw [← hchars] at hmem
  obtain ⟨value, hvalue, rfl⟩ := List.mem_map.mp hmem
  exact isWhiteSpace_base58Char (hall value hvalue)
theorem trim_of_pubkeyFromStr {text : String} {key : PubkeyBytes}
    (hread : pubkeyFromStr text = some key) : trim text = text := by
  have hkey : PubkeyBytes.fromBase58 text = .ok key := by
    cases hparsed : PubkeyBytes.fromBase58 text with
    | ok parsed =>
        rw [pubkeyFromStr, hparsed] at hread
        exact congrArg Except.ok (Option.some.inj hread)
    | error error =>
        rw [pubkeyFromStr, hparsed] at hread
        cases hread
  rw [← PubkeyBytes.toBase58_of_fromBase58 hkey]
  exact trim_of_base58Decode (base58Decode_base58Encode _)

/-! ## Parameters -/

inductive DraftActionParam where
  | deposit
  deriving DecidableEq, Repr

inductive DraftProtocolParam where
  | solend
  deriving DecidableEq, Repr

inductive DraftAssetParam where
  | usdc
  deriving DecidableEq, Repr

inductive DraftDisplaySourceParam where
  | save
  deriving DecidableEq, Repr

inductive DraftComparisonParam where
  | gt
  deriving DecidableEq, Repr

def DraftActionParam.asStr : DraftActionParam → String
  | deposit => "deposit"

def DraftProtocolParam.asStr : DraftProtocolParam → String
  | solend => "solend"

def DraftAssetParam.asStr : DraftAssetParam → String
  | usdc => "USDC"

def DraftDisplaySourceParam.asStr : DraftDisplaySourceParam → String
  | save => "save"

def DraftComparisonParam.asStr : DraftComparisonParam → String
  | gt => "gt"

structure ProposeIntentParams where
  action : DraftActionParam
  protocol : DraftProtocolParam
  asset : DraftAssetParam
  displaySource : DraftDisplaySourceParam
  comparison : DraftComparisonParam
  amount : String
  thresholdBps : UInt32
  expirySecondsAfterFinalize : UInt64
  controlledWallet : String
  controlledUsdcAta : String
  originalUserMessage : String
  deriving DecidableEq, Repr

structure DraftIntent where
  action : String
  protocol : String
  asset : String
  displaySource : String
  comparison : String
  thresholdBps : UInt32
  amountRaw : UInt64
  expirySecondsAfterFinalize : UInt64
  controlledWallet : String
  controlledUsdcAta : String
  originalUserMessageHash : String
  deriving DecidableEq, Repr

/-! ## Errors -/

inductive AmountParseError where
  | empty
  | negative
  | invalidChar
  | multipleDots
  | tooManyDecimals
  | overflow
  | zero
  deriving DecidableEq, Repr

def AmountParseError.text : AmountParseError → String
  | empty => "amount is empty"
  | negative => "amount must be non-negative"
  | invalidChar => "amount contains non-decimal characters"
  | multipleDots => "amount has more than one decimal point"
  | tooManyDecimals => "amount has more than 6 decimal places"
  | overflow => "amount overflows u64 when scaled to raw units"
  | zero => "amount must be greater than zero"

inductive ProposeIntentError where
  | amountFormat (error : AmountParseError)
  | amountOutOfRange
  | thresholdOutOfRange
  | unsupportedExpiry
  | invalidControlledWallet
  | unsupportedControlledWallet
  | invalidControlledUsdcAta
  | unsupportedControlledUsdcAta
  | emptyOriginalUserMessage
  deriving DecidableEq, Repr

def ProposeIntentError.text : ProposeIntentError → String
  | amountFormat error => error.text
  | amountOutOfRange => "amount must be between 0.10 and 1.00 USDC"
  | thresholdOutOfRange => "threshold_bps must be in the inclusive range 1..=10000"
  | unsupportedExpiry => "expiry_seconds_after_finalize must be exactly 180"
  | invalidControlledWallet => "controlled_wallet must be a valid Solana public key"
  | unsupportedControlledWallet =>
      "controlled_wallet must equal the pinned bounded executor wallet"
  | invalidControlledUsdcAta => "controlled_usdc_ata must be a valid Solana public key"
  | unsupportedControlledUsdcAta =>
      "controlled_usdc_ata must equal the pinned bounded executor USDC ATA"
  | emptyOriginalUserMessage => "original_user_message must not be empty"

/-! ## Amounts -/

/-- The value of a string of decimal digits. -/
def digitsValue (digits : List Char) : Nat :=
  digits.foldl (fun value c => value * 10 + (c.toNat - 48)) 0

/-- `str::parse::<u64>` of a non-empty string of decimal digits. -/
def parseU64 (digits : List Char) : Option Nat :=
  if digitsValue digits < 2 ^ 64 then some (digitsValue digits) else none

/-- Scale the two halves of a decimal text to raw units. -/
def scaleToRaw (integerPart fractionalPart : List Char) : Except AmountParseError UInt64 := do
  let some integerValue := if integerPart.isEmpty then some 0 else parseU64 integerPart
    | .error .overflow
  let padded := fractionalPart ++ List.replicate (usdcDecimals - fractionalPart.length) '0'
  let some fractionalValue := parseU64 padded
    | .error .overflow
  let raw := integerValue * usdcRawPerWhole + fractionalValue
  if 2 ^ 64 ≤ raw then .error .overflow
  else if raw = 0 then .error .zero
  else .ok (UInt64.ofNat raw)

/-- Parse a decimal amount exactly, without floating point. -/
def parseUsdcAmountToRaw (value : String) : Except AmountParseError UInt64 :=
  let value := trimmed value
  if value.isEmpty then .error .empty
  else if value.head? = some '-' then .error .negative
  else if value.head? = some '+' then .error .invalidChar
  else
    match value.splitOn '.' with
    | [integerPart] =>
        if ¬ integerPart.all Char.isDigit then .error .invalidChar
        else scaleToRaw integerPart []
    | [integerPart, fractionalPart] =>
        if ¬ integerPart.all Char.isDigit then .error .invalidChar
        else if ¬ fractionalPart.all Char.isDigit then .error .invalidChar
        else if usdcDecimals < fractionalPart.length then .error .tooManyDecimals
        else scaleToRaw integerPart fractionalPart
    | _ => .error .multipleDots

/-! ## Drafts -/

def sha256Hex (value : String) : String := hexEncode (Sha256.digest (utf8Bytes value)).1

/-- Check every field of a proposal, in the order of its report. -/
def validateDraft (params : ProposeIntentParams) : Except ProposeIntentError DraftIntent := do
  let amountRaw ← (parseUsdcAmountToRaw params.amount).mapError .amountFormat
  if ¬ (minAmountRaw ≤ amountRaw ∧ amountRaw ≤ maxAmountRaw) then .error .amountOutOfRange
  else if ¬ (1 ≤ params.thresholdBps ∧ params.thresholdBps ≤ maxThresholdBps) then
    .error .thresholdOutOfRange
  else if params.expirySecondsAfterFinalize ≠ expirySecondsAfterFinalize then
    .error .unsupportedExpiry
  else if (pubkeyFromStr params.controlledWallet).isNone then .error .invalidControlledWallet
  else if params.controlledWallet ≠ controlledWalletBs58 then .error .unsupportedControlledWallet
  else if (pubkeyFromStr params.controlledUsdcAta).isNone then .error .invalidControlledUsdcAta
  else if params.controlledUsdcAta ≠ controlledUsdcAtaBs58 then
    .error .unsupportedControlledUsdcAta
  else if (trimmed params.originalUserMessage).isEmpty then .error .emptyOriginalUserMessage
  else
    .ok
      { action := params.action.asStr
        protocol := params.protocol.asStr
        asset := params.asset.asStr
        displaySource := params.displaySource.asStr
        comparison := params.comparison.asStr
        thresholdBps := params.thresholdBps
        amountRaw
        expirySecondsAfterFinalize := params.expirySecondsAfterFinalize
        controlledWallet := params.controlledWallet
        controlledUsdcAta := params.controlledUsdcAta
        originalUserMessageHash := sha256Hex params.originalUserMessage }

/-- The hashed form of a draft. -/
structure CanonicalDraftPreimage where
  action : String
  amountRaw : String
  asset : String
  comparison : String
  controlledUsdcAta : String
  controlledWallet : String
  displaySource : String
  expirySecondsAfterFinalize : UInt64
  originalUserMessageHash : String
  protocol : String
  thresholdBps : UInt32
  deriving DecidableEq, Repr

def DraftIntent.canonicalPreimage (draft : DraftIntent) : CanonicalDraftPreimage where
  action := draft.action
  amountRaw := toString draft.amountRaw
  asset := draft.asset
  comparison := draft.comparison
  controlledUsdcAta := draft.controlledUsdcAta
  controlledWallet := draft.controlledWallet
  displaySource := draft.displaySource
  expirySecondsAfterFinalize := draft.expirySecondsAfterFinalize
  originalUserMessageHash := draft.originalUserMessageHash
  protocol := draft.protocol
  thresholdBps := draft.thresholdBps

def CanonicalDraftPreimage.toJson (preimage : CanonicalDraftPreimage) : Json :=
  .object
    [("action", .string preimage.action),
     ("amount_raw", .string preimage.amountRaw),
     ("asset", .string preimage.asset),
     ("comparison", .string preimage.comparison),
     ("controlled_usdc_ata", .string preimage.controlledUsdcAta),
     ("controlled_wallet", .string preimage.controlledWallet),
     ("display_source", .string preimage.displaySource),
     ("expiry_seconds_after_finalize", .number preimage.expirySecondsAfterFinalize.toNat),
     ("original_user_message_hash", .string preimage.originalUserMessageHash),
     ("protocol", .string preimage.protocol),
     ("threshold_bps", .number preimage.thresholdBps.toNat)]

/-- Sorted compact JSON, UTF-8, SHA-256, lower-case hex. -/
def computeDraftHash (preimage : CanonicalDraftPreimage) : String :=
  sha256Hex preimage.toJson.render

def validateAndHashDraft (params : ProposeIntentParams) :
    Except ProposeIntentError (DraftIntent × String) := do
  let draft ← validateDraft params
  .ok (draft, computeDraftHash draft.canonicalPreimage)

/-- What a validated draft is known to satisfy. -/
structure DraftIntent.Validated (draft : DraftIntent) : Prop where
  action : draft.action = "deposit"
  protocol : draft.protocol = "solend"
  asset : draft.asset = "USDC"
  displaySource : draft.displaySource = "save"
  comparison : draft.comparison = "gt"
  amount : minAmountRaw ≤ draft.amountRaw ∧ draft.amountRaw ≤ maxAmountRaw
  threshold : 1 ≤ draft.thresholdBps ∧ draft.thresholdBps ≤ maxThresholdBps
  expiry : draft.expirySecondsAfterFinalize = 180
  wallet : draft.controlledWallet = controlledWalletBs58
  ata : draft.controlledUsdcAta = controlledUsdcAtaBs58

theorem validated_of_ok {params : ProposeIntentParams} {draft : DraftIntent}
    (hdraft : validateDraft params = .ok draft) : draft.Validated := by
  unfold validateDraft at hdraft
  cases hamount : (parseUsdcAmountToRaw params.amount).mapError ProposeIntentError.amountFormat with
  | error e =>
      rw [hamount] at hdraft
      cases hdraft
  | ok amountRaw =>
      rw [hamount] at hdraft
      simp only [bind, Except.bind] at hdraft
      split at hdraft
      · cases hdraft
      next hrange =>
      split at hdraft
      · cases hdraft
      next hthreshold =>
      split at hdraft
      · cases hdraft
      next hexpiry =>
      split at hdraft
      · cases hdraft
      split at hdraft
      · cases hdraft
      next hwallet =>
      split at hdraft
      · cases hdraft
      split at hdraft
      · cases hdraft
      next hata =>
      split at hdraft
      · cases hdraft
      obtain rfl := Except.ok.inj hdraft
      rw [not_not] at hrange hthreshold hexpiry hwallet hata
      exact
        { action := by cases params.action; rfl
          protocol := by cases params.protocol; rfl
          asset := by cases params.asset; rfl
          displaySource := by cases params.displaySource; rfl
          comparison := by cases params.comparison; rfl
          amount := hrange
          threshold := hthreshold
          expiry := hexpiry
          wallet := hwallet
          ata := hata }

end SolFrontier.Mcp
