import SolFrontier.Foundation.JsonText
import SolFrontier.Foundation.UrlText
import SolFrontier.Types.Pubkey

/-! # The payload of the signing page

The page takes its instructions from the fragment of its own address: one form
parameter with a JSON text. It checks every field before it shows a button.
-/

namespace SolFrontier.Web

open Foundation Types

/-- What the page uses of the vendored web3 library beside its data types. -/
structure SolanaWeb3 where
  /-- The address derived from seeds under a program, if a bump is found. -/
  findProgramAddressSync : List (List UInt8) → PubkeyBytes → Option PubkeyBytes

/-! ## Constants -/

def tokenProgramIdText : String := "TokenkegQfeZyiNwAJbNbGKPFXCWuBvf9Ss623VQ5DA"

def associatedTokenProgramIdText : String := "ATokenGPvbdGVxr1b2hvZbsiqW5xWH25efTNsLJA8knL"

def memoProgramIdText : String := "MemoSq4gqABAXKb96qnH8TysNcWxMyWCqXgDLGmfcHr"

def usdcMintText : String := "EPjFWdd5AufqSSqeM2qN1xzybapC8G4wEGGkZwyTDt1v"

def maxU64 : Nat := 18446744073709551615

def expectedOrder : List String := ["memo", "transfer_checked"]

def tokenProgramId : PubkeyBytes := pinnedPubkey tokenProgramIdText (by decide +kernel)

def associatedTokenProgramId : PubkeyBytes :=
  pinnedPubkey associatedTokenProgramIdText (by decide +kernel)

/-! ## The fragment -/

/-- The length of a text in UTF-16 code units. -/
def utf16Length (text : String) : Nat :=
  (text.toList.map fun c => if c.toNat < 65536 then 1 else 2).sum

/-- Characters that a browser writes by their code inside a fragment. -/
def isFragmentEncoded (c : Char) : Bool :=
  c.toNat < 32 || 126 < c.toNat || c = ' ' || c = '"' || c = '<' || c = '>' || c.toNat = 96

/-- `window.location.hash` on a page with this address. -/
def locationHash (url : String) : String :=
  let fragment := (url.toList.dropWhile (· ≠ '#')).tail
  if fragment = [] then ""
  else
    "#" ++ String.join (fragment.map fun c =>
      if isFragmentEncoded c then percentEncode (fun _ => false) (String.singleton c)
      else String.singleton c)

/-- The payload in the fragment: its only parameter, and a JSON object. -/
def readFinalizePayload (hash : String) : Except String JsonValue :=
  let rawFragment := String.ofList (hash.toList.drop 1)
  if rawFragment = "" then .error "fragment_missing"
  else if 131072 < utf16Length rawFragment then .error "fragment_too_large"
  else
    let params := formParameters rawFragment
    let values := (params.filter fun param => param.1 = "payload").map Prod.snd
    if params.length ≠ 1 ∨ params.head?.map Prod.fst ≠ some "payload" ∨ values.length ≠ 1 then
      .error "fragment_payload_invalid"
    else
      match values.head?.bind JsonText.parse with
      | some (.object members) => .ok (.object members)
      | _ => .error "fragment_payload_invalid"

/-! ## Field checks -/

def requireString (value : Option JsonValue) (field : String) : Except String String :=
  match value with
  | some (.string text) => if text = "" then .error ("invalid_" ++ field) else .ok text
  | _ => .error ("invalid_" ++ field)

def requirePublicKey (value : Option JsonValue) (field : String) : Except String PubkeyBytes := do
  let text ← requireString value field
  match PubkeyBytes.fromBase58 text with
  | .ok key => .ok key
  | .error _ => .error ("invalid_" ++ field)

def requireSafeEpochMs : Option JsonValue → Except String Int
  | some (.number (.finite value)) =>
      if ¬ (Double.finite value).isSafeInteger ∨ value ≤ 0 then .error "invalid_expires_at_ms"
      else .ok value.num
  | _ => .error "invalid_expires_at_ms"

def parseAmountRaw : Option JsonValue → Except String Nat
  | some (.string value) =>
      if value = "" ∨ ¬ value.toList.all Char.isDigit then .error "invalid_amount_raw"
      else
        let amount := Nat.ofDigitChars 10 value.toList 0
        if amount = 0 ∨ maxU64 < amount then .error "invalid_amount_raw" else .ok amount
  | _ => .error "invalid_amount_raw"

def requireDecimals : Option JsonValue → Except String UInt8
  | some (.number (.finite value)) =>
      if ¬ (Double.finite value).isInteger ∨ value < 0 ∨ 255 < value then
        .error "invalid_decimals"
      else .ok (UInt8.ofNat value.num.toNat)
  | _ => .error "invalid_decimals"

/-- `/^[0-9a-f]{n}$/`. -/
def isLowerHexText (length : Nat) (text : String) : Bool :=
  text.toList.length = length ∧ text.toList.all fun c => c.isDigit || ('a' ≤ c && c ≤ 'f')

/-- The address of a wallet's token account, or the error of a failed search. -/
def deriveAta (web3 : SolanaWeb3) (owner mint tokenProgram associatedProgram : PubkeyBytes) :
    Except String PubkeyBytes :=
  match web3.findProgramAddressSync [owner.bytes.1, tokenProgram.bytes.1, mint.bytes.1]
      associatedProgram with
  | some address => .ok address
  | none => .error "Unable to find a viable program address nonce"

/-! ## The whole payload -/

/-- What the page keeps of a payload it accepts. -/
structure ParsedFunding where
  intentId : String
  ruleHash : String
  userWallet : PubkeyBytes
  userAta : PubkeyBytes
  controlledWallet : PubkeyBytes
  controlledAta : PubkeyBytes
  mint : PubkeyBytes
  memoProgramId : PubkeyBytes
  tokenProgramId : PubkeyBytes
  amount : Nat
  decimals : UInt8
  expiresAtMs : Int
  memo : String
  instructionOrder : List String
  deriving DecidableEq

/-- `left ?? right` over two properties. -/
def nullish (left right : Option JsonValue) : Option JsonValue :=
  match left with
  | none | some .null => right
  | left => left

/-- `value === expected` for a boolean. -/
def isBool (value : Option JsonValue) (expected : Bool) : Bool :=
  match value with
  | some (.bool value) => value = expected
  | _ => false

/-- `value === expected` for a string. -/
def isText (value : Option JsonValue) (expected : String) : Bool :=
  value.bind JsonValue.string? = some expected

/-- The order of the instructions, which must be the expected one. -/
def requireInstructionOrder (value : Option JsonValue) : Except String (List String) :=
  match value with
  | some (.array order) =>
      if order.map JsonValue.string? ≠ expectedOrder.map some then
        .error "invalid_instruction_order"
      else .ok (order.filterMap JsonValue.string?)
  | _ => .error "invalid_instruction_order"

/-- A key that must be one of the pinned ones. -/
def requirePinned (value : Option JsonValue) (field pinned error : String) :
    Except String PubkeyBytes := do
  let key ← requirePublicKey value field
  if key.toBase58 ≠ pinned then .error error else .ok key

/-- The token account of an owner must be the derived one. -/
def requireAta (web3 : SolanaWeb3) (owner mint account : PubkeyBytes) (error : String) :
    Except String Unit := do
  let derived ← deriveAta web3 owner mint tokenProgramId associatedTokenProgramId
  if derived ≠ account then .error error else .ok ()

/-- The status checks: the handoff is for an actionable payment. -/
def requireActionable (payload : JsonValue) : Except String Unit :=
  if isText (payload.get "status") "rule_unconfirmed" then .error "rule_unconfirmed"
  else if ¬ isText (payload.get "status") "funding_required" then .error "invalid_funding_status"
  else if ¬ isBool (payload.get "funding_actionable") true then .error "funding_not_actionable"
  else
    let signing := (payload.get "signing").getD .null
    if isBool (signing.get "required") false ∨ isBool (signing.get "performed_by_server") true then
      .error "signing_not_actionable"
    else .ok ()

def validateFundingPayload (web3 : SolanaWeb3) (payload : JsonValue) :
    Except String ParsedFunding := do
  requireActionable payload
  match payload.get "funding" with
  | some (.object members) =>
      let funding := JsonValue.object members
      let intentId ← requireString (payload.get "intent_id") "intent_id"
      let ruleHash ← requireString (payload.get "rule_hash") "rule_hash"
      if ¬ isLowerHexText 32 intentId ∨ ¬ isLowerHexText 64 ruleHash then
        .error "invalid_canonical_identity"
      else
        let instructionOrder ← requireInstructionOrder (funding.get "instruction_order")
        let userWallet ← requirePublicKey (funding.get "user_wallet") "user_wallet"
        let userAta ← requirePublicKey (funding.get "user_usdc_ata") "user_usdc_ata"
        let controlledWallet ← requirePublicKey (funding.get "controlled_wallet")
          "controlled_wallet"
        let controlledAta ← requirePublicKey (funding.get "controlled_usdc_ata")
          "controlled_usdc_ata"
        let mint ← requirePinned (funding.get "mint") "mint" usdcMintText "unsupported_mint"
        let memoProgramId ← requirePinned (funding.get "memo_program_id") "memo_program_id"
          memoProgramIdText "unsupported_memo_program"
        requireAta web3 userWallet mint userAta "user_ata_mismatch"
        requireAta web3 controlledWallet mint controlledAta "controlled_ata_mismatch"
        let expiresAtMs ← requireSafeEpochMs
          (nullish (funding.get "expires_at_ms") (payload.get "expires_at_ms"))
        let memo ← requireString (funding.get "memo") "memo"
        let amount ← parseAmountRaw (funding.get "amount_raw")
        let decimals ← requireDecimals (funding.get "decimals")
        .ok
          { intentId
            ruleHash
            userWallet
            userAta
            controlledWallet
            controlledAta
            mint
            memoProgramId
            tokenProgramId
            amount
            decimals
            expiresAtMs
            memo
            instructionOrder }
  | _ => .error "funding_missing"

end SolFrontier.Web
