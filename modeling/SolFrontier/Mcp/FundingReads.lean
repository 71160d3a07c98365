import SolFrontier.Mcp.Funding

/-! # Reading a transaction the node has parsed

The node answers with its own reading of a transaction. From that answer the
tool keeps the minimal proof that its verification looks at.
-/

namespace SolFrontier.Mcp

open Foundation Types

def tokenProgramIdBs58 : String := "TokenkegQfeZyiNwAJbNbGKPFXCWuBvf9Ss623VQ5DA"

/-! ## JSON accessors -/

def asStr : Json → Option String
  | .string value => some value
  | _ => none

def asArray : Json → Option (List Json)
  | .array items => some items
  | _ => none

def asBool : Json → Option Bool
  | .bool value => some value
  | _ => none

def asU64 : Json → Option UInt64
  | .number value => if 0 ≤ value ∧ value < 2 ^ 64 then some (UInt64.ofNat value.toNat) else none
  | _ => none

def asI64 : Json → Option Int64
  | .number value => if -2 ^ 63 ≤ value ∧ value < 2 ^ 63 then some (Int64.ofInt value) else none
  | _ => none

def isNull : Json → Bool
  | .null => true
  | _ => false

/-- `str::parse::<u64>`: decimal digits, and one plus sign in front is allowed. -/
def parseAmount (text : String) : Option UInt64 :=
  let digits := if text.toList.head? = some '+' then text.toList.tail else text.toList
  if digits = [] ∨ ¬ digits.all Char.isDigit then none
  else
    let value := Nat.ofDigitChars 10 digits 0
    if value < 2 ^ 64 then some (UInt64.ofNat value) else none

/-- `u8::try_from`. -/
def toU8 (value : UInt64) : Option UInt8 := if value < 256 then some value.toUInt8 else none

/-! ## The answer -/

/-- A field that must be there. -/
def required {α : Type} (value : Option α) : Except FundingReadError α :=
  match value with
  | some value => .ok value
  | none => .error .responseDecodeFailed

def requiredString (value : Json) (field : String) : Except FundingReadError String :=
  required ((value.get field).bind asStr)

/-- The amount and the decimals of a token amount. -/
def parseTokenAmount (tokenAmount : Json) : Except FundingReadError (UInt64 × UInt8) := do
  let amountRaw ← required (((tokenAmount.get "amount").bind asStr).bind parseAmount)
  let decimals ← required (((tokenAmount.get "decimals").bind asU64).bind toU8)
  pure (amountRaw, decimals)

/-- A key and whether it signed: by its own flag, or by its position. -/
def parseAccountKey (requiredSignatures : UInt64) (value : Json) (index : Nat) :
    Except FundingReadError (String × Bool) :=
  match value with
  | .string pubkey => .ok (pubkey, index < requiredSignatures.toNat)
  | value => do
      let pubkey ← requiredString value "pubkey"
      let signer ← required ((value.get "signer").bind asBool)
      pure (pubkey, signer)

/-- Keys that a node lists apart from the message. -/
def parseLoadedAddresses (loaded : Json) : Except FundingReadError (List String) := do
  let entries := ["writable", "readonly"].flatMap fun field =>
    ((loaded.get field).bind asArray).getD []
  entries.mapM fun entry => required (asStr entry)

def parseAccountKeys (message accountMeta : Json) :
    Except FundingReadError (List String × List String) := do
  let values ← required ((message.get "accountKeys").bind asArray)
  let requiredSignatures :=
    (((message.get "header").bind (Json.get · "numRequiredSignatures")).bind asU64).getD 0
  let keys ← values.zipIdx.mapM fun (value, index) => parseAccountKey requiredSignatures value index
  let signers := (keys.filter Prod.snd).map Prod.fst
  let loaded ←
    match accountMeta.get "loadedAddresses" with
    | some loaded =>
        if values.all fun value => (asStr value).isSome then parseLoadedAddresses loaded else pure []
    | none => pure []
  pure (keys.map Prod.fst ++ loaded, signers)

/-- The memo or the transfer of one instruction; any other is passed over. -/
def parseOuterInstruction (instruction : Json) :
    Except FundingReadError (Option String × Option ObservedTransferChecked) :=
  match (instruction.get "programId").bind asStr with
  | none => .ok (none, none)
  | some programId =>
      if programId = memoProgramIdBs58 then .ok ((instruction.get "parsed").bind asStr, none)
      else if programId ≠ tokenProgramIdBs58 then .ok (none, none)
      else
        match instruction.get "parsed" with
        | none => .ok (none, none)
        | some parsed =>
            if (parsed.get "type").bind asStr ≠ some "transferChecked" then .ok (none, none)
            else do
              let info ← required (parsed.get "info")
              let tokenAmount ← required (info.get "tokenAmount")
              let (amountRaw, decimals) ← parseTokenAmount tokenAmount
              let source ← requiredString info "source"
              let mint ← requiredString info "mint"
              let destination ← requiredString info "destination"
              let authority ← requiredString info "authority"
              pure (none, some { source, mint, destination, authority, amountRaw, decimals })

def parseOuterInstructions (message : Json) :
    Except FundingReadError (List String × List ObservedTransferChecked) := do
  let instructions ← required ((message.get "instructions").bind asArray)
  let parsed ← instructions.mapM parseOuterInstruction
  pure (parsed.filterMap Prod.fst, parsed.filterMap Prod.snd)

def parseTokenBalance (accountKeys : List String) (balance : Json) :
    Except FundingReadError ObservedTokenBalance := do
  let accountIndex ← required ((balance.get "accountIndex").bind asU64)
  let account ← required accountKeys[accountIndex.toNat]?
  let tokenAmount ← required (balance.get "uiTokenAmount")
  let (amountRaw, decimals) ← parseTokenAmount tokenAmount
  let mint ← requiredString balance "mint"
  let owner ← requiredString balance "owner"
  pure { account, mint, owner, amountRaw, decimals }

def parseTokenBalances (balances : Option Json) (accountKeys : List String) :
    Except FundingReadError (List ObservedTokenBalance) :=
  match balances.bind asArray with
  | none => .ok []
  | some balances => balances.mapM (parseTokenBalance accountKeys)

/-- `blockTime` in milliseconds, if the node knows it. -/
def parseBlockTime (blockTime : Option Json) : Except FundingReadError (Option Int64) :=
  match blockTime with
  | none | some .null => .ok none
  | some value =>
      match asI64 value with
      | some seconds =>
          if 0 ≤ seconds.toInt ∧ seconds.toInt * 1000 < 2 ^ 63 then .ok (some (seconds * 1000))
          else .error .responseDecodeFailed
      | none => .error .responseDecodeFailed

def parseJsonParsedTransaction (result : Json) (confirmation : ConfirmationLevel) :
    Except FundingReadError ObservedFundingTransaction := do
  let slot ← required ((result.get "slot").bind asU64)
  let blockTimeMs ← parseBlockTime (result.get "blockTime")
  let transaction ← required (result.get "transaction")
  let message ← required (transaction.get "message")
  let accountMeta ← required (result.get "meta")
  let (accountKeys, signerPubkeys) ← parseAccountKeys message accountMeta
  let (memos, transferChecked) ← parseOuterInstructions message
  let preTokenBalances ← parseTokenBalances (accountMeta.get "preTokenBalances") accountKeys
  let postTokenBalances ← parseTokenBalances (accountMeta.get "postTokenBalances") accountKeys
  pure
    { slot
      blockTimeMs
      confirmation
      succeeded := (accountMeta.get "err").elim false isNull
      signerPubkeys
      memos
      transferChecked
      preTokenBalances
      postTokenBalances }

end SolFrontier.Mcp
