import SolFrontier.Mcp.Sidecar

/-! # Intent status

A status query names an intent by its UUID or by its canonical rule hash. A hash
goes through the derived index of the sidecar, and what the index answers is
checked against the main store before it is used.
-/

namespace SolFrontier.Mcp.Status

open Foundation Program Types StateStore Sidecar

/-! ## References -/

def isAsciiHexdigit (byte : UInt8) : Bool :=
  (48 ≤ byte ∧ byte ≤ 57) ∨ (97 ≤ byte ∧ byte ≤ 102) ∨ (65 ≤ byte ∧ byte ≤ 70)

/-- `u8::to_ascii_lowercase`. -/
def toAsciiLowercase (byte : UInt8) : UInt8 := if 65 ≤ byte ∧ byte ≤ 90 then byte + 32 else byte

/-- The text of ASCII bytes. -/
def asciiText (bytes : List UInt8) : String :=
  String.ofList (bytes.map fun byte => Char.ofNat byte.toNat)

structure ResolvedIntentRef where
  intentId : String
  ruleId : Bytes 16
  deriving DecidableEq, Repr

inductive UnsupportedIntentRef where
  | canonicalHashUnavailable
  | canonicalHashInconsistent
  | invalidFormat
  deriving DecidableEq, Repr

/-- Hyphens at their four places, digits elsewhere; from an index on. -/
def hasUuidHyphens (index : Nat) : List UInt8 → Bool
  | [] => true
  | byte :: rest =>
      (if index = 8 ∨ index = 13 ∨ index = 18 ∨ index = 23 then byte = 45
      else isAsciiHexdigit byte) && hasUuidHyphens (index + 1) rest

def hexNibble (byte : UInt8) : Except UnsupportedIntentRef UInt8 :=
  if 48 ≤ byte ∧ byte ≤ 57 then .ok (byte - 48)
  else if 97 ≤ byte ∧ byte ≤ 102 then .ok (byte - 97 + 10)
  else if 65 ≤ byte ∧ byte ≤ 70 then .ok (byte - 65 + 10)
  else .error .invalidFormat

/-- The bytes that pairs of digits stand for. -/
def ruleIdBytes : List UInt8 → Except UnsupportedIntentRef (List UInt8)
  | high :: low :: rest => do
      let byte := (← hexNibble high) <<< 4 ||| (← hexNibble low)
      let bytes ← ruleIdBytes rest
      .ok (byte :: bytes)
  | _ => .ok []

/-- A reference by UUID, compact or hyphenated. -/
def resolveUuidRef (intentRef : String) : Except UnsupportedIntentRef ResolvedIntentRef := do
  let candidate := utf8Bytes (trim intentRef)
  let compact ←
    if candidate.length = 32 ∧ candidate.all isAsciiHexdigit then .ok candidate
    else if candidate.length = 36 ∧ hasUuidHyphens 0 candidate then
      .ok (candidate.filter (· ≠ 45))
    else .error .invalidFormat
  if !compact.all isAsciiHexdigit then .error .invalidFormat
  else
    let ruleId ← ruleIdBytes compact
    -- Sixteen pairs remain in either form.
    if h : ruleId.length = 16 then
      .ok { intentId := asciiText (compact.map toAsciiLowercase), ruleId := ⟨ruleId, h⟩ }
    else .error .invalidFormat

/-- The lower-case hash of a reference by 64 digits. -/
def canonicalHashRef (intentRef : String) : Option String :=
  let candidate := utf8Bytes (trim intentRef)
  if candidate.length = 64 ∧ candidate.all isAsciiHexdigit then
    some (asciiText (candidate.map toAsciiLowercase))
  else none

/-! ## Responses -/

structure IntentStatusResponse where
  intentRef : String
  status : String
  isTerminal : Bool
  message : Option String
  source : Option String
  resolvedIntentId : Option String
  canonicalRuleHash : Option String
  watchRuleStatus : Option String
  amountRaw : Option UInt64
  inputMint : Option String
  outputMint : Option String
  createdAtMs : Option Int64
  expiresAtMs : Option Int64
  updatedAtMs : Option Int64
  createdAtSlot : Option UInt64
  expiresAtSlot : Option UInt64
  deriving DecidableEq, Repr

def actionMints (rule : StoredWatchRule) : Option String × Option String :=
  match rule.rule.action with
  | .jupiterBuySolWithUsdc action => (some action.inputMint.toBase58, some action.outputMint.toBase58)
  | .solendDeposit action => (some action.inputMint.toBase58, none)
  | .solendWithdrawAllDelegated _ => (none, none)

def fundingResponse (intentRef : String) (resolved : ResolvedIntentRef) (intent : W5hFundingIntent)
    (watchRule : Option StoredWatchRule) : IntentStatusResponse :=
  let mints := (watchRule.map actionMints).getD (none, none)
  { intentRef
    status := intent.status.asStr
    isTerminal := intent.status.isTerminal
    message := none
    source := some "w5h_funding_intent"
    resolvedIntentId := some resolved.intentId
    canonicalRuleHash := some intent.canonicalRuleHashHex
    watchRuleStatus := watchRule.map fun rule => rule.status.asStr
    amountRaw := some intent.amountRaw
    inputMint := mints.1
    outputMint := mints.2
    createdAtMs := some intent.createdAtMs
    expiresAtMs := some intent.expiresAtMs
    updatedAtMs := some intent.updatedAtMs
    createdAtSlot := watchRule.map fun rule => rule.rule.createdAtSlot
    expiresAtSlot := watchRule.map fun rule => rule.rule.expiresAtSlot }

def watchRuleResponse (intentRef : String) (resolved : ResolvedIntentRef)
    (rule : StoredWatchRule) : IntentStatusResponse :=
  let mints := actionMints rule
  let status := rule.status.asStr
  { intentRef
    status
    isTerminal := ["completed", "expired", "revoked", "failed"].contains status
    message := some "watch rule exists, but no W5h funding intent is stored for this UUID"
    source := some "watch_rule"
    resolvedIntentId := some resolved.intentId
    canonicalRuleHash := some (hexEncode rule.canonicalRuleHash.1)
    watchRuleStatus := some status
    amountRaw := some rule.rule.maxInputAmountRaw
    inputMint := mints.1
    outputMint := mints.2
    createdAtMs := some rule.createdAtMs
    expiresAtMs := none
    updatedAtMs := some rule.updatedAtMs
    createdAtSlot := some rule.rule.createdAtSlot
    expiresAtSlot := some rule.rule.expiresAtSlot }

/-- A response with nothing but its status. -/
def bareResponse (intentRef status : String) (message resolvedIntentId : Option String) :
    IntentStatusResponse where
  intentRef
  status
  isTerminal := false
  message
  source := none
  resolvedIntentId
  canonicalRuleHash := none
  watchRuleStatus := none
  amountRaw := none
  inputMint := none
  outputMint := none
  createdAtMs := none
  expiresAtMs := none
  updatedAtMs := none
  createdAtSlot := none
  expiresAtSlot := none

def notFoundResponse (intentRef : String) (resolved : ResolvedIntentRef) : IntentStatusResponse :=
  bareResponse intentRef "not_found" none (some resolved.intentId)

def UnsupportedIntentRef.message : UnsupportedIntentRef → String
  | canonicalHashUnavailable =>
      "canonical hash lookup is unavailable because the derived MCP sidecar " ++
        "is missing, unreadable, or has no mapping; use the intent UUID"
  | canonicalHashInconsistent =>
      "canonical hash lookup was rejected because the derived mapping did " ++
        "not revalidate against the authoritative state-store repositories; use the intent UUID"
  | invalidFormat =>
      "unsupported intent_ref format; use the intent UUID (hyphenated or " ++
        "32-character hex) or a 64-character canonical rule hash"

def unsupportedResponse (intentRef : String) (reason : UnsupportedIntentRef) :
    IntentStatusResponse :=
  bareResponse intentRef "unsupported_ref" (some reason.message) none

def projectStatus (intentRef : String) (resolved : ResolvedIntentRef)
    (fundingIntent : Option W5hFundingIntent) (watchRule : Option StoredWatchRule) :
    IntentStatusResponse :=
  match fundingIntent, watchRule with
  | some intent, rule => fundingResponse intentRef resolved intent rule
  | none, some rule => watchRuleResponse intentRef resolved rule
  | none, none => notFoundResponse intentRef resolved

/-! ## The query -/

/-- The mapping leads to a rule of that hash, whose funding row, if any, carries
the same identity. -/
def canonicalMappingMatchesMainStore (expectedHash : String) (resolved : ResolvedIntentRef)
    (fundingIntent : Option W5hFundingIntent) (watchRule : Option StoredWatchRule) : Bool :=
  match watchRule with
  | none => false
  | some rule =>
      if rule.rule.ruleId ≠ resolved.ruleId ∨ hexEncode rule.rule.ruleId.1 ≠ resolved.intentId ∨
          hexEncode rule.canonicalRuleHash.1 ≠ expectedHash ∨
          hexEncode (canonicalRuleHash rule.rule).1 ≠ expectedHash then false
      else
        fundingIntent.all fun intent =>
          intent.intentId = resolved.intentId ∧ intent.ruleIdHex = resolved.intentId ∧
            eqIgnoreAsciiCase intent.canonicalRuleHashHex expectedHash

/-- Every await of a query. -/
inductive StatusOp where
  | sidecar (op : SidecarOp Unit)
  | getFunding (intentId : String)
  | getRule (ruleId : Bytes 16)
  deriving DecidableEq, Repr

abbrev StatusOp.Answer : StatusOp → Type
  | sidecar op => op.Answer
  | getFunding _ => Except StoreError (Option W5hFundingIntent)
  | getRule _ => Except StoreError (Option StoredWatchRule)

abbrev statusFace : Interface := ⟨StatusOp, StatusOp.Answer⟩

def ask (op : StatusOp) : Program statusFace op.Answer := @perform statusFace op

@[simp] theorem ask_bind {α : Type} (op : StatusOp) (rest : op.Answer → Program statusFace α) :
    (ask op >>= rest) = .call op rest := rfl

def lookupHash (canonicalRuleHash : String) : Program statusFace HashLookup :=
  (Sidecar.lookupHash () canonicalRuleHash).embed StatusOp.sidecar fun _ answer => answer

/-- Read both rows of a resolved reference and report on them. -/
def answerResolved (intentRef : String) (canonicalHash : Option String)
    (resolved : ResolvedIntentRef) : Program statusFace (Except StoreError IntentStatusResponse) := do
  match ← ask (.getFunding resolved.intentId) with
  | .error error => pure (.error error)
  | .ok fundingIntent =>
      match ← ask (.getRule resolved.ruleId) with
      | .error error => pure (.error error)
      | .ok watchRule =>
          if canonicalHash.all fun hash =>
              canonicalMappingMatchesMainStore hash resolved fundingIntent watchRule then
            pure (.ok (projectStatus intentRef resolved fundingIntent watchRule))
          else pure (.ok (unsupportedResponse intentRef .canonicalHashInconsistent))

def queryIntentStatus (intentRef : String) :
    Program statusFace (Except StoreError IntentStatusResponse) :=
  match canonicalHashRef intentRef with
  | some hash => do
      match ← lookupHash hash with
      | .found intentId =>
          match resolveUuidRef intentId with
          | .ok resolved => answerResolved intentRef (some hash) resolved
          | .error _ => pure (.ok (unsupportedResponse intentRef .canonicalHashInconsistent))
      | .missing | .unavailable =>
          pure (.ok (unsupportedResponse intentRef .canonicalHashUnavailable))
  | none =>
      match resolveUuidRef intentRef with
      | .ok resolved => answerResolved intentRef none resolved
      | .error reason => pure (.ok (unsupportedResponse intentRef reason))

/-- The main store that a query reads. -/
structure MainStore where
  json : RuleJson
  funding : W5hFundingTable
  rules : WatchRuleTable

/-- The sidecar may answer anything; the store answers from its rows, or fails. -/
def statusStep : Semantics statusFace MainStore
  | store, ⟨.sidecar _, _⟩, after => after = store
  | store, ⟨.getFunding intentId, answer⟩, after =>
      (answer = store.funding.lookup intentId ∨ ∃ error, answer = .error error) ∧ after = store
  | store, ⟨.getRule ruleId, answer⟩, after =>
      (answer = store.rules.lookup store.json ruleId ∨ ∃ error, answer = .error error) ∧
        after = store

end SolFrontier.Mcp.Status
