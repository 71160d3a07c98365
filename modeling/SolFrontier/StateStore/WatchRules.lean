import SolFrontier.Foundation.Repository
import SolFrontier.StateStore.Errors
import SolFrontier.Types.WatchRule

/-! # Stored watch rules

Durable storage for delegated conditional orders. A row holds the rule as JSON
together with columns that repeat parts of it; reading a row back recomputes
the rule's hash and fails on any drift. Only the JSON text comes from outside
the repository, so printing and parsing it is a parameter with its round trip.
-/

namespace SolFrontier.StateStore

open Foundation Types

inductive WatchRuleStatus where
  | active
  | conditionMet
  | executing
  | completed
  | expired
  | revoked
  | failed
  deriving DecidableEq, Repr

namespace WatchRuleStatus

def asStr : WatchRuleStatus → String
  | active => "active"
  | conditionMet => "condition_met"
  | executing => "executing"
  | completed => "completed"
  | expired => "expired"
  | revoked => "revoked"
  | failed => "failed"

def parse (s : String) : Option WatchRuleStatus :=
  if s = "active" then some active
  else if s = "condition_met" then some conditionMet
  else if s = "executing" then some executing
  else if s = "completed" then some completed
  else if s = "expired" then some expired
  else if s = "revoked" then some revoked
  else if s = "failed" then some failed
  else none

@[simp] theorem parse_asStr (status : WatchRuleStatus) : parse status.asStr = some status := by
  cases status <;> decide

end WatchRuleStatus

/-- How a rule is printed as JSON and parsed back. -/
structure RuleJson where
  print : WatchRule → String
  parse : String → Option WatchRule
  parse_print : ∀ rule, WatchRule.codec.valid rule → parse (print rule) = some rule

/-- A persisted rule with its lifecycle metadata. -/
structure StoredWatchRule where
  rule : WatchRule
  canonicalRuleHash : Bytes 32
  canonicalRuleBytes : List UInt8
  status : WatchRuleStatus
  actionType : WatchRuleActionType
  conditionLogic : ConditionLogic
  lastCheckedSlot : Option UInt64
  lastSuccessfulTickAtMs : Option Int64
  lastError : Option String
  executionNonce : UInt64
  completed : Bool
  revoked : Bool
  createdAtMs : Int64
  updatedAtMs : Int64
  deriving DecidableEq, Repr

/-- One row of `stage2_watch_rules`. -/
structure WatchRuleRowRaw where
  ruleId : String
  userPubkey : String
  executorPubkey : String
  delegatedWalletPubkey : String
  canonicalRuleHash : String
  canonicalRuleBytesHex : String
  ruleJson : String
  actionType : String
  conditionLogic : String
  status : String
  maxInputAmountRaw : Int64
  usedAmountRaw : Int64
  destinationPubkey : String
  expiresAtSlot : Int64
  createdAtSlot : Int64
  lastCheckedSlot : Option Int64
  lastSuccessfulTickAtMs : Option Int64
  lastError : Option String
  executionNonce : Int64
  completed : Int64
  revoked : Int64
  createdAtMs : Int64
  updatedAtMs : Int64
  deriving DecidableEq, Repr

/-! ## Hexadecimal columns -/

def ruleIdHex (id : Bytes 16) : String := hexEncode id.1

/-- One hexadecimal digit, of either case. -/
def hexNibble (b : UInt8) : Except StoreError UInt8 :=
  if 48 ≤ b ∧ b ≤ 57 then .ok (b - 48)
  else if 97 ≤ b ∧ b ≤ 102 then .ok (b - 97 + 10)
  else if 65 ≤ b ∧ b ≤ 70 then .ok (b - 65 + 10)
  else .error (.integrityCheckFailed ("invalid hex character: 0x" ++ hexEncode [b]))

def hexPairs : List UInt8 → Except StoreError (List UInt8)
  | high :: low :: rest => do
      let hi ← hexNibble high
      let lo ← hexNibble low
      let out ← hexPairs rest
      .ok ((hi * 16 + lo) :: out)
  | _ => .ok []

def hexDecode (s : String) : Except StoreError (List UInt8) :=
  let bytes := utf8Bytes s
  if bytes.length % 2 ≠ 0 then
    .error (.integrityCheckFailed
      ("hex string has odd length: " ++ toString bytes.length ++ " chars"))
  else hexPairs bytes

theorem hexNibble_hexDigitByte {value : Nat} (hvalue : value < 16) :
    hexNibble (hexDigitByte value) = .ok (UInt8.ofNat value) := by
  interval_cases value <;> rfl

/-- Two digits make one byte. -/
theorem toNat_hexPair {high low : Nat} (hhigh : high < 16) (hlow : low < 16) :
    (UInt8.ofNat high * 16 + UInt8.ofNat low).toNat = high * 16 + low := by
  rw [UInt8.toNat_add, UInt8.toNat_mul, UInt8.toNat_ofNat', UInt8.toNat_ofNat']
  simp only [UInt8.reduceToNat]
  omega

theorem hexPairs_hexEncode (bytes : List UInt8) :
    hexPairs (utf8Bytes (hexEncode bytes)) = .ok bytes := by
  rw [utf8Bytes_hexEncode]
  induction bytes with
  | nil => rfl
  | cons byte rest ih =>
      have hbound := byte.toNat_lt
      have hhigh := hexNibble_hexDigitByte (show byte.toNat / 16 < 16 by omega)
      have hlow := hexNibble_hexDigitByte (show byte.toNat % 16 < 16 by omega)
      have hbyte : UInt8.ofNat (byte.toNat / 16) * 16 + UInt8.ofNat (byte.toNat % 16) = byte := by
        apply UInt8.toNat_inj.mp
        rw [toNat_hexPair (by omega) (by omega)]
        omega
      rw [List.flatMap_cons, List.cons_append, List.cons_append, List.nil_append, hexPairs,
        hhigh, hlow, ih]
      simp [bind, Except.bind, hbyte]

@[simp] theorem hexDecode_hexEncode (bytes : List UInt8) : hexDecode (hexEncode bytes) = .ok bytes := by
  have heven : (utf8Bytes (hexEncode bytes)).length % 2 = 0 := by
    rw [utf8Bytes_hexEncode, List.length_flatMap]
    simp
  rw [hexDecode, if_neg (by simp [heven]), hexPairs_hexEncode]

/-- A text form by canonical bytes. -/
def RuleJson.hex : RuleJson where
  print rule := hexEncode (canonicalRuleBytes rule)
  parse text :=
    match hexDecode text with
    | .ok bytes =>
        match WatchRule.codec.decode bytes with
        | some (rule, []) => some rule
        | _ => none
    | .error _ => none
  parse_print rule hvalid := by
    have hdecode := WatchRule.codec.decode_encode [] hvalid
    rw [List.append_nil] at hdecode
    simp only [hexDecode_hexEncode, canonicalRuleBytes, hdecode]

/-- The same text forms but for one rule, which prints as a text of its own. -/
def RuleJson.pinned (json : RuleJson) (rule : WatchRule) (text : String)
    (hfresh : ∀ other, json.print other ≠ text) : RuleJson where
  print other := if other = rule then text else json.print other
  parse read := if read = text then some rule else json.parse read
  parse_print other hvalid := by
    by_cases hother : other = rule
    · simp [hother]
    · simp [hother, hfresh other, json.parse_print other hvalid]

theorem RuleJson.pinned_ne {json : RuleJson} {rule : WatchRule} {text other : String}
    {hfresh : ∀ rule, json.print rule ≠ text} (hne : text ≠ other)
    (hother : ∀ rule, json.print rule ≠ other) (printed : WatchRule) :
    (json.pinned rule text hfresh).print printed ≠ other := by
  unfold pinned
  dsimp only
  split
  · exact hne
  · exact hother printed

/-- No hexadecimal text opens like a JSON object. -/
theorem RuleJson.hex_ne (rest : String) (rule : WatchRule) : hex.print rule ≠ "\x7b" ++ rest := by
  intro heq
  have hdecode := hexDecode_hexEncode (canonicalRuleBytes rule)
  have hbytes : utf8Bytes ("\x7b" ++ rest) = 123 :: utf8Bytes rest := by
    rw [utf8Bytes, String.toList_append, List.flatMap_append]
    rfl
  rw [show hexEncode (canonicalRuleBytes rule) = "\x7b" ++ rest from heq, hexDecode, hbytes] at hdecode
  split at hdecode
  · cases hdecode
  next heven =>
    cases hrest : utf8Bytes rest with
    | nil => simp [hrest] at heven
    | cons byte bytes =>
        rw [hrest] at hdecode
        cases hdecode

/-! ## Rows -/

def conditionLogicStr : ConditionLogic → String
  | .all => "all"
  | .any => "any"

def parseConditionLogic (s : String) : Except StoreError ConditionLogic :=
  if s = "all" then .ok .all
  else if s = "any" then .ok .any
  else .error (.integrityCheckFailed ("unknown condition_logic '" ++ s ++ "'"))

def parseActionType (s : String) : Except StoreError WatchRuleActionType :=
  if s = "solend_withdraw_all_delegated" then .ok .solendWithdrawAllDelegated
  else if s = "jupiter_buy_sol_with_usdc" then .ok .jupiterBuySolWithUsdc
  else if s = "solend_deposit" then .ok .solendDeposit
  else .error (.integrityCheckFailed ("unknown action_type '" ++ s ++ "'"))

@[simp] theorem parseConditionLogic_str (logic : ConditionLogic) :
    parseConditionLogic (conditionLogicStr logic) = .ok logic := by
  cases logic <;> rfl

@[simp] theorem parseActionType_label (kind : WatchRuleActionType) :
    parseActionType kind.label = .ok kind := by
  cases kind <;> rfl

/-- The row `insert` binds. -/
def ruleToRow (json : RuleJson) (rule : WatchRule) (nowMs : Int64) : WatchRuleRowRaw where
  ruleId := ruleIdHex rule.ruleId
  userPubkey := rule.user.toBase58
  executorPubkey := rule.executor.toBase58
  delegatedWalletPubkey := rule.delegatedWallet.toBase58
  canonicalRuleHash := hexEncode (canonicalRuleHash rule).1
  canonicalRuleBytesHex := hexEncode (canonicalRuleBytes rule)
  ruleJson := json.print rule
  actionType := rule.action.actionType.label
  conditionLogic := conditionLogicStr rule.conditionLogic
  status := WatchRuleStatus.active.asStr
  maxInputAmountRaw := rule.maxInputAmountRaw.toInt64
  usedAmountRaw := rule.usedAmountRaw.toInt64
  destinationPubkey := rule.destination.toBase58
  expiresAtSlot := rule.expiresAtSlot.toInt64
  createdAtSlot := rule.createdAtSlot.toInt64
  lastCheckedSlot := none
  lastSuccessfulTickAtMs := none
  lastError := none
  executionNonce := 0
  completed := 0
  revoked := 0
  createdAtMs := nowMs
  updatedAtMs := nowMs

/-- The stored hash of a row, as 32 bytes. -/
def rowHash (row : WatchRuleRowRaw) : Except StoreError (Bytes 32) := do
  let hashVec ← hexDecode row.canonicalRuleHash
  if h : hashVec.length = 32 then .ok ⟨hashVec, h⟩
  else
    .error (.integrityCheckFailed
      ("canonical_rule_hash must decode to 32 bytes, got " ++ toString hashVec.length))

/-- The rule must hash to the stored hash and carry the row's primary key. -/
def checkRule (row : WatchRuleRowRaw) (hash : Bytes 32) (rule : WatchRule) :
    Except StoreError Unit :=
  let recomputed := canonicalRuleHash rule
  let storedIdLower := asciiLower row.ruleId
  let ruleIdLower := hexEncode rule.ruleId.1
  if recomputed ≠ hash then
    .error (.integrityCheckFailed
      ("canonical hash mismatch for rule_id " ++ row.ruleId ++ ": stored=" ++ hexEncode hash.1 ++
        " recomputed=" ++ hexEncode recomputed.1))
  else if storedIdLower ≠ ruleIdLower then
    .error (.integrityCheckFailed
      ("rule_id mismatch: column=" ++ storedIdLower ++ " json=" ++ ruleIdLower))
  else .ok ()

def parseRowStatus (row : WatchRuleRowRaw) : Except StoreError WatchRuleStatus :=
  match WatchRuleStatus.parse row.status with
  | some status => .ok status
  | none => .error (.integrityCheckFailed ("unknown status '" ++ row.status ++ "'"))

def parseRowJson (json : RuleJson) (row : WatchRuleRowRaw) : Except StoreError WatchRule :=
  match json.parse row.ruleJson with
  | some rule => .ok rule
  | none => .error .serialization

/-- Read a stored row back, comparing the hash and the key with the decoded rule. -/
def rowToStored (json : RuleJson) (row : WatchRuleRowRaw) : Except StoreError StoredWatchRule := do
  let _ ← hexDecode row.ruleId
  let canonicalRuleHash ← rowHash row
  let canonicalRuleBytes ← hexDecode row.canonicalRuleBytesHex
  let rule ← parseRowJson json row
  checkRule row canonicalRuleHash rule
  let status ← parseRowStatus row
  let actionType ← parseActionType row.actionType
  let conditionLogic ← parseConditionLogic row.conditionLogic
  .ok
    { rule
      canonicalRuleHash
      canonicalRuleBytes
      status
      actionType
      conditionLogic
      lastCheckedSlot := row.lastCheckedSlot.map Int64.toUInt64
      lastSuccessfulTickAtMs := row.lastSuccessfulTickAtMs
      lastError := row.lastError
      executionNonce := row.executionNonce.toUInt64
      completed := row.completed ≠ 0
      revoked := row.revoked ≠ 0
      createdAtMs := row.createdAtMs
      updatedAtMs := row.updatedAtMs }

/-- What a freshly inserted rule reads back as. -/
def StoredWatchRule.fresh (rule : WatchRule) (nowMs : Int64) : StoredWatchRule where
  rule
  canonicalRuleHash := Types.canonicalRuleHash rule
  canonicalRuleBytes := Types.canonicalRuleBytes rule
  status := .active
  actionType := rule.action.actionType
  conditionLogic := rule.conditionLogic
  lastCheckedSlot := none
  lastSuccessfulTickAtMs := none
  lastError := none
  executionNonce := 0
  completed := false
  revoked := false
  createdAtMs := nowMs
  updatedAtMs := nowMs

theorem checkRule_ok {row : WatchRuleRowRaw} {hash : Bytes 32} {rule : WatchRule} :
    checkRule row hash rule = .ok () ↔
      canonicalRuleHash rule = hash ∧ asciiLower row.ruleId = ruleIdHex rule.ruleId := by
  unfold checkRule
  dsimp only
  split
  next hdrift => simp [hdrift]
  next hsame =>
    rw [ne_eq, not_not] at hsame
    split
    next hother => simp [ruleIdHex, hother]
    next hid =>
      rw [ne_eq, not_not] at hid
      simp [hsame, ruleIdHex, hid]

theorem parseRowStatus_ok {row : WatchRuleRowRaw} {status : WatchRuleStatus} :
    parseRowStatus row = .ok status ↔ WatchRuleStatus.parse row.status = some status := by
  unfold parseRowStatus
  cases WatchRuleStatus.parse row.status <;> simp

theorem parseRowJson_ok {json : RuleJson} {row : WatchRuleRowRaw} {rule : WatchRule} :
    parseRowJson json row = .ok rule ↔ json.parse row.ruleJson = some rule := by
  unfold parseRowJson
  cases json.parse row.ruleJson <;> simp

/-- A row that reads back passed every check. -/
theorem rowToStored_ok {json : RuleJson} {row : WatchRuleRowRaw} {stored : StoredWatchRule}
    (hstored : rowToStored json row = .ok stored) :
    json.parse row.ruleJson = some stored.rule ∧
      stored.canonicalRuleHash = canonicalRuleHash stored.rule ∧
      asciiLower row.ruleId = ruleIdHex stored.rule.ruleId ∧
      WatchRuleStatus.parse row.status = some stored.status ∧
      stored.completed = decide (row.completed ≠ 0) ∧
      stored.revoked = decide (row.revoked ≠ 0) := by
  obtain ⟨_, _, hstored⟩ := bind_eq_ok.mp hstored
  obtain ⟨hash, _, hstored⟩ := bind_eq_ok.mp hstored
  obtain ⟨_, _, hstored⟩ := bind_eq_ok.mp hstored
  obtain ⟨rule, hjson, hstored⟩ := bind_eq_ok.mp hstored
  obtain ⟨_, hcheck, hstored⟩ := bind_eq_ok.mp hstored
  obtain ⟨status, hstatus, hstored⟩ := bind_eq_ok.mp hstored
  obtain ⟨_, _, hstored⟩ := bind_eq_ok.mp hstored
  obtain ⟨_, _, hstored⟩ := bind_eq_ok.mp hstored
  obtain ⟨hhash, hid⟩ := checkRule_ok.mp hcheck
  rw [Except.ok.injEq] at hstored
  subst hstored
  exact ⟨parseRowJson_ok.mp hjson, hhash.symm, hid, parseRowStatus_ok.mp hstatus, rfl, rfl⟩

/-- A freshly inserted row reads back as the rule it was made from. -/
theorem rowToStored_ruleToRow (json : RuleJson) {rule : WatchRule}
    (hvalid : WatchRule.codec.valid rule) (nowMs : Int64) :
    rowToStored json (ruleToRow json rule nowMs) = .ok (.fresh rule nowMs) := by
  have hhash : rowHash (ruleToRow json rule nowMs) = .ok (canonicalRuleHash rule) := by
    refine bind_eq_ok.mpr ⟨(canonicalRuleHash rule).1, hexDecode_hexEncode _, ?_⟩
    rw [dif_pos (canonicalRuleHash rule).2]
  have hjson : parseRowJson json (ruleToRow json rule nowMs) = .ok rule :=
    parseRowJson_ok.mpr (json.parse_print rule hvalid)
  have hcheck : checkRule (ruleToRow json rule nowMs) (canonicalRuleHash rule) rule = .ok () :=
    checkRule_ok.mpr ⟨rfl, asciiLower_hexEncode _⟩
  have hstatus : parseRowStatus (ruleToRow json rule nowMs) = .ok .active :=
    parseRowStatus_ok.mpr (WatchRuleStatus.parse_asStr .active)
  refine bind_eq_ok.mpr ⟨_, hexDecode_hexEncode _, ?_⟩
  refine bind_eq_ok.mpr ⟨_, hhash, ?_⟩
  refine bind_eq_ok.mpr ⟨_, hexDecode_hexEncode _, ?_⟩
  refine bind_eq_ok.mpr ⟨_, hjson, ?_⟩
  refine bind_eq_ok.mpr ⟨_, hcheck, ?_⟩
  refine bind_eq_ok.mpr ⟨_, hstatus, ?_⟩
  refine bind_eq_ok.mpr ⟨_, parseActionType_label _, ?_⟩
  exact bind_eq_ok.mpr ⟨_, parseConditionLogic_str _, rfl⟩

/-! ## The repository -/

/-- The stored rules, keyed by the hex text of `rule_id`. -/
abbrev WatchRuleTable := Table WatchRuleRowRaw String WatchRuleRowRaw.ruleId

/-- The statuses `list_active` and its siblings leave out. -/
def inTerminalStatus (row : WatchRuleRowRaw) : Bool :=
  row.status = "completed" ∨ row.status = "expired" ∨ row.status = "revoked" ∨
    row.status = "failed"

/-- `completed = 0 AND revoked = 0 AND status NOT IN (..)`. -/
def isPending (row : WatchRuleRowRaw) : Bool :=
  row.completed = 0 ∧ row.revoked = 0 ∧ ¬ inTerminalStatus row

namespace RuleWrite

/-- A write of lifecycle columns, behind a condition on the status column. -/
def lifecycle (allowed : List WatchRuleStatus) (set : WatchRuleRowRaw → WatchRuleRowRaw)
    (hkey : ∀ row, (set row).ruleId = row.ruleId) : Update WatchRuleRowRaw.ruleId where
  guard row := allowed.isEmpty || (allowed.map WatchRuleStatus.asStr).contains row.status
  set
  key_set := hkey

/-- Set the status from any of the allowed ones; from every status when the
statement has no status condition. -/
def setStatus (allowed : List WatchRuleStatus) (status : WatchRuleStatus) (nowMs : Int64) :
    Update WatchRuleRowRaw.ruleId :=
  lifecycle allowed (fun row => { row with status := status.asStr, updatedAtMs := nowMs })
    fun _ => rfl

def markChecked (slot : UInt64) (tsMs nowMs : Int64) : Update WatchRuleRowRaw.ruleId :=
  lifecycle [] (fun row =>
    { row with
      lastCheckedSlot := some slot.toInt64
      lastSuccessfulTickAtMs := some tsMs
      updatedAtMs := nowMs }) fun _ => rfl

/-- Stamp the nonce with the transition to `executing`. -/
def setExecuting (allowed : List WatchRuleStatus) (nonce : UInt64) (nowMs : Int64) :
    Update WatchRuleRowRaw.ruleId :=
  lifecycle allowed (fun row =>
    { row with
      status := WatchRuleStatus.executing.asStr
      executionNonce := nonce.toInt64
      updatedAtMs := nowMs }) fun _ => rfl

def markCompleted (usedAmount slot : UInt64) (nowMs : Int64) : Update WatchRuleRowRaw.ruleId :=
  lifecycle [] (fun row =>
    { row with
      status := WatchRuleStatus.completed.asStr
      completed := 1
      usedAmountRaw := usedAmount.toInt64
      lastCheckedSlot := some slot.toInt64
      updatedAtMs := nowMs }) fun _ => rfl

/-- Record the error with the transition to `failed`. -/
def setFailed (allowed : List WatchRuleStatus) (error : String) (nowMs : Int64) :
    Update WatchRuleRowRaw.ruleId :=
  lifecycle allowed (fun row =>
    { row with
      status := WatchRuleStatus.failed.asStr
      lastError := some error
      updatedAtMs := nowMs }) fun _ => rfl

def recordLastError (error : String) (nowMs : Int64) : Update WatchRuleRowRaw.ruleId :=
  lifecycle [] (fun row => { row with lastError := some error, updatedAtMs := nowMs })
    fun _ => rfl

def markRevoked (nowMs : Int64) : Update WatchRuleRowRaw.ruleId :=
  lifecycle [] (fun row =>
    { row with
      status := WatchRuleStatus.revoked.asStr
      revoked := 1
      updatedAtMs := nowMs }) fun _ => rfl

def updateHealthTick (tsMs nowMs : Int64) : Update WatchRuleRowRaw.ruleId :=
  lifecycle [] (fun row =>
    { row with lastSuccessfulTickAtMs := some tsMs, updatedAtMs := nowMs }) fun _ => rfl

end RuleWrite

/-- The calls of the watch rule repository. -/
inductive WatchRuleOp where
  | get (ruleId : Bytes 16)
  | listActive (currentSlot : UInt64)
  | listActiveLimit (currentSlot : UInt64) (limit : UInt32)
  | listPendingLifecycleLimit (limit : UInt32)
  | listByUser (userPubkey : String)
  | insert (rule : WatchRule)
  | markChecked (ruleId : Bytes 16) (slot : UInt64) (tsMs : Int64)
  | markConditionMet (ruleId : Bytes 16)
  | markConditionMetIfActive (ruleId : Bytes 16)
  | markExecuting (ruleId : Bytes 16) (nonce : UInt64)
  | markExecutingIfConditionMet (ruleId : Bytes 16) (nonce : UInt64)
  | markCompleted (ruleId : Bytes 16) (usedAmount slot : UInt64)
  | markFailed (ruleId : Bytes 16) (error : String)
  | markFailedIfNotTerminal (ruleId : Bytes 16) (error : String)
  | recordLastError (ruleId : Bytes 16) (error : String)
  | markExpired (ruleId : Bytes 16)
  | markExpiredIfNotTerminal (ruleId : Bytes 16)
  | markRevoked (ruleId : Bytes 16)
  | updateHealthTick (ruleId : Bytes 16) (tsMs : Int64)
  deriving DecidableEq, Repr

namespace WatchRuleOp

/-- The statement each call executes, at the system clock's reading. -/
def statement (json : RuleJson) (nowMs : Int64) : WatchRuleOp → Statement WatchRuleRowRaw.ruleId
  | get _ | listActive _ | listActiveLimit .. | listPendingLifecycleLimit _ | listByUser _ => .read
  | insert rule => .insert (ruleToRow json rule nowMs)
  | markChecked id slot tsMs => .update (ruleIdHex id) (RuleWrite.markChecked slot tsMs nowMs)
  | markConditionMet id => .update (ruleIdHex id) (RuleWrite.setStatus [] .conditionMet nowMs)
  | markConditionMetIfActive id =>
      .update (ruleIdHex id) (RuleWrite.setStatus [.active] .conditionMet nowMs)
  | markExecuting id nonce => .update (ruleIdHex id) (RuleWrite.setExecuting [] nonce nowMs)
  | markExecutingIfConditionMet id nonce =>
      .update (ruleIdHex id) (RuleWrite.setExecuting [.conditionMet] nonce nowMs)
  | markCompleted id used slot =>
      .update (ruleIdHex id) (RuleWrite.markCompleted used slot nowMs)
  | markFailed id error => .update (ruleIdHex id) (RuleWrite.setFailed [] error nowMs)
  | markFailedIfNotTerminal id error =>
      .update (ruleIdHex id) (RuleWrite.setFailed [.active, .conditionMet] error nowMs)
  | recordLastError id error => .update (ruleIdHex id) (RuleWrite.recordLastError error nowMs)
  | markExpired id => .update (ruleIdHex id) (RuleWrite.setStatus [] .expired nowMs)
  | markExpiredIfNotTerminal id =>
      .update (ruleIdHex id) (RuleWrite.setStatus [.active, .conditionMet] .expired nowMs)
  | markRevoked id => .update (ruleIdHex id) (RuleWrite.markRevoked nowMs)
  | updateHealthTick id tsMs => .update (ruleIdHex id) (RuleWrite.updateHealthTick tsMs nowMs)

/-- What a call returns besides an error; a transition returns the number of
rows it wrote. -/
abbrev Answer : WatchRuleOp → Type
  | get _ => Option StoredWatchRule
  | listActive _ | listActiveLimit .. | listPendingLifecycleLimit _ | listByUser _ =>
      List StoredWatchRule
  | insert _ => Unit
  | _ => Nat

end WatchRuleOp

namespace WatchRuleTable

/-- Look up a rule by its id. -/
def lookup (json : RuleJson) (table : WatchRuleTable) (ruleId : Bytes 16) :
    Except StoreError (Option StoredWatchRule) :=
  match table.get (ruleIdHex ruleId) with
  | none => .ok none
  | some row => (rowToStored json row).map some

theorem lookup_eq_some {json : RuleJson} {table : WatchRuleTable} {ruleId : Bytes 16}
    {stored : StoredWatchRule} : table.lookup json ruleId = .ok (some stored) ↔
      ∃ row, table.get (ruleIdHex ruleId) = some row ∧ rowToStored json row = .ok stored := by
  unfold lookup
  cases table.get (ruleIdHex ruleId) with
  | none => simp
  | some row => cases hrow : rowToStored json row <;> simp [Except.map, hrow]

/-- `ORDER BY created_at_ms ASC` over the rows a predicate selects. -/
def listWhere (json : RuleJson) (table : WatchRuleTable) (select : WatchRuleRowRaw → Bool)
    (limit : Option UInt32) : Except StoreError (List StoredWatchRule) :=
  let rows := (table.rows.filter select).mergeSort
    fun left right => left.createdAtMs ≤ right.createdAtMs
  match limit with
  | none => rows.mapM (rowToStored json)
  | some limit => (rows.take limit.toNat).mapM (rowToStored json)

def listActive (json : RuleJson) (table : WatchRuleTable) (currentSlot : UInt64)
    (limit : Option UInt32) : Except StoreError (List StoredWatchRule) :=
  listWhere json table (fun row => row.expiresAtSlot > currentSlot.toInt64 ∧ isPending row) limit

def listPendingLifecycleLimit (json : RuleJson) (table : WatchRuleTable) (limit : UInt32) :
    Except StoreError (List StoredWatchRule) :=
  listWhere json table isPending (some limit)

def listByUser (json : RuleJson) (table : WatchRuleTable) (userPubkey : String) :
    Except StoreError (List StoredWatchRule) :=
  listWhere json table (fun row => row.userPubkey = userPubkey) none

end WatchRuleTable

/-- What a call returns once its statement ran. -/
def WatchRuleOp.result (json : RuleJson) (table : WatchRuleTable) :
    (op : WatchRuleOp) → Int64 → Except StoreError op.Answer
  | get id, _ => table.lookup json id
  | listActive slot, _ => table.listActive json slot none
  | listActiveLimit slot limit, _ => table.listActive json slot (some limit)
  | listPendingLifecycleLimit limit, _ => table.listPendingLifecycleLimit json limit
  | listByUser user, _ => table.listByUser json user
  | insert rule, nowMs =>
      if table.affected (statement json nowMs (insert rule)) = 1 then .ok () else .error .sqlx
  | op@(markChecked ..), nowMs | op@(markConditionMet ..), nowMs
  | op@(markConditionMetIfActive ..), nowMs | op@(markExecuting ..), nowMs
  | op@(markExecutingIfConditionMet ..), nowMs | op@(markCompleted ..), nowMs
  | op@(markFailed ..), nowMs | op@(markFailedIfNotTerminal ..), nowMs
  | op@(recordLastError ..), nowMs | op@(markExpired ..), nowMs
  | op@(markExpiredIfNotTerminal ..), nowMs | op@(markRevoked ..), nowMs
  | op@(updateHealthTick ..), nowMs => .ok (table.affected (statement json nowMs op))

/-- The watch rule repository. -/
def watchRuleRepository (json : RuleJson) :
    Repository WatchRuleRowRaw.ruleId Int64 StoreError WatchRuleOp where
  Answer := WatchRuleOp.Answer
  statement := WatchRuleOp.statement json
  result := WatchRuleOp.result json

/-- An insert succeeds exactly when its id is free. -/
theorem watchRule_insert_ok {json : RuleJson} {table : WatchRuleTable} {rule : WatchRule}
    {nowMs : Int64} {answer : Unit} :
    (watchRuleRepository json).result table (.insert rule) nowMs = .ok answer ↔
      table.get (ruleIdHex rule.ruleId) = none := by
  have hinsert := table.affected_insert (ruleToRow json rule nowMs)
  have hresult : (watchRuleRepository json).result table (.insert rule) nowMs =
      if table.affected (.insert (ruleToRow json rule nowMs)) = 1 then .ok () else .error .sqlx :=
    rfl
  rw [hresult]
  by_cases hone : table.affected (.insert (ruleToRow json rule nowMs)) = 1
  · rw [if_pos hone]
    exact iff_of_true rfl (hinsert.mp hone)
  · rw [if_neg hone]
    exact iff_of_false (by simp) fun hfree => hone (hinsert.mpr hfree)

end SolFrontier.StateStore
