import SolFrontier.Foundation.Repository
import SolFrontier.StateStore.Errors

/-! # W5h funding intents

Durable storage for orders that need user funding before they may execute.
Every state transition is one compare-and-set statement guarded by the row's
status. The table has no column constraint beyond its primary key.
-/

namespace SolFrontier.StateStore

open Foundation

inductive W5hIntentStatus where
  | fundingRequired
  | fundingSubmitted
  | fundingInvalid
  | budgetReserved
  | executing
  | completed
  | expired
  | refunding
  | refunded
  | failed
  deriving DecidableEq, Repr

namespace W5hIntentStatus

/-- The text stored in the `status` column. -/
def asStr : W5hIntentStatus → String
  | fundingRequired => "funding_required"
  | fundingSubmitted => "funding_submitted"
  | fundingInvalid => "funding_invalid"
  | budgetReserved => "budget_reserved"
  | executing => "executing"
  | completed => "completed"
  | expired => "expired"
  | refunding => "refunding"
  | refunded => "refunded"
  | failed => "failed"

def parse (s : String) : Option W5hIntentStatus :=
  if s = "funding_required" then some fundingRequired
  else if s = "funding_submitted" then some fundingSubmitted
  else if s = "funding_invalid" then some fundingInvalid
  else if s = "budget_reserved" then some budgetReserved
  else if s = "executing" then some executing
  else if s = "completed" then some completed
  else if s = "expired" then some expired
  else if s = "refunding" then some refunding
  else if s = "refunded" then some refunded
  else if s = "failed" then some failed
  else none

/-- The text column determines the status, so the model keeps the status. -/
@[simp] theorem parse_asStr (status : W5hIntentStatus) : parse status.asStr = some status := by
  cases status <;> decide

def isTerminal : W5hIntentStatus → Bool
  | fundingInvalid | completed | refunded | failed => true
  | _ => false

end W5hIntentStatus

structure W5hFundingIntent where
  intentId : String
  ruleIdHex : String
  canonicalRuleHashHex : String
  userWallet : String
  userUsdcAta : String
  controlledWallet : String
  controlledUsdcAta : String
  amountRaw : UInt64
  thresholdBps : UInt32
  saveDisplayApyBpsAtCreation : UInt32
  nativeOnchainAprBpsAtCreation : UInt32
  createdAtMs : Int64
  expiresAtMs : Int64
  status : W5hIntentStatus
  fundingSignature : Option String
  fundingFinalizedSlot : Option UInt64
  executionSignature : Option String
  refundSignature : Option String
  lastError : Option String
  updatedAtMs : Int64
  deriving DecidableEq, Repr

structure NewW5hFundingIntent where
  intentId : String
  ruleIdHex : String
  canonicalRuleHashHex : String
  userWallet : String
  userUsdcAta : String
  controlledWallet : String
  controlledUsdcAta : String
  amountRaw : UInt64
  thresholdBps : UInt32
  saveDisplayApyBpsAtCreation : UInt32
  nativeOnchainAprBpsAtCreation : UInt32
  createdAtMs : Int64
  expiresAtMs : Int64
  deriving DecidableEq, Repr

/-- One row of `stage2_w5h_funding_intents`; every integer column is an `i64`. -/
structure RowRaw where
  intentId : String
  ruleIdHex : String
  canonicalRuleHashHex : String
  userWallet : String
  userUsdcAta : String
  controlledWallet : String
  controlledUsdcAta : String
  amountRaw : Int64
  thresholdBps : Int64
  saveDisplayApyBpsAtCreation : Int64
  nativeOnchainAprBpsAtCreation : Int64
  createdAtMs : Int64
  expiresAtMs : Int64
  status : W5hIntentStatus
  fundingSignature : Option String
  fundingFinalizedSlot : Option Int64
  executionSignature : Option String
  refundSignature : Option String
  lastError : Option String
  updatedAtMs : Int64
  deriving DecidableEq, Repr

/-- The `as i64` cast of a `u32`. -/
def u32AsI64 (value : UInt32) : Int64 := value.toUInt64.toInt64

/-- The `as u32` cast of an `i64`. -/
def i64AsU32 (value : Int64) : UInt32 := value.toUInt64.toUInt32

/-- Read a stored row back, failing on data the intent cannot represent. -/
def rowToIntent (r : RowRaw) : Except StoreError W5hFundingIntent := do
  let some status := W5hIntentStatus.parse r.status.asStr
    | .error (.integrityCheckFailed
        ("stage2_w5h_funding_intents: unknown status \"" ++ r.status.asStr ++
          "\" for intent_id " ++ r.intentId))
  if r.amountRaw < 0 then
    .error (.integrityCheckFailed
      ("stage2_w5h_funding_intents: amount_raw out of u64 range: " ++ toString r.amountRaw))
  else
    .ok
      { intentId := r.intentId
        ruleIdHex := r.ruleIdHex
        canonicalRuleHashHex := r.canonicalRuleHashHex
        userWallet := r.userWallet
        userUsdcAta := r.userUsdcAta
        controlledWallet := r.controlledWallet
        controlledUsdcAta := r.controlledUsdcAta
        amountRaw := r.amountRaw.toUInt64
        thresholdBps := i64AsU32 r.thresholdBps
        saveDisplayApyBpsAtCreation := i64AsU32 r.saveDisplayApyBpsAtCreation
        nativeOnchainAprBpsAtCreation := i64AsU32 r.nativeOnchainAprBpsAtCreation
        createdAtMs := r.createdAtMs
        expiresAtMs := r.expiresAtMs
        status
        fundingSignature := r.fundingSignature
        fundingFinalizedSlot := r.fundingFinalizedSlot.map Int64.toUInt64
        executionSignature := r.executionSignature
        refundSignature := r.refundSignature
        lastError := r.lastError
        updatedAtMs := r.updatedAtMs }

/-- The stored intents, keyed by `intent_id`. -/
abbrev W5hFundingTable := Table RowRaw String RowRaw.intentId

/-- The row `insert` binds. -/
def NewW5hFundingIntent.toRow (intent : NewW5hFundingIntent) (nowMs : Int64) : RowRaw where
  intentId := intent.intentId
  ruleIdHex := intent.ruleIdHex
  canonicalRuleHashHex := intent.canonicalRuleHashHex
  userWallet := intent.userWallet
  userUsdcAta := intent.userUsdcAta
  controlledWallet := intent.controlledWallet
  controlledUsdcAta := intent.controlledUsdcAta
  amountRaw := intent.amountRaw.toInt64
  thresholdBps := u32AsI64 intent.thresholdBps
  saveDisplayApyBpsAtCreation := u32AsI64 intent.saveDisplayApyBpsAtCreation
  nativeOnchainAprBpsAtCreation := u32AsI64 intent.nativeOnchainAprBpsAtCreation
  createdAtMs := intent.createdAtMs
  expiresAtMs := intent.expiresAtMs
  status := .fundingRequired
  fundingSignature := none
  fundingFinalizedSlot := none
  executionSignature := none
  refundSignature := none
  lastError := none
  updatedAtMs := nowMs

/-- What a freshly inserted intent reads back as. -/
def NewW5hFundingIntent.intent (fresh : NewW5hFundingIntent) (nowMs : Int64) :
    W5hFundingIntent where
  intentId := fresh.intentId
  ruleIdHex := fresh.ruleIdHex
  canonicalRuleHashHex := fresh.canonicalRuleHashHex
  userWallet := fresh.userWallet
  userUsdcAta := fresh.userUsdcAta
  controlledWallet := fresh.controlledWallet
  controlledUsdcAta := fresh.controlledUsdcAta
  amountRaw := fresh.amountRaw
  thresholdBps := fresh.thresholdBps
  saveDisplayApyBpsAtCreation := fresh.saveDisplayApyBpsAtCreation
  nativeOnchainAprBpsAtCreation := fresh.nativeOnchainAprBpsAtCreation
  createdAtMs := fresh.createdAtMs
  expiresAtMs := fresh.expiresAtMs
  status := .fundingRequired
  fundingSignature := none
  fundingFinalizedSlot := none
  executionSignature := none
  refundSignature := none
  lastError := none
  updatedAtMs := nowMs

@[simp] theorem i64AsU32_u32AsI64 (value : UInt32) : i64AsU32 (u32AsI64 value) = value := by
  simp [i64AsU32, u32AsI64]

/-- The intent a row with a representable amount reads as. -/
def RowRaw.toIntent (r : RowRaw) : W5hFundingIntent where
  intentId := r.intentId
  ruleIdHex := r.ruleIdHex
  canonicalRuleHashHex := r.canonicalRuleHashHex
  userWallet := r.userWallet
  userUsdcAta := r.userUsdcAta
  controlledWallet := r.controlledWallet
  controlledUsdcAta := r.controlledUsdcAta
  amountRaw := r.amountRaw.toUInt64
  thresholdBps := i64AsU32 r.thresholdBps
  saveDisplayApyBpsAtCreation := i64AsU32 r.saveDisplayApyBpsAtCreation
  nativeOnchainAprBpsAtCreation := i64AsU32 r.nativeOnchainAprBpsAtCreation
  createdAtMs := r.createdAtMs
  expiresAtMs := r.expiresAtMs
  status := r.status
  fundingSignature := r.fundingSignature
  fundingFinalizedSlot := r.fundingFinalizedSlot.map Int64.toUInt64
  executionSignature := r.executionSignature
  refundSignature := r.refundSignature
  lastError := r.lastError
  updatedAtMs := r.updatedAtMs

theorem rowToIntent_ok {row : RowRaw} {intent : W5hFundingIntent} :
    rowToIntent row = .ok intent ↔ ¬ row.amountRaw < 0 ∧ row.toIntent = intent := by
  unfold rowToIntent
  simp only [W5hIntentStatus.parse_asStr]
  by_cases hneg : row.amountRaw < 0
  · simp [hneg]
  · simp [hneg, RowRaw.toIntent]

/-- An amount that fits an `i64` column reads back unchanged, with its row. -/
theorem rowToIntent_toRow {fresh : NewW5hFundingIntent} (hamount : fresh.amountRaw.toNat < 2 ^ 63)
    (nowMs : Int64) : rowToIntent (fresh.toRow nowMs) = .ok (fresh.intent nowMs) := by
  refine rowToIntent_ok.mpr ⟨fun hneg => toInt64_neg_iff.mp hneg hamount, ?_⟩
  simp [RowRaw.toIntent, NewW5hFundingIntent.toRow, NewW5hFundingIntent.intent]

namespace W5hWrite

/-- `funding_required → funding_submitted`; repeating the recorded signature
is accepted, a different one is not. -/
def markFundingSubmittedIfRequired (signature : String) (nowMs : Int64) :
    Update RowRaw.intentId where
  guard row := row.status = .fundingRequired ∨
    (row.status = .fundingSubmitted ∧
      (row.fundingSignature = none ∨ row.fundingSignature = some signature))
  set row :=
    { row with
      status := .fundingSubmitted
      fundingSignature := some signature
      updatedAtMs := nowMs }
  key_set _ := rfl

/-- `funding_submitted → budget_reserved`, for the verified signature only. -/
def markBudgetReservedIfSubmitted (expectedSignature : String) (finalizedSlot : UInt64)
    (nowMs : Int64) : Update RowRaw.intentId where
  guard row := row.status = .fundingSubmitted ∧ row.fundingSignature = some expectedSignature
  set row :=
    { row with
      status := .budgetReserved
      fundingFinalizedSlot := some finalizedSlot.toInt64
      updatedAtMs := nowMs }
  key_set _ := rfl

/-- `funding_submitted → funding_invalid`. -/
def markFundingInvalidIfSubmitted (expectedSignature reason : String) (nowMs : Int64) :
    Update RowRaw.intentId where
  guard row := row.status = .fundingSubmitted ∧ row.fundingSignature = some expectedSignature
  set row :=
    { row with
      status := .fundingInvalid
      lastError := some reason
      updatedAtMs := nowMs }
  key_set _ := rfl

/-- `budget_reserved → executing`, strictly before the deadline. -/
def leaseExecutionIfBudgetReserved (nowMs : Int64) : Update RowRaw.intentId where
  guard row := row.status = .budgetReserved ∧ row.expiresAtMs > nowMs
  set row := { row with status := .executing, updatedAtMs := nowMs }
  key_set _ := rfl

/-- `executing → completed`. -/
def markCompletedIfExecuting (executionSignature : String) (nowMs : Int64) :
    Update RowRaw.intentId where
  guard row := row.status = .executing
  set row :=
    { row with
      status := .completed
      executionSignature := some executionSignature
      updatedAtMs := nowMs }
  key_set _ := rfl

/-- `executing → budget_reserved`, when the transaction was not completed. -/
def releaseExecutionLeaseToBudgetReserved (reason : String) (nowMs : Int64) :
    Update RowRaw.intentId where
  guard row := row.status = .executing
  set row :=
    { row with
      status := .budgetReserved
      lastError := some reason
      updatedAtMs := nowMs }
  key_set _ := rfl

/-- `budget_reserved → expired`, from the deadline on. -/
def markExpiredIfPast (nowMs : Int64) : Update RowRaw.intentId where
  guard row := row.status = .budgetReserved ∧ row.expiresAtMs ≤ nowMs
  set row := { row with status := .expired, updatedAtMs := nowMs }
  key_set _ := rfl

/-- `budget_reserved | expired → refunding`, from the deadline on. -/
def leaseRefundIfExpiredOrPast (nowMs : Int64) : Update RowRaw.intentId where
  guard row := (row.status = .budgetReserved ∨ row.status = .expired) ∧ row.expiresAtMs ≤ nowMs
  set row := { row with status := .refunding, updatedAtMs := nowMs }
  key_set _ := rfl

/-- `refunding → refunded`. -/
def markRefundedIfRefunding (refundSignature : String) (nowMs : Int64) :
    Update RowRaw.intentId where
  guard row := row.status = .refunding
  set row :=
    { row with
      status := .refunded
      refundSignature := some refundSignature
      updatedAtMs := nowMs }
  key_set _ := rfl

/-- Terminal-failure record, from any non-terminal status. -/
def markFailed (reason : String) (nowMs : Int64) : Update RowRaw.intentId where
  guard row := ¬ (row.status = .completed ∨ row.status = .refunded ∨ row.status = .failed ∨
    row.status = .fundingInvalid)
  set row :=
    { row with
      status := .failed
      lastError := some reason
      updatedAtMs := nowMs }
  key_set _ := rfl

end W5hWrite

/-- The calls of the W5h funding repository. -/
inductive W5hOp where
  | get (intentId : String)
  | listEligibleForRefund (nowMs : Int64) (limit : UInt32)
  | listBudgetReserved (limit : UInt32)
  | insert (intent : NewW5hFundingIntent)
  | markFundingSubmittedIfRequired (intentId signature : String)
  | markBudgetReservedIfSubmitted (intentId expectedSignature : String) (finalizedSlot : UInt64)
  | markFundingInvalidIfSubmitted (intentId expectedSignature reason : String)
  | leaseExecutionIfBudgetReserved (intentId : String) (nowMs : Int64)
  | markCompletedIfExecuting (intentId executionSignature : String)
  | releaseExecutionLeaseToBudgetReserved (intentId reason : String)
  | markExpiredIfPast (intentId : String) (nowMs : Int64)
  | leaseRefundIfExpiredOrPast (intentId : String) (nowMs : Int64)
  | markRefundedIfRefunding (intentId refundSignature : String)
  | markFailed (intentId reason : String)
  deriving DecidableEq, Repr

namespace W5hOp

/-- The statement each call executes, at the system clock's reading. -/
def statement (utcNowMs : Int64) : W5hOp → Statement RowRaw.intentId
  | get _ | listEligibleForRefund .. | listBudgetReserved _ => .read
  | insert intent => .insert (intent.toRow utcNowMs)
  | markFundingSubmittedIfRequired id signature =>
      .update id (W5hWrite.markFundingSubmittedIfRequired signature utcNowMs)
  | markBudgetReservedIfSubmitted id signature slot =>
      .update id (W5hWrite.markBudgetReservedIfSubmitted signature slot utcNowMs)
  | markFundingInvalidIfSubmitted id signature reason =>
      .update id (W5hWrite.markFundingInvalidIfSubmitted signature reason utcNowMs)
  | leaseExecutionIfBudgetReserved id nowMs =>
      .update id (W5hWrite.leaseExecutionIfBudgetReserved nowMs)
  | markCompletedIfExecuting id signature =>
      .update id (W5hWrite.markCompletedIfExecuting signature utcNowMs)
  | releaseExecutionLeaseToBudgetReserved id reason =>
      .update id (W5hWrite.releaseExecutionLeaseToBudgetReserved reason utcNowMs)
  | markExpiredIfPast id nowMs => .update id (W5hWrite.markExpiredIfPast nowMs)
  | leaseRefundIfExpiredOrPast id nowMs =>
      .update id (W5hWrite.leaseRefundIfExpiredOrPast nowMs)
  | markRefundedIfRefunding id signature =>
      .update id (W5hWrite.markRefundedIfRefunding signature utcNowMs)
  | markFailed id reason => .update id (W5hWrite.markFailed reason utcNowMs)

/-- What a call returns besides an error; a transition returns the number of
rows it wrote. -/
abbrev Answer : W5hOp → Type
  | get _ => Option W5hFundingIntent
  | listEligibleForRefund .. | listBudgetReserved _ => List W5hFundingIntent
  | insert _ => Unit
  | _ => Nat

end W5hOp

namespace W5hFundingTable

/-- Look up an intent by its id. -/
def lookup (table : W5hFundingTable) (intentId : String) :
    Except StoreError (Option W5hFundingIntent) :=
  match table.get intentId with
  | none => .ok none
  | some row => (rowToIntent row).map some

theorem lookup_eq_some {table : W5hFundingTable} {intentId : String} {intent : W5hFundingIntent} :
    table.lookup intentId = .ok (some intent) ↔
      ∃ row, table.get intentId = some row ∧ rowToIntent row = .ok intent := by
  unfold lookup
  cases table.get intentId with
  | none => simp
  | some row => cases hrow : rowToIntent row <;> simp [Except.map, hrow]

/-- `ORDER BY created_at_ms ASC LIMIT ?` over the rows a predicate selects. -/
def listWhere (table : W5hFundingTable) (select : RowRaw → Bool) (limit : UInt32) :
    Except StoreError (List W5hFundingIntent) :=
  if limit = 0 then .ok []
  else
    (((table.rows.filter select).mergeSort
      fun left right => left.createdAtMs ≤ right.createdAtMs).take limit.toNat).mapM rowToIntent

def listEligibleForRefund (table : W5hFundingTable) (nowMs : Int64) (limit : UInt32) :
    Except StoreError (List W5hFundingIntent) :=
  listWhere table (fun row => row.expiresAtMs ≤ nowMs ∧
    (row.status = .budgetReserved ∨ row.status = .expired)) limit

def listBudgetReserved (table : W5hFundingTable) (limit : UInt32) :
    Except StoreError (List W5hFundingIntent) :=
  listWhere table (fun row => row.status = .budgetReserved) limit

end W5hFundingTable

/-- What a call returns once its statement ran. -/
def W5hOp.result (table : W5hFundingTable) :
    (op : W5hOp) → Int64 → Except StoreError op.Answer
  | get id, _ => table.lookup id
  | listEligibleForRefund nowMs limit, _ => table.listEligibleForRefund nowMs limit
  | listBudgetReserved limit, _ => table.listBudgetReserved limit
  | insert intent, utcNowMs =>
      if table.affected (statement utcNowMs (insert intent)) = 1 then .ok () else .error .sqlx
  | op@(markFundingSubmittedIfRequired ..), utcNowMs
  | op@(markBudgetReservedIfSubmitted ..), utcNowMs
  | op@(markFundingInvalidIfSubmitted ..), utcNowMs
  | op@(leaseExecutionIfBudgetReserved ..), utcNowMs
  | op@(markCompletedIfExecuting ..), utcNowMs
  | op@(releaseExecutionLeaseToBudgetReserved ..), utcNowMs
  | op@(markExpiredIfPast ..), utcNowMs
  | op@(leaseRefundIfExpiredOrPast ..), utcNowMs
  | op@(markRefundedIfRefunding ..), utcNowMs
  | op@(markFailed ..), utcNowMs => .ok (table.affected (statement utcNowMs op))

/-- The W5h funding repository. -/
def w5hFundingRepository : Repository RowRaw.intentId Int64 StoreError W5hOp where
  Answer := W5hOp.Answer
  statement := W5hOp.statement
  result := W5hOp.result

/-- An insert succeeds exactly when its id is free. -/
theorem w5hFunding_insert_ok {table : W5hFundingTable} {fresh : NewW5hFundingIntent}
    {nowMs : Int64} {answer : Unit} :
    w5hFundingRepository.result table (.insert fresh) nowMs = .ok answer ↔
      table.get fresh.intentId = none := by
  have hinsert := table.affected_insert (fresh.toRow nowMs)
  have hresult : w5hFundingRepository.result table (.insert fresh) nowMs =
      if table.affected (.insert (fresh.toRow nowMs)) = 1 then .ok () else .error .sqlx := rfl
  rw [hresult]
  by_cases hone : table.affected (.insert (fresh.toRow nowMs)) = 1
  · rw [if_pos hone]
    exact iff_of_true rfl (hinsert.mp hone)
  · rw [if_neg hone]
    exact iff_of_false (by simp) fun hfree => hone (hinsert.mpr hfree)

end SolFrontier.StateStore
