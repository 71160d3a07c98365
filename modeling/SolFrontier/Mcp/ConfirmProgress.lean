import SolFrontier.Mcp.PaymentEvidence

/-! # Calls of confirm that nothing disturbs

Without storage errors and with a fixed observation, a call for a row that has
its evidence can end in one way only. Each stage is described by an equivalence,
which gives the run and rules out every other.
-/

namespace SolFrontier.Mcp

open Foundation Types StateStore Program

/-- An answer that no failure disturbs, with one observation of the
transaction. -/
inductive Undisturbed (signature : String) (tx : ObservedFundingTransaction) :
    Event mcpFace → Prop
  | funding (op : W5hOp) (value : op.Answer) : Undisturbed signature tx ⟨.funding op, .ok value⟩
  | rules (op : WatchRuleOp) (value : op.Answer) : Undisturbed signature tx ⟨.rules op, .ok value⟩
  | clock (nowMs : Int64) : Undisturbed signature tx ⟨.nowMs, nowMs⟩
  | read : Undisturbed signature tx ⟨.readFundingTransaction signature, .ok (.confirmed tx)⟩

variable {platform : Platform} {permits : Event mcpFace → Prop} {world after : World}
  {α : Type} {result : α} {intentId signature : String} {tx : ObservedFundingTransaction}

/-! ## Single calls -/

theorem undisturbed_funding {op : W5hOp} {rest : Except StoreError op.Answer → Program mcpFace α} :
    Executes (mcpWorld platform (Undisturbed signature tx)) world (request (.funding op) >>= rest)
        after result ↔
      ∃ value nowMs, w5hFundingRepository.result world.funding op nowMs = .ok value ∧
        Executes (mcpWorld platform (Undisturbed signature tx))
          { world with funding := world.funding.execute (op.statement nowMs) }
          (rest (.ok value)) after result := by
  rw [executes_request]
  constructor
  · rintro ⟨answer, middle, ⟨hundisturbed, table, hattempt, rfl⟩, hrest⟩
    cases hundisturbed with
    | funding op value =>
        obtain ⟨nowMs, hresult, rfl⟩ := hattempt.of_ok
        exact ⟨value, nowMs, hresult, hrest⟩
  · rintro ⟨value, nowMs, hresult, hrest⟩
    exact ⟨.ok value, _, ⟨.funding op value, _, .of_result hresult, rfl⟩, hrest⟩

theorem undisturbed_rules {op : WatchRuleOp}
    {rest : Except StoreError op.Answer → Program mcpFace α} :
    Executes (mcpWorld platform (Undisturbed signature tx)) world (request (.rules op) >>= rest)
        after result ↔
      ∃ value nowMs, (watchRuleRepository platform.json).result world.rules op nowMs = .ok value ∧
        Executes (mcpWorld platform (Undisturbed signature tx))
          { world with rules := world.rules.execute (op.statement platform.json nowMs) }
          (rest (.ok value)) after result := by
  rw [executes_request]
  constructor
  · rintro ⟨answer, middle, ⟨hundisturbed, table, hattempt, rfl⟩, hrest⟩
    cases hundisturbed with
    | rules op value =>
        obtain ⟨nowMs, hresult, rfl⟩ := hattempt.of_ok
        exact ⟨value, nowMs, hresult, hrest⟩
  · rintro ⟨value, nowMs, hresult, hrest⟩
    exact ⟨.ok value, _, ⟨.rules op value, _, .of_result hresult, rfl⟩, hrest⟩

theorem undisturbed_get {row : RowRaw} (hget : world.funding.get intentId = some row)
    (hread : rowToIntent row = .ok row.toIntent)
    {rest : Except StoreError (Option W5hFundingIntent) → Program mcpFace α} :
    Executes (mcpWorld platform (Undisturbed signature tx)) world
        (request (.funding (.get intentId)) >>= rest) after result ↔
      Executes (mcpWorld platform (Undisturbed signature tx)) world
        (rest (.ok (some row.toIntent))) after result := by
  have hlookup : world.funding.lookup intentId = .ok (some row.toIntent) :=
    W5hFundingTable.lookup_eq_some.mpr ⟨row, hget, hread⟩
  rw [undisturbed_funding]
  constructor
  · rintro ⟨value, _, hresult, hrest⟩
    obtain rfl := Except.ok.inj (hlookup.symm.trans hresult)
    exact hrest
  · exact fun hrest => ⟨_, 0, hlookup, hrest⟩

theorem undisturbed_getRule {ruleId : Bytes 16} {row : WatchRuleRowRaw} {stored : StoredWatchRule}
    (hget : world.rules.get (ruleIdHex ruleId) = some row)
    (hstored : rowToStored platform.json row = .ok stored)
    {rest : Except StoreError (Option StoredWatchRule) → Program mcpFace α} :
    Executes (mcpWorld platform (Undisturbed signature tx)) world
        (request (.rules (.get ruleId)) >>= rest) after result ↔
      Executes (mcpWorld platform (Undisturbed signature tx)) world
        (rest (.ok (some stored))) after result := by
  have hlookup : world.rules.lookup platform.json ruleId = .ok (some stored) :=
    WatchRuleTable.lookup_eq_some.mpr ⟨row, hget, hstored⟩
  rw [undisturbed_rules]
  constructor
  · rintro ⟨value, _, hresult, hrest⟩
    obtain rfl := Except.ok.inj (hlookup.symm.trans hresult)
    exact hrest
  · exact fun hrest => ⟨_, 0, hlookup, hrest⟩

theorem undisturbed_clock {rest : Int64 → Program mcpFace α} :
    Executes (mcpWorld platform (Undisturbed signature tx)) world (request .nowMs >>= rest)
        after result ↔
      ∃ nowMs, Executes (mcpWorld platform (Undisturbed signature tx)) world (rest nowMs)
        after result := by
  rw [executes_quiet rfl]
  constructor
  · rintro ⟨nowMs, _, hrest⟩
    exact ⟨nowMs, hrest⟩
  · rintro ⟨nowMs, hrest⟩
    exact ⟨nowMs, .clock nowMs, hrest⟩

theorem undisturbed_read
    {rest : Except FundingReadError FundingTransactionRead → Program mcpFace α} :
    Executes (mcpWorld platform (Undisturbed signature tx)) world
        (request (.readFundingTransaction signature) >>= rest) after result ↔
      Executes (mcpWorld platform (Undisturbed signature tx)) world
        (rest (.ok (.confirmed tx))) after result := by
  rw [executes_quiet rfl]
  constructor
  · rintro ⟨answer, hundisturbed, hrest⟩
    cases hundisturbed
    exact hrest
  · exact fun hrest => ⟨_, .read, hrest⟩

/-- A transition whose guard holds is granted. -/
theorem undisturbed_update (op : W5hOp) {write : Int64 → Update RowRaw.intentId}
    (hstatement : ∀ nowMs, op.statement nowMs = .update intentId (write nowMs))
    {rest : Except StoreError op.Answer → Program mcpFace α} {granted : op.Answer}
    (hresult : ∀ nowMs, w5hFundingRepository.result world.funding op nowMs = .ok granted) :
    Executes (mcpWorld platform (Undisturbed signature tx)) world (request (.funding op) >>= rest)
        after result ↔
      ∃ nowMs, Executes (mcpWorld platform (Undisturbed signature tx))
        { world with funding := (world.funding.update intentId (write nowMs)).1 }
        (rest (.ok granted)) after result := by
  rw [undisturbed_funding]
  constructor
  · rintro ⟨value, nowMs, hvalue, hrest⟩
    obtain rfl := Except.ok.inj ((hresult nowMs).symm.trans hvalue)
    rw [hstatement nowMs] at hrest
    exact ⟨nowMs, hrest⟩
  · rintro ⟨nowMs, hrest⟩
    refine ⟨granted, nowMs, hresult nowMs, ?_⟩
    rw [hstatement nowMs]
    exact hrest

/-! ## The two transitions -/

/-- A row that the first transition accepts for this signature. -/
def Submittable (row : RowRaw) (signature : String) : Prop :=
  row.status = .fundingRequired ∨
    (row.status = .fundingSubmitted ∧ row.fundingSignature = some signature)

/-- The row after the first transition. -/
def submittedRow (row : RowRaw) (signature : String) (nowMs : Int64) : RowRaw :=
  { row with
    status := .fundingSubmitted
    fundingSignature := some signature
    updatedAtMs := nowMs }

/-- The row after both transitions. -/
def reservedRow (row : RowRaw) (signature : String) (slot : UInt64) (nowMs : Int64) : RowRaw :=
  { row with
    status := .budgetReserved
    fundingSignature := some signature
    fundingFinalizedSlot := some slot.toInt64
    updatedAtMs := nowMs }

/-- The store after both transitions. -/
def World.reserved (world : World) (intentId signature : String) (slot : UInt64)
    (submittedAtMs reservedAtMs : Int64) : World :=
  { world with
    funding := ((world.funding.update intentId
      (W5hWrite.markFundingSubmittedIfRequired signature submittedAtMs)).1.update intentId
      (W5hWrite.markBudgetReservedIfSubmitted signature slot reservedAtMs)).1 }

theorem get_submitted {row : RowRaw} (hget : world.funding.get intentId = some row)
    (hsubmittable : Submittable row signature) (nowMs : Int64) :
    (world.funding.update intentId
      (W5hWrite.markFundingSubmittedIfRequired signature nowMs)).1.get intentId =
        some (submittedRow row signature nowMs) ∧
      world.funding.affected (.update intentId
        (W5hWrite.markFundingSubmittedIfRequired signature nowMs)) = 1 := by
  have hguard : (W5hWrite.markFundingSubmittedIfRequired signature nowMs).guard row = true := by
    rcases hsubmittable with h | ⟨h, hsigned⟩
    · simp [W5hWrite.markFundingSubmittedIfRequired, h]
    · simp [W5hWrite.markFundingSubmittedIfRequired, h, hsigned]
  constructor
  · rw [Table.get_update_self, hget, Option.map_some, Update.onRow_of_guard _ hguard]
    rfl
  · exact (Table.update_affected _ _ _).mpr ⟨row, hget, hguard⟩

theorem get_reserved {table : W5hFundingTable} {row : RowRaw} {submittedAtMs : Int64}
    (hget : table.get intentId = some (submittedRow row signature submittedAtMs)) (slot : UInt64)
    (nowMs : Int64) :
    (table.update intentId
      (W5hWrite.markBudgetReservedIfSubmitted signature slot nowMs)).1.get intentId =
        some (reservedRow row signature slot nowMs) ∧
      table.affected (.update intentId
        (W5hWrite.markBudgetReservedIfSubmitted signature slot nowMs)) = 1 := by
  have hguard : (W5hWrite.markBudgetReservedIfSubmitted signature slot nowMs).guard
      (submittedRow row signature submittedAtMs) = true := by
    simp [W5hWrite.markBudgetReservedIfSubmitted, submittedRow]
  constructor
  · rw [Table.get_update_self, hget, Option.map_some, Update.onRow_of_guard _ hguard]
    rfl
  · exact (Table.update_affected _ _ _).mpr ⟨_, hget, hguard⟩

/-- Both transitions of a row go through, and the call reports success. -/
theorem confirmTransitions_undisturbed {row : RowRaw} {stored : StoredWatchRule}
    {result : ConfirmResult} (hget : world.funding.get intentId = some row)
    (hread : rowToIntent row = .ok row.toIntent) (hsubmittable : Submittable row signature) :
    Executes (mcpWorld platform (Undisturbed signature tx)) world
        (confirmTransitions stored intentId signature tx) after result ↔
      ∃ submittedAtMs reservedAtMs nowMs,
        after = world.reserved intentId signature tx.slot submittedAtMs reservedAtMs ∧
        result = .ok (successResponse (reservedRow row signature tx.slot reservedAtMs).toIntent
          stored signature (some tx.slot) tx.blockTimeMs tx.confirmation.asStr nowMs false) := by
  have hreadReserved (nowMs : Int64) :
      rowToIntent (reservedRow row signature tx.slot nowMs) =
        .ok (reservedRow row signature tx.slot nowMs).toIntent :=
    rowToIntent_ok.mpr ⟨(rowToIntent_ok.mp hread).1, rfl⟩
  unfold confirmTransitions
  rw [undisturbed_update (.markFundingSubmittedIfRequired intentId signature) (fun _ => rfl)
    (fun nowMs => congrArg Except.ok (get_submitted hget hsubmittable nowMs).2)]
  apply exists_congr
  intro submittedAtMs
  have hsubmitted := (get_submitted hget hsubmittable submittedAtMs).1
  dsimp only
  rw [if_neg Nat.one_ne_zero, undisturbed_update
    (.markBudgetReservedIfSubmitted intentId signature tx.slot) (fun _ => rfl)
    (fun nowMs => congrArg Except.ok (get_reserved hsubmitted tx.slot nowMs).2)]
  apply exists_congr
  intro reservedAtMs
  have hreserved := (get_reserved hsubmitted tx.slot reservedAtMs).1
  dsimp only
  rw [if_neg Nat.one_ne_zero, undisturbed_get hreserved (hreadReserved reservedAtMs)]
  dsimp only
  rw [undisturbed_clock]
  apply exists_congr
  intro nowMs
  exact Executes.done_iff

/-! ## The whole call -/

variable {row : RowRaw} {params : ConfirmFundingParams}

/-- A retry with the recorded signature reaches the verification. -/
theorem confirmFundingJson_reads {reserved : Bool}
    (hintent : trim params.intentId = intentId) (hsignature : trim params.txSignature = signature)
    (hget : world.funding.get intentId = some row)
    (hevidence : Evidence platform permits world row signature tx)
    (hreserved : alreadyReserved row.toIntent intentId signature = .ok reserved) :
    ∃ stored, ∀ after result, Executes (mcpWorld platform (Undisturbed signature tx)) world
        (confirmFundingJson platform params true) after result ↔
      Executes (mcpWorld platform (Undisturbed signature tx)) world
        (confirmObserved platform row.toIntent stored reserved intentId signature tx) after
        result := by
  obtain ⟨ruleId, ruleRow, stored, hdecoded, hrule, hstored, hmatches⟩ := hevidence.rule
  rw [Table.key_of_get hget] at hdecoded
  have hwellFormed : ¬ (signatureFromStr signature).isNone = true := by
    rw [Bool.not_eq_true, Option.isNone_eq_false_iff]
    exact hevidence.wellFormed
  refine ⟨stored, fun after result => ?_⟩
  unfold confirmFundingJson
  rw [hintent, hsignature]
  dsimp only
  rw [hdecoded]
  dsimp only
  rw [if_neg hwellFormed, undisturbed_get hget hevidence.readable]
  unfold confirmIntent
  dsimp only
  rw [undisturbed_getRule hrule hstored]
  dsimp only
  rw [if_neg (not_not.mpr hmatches), hreserved]
  dsimp only
  unfold confirmRead
  rw [if_neg (not_not.mpr rfl), undisturbed_read]

/-- A row that may still be moved is moved, and the call reports success. -/
theorem confirmFundingJson_reserves
    (hintent : trim params.intentId = intentId) (hsignature : trim params.txSignature = signature)
    (hget : world.funding.get intentId = some row)
    (hevidence : Evidence platform permits world row signature tx)
    (hsubmittable : Submittable row signature) :
    ∃ stored, ∀ after result, Executes (mcpWorld platform (Undisturbed signature tx)) world
        (confirmFundingJson platform params true) after result ↔
      ∃ submittedAtMs reservedAtMs nowMs,
        after = world.reserved intentId signature tx.slot submittedAtMs reservedAtMs ∧
        result = .ok (successResponse (reservedRow row signature tx.slot reservedAtMs).toIntent
          stored signature (some tx.slot) tx.blockTimeMs tx.confirmation.asStr nowMs false) := by
  have hreserved : alreadyReserved row.toIntent intentId signature = .ok false := by
    rcases hsubmittable with h | ⟨h, hsigned⟩
    · simp [alreadyReserved, RowRaw.toIntent, h]
    · simp [alreadyReserved, RowRaw.toIntent, h, hsigned]
  obtain ⟨stored, hiff⟩ := confirmFundingJson_reads hintent hsignature hget hevidence hreserved
  refine ⟨stored, fun after result => (hiff after result).trans ?_⟩
  unfold confirmObserved
  rw [hevidence.pays]
  dsimp only
  rw [if_neg Bool.false_ne_true]
  exact confirmTransitions_undisturbed hget hevidence.readable hsubmittable

/-- A reserved row is left alone, and the call reports success again. -/
theorem confirmFundingJson_repeats
    (hintent : trim params.intentId = intentId) (hsignature : trim params.txSignature = signature)
    (hget : world.funding.get intentId = some row)
    (hevidence : Evidence platform permits world row signature tx)
    (hstatus : row.status = .budgetReserved) (hsigned : row.fundingSignature = some signature) :
    ∃ stored, ∀ after result, Executes (mcpWorld platform (Undisturbed signature tx)) world
        (confirmFundingJson platform params true) after result ↔
      after = world ∧ ∃ nowMs, result = .ok (successResponse row.toIntent stored signature
        (some tx.slot) tx.blockTimeMs tx.confirmation.asStr nowMs true) := by
  have hreserved : alreadyReserved row.toIntent intentId signature = .ok true := by
    simp [alreadyReserved, RowRaw.toIntent, hstatus, hsigned]
  have hslot : row.toIntent.fundingFinalizedSlot = some tx.slot := by
    simp [RowRaw.toIntent, hevidence.slot hstatus]
  obtain ⟨stored, hiff⟩ := confirmFundingJson_reads hintent hsignature hget hevidence hreserved
  refine ⟨stored, fun after result => (hiff after result).trans ?_⟩
  unfold confirmObserved
  rw [hevidence.pays]
  dsimp only
  rw [if_pos rfl, hslot, if_neg (by simp), undisturbed_clock]
  constructor
  · rintro ⟨nowMs, hdone⟩
    obtain ⟨hafter, hresult⟩ := Executes.done_iff.mp hdone
    exact ⟨hafter, nowMs, hresult⟩
  · rintro ⟨hafter, nowMs, hresult⟩
    exact ⟨nowMs, Executes.done_iff.mpr ⟨hafter, hresult⟩⟩

end SolFrontier.Mcp
