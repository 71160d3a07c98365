import SolFrontier.StateStore.RuleDrift

/-! # The book of accepted rules

What the table of watch rules stands for: the rules whose insert was accepted,
in the order of their inserts. No later call changes a rule or takes it out of
the book, and every row reads back as its rule.
-/

namespace SolFrontier.StateStore

open Foundation Types

variable {json : RuleJson}

/-- Enter a rule whose id is still free. -/
def enterRule (rules : List WatchRule) : WatchRuleOp → List WatchRule
  | .insert rule =>
      if rules.any fun known => known.ruleId = rule.ruleId then rules else rules ++ [rule]
  | _ => rules

/-- The rules a history has accepted, oldest first. -/
def acceptedRules (history : List WatchRuleCall) : List WatchRule :=
  history.foldl (fun rules call => enterRule rules call.1) []

@[simp] theorem acceptedRules_concat (history : List WatchRuleCall) (call : WatchRuleCall) :
    acceptedRules (history ++ [call]) = enterRule (acceptedRules history) call.1 := by
  simp [acceptedRules]

theorem enterRule_of_not_insert {op : WatchRuleOp} (hop : ∀ rule, op ≠ .insert rule)
    (rules : List WatchRule) : enterRule rules op = rules := by
  cases op with
  | insert rule => exact absurd rfl (hop rule)
  | _ => rfl

/-- Every insert of a history has a rule that its canonical form can hold; with
more conditions the call panics before its statement. -/
def Encodable (history : List WatchRuleCall) : Prop :=
  ∀ rule nowMs, (.insert rule, nowMs) ∈ history → rule.WellFormed

/-! ## Rows and their rules -/

/-- The columns an insert fixes for good. -/
structure RowOf (json : RuleJson) (row : WatchRuleRowRaw) (rule : WatchRule) : Prop where
  ruleId : row.ruleId = ruleIdHex rule.ruleId
  hash : row.canonicalRuleHash = hexEncode (canonicalRuleHash rule).1
  bytes : row.canonicalRuleBytesHex = hexEncode (canonicalRuleBytes rule)
  ruleJson : row.ruleJson = json.print rule
  actionType : row.actionType = rule.action.actionType.label
  conditionLogic : row.conditionLogic = conditionLogicStr rule.conditionLogic
  expiresAtSlot : row.expiresAtSlot = rule.expiresAtSlot.toInt64
  status : ∃ status : WatchRuleStatus, row.status = status.asStr

theorem rowOf_ruleToRow (rule : WatchRule) (nowMs : Int64) :
    RowOf json (ruleToRow json rule nowMs) rule where
  ruleId := rfl
  hash := rfl
  bytes := rfl
  ruleJson := rfl
  actionType := rfl
  conditionLogic := rfl
  expiresAtSlot := rfl
  status := ⟨.active, rfl⟩

/-- A lifecycle call writes none of these columns but the status. -/
theorem RowOf.write {op : WatchRuleOp} {nowMs : Int64} {id : String}
    {write : Update WatchRuleRowRaw.ruleId} {row : WatchRuleRowRaw} {rule : WatchRule}
    (hrow : RowOf json row rule) (hop : op.statement json nowMs = .update id write)
    (hguard : write.guard row = true) : RowOf json (write.set row) rule := by
  have hmoves := WatchRuleOp.moves_of_guard hop hguard
  have hstatus : ∃ status : WatchRuleStatus, (write.set row).status = status.asStr := by
    rw [hmoves.status]
    cases op.target with
    | none => exact hrow.status
    | some target => exact ⟨target, rfl⟩
  cases op with
  | get | listActive | listActiveLimit | listPendingLifecycleLimit | listByUser | insert =>
      simp [WatchRuleOp.statement] at hop
  | _ =>
      obtain ⟨rfl, rfl⟩ := Statement.update.inj hop
      exact { hrow with status := hstatus }

/-- What a rule's row reads back as. -/
def StoredWatchRule.ofRow (row : WatchRuleRowRaw) (rule : WatchRule) (status : WatchRuleStatus) :
    StoredWatchRule where
  rule
  canonicalRuleHash := Types.canonicalRuleHash rule
  canonicalRuleBytes := Types.canonicalRuleBytes rule
  status
  actionType := rule.action.actionType
  conditionLogic := rule.conditionLogic
  lastCheckedSlot := row.lastCheckedSlot.map Int64.toUInt64
  lastSuccessfulTickAtMs := row.lastSuccessfulTickAtMs
  lastError := row.lastError
  executionNonce := row.executionNonce.toUInt64
  completed := row.completed ≠ 0
  revoked := row.revoked ≠ 0
  createdAtMs := row.createdAtMs
  updatedAtMs := row.updatedAtMs

theorem RowOf.reads {row : WatchRuleRowRaw} {rule : WatchRule} {status : WatchRuleStatus}
    (hrow : RowOf json row rule) (hstatus : row.status = status.asStr)
    (hwellFormed : rule.WellFormed) :
    rowToStored json row = .ok (.ofRow row rule status) :=
  rowToStored_ok_iff.mpr
    { rule := by
        rw [hrow.ruleJson]
        exact json.parse_print rule (WatchRule.codec_valid hwellFormed)
      key := ⟨rule.ruleId.1, by rw [hrow.ruleId, ruleIdHex, hexDecode_hexEncode]⟩
      sameKey := by
        rw [hrow.ruleId]
        exact asciiLower_hexEncode _
      hash := by
        rw [hrow.hash]
        exact hexDecode_hexEncode _
      bytes := by
        rw [hrow.bytes]
        exact hexDecode_hexEncode _
      status := by
        rw [hstatus]
        exact WatchRuleStatus.parse_asStr status
      actionType := by
        rw [hrow.actionType]
        exact parseActionType_label _
      conditionLogic := by
        rw [hrow.conditionLogic]
        exact parseConditionLogic_str _
      rest := rfl }

/-! ## The table stands for the book -/

section Table

variable {table : WatchRuleTable} {rules : List WatchRule}

/-- An id is free in the table when no entered rule has it. -/
theorem free_iff (hheld : List.Forall₂ (RowOf json) table.rows rules) (id : Bytes 16) :
    table.get (ruleIdHex id) = none ↔ ∀ rule ∈ rules, rule.ruleId ≠ id := by
  rw [Table.get_eq_none]
  generalize table.rows = rows at hheld
  induction hheld with
  | nil => simp
  | @cons row rule _ _ hrow _ ih =>
      have hkey : row.ruleId ≠ ruleIdHex id ↔ rule.ruleId ≠ id := by
        rw [hrow.ruleId, not_iff_not]
        exact ⟨fun heq => Subtype.ext (hexEncode_inj heq), fun heq => congrArg ruleIdHex heq⟩
      rw [List.forall_mem_cons, List.forall_mem_cons, hkey, ih]

theorem held_insert (hheld : List.Forall₂ (RowOf json) table.rows rules) (rule : WatchRule)
    (nowMs : Int64) :
    List.Forall₂ (RowOf json) (table.execute (.insert (ruleToRow json rule nowMs))).rows
      (enterRule rules (.insert rule)) := by
  cases hinsert : table.insert (ruleToRow json rule nowMs) with
  | none =>
      obtain ⟨existing, hget⟩ := Table.insert_eq_none.mp hinsert
      have htaken : ¬ ∀ known ∈ rules, known.ruleId ≠ rule.ruleId := by
        rw [← free_iff hheld]
        exact fun hfree => absurd (hget.symm.trans hfree) (by simp)
      have hany : rules.any (fun known => known.ruleId = rule.ruleId) = true := by
        simpa using htaken
      simpa [Table.execute, hinsert, enterRule, hany] using hheld
  | some next =>
      have hfree := (free_iff hheld rule.ruleId).mp (Table.fresh_of_insert hinsert)
      have hany : rules.any (fun known => known.ruleId = rule.ruleId) = false := by
        simpa using hfree
      have hrows : (table.execute (.insert (ruleToRow json rule nowMs))).rows =
          table.rows ++ [ruleToRow json rule nowMs] := by
        rw [Table.execute, hinsert]
        exact Table.rows_insert hinsert
      have hentered : enterRule rules (.insert rule) = rules ++ [rule] := by
        simp [enterRule, hany]
      rw [hrows, hentered]
      exact List.rel_append hheld (.cons (rowOf_ruleToRow rule nowMs) .nil)

theorem held_update {op : WatchRuleOp} {nowMs : Int64} {id : String}
    {write : Update WatchRuleRowRaw.ruleId} (hheld : List.Forall₂ (RowOf json) table.rows rules)
    (hop : op.statement json nowMs = .update id write) :
    List.Forall₂ (RowOf json) (table.execute (.update id write)).rows rules := by
  show List.Forall₂ _ (table.rows.map _) _
  rw [List.forall₂_map_left_iff]
  refine hheld.imp fun row rule hrow => ?_
  split
  · unfold Update.onRow
    split
    · exact hrow.write hop ‹_›
    · exact hrow
  · exact hrow

end Table

/-- After every history the rows are those of the accepted rules, in order. -/
theorem rows_held (json : RuleJson) (history : List WatchRuleCall) :
    List.Forall₂ (RowOf json) ((watchRuleStore json).after history).rows
      (acceptedRules history) := by
  induction history using List.reverseRecOn with
  | nil => exact .nil
  | append_singleton history call ih =>
      obtain ⟨op, nowMs⟩ := call
      rw [Machine.after_concat, acceptedRules_concat]
      show List.Forall₂ _ (Table.execute _ (op.statement json nowMs)).rows _
      cases hop : op.statement json nowMs with
      | read =>
          rwa [enterRule_of_not_insert]
          rintro rule rfl
          cases hop
      | insert row =>
          cases op with
          | insert rule =>
              obtain rfl := Statement.insert.inj hop
              exact held_insert ih rule nowMs
          | _ => cases hop
      | update id write =>
          rw [enterRule_of_not_insert]
          · exact held_update ih hop
          · rintro rule rfl
            cases hop

/-- Every accepted rule came in by an insert. -/
theorem mem_history_of_accepted {history : List WatchRuleCall} {rule : WatchRule}
    (haccepted : rule ∈ acceptedRules history) : ∃ nowMs, (.insert rule, nowMs) ∈ history := by
  induction history using List.reverseRecOn with
  | nil => cases haccepted
  | append_singleton history call ih =>
      rw [acceptedRules_concat] at haccepted
      have hnew : rule ∈ acceptedRules history ∨ call.1 = .insert rule := by
        obtain ⟨op, nowMs⟩ := call
        cases op with
        | insert entered =>
            simp only [enterRule] at haccepted
            split at haccepted
            · exact .inl haccepted
            · rcases List.mem_append.mp haccepted with hold | hlast
              · exact .inl hold
              · obtain rfl := List.mem_singleton.mp hlast
                exact .inr rfl
        | _ => exact .inl haccepted
      rcases hnew with hold | hcall
      · obtain ⟨nowMs, hmem⟩ := ih hold
        exact ⟨nowMs, List.mem_append_left _ hmem⟩
      · obtain ⟨op, nowMs⟩ := call
        obtain rfl := hcall
        exact ⟨nowMs, List.mem_append_right _ (List.mem_singleton_self _)⟩

/-- A row of the table and what it reads back as. -/
structure Reading (json : RuleJson) (row : WatchRuleRowRaw) (stored : StoredWatchRule) : Prop where
  held : RowOf json row stored.rule
  reads : rowToStored json row = .ok stored

/-- Every row reads back, and what they read back as are the accepted rules. -/
theorem exists_readings (json : RuleJson) {history : List WatchRuleCall}
    (hencodable : Encodable history) :
    ∃ stored, List.Forall₂ (Reading json) ((watchRuleStore json).after history).rows stored ∧
      stored.map (·.rule) = acceptedRules history := by
  have hwellFormed : ∀ rule ∈ acceptedRules history, rule.WellFormed := by
    intro rule haccepted
    obtain ⟨nowMs, hmem⟩ := mem_history_of_accepted haccepted
    exact hencodable rule nowMs hmem
  have hheld := rows_held json history
  generalize ((watchRuleStore json).after history).rows = rows at hheld
  generalize acceptedRules history = rules at hheld hwellFormed
  induction hheld with
  | nil => exact ⟨[], .nil, rfl⟩
  | @cons row rule _ rules hrow _ ih =>
      rw [List.forall_mem_cons] at hwellFormed
      obtain ⟨stored, hstored, hrules⟩ := ih hwellFormed.2
      obtain ⟨status, hstatus⟩ := hrow.status
      have hreads := hrow.reads hstatus hwellFormed.1
      exact ⟨.ofRow row rule status :: stored, .cons ⟨hrow, hreads⟩ hstored,
        congrArg (rule :: ·) hrules⟩

end SolFrontier.StateStore
