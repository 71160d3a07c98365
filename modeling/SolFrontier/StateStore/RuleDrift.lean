import SolFrontier.StateStore.RuleRetirement

/-! # Drift between a stored rule and its columns

A row holds its rule as JSON and repeats parts of it in columns. Reading
compares two of these with the decoded rule, the hash and the key; the texts of
the bytes, the action type and the condition logic only have to parse, and the
other columns are not read at all.
-/

namespace SolFrontier.StateStore

open Foundation Types

/-- Everything that reading a row asks of its columns. -/
structure ReadsBack (json : RuleJson) (row : WatchRuleRowRaw) (stored : StoredWatchRule) :
    Prop where
  rule : json.parse row.ruleJson = some stored.rule
  key : ∃ bytes, hexDecode row.ruleId = .ok bytes
  sameKey : asciiLower row.ruleId = ruleIdHex stored.rule.ruleId
  hash : hexDecode row.canonicalRuleHash = .ok (canonicalRuleHash stored.rule).1
  bytes : hexDecode row.canonicalRuleBytesHex = .ok stored.canonicalRuleBytes
  status : WatchRuleStatus.parse row.status = some stored.status
  actionType : parseActionType row.actionType = .ok stored.actionType
  conditionLogic : parseConditionLogic row.conditionLogic = .ok stored.conditionLogic
  rest : stored =
    { rule := stored.rule
      canonicalRuleHash := Types.canonicalRuleHash stored.rule
      canonicalRuleBytes := stored.canonicalRuleBytes
      status := stored.status
      actionType := stored.actionType
      conditionLogic := stored.conditionLogic
      lastCheckedSlot := row.lastCheckedSlot.map Int64.toUInt64
      lastSuccessfulTickAtMs := row.lastSuccessfulTickAtMs
      lastError := row.lastError
      executionNonce := row.executionNonce.toUInt64
      completed := row.completed ≠ 0
      revoked := row.revoked ≠ 0
      createdAtMs := row.createdAtMs
      updatedAtMs := row.updatedAtMs }

theorem rowHash_ok {row : WatchRuleRowRaw} {hash : Bytes 32} :
    rowHash row = .ok hash ↔ hexDecode row.canonicalRuleHash = .ok hash.1 := by
  unfold rowHash
  rw [bind_eq_ok]
  constructor
  · intro ⟨decoded, hdecoded, hlength⟩
    split at hlength
    · rw [Except.ok.injEq] at hlength
      exact hlength ▸ hdecoded
    · cases hlength
  · intro hdecoded
    exact ⟨hash.1, hdecoded, dif_pos hash.2⟩

theorem rowToStored_ok_iff {json : RuleJson} {row : WatchRuleRowRaw} {stored : StoredWatchRule} :
    rowToStored json row = .ok stored ↔ ReadsBack json row stored := by
  constructor
  · intro hstored
    obtain ⟨key, hkey, hstored⟩ := bind_eq_ok.mp hstored
    obtain ⟨hash, hhash, hstored⟩ := bind_eq_ok.mp hstored
    obtain ⟨bytes, hbytes, hstored⟩ := bind_eq_ok.mp hstored
    obtain ⟨rule, hjson, hstored⟩ := bind_eq_ok.mp hstored
    obtain ⟨_, hcheck, hstored⟩ := bind_eq_ok.mp hstored
    obtain ⟨status, hstatus, hstored⟩ := bind_eq_ok.mp hstored
    obtain ⟨actionType, haction, hstored⟩ := bind_eq_ok.mp hstored
    obtain ⟨logic, hlogic, hstored⟩ := bind_eq_ok.mp hstored
    obtain ⟨hsame, hid⟩ := checkRule_ok.mp hcheck
    subst hsame
    rw [Except.ok.injEq] at hstored
    subst hstored
    exact
      { rule := parseRowJson_ok.mp hjson
        key := ⟨key, hkey⟩
        sameKey := hid
        hash := rowHash_ok.mp hhash
        bytes := hbytes
        status := parseRowStatus_ok.mp hstatus
        actionType := haction
        conditionLogic := hlogic
        rest := rfl }
  · intro hreads
    obtain ⟨key, hkey⟩ := hreads.key
    refine bind_eq_ok.mpr ⟨key, hkey, ?_⟩
    refine bind_eq_ok.mpr ⟨canonicalRuleHash stored.rule, rowHash_ok.mpr hreads.hash, ?_⟩
    refine bind_eq_ok.mpr ⟨stored.canonicalRuleBytes, hreads.bytes, ?_⟩
    refine bind_eq_ok.mpr ⟨stored.rule, parseRowJson_ok.mpr hreads.rule, ?_⟩
    refine bind_eq_ok.mpr ⟨(), checkRule_ok.mpr ⟨rfl, hreads.sameKey⟩, ?_⟩
    refine bind_eq_ok.mpr ⟨stored.status, parseRowStatus_ok.mpr hreads.status, ?_⟩
    refine bind_eq_ok.mpr ⟨stored.actionType, hreads.actionType, ?_⟩
    refine bind_eq_ok.mpr ⟨stored.conditionLogic, hreads.conditionLogic, ?_⟩
    rw [Except.ok.injEq]
    exact hreads.rest.symm

/-- One row has one rule. -/
theorem ReadsBack.rule_eq {json : RuleJson} {row changed : WatchRuleRowRaw}
    {stored other : StoredWatchRule} (hreads : ReadsBack json row stored)
    (hother : ReadsBack json changed other) (hjson : changed.ruleJson = row.ruleJson) :
    other.rule = stored.rule := by
  have hrule := hother.rule
  rw [hjson, hreads.rule, Option.some.injEq] at hrule
  exact hrule.symm

/-- What is read where only the lifecycle columns differ. -/
def StoredWatchRule.reread (stored : StoredWatchRule) (row : WatchRuleRowRaw)
    (status : WatchRuleStatus) : StoredWatchRule where
  rule := stored.rule
  canonicalRuleHash := Types.canonicalRuleHash stored.rule
  canonicalRuleBytes := stored.canonicalRuleBytes
  status
  actionType := stored.actionType
  conditionLogic := stored.conditionLogic
  lastCheckedSlot := row.lastCheckedSlot.map Int64.toUInt64
  lastSuccessfulTickAtMs := row.lastSuccessfulTickAtMs
  lastError := row.lastError
  executionNonce := row.executionNonce.toUInt64
  completed := row.completed ≠ 0
  revoked := row.revoked ≠ 0
  createdAtMs := row.createdAtMs
  updatedAtMs := row.updatedAtMs

/-- A lifecycle call leaves a row that reads back as the same rule. -/
theorem ReadsBack.write {json : RuleJson} {op : WatchRuleOp} {nowMs : Int64} {id : String}
    {write : Update WatchRuleRowRaw.ruleId} {row : WatchRuleRowRaw} {stored : StoredWatchRule}
    (hreads : ReadsBack json row stored) (hop : op.statement json nowMs = .update id write)
    (hguard : write.guard row = true) :
    ∃ next, rowToStored json (write.set row) = .ok next ∧ next.rule = stored.rule := by
  have hstatus : ∃ status, WatchRuleStatus.parse (write.set row).status = some status := by
    rw [(WatchRuleOp.moves_of_guard hop hguard).status]
    cases op.target with
    | none => exact ⟨stored.status, hreads.status⟩
    | some target => exact ⟨target, WatchRuleStatus.parse_asStr target⟩
  obtain ⟨status, hstatus⟩ := hstatus
  cases op with
  | get | listActive | listActiveLimit | listPendingLifecycleLimit | listByUser | insert =>
      simp [WatchRuleOp.statement] at hop
  | _ =>
      obtain ⟨rfl, rfl⟩ := Statement.update.inj hop
      refine ⟨stored.reread _ status, rowToStored_ok_iff.mpr
        { rule := hreads.rule
          key := hreads.key
          sameKey := hreads.sameKey
          hash := hreads.hash
          bytes := hreads.bytes
          status := hstatus
          actionType := hreads.actionType
          conditionLogic := hreads.conditionLogic
          rest := rfl }, rfl⟩

/-- A rule that reads back does so after every attempted call, as the same rule. -/
theorem attempt_reads {json : RuleJson} {table after : WatchRuleTable} {op : WatchRuleOp}
    {answer : Except StoreError op.Answer}
    (hattempt : (watchRuleRepository json).Attempt table op answer after) {id : String}
    {row : WatchRuleRowRaw} {stored : StoredWatchRule} (hget : table.get id = some row)
    (hstored : rowToStored json row = .ok stored) :
    ∃ next kept, after.get id = some next ∧ rowToStored json next = .ok kept ∧
      kept.rule = stored.rule := by
  rcases hattempt.get_of_some hget with hsame | ⟨nowMs, write, hop, hguard, hnext⟩
  · exact ⟨row, stored, hsame, hstored, rfl⟩
  · obtain ⟨kept, hkept, hrule⟩ := (rowToStored_ok_iff.mp hstored).write hop hguard
    exact ⟨_, kept, hnext, hkept, hrule⟩

/-- Reading looks at none of these columns. -/
theorem rowToStored_unread (json : RuleJson) (row : WatchRuleRowRaw)
    (user executor delegatedWallet destination : String)
    (maxInput used expiresAt createdAt : Int64) :
    rowToStored json
        { row with
          userPubkey := user
          executorPubkey := executor
          delegatedWalletPubkey := delegatedWallet
          destinationPubkey := destination
          maxInputAmountRaw := maxInput
          usedAmountRaw := used
          expiresAtSlot := expiresAt
          createdAtSlot := createdAt } =
      rowToStored json row := rfl

/-- A row that reads back has the hash and the key of its decoded rule, and any
other hash or key in these columns makes the read fail. No other column is
compared with the rule: its bytes, action type and condition logic are handed
out as they parse, and the rest may hold anything. -/
theorem rowToStored_drift (json : RuleJson) (row : WatchRuleRowRaw) :
    (∀ stored, rowToStored json row = .ok stored →
      json.parse row.ruleJson = some stored.rule ∧
      hexDecode row.canonicalRuleHash = .ok (canonicalRuleHash stored.rule).1 ∧
      asciiLower row.ruleId = ruleIdHex stored.rule.ruleId ∧
      (∀ text, hexDecode text ≠ .ok (canonicalRuleHash stored.rule).1 →
        ∀ other, rowToStored json { row with canonicalRuleHash := text } ≠ .ok other) ∧
      (∀ text, asciiLower text ≠ ruleIdHex stored.rule.ruleId →
        ∀ other, rowToStored json { row with ruleId := text } ≠ .ok other) ∧
      (∀ text bytes, hexDecode text = .ok bytes →
        rowToStored json { row with canonicalRuleBytesHex := text } =
          .ok { stored with canonicalRuleBytes := bytes }) ∧
      (∀ text actionType, parseActionType text = .ok actionType →
        rowToStored json { row with actionType := text } =
          .ok { stored with actionType := actionType }) ∧
      (∀ text logic, parseConditionLogic text = .ok logic →
        rowToStored json { row with conditionLogic := text } =
          .ok { stored with conditionLogic := logic })) ∧
    (∀ user executor delegatedWallet destination maxInput used expiresAt createdAt,
      rowToStored json
          { row with
            userPubkey := user
            executorPubkey := executor
            delegatedWalletPubkey := delegatedWallet
            destinationPubkey := destination
            maxInputAmountRaw := maxInput
            usedAmountRaw := used
            expiresAtSlot := expiresAt
            createdAtSlot := createdAt } =
        rowToStored json row) := by
  refine ⟨?_, rowToStored_unread json row⟩
  intro stored hstored
  -- A changed column is one reading of the row that is exchanged for another.
  have hreads := rowToStored_ok_iff.mp hstored
  have hrest := hreads.rest
  refine ⟨hreads.rule, hreads.hash, hreads.sameKey, ?_, ?_, ?_, ?_, ?_⟩
  · intro text hdrift other hother
    have hchanged := rowToStored_ok_iff.mp hother
    have hhash := hchanged.hash
    rw [hreads.rule_eq hchanged rfl] at hhash
    exact hdrift hhash
  · intro text hdrift other hother
    have hchanged := rowToStored_ok_iff.mp hother
    have hkey := hchanged.sameKey
    rw [hreads.rule_eq hchanged rfl] at hkey
    exact hdrift hkey
  · intro text bytes hbytes
    apply rowToStored_ok_iff.mpr
    exact { hreads with bytes := hbytes, rest := by rw [hrest] }
  · intro text actionType haction
    apply rowToStored_ok_iff.mpr
    exact { hreads with actionType := haction, rest := by rw [hrest] }
  · intro text logic hlogic
    apply rowToStored_ok_iff.mpr
    exact { hreads with conditionLogic := hlogic, rest := by rw [hrest] }

/-- A stored deposit rule whose wallet column was emptied still reads back. -/
theorem drifted_wallet_column_reads_back :
    let row := ruleToRow .hex (emptyDepositRule 0) 0
    let drifted := { row with delegatedWalletPubkey := "" }
    rowToStored .hex drifted = .ok (.fresh (emptyDepositRule 0) 0) ∧
      drifted.delegatedWalletPubkey ≠ (emptyDepositRule 0).delegatedWallet.toBase58 := by
  intro row drifted
  have hvalid : WatchRule.codec.valid (emptyDepositRule 0) := WatchRule.codec_valid (by decide)
  have hunread : rowToStored .hex drifted = rowToStored .hex row :=
    rowToStored_unread .hex row row.userPubkey row.executorPubkey "" row.destinationPubkey
      row.maxInputAmountRaw row.usedAmountRaw row.expiresAtSlot row.createdAtSlot
  constructor
  · rw [hunread]
    exact rowToStored_ruleToRow .hex hvalid 0
  · intro hempty
    have hdecode := PubkeyBytes.fromBase58_toBase58 (emptyDepositRule 0).delegatedWallet
    rw [← hempty] at hdecode
    cases hdecode

end SolFrontier.StateStore
