import SolFrontier.StateStore.RuleBook
import SolFrontier.Types.WatchRuleJson

/-! # Reading watch rules back

A rule goes through its JSON text, hexadecimal columns, its Borsh hash and
signed integers, and the read checks these against each other. With the text
forms that the rule's own serializers give, every accepted rule comes back.
-/

namespace SolFrontier.StateStore

open Foundation Types

/-- The text forms of the derived serializers. -/
def RuleJson.serde : RuleJson where
  print := ruleToJson
  parse := ruleFromJson
  parse_print rule _ := ruleFromJson_ruleToJson rule

/-- The rule whose row a call may change. An insert adds a row and changes none. -/
def WatchRuleOp.updatedRule : WatchRuleOp → Option (Bytes 16)
  | markChecked id _ _ | markConditionMet id | markConditionMetIfActive id
  | markExecuting id _ | markExecutingIfConditionMet id _ | markCompleted id _ _
  | markFailed id _ | markFailedIfNotTerminal id _ | recordLastError id _ | markExpired id
  | markExpiredIfNotTerminal id | markRevoked id | updateHealthTick id _ => some id
  | get _ | listActive _ | listActiveLimit _ _ | listPendingLifecycleLimit _ | listByUser _
  | insert _ => none

section RoundTrip

variable {json : RuleJson}

theorem ruleIdHex_inj {left right : Bytes 16} (heq : ruleIdHex left = ruleIdHex right) :
    left = right :=
  Subtype.ext (hexEncode_inj heq)

/-- An update names the key of the rule it is called for. -/
theorem updatedRule_of_update {op : WatchRuleOp} {nowMs : Int64} {id : Bytes 16}
    {write : Update WatchRuleRowRaw.ruleId}
    (hop : op.statement json nowMs = .update (ruleIdHex id) write) : op.updatedRule = some id := by
  cases op with
  | get | listActive | listActiveLimit | listPendingLifecycleLimit | listByUser | insert =>
      simp [WatchRuleOp.statement] at hop
  | _ =>
      obtain ⟨hid, _⟩ := Statement.update.inj hop
      exact congrArg some (ruleIdHex_inj hid)

variable {before later : List WatchRuleCall} {rule : WatchRule} {nowMs : Int64}

/-- The row of an accepted insert stays while no call updates its rule. -/
theorem get_after_accepted
    (haccepted : (watchRuleRepository json).result ((watchRuleStore json).after before)
      (.insert rule) nowMs = .ok ())
    (hlater : ∀ call ∈ later, call.1.updatedRule ≠ some rule.ruleId) :
    ((watchRuleStore json).after (before ++ (.insert rule, nowMs) :: later)).get
      (ruleIdHex rule.ruleId) = some (ruleToRow json rule nowMs) := by
  have hinserted : ((watchRuleStore json).after (before ++ [(.insert rule, nowMs)])).get
      (ruleIdHex rule.ruleId) = some (ruleToRow json rule nowMs) := by
    have hfree := watchRule_insert_ok.mp haccepted
    rw [Machine.after_concat]
    exact @Table.get_execute_inserted _ _ _ _ _ (ruleToRow json rule nowMs) hfree
  have hstays := row_stays hinserted fun call hmem write hop =>
    hlater call hmem (updatedRule_of_update hop)
  rwa [List.append_assoc, List.singleton_append] at hstays

/-- Any calls before, and any calls after that do not update the rule: an accepted
insert is read back by its id as the rule it stored, under its canonical hash,
active and neither completed nor revoked. With more conditions than the length of
the canonical form can hold, the call panics before its statement. -/
theorem rule_round_trips (hwellFormed : rule.WellFormed)
    (haccepted : (watchRuleRepository .serde).result ((watchRuleStore .serde).after before)
      (.insert rule) nowMs = .ok ())
    (hlater : ∀ call ∈ later, call.1.updatedRule ≠ some rule.ruleId) :
    ∃ stored, ((watchRuleStore .serde).after (before ++ (.insert rule, nowMs) :: later)).lookup
        .serde rule.ruleId = .ok (some stored) ∧
      stored.rule = rule ∧ stored.canonicalRuleHash = canonicalRuleHash rule ∧
      stored.status = .active ∧ stored.completed = false ∧ stored.revoked = false := by
  have hget := get_after_accepted haccepted hlater
  have hreads := rowToStored_ruleToRow .serde (WatchRule.codec_valid hwellFormed) nowMs
  exact ⟨.fresh rule nowMs, WatchRuleTable.lookup_eq_some.mpr ⟨_, hget, hreads⟩,
    rfl, rfl, rfl, rfl, rfl⟩

end RoundTrip

/-! ## The largest values -/

/-- A rule whose amounts and slots do not fit the signed columns. -/
def largestRule : WatchRule :=
  { emptyDepositRule 1 with
    ruleId := Bytes.filled 16 1
    createdAtSlot := 18446744073709551615
    expiresAtSlot := 18446744073709551615
    maxInputAmountRaw := 18446744073709551615
    conditions :=
      [.pythPrice
        { feedId := Bytes.filled 32 255
          priceUpdateAccount := ⟨Bytes.filled 32 255⟩
          comparison := .lt
          thresholdMantissa := -9223372036854775808
          thresholdExponent := -2147483648
          maxAgeSeconds := 4294967295
          maxConfidenceBps := 65535
          verificationLevelRequired := .full
          boundMode := .adverseUpperForLt }] }

/-- It reads back between two inserts of another rule, of which the second is refused. -/
theorem largest_rule_round_trips :
    ∃ stored, ((watchRuleStore .serde).after
        [(.insert (emptyDepositRule 0), 0), (.insert largestRule, 1),
          (.insert (emptyDepositRule 0), 2)]).lookup .serde largestRule.ruleId =
        .ok (some stored) ∧
      stored.rule = largestRule ∧ stored.canonicalRuleHash = canonicalRuleHash largestRule ∧
      stored.status = .active ∧ stored.completed = false ∧ stored.revoked = false := by
  have hwellFormed : largestRule.WellFormed := by
    show 1 < 2 ^ 32
    decide
  have hfree := (free_iff (rows_held .serde [(.insert (emptyDepositRule 0), 0)])
    largestRule.ruleId).mpr (by decide)
  have hlater : ∀ call ∈ [((.insert (emptyDepositRule 0), 2) : WatchRuleCall)],
      call.1.updatedRule ≠ some largestRule.ruleId := by
    intro call hmem heq
    obtain rfl := List.mem_singleton.mp hmem
    cases heq
  exact @rule_round_trips [(.insert (emptyDepositRule 0), 0)]
    [(.insert (emptyDepositRule 0), 2)] largestRule 1 hwellFormed
    (watchRule_insert_ok.mpr hfree) hlater

end SolFrontier.StateStore
