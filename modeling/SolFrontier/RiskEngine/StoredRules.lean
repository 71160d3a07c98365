import SolFrontier.RiskEngine.Policy
import SolFrontier.StateStore.SessionPolicy
import SolFrontier.Types.PolicyJson

/-! # Session rules in the store

The rules of a session are saved as JSON and loaded again when the daemon
starts. A restriction that was lost on the way would no longer be enforced.
-/

namespace SolFrontier.RiskEngine

open Foundation Types StateStore

/-- A rule is read back from its JSON, and the stored rules of a session decide
as the rules that were saved, whatever was called before and whatever is called
for other sessions since. -/
theorem policy_rules_round_trip (doubles : Format Float) :
    (∀ rule : PolicyRule, rule.condition.Plain →
      (PolicyRule.format doubles).ofText ((PolicyRule.format doubles).toText rule) = some rule) ∧
    ∀ (rules : List PolicyRule) (sessionId : String) (now : Int64)
      (before later : List (SessionPolicyOp × Int64)),
      (∀ rule ∈ rules, rule.condition.Plain) → (∀ call ∈ later, call.1.session ≠ sessionId) →
      ∃ row reloaded,
        (sessionPolicyStore.after (before ++
          (.save sessionId (PolicyRule.rulesToJson doubles rules), now) :: later)).load sessionId =
          some row ∧
        row ∈ (sessionPolicyStore.after (before ++
          (.save sessionId (PolicyRule.rulesToJson doubles rules), now) :: later)).loadAll ∧
        PolicyRule.rulesFromJson doubles row.rulesJson = some reloaded ∧
        ∀ (policy : PolicySet) (context : PolicyEvaluationContext) (clock : Int),
          (policy.withSessionRules reloaded).evaluateAt context clock =
            (policy.withSessionRules rules).evaluateAt context clock := by
  refine ⟨fun rule hplain => Format.ofText_toText (PolicyRule.keeps doubles hplain), ?_⟩
  intro rules sessionId now before later hplain hlater
  have hload := load_after_save before (PolicyRule.rulesToJson doubles rules) now hlater
  refine ⟨_, rules, hload, SessionPolicyTable.mem_loadAll hload, ?_, ?_⟩
  · exact PolicyRule.rulesFromJson_rulesToJson doubles hplain
  · intro policy context clock
    rfl

/-- Doubles that JSON has no number for: written as null, and then not read. -/
def nonFiniteDoubles : Format Float where
  write _ := .null
  read _ := none

def officeHours : PolicyRule where
  name := "business-hours"
  description := "Block outside business hours"
  condition := .outsideAllowedHours 9 17 [1, 2, 3, 4, 5] 8
  action := .requireApprovalChain "outside business hours" [⟨"risk", "", 1⟩]

/-- The rule of a session outlives what is called for another. -/
theorem policy_rules_round_trip_hours :
    ∃ row reloaded,
      (sessionPolicyStore.after ([(.save "s1" "[]", 1)] ++
        (.save "s1" (PolicyRule.rulesToJson nonFiniteDoubles [officeHours]), 2) ::
          [(.deleteSession "s2", 3)])).load "s1" = some row ∧
      row ∈ (sessionPolicyStore.after ([(.save "s1" "[]", 1)] ++
        (.save "s1" (PolicyRule.rulesToJson nonFiniteDoubles [officeHours]), 2) ::
          [(.deleteSession "s2", 3)])).loadAll ∧
      PolicyRule.rulesFromJson nonFiniteDoubles row.rulesJson = some reloaded ∧
      ∀ (policy : PolicySet) (context : PolicyEvaluationContext) (clock : Int),
        (policy.withSessionRules reloaded).evaluateAt context clock =
          (policy.withSessionRules [officeHours]).evaluateAt context clock := by
  refine (policy_rules_round_trip nonFiniteDoubles).2 [officeHours] "s1" 2 _ _ ?_ ?_
  · intro rule hmem
    rw [List.mem_singleton.mp hmem]
    trivial
  · intro call hmem
    rw [List.mem_singleton.mp hmem]
    decide

end SolFrontier.RiskEngine
