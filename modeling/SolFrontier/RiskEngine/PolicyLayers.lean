import SolFrontier.Foundation.FirstMatch
import SolFrontier.RiskEngine.Policy

/-! # Layered policies

Session rules lie before the rules of a policy. The first match of the joined
list decides, unless the simulation failed: that is decided before any rule.
-/

namespace SolFrontier.RiskEngine

open Foundation Types

/-- The simulation ran and failed. -/
def PolicyEvaluationContext.SimulationFailed (context : PolicyEvaluationContext) : Prop :=
  ∃ simulation, context.simulationResult = some simulation ∧ simulation.success = false

/-- What a rule of a list decides at its position. -/
def ruleResult (rulesTotal : Nat) (rule : PolicyRule) (index : Nat) : PolicyEvaluationResult where
  verdict := PolicySet.actionToVerdict rule.action rule.name
  rulesTotal
  rulesEvaluated := index + 1
  matchedRuleIndex := some index

/-- A result seen from behind some more rules. -/
def shiftedResult (count : Nat) (result : PolicyEvaluationResult) : PolicyEvaluationResult where
  verdict := result.verdict
  rulesTotal := count + result.rulesTotal
  rulesEvaluated := count + result.rulesEvaluated
  matchedRuleIndex := result.matchedRuleIndex.map (count + ·)

namespace PolicySet

variable {policy : PolicySet} {context : PolicyEvaluationContext} {now : Int}

/-- The first of these rules that applies under the lists of the policy. -/
abbrev Decides (policy : PolicySet) (context : PolicyEvaluationContext) (now : Int)
    (rules : List PolicyRule) (rule : PolicyRule) (index : Nat) : Prop :=
  FirstMatch (policy.conditionMatchesAt · context now) rules rule index

/-- No rule of a list applies under the lists of the policy. -/
abbrev NoneMatches (policy : PolicySet) (context : PolicyEvaluationContext) (now : Int)
    (rules : List PolicyRule) : Prop :=
  ∀ rule ∈ rules, policy.conditionMatchesAt rule context now = false

theorem evaluateAt_of_failed (policy : PolicySet) (now : Int)
    (hfailed : context.SimulationFailed) :
    ∃ error, policy.evaluateAt context now =
      { verdict := .simulationFailed error
        rulesTotal := policy.rules.length
        rulesEvaluated := 0
        matchedRuleIndex := none } := by
  obtain ⟨simulation, hsimulation, hsuccess⟩ := hfailed
  refine ⟨simulation.error.getD "unknown simulation error", ?_⟩
  simp [evaluateAt, hsimulation, hsuccess]

theorem evaluateAt_of_not_failed (hpassed : ¬ context.SimulationFailed) :
    policy.evaluateAt context now = policy.evaluateRules context now := by
  unfold evaluateAt
  cases hsimulation : context.simulationResult with
  | none => rfl
  | some simulation =>
      have hsuccess : simulation.success = true := by
        by_contra hfalse
        exact hpassed ⟨simulation, hsimulation, Bool.eq_false_iff.mpr hfalse⟩
      simp [hsuccess]

theorem evaluateRules_of_decides {rule : PolicyRule} {index : Nat}
    (hdecides : policy.Decides context now policy.rules rule index) :
    policy.evaluateRules context now = ruleResult policy.rules.length rule index := by
  have hfind := find?_zipIdx_eq_some.mpr hdecides
  simp only [evaluateRules, hfind]
  rfl

theorem evaluateRules_of_none (hnone : policy.NoneMatches context now policy.rules) :
    policy.evaluateRules context now =
      { verdict := .requiresHumanApproval "no matching policy rule; failing closed"
          "default-fail-closed" none none
        rulesTotal := policy.rules.length
        rulesEvaluated := policy.rules.length
        matchedRuleIndex := none } := by
  have hfind := find?_zipIdx_eq_none.mpr hnone
  simp only [evaluateRules, hfind]

/-- Some rule decides, or none applies. -/
theorem decides_or_none (policy : PolicySet) (context : PolicyEvaluationContext) (now : Int)
    (rules : List PolicyRule) :
    (∃ rule index, policy.Decides context now rules rule index) ∨
      policy.NoneMatches context now rules :=
  firstMatch_or_none (policy.conditionMatchesAt · context now) rules

/-! ## Layers -/

theorem withSessionRules_withSessionRules (policy : PolicySet) (inner outer : List PolicyRule) :
    (policy.withSessionRules inner).withSessionRules outer =
      policy.withSessionRules (outer ++ inner) := by
  simp [withSessionRules]

theorem evaluateRules_of_session {sessionRules : List PolicyRule} {rule : PolicyRule} {index : Nat}
    (hdecides : policy.Decides context now sessionRules rule index) :
    (policy.withSessionRules sessionRules).evaluateRules context now =
      ruleResult (sessionRules.length + policy.rules.length) rule index := by
  have hlayered : (policy.withSessionRules sessionRules).Decides context now
      (policy.withSessionRules sessionRules).rules rule index :=
    hdecides.append_left policy.rules
  rw [evaluateRules_of_decides hlayered, withSessionRules, List.length_append]

theorem evaluateRules_of_no_session {sessionRules : List PolicyRule}
    (hnone : policy.NoneMatches context now sessionRules) :
    (policy.withSessionRules sessionRules).evaluateRules context now =
      shiftedResult sessionRules.length (policy.evaluateRules context now) := by
  rcases decides_or_none policy context now policy.rules with ⟨rule, index, hdecides⟩ | hrest
  · have hlayered : (policy.withSessionRules sessionRules).Decides context now
        (policy.withSessionRules sessionRules).rules rule (sessionRules.length + index) :=
      hdecides.append_right hnone
    rw [evaluateRules_of_decides hlayered, evaluateRules_of_decides hdecides]
    simp [ruleResult, shiftedResult, withSessionRules, Nat.add_assoc]
  · have hlayered : (policy.withSessionRules sessionRules).NoneMatches context now
        (policy.withSessionRules sessionRules).rules := by
      intro rule hrule
      rcases List.mem_append.mp hrule with hsession | hpolicy
      · exact hnone rule hsession
      · exact hrest rule hpolicy
    rw [evaluateRules_of_none hlayered, evaluateRules_of_none hrest]
    simp [shiftedResult, withSessionRules]

/-- Only an approving rule is reported as an approval. -/
theorem actionToVerdict_approved {action : PolicyAction} {ruleName name : String}
    (hverdict : actionToVerdict action ruleName = .approved name) :
    action = .approve ∧ ruleName = name := by
  cases action with
  | approve => simpa [actionToVerdict] using hverdict
  | requireHumanApproval | requireApprovalChain | reject => simp [actionToVerdict] at hverdict

/-- An approval is the decision of an approving rule, over a simulation that did
not fail. -/
theorem evaluateAt_approved {name : String}
    (hverdict : (policy.evaluateAt context now).verdict = .approved name) :
    ¬ context.SimulationFailed ∧ ∃ rule index,
      policy.Decides context now policy.rules rule index ∧ rule.action = .approve ∧
        rule.name = name := by
  have hpassed : ¬ context.SimulationFailed := by
    intro hfailed
    obtain ⟨error, hresult⟩ := evaluateAt_of_failed policy now hfailed
    simp [hresult] at hverdict
  rw [evaluateAt_of_not_failed hpassed] at hverdict
  refine ⟨hpassed, ?_⟩
  rcases decides_or_none policy context now policy.rules with ⟨rule, index, hdecides⟩ | hnone
  · rw [evaluateRules_of_decides hdecides] at hverdict
    obtain ⟨haction, hname⟩ := actionToVerdict_approved hverdict
    exact ⟨rule, index, hdecides, haction, hname⟩
  · simp [evaluateRules_of_none hnone] at hverdict

/-- A failed simulation decides before any rule. Otherwise the first matching
session rule decides, and without one the policy below does, seen from behind
the session rules; an approval comes from an approving first match only, and
without any match a human is required. -/
theorem evaluateAt_withSessionRules (policy : PolicySet) (sessionRules : List PolicyRule)
    (context : PolicyEvaluationContext) (now : Int) :
    let layered := policy.withSessionRules sessionRules
    (context.SimulationFailed → ∃ error, layered.evaluateAt context now =
      { verdict := .simulationFailed error
        rulesTotal := sessionRules.length + policy.rules.length
        rulesEvaluated := 0
        matchedRuleIndex := none }) ∧
    (¬ context.SimulationFailed →
      (∀ rule index, policy.Decides context now sessionRules rule index →
        layered.evaluateAt context now =
          ruleResult (sessionRules.length + policy.rules.length) rule index) ∧
      (policy.NoneMatches context now sessionRules →
        layered.evaluateAt context now =
          shiftedResult sessionRules.length (policy.evaluateAt context now)) ∧
      (policy.NoneMatches context now (sessionRules ++ policy.rules) →
        (layered.evaluateAt context now).verdict.requiresHuman = true)) ∧
    (∀ outer, layered.withSessionRules outer = policy.withSessionRules (outer ++ sessionRules)) ∧
    (∀ name, (layered.evaluateAt context now).verdict = .approved name →
      ¬ context.SimulationFailed ∧ ∃ rule index,
        policy.Decides context now (sessionRules ++ policy.rules) rule index ∧
          rule.action = .approve ∧ rule.name = name) := by
  intro layered
  refine ⟨?_, ?_, withSessionRules_withSessionRules policy sessionRules, ?_⟩
  · intro hfailed
    obtain ⟨error, hresult⟩ := evaluateAt_of_failed layered now hfailed
    have hlength : layered.rules.length = sessionRules.length + policy.rules.length :=
      List.length_append
    exact ⟨error, hlength ▸ hresult⟩
  · intro hpassed
    rw [evaluateAt_of_not_failed hpassed, evaluateAt_of_not_failed hpassed]
    refine ⟨fun rule index => evaluateRules_of_session, evaluateRules_of_no_session, ?_⟩
    intro hnone
    have hlayered : layered.NoneMatches context now layered.rules := hnone
    rw [evaluateRules_of_none hlayered]
    rfl
  · intro name hverdict
    exact evaluateAt_approved hverdict

/-- A failed simulation is reported even where a session rule matches. -/
theorem failed_simulation_before_session_rules :
    ∃ (policy : PolicySet) (sessionRules : List PolicyRule) (context : PolicyEvaluationContext)
      (rule : PolicyRule),
      policy.Decides context 0 sessionRules rule 0 ∧
        (policy.withSessionRules sessionRules).evaluateAt context 0 ≠
          ruleResult (sessionRules.length + policy.rules.length) rule 0 := by
  let simulation : SimulationResult :=
    { success := false, error := none, computeUnitsUsed := none, logs := []
      returnData := none, accountDiffs := [], feeLamports := none }
  let context : PolicyEvaluationContext :=
    { proposal := ⟨"", .devnet, "", []⟩
      simulationResult := some simulation
      network := .devnet
      sessionSpendLamports := 0
      walletDailySpendLamports := 0 }
  let rule : PolicyRule := ⟨"session", "", .always, .approve⟩
  refine ⟨mainnetSafeDefault, [rule], context, rule, ⟨rfl, rfl, by simp⟩, ?_⟩
  have hfailed : context.SimulationFailed := ⟨simulation, rfl, rfl⟩
  intro heq
  have hverdict := congrArg PolicyEvaluationResult.verdict heq
  simp [evaluateAt, withSessionRules, context, simulation, ruleResult, actionToVerdict, rule]
    at hverdict

end PolicySet

end SolFrontier.RiskEngine
