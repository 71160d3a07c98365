import SolFrontier.Types.Transaction

/-! # Policy rules and verdicts

A verdict is never a boolean: it says what happened and which rule decided.
-/

namespace SolFrontier.Types

/-- A stage of a multi-step approval chain. -/
structure ApprovalChainStage where
  role : String
  description : String
  minApprovals : UInt32
  deriving DecidableEq, Repr

inductive PolicyVerdict where
  | approved (ruleName : String)
  | requiresHumanApproval (reason ruleName : String) (requiredApproverRole : Option String)
      (approvalChain : Option (List ApprovalChainStage))
  | rejected (reason ruleName : String)
  /-- Simulation has not been run yet, and the policy requires it. -/
  | simulationRequired
  | simulationFailed (simulationError : String)
  deriving DecidableEq, Repr

namespace PolicyVerdict

/-- The transaction can proceed without human input. -/
def isAutoApproved : PolicyVerdict → Bool
  | approved _ => true
  | _ => false

/-- Execution is blocked. -/
def isBlocked : PolicyVerdict → Bool
  | rejected .. | simulationFailed _ => true
  | _ => false

/-- A human must act before execution can continue. -/
def requiresHuman : PolicyVerdict → Bool
  | requiresHumanApproval .. => true
  | _ => false

def label : PolicyVerdict → String
  | approved _ => "approved"
  | requiresHumanApproval .. => "requires_human_approval"
  | rejected .. => "rejected"
  | simulationRequired => "simulation_required"
  | simulationFailed _ => "simulation_failed"

/-- The three predicates leave exactly one verdict out. -/
theorem eq_simulationRequired_iff {verdict : PolicyVerdict} :
    verdict = .simulationRequired ↔
      verdict.isAutoApproved = false ∧ verdict.isBlocked = false ∧
        verdict.requiresHuman = false := by
  cases verdict <;> simp [isAutoApproved, isBlocked, requiresHuman]

end PolicyVerdict

/-- When a rule applies. Thresholds in SOL are doubles. -/
inductive PolicyCondition where
  | networkIn (networks : List SolanaNetwork)
  | programNotInAllowlist
  | destinationInDenylist
  | costExceedsSol (threshold : Float)
  | dailySpendExceedsSol (cap : Float)
  | amountExceedsLamports (threshold : UInt64)
  | simulationNotPassed
  | tokenAmountExceeds (mint : String) (threshold : UInt64)
  | mintNotInAllowlist (allowedMints : List String)
  | legacyTokenTransferPresent
  /-- Hours are inclusive and wrap around midnight; days count from Monday = 1,
  and no days at all means every day. -/
  | outsideAllowedHours (startHour endHour : UInt8) (allowedDays : List UInt8)
      (utcOffsetHours : Int32)
  | always
  deriving Repr

inductive PolicyAction where
  | approve
  | requireHumanApproval (reason : String) (requiredApproverRole : Option String)
  | requireApprovalChain (reason : String) (stages : List ApprovalChainStage)
  | reject (reason : String)
  deriving DecidableEq, Repr

structure PolicyRule where
  name : String
  description : String
  condition : PolicyCondition
  action : PolicyAction
  deriving Repr

/-- A verdict with the metadata of its evaluation. -/
structure PolicyEvaluationResult where
  verdict : PolicyVerdict
  rulesTotal : Nat
  rulesEvaluated : Nat
  matchedRuleIndex : Option Nat
  deriving DecidableEq, Repr

end SolFrontier.Types
