import SolFrontier.Foundation.Bytes
import SolFrontier.Foundation.History

/-! # Approval workflows

A workflow passes its stages in order. Each stage collects approvals up to its
quorum, and a rejection at any stage ends the whole workflow.
-/

namespace SolFrontier.Types

open Foundation

/-- An instant, in nanoseconds since the epoch. -/
abbrev UtcTime := Int

inductive ApprovalWorkflowState where
  | pending
  | approved
  | rejected
  | expired
  deriving DecidableEq, Repr

namespace ApprovalWorkflowState

/-- No further transition is possible. -/
def isTerminal : ApprovalWorkflowState → Bool
  | approved | rejected | expired => true
  | pending => false

@[simp] theorem isTerminal_eq_false {state : ApprovalWorkflowState} :
    state.isTerminal = false ↔ state = .pending := by
  cases state <;> simp [isTerminal]

end ApprovalWorkflowState

/-- A recorded decision for one stage. -/
structure StageDecision where
  approved : Bool
  operatorId : Option String
  approverRole : Option String
  decidedAt : UtcTime
  deriving DecidableEq, Repr

/-- A stage with the decisions recorded for it. No allowed role means that any
role is allowed. -/
structure ApprovalStage where
  index : Nat
  allowedRoles : List String
  minApprovals : UInt32
  decisions : List StageDecision
  deriving DecidableEq, Repr

namespace ApprovalStage

def approvalCount (stage : ApprovalStage) : Nat :=
  (stage.decisions.filter fun d => d.approved).length

def quorumMet (stage : ApprovalStage) : Bool :=
  stage.minApprovals.toNat ≤ stage.approvalCount

def hasRejection (stage : ApprovalStage) : Bool :=
  stage.decisions.any fun d => !d.approved

/-- The stage still needs decisions. -/
def isPending (stage : ApprovalStage) : Bool :=
  !stage.quorumMet && !stage.hasRejection

def hasOperatorVoted (stage : ApprovalStage) (operatorId : String) : Bool :=
  stage.decisions.any fun d => d.operatorId = some operatorId

/-- The stage with one more decision. -/
def push (decision : StageDecision) (stage : ApprovalStage) : ApprovalStage :=
  { stage with decisions := stage.decisions ++ [decision] }

end ApprovalStage

structure ApprovalWorkflow where
  requestId : Bytes 16
  sessionId : Bytes 16
  state : ApprovalWorkflowState
  stages : List ApprovalStage
  createdAt : UtcTime
  updatedAt : UtcTime
  expiresAt : Option UtcTime
  deriving DecidableEq, Repr

namespace ApprovalWorkflow

/-- A workflow of one stage for one approval. -/
def singleStage (requestId sessionId : Bytes 16) (requiredRole : Option String) (now : UtcTime) :
    ApprovalWorkflow where
  requestId
  sessionId
  state := .pending
  stages := [⟨0, requiredRole.toList, 1, []⟩]
  createdAt := now
  updatedAt := now
  expiresAt := none

/-- The first stage that still needs decisions. -/
def currentStage (workflow : ApprovalWorkflow) : Option ApprovalStage :=
  workflow.stages.find? ApprovalStage.isPending

/-- Record a decision for the current stage. The answer is whether it was
recorded. -/
def applyDecision (workflow : ApprovalWorkflow) (decision : StageDecision) (now : UtcTime) :
    ApprovalWorkflow × Bool :=
  if workflow.state.isTerminal then (workflow, false)
  else
    match workflow.stages.findIdx? ApprovalStage.isPending with
    | none => (workflow, false)
    | some stageIdx =>
        let stages := workflow.stages.modify stageIdx (ApprovalStage.push decision)
        let state :=
          -- Any rejection is terminal for the entire workflow.
          if !decision.approved then .rejected
          else if (stages[stageIdx]?.any ApprovalStage.quorumMet) &&
              stages.all ApprovalStage.quorumMet then .approved
          else workflow.state
        ({ workflow with state, stages, updatedAt := now }, true)

/-- Mark a pending workflow as expired. The answer is whether it was pending. -/
def expire (workflow : ApprovalWorkflow) (now : UtcTime) : ApprovalWorkflow × Bool :=
  if workflow.state = .pending then
    ({ workflow with state := .expired, updatedAt := now }, true)
  else (workflow, false)

end ApprovalWorkflow

/-- A call on a workflow and the clock's reading in it. -/
inductive WorkflowCall where
  | applyDecision (decision : StageDecision) (now : UtcTime)
  | expire (now : UtcTime)

namespace ApprovalWorkflow

def call (workflow : ApprovalWorkflow) : WorkflowCall → ApprovalWorkflow × Bool
  | .applyDecision decision now => workflow.applyDecision decision now
  | .expire now => workflow.expire now

/-- The calls on one workflow, one after another. -/
def lifetime (start : ApprovalWorkflow) : Machine ApprovalWorkflow WorkflowCall where
  init := start
  step workflow request := (workflow.call request).1

end ApprovalWorkflow

end SolFrontier.Types
