import SolFrontier.Types.Approval

/-! # Leases of an approval workflow

A workflow may carry an expiry time, but its transitions do not read it: only a
sweep that calls `expire` ends the workflow. A late decision is refused exactly
when something else refuses it.
-/

namespace SolFrontier.Types

open Foundation

namespace ApprovalWorkflow

/-- The expiry time has passed. -/
def isExpired (workflow : ApprovalWorkflow) (now : UtcTime) : Bool :=
  match workflow.expiresAt with
  | some exp => exp < now
  | none => false

/-- No late decision is recorded, and none brings the workflow to an approval
or a rejection. -/
structure LeaseHonoured (start : ApprovalWorkflow) (history : List WorkflowCall) : Prop where
  refuses : ∀ earlier decision now later, history = earlier ++ .applyDecision decision now :: later →
    start.isExpired now = true →
    ((start.lifetime.after earlier).applyDecision decision now).2 = false
  undecided : ∀ earlier decision now later,
    history = earlier ++ .applyDecision decision now :: later →
    start.isExpired now = true →
    (start.lifetime.after (earlier ++ [.applyDecision decision now])).state ∈
      [ApprovalWorkflowState.approved, .rejected] →
    (start.lifetime.after earlier).state ∈ [ApprovalWorkflowState.approved, .rejected]

/-- A late decision finds the workflow settled, or with no stage to decide. -/
def MeetsNothingOpen (workflow : ApprovalWorkflow) : WorkflowCall → Prop
  | .applyDecision _ now => workflow.isExpired now = true →
      workflow.state.isTerminal = true ∨ workflow.currentStage = none
  | .expire _ => True

variable {workflow start : ApprovalWorkflow} {decision : StageDecision} {now : UtcTime}

theorem currentStage_eq_none :
    workflow.currentStage = none ↔ workflow.stages.findIdx? ApprovalStage.isPending = none := by
  rw [currentStage, List.find?_eq_none, List.findIdx?_eq_none_iff]
  simp

theorem expiresAt_call (workflow : ApprovalWorkflow) (request : WorkflowCall) :
    (workflow.call request).1.expiresAt = workflow.expiresAt := by
  cases request with
  | applyDecision decision now =>
      rw [call, applyDecision]
      split
      · rfl
      · split <;> rfl
  | expire now =>
      rw [call, expire]
      split <;> rfl

/-- No call moves the expiry time. -/
theorem expiresAt_after (start : ApprovalWorkflow) (history : List WorkflowCall) :
    (start.lifetime.after history).expiresAt = start.expiresAt := by
  induction history using List.reverseRecOn with
  | nil => rfl
  | append_singleton history request ih =>
      rw [Machine.after_concat]
      exact (expiresAt_call _ request).trans ih

theorem isExpired_after (start : ApprovalWorkflow) (history : List WorkflowCall) (now : UtcTime) :
    (start.lifetime.after history).isExpired now = start.isExpired now := by
  rw [isExpired, isExpired, expiresAt_after]

/-- A decision is refused by a settled workflow and by one with no open stage. -/
theorem applyDecision_refused_iff :
    (workflow.applyDecision decision now).2 = false ↔
      workflow.state.isTerminal = true ∨ workflow.currentStage = none := by
  rw [currentStage_eq_none, applyDecision]
  split
  next hterminal => simp [hterminal]
  next hopen =>
    split
    next hnone => simp [hnone]
    next stageIdx hsome => simp [hopen, hsome]

/-- A refused decision leaves the workflow as it was. -/
theorem applyDecision_of_refused (hrefused : (workflow.applyDecision decision now).2 = false) :
    (workflow.applyDecision decision now).1 = workflow := by
  rcases applyDecision_refused_iff.mp hrefused with hterminal | hnone
  · rw [applyDecision, if_pos hterminal]
  · rw [applyDecision, currentStage_eq_none.mp hnone]
    split <;> rfl

/-- Any calls at any times on any workflow: its lease is honoured exactly when
every late decision finds nothing open. -/
theorem lease_honoured_iff (start : ApprovalWorkflow) (history : List WorkflowCall) :
    start.LeaseHonoured history ↔ start.lifetime.Throughout MeetsNothingOpen history := by
  constructor
  · rintro hhonoured earlier request later hhistory
    cases request with
    | applyDecision decision now =>
        intro hlate
        rw [isExpired_after] at hlate
        exact applyDecision_refused_iff.mp
          (hhonoured.refuses earlier decision now later hhistory hlate)
    | expire now => trivial
  · intro hmeets
    have hrefused : ∀ earlier decision now later,
        history = earlier ++ .applyDecision decision now :: later →
        start.isExpired now = true →
        ((start.lifetime.after earlier).applyDecision decision now).2 = false := by
      intro earlier decision now later hhistory hlate
      rw [← isExpired_after start earlier] at hlate
      have hmet := hmeets earlier (.applyDecision decision now) later hhistory
      exact applyDecision_refused_iff.mpr (hmet hlate)
    constructor
    · exact hrefused
    · intro earlier decision now later hhistory hlate hdecided
      rw [Machine.after_concat] at hdecided
      have hkept := applyDecision_of_refused (hrefused earlier decision now later hhistory hlate)
      have hsame : (start.lifetime.step (start.lifetime.after earlier)
        (.applyDecision decision now)) = start.lifetime.after earlier := hkept
      rwa [hsame] at hdecided

/-! ## A decision after the lease -/

/-- A workflow of one stage whose lease ends at the tenth instant. -/
def leased : ApprovalWorkflow :=
  { singleStage ⟨List.replicate 16 1, rfl⟩ ⟨List.replicate 16 2, rfl⟩ none 0 with
    expiresAt := some 10 }

/-- An approval after the lease, before any sweep, approves the workflow. -/
theorem approved_after_lease :
    ∃ start history, start.expiresAt = some 10 ∧ ¬ LeaseHonoured start history := by
  refine ⟨leased, [.applyDecision ⟨true, some "alice", none, 11⟩ 11], rfl, ?_⟩
  intro hhonoured
  have hrefused := hhonoured.refuses [] _ 11 [] rfl (by decide)
  exact absurd hrefused (by decide)

end ApprovalWorkflow

end SolFrontier.Types
