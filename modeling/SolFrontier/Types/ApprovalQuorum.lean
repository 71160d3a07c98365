import Mathlib.Data.Finset.Option
import SolFrontier.Types.ApprovalRuns

/-! # Who a quorum counts

A stage counts approvals, whoever gives them. The approvals of an approved
workflow are those of enough distinct operators in allowed roles exactly when
every approval it recorded was admissible at the time.
-/

namespace SolFrontier.Types

open Foundation

namespace ApprovalStage

variable {stage : ApprovalStage} {decision : StageDecision}

/-- The decision carries a role that the stage allows. -/
def Allows (stage : ApprovalStage) (decision : StageDecision) : Prop :=
  stage.allowedRoles = [] ∨ ∃ role ∈ stage.allowedRoles, decision.approverRole = some role

/-- Enough distinct operators approve, and every approval is in an allowed role. -/
def DistinctQuorum (stage : ApprovalStage) : Prop :=
  (∃ operators : Finset String, stage.minApprovals.toNat ≤ operators.card ∧
    ∀ operatorId ∈ operators, ∃ d ∈ stage.decisions,
      d.approved = true ∧ d.operatorId = some operatorId) ∧
  ∀ d ∈ stage.decisions, d.approved = true → stage.Allows d

/-- An identified operator without a vote on the stage, in an allowed role. -/
def Admits (stage : ApprovalStage) (decision : StageDecision) : Prop :=
  (∃ operatorId, decision.operatorId = some operatorId ∧
    stage.hasOperatorVoted operatorId = false) ∧
  stage.Allows decision

/-- The operators behind the approvals, in order. -/
def approvers (stage : ApprovalStage) : List (Option String) :=
  (stage.decisions.filter fun d => d.approved).map StageDecision.operatorId

/-- Approvals of identified operators, each of them once, in allowed roles. -/
structure Lawful (stage : ApprovalStage) : Prop where
  identified : none ∉ stage.approvers
  once : stage.approvers.Nodup
  allowed : ∀ d ∈ stage.decisions, d.approved = true → stage.Allows d

theorem lawful_of_untouched (huntouched : stage.decisions = []) : stage.Lawful := by
  constructor <;> simp [approvers, huntouched]

theorem approvers_push (decision : StageDecision) :
    (stage.push decision).approvers =
      stage.approvers ++ if decision.approved then [decision.operatorId] else [] := by
  unfold approvers push
  rw [List.filter_append, List.map_append]
  cases happroved : decision.approved <;> simp [happroved]

theorem Unopposed.approvers (hall : stage.Unopposed) :
    stage.approvers = stage.decisions.map StageDecision.operatorId := by
  rw [ApprovalStage.approvers, List.filter_eq_self.mpr hall]

theorem Unopposed.hasOperatorVoted (hall : stage.Unopposed) (operatorId : String) :
    stage.hasOperatorVoted operatorId = false ↔ some operatorId ∉ stage.approvers := by
  rw [hall.approvers, ApprovalStage.hasOperatorVoted, List.any_eq_false]
  simp

theorem forall_push {P : StageDecision → Prop} :
    (∀ d ∈ (stage.push decision).decisions, P d) ↔ (∀ d ∈ stage.decisions, P d) ∧ P decision := by
  rw [push, List.forall_mem_append]
  simp

theorem lawful_push_rejection (hrefused : decision.approved = false) :
    (stage.push decision).Lawful ↔ stage.Lawful := by
  have happrovers : (stage.push decision).approvers = stage.approvers := by
    simp [approvers_push, hrefused]
  have hroles : (∀ d ∈ (stage.push decision).decisions, d.approved = true → stage.Allows d) ↔
      ∀ d ∈ stage.decisions, d.approved = true → stage.Allows d := by
    rw [forall_push, hrefused]
    simp
  constructor
  · rintro ⟨hids, honce, hallowed⟩
    exact ⟨happrovers ▸ hids, happrovers ▸ honce, hroles.mp hallowed⟩
  · rintro ⟨hids, honce, hallowed⟩
    exact ⟨happrovers ▸ hids, happrovers ▸ honce, hroles.mpr hallowed⟩

/-- An approval keeps a stage lawful exactly when the stage admits it. -/
theorem lawful_push_approval (hall : stage.Unopposed) (happroved : decision.approved = true) :
    (stage.push decision).Lawful ↔ stage.Lawful ∧ stage.Admits decision := by
  have happrovers : (stage.push decision).approvers = stage.approvers ++ [decision.operatorId] := by
    rw [approvers_push, happroved]
    rfl
  have hroles : (∀ d ∈ (stage.push decision).decisions, d.approved = true → stage.Allows d) ↔
      (∀ d ∈ stage.decisions, d.approved = true → stage.Allows d) ∧ stage.Allows decision := by
    rw [forall_push, happroved]
    simp
  constructor
  · rintro ⟨hids, honce, hallowed⟩
    rw [happrovers, List.mem_append, List.mem_singleton, not_or] at hids
    rw [happrovers, List.nodup_append] at honce
    obtain ⟨honce, _, hfresh⟩ := honce
    obtain ⟨hallowed, hrole⟩ := hroles.mp hallowed
    obtain ⟨operatorId, hid⟩ := Option.ne_none_iff_exists'.mp (Ne.symm hids.2)
    refine ⟨⟨hids.1, honce, hallowed⟩, ⟨operatorId, hid, ?_⟩, hrole⟩
    rw [hall.hasOperatorVoted]
    intro hmem
    exact hfresh _ hmem _ (List.mem_singleton.mpr rfl) hid.symm
  · rintro ⟨⟨hids, honce, hallowed⟩, ⟨operatorId, hid, hfresh⟩, hrole⟩
    rw [hall.hasOperatorVoted] at hfresh
    refine ⟨?_, ?_, hroles.mpr ⟨hallowed, hrole⟩⟩
    · rw [happrovers, hid]
      simp [hids]
    · rw [happrovers, hid, List.nodup_append]
      refine ⟨honce, List.nodup_singleton _, ?_⟩
      intro left hleft right hright heq
      rw [heq, List.mem_singleton.mp hright] at hleft
      exact hfresh hleft

/-- On a complete stage the operators are distinct exactly when it is lawful. -/
theorem Complete.distinctQuorum_iff (hcomplete : stage.Complete) :
    stage.DistinctQuorum ↔ stage.Lawful := by
  have happrovers := hcomplete.1.approvers
  have hlength : stage.approvers.length = stage.minApprovals.toNat := by
    rw [happrovers, List.length_map, hcomplete.2]
  constructor
  · rintro ⟨⟨operators, hcard, hvotes⟩, hallowed⟩
    have hsubset : operators.map ⟨some, Option.some_injective String⟩ ⊆ stage.approvers.toFinset := by
      intro approver hmem
      obtain ⟨operatorId, hoperator, rfl⟩ := Finset.mem_map.mp hmem
      obtain ⟨d, hd, _, hid⟩ := hvotes operatorId hoperator
      rw [List.mem_toFinset, happrovers]
      exact List.mem_map.mpr ⟨d, hd, hid⟩
    have hsame : operators.map ⟨some, Option.some_injective String⟩ = stage.approvers.toFinset := by
      apply Finset.eq_of_subset_of_card_le hsubset
      rw [Finset.card_map]
      exact (List.toFinset_card_le _).trans (hlength.le.trans hcard)
    refine ⟨?_, ?_, hallowed⟩
    · rw [← List.mem_toFinset, ← hsame]
      simp
    · apply Multiset.coe_nodup.mp
      apply Multiset.toFinset_card_eq_card_iff_nodup.mp
      apply le_antisymm (Multiset.toFinset_card_le _)
      show stage.approvers.length ≤ stage.approvers.toFinset.card
      rw [← hsame, Finset.card_map, hlength]
      exact hcard
  · rintro ⟨hids, honce, hallowed⟩
    refine ⟨⟨stage.approvers.toFinset.eraseNone, ?_, ?_⟩, hallowed⟩
    · rw [Finset.card_eraseNone_of_not_mem (by rwa [List.mem_toFinset]),
        List.toFinset_card_of_nodup honce]
      exact hlength.ge
    · intro operatorId hmem
      rw [Finset.mem_eraseNone, List.mem_toFinset, happrovers] at hmem
      obtain ⟨d, hd, hid⟩ := List.mem_map.mp hmem
      exact ⟨d, hd, hcomplete.1 d hd, hid⟩

end ApprovalStage

namespace ApprovalWorkflow

variable {workflow start : ApprovalWorkflow}

/-- An approval of a pending workflow is admissible to its current stage. -/
def Authorised (workflow : ApprovalWorkflow) (request : WorkflowCall) : Prop :=
  ∀ decision now stage, request = .applyDecision decision now → decision.approved = true →
    workflow.state = .pending → workflow.currentStage = some stage → stage.Admits decision

theorem currentStage_waiting {done rest : List ApprovalStage} {current : ApprovalStage}
    (hstages : workflow.stages = done ++ current :: rest)
    (hdone : ∀ stage ∈ done, stage.Complete) (hcurrent : current.Waiting) :
    workflow.currentStage = some current := by
  have hpassed : done.find? ApprovalStage.isPending = none := by
    rw [List.find?_eq_none]
    intro stage hmem
    simp [(hdone stage hmem).not_pending]
  rw [currentStage, hstages, List.find?_append, hpassed, Option.none_or,
    List.find?_cons_of_pos hcurrent.pending]

/-- A refused decision met no stage under way. -/
theorem authorised_of_kept {request : WorkflowCall}
    (hkept : workflow.call request = (workflow, false)) : workflow.Authorised request := by
  rintro decision now stage rfl _ hpending hstage
  exfalso
  have hanswer : (workflow.applyDecision decision now).2 = false := congrArg Prod.snd hkept
  have hopen : workflow.state.isTerminal = false := by rw [hpending]; rfl
  have hmem := List.mem_of_find?_eq_some hstage
  have hwaits := List.find?_some hstage
  cases hindex : workflow.stages.findIdx? ApprovalStage.isPending with
  | none =>
      have hnone := List.findIdx?_eq_none_iff.mp hindex stage hmem
      rw [hwaits] at hnone
      cases hnone
  | some stageIdx =>
      rw [applyDecision, hopen, hindex] at hanswer
      cases hanswer

/-- The stages of a run are lawful exactly when its approvals were authorised. -/
theorem lawful_iff_authorised (hfresh : start.Fresh) (history : List WorkflowCall) :
    (∀ stage ∈ (start.lifetime.after history).stages, stage.Lawful) ↔
      start.lifetime.Throughout Authorised history := by
  apply start.lifetime.after_induction (P := fun history workflow =>
    (∀ stage ∈ workflow.stages, stage.Lawful) ↔ start.lifetime.Throughout Authorised history)
  · apply iff_of_true _ (start.lifetime.throughout_nil Authorised)
    exact fun stage hmem => ApprovalStage.lawful_of_untouched (hfresh.untouched stage hmem)
  · intro history request ih
    rw [Machine.throughout_concat, ← ih]
    generalize hworkflow : start.lifetime.after history = workflow
    have hphase : Phase workflow.state workflow.stages := hworkflow ▸ lifetime_phase hfresh history
    show (∀ stage ∈ (workflow.call request).1.stages, stage.Lawful) ↔ _
    rcases call_cases hphase request with hkept | ⟨now, rfl, _, hexpired⟩ |
      ⟨decision, now, done, current, rest, state, rfl, hpending, hstages, hdone, hcurrent, _, _,
        hrecorded⟩
    · rw [hkept]
      exact (and_iff_left (authorised_of_kept hkept)).symm
    · rw [hexpired]
      exact (and_iff_left fun _ _ _ heq => by cases heq).symm
    · have hcurrentStage := currentStage_waiting hstages hdone hcurrent
      have hauthorised : workflow.Authorised (.applyDecision decision now) ↔
          (decision.approved = true → current.Admits decision) := by
        constructor
        · intro hall happroved
          exact hall decision now current rfl happroved hpending hcurrentStage
        · rintro hadmits _ _ stage heq happroved _ hstage
          cases heq
          obtain rfl := Option.some.inj (hcurrentStage.symm.trans hstage)
          exact hadmits happroved
      rw [hrecorded, hstages, hauthorised]
      simp only [List.forall_mem_append, List.forall_mem_cons]
      cases happroved : decision.approved with
      | false =>
          rw [ApprovalStage.lawful_push_rejection happroved]
          simp
      | true =>
          rw [ApprovalStage.lawful_push_approval hcurrent.1 happroved]
          tauto

/-- Any calls on a pending workflow: when it is approved, its quorums are those
of distinct operators in allowed roles exactly when each approval came from an
identified operator without a vote on the current stage, in a role it allows. -/
theorem quorum_distinct_iff (start : ApprovalWorkflow) (hfresh : start.Fresh)
    (history : List WorkflowCall)
    (happroved : (start.lifetime.after history).state = .approved) :
    (∀ stage ∈ (start.lifetime.after history).stages, stage.DistinctQuorum) ↔
      start.lifetime.Throughout Authorised history := by
  have hphase := lifetime_phase hfresh history
  rw [← lawful_iff_authorised hfresh]
  apply forall₂_congr
  intro stage hmem
  exact (hphase.complete happroved stage hmem).distinctQuorum_iff

/-! ## Two votes of one operator -/

/-- A workflow whose one stage asks for two approvals in one role. -/
def twoApprovals : ApprovalWorkflow where
  requestId := Bytes.filled 16 1
  sessionId := Bytes.filled 16 2
  state := .pending
  stages := [⟨0, ["risk"], 2, []⟩]
  createdAt := 0
  updatedAt := 0
  expiresAt := none

theorem fresh_twoApprovals : twoApprovals.Fresh where
  pending := rfl
  untouched stage hmem := by rw [List.mem_singleton.mp hmem]

def riskVote (operatorId : String) (decidedAt : UtcTime) : WorkflowCall :=
  .applyDecision ⟨true, some operatorId, some "risk", decidedAt⟩ decidedAt

/-- Two operators in the role approve the workflow. -/
theorem quorum_distinct_two :
    (twoApprovals.lifetime.after [riskVote "alice" 1, riskVote "bob" 2]).state = .approved ∧
      ∀ stage ∈ (twoApprovals.lifetime.after [riskVote "alice" 1, riskVote "bob" 2]).stages,
        stage.DistinctQuorum := by
  refine ⟨by decide, ?_⟩
  apply (quorum_distinct_iff twoApprovals fresh_twoApprovals _ (by decide)).mpr
  rw [← lawful_iff_authorised fresh_twoApprovals]
  intro stage hmem
  rw [List.mem_singleton.mp hmem]
  constructor <;> simp [ApprovalStage.approvers, ApprovalStage.push, ApprovalStage.Allows]

/-- One operator alone approves it just the same. -/
theorem one_operator_approves :
    ∃ (start : ApprovalWorkflow) (history : List WorkflowCall), start.Fresh ∧
      (start.lifetime.after history).state = .approved ∧
      ¬ ∀ stage ∈ (start.lifetime.after history).stages, stage.DistinctQuorum := by
  refine ⟨twoApprovals, [riskVote "alice" 1, riskVote "alice" 2], fresh_twoApprovals, by decide, ?_⟩
  intro hall
  have hphase := lifetime_phase fresh_twoApprovals [riskVote "alice" 1, riskVote "alice" 2]
  have hcomplete := hphase.complete (by decide) _ List.mem_cons_self
  have hlawful := hcomplete.distinctQuorum_iff.mp (hall _ List.mem_cons_self)
  exact absurd hlawful.once (by decide)

end ApprovalWorkflow

end SolFrontier.Types
