import SolFrontier.Types.Approval

/-! # Runs of an approval workflow

The stages of a workflow are always some complete ones, at most one that is
under way, and untouched ones. Every law of the state field is a case analysis
over that phase.
-/

namespace SolFrontier.Types

open Foundation

namespace ApprovalStage

variable {stage : ApprovalStage} {decision : StageDecision}

/-- Every recorded decision is an approval. -/
def Unopposed (stage : ApprovalStage) : Prop := ∀ d ∈ stage.decisions, d.approved = true

/-- As many approvals as the quorum asks for, and nothing else. -/
def Complete (stage : ApprovalStage) : Prop :=
  stage.Unopposed ∧ stage.decisions.length = stage.minApprovals.toNat

/-- Approvals only, and fewer than the quorum asks for. -/
def Waiting (stage : ApprovalStage) : Prop :=
  stage.Unopposed ∧ stage.decisions.length < stage.minApprovals.toNat

theorem Unopposed.approvalCount (hall : stage.Unopposed) :
    stage.approvalCount = stage.decisions.length := by
  rw [ApprovalStage.approvalCount, List.filter_eq_self.mpr hall]

theorem Unopposed.hasRejection (hall : stage.Unopposed) : stage.hasRejection = false := by
  rw [ApprovalStage.hasRejection, List.any_eq_false]
  intro d hmem
  simp [hall d hmem]

theorem Complete.quorumMet (hcomplete : stage.Complete) : stage.quorumMet = true := by
  simp [ApprovalStage.quorumMet, hcomplete.1.approvalCount, hcomplete.2]

theorem Complete.not_pending (hcomplete : stage.Complete) : stage.isPending = false := by
  simp [isPending, hcomplete.quorumMet]

theorem Waiting.not_quorumMet (hwaiting : stage.Waiting) : stage.quorumMet = false := by
  simp [ApprovalStage.quorumMet, hwaiting.1.approvalCount, hwaiting.2]

theorem Waiting.pending (hwaiting : stage.Waiting) : stage.isPending = true := by
  simp [isPending, hwaiting.not_quorumMet, hwaiting.1.hasRejection]

theorem unopposed_of_untouched (huntouched : stage.decisions = []) : stage.Unopposed := by
  intro d hmem
  simp [huntouched] at hmem

/-- An untouched stage waits, unless its quorum is empty. -/
theorem complete_or_waiting (huntouched : stage.decisions = []) :
    stage.Complete ∨ stage.Waiting := by
  have hall := unopposed_of_untouched huntouched
  rcases Nat.eq_zero_or_pos stage.minApprovals.toNat with hzero | hpos
  · exact .inl ⟨hall, by rw [huntouched, hzero, List.length_nil]⟩
  · exact .inr ⟨hall, by rwa [huntouched, List.length_nil]⟩

theorem Waiting.push_unopposed (hwaiting : stage.Waiting) (happroved : decision.approved = true) :
    (stage.push decision).Unopposed := by
  intro d hmem
  rcases List.mem_append.mp hmem with hold | hnew
  · exact hwaiting.1 d hold
  · rwa [List.mem_singleton.mp hnew]

/-- One more approval completes a waiting stage, or leaves it waiting. -/
theorem Waiting.push (hwaiting : stage.Waiting) (happroved : decision.approved = true) :
    (stage.push decision).Complete ∨ (stage.push decision).Waiting := by
  have hall := hwaiting.push_unopposed happroved
  have hlength : (stage.push decision).decisions.length = stage.decisions.length + 1 :=
    List.length_append
  rcases Nat.lt_or_eq_of_le (Nat.succ_le_of_lt hwaiting.2) with hmore | hlast
  · exact .inr ⟨hall, by rw [hlength]; exact hmore⟩
  · exact .inl ⟨hall, by rw [hlength]; exact hlast⟩

end ApprovalStage

/-- Where the stages of a workflow stand in each of its states. -/
inductive Phase : ApprovalWorkflowState → List ApprovalStage → Prop
  | approved {stages : List ApprovalStage} :
      (∀ stage ∈ stages, stage.Complete) → Phase .approved stages
  /-- No stage asks for any approval. -/
  | idle {state : ApprovalWorkflowState} {stages : List ApprovalStage} :
      state = .pending ∨ state = .expired →
      (∀ stage ∈ stages, stage.decisions = [] ∧ stage.Complete) → Phase state stages
  | waiting {state : ApprovalWorkflowState} {done rest : List ApprovalStage}
      {current : ApprovalStage} : state = .pending ∨ state = .expired →
      (∀ stage ∈ done, stage.Complete) → current.Waiting →
      (∀ stage ∈ rest, stage.decisions = []) → Phase state (done ++ current :: rest)
  | rejected {done rest : List ApprovalStage} {current : ApprovalStage}
      {decision : StageDecision} : (∀ stage ∈ done, stage.Complete) → current.Waiting →
      (∀ stage ∈ rest, stage.decisions = []) → decision.approved = false →
      Phase .rejected (done ++ current.push decision :: rest)

/-- Untouched stages are all complete, or one of them is the first to wait. -/
theorem untouched_cases {stages : List ApprovalStage}
    (huntouched : ∀ stage ∈ stages, stage.decisions = []) :
    (∀ stage ∈ stages, stage.Complete) ∨
    ∃ done current rest, stages = done ++ current :: rest ∧ (∀ stage ∈ done, stage.Complete) ∧
      current.Waiting ∧ ∀ stage ∈ rest, stage.decisions = [] := by
  induction stages with
  | nil => exact .inl (by simp)
  | cons head tail ih =>
      obtain ⟨hhead, htail⟩ := List.forall_mem_cons.mp huntouched
      rcases ApprovalStage.complete_or_waiting hhead with hcomplete | hwaiting
      · rcases ih htail with hall | ⟨done, current, rest, rfl, hdone, hcurrent, hrest⟩
        · exact .inl (List.forall_mem_cons.mpr ⟨hcomplete, hall⟩)
        · exact .inr ⟨head :: done, current, rest, rfl,
            List.forall_mem_cons.mpr ⟨hcomplete, hdone⟩, hcurrent, hrest⟩
      · exact .inr ⟨[], head, tail, rfl, by simp, hwaiting, htail⟩

/-- The stage under way is the first pending one. -/
theorem findIdx?_waiting {done rest : List ApprovalStage} {current : ApprovalStage}
    (hdone : ∀ stage ∈ done, stage.Complete) (hcurrent : current.Waiting) :
    (done ++ current :: rest).findIdx? ApprovalStage.isPending = some done.length := by
  induction done with
  | nil => simp [List.findIdx?_cons, hcurrent.pending]
  | cons head tail ih =>
      obtain ⟨hhead, htail⟩ := List.forall_mem_cons.mp hdone
      simp [List.findIdx?_cons, hhead.not_pending, ih htail]

theorem findIdx?_complete {stages : List ApprovalStage}
    (hall : ∀ stage ∈ stages, stage.Complete) :
    stages.findIdx? ApprovalStage.isPending = none := by
  rw [List.findIdx?_eq_none_iff]
  exact fun stage hmem => (hall stage hmem).not_pending

namespace ApprovalWorkflow

variable {workflow start : ApprovalWorkflow}

theorem modify_waiting {done rest : List ApprovalStage} {current : ApprovalStage}
    (change : ApprovalStage → ApprovalStage) :
    (done ++ current :: rest).modify done.length change = done ++ change current :: rest := by
  induction done with
  | nil => rfl
  | cons head tail ih => simpa using ih

/-- Everything recording a decision can do to a stage under way. -/
theorem phase_push {done rest : List ApprovalStage} {current : ApprovalStage}
    (hdone : ∀ stage ∈ done, stage.Complete) (hcurrent : current.Waiting)
    (hrest : ∀ stage ∈ rest, stage.decisions = []) (decision : StageDecision) :
    Phase (if !decision.approved then .rejected
      else if (current.push decision).quorumMet &&
          (done ++ current.push decision :: rest).all ApprovalStage.quorumMet then .approved
      else .pending) (done ++ current.push decision :: rest) := by
  cases happroved : decision.approved with
  | false =>
      rw [if_pos (by rfl)]
      exact .rejected hdone hcurrent hrest happroved
  | true =>
      rw [if_neg (by simp)]
      rcases hcurrent.push happroved with hcomplete | hwaiting
      · have hdone' : ∀ stage ∈ done ++ [current.push decision], stage.Complete :=
          List.forall_mem_append.mpr ⟨hdone, by simpa using hcomplete⟩
        rcases untouched_cases hrest with hall | ⟨more, next, others, rfl, hmore, hnext, hothers⟩
        · have hstages : ∀ stage ∈ done ++ current.push decision :: rest, stage.Complete :=
            List.forall_mem_append.mpr ⟨hdone, List.forall_mem_cons.mpr ⟨hcomplete, hall⟩⟩
          have hmet : (done ++ current.push decision :: rest).all ApprovalStage.quorumMet = true :=
            List.all_eq_true.mpr fun stage hmem => (hstages stage hmem).quorumMet
          rw [hcomplete.quorumMet, hmet, if_pos (by rfl)]
          exact .approved hstages
        · have hunmet : (done ++ current.push decision :: (more ++ next :: others)).all
              ApprovalStage.quorumMet = false :=
            List.all_eq_false.mpr ⟨next, by simp, by simp [hnext.not_quorumMet]⟩
          rw [hunmet, Bool.and_false, if_neg (by simp)]
          have hsplit : done ++ current.push decision :: (more ++ next :: others) =
              (done ++ current.push decision :: more) ++ next :: others := by simp
          rw [hsplit]
          refine .waiting (.inl rfl) ?_ hnext hothers
          exact List.forall_mem_append.mpr ⟨hdone, List.forall_mem_cons.mpr ⟨hcomplete, hmore⟩⟩
      · rw [hwaiting.not_quorumMet, Bool.false_and, if_neg (by simp)]
        exact .waiting (.inl rfl) hdone hwaiting hrest

/-- A workflow that records a decision was pending, with a stage under way. -/
theorem applyDecision_cases (hphase : Phase workflow.state workflow.stages)
    (decision : StageDecision) (now : UtcTime) :
    workflow.applyDecision decision now = (workflow, false) ∨
    ∃ done current rest state, workflow.state = .pending ∧
      workflow.stages = done ++ current :: rest ∧ (∀ stage ∈ done, stage.Complete) ∧
      current.Waiting ∧ (∀ stage ∈ rest, stage.decisions = []) ∧
      Phase state (done ++ current.push decision :: rest) ∧
      workflow.applyDecision decision now =
        ({ workflow with
            state
            stages := done ++ current.push decision :: rest
            updatedAt := now }, true) := by
  by_cases hpending : workflow.state = .pending
  · generalize hstages : workflow.stages = stages at hphase
    rw [hpending] at hphase
    have hopen : workflow.state.isTerminal = false := by rw [hpending]; rfl
    cases hphase with
    | idle _ hall =>
        left
        rw [applyDecision, hopen, hstages, findIdx?_complete fun stage hmem => (hall stage hmem).2]
        rfl
    | @waiting _ done rest current _ hdone hcurrent hrest =>
        refine .inr ⟨done, current, rest, _, hpending, rfl, hdone, hcurrent, hrest,
          phase_push hdone hcurrent hrest decision, ?_⟩
        rw [applyDecision, hopen, hstages, findIdx?_waiting hdone hcurrent]
        simp [modify_waiting, hpending]
  · have hterminal : workflow.state.isTerminal = true := by
      cases hstate : workflow.state <;> simp_all [ApprovalWorkflowState.isTerminal]
    left
    rw [applyDecision, hterminal]
    rfl

/-! ## Runs -/

/-- A pending workflow without decisions. -/
structure Fresh (start : ApprovalWorkflow) : Prop where
  pending : start.state = .pending
  untouched : ∀ stage ∈ start.stages, stage.decisions = []

theorem Fresh.phase (hfresh : start.Fresh) : Phase start.state start.stages := by
  rcases untouched_cases hfresh.untouched with hall |
    ⟨done, current, rest, hstages, hdone, hcurrent, hrest⟩
  · exact .idle (.inl hfresh.pending)
      fun stage hmem => ⟨hfresh.untouched stage hmem, hall stage hmem⟩
  · rw [hstages]
    exact .waiting (.inl hfresh.pending) hdone hcurrent hrest

/-- Everything a call can do to a workflow. -/
theorem call_cases (hphase : Phase workflow.state workflow.stages) (request : WorkflowCall) :
    workflow.call request = (workflow, false) ∨
    (∃ now, request = .expire now ∧ workflow.state = .pending ∧
      workflow.call request = ({ workflow with state := .expired, updatedAt := now }, true)) ∨
    ∃ decision now done current rest state, request = .applyDecision decision now ∧
      workflow.state = .pending ∧ workflow.stages = done ++ current :: rest ∧
      (∀ stage ∈ done, stage.Complete) ∧ current.Waiting ∧
      (∀ stage ∈ rest, stage.decisions = []) ∧
      Phase state (done ++ current.push decision :: rest) ∧
      workflow.call request =
        ({ workflow with
            state
            stages := done ++ current.push decision :: rest
            updatedAt := now }, true) := by
  cases request with
  | applyDecision decision now =>
      rcases applyDecision_cases hphase decision now with
        hkept | ⟨done, current, rest, state, hrecorded⟩
      · exact .inl hkept
      · exact .inr (.inr ⟨decision, now, done, current, rest, state, rfl, hrecorded⟩)
  | expire now =>
      by_cases hpending : workflow.state = .pending
      · exact .inr (.inl ⟨now, rfl, hpending, if_pos hpending⟩)
      · exact .inl (if_neg hpending)

theorem call_phase (hphase : Phase workflow.state workflow.stages) (request : WorkflowCall) :
    Phase (workflow.call request).1.state (workflow.call request).1.stages := by
  rcases call_cases hphase request with
    hkept | ⟨now, _, hpending, hexpired⟩ | ⟨_, _, _, _, _, _, _, _, _, _, _, _, hnext, hrecorded⟩
  · rwa [hkept]
  · rw [hexpired]
    generalize workflow.stages = stages at hphase
    rw [hpending] at hphase
    cases hphase with
    | idle _ hall => exact .idle (.inr rfl) hall
    | waiting _ hdone hcurrent hrest => exact .waiting (.inr rfl) hdone hcurrent hrest
  · rw [hrecorded]
    exact hnext

theorem lifetime_phase (hfresh : start.Fresh) (history : List WorkflowCall) :
    Phase (start.lifetime.after history).state (start.lifetime.after history).stages := by
  apply start.lifetime.after_induction (P := fun _ workflow => Phase workflow.state workflow.stages)
  · exact hfresh.phase
  · intro history request hphase
    exact call_phase hphase request

/-- The decision that a call records, if it records one. -/
def recordedBy (workflow : ApprovalWorkflow) : WorkflowCall → List StageDecision
  | .applyDecision decision now => if (workflow.applyDecision decision now).2 then [decision] else []
  | .expire _ => []

/-- The decisions that a run records, in order. -/
def recorded (start : ApprovalWorkflow) : List WorkflowCall → List StageDecision
  | [] => []
  | request :: later => start.recordedBy request ++ (start.call request).1.recorded later

theorem recorded_append (history later : List WorkflowCall) :
    start.recorded (history ++ later) =
      start.recorded history ++ (start.lifetime.after history).recorded later := by
  induction history generalizing start with
  | nil => rfl
  | cons request history ih =>
      rw [List.cons_append, recorded, recorded, ih, List.append_assoc]
      rfl

theorem recordedBy_of_kept {request : WorkflowCall}
    (hkept : workflow.call request = (workflow, false)) : workflow.recordedBy request = [] := by
  cases request with
  | applyDecision decision now =>
      have hanswer : (workflow.applyDecision decision now).2 = false := congrArg Prod.snd hkept
      rw [recordedBy, hanswer]
      rfl
  | expire now => rfl

/-- The stages hold the recorded decisions in their order, stage after stage. -/
theorem recorded_eq (hfresh : start.Fresh) (history : List WorkflowCall) :
    start.recorded history =
      (start.lifetime.after history).stages.flatMap ApprovalStage.decisions := by
  apply start.lifetime.after_induction
    (P := fun history workflow =>
      start.recorded history = workflow.stages.flatMap ApprovalStage.decisions)
  · exact (List.flatMap_eq_nil_iff.mpr hfresh.untouched).symm
  · intro history request ih
    rw [recorded_append, ih, recorded, recorded, List.append_nil]
    generalize hworkflow : start.lifetime.after history = workflow
    have hphase : Phase workflow.state workflow.stages := hworkflow ▸ lifetime_phase hfresh history
    show _ = (workflow.call request).1.stages.flatMap ApprovalStage.decisions
    rcases call_cases hphase request with hkept | ⟨now, rfl, _, hexpired⟩ |
      ⟨decision, now, done, current, rest, state, rfl, _, hstages, _, _, hrest, _, hrecorded⟩
    · rw [recordedBy_of_kept hkept, hkept, List.append_nil]
    · rw [hexpired, recordedBy, List.append_nil]
    · have hanswer : (workflow.applyDecision decision now).2 = true := congrArg Prod.snd hrecorded
      have hnone : rest.flatMap ApprovalStage.decisions = [] := List.flatMap_eq_nil_iff.mpr hrest
      rw [recordedBy, hanswer, hrecorded, hstages]
      simp [hnone, ApprovalStage.push]

/-- The quorums never change. -/
theorem lifetime_quorums (hfresh : start.Fresh) (history : List WorkflowCall) :
    (start.lifetime.after history).stages.map ApprovalStage.minApprovals =
      start.stages.map ApprovalStage.minApprovals := by
  apply start.lifetime.after_induction
    (P := fun _ workflow => workflow.stages.map ApprovalStage.minApprovals =
      start.stages.map ApprovalStage.minApprovals)
  · rfl
  · intro history request ih
    rw [← ih]
    show (((start.lifetime.after history).call request).1.stages).map _ = _
    rcases call_cases (lifetime_phase hfresh history) request with hkept | ⟨_, _, _, hexpired⟩ |
      ⟨_, _, _, _, _, _, _, _, hstages, _, _, _, _, hrecorded⟩
    · rw [hkept]
    · rw [hexpired]
    · rw [hrecorded, hstages]
      simp [ApprovalStage.push]

end ApprovalWorkflow

/-! ## The laws of a phase -/

namespace Phase

variable {state : ApprovalWorkflowState} {stages : List ApprovalStage}

theorem waiting_ne {state other : ApprovalWorkflowState}
    (hstate : state = .pending ∨ state = .expired) (hother : other = .approved ∨ other = .rejected) :
    state ≠ other := by
  rcases hstate with rfl | rfl <;> rcases hother with rfl | rfl <;> decide

/-- A stage that asks for approvals is not complete without any. -/
theorem not_idle (hasks : ∃ stage ∈ stages, 1 ≤ stage.minApprovals)
    (hidle : ∀ stage ∈ stages, stage.decisions = [] ∧ stage.Complete) : False := by
  obtain ⟨stage, hmem, hone⟩ := hasks
  obtain ⟨huntouched, _, hlength⟩ := hidle stage hmem
  rw [huntouched, List.length_nil] at hlength
  have hle := UInt32.le_iff_toNat_le.mp hone
  rw [← hlength] at hle
  exact absurd hle (by decide)

theorem approved_iff (hphase : Phase state stages)
    (hasks : ∃ stage ∈ stages, 1 ≤ stage.minApprovals) :
    state = .approved ↔ (∀ stage ∈ stages, stage.quorumMet = true) ∧
      ∀ stage ∈ stages, ∀ d ∈ stage.decisions, d.approved = true := by
  cases hphase with
  | approved hall =>
      exact iff_of_true rfl
        ⟨fun stage hmem => (hall stage hmem).quorumMet, fun stage hmem => (hall stage hmem).1⟩
  | idle _ hall => exact (not_idle hasks hall).elim
  | waiting hstate _ hcurrent =>
      apply iff_of_false (waiting_ne hstate (.inl rfl))
      rintro ⟨hmet, _⟩
      have hcontra := hmet _ (List.mem_append_right _ List.mem_cons_self)
      rw [hcurrent.not_quorumMet] at hcontra
      cases hcontra
  | @rejected done rest current decision _ _ _ hrefused =>
      apply iff_of_false (by decide)
      rintro ⟨_, hall⟩
      have hcontra := hall (current.push decision) (by simp) decision
        (by simp [ApprovalStage.push])
      rw [hrefused] at hcontra
      cases hcontra

theorem complete (hphase : Phase state stages) (hstate : state = .approved) :
    ∀ stage ∈ stages, stage.Complete := by
  cases hphase with
  | approved hall => exact hall
  | idle hopen => exact absurd hstate (waiting_ne hopen (.inl rfl))
  | waiting hopen => exact absurd hstate (waiting_ne hopen (.inl rfl))
  | rejected => cases hstate

theorem unopposed (hphase : Phase state stages) (hstate : state ≠ .rejected) :
    ∀ stage ∈ stages, stage.Unopposed := by
  intro stage hmem
  cases hphase with
  | approved hall => exact (hall stage hmem).1
  | idle _ hall => exact (hall stage hmem).2.1
  | waiting _ hdone hcurrent hrest =>
      rcases List.mem_append.mp hmem with hbefore | hafter
      · exact (hdone stage hbefore).1
      · rcases List.mem_cons.mp hafter with rfl | hlater
        · exact hcurrent.1
        · exact ApprovalStage.unopposed_of_untouched (hrest stage hlater)
  | rejected => exact absurd rfl hstate

/-- A rejection is the last decision and the only one of its kind. -/
theorem rejection_last (hphase : Phase state stages) (hstate : state = .rejected) :
    ∃ earlier last, stages.flatMap ApprovalStage.decisions = earlier ++ [last] ∧
      last.approved = false ∧ ∀ d ∈ earlier, d.approved = true := by
  cases hphase with
  | approved => cases hstate
  | idle hopen => exact absurd hstate (waiting_ne hopen (.inr rfl))
  | waiting hopen => exact absurd hstate (waiting_ne hopen (.inr rfl))
  | @rejected done rest current decision hdone hcurrent hrest hrefused =>
      have hnone : rest.flatMap ApprovalStage.decisions = [] := List.flatMap_eq_nil_iff.mpr hrest
      refine ⟨done.flatMap ApprovalStage.decisions ++ current.decisions, decision, ?_, hrefused, ?_⟩
      · simp [hnone, ApprovalStage.push]
      · intro d hmem
        rcases List.mem_append.mp hmem with hbefore | hthis
        · obtain ⟨stage, hstage, hd⟩ := List.mem_flatMap.mp hbefore
          exact (hdone stage hstage).1 d hd
        · exact hcurrent.1 d hthis

theorem rejected_iff (hphase : Phase state stages) :
    state = .rejected ↔ ∃ stage ∈ stages, ∃ d ∈ stage.decisions, d.approved = false := by
  constructor
  · intro hstate
    obtain ⟨earlier, last, hdecisions, hrefused, _⟩ := hphase.rejection_last hstate
    have hmem : last ∈ stages.flatMap ApprovalStage.decisions := by simp [hdecisions]
    obtain ⟨stage, hstage, hlast⟩ := List.mem_flatMap.mp hmem
    exact ⟨stage, hstage, last, hlast, hrefused⟩
  · rintro ⟨stage, hstage, d, hmem, hrefused⟩
    by_contra hstate
    have happroved := hphase.unopposed hstate stage hstage d hmem
    rw [hrefused] at happroved
    cases happroved

/-- A stage with decisions comes after complete ones only. -/
theorem in_order (hphase : Phase state stages) :
    stages.Pairwise fun earlier later => later.decisions ≠ [] → earlier.quorumMet = true := by
  have hcomplete : ∀ {done : List ApprovalStage}, (∀ stage ∈ done, stage.Complete) →
      done.Pairwise fun earlier later => later.decisions ≠ [] → earlier.quorumMet = true := by
    intro done hdone
    apply List.pairwise_of_forall_mem_list
    exact fun earlier hearlier _ _ _ => (hdone earlier hearlier).quorumMet
  have hsplit : ∀ {done rest : List ApprovalStage} {current : ApprovalStage},
      (∀ stage ∈ done, stage.Complete) → (∀ stage ∈ rest, stage.decisions = []) →
      (done ++ current :: rest).Pairwise fun earlier later =>
        later.decisions ≠ [] → earlier.quorumMet = true := by
    intro done rest current hdone hrest
    rw [List.pairwise_append, List.pairwise_cons]
    refine ⟨hcomplete hdone, ⟨?_, ?_⟩, ?_⟩
    · exact fun later hlater hsome => absurd (hrest later hlater) hsome
    · apply List.pairwise_of_forall_mem_list
      exact fun _ _ later hlater hsome => absurd (hrest later hlater) hsome
    · exact fun earlier hearlier _ _ _ => (hdone earlier hearlier).quorumMet
  cases hphase with
  | approved hall => exact hcomplete hall
  | idle _ hall => exact hcomplete fun stage hmem => (hall stage hmem).2
  | waiting _ hdone _ hrest => exact hsplit hdone hrest
  | rejected hdone _ hrest => exact hsplit hdone hrest

theorem approvalCount_le (hphase : Phase state stages) :
    ∀ stage ∈ stages, stage.approvalCount ≤ stage.minApprovals.toNat := by
  have hsplit : ∀ {done rest : List ApprovalStage} {current : ApprovalStage},
      (∀ stage ∈ done, stage.Complete) → current.approvalCount ≤ current.minApprovals.toNat →
      (∀ stage ∈ rest, stage.decisions = []) →
      ∀ stage ∈ done ++ current :: rest, stage.approvalCount ≤ stage.minApprovals.toNat := by
    intro done rest current hdone hcurrent hrest
    refine List.forall_mem_append.mpr ⟨?_, List.forall_mem_cons.mpr ⟨hcurrent, ?_⟩⟩
    · exact fun stage hmem => (hdone stage hmem).1.approvalCount ▸ (hdone stage hmem).2.le
    · intro stage hmem
      simp [ApprovalStage.approvalCount, hrest stage hmem]
  cases hphase with
  | approved hall => exact fun stage hmem => (hall stage hmem).1.approvalCount ▸ (hall stage hmem).2.le
  | idle _ hall =>
      intro stage hmem
      simp [ApprovalStage.approvalCount, (hall stage hmem).1]
  | waiting _ hdone hcurrent hrest =>
      exact hsplit hdone (hcurrent.1.approvalCount ▸ hcurrent.2.le) hrest
  | @rejected done rest current decision hdone hcurrent hrest hrefused =>
      refine hsplit hdone ?_ hrest
      have hcount : (current.push decision).approvalCount = current.approvalCount := by
        simp [ApprovalStage.approvalCount, ApprovalStage.push, List.filter_append, hrefused]
      rw [hcount, hcurrent.1.approvalCount]
      exact hcurrent.2.le

end Phase

namespace ApprovalWorkflow

variable {workflow start : ApprovalWorkflow}

/-- A pending workflow that asks for an approval has a stage under way. -/
theorem currentStage_isSome (hphase : Phase workflow.state workflow.stages)
    (hasks : ∃ stage ∈ workflow.stages, 1 ≤ stage.minApprovals)
    (hpending : workflow.state = .pending) : workflow.currentStage.isSome = true := by
  rw [currentStage, List.find?_isSome]
  generalize workflow.stages = stages at hphase hasks
  rw [hpending] at hphase
  cases hphase with
  | idle _ hall => exact (Phase.not_idle hasks hall).elim
  | waiting _ _ hcurrent =>
      exact ⟨_, List.mem_append_right _ List.mem_cons_self, hcurrent.pending⟩

/-- A terminal workflow refuses every call. -/
theorem call_of_terminal (hterminal : workflow.state.isTerminal = true) (request : WorkflowCall) :
    workflow.call request = (workflow, false) := by
  cases request with
  | applyDecision decision now => exact if_pos hterminal
  | expire now =>
      apply if_neg
      intro hpending
      rw [hpending] at hterminal
      cases hterminal

theorem after_of_terminal {history : List WorkflowCall}
    (hterminal : (start.lifetime.after history).state.isTerminal = true)
    (later : List WorkflowCall) :
    start.lifetime.after (history ++ later) = start.lifetime.after history ∧
      start.recorded (history ++ later) = start.recorded history := by
  have hstays : ∀ {workflow : ApprovalWorkflow} (later : List WorkflowCall),
      workflow.state.isTerminal = true → workflow.recorded later = [] := by
    intro workflow later hterminal
    induction later with
    | nil => rfl
    | cons request later ih =>
        have hkept := call_of_terminal hterminal request
        rw [recorded, recordedBy_of_kept hkept, hkept, ih]
        rfl
  constructor
  · apply start.lifetime.after_stable (P := fun workflow => workflow = start.lifetime.after history)
    · rintro _ request rfl
      exact congrArg Prod.fst (call_of_terminal hterminal request)
    · rfl
  · rw [recorded_append, hstays later hterminal, List.append_nil]

/-- Any calls on a pending workflow whose stages all ask for approvals: its
state follows from the decisions its stages hold. -/
theorem workflow_invariant (start : ApprovalWorkflow) (hfresh : start.Fresh)
    (hnonempty : start.stages ≠ []) (hquorum : ∀ stage ∈ start.stages, 1 ≤ stage.minApprovals)
    (history : List WorkflowCall) :
    let workflow := start.lifetime.after history
    let recorded := start.recorded history
    (workflow.state = .approved ↔ (∀ stage ∈ workflow.stages, stage.quorumMet = true) ∧
      ∀ stage ∈ workflow.stages, ∀ d ∈ stage.decisions, d.approved = true) ∧
    (workflow.state = .rejected ↔
      ∃ stage ∈ workflow.stages, ∃ d ∈ stage.decisions, d.approved = false) ∧
    (workflow.state = .rejected → ∃ earlier last, recorded = earlier ++ [last] ∧
      last.approved = false ∧ ∀ d ∈ earlier, d.approved = true) ∧
    recorded = workflow.stages.flatMap ApprovalStage.decisions ∧
    (workflow.stages.Pairwise fun earlier later =>
      later.decisions ≠ [] → earlier.quorumMet = true) ∧
    (∀ stage ∈ workflow.stages, stage.approvalCount ≤ stage.minApprovals.toNat) ∧
    (workflow.state = .pending → workflow.currentStage.isSome = true) ∧
    (workflow.state.isTerminal = true → ∀ later,
      start.lifetime.after (history ++ later) = workflow ∧
        start.recorded (history ++ later) = recorded) ∧
    ∀ request, (workflow.call request).2 = false → (workflow.call request).1 = workflow := by
  intro workflow recorded
  have hphase : Phase workflow.state workflow.stages := lifetime_phase hfresh history
  have hrecorded : recorded = workflow.stages.flatMap ApprovalStage.decisions :=
    recorded_eq hfresh history
  have hasks : ∃ stage ∈ workflow.stages, 1 ≤ stage.minApprovals := by
    obtain ⟨stage, hmem⟩ := List.exists_mem_of_ne_nil _ hnonempty
    have hquorums := List.mem_map_of_mem (f := ApprovalStage.minApprovals) hmem
    rw [← lifetime_quorums hfresh history] at hquorums
    obtain ⟨current, hcurrent, hsame⟩ := List.mem_map.mp hquorums
    exact ⟨current, hcurrent, hsame ▸ hquorum stage hmem⟩
  refine ⟨hphase.approved_iff hasks, hphase.rejected_iff, ?_, hrecorded, hphase.in_order,
    hphase.approvalCount_le, currentStage_isSome hphase hasks, after_of_terminal, ?_⟩
  · intro hrejected
    rw [hrecorded]
    exact hphase.rejection_last hrejected
  · intro request hrefused
    rcases call_cases hphase request with hkept | ⟨_, _, _, hexpired⟩ |
      ⟨_, _, _, _, _, _, _, _, _, _, _, _, _, hrecords⟩
    · rw [hkept]
    · rw [hexpired] at hrefused
      cases hrefused
    · rw [hrecords] at hrefused
      cases hrefused

theorem fresh_singleStage (requestId sessionId : Bytes 16) (requiredRole : Option String)
    (now : UtcTime) : (singleStage requestId sessionId requiredRole now).Fresh where
  pending := rfl
  untouched stage hmem := by rw [List.mem_singleton.mp hmem]

/-- A workflow of one stage, approved by the first approval. -/
theorem workflow_invariant_single :
    ((singleStage ⟨List.replicate 16 1, rfl⟩ ⟨List.replicate 16 2, rfl⟩ none 0).lifetime.after
      [.applyDecision ⟨true, none, none, 1⟩ 1, .expire 2]).state = .approved :=
  (workflow_invariant _ (fresh_singleStage _ _ none 0) (by decide) (by decide)
    [.applyDecision ⟨true, none, none, 1⟩ 1, .expire 2]).1.mpr (by decide)

end ApprovalWorkflow

end SolFrontier.Types
