import SolFrontier.StateStore.PendingJupiter

/-! # The lifecycle of a swap intent

A mark writes the named state over whatever the row holds, and a drain sweeps
whatever states it is given. The stored states follow the documented diagram
exactly as long as each call meets a state from which it may start.
-/

namespace SolFrontier.StateStore

open Foundation

/-- The documented transitions. -/
def jupiterTransitions : List (String × String) :=
  [(JupiterState.pendingApproval, JupiterState.approvedWaitingJit),
    (JupiterState.pendingApproval, JupiterState.rejected),
    (JupiterState.pendingApproval, JupiterState.expired),
    (JupiterState.approvedWaitingJit, JupiterState.jitBuilding),
    (JupiterState.jitBuilding, JupiterState.submitted),
    (JupiterState.jitBuilding, JupiterState.awaitingWalletSignature),
    (JupiterState.jitBuilding, JupiterState.jitBuildFailed),
    (JupiterState.awaitingWalletSignature, JupiterState.submitted)]

/-- The states that nothing follows. -/
def jupiterSettled : List String :=
  [JupiterState.submitted, JupiterState.rejected, JupiterState.expired,
    JupiterState.jitBuildFailed]

theorem not_settled_of_transition {old new : String} (hedge : (old, new) ∈ jupiterTransitions) :
    old ∉ jupiterSettled := by
  have hall : ∀ edge ∈ jupiterTransitions, edge.1 ∉ jupiterSettled := by decide
  exact hall (old, new) hedge

namespace JupiterOp

def Drains : JupiterOp → Prop
  | expireStuck .. => True
  | _ => False

/-- The statement may start from what is stored: a mark names the stored state
or a successor of it, and a drain that finds a row finds it in a state the
diagram lets expire or in one it is meant to drain. -/
def MayStart (drained : List String) (table : JupiterTable) (op : JupiterOp) (index : Nat) : Prop :=
  match op with
  | markState intentId state _ => index = 0 → ∀ row, table.get intentId = some row →
      state = row.state ∨ (row.state, state) ∈ jupiterTransitions
  | expireStuck states _ => ∀ state, states[index]? = some state →
      (∃ intentId row, table.get intentId = some row ∧ row.state = state) →
      state = JupiterState.expired ∨ (state, JupiterState.expired) ∈ jupiterTransitions ∨
        state ∈ drained ∧ state ∉ jupiterSettled
  | insert .. | attachRequestId .. => True

/-- The state that one statement of a call leaves in a stored row. -/
def newState (op : JupiterOp) (index : Nat) (row : JupiterRow) : String :=
  match op with
  | markState intentId state _ =>
      if index = 0 ∧ row.intentId = intentId then state else row.state
  | expireStuck states _ =>
      if states[index]? = some row.state then JupiterState.expired else row.state
  | insert .. | attachRequestId .. => row.state

end JupiterOp

/-- What one statement of a call does to a stored row. -/
theorem get_jupiterStep {table : JupiterTable} (call : JupiterCall) (index : Nat)
    {intentId : String} {row : JupiterRow} (hget : table.get intentId = some row) :
    ∃ next, (jupiterStore.step table (call, index)).get intentId = some next ∧
      next.state = call.1.newState index row := by
  obtain ⟨op, now⟩ := call
  obtain rfl := Table.key_of_get hget
  show ∃ next, (performPart Table.perform JupiterCall.statements table ((op, now), index)).get
    row.intentId = some next ∧ next.state = op.newState index row
  cases op with
  | insert intent requestId state policyVerdictJson previewJson =>
      have hparts : JupiterCall.statements (.insert intent requestId state policyVerdictJson
        previewJson, now) = [_] := rfl
      rw [performPart_singleton hparts]
      split
      · obtain hsame | ⟨_, hop, _⟩ := Table.get_execute_of_some (.insert _) hget
        · exact ⟨row, hsame, rfl⟩
        · cases hop
      · exact ⟨row, hget, rfl⟩
  | attachRequestId target requestId =>
      have hparts : JupiterCall.statements (.attachRequestId target requestId, now) = [_] := rfl
      rw [performPart_singleton hparts]
      split
      · by_cases htarget : row.intentId = target
        · subst htarget
          exact ⟨_, Table.get_execute_update hget rfl, rfl⟩
        · exact ⟨row, (Table.get_update_of_ne table _ htarget).trans hget, rfl⟩
      · exact ⟨row, hget, rfl⟩
  | markState target state lastError =>
      have hparts : JupiterCall.statements (.markState target state lastError, now) = [_] := rfl
      rw [performPart_singleton hparts, JupiterOp.newState]
      -- A mark is a single statement, so only the index 0 does anything.
      by_cases hindex : index = 0
      · by_cases htarget : row.intentId = target
        · subst htarget
          rw [if_pos hindex, if_pos ⟨hindex, rfl⟩]
          exact ⟨_, Table.get_execute_update hget rfl, rfl⟩
        · rw [if_pos hindex, if_neg fun h => htarget h.2]
          exact ⟨row, (Table.get_update_of_ne table _ htarget).trans hget, rfl⟩
      · rw [if_neg hindex, if_neg fun h => hindex h.1]
        exact ⟨row, hget, rfl⟩
  | expireStuck states reason =>
      simp only [JupiterOp.newState, performPart, JupiterCall.statements, JupiterOp.statements,
        List.getElem?_map]
      cases hstate : states[index]? with
      | none => exact ⟨row, hget, rfl⟩
      | some state =>
          refine ⟨_, (Table.get_sweep table _ row.intentId).trans (congrArg _ hget), ?_⟩
          by_cases hmet : row.state = state
          · rw [Update.onRow_of_guard _ (decide_eq_true hmet), if_pos (congrArg some hmet.symm)]
            rfl
          · rw [Update.onRow_of_not_guard _ (decide_eq_false hmet),
              if_neg fun h => hmet (Option.some.inj h).symm]

/-- Every change of a stored state is a transition of the diagram, or a drain of
a state meant to be drained; and a settled row keeps its state. -/
structure FollowsDiagram (drained : List String) (history : List (JupiterCall × Nat)) : Prop where
  changes : ∀ earlier call index later intentId row next,
    history = earlier ++ (call, index) :: later →
    (jupiterStore.after earlier).get intentId = some row →
    (jupiterStore.after (earlier ++ [(call, index)])).get intentId = some next →
    next.state ≠ row.state →
    (row.state, next.state) ∈ jupiterTransitions ∨
      call.1.Drains ∧ row.state ∈ drained ∧ next.state = JupiterState.expired
  settled : ∀ earlier middle later intentId row, history = earlier ++ middle ++ later →
    (jupiterStore.after earlier).get intentId = some row → row.state ∈ jupiterSettled →
    ∃ current, (jupiterStore.after (earlier ++ middle)).get intentId = some current ∧
      current.state = row.state

section Runs

variable {drained : List String} {table : JupiterTable} {op : JupiterOp} {index : Nat}
  {intentId : String} {row : JupiterRow}

/-- From where it may start, a statement keeps the state or takes an allowed edge. -/
theorem newState_of_mayStart (hstart : op.MayStart drained table index)
    (hget : table.get intentId = some row) :
    op.newState index row = row.state ∨ (row.state, op.newState index row) ∈ jupiterTransitions ∨
      op.Drains ∧ row.state ∈ drained ∧ row.state ∉ jupiterSettled ∧
        op.newState index row = JupiterState.expired := by
  cases op with
  | insert | attachRequestId => exact .inl rfl
  | markState target state lastError =>
      rw [JupiterOp.newState]
      split
      next haddressed =>
        obtain ⟨hindex, htarget⟩ := haddressed
        rw [← Table.key_of_get hget, htarget] at hget
        exact (hstart hindex row hget).imp_right .inl
      next => exact .inl rfl
  | expireStuck states reason =>
      rw [JupiterOp.newState]
      split
      next hnamed =>
        rcases hstart row.state hnamed ⟨intentId, row, hget, rfl⟩ with hsame | hedge | hdrained
        · exact .inl hsame.symm
        · exact .inr (.inl hedge)
        · exact .inr (.inr ⟨trivial, hdrained.1, hdrained.2, rfl⟩)
      next => exact .inl rfl

/-- No statement that may start moves a settled row. -/
theorem newState_of_settled (hstart : op.MayStart drained table index)
    (hget : table.get intentId = some row) (hsettled : row.state ∈ jupiterSettled) :
    op.newState index row = row.state := by
  rcases newState_of_mayStart hstart hget with hsame | hedge | ⟨_, _, hopen, _⟩
  · exact hsame
  · exact absurd hsettled (not_settled_of_transition hedge)
  · exact absurd hsettled hopen

/-- While every statement may start, a settled row keeps its state. -/
theorem settled_after {earlier middle : List (JupiterCall × Nat)}
    (hstarts : jupiterStore.Throughout (fun table label =>
      label.1.1.MayStart drained table label.2) (earlier ++ middle))
    (hget : (jupiterStore.after earlier).get intentId = some row)
    (hsettled : row.state ∈ jupiterSettled) :
    ∃ current, (jupiterStore.after (earlier ++ middle)).get intentId = some current ∧
      current.state = row.state := by
  induction middle using List.reverseRecOn with
  | nil => exact ⟨row, by rwa [List.append_nil], rfl⟩
  | append_singleton middle label ih =>
      rw [← List.append_assoc] at hstarts ⊢
      obtain ⟨hbefore, hlast⟩ := jupiterStore.throughout_concat.mp hstarts
      obtain ⟨current, hcurrent, hsame⟩ := ih hbefore
      obtain ⟨next, hnext, hstate⟩ := get_jupiterStep label.1 label.2 hcurrent
      refine ⟨next, by rwa [Machine.after_concat], ?_⟩
      rw [hstate, newState_of_settled hlast hcurrent (hsame ▸ hsettled), hsame]

/-- The state a mark leaves in the row it addresses, and a drain in the rows it names. -/
theorem newState_markState {target state : String} {lastError : Option String}
    (htarget : row.intentId = target) :
    (JupiterOp.markState target state lastError).newState 0 row = state :=
  if_pos ⟨rfl, htarget⟩

/-- Any calls in any order, their statements interleaved in any way: the stored
states follow the diagram exactly when every mark finds its own state or a
predecessor of it, and no drain finds a row in a state it is not meant to drain. -/
theorem jupiter_follows_diagram_iff (drained : List String)
    (history : List (JupiterCall × Nat)) :
    FollowsDiagram drained history ↔ jupiterStore.Throughout (fun table label =>
      label.1.1.MayStart drained table label.2) history := by
  constructor
  · rintro hfollows earlier ⟨⟨op, now⟩, index⟩ later rfl
    have hstep : ∀ {intentId row}, (jupiterStore.after earlier).get intentId = some row →
        ∃ next, (jupiterStore.after (earlier ++ [((op, now), index)])).get intentId = some next ∧
          next.state = op.newState index row := by
      intro intentId row hget
      rw [Machine.after_concat]
      exact get_jupiterStep (op, now) index hget
    have hchange : ∀ {intentId row}, (jupiterStore.after earlier).get intentId = some row →
        op.newState index row ≠ row.state →
        (row.state, op.newState index row) ∈ jupiterTransitions ∨
          op.Drains ∧ row.state ∈ drained ∧ op.newState index row = JupiterState.expired := by
      intro intentId row hget hne
      obtain ⟨next, hnext, hstate⟩ := hstep hget
      rw [← hstate] at hne ⊢
      exact hfollows.changes earlier (op, now) index later intentId row next rfl hget hnext hne
    cases op with
    | insert | attachRequestId => trivial
    | markState target state lastError =>
        rintro hindex row hget
        obtain rfl : index = 0 := hindex
        by_cases hsame : state = row.state
        · exact .inl hsame
        · have hnew : (JupiterOp.markState target state lastError).newState 0 row = state :=
            newState_markState (Table.key_of_get hget)
          have hmoved := hchange hget
          rw [hnew] at hmoved
          rcases hmoved hsame with hedge | ⟨hdrains, _⟩
          · exact .inr hedge
          · exact absurd hdrains id
    | expireStuck states reason =>
        rintro _ hnamed ⟨intentId, row, hget, rfl⟩
        have hnew : (JupiterOp.expireStuck states reason).newState index row =
          JupiterState.expired := if_pos hnamed
        by_cases hsame : row.state = JupiterState.expired
        · exact .inl hsame
        · refine .inr ?_
          rcases hchange hget (hnew ▸ Ne.symm hsame) with hedge | ⟨_, hdrained, _⟩
          · exact .inl (hnew ▸ hedge)
          · -- A settled row would have been expired by the drain.
            refine .inr ⟨hdrained, ?_⟩
            intro hsettled
            obtain ⟨current, hcurrent, hkept⟩ := hfollows.settled earlier [_] later intentId row
              (List.append_cons ..) hget hsettled
            obtain ⟨next, hnext, hstate⟩ := hstep hget
            obtain rfl := Option.some.inj (hcurrent.symm.trans hnext)
            exact hsame (hkept.symm.trans (hstate.trans hnew))
  · intro hstarts
    constructor
    · rintro earlier call index later intentId row next rfl hget hnext hne
      obtain ⟨after, hafter, hstate⟩ := get_jupiterStep call index hget
      rw [Machine.after_concat, hafter] at hnext
      obtain rfl := Option.some.inj hnext
      rcases newState_of_mayStart (hstarts earlier (call, index) later rfl) hget with
        hsame | hedge | ⟨hdrains, hdrained, _, hexpired⟩
      · exact absurd (hstate.trans hsame) hne
      · exact .inl (hstate ▸ hedge)
      · exact .inr ⟨hdrains, hdrained, hstate.trans hexpired⟩
    · rintro earlier middle later intentId row rfl hget hsettled
      exact settled_after (jupiterStore.throughout_of_append hstarts) hget hsettled

end Runs

/-! ## A late report -/

/-- The states a restart drains. -/
def restartDrains : List String := [JupiterState.approvedWaitingJit, JupiterState.jitBuilding]

def buyUsdc : SwapIntent where
  id := "intent-1"
  sessionId := "session-1"
  walletPubkey := "wallet-1"
  network := .devnet
  inputMint := "sol"
  outputMint := "usdc"
  inputAmount := 100
  slippageBps := 50
  description := "buy"
  createdAt := { seconds := 1, nanos := 0, inCalendar := by decide, inSecond := by decide }

/-- A swap that was submitted is marked as failed by a task that reports late. -/
theorem submitted_fails_again : ∃ history, ¬ FollowsDiagram restartDrains history := by
  let submit : JupiterCall × Nat := ((.insert buyUsdc none JupiterState.submitted none none, 1), 0)
  let fail : JupiterCall × Nat :=
    ((.markState "intent-1" JupiterState.jitBuildFailed (some "simulation failed"), 2), 0)
  refine ⟨[submit, fail], ?_⟩
  intro hfollows
  obtain ⟨row, hget, hstate⟩ : ∃ row, (jupiterStore.after [submit]).get "intent-1" = some row ∧
      row.state = JupiterState.submitted := ⟨_, rfl, rfl⟩
  obtain ⟨current, hcurrent, hkept⟩ := hfollows.settled [submit] [fail] [] "intent-1" row rfl hget
    (by rw [hstate]; decide)
  have hfailed : ((jupiterStore.after ([submit] ++ [fail])).get "intent-1").map JupiterRow.state =
    some JupiterState.jitBuildFailed := rfl
  rw [hcurrent, Option.map_some, Option.some.injEq, hkept, hstate] at hfailed
  exact absurd hfailed (by decide)

end SolFrontier.StateStore
