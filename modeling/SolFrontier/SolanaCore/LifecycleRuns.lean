import SolFrontier.Foundation.History
import SolFrontier.SolanaCore.TxLifecycle

/-! # Runs of the lifecycle

Any observations at any block heights, one after another from `submitted`. The
precedence of the state never falls, and the states of the two highest ranks
never change; the rest of the documented invariants are about single steps.
-/

namespace SolFrontier.SolanaCore

open Foundation

/-- What a node reported, and the block height of that poll. -/
abbrev Sighting := RpcObservation × UInt64

/-- The lifecycle of one transaction. -/
def lifecycle (submissionHeight lastValidHeight : UInt64) : Machine TxState Sighting where
  init := .submitted
  step current sighting :=
    calculateNextState current sighting.1 sighting.2 submissionHeight lastValidHeight

namespace Transition

variable {observation : RpcObservation}
  {currentBlockHeight submissionHeight lastValidHeight : UInt64} {state next : TxState}

theorem precedence_le
    (hstep : Transition observation currentBlockHeight submissionHeight lastValidHeight state next) :
    state.precedence ≤ next.precedence := by
  cases hstep with
  | kept => exact Nat.le_refl _
  | failed _ hlower | confirmed _ hlower => exact Nat.le_of_lt hlower
  | finalized _ hlower => exact Nat.le_of_lt (Nat.lt_succ_of_lt hlower)
  | expired hopen =>
      rcases hopen with rfl | rfl
      · exact Nat.zero_le 1
      · exact Nat.le_refl 1
  | dropped => exact Nat.zero_le 1

/-- Finality and failure are absolute. -/
theorem eq_of_final
    (hstep : Transition observation currentBlockHeight submissionHeight lastValidHeight state next)
    (hfinal : 3 ≤ state.precedence) : next = state := by
  cases hstep with
  | kept => rfl
  | failed _ hlower | finalized _ hlower => exact absurd hlower (Nat.not_lt.mpr hfinal)
  | confirmed _ hlower => exact absurd hlower (Nat.not_lt.mpr (Nat.le_of_succ_le hfinal))
  | expired hopen => rcases hopen with rfl | rfl <;> exact absurd hfinal (by decide)
  | dropped => exact absurd hfinal (by decide)

/-- Only a state seen on chain overrides an expiry. -/
theorem of_expired
    (hstep : Transition observation currentBlockHeight submissionHeight lastValidHeight
      .expired next) (hleft : next ≠ .expired) :
    (∃ slot, next = .confirmed slot) ∨ (∃ slot, next = .finalized slot) ∨
      ∃ err, next = .failed err := by
  cases hstep with
  | kept | expired => exact absurd rfl hleft
  | failed err => exact .inr (.inr ⟨err, rfl⟩)
  | finalized slot => exact .inr (.inl ⟨slot, rfl⟩)
  | confirmed slot => exact .inl ⟨slot, rfl⟩

theorem to_expired
    (hstep : Transition observation currentBlockHeight submissionHeight lastValidHeight
      state .expired) (hbefore : state ≠ .expired) :
    lastValidHeight < currentBlockHeight ∧ observation.isNull = true ∧ observation.err = none := by
  cases hstep with
  | kept => exact absurd rfl hbefore
  | expired _ herr hnull hheight => exact ⟨hheight, hnull, herr⟩

end Transition

section Runs

variable {submissionHeight lastValidHeight : UInt64} {history : List Sighting}

theorem lifecycle_step (state : TxState) (sighting : Sighting) :
    Transition sighting.1 sighting.2 submissionHeight lastValidHeight state
      ((lifecycle submissionHeight lastValidHeight).step state sighting) :=
  calculateNextState_transition state sighting.1 sighting.2 submissionHeight lastValidHeight

/-- The rank of the state never falls. -/
theorem lifecycle_precedence_le (later : List Sighting) :
    ((lifecycle submissionHeight lastValidHeight).after history).precedence ≤
      ((lifecycle submissionHeight lastValidHeight).after (history ++ later)).precedence := by
  apply (lifecycle submissionHeight lastValidHeight).after_stable
    (P := fun state =>
      ((lifecycle submissionHeight lastValidHeight).after history).precedence ≤ state.precedence)
  · intro state sighting hrank
    exact hrank.trans (lifecycle_step state sighting).precedence_le
  · exact Nat.le_refl _

/-- Finality and failure last for the rest of the run. -/
theorem lifecycle_final
    (hfinal : 3 ≤ ((lifecycle submissionHeight lastValidHeight).after history).precedence)
    (later : List Sighting) :
    (lifecycle submissionHeight lastValidHeight).after (history ++ later) =
      (lifecycle submissionHeight lastValidHeight).after history := by
  apply (lifecycle submissionHeight lastValidHeight).after_stable
    (P := fun state => state = (lifecycle submissionHeight lastValidHeight).after history)
  · intro state sighting hsame
    rw [← hsame] at hfinal
    exact ((lifecycle_step state sighting).eq_of_final hfinal).trans hsame
  · rfl

/-- Whatever the nodes report and at whatever heights: finality and failure are
left for nothing, an expiry only for a state seen on chain; an expiry needs a
null observation above the last valid height; and neither a confirmed nor a
dropped transaction falls back. -/
theorem lifecycle_monotone (submissionHeight lastValidHeight : UInt64)
    (history later : List Sighting) (observation : RpcObservation) (blockHeight : UInt64) :
    let run := lifecycle submissionHeight lastValidHeight
    let state := run.after history
    let next := run.after (history ++ [(observation, blockHeight)])
    let current := run.after (history ++ later)
    ((∃ slot, state = .finalized slot) ∨ (∃ err, state = .failed err) → current = state) ∧
    (state = .expired → next ≠ .expired →
      (∃ slot, next = .confirmed slot) ∨ (∃ slot, next = .finalized slot) ∨
        ∃ err, next = .failed err) ∧
    (state ≠ .expired → next = .expired →
      lastValidHeight < blockHeight ∧ observation.isNull = true ∧ observation.err = none) ∧
    ((∃ slot, state = .confirmed slot) →
      current ≠ .submitted ∧ current ≠ .dropped ∧ current ≠ .expired) ∧
    (state = .dropped → current ≠ .submitted) := by
  intro run state next current
  have hrank : state.precedence ≤ current.precedence := lifecycle_precedence_le later
  have hstep : Transition observation blockHeight submissionHeight lastValidHeight state next := by
    have hnext : next = run.step state (observation, blockHeight) := run.after_concat _ _
    rw [hnext]
    exact lifecycle_step state (observation, blockHeight)
  refine ⟨?_, ?_, ?_, ?_, ?_⟩
  · intro hfinal
    apply lifecycle_final
    show 3 ≤ state.precedence
    rcases hfinal with ⟨slot, hfinal⟩ | ⟨err, hfinal⟩
    · simp [hfinal, TxState.precedence]
    · simp [hfinal, TxState.precedence]
  · intro hexpired hleft
    rw [hexpired] at hstep
    exact hstep.of_expired hleft
  · intro hbefore hafter
    rw [hafter] at hstep
    exact hstep.to_expired hbefore
  · rintro ⟨slot, hconfirmed⟩
    have hseen : 2 ≤ current.precedence := by
      rw [hconfirmed] at hrank
      exact hrank
    refine ⟨?_, ?_, ?_⟩ <;> intro hback
    all_goals
      rw [hback] at hseen
      exact absurd hseen (by decide)
  · intro hdropped hback
    rw [hdropped, hback] at hrank
    exact absurd hrank (by decide)

end Runs

end SolFrontier.SolanaCore
