import Mathlib.Data.List.Induction

/-! # Circuit breakers

A service that keeps failing is left alone. The circuit opens at a number of
failures in a row; once per interval a probe is let through, and a probe that
fails closes the way for another interval.
-/

namespace Foundation

/-- How a call ended, and when that was recorded. -/
structure Outcome where
  time : Nat
  success : Bool
  deriving DecidableEq, Repr

namespace Breaker

/-- The times of the failures since the last success, in their order. -/
def failures (outcomes : List Outcome) : List Nat :=
  (outcomes.reverse.takeWhile fun outcome => !outcome.success).reverse.map Outcome.time

@[simp] theorem failures_nil : failures [] = [] := rfl

theorem failures_concat (outcomes : List Outcome) (outcome : Outcome) :
    failures (outcomes ++ [outcome]) =
      if outcome.success then [] else failures outcomes ++ [outcome.time] := by
  cases hsuccess : outcome.success <;> simp [failures, hsuccess]

theorem mem_of_failures {outcomes : List Outcome} {time : Nat} (hmem : time ∈ failures outcomes) :
    ∃ outcome ∈ outcomes, outcome.time = time := by
  obtain ⟨outcome, houtcome, htime⟩ := List.mem_map.mp hmem
  have hreversed := List.takeWhile_subset _ (List.mem_reverse.mp houtcome)
  exact ⟨outcome, List.mem_reverse.mp hreversed, htime⟩

/-- The failures that come an interval or more after the circuit was last opened. -/
def failedProbes (interval : Nat) : Nat → List Nat → List Nat
  | _, [] => []
  | opened, failure :: later =>
      if opened + interval ≤ failure then failure :: failedProbes interval failure later
      else failedProbes interval opened later

/-- The failed probes since the last success. -/
def probes (threshold interval : Nat) (outcomes : List Outcome) : List Nat :=
  match (failures outcomes).drop (threshold - 1) with
  | [] => []
  | opened :: later => failedProbes interval opened later

/-- The documented breaker lets no call through: there were enough failures since
the last success, and the circuit was opened, or a probe failed, less than an
interval ago. -/
def Blocked (threshold interval : Nat) (outcomes : List Outcome) (now : Nat) : Prop :=
  threshold ≤ (failures outcomes).length ∧
    ∃ opened, (failures outcomes)[threshold - 1]? = some opened ∧
      (now < opened + interval ∨
        ∃ probe ∈ probes threshold interval outcomes, now < probe + interval)

theorem le_of_mem_failedProbes {interval opened : Nat} {later : List Nat} {probe : Nat}
    (hmem : probe ∈ failedProbes interval opened later) : opened + interval ≤ probe := by
  induction later generalizing opened with
  | nil => cases hmem
  | cons failure later ih =>
      rw [failedProbes] at hmem
      split at hmem
      next hprobe =>
        rcases List.mem_cons.mp hmem with rfl | hlater
        · exact hprobe
        · have hnext := ih hlater
          omega
      next => exact ih hmem

theorem mem_of_failedProbes {interval opened : Nat} {later : List Nat} {probe : Nat}
    (hmem : probe ∈ failedProbes interval opened later) : probe ∈ later := by
  induction later generalizing opened with
  | nil => cases hmem
  | cons failure later ih =>
      rw [failedProbes] at hmem
      split at hmem
      next =>
        rcases List.mem_cons.mp hmem with rfl | hlater
        · exact List.mem_cons_self
        · exact List.mem_cons_of_mem _ (ih hlater)
      next => exact List.mem_cons_of_mem _ (ih hmem)

/-- A breaker that never opens anew agrees with the documented one exactly when
no probe failed within the last interval. -/
theorem forgetful_iff {threshold interval now : Nat} {outcomes : List Outcome}
    (hthreshold : 0 < threshold) (hnow : ∀ outcome ∈ outcomes, outcome.time ≤ now) :
    ((∃ opened, (failures outcomes)[threshold - 1]? = some opened ∧ now < opened + interval) ↔
        Blocked threshold interval outcomes now) ↔
      ∀ probe ∈ probes threshold interval outcomes, probe + interval ≤ now := by
  unfold Blocked probes
  cases hdrop : (failures outcomes).drop (threshold - 1) with
  | nil =>
      have hfew : (failures outcomes).length ≤ threshold - 1 := List.drop_eq_nil_iff.mp hdrop
      have hclosed : (failures outcomes)[threshold - 1]? = none := List.getElem?_eq_none hfew
      simp [hclosed]
  | cons opened later =>
      have hopened : (failures outcomes)[threshold - 1]? = some opened := by
        rw [← List.head?_drop, hdrop, List.head?_cons]
      have henough : threshold ≤ (failures outcomes).length := by
        have hlt := (List.getElem?_eq_some_iff.mp hopened).1
        omega
      simp only [hopened, Option.some.injEq, exists_eq_left', henough, true_and]
      -- A failed probe comes after the interval that the forgetful breaker waits.
      have hlate : ∀ probe ∈ failedProbes interval opened later, opened + interval ≤ now := by
        intro probe hprobe
        have hle := le_of_mem_failedProbes hprobe
        have hmem : probe ∈ failures outcomes := by
          apply List.mem_of_mem_drop
          rw [hdrop]
          exact List.mem_cons_of_mem _ (mem_of_failedProbes hprobe)
        obtain ⟨outcome, houtcome, rfl⟩ := mem_of_failures hmem
        exact Nat.le_trans hle (hnow outcome houtcome)
      constructor
      · intro hagree probe hprobe
        by_contra hrecent
        have hopen := hagree.mpr (.inr ⟨probe, hprobe, Nat.not_le.mp hrecent⟩)
        exact absurd (hlate probe hprobe) (Nat.not_le.mpr hopen)
      · intro hold
        constructor
        · exact fun hopen => .inl hopen
        · rintro (hopen | ⟨probe, hprobe, hrecent⟩)
          · exact hopen
          · exact absurd (hold probe hprobe) (Nat.not_le.mpr hrecent)

end Breaker

end Foundation
