import SolFrontier.SolanaCore.LifecycleRuns
import SolFrontier.StateStore.Tracking

/-! # Runs of the tracking repository

An update writes the named state over whatever the row holds. The stored
states progress as the lifecycle does exactly as long as every call names a
state that may follow the stored one.
-/

namespace SolFrontier.StateStore

open Foundation SolanaCore

/-- The name under which a lifecycle state is stored. -/
def stateName : TxState → String
  | .submitted => "submitted"
  | .dropped => "dropped"
  | .confirmed _ => "confirmed"
  | .finalized _ => "finalized"
  | .failed _ => "failed"
  | .expired => "expired"

/-- A name has one rank, whatever the state carries. -/
theorem precedence_of_stateName {state other : TxState}
    (hname : stateName state = stateName other) : state.precedence = other.precedence := by
  cases state <;> cases other <;> first | rfl | (simp [stateName] at hname)

theorem final_iff {state : TxState} :
    stateName state = "finalized" ∨ stateName state = "failed" ↔ 3 ≤ state.precedence := by
  cases state <;> simp [stateName, TxState.precedence]

namespace TrackingOp

/-- The signature a call addresses and the state it writes there. -/
def writes : TrackingOp → Option (String × String)
  | updateState signature newState _ _ => some (signature, newState)
  | markExpired signature => some (signature, "expired")
  | _ => none

variable {op : TrackingOp} {signature : String}

/-- Everything a call can do to the state of a stored row. -/
theorem set_state {nowMs : Int64} {write : Update TrackingRow.signature} {row : TrackingRow}
    (hop : op.statement nowMs = .update signature write) :
    (op.writes = none ∧ (write.set row).state = row.state) ∨
      op.writes = some (signature, (write.set row).state) := by
  cases op with
  | insert | loadActive => cases hop
  | updateState =>
      obtain ⟨rfl, rfl⟩ := Statement.update.inj hop
      exact .inr rfl
  | markEventEmitted addressed eventColumn =>
      rw [statement] at hop
      split at hop
      · obtain ⟨rfl, rfl⟩ := Statement.update.inj hop
        exact .inl ⟨rfl, rfl⟩
      · cases hop
  | markExpired =>
      obtain ⟨rfl, rfl⟩ := Statement.update.inj hop
      exact .inr rfl

/-- A write of a state reaches every stored row it addresses. -/
theorem get_execute_writes (nowMs : Int64) {newState : String}
    (hwrites : op.writes = some (signature, newState))
    {table : TrackingTable} {row : TrackingRow} (hget : table.get signature = some row) :
    ∃ next, (table.execute (op.statement nowMs)).get signature = some next ∧
      next.state = newState := by
  cases op with
  | insert | markEventEmitted | loadActive => cases hwrites
  | updateState | markExpired =>
      cases hwrites
      exact ⟨_, Table.get_execute_update hget rfl, rfl⟩

end TrackingOp

/-- A state is followed by states of its rank or above, and the two highest
ranks by nothing else. -/
def Follows (old new : String) : Prop :=
  ∀ state next : TxState, stateName state = old → stateName next = new →
    state.precedence ≤ next.precedence ∧ (3 ≤ state.precedence → new = old)

theorem Follows.refl (name : String) : Follows name name :=
  fun _ _ hstate hnext => ⟨(precedence_of_stateName (hstate.trans hnext.symm)).le, fun _ => rfl⟩

theorem Follows.trans {first middle last : String} {state : TxState}
    (hmiddle : stateName state = middle) (hfirst : Follows first middle)
    (hlast : Follows middle last) : Follows first last := by
  intro before after hbefore hafter
  obtain ⟨hrise, hfinal⟩ := hfirst before state hbefore hmiddle
  obtain ⟨hrise', hfinal'⟩ := hlast state after hmiddle hafter
  refine ⟨hrise.trans hrise', ?_⟩
  intro hhigh
  exact (hfinal' (hhigh.trans hrise)).trans (hfinal hhigh)

/-- Every state that a history writes is one of the lifecycle's. -/
def Named (history : List TrackingCall) : Prop :=
  ∀ call ∈ history, ∀ signature newState, call.1.writes = some (signature, newState) →
    ∃ state, stateName state = newState

/-- The call names a state that may follow the stored one. -/
def Meets (table : TrackingTable) (call : TrackingCall) : Prop :=
  ∀ signature newState row, call.1.writes = some (signature, newState) →
    table.get signature = some row → Follows row.state newState

/-- Later versions of a row never rank below earlier ones, but for an expiry
that a sighting on chain overrides; a final state stays; and inserting a known
signature again changes nothing. -/
structure TrackedMonotone (history : List TrackingCall) : Prop where
  rises : ∀ earlier middle later signature row, history = earlier ++ middle ++ later →
    (trackingStore.after earlier).get signature = some row →
    ∃ current, (trackingStore.after (earlier ++ middle)).get signature = some current ∧
      ∀ state next, stateName state = row.state → stateName next = current.state →
        next.precedence < state.precedence →
          state = .expired ∧ (current.state = "confirmed" ∨ current.state = "finalized")
  final : ∀ earlier middle later signature row, history = earlier ++ middle ++ later →
    (trackingStore.after earlier).get signature = some row →
    row.state = "finalized" ∨ row.state = "failed" →
    ∃ current, (trackingStore.after (earlier ++ middle)).get signature = some current ∧
      current.state = row.state
  reinserts : ∀ earlier call later row, history = earlier ++ call :: later →
    call.1.statement call.2 = .insert row → (trackingStore.after earlier).get row.signature ≠ none →
    trackingStore.after (earlier ++ [call]) = trackingStore.after earlier

section Runs

variable {history : List TrackingCall}

theorem Named.concat {call : TrackingCall} (hnamed : Named (history ++ [call])) :
    Named history ∧ ∀ signature newState, call.1.writes = some (signature, newState) →
      ∃ state, stateName state = newState :=
  ⟨fun other hmem => hnamed other (List.mem_append_left _ hmem),
    hnamed call (List.mem_append_right _ (List.mem_singleton.mpr rfl))⟩

/-- What one call does to a stored row. -/
theorem get_step {table : TrackingTable} (call : TrackingCall) {signature : String}
    {row : TrackingRow} (hget : table.get signature = some row) :
    ∃ next, (table.execute (call.1.statement call.2)).get signature = some next ∧
      (next.state = row.state ∨ call.1.writes = some (signature, next.state)) := by
  rcases Table.get_execute_of_some (call.1.statement call.2) hget with
    hsame | ⟨write, hop, _, hnext⟩
  · exact ⟨row, hsame, .inl rfl⟩
  · exact ⟨write.set row, hnext, (TrackingOp.set_state hop).imp_left And.right⟩

/-- Every stored state is one of the lifecycle's. -/
theorem state_named (hnamed : Named history) {signature : String} {row : TrackingRow}
    (hget : (trackingStore.after history).get signature = some row) :
    ∃ state, stateName state = row.state := by
  refine trackingStore.after_induction (P := fun history table => Named history →
    ∀ row, table.get signature = some row → ∃ state, stateName state = row.state)
    ?_ ?_ history hnamed row hget
  · intro _ row hget
    cases hget
  · intro history call ih hnamed row hget
    obtain ⟨hbefore, hcall⟩ := hnamed.concat
    rcases Table.get_execute_cases (trackingStore.after history) (call.1.statement call.2)
      signature with hsame | ⟨fresh, hop, _, _, hnext⟩ | ⟨write, current, hop, hcurrent, _, hnext⟩
    · exact ih hbefore row (hsame.symm.trans hget)
    · obtain rfl : fresh = row := Option.some.inj (hnext.symm.trans hget)
      obtain ⟨op, nowMs⟩ := call
      cases op with
      | insert =>
          obtain rfl := Statement.insert.inj hop
          exact ⟨.submitted, rfl⟩
      | markEventEmitted addressed eventColumn =>
          rw [TrackingOp.statement] at hop
          split at hop <;> cases hop
      | updateState | loadActive | markExpired => cases hop
    · obtain rfl : write.set current = row := Option.some.inj (hnext.symm.trans hget)
      rcases TrackingOp.set_state hop with ⟨_, hkept⟩ | hwrites
      · rw [hkept]
        exact ih hbefore current hcurrent
      · exact hcall signature _ hwrites

/-- While every call meets the condition, later states follow earlier ones. -/
theorem follows_after {earlier : List TrackingCall} (middle : List TrackingCall)
    (hnamed : Named (earlier ++ middle)) (hmeets : trackingStore.Throughout Meets (earlier ++ middle))
    {signature : String} {row : TrackingRow}
    (hget : (trackingStore.after earlier).get signature = some row) :
    ∃ current, (trackingStore.after (earlier ++ middle)).get signature = some current ∧
      Follows row.state current.state := by
  induction middle using List.reverseRecOn with
  | nil => exact ⟨row, by rwa [List.append_nil], Follows.refl _⟩
  | append_singleton middle call ih =>
      rw [← List.append_assoc] at hnamed hmeets ⊢
      obtain ⟨hbefore, hlast⟩ := trackingStore.throughout_concat.mp hmeets
      obtain ⟨current, hcurrent, hfollows⟩ := ih hnamed.concat.1 hbefore
      obtain ⟨state, hstate⟩ := state_named hnamed.concat.1 hcurrent
      obtain ⟨next, hnext, hchange⟩ := get_step call hcurrent
      rw [Machine.after_concat]
      refine ⟨next, hnext, ?_⟩
      rcases hchange with hkept | hwrites
      · rwa [hkept]
      · exact hfollows.trans hstate (hlast signature next.state current hwrites hcurrent)

/-- Following is what the laws of one row ask for. -/
theorem follows_iff {old new : String} (hnamed : ∃ state, stateName state = new) :
    Follows old new ↔
      (∀ state next, stateName state = old → stateName next = new →
        next.precedence < state.precedence →
          state = .expired ∧ (new = "confirmed" ∨ new = "finalized")) ∧
      (old = "finalized" ∨ old = "failed" → new = old) := by
  obtain ⟨next, rfl⟩ := hnamed
  constructor
  · intro hfollows
    constructor
    · intro state next' hstate hnext hfalls
      exact absurd (hfollows state next' hstate hnext).1 (Nat.not_le.mpr hfalls)
    · rintro (rfl | rfl)
      · exact (hfollows (.finalized 0) next rfl rfl).2 (by decide)
      · exact (hfollows (.failed "") next rfl rfl).2 (by decide)
  · rintro ⟨hrises, hfinal⟩ state next' rfl hnext
    rw [precedence_of_stateName hnext]
    constructor
    · by_contra hfalls
      -- The exception is none: an expiry ranks below both states that override it.
      obtain ⟨rfl, hseen⟩ := hrises state next rfl rfl (Nat.not_le.mp hfalls)
      cases next <;> simp [stateName, TxState.precedence] at hseen hfalls
    · exact fun hhigh => hfinal (final_iff.mpr hhigh)

/-- Any calls at any times whose written states are the lifecycle's: the stored
states progress as the lifecycle does exactly when every call that writes a
state to a stored row names one of the same rank or above, and on a final row
the same one. -/
theorem tracking_monotone_iff (history : List TrackingCall) (hnamed : Named history) :
    TrackedMonotone history ↔ trackingStore.Throughout Meets history := by
  have hname : ∀ {earlier later : List TrackingCall}, history = earlier ++ later →
      Named earlier := by
    rintro earlier later rfl call hmem
    exact hnamed call (List.mem_append_left _ hmem)
  constructor
  · intro hmonotone earlier call later hhistory signature newState row hwrites hget
    have hsplit : history = earlier ++ [call] ++ later := by rw [hhistory]; simp
    obtain ⟨state, hstate⟩ := (hname hsplit).concat.2 signature newState hwrites
    obtain ⟨current, hcurrent, hrises⟩ := hmonotone.rises _ _ _ _ row hsplit hget
    have hwritten : current.state = newState := by
      obtain ⟨next, hnext, hnew⟩ := TrackingOp.get_execute_writes call.2 hwrites hget
      rw [Machine.after_concat] at hcurrent
      rw [← Option.some.inj (hnext.symm.trans hcurrent)]
      exact hnew
    rw [hwritten] at hrises
    refine (follows_iff ⟨state, hstate⟩).mpr ⟨hrises, ?_⟩
    intro hfinal
    obtain ⟨same, hsame, hkept⟩ := hmonotone.final _ _ _ _ row hsplit hget hfinal
    rw [← hkept, ← hwritten, Option.some.inj (hsame.symm.trans hcurrent)]
  · intro hmeets
    -- Following is transitive, so the calls of any stretch make up one step.
    have hfollows : ∀ {earlier middle later : List TrackingCall} {signature : String}
        {row : TrackingRow}, history = earlier ++ middle ++ later →
        (trackingStore.after earlier).get signature = some row →
        ∃ current, (trackingStore.after (earlier ++ middle)).get signature = some current ∧
          Follows row.state current.state ∧ ∃ state, stateName state = current.state := by
      intro earlier middle later signature row hsplit hget
      obtain ⟨current, hcurrent, hfollows⟩ := follows_after middle (hname hsplit)
        (trackingStore.throughout_of_append (hsplit ▸ hmeets)) hget
      exact ⟨current, hcurrent, hfollows, state_named (hname hsplit) hcurrent⟩
    constructor
    · intro earlier middle later signature row hsplit hget
      obtain ⟨current, hcurrent, hfollows, hstate⟩ := hfollows hsplit hget
      exact ⟨current, hcurrent, ((follows_iff hstate).mp hfollows).1⟩
    · intro earlier middle later signature row hsplit hget hfinal
      obtain ⟨current, hcurrent, hfollows, hstate⟩ := hfollows hsplit hget
      exact ⟨current, hcurrent, ((follows_iff hstate).mp hfollows).2 hfinal⟩
    · intro earlier call later row _ hop hknown
      rw [Machine.after_concat]
      apply Table.execute_eq_self
      have hrefused := (Table.affected_insert (trackingStore.after earlier) row).not.mpr hknown
      have hle := Table.affected_le_one (trackingStore.after earlier) (.insert row)
      show (trackingStore.after earlier).affected (call.1.statement call.2) = 0
      rw [hop]
      omega

end Runs

/-! ## A late observation -/

theorem follows_of_lt {state next : TxState} (hlower : state.precedence < next.precedence)
    (hopen : state.precedence < 3) : Follows (stateName state) (stateName next) := by
  intro before after hbefore hafter
  rw [precedence_of_stateName hbefore, precedence_of_stateName hafter]
  exact ⟨hlower.le, fun hhigh => absurd hhigh (Nat.not_le.mpr hopen)⟩

def submit (signature : String) : TrackingCall :=
  (.insert signature "tx-1" "request-1" "session-1" "wallet-1" 1000 900, 1)

def observe (signature newState : String) (nowMs : Int64) : TrackingCall :=
  (.updateState signature newState (some 950) none, nowMs)

/-- A submission that is then seen confirmed progresses as the lifecycle does. -/
theorem tracking_monotone_confirmed :
    TrackedMonotone [submit "sig", observe "sig" "confirmed" 2] := by
  refine (tracking_monotone_iff _ ?_).mpr ?_
  · intro call hmem signature newState hwrites
    rcases List.mem_pair.mp hmem with rfl | rfl
    · cases hwrites
    · cases hwrites
      exact ⟨.confirmed 0, rfl⟩
  · refine trackingStore.throughout_concat.mpr
      ⟨trackingStore.throughout_concat.mpr ⟨trackingStore.throughout_nil _, ?_⟩, ?_⟩
    · intro signature newState row hwrites
      cases hwrites
    · intro signature newState row hwrites hget
      cases hwrites
      have hstate : ((trackingStore.after ([] ++ [submit "sig"])).get "sig").map TrackingRow.state =
          some "submitted" := rfl
      rw [hget] at hstate
      obtain hstate : row.state = "submitted" := Option.some.inj hstate
      rw [hstate]
      have hrise : TxState.submitted.precedence < (TxState.confirmed 0).precedence := by decide
      exact follows_of_lt hrise (by decide)

/-- The start-up filter overwrites a finalized row. -/
theorem finalized_overwritten : ∃ history, Named history ∧ ¬ TrackedMonotone history := by
  let settled := [submit "sig", observe "sig" "finalized" 2]
  refine ⟨settled ++ [(.markExpired "sig", 3)], ?_, ?_⟩
  · intro call hmem signature newState hwrites
    simp only [settled, List.cons_append, List.nil_append, List.mem_cons, List.not_mem_nil,
      or_false] at hmem
    rcases hmem with rfl | rfl | rfl
    · cases hwrites
    · cases hwrites
      exact ⟨.finalized 0, rfl⟩
    · cases hwrites
      exact ⟨.expired, rfl⟩
  · intro hmonotone
    obtain ⟨row, hget, hfinal⟩ : ∃ row, (trackingStore.after settled).get "sig" = some row ∧
        row.state = "finalized" := ⟨_, rfl, rfl⟩
    obtain ⟨current, hcurrent, hkept⟩ := hmonotone.final settled [(.markExpired "sig", 3)] [] "sig"
      row (List.append_nil _).symm hget (.inl hfinal)
    have hstate : ((trackingStore.after (settled ++ [(.markExpired "sig", 3)])).get "sig").map
        TrackingRow.state = some "expired" := rfl
    rw [hcurrent] at hstate
    obtain hstate : current.state = "expired" := Option.some.inj hstate
    rw [hstate, hfinal] at hkept
    exact absurd hkept (by decide)

end SolFrontier.StateStore
