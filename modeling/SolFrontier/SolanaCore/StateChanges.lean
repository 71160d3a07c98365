import SolFrontier.SolanaCore.Tracker

/-! # The chain of state changes

The state changes sent for one signature should tell its whole story: each one
starts where the one before ended, and the last one ends in the tracked state.
The observation branch keeps this. A rebroadcast the RPC accepts moves a
dropped record back to `submitted` without sending a change, and tracking a
removed signature again starts a second story; after either the chain stays
broken for good.
-/

namespace SolFrontier.SolanaCore

open Foundation

/-! ## Chains -/

namespace StateChange

/-- Each change starts where the one before ended, the first one at `start`. -/
def Chained (start : TxState) : List StateChange → Prop
  | [] => True
  | change :: later => change.fromState = start ∧ Chained change.toState later

instance decidableChained : (start : TxState) → (changes : List StateChange) →
    Decidable (Chained start changes)
  | _, [] => .isTrue trivial
  | _, change :: later =>
      have := decidableChained change.toState later
      inferInstanceAs (Decidable (_ ∧ _))

/-- The state a list of changes ends in. -/
def endpoint (start : TxState) : List StateChange → TxState
  | [] => start
  | change :: later => endpoint change.toState later

@[simp] theorem endpoint_concat (start : TxState) (changes : List StateChange)
    (change : StateChange) : endpoint start (changes ++ [change]) = change.toState := by
  induction changes generalizing start with
  | nil => rfl
  | cons head later ih => exact ih head.toState

theorem chained_concat {start : TxState} {changes : List StateChange} {change : StateChange} :
    Chained start (changes ++ [change]) ↔
      Chained start changes ∧ change.fromState = endpoint start changes := by
  induction changes generalizing start with
  | nil => simp [Chained, endpoint]
  | cons head later ih => simp only [List.cons_append, Chained, endpoint, ih, and_assoc]

end StateChange

open StateChange

/-- A transition never leads back to `submitted`. -/
theorem calculateNextState_submitted {current : TxState} {observation : RpcObservation}
    {height submission lastValid : UInt64}
    (hnext : calculateNextState current observation height submission lastValid = .submitted) :
    current = .submitted := by
  have hstep := calculateNextState_transition current observation height submission lastValid
  rw [hnext] at hstep
  cases hstep
  rfl

namespace StateChange

theorem endpoint_ne_submitted {start : TxState} {changes : List StateChange}
    (hne : changes ≠ []) (hleft : ∀ change ∈ changes, change.toState ≠ .submitted) :
    endpoint start changes ≠ .submitted := by
  rcases List.eq_nil_or_concat changes with rfl | ⟨earlier, last, rfl⟩
  · exact absurd rfl hne
  · rw [List.concat_eq_append] at hleft ⊢
    rw [endpoint_concat]
    exact hleft last (by simp)

end StateChange

namespace Tracker

/-- The changes sent for one signature. -/
def changesOf (tracker : Tracker) (signature : String) : List StateChange :=
  tracker.changes.filter fun change => change.signature = signature

/-- The changes sent for a signature lead from `submitted` to its tracked state. -/
structure Connected (tracker : Tracker) (signature : String) : Prop where
  chained : Chained .submitted (tracker.changesOf signature)
  tracked : ∀ state, tracker.getState signature = some state →
    state = endpoint .submitted (tracker.changesOf signature)

/-- The chain is broken already, or the record is back at `submitted` although
the chain does not end there. -/
def Disconnected (tracker : Tracker) (signature : String) : Prop :=
  Chained .submitted (tracker.changesOf signature) →
    tracker.getState signature = some .submitted ∧
      endpoint .submitted (tracker.changesOf signature) ≠ .submitted

theorem Disconnected.not_connected {tracker : Tracker} {signature : String}
    (hbroken : tracker.Disconnected signature) : ¬ tracker.Connected signature := by
  intro hconnected
  obtain ⟨hstate, hend⟩ := hbroken hconnected.chained
  exact hend (hconnected.tracked _ hstate).symm

/-- No change that was sent led to `submitted`. -/
def Departed (tracker : Tracker) (signature : String) : Prop :=
  ∀ change ∈ tracker.changesOf signature, change.toState ≠ .submitted

/-! ## What one stretch does to one signature -/

/-- The effects on one signature that keep its chain as it is or extend it. -/
inductive Quiet (signature : String) (before after : Tracker) : Prop
  | kept : after.getState signature = before.getState signature →
      after.changesOf signature = before.changesOf signature → Quiet signature before after
  | moved (change : StateChange) : before.getState signature = some change.fromState →
      change.toState ≠ .submitted → after.getState signature = some change.toState →
      after.changesOf signature = before.changesOf signature ++ [change] →
      Quiet signature before after
  | removed : before.getState signature ≠ some .submitted → after.getState signature = none →
      after.changesOf signature = before.changesOf signature → Quiet signature before after

theorem Quiet.connected {signature : String} {before after : Tracker}
    (heffect : Quiet signature before after) (hconnected : before.Connected signature) :
    after.Connected signature := by
  cases heffect with
  | kept hstate hchanges =>
      constructor
      · rw [hchanges]
        exact hconnected.chained
      · rw [hstate, hchanges]
        exact hconnected.tracked
  | moved change hbefore _ hafter hchanges =>
      constructor
      · rw [hchanges, chained_concat]
        exact ⟨hconnected.chained, hconnected.tracked _ hbefore⟩
      · intro state hstate
        rw [hafter, Option.some.injEq] at hstate
        rw [hchanges, endpoint_concat, hstate]
  | removed _ hafter hchanges =>
      constructor
      · rw [hchanges]
        exact hconnected.chained
      · intro state hstate
        rw [hafter] at hstate
        exact absurd hstate (by simp)

theorem Quiet.disconnected {signature : String} {before after : Tracker}
    (heffect : Quiet signature before after) (hbroken : before.Disconnected signature) :
    after.Disconnected signature := by
  intro hchained
  cases heffect with
  | kept hstate hchanges =>
      rw [hchanges] at hchained ⊢
      rw [hstate]
      exact hbroken hchained
  | moved change hbefore _ _ hchanges =>
      -- The next change starts at `submitted`, where the chain did not end.
      rw [hchanges, chained_concat] at hchained
      obtain ⟨hstate, hend⟩ := hbroken hchained.1
      rw [hbefore, Option.some.injEq] at hstate
      exact absurd (hchained.2.symm.trans hstate) hend
  | removed hleft _ hchanges =>
      rw [hchanges] at hchained
      exact absurd (hbroken hchained).1 hleft

theorem Quiet.departed {signature : String} {before after : Tracker}
    (heffect : Quiet signature before after) (hdeparted : before.Departed signature) :
    after.Departed signature := by
  cases heffect with
  | kept _ hchanges | removed _ _ hchanges =>
      rw [Departed, hchanges]
      exact hdeparted
  | moved change _ hleft _ hchanges =>
      rw [Departed, hchanges]
      intro sent hsent
      rcases List.mem_append.mp hsent with hold | hnew
      · exact hdeparted sent hold
      · rw [List.mem_singleton.mp hnew]
        exact hleft

/-- A move sends one change and rewrites one record. -/
theorem getState_move {tracker : Tracker} {record : TrackingRecord}
    (hget : tracker.tracking.get record.signature = some record) (currentHeight : UInt64)
    (newState : TxState) (signature : String) :
    (tracker.move record currentHeight newState).getState signature =
      if record.signature = signature then some newState else tracker.getState signature := by
  rw [getState, move, Table.get_update, hget]
  by_cases heq : record.signature = signature
  · rw [if_pos heq.symm, if_pos heq]
    rfl
  · rw [if_neg (Ne.symm heq), if_neg heq, getState]

theorem changesOf_move (tracker : Tracker) (record : TrackingRecord) (currentHeight : UInt64)
    (newState : TxState) (signature : String) :
    (tracker.move record currentHeight newState).changesOf signature =
      if record.signature = signature then
        tracker.changesOf signature ++ [record.change newState currentHeight]
      else tracker.changesOf signature := by
  rw [changesOf, move, List.filter_append, ← changesOf]
  by_cases heq : record.signature = signature <;> simp [TrackingRecord.change, heq]

theorem quiet_observe (tracker : Tracker) (currentHeight : UInt64) (sig : String)
    (status : Option TransactionStatus) (signature : String) :
    Quiet signature tracker (tracker.observe currentHeight sig status) := by
  unfold observe
  cases hget : tracker.tracking.get sig with
  | none => exact .kept rfl rfl
  | some record =>
      dsimp only
      split
      next hsame => exact .kept rfl rfl
      next hmoved =>
        obtain rfl : record.signature = sig := Table.key_of_get hget
        have hstate := getState_move hget currentHeight (record.nextState currentHeight status)
          signature
        have hchanges := changesOf_move tracker record currentHeight
          (record.nextState currentHeight status) signature
        by_cases heq : record.signature = signature
        · subst heq
          rw [if_pos rfl] at hstate hchanges
          refine .moved _ ?_ ?_ hstate hchanges
          · rw [getState, hget]
            rfl
          · intro hsubmitted
            exact hmoved (hsubmitted.trans (calculateNextState_submitted hsubmitted).symm)
        · rw [if_neg heq] at hstate hchanges
          exact .kept hstate hchanges

/-- One quiet effect after another. -/
abbrev QuietRun (signature : String) : Tracker → Tracker → Prop :=
  Relation.ReflTransGen (Quiet signature)

theorem quiet_observeAll (tracker : Tracker) (currentHeight : UInt64) (sigs : List String)
    (statuses : List (Option TransactionStatus)) (signature : String) :
    QuietRun signature tracker (tracker.observeAll currentHeight sigs statuses) := by
  unfold observeAll
  generalize sigs.zipIdx = positions
  induction positions generalizing tracker with
  | nil => exact .refl
  | cons position later ih =>
      rw [List.foldl_cons]
      exact .head (quiet_observe tracker _ _ _ signature) (ih _)

/-- Only a record that left `submitted` is ever removed. -/
theorem quiet_cleanup (tracker : Tracker) (currentHeight : UInt64) (signature : String) :
    Quiet signature tracker (tracker.cleanup currentHeight) := by
  have hstate : (tracker.cleanup currentHeight).getState signature =
      ((tracker.tracking.get signature).filter fun record =>
        shouldContinueTracking record currentHeight).map TrackingRecord.state := by
    rw [getState, cleanup, Table.get_retain]
  cases hget : tracker.tracking.get signature with
  | none =>
      rw [hget] at hstate
      refine .kept ?_ rfl
      rw [hstate, getState, hget]
      rfl
  | some record =>
      rw [hget, Option.filter_some] at hstate
      cases hcontinue : shouldContinueTracking record currentHeight with
      | true =>
          rw [if_pos hcontinue] at hstate
          refine .kept ?_ rfl
          rw [hstate, getState, hget]
      | false =>
          rw [if_neg (by simp [hcontinue])] at hstate
          refine .removed ?_ hstate rfl
          rw [getState, hget, Option.map_some, ne_eq, Option.some.injEq]
          intro hsubmitted
          rw [shouldContinueTracking, hsubmitted] at hcontinue
          exact absurd hcontinue (by simp)

theorem quiet_awaitRebroadcast (tracker : Tracker) (currentHeight : UInt64)
    (candidates : List (String × List UInt8)) (signature : String) :
    Quiet signature tracker (tracker.awaitRebroadcast currentHeight candidates) := by
  cases candidates with
  | nil => exact quiet_cleanup tracker currentHeight signature
  | cons => exact .kept rfl rfl

theorem quiet_awaitStatuses (policy : RetryPolicy) (tracker : Tracker) (rank : String → Nat)
    (currentHeight : UInt64) (batches : List (List String)) (signature : String) :
    Quiet signature tracker (tracker.awaitStatuses policy rank currentHeight batches) := by
  cases batches with
  | nil => exact quiet_awaitRebroadcast tracker currentHeight _ signature
  | cons => exact .kept rfl rfl

/-- The step puts the signature at `submitted`: it starts being tracked, or the
RPC accepts its rebroadcast. -/
def Restarts (signature : String) (tracker : Tracker) : TrackerInput → Prop
  | .track call => call.signature = signature ∧ tracker.getState signature = none
  | .rebroadcast (.ok ()) => tracker.getState signature ≠ none ∧
      ∃ currentHeight txBytes later,
        tracker.phase = .rebroadcasting currentHeight signature txBytes later
  | _ => False

/-- A tracked signature is left alone, a new one starts at `submitted`. -/
theorem getState_track (tracker : Tracker) (call : TrackCall) (signature : String) :
    (tracker.track call).getState signature =
      if call.signature = signature ∧ tracker.getState signature = none then some .submitted
      else tracker.getState signature := by
  unfold getState
  rw [get_track]
  cases tracker.tracking.get signature with
  | some record => simp
  | none =>
      by_cases heq : call.signature = signature
      · rw [if_pos ⟨heq, rfl⟩, if_pos ⟨heq, rfl⟩]
        rfl
      · rw [if_neg fun h => heq h.1, if_neg fun h => heq h.1]

/-- A rebroadcast outcome: an accepted one restarts its signature. -/
theorem getState_rebroadcast (tracker : Tracker) (sig : String) (currentHeight : UInt64)
    (outcome : Except String Unit) (signature : String) :
    (tracker.recordRebroadcast sig currentHeight outcome).getState signature =
      if signature = sig ∧ outcome = .ok () ∧ tracker.getState signature ≠ none then
        some .submitted
      else tracker.getState signature := by
  rw [getState, recordRebroadcast, Table.get_update]
  by_cases heq : signature = sig
  · subst heq
    rw [if_pos rfl, Option.map_map]
    cases hget : tracker.tracking.get signature with
    | none => simp [getState, hget]
    | some record =>
        cases outcome with
        | ok => simp [getState, hget, rebroadcastWrite, resubmitted, Update.onRow]
        | error => simp [getState, hget, rebroadcastWrite, refused, Update.onRow]
  · rw [if_neg heq, if_neg fun h => heq h.1, getState]

/-- Without a restart every stretch is quiet for the signature. -/
theorem quiet_step (policy : RetryPolicy) {tracker : Tracker} {input : TrackerInput}
    {signature : String} (hrestart : ¬ Restarts signature tracker input) :
    QuietRun signature tracker (tracker.step policy input) := by
  cases input with
  | track call =>
      rw [Restarts] at hrestart
      refine .single (.kept ?_ rfl)
      rw [step, getState_track, if_neg hrestart]
  | tick =>
      unfold step
      dsimp only
      split
      · exact .single (.kept rfl rfl)
      · exact .refl
  | blockHeight answer rank =>
      unfold step
      dsimp only
      split
      · exact .single (.kept rfl rfl)
      · split
        · exact .single (.kept rfl rfl)
        · exact .single (.kept rfl rfl)
      · exact .refl
  | signatureStatuses answer rank =>
      unfold step
      dsimp only
      split
      next currentHeight sigs later _ =>
        cases answer with
        | none => exact .single (quiet_awaitStatuses ..)
        | some statuses =>
            exact (quiet_observeAll tracker currentHeight sigs statuses signature).tail
              (quiet_awaitStatuses ..)
      · exact .refl
  | rebroadcast outcome =>
      unfold step
      dsimp only
      split
      next currentHeight sig txBytes later hphase =>
        have hstate := getState_rebroadcast tracker sig currentHeight outcome signature
        rw [if_neg] at hstate
        · have hkept : Quiet signature tracker
            (tracker.recordRebroadcast sig currentHeight outcome) := .kept hstate rfl
          exact (Relation.ReflTransGen.single hkept).tail (quiet_awaitRebroadcast ..)
        · rintro ⟨rfl, rfl, htracked⟩
          exact hrestart ⟨htracked, currentHeight, txBytes, later, hphase⟩
      · exact .refl

/-- A restart puts the record at `submitted` and sends nothing; the rest of the
stretch is quiet. -/
theorem restarts_step (policy : RetryPolicy) {tracker : Tracker} {input : TrackerInput}
    {signature : String} (hrestart : Restarts signature tracker input) :
    ∃ middle : Tracker, middle.getState signature = some .submitted ∧
      middle.changesOf signature = tracker.changesOf signature ∧
      QuietRun signature middle (tracker.step policy input) := by
  cases input with
  | track call =>
      rw [Restarts] at hrestart
      refine ⟨tracker.track call, ?_, rfl, .refl⟩
      rw [getState_track, if_pos hrestart]
  | rebroadcast outcome =>
      cases outcome with
      | error => exact absurd hrestart id
      | ok =>
          obtain ⟨htracked, currentHeight, txBytes, later, hphase⟩ := hrestart
          refine ⟨tracker.recordRebroadcast signature currentHeight (.ok ()), ?_, rfl, ?_⟩
          · rw [getState_rebroadcast, if_pos ⟨rfl, rfl, htracked⟩]
          · rw [step, hphase]
            exact .single (quiet_awaitRebroadcast ..)
  | tick | blockHeight | signatureStatuses => exact absurd hrestart id

/-! ## Whole runs -/

/-- The step restarts a signature for which a change was sent already. -/
def Disturbs (signature : String) (tracker : Tracker) (input : TrackerInput) : Prop :=
  Restarts signature tracker input ∧ tracker.changesOf signature ≠ []

theorem connected_run {signature : String} {before after : Tracker}
    (hrun : QuietRun signature before after) (hconnected : before.Connected signature) :
    after.Connected signature := by
  induction hrun with
  | refl => exact hconnected
  | tail _ heffect ih => exact heffect.connected ih

theorem disconnected_run {signature : String} {before after : Tracker}
    (hrun : QuietRun signature before after) (hbroken : before.Disconnected signature) :
    after.Disconnected signature := by
  induction hrun with
  | refl => exact hbroken
  | tail _ heffect ih => exact heffect.disconnected ih

theorem departed_run {signature : String} {before after : Tracker}
    (hrun : QuietRun signature before after) (hdeparted : before.Departed signature) :
    after.Departed signature := by
  induction hrun with
  | refl => exact hdeparted
  | tail _ heffect ih => exact heffect.departed ih

theorem departed_step (policy : RetryPolicy) {tracker : Tracker} (input : TrackerInput)
    {signature : String} (hdeparted : tracker.Departed signature) :
    (tracker.step policy input).Departed signature := by
  by_cases hrestart : Restarts signature tracker input
  · obtain ⟨middle, _, hchanges, hrun⟩ := restarts_step policy hrestart
    apply departed_run hrun
    rw [Departed, hchanges]
    exact hdeparted
  · exact departed_run (quiet_step policy hrestart) hdeparted

theorem connected_step (policy : RetryPolicy) {tracker : Tracker} {input : TrackerInput}
    {signature : String} (hconnected : tracker.Connected signature)
    (hdisturbs : ¬ Disturbs signature tracker input) :
    (tracker.step policy input).Connected signature := by
  by_cases hrestart : Restarts signature tracker input
  · -- Nothing was sent yet, so the chain still ends at `submitted`.
    have hnone : tracker.changesOf signature = [] := by
      by_contra hne
      exact hdisturbs ⟨hrestart, hne⟩
    obtain ⟨middle, hstate, hchanges, hrun⟩ := restarts_step policy hrestart
    apply connected_run hrun
    constructor
    · rw [hchanges]
      exact hconnected.chained
    · intro state hget
      rw [hstate, Option.some.injEq] at hget
      rw [hchanges, hnone, ← hget, endpoint]
  · exact connected_run (quiet_step policy hrestart) hconnected

theorem disconnected_of_disturbs (policy : RetryPolicy) {tracker : Tracker}
    {input : TrackerInput} {signature : String} (hdeparted : tracker.Departed signature)
    (hdisturbs : Disturbs signature tracker input) :
    (tracker.step policy input).Disconnected signature := by
  obtain ⟨middle, hstate, hchanges, hrun⟩ := restarts_step policy hdisturbs.1
  apply disconnected_run hrun
  intro _
  rw [hchanges]
  exact ⟨hstate, endpoint_ne_submitted hdisturbs.2 hdeparted⟩

theorem disconnected_step (policy : RetryPolicy) {tracker : Tracker} (input : TrackerInput)
    {signature : String} (hbroken : tracker.Disconnected signature) :
    (tracker.step policy input).Disconnected signature := by
  by_cases hrestart : Restarts signature tracker input
  · obtain ⟨middle, hstate, hchanges, hrun⟩ := restarts_step policy hrestart
    apply disconnected_run hrun
    intro hchained
    rw [hchanges] at hchained ⊢
    exact ⟨hstate, (hbroken hchained).2⟩
  · exact disconnected_run (quiet_step policy hrestart) hbroken

end Tracker

/-- No step of the run restarts the signature after a change was sent for it. -/
abbrev Undisturbed (policy : RetryPolicy) (signature : String) :
    List TrackerInput → Prop :=
  (trackerMachine policy).Throughout fun tracker input =>
    ¬ Tracker.Disturbs signature tracker input

/-- A run is connected and undisturbed, or disturbed and broken for good. -/
theorem connected_or_disturbed (policy : RetryPolicy) (signature : String)
    (history : List TrackerInput) :
    let tracker := (trackerMachine policy).after history
    tracker.Departed signature ∧
      ((Undisturbed policy signature history ∧ tracker.Connected signature) ∨
        (¬ Undisturbed policy signature history ∧ tracker.Disconnected signature)) := by
  refine (trackerMachine policy).after_induction
    (P := fun history tracker => tracker.Departed signature ∧
      ((Undisturbed policy signature history ∧ tracker.Connected signature) ∨
        (¬ Undisturbed policy signature history ∧ tracker.Disconnected signature))) ?_ ?_ history
  · refine ⟨?_, .inl ⟨Machine.throughout_nil _ _, trivial, ?_⟩⟩
    · intro change hmem
      exact absurd hmem (by simp [trackerMachine, Tracker.changesOf])
    · intro state hstate
      exact absurd hstate (by simp [trackerMachine, Tracker.getState])
  · rintro history input ⟨hdeparted, hstory⟩
    refine ⟨Tracker.departed_step policy input hdeparted, ?_⟩
    rw [Undisturbed, Machine.throughout_concat]
    rcases hstory with ⟨hundisturbed, hconnected⟩ | ⟨hdisturbed, hbroken⟩
    · by_cases hdisturbs : Tracker.Disturbs signature
        ((trackerMachine policy).after history) input
      · exact .inr ⟨fun h => h.2 hdisturbs,
          Tracker.disconnected_of_disturbs policy hdeparted hdisturbs⟩
      · exact .inl ⟨⟨hundisturbed, hdisturbs⟩,
          Tracker.connected_step policy hconnected hdisturbs⟩
    · exact .inr ⟨fun h => hdisturbed h.1, Tracker.disconnected_step policy input hbroken⟩

/-- In every run and for every signature, the changes sent form a chain from
`submitted` to the tracked state exactly as long as no step restarts the
signature after a change was sent for it: no accepted rebroadcast of a dropped
record, and no second tracking of a removed one. -/
theorem connected_iff_undisturbed (policy : RetryPolicy) (signature : String)
    (history : List TrackerInput) :
    ((trackerMachine policy).after history).Connected signature ↔
      Undisturbed policy signature history := by
  obtain ⟨_, ⟨hundisturbed, hconnected⟩ | ⟨hdisturbed, hbroken⟩⟩ :=
    connected_or_disturbed policy signature history
  · exact ⟨fun _ => hundisturbed, fun _ => hconnected⟩
  · exact ⟨fun h => absurd h hbroken.not_connected, fun h => absurd h hdisturbed⟩

/-- The text form of the all-zero signature. -/
def sampleSignature : String := String.ofList (List.replicate 64 '1')

/-- A transaction goes unseen for sixty blocks, is rebroadcast, and then lands:
four ticks of a tracker that tracks nothing else. -/
def rebroadcastRun : List TrackerInput :=
  let uuid : Uuid := ⟨List.replicate 16 0, rfl⟩
  [.track ⟨sampleSignature, uuid, uuid, "session", "wallet", 1000, 100, some [1]⟩,
    .tick, .blockHeight (some 160) (fun _ => 0),
    .tick, .blockHeight (some 160) (fun _ => 0), .signatureStatuses (some [none]) (fun _ => 0),
    .rebroadcast (.ok ()),
    .tick, .blockHeight (some 161) (fun _ => 0),
    .signatureStatuses (some [some ⟨7, none, some .confirmed⟩]) (fun _ => 0)]

/-- The two changes of that run both start at `submitted`, and its third tick
ended with the record there although the last change led to `dropped`. -/
theorem rebroadcast_breaks_chain :
    (((trackerMachine .default).after (rebroadcastRun.take 7)).phase = .waiting ∧
      ((trackerMachine .default).after (rebroadcastRun.take 7)).getState sampleSignature =
        some .submitted ∧
      ¬ ((trackerMachine .default).after (rebroadcastRun.take 7)).Connected sampleSignature) ∧
    (((trackerMachine .default).after rebroadcastRun).changesOf sampleSignature).map
        (fun change => (change.fromState, change.toState)) =
      [(.submitted, .dropped), (.submitted, .confirmed 7)] ∧
    ¬ ((trackerMachine .default).after rebroadcastRun).Connected sampleSignature := by
  refine ⟨⟨by decide, by decide, ?_⟩, by decide, ?_⟩
  · intro hconnected
    have hstate := hconnected.tracked .submitted (by decide)
    exact absurd hstate (by decide)
  · intro hconnected
    exact absurd hconnected.chained (by decide)

end SolFrontier.SolanaCore
