import SolFrontier.SolanaCore.Tracker

/-! # Rebroadcasts

A run of the tracker next to an observer of one signature, who counts how often
its bytes were sent again since the tracker last took it up. The count is the
record's own retry counter plus the rebroadcast in flight, and everything still
queued is a dropped record with retries and blocks left, because nothing but
the outcome of its own rebroadcast touches a queued record.
-/

namespace SolFrontier.SolanaCore

open Foundation

/-- The states a rebroadcast must never follow. -/
def TxState.isResolved : TxState → Bool
  | confirmed _ | finalized _ | failed _ | expired => true
  | submitted | dropped => false

/-- A resolved state only moves to a resolved one. -/
theorem Transition.isResolved {observation : RpcObservation}
    {currentBlockHeight submissionHeight lastValidHeight : UInt64} {state next : TxState}
    (hstep : Transition observation currentBlockHeight submissionHeight lastValidHeight state next)
    (hresolved : state.isResolved = true) : next.isResolved = true := by
  cases hstep with
  | kept => exact hresolved
  | dropped => cases hresolved
  | _ => rfl

/-- The worker waits for the RPC's answer to a rebroadcast of the signature. -/
def TickPhase.inFlight (signature : String) : TickPhase → Bool
  | rebroadcasting _ sig _ _ => sig = signature
  | _ => false

/-! ## The observer -/

/-- The tracker, the number of changes it had sent when it last took the
signature up, and the rebroadcasts it sent since. -/
structure Watch where
  tracker : Tracker
  since : Nat
  rebroadcasts : Nat

namespace Watch

/-- The tracker starts tracking the signature. -/
def takesUp (signature : String) (tracker : Tracker) : TrackerInput → Bool
  | .track call => call.signature = signature ∧ tracker.tracking.get signature = none
  | _ => false

/-- The stretch from one tracker to the next ends in sending the signature's
bytes to the RPC. -/
def sends (signature : String) (before after : Tracker) : Bool :=
  before.phase ≠ after.phase ∧ after.phase.inFlight signature

/-- The changes sent since the tracker took the signature up name a state that
resolves it. -/
def Recorded (watch : Watch) (signature : String) : Prop :=
  ∃ change ∈ watch.tracker.changes.drop watch.since,
    change.signature = signature ∧ change.toState.isResolved = true

def step (policy : RetryPolicy) (signature : String) (watch : Watch) (input : TrackerInput) :
    Watch :=
  let next := watch.tracker.step policy input
  if takesUp signature watch.tracker input then ⟨next, next.changes.length, 0⟩
  else
    { tracker := next
      since := watch.since
      rebroadcasts := watch.rebroadcasts + (sends signature watch.tracker next).toNat }

theorem step_tracker (policy : RetryPolicy) (signature : String) (watch : Watch)
    (input : TrackerInput) :
    (watch.step policy signature input).tracker = watch.tracker.step policy input := by
  unfold step
  split <;> rfl

end Watch

/-- The tracker, observed from an empty map on. -/
def watched (policy : RetryPolicy) (signature : String) : Machine Watch TrackerInput where
  init := ⟨(trackerMachine policy).init, 0, 0⟩
  step := Watch.step policy signature

/-- The observer does not disturb the tracker. -/
theorem watched_tracker (policy : RetryPolicy) (signature : String)
    (history : List TrackerInput) :
    ((watched policy signature).after history).tracker =
      (trackerMachine policy).after history := by
  induction history using List.reverseRecOn with
  | nil => rfl
  | append_singleton history input ih =>
      rw [Machine.after_concat, Machine.after_concat, ← ih]
      exact Watch.step_tracker ..

/-! ## What is queued -/

/-- The record is dropped and has retries and blocks left. -/
def Due (policy : RetryPolicy) (tracking : TrackingMap) (currentHeight : UInt64)
    (signature : String) : Prop :=
  ∃ record, tracking.get signature = some record ∧ record.state = .dropped ∧
    record.retryCount < policy.maxRetries ∧ currentHeight ≤ record.lastValidBlockHeight

/-- Distinct signatures that are all due. -/
structure Queue (policy : RetryPolicy) (tracking : TrackingMap) (currentHeight : UInt64)
    (candidates : List (String × List UInt8)) : Prop where
  nodup : (candidates.map Prod.fst).Nodup
  due : ∀ candidate ∈ candidates, Due policy tracking currentHeight candidate.1

theorem queue_rebroadcastCandidates (policy : RetryPolicy) (tracker : Tracker)
    (rank : String → Nat) (currentHeight : UInt64) :
    Queue policy tracker.tracking currentHeight
      (tracker.rebroadcastCandidates policy rank currentHeight) := by
  have hperm : (tracker.entries rank).Perm tracker.tracking.rows := List.perm_insertionSort _ _
  constructor
  · have hkeys : ((tracker.entries rank).map TrackingRecord.signature).Nodup :=
      (hperm.map TrackingRecord.signature).nodup_iff.mpr tracker.tracking.nodup
    refine List.Sublist.nodup ?_ hkeys
    unfold Tracker.rebroadcastCandidates
    generalize tracker.entries rank = records
    induction records with
    | nil => exact .slnil
    | cons record later ih =>
        rw [List.filterMap_cons]
        split
        · exact ih.cons _
        next candidate hcandidate =>
          have hsig : candidate.1 = record.signature := by
            split at hcandidate
            · obtain ⟨txBytes, _, rfl⟩ := Option.map_eq_some_iff.mp hcandidate
              rfl
            · cases hcandidate
          rw [List.map_cons, List.map_cons, hsig]
          exact ih.cons_cons _
  · intro candidate hmem
    obtain ⟨record, hrecord, hcandidate⟩ := List.mem_filterMap.mp hmem
    split at hcandidate
    next hdue =>
      obtain ⟨txBytes, _, rfl⟩ := Option.map_eq_some_iff.mp hcandidate
      exact ⟨record, Table.get_of_mem (hperm.mem_iff.mp hrecord), hdue⟩
    · cases hcandidate

/-! ## The record of the signature -/

namespace Watch

/-- The signature's record counts what was sent, and is resolved once a change
that resolves it was sent. -/
structure Counts (watch : Watch) (signature : String) (record : TrackingRecord) : Prop where
  counted : watch.rebroadcasts = record.retryCount.toNat
  resolved : watch.Recorded signature → record.state.isResolved = true

/-- Between two rebroadcasts. -/
structure Steady (policy : RetryPolicy) (signature : String) (watch : Watch) : Prop where
  bounded : watch.rebroadcasts ≤ policy.maxRetries.toNat
  record : ∀ record, watch.tracker.tracking.get signature = some record →
    watch.Counts signature record

variable {policy : RetryPolicy} {signature : String} {watch : Watch}

/-- The same watch of a tracker further on. -/
def follow (watch : Watch) (tracker : Tracker) : Watch := { watch with tracker }

theorem recorded_move {record : TrackingRecord} {currentHeight : UInt64} {newState : TxState}
    (hrecorded : (watch.follow (watch.tracker.move record currentHeight newState)).Recorded signature) :
    watch.Recorded signature ∨ (record.signature = signature ∧ newState.isResolved = true) := by
  obtain ⟨change, hmem, hsig, hresolved⟩ := hrecorded
  have hsplit : change ∈ watch.tracker.changes.drop watch.since ∨
      change = record.change newState currentHeight := by
    have hdrop : (watch.tracker.changes ++ [record.change newState currentHeight]).drop
        watch.since = _ := List.drop_append
    rcases List.mem_append.mp (hdrop ▸ hmem) with hold | hnew
    · exact .inl hold
    · exact .inr (List.mem_singleton.mp (List.mem_of_mem_drop hnew))
  rcases hsplit with hold | rfl
  · exact .inl ⟨change, hold, hsig, hresolved⟩
  · exact .inr ⟨hsig, hresolved⟩

/-- An observation keeps the count, and never leaves the resolved states. -/
theorem Steady.observe (hsteady : watch.Steady policy signature) (currentHeight : UInt64)
    (sig : String) (status : Option TransactionStatus) :
    (watch.follow (watch.tracker.observe currentHeight sig status)).Steady policy signature := by
  unfold Tracker.observe
  cases hget : watch.tracker.tracking.get sig with
  | none => exact hsteady
  | some record =>
      dsimp only
      split
      · exact hsteady
      next hmoved =>
        obtain rfl : record.signature = sig := Table.key_of_get hget
        refine ⟨hsteady.bounded, ?_⟩
        intro current hcurrent
        rw [Watch.follow, Tracker.move, Table.get_update, hget] at hcurrent
        by_cases heq : signature = record.signature
        · rw [if_pos heq] at hcurrent
          obtain rfl := Option.some.inj hcurrent
          have hcounts := hsteady.record record (heq ▸ hget)
          refine ⟨hcounts.counted, ?_⟩
          intro hrecorded
          show (record.nextState currentHeight status).isResolved = true
          rcases recorded_move hrecorded with hbefore | ⟨_, hresolved⟩
          · exact (calculateNextState_transition record.state (statusToObservation status)
              currentHeight record.submissionBlockHeight
              record.lastValidBlockHeight).isResolved (hcounts.resolved hbefore)
          · exact hresolved
        · rw [if_neg heq] at hcurrent
          have hcounts := hsteady.record current hcurrent
          refine ⟨hcounts.counted, ?_⟩
          intro hrecorded
          rcases recorded_move hrecorded with hbefore | ⟨hsig, _⟩
          · exact hcounts.resolved hbefore
          · exact absurd hsig.symm heq

theorem Steady.observeAll (hsteady : watch.Steady policy signature) (currentHeight : UInt64)
    (sigs : List String) (statuses : List (Option TransactionStatus)) :
    (watch.follow (watch.tracker.observeAll currentHeight sigs statuses)).Steady policy signature := by
  unfold Tracker.observeAll
  generalize sigs.zipIdx = positions
  induction positions generalizing watch with
  | nil => exact hsteady
  | cons position later ih => exact ih (hsteady.observe currentHeight _ _)

/-- After the outcome of the signature's own rebroadcast its record counts it. -/
theorem Steady.recordRebroadcast {sig : String} {currentHeight : UInt64}
    (hdue : Due policy watch.tracker.tracking currentHeight sig) (outcome : Except String Unit)
    (hbounded : watch.rebroadcasts ≤ policy.maxRetries.toNat)
    (hrecord : ∀ record, watch.tracker.tracking.get signature = some record →
      watch.rebroadcasts = record.retryCount.toNat + (decide (sig = signature)).toNat ∧
        (watch.Recorded signature → record.state.isResolved = true)) :
    (watch.follow (watch.tracker.recordRebroadcast sig currentHeight outcome)).Steady policy
      signature := by
  refine ⟨hbounded, ?_⟩
  intro current hcurrent
  rw [Watch.follow, Tracker.recordRebroadcast, Table.get_update] at hcurrent
  by_cases heq : signature = sig
  · subst heq
    obtain ⟨record, hget, hdropped, hretries, _⟩ := hdue
    rw [if_pos rfl, hget] at hcurrent
    obtain rfl := Option.some.inj hcurrent
    obtain ⟨hcounted, hresolved⟩ := hrecord record hget
    have hunresolved : ¬ watch.Recorded signature := by
      intro hrecorded
      have hstate := hresolved hrecorded
      rw [hdropped] at hstate
      cases hstate
    -- The retry counter is below the limit, so counting up does not overflow.
    have hsucc : (record.retryCount + 1).toNat = record.retryCount.toNat + 1 := by
      have hlimit := policy.maxRetries.toNat_lt
      rw [UInt32.lt_iff_toNat_lt] at hretries
      rw [UInt32.toNat_add]
      exact Nat.mod_eq_of_lt (by simp; omega)
    rw [decide_eq_true rfl] at hcounted
    cases outcome with
    | ok => exact ⟨hcounted.trans hsucc.symm, fun h => absurd h hunresolved⟩
    | error => exact ⟨hcounted.trans hsucc.symm, fun h => absurd h hunresolved⟩
  · rw [if_neg heq] at hcurrent
    obtain ⟨hcounted, hresolved⟩ := hrecord current hcurrent
    rw [decide_eq_false (Ne.symm heq)] at hcounted
    exact ⟨hcounted, hresolved⟩

/-! ## Steps of the worker -/

/-- What every stretch of the worker keeps. -/
structure Bounded (policy : RetryPolicy) (signature : String) (watch : Watch) : Prop where
  bounded : watch.rebroadcasts ≤ policy.maxRetries.toNat
  record : ∀ record, watch.tracker.tracking.get signature = some record →
    watch.rebroadcasts =
        record.retryCount.toNat + (watch.tracker.phase.inFlight signature).toNat ∧
      (watch.Recorded signature → record.state.isResolved = true)
  queued : ∀ currentHeight sig txBytes later,
    watch.tracker.phase = .rebroadcasting currentHeight sig txBytes later →
    Queue policy watch.tracker.tracking currentHeight ((sig, txBytes) :: later)

/-- With nothing in flight the two invariants are the same. -/
theorem Bounded.steady (hbounded : watch.Bounded policy signature)
    (hidle : watch.tracker.phase.inFlight signature = false) : watch.Steady policy signature := by
  refine ⟨hbounded.bounded, ?_⟩
  intro record hget
  obtain ⟨hcounted, hresolved⟩ := hbounded.record record hget
  rw [hidle] at hcounted
  exact ⟨hcounted, hresolved⟩

/-- The watch after a stretch that ends in the given tracker. -/
def advance (watch : Watch) (signature : String) (next : Tracker) : Watch :=
  { tracker := next
    since := watch.since
    rebroadcasts := watch.rebroadcasts + (next.phase.inFlight signature).toNat }

/-- Nothing is in flight at the end of the stretch. -/
theorem Steady.rest (hsteady : watch.Steady policy signature) {next : Tracker}
    (hidle : ∀ currentHeight sig txBytes later,
      next.phase ≠ .rebroadcasting currentHeight sig txBytes later)
    (hchanges : next.changes = watch.tracker.changes)
    (hget : ∀ record, next.tracking.get signature = some record →
      watch.tracker.tracking.get signature = some record) :
    (watch.advance signature next).Bounded policy signature := by
  have hinFlight : next.phase.inFlight signature = false := by
    cases hphase : next.phase with
    | rebroadcasting currentHeight sig txBytes later => exact absurd hphase (hidle _ _ _ _)
    | _ => rfl
  have hcount : (watch.advance signature next).rebroadcasts = watch.rebroadcasts := by
    rw [advance, hinFlight]
    rfl
  constructor
  · rw [hcount]
    exact hsteady.bounded
  · intro record hrecord
    have hcounts := hsteady.record record (hget record hrecord)
    rw [hcount]
    refine ⟨?_, ?_⟩
    · rw [show (watch.advance signature next).tracker = next from rfl, hinFlight]
      exact hcounts.counted
    · intro hrecorded
      apply hcounts.resolved
      unfold Recorded at hrecorded ⊢
      rw [← hchanges]
      exact hrecorded
  · intro currentHeight sig txBytes later hphase
    exact absurd hphase (hidle _ _ _ _)

/-- The next queued rebroadcast goes out, or the tick ends. -/
theorem Steady.awaitRebroadcast (hsteady : watch.Steady policy signature)
    {currentHeight : UInt64} {candidates : List (String × List UInt8)}
    (hqueue : Queue policy watch.tracker.tracking currentHeight candidates) :
    (watch.advance signature (watch.tracker.awaitRebroadcast currentHeight candidates)).Bounded
      policy signature := by
  cases candidates with
  | nil =>
      apply hsteady.rest
      · intro _ _ _ _ hphase
        cases hphase
      · rfl
      · intro record hrecord
        rw [Tracker.awaitRebroadcast, Tracker.cleanup, Table.get_retain] at hrecord
        exact (Option.filter_eq_some_iff.mp hrecord).1
  | cons candidate later =>
      obtain ⟨sig, txBytes⟩ := candidate
      have hinFlight (next : Tracker)
          (hphase : next.phase = .rebroadcasting currentHeight sig txBytes later) :
          next.phase.inFlight signature = decide (sig = signature) := by
        rw [hphase]
        rfl
      constructor
      · by_cases heq : sig = signature
        · -- In flight it counts as sent already, and it was due only below the limit.
          subst heq
          obtain ⟨record, hget, _, hretries, _⟩ := hqueue.due _ (List.mem_cons_self ..)
          have hcounted := (hsteady.record record hget).counted
          rw [UInt32.lt_iff_toNat_lt] at hretries
          rw [advance, hinFlight _ rfl, decide_eq_true rfl, hcounted]
          exact hretries
        · rw [advance, hinFlight _ rfl, decide_eq_false heq]
          exact hsteady.bounded
      · intro record hget
        have hcounts := hsteady.record record hget
        refine ⟨?_, hcounts.resolved⟩
        show watch.rebroadcasts + _ = _
        rw [hcounts.counted]
        rfl
      · intro _ _ _ _ hphase
        obtain ⟨rfl, rfl, rfl, rfl⟩ := TickPhase.rebroadcasting.inj hphase
        exact hqueue

theorem Steady.awaitStatuses (hsteady : watch.Steady policy signature) (rank : String → Nat)
    (currentHeight : UInt64) (batches : List (List String)) :
    (watch.advance signature
      (watch.tracker.awaitStatuses policy rank currentHeight batches)).Bounded policy
      signature := by
  cases batches with
  | nil => exact hsteady.awaitRebroadcast (queue_rebroadcastCandidates ..)
  | cons =>
      apply hsteady.rest
      · intro _ _ _ _ hphase
        cases hphase
      · rfl
      · exact fun _ hget => hget

/-- A step is counted when it puts the signature in flight. -/
theorem step_eq_advance {input : TrackerInput}
    (htakes : takesUp signature watch.tracker input = false)
    (hphase : watch.tracker.phase = (watch.tracker.step policy input).phase →
      (watch.tracker.step policy input).phase.inFlight signature = false) :
    watch.step policy signature input =
      watch.advance signature (watch.tracker.step policy input) := by
  have hsends : sends signature watch.tracker (watch.tracker.step policy input) =
      (watch.tracker.step policy input).phase.inFlight signature := by
    unfold sends
    by_cases hsame : watch.tracker.phase = (watch.tracker.step policy input).phase
    · rw [hphase hsame]
      simp
    · simp [hsame]
  unfold Watch.step
  rw [if_neg (by simp [htakes]), hsends, advance]

/-- A rebroadcast that goes out is counted. -/
theorem step_rebroadcasts {input : TrackerInput}
    (hmoved : watch.tracker.phase ≠ (watch.tracker.step policy input).phase)
    (hinFlight : (watch.tracker.step policy input).phase.inFlight signature = true) :
    (watch.step policy signature input).rebroadcasts = watch.rebroadcasts + 1 := by
  have htakes : takesUp signature watch.tracker input = false := by
    cases input with
    | track call => exact absurd rfl hmoved
    | _ => rfl
  rw [step_eq_advance htakes fun hsame => absurd hsame hmoved, advance, hinFlight]
  rfl

/-- An input the worker does not wait for changes nothing. -/
theorem step_ignored {input : TrackerInput}
    (htakes : takesUp signature watch.tracker input = false)
    (hsame : watch.tracker.step policy input = watch.tracker) :
    watch.step policy signature input = watch := by
  unfold Watch.step
  rw [if_neg (by simp [htakes]), hsame]
  simp [sends]

/-- Tracking touches no tracked record. -/
theorem queue_track {tracker : Tracker} {call : TrackCall} {currentHeight : UInt64}
    {candidates : List (String × List UInt8)}
    (hqueue : Queue policy tracker.tracking currentHeight candidates) :
    Queue policy (tracker.track call).tracking currentHeight candidates := by
  refine ⟨hqueue.nodup, ?_⟩
  intro candidate hmem
  obtain ⟨record, hget, hdue⟩ := hqueue.due candidate hmem
  refine ⟨record, ?_, hdue⟩
  rw [Tracker.get_track, if_neg, hget]
  rw [hget]
  exact fun h => absurd h.2 (by simp)

theorem Bounded.track (hbounded : watch.Bounded policy signature) (call : TrackCall) :
    (watch.step policy signature (.track call)).Bounded policy signature := by
  have hget := Tracker.get_track watch.tracker call signature
  cases htakes : takesUp signature watch.tracker (.track call) with
  | true =>
      obtain ⟨hsig, hnone⟩ := of_decide_eq_true htakes
      have hidle : watch.tracker.phase.inFlight signature = false := by
        cases hphase : watch.tracker.phase with
        | rebroadcasting currentHeight sig txBytes later =>
            -- What is in flight is tracked.
            obtain ⟨record, hrecord, _⟩ :=
              (hbounded.queued _ _ _ _ hphase).due _ (List.mem_cons_self ..)
            apply decide_eq_false
            rintro rfl
            rw [hnone] at hrecord
            cases hrecord
        | _ => rfl
      unfold Watch.step
      rw [if_pos htakes]
      constructor
      · exact Nat.zero_le _
      · intro record hrecord
        have hfresh : (watch.tracker.track call).tracking.get signature = some record := hrecord
        rw [hget, if_pos ⟨hsig, hnone⟩] at hfresh
        obtain rfl := Option.some.inj hfresh
        constructor
        · show 0 = 0 + (watch.tracker.phase.inFlight signature).toNat
          rw [hidle]
          rfl
        · rintro ⟨change, hmem, _⟩
          dsimp only at hmem
          rw [List.drop_length] at hmem
          cases hmem
      · intro currentHeight sig txBytes later hphase
        exact queue_track (hbounded.queued currentHeight sig txBytes later hphase)
  | false =>
      rw [if_neg (of_decide_eq_false htakes)] at hget
      have hstep : watch.step policy signature (.track call) =
          watch.follow (watch.tracker.track call) := by
        unfold Watch.step
        rw [if_neg (by simp [htakes])]
        simp [sends, Tracker.step, Tracker.track, follow]
      rw [hstep]
      constructor
      · exact hbounded.bounded
      · intro record hrecord
        exact hbounded.record record (hget ▸ hrecord)
      · intro currentHeight sig txBytes later hphase
        exact queue_track (hbounded.queued currentHeight sig txBytes later hphase)

/-- The outcome of one rebroadcast touches no other queued record. -/
theorem queue_recordRebroadcast {tracker : Tracker} {sig : String} {txBytes : List UInt8}
    {currentHeight : UInt64} {later : List (String × List UInt8)} {outcome : Except String Unit}
    (hqueue : Queue policy tracker.tracking currentHeight ((sig, txBytes) :: later)) :
    Queue policy (tracker.recordRebroadcast sig currentHeight outcome).tracking currentHeight
      later := by
  obtain ⟨hnot, hnodup⟩ := List.nodup_cons.mp hqueue.nodup
  refine ⟨hnodup, ?_⟩
  intro candidate hmem
  obtain ⟨record, hget, hdue⟩ := hqueue.due candidate (List.mem_cons_of_mem _ hmem)
  refine ⟨record, ?_, hdue⟩
  have hmemFst : candidate.1 ∈ later.map Prod.fst := List.mem_map_of_mem hmem
  have hne : candidate.1 ≠ sig := fun heq => hnot (heq ▸ hmemFst)
  rw [Tracker.recordRebroadcast, Table.get_update_of_ne _ _ hne, hget]

theorem Bounded.step (hbounded : watch.Bounded policy signature) (input : TrackerInput) :
    (watch.step policy signature input).Bounded policy signature := by
  cases input with
  | track call => exact hbounded.track call
  | tick =>
      cases hphase : watch.tracker.phase with
      | waiting =>
          have hsteady := hbounded.steady (by rw [hphase]; rfl)
          rw [step_eq_advance rfl]
          · apply hsteady.rest
            · intro _ _ _ _ hnext
              simp only [Tracker.step, hphase] at hnext
              split at hnext <;> cases hnext
            · simp only [Tracker.step, hphase]
            · simp only [Tracker.step, hphase]
              exact fun _ hget => hget
          · intro hsame
            rw [← hsame, hphase]
            rfl
      | _ =>
          rw [step_ignored rfl (by simp only [Tracker.step, hphase])]
          exact hbounded
  | blockHeight answer rank =>
      cases hphase : watch.tracker.phase with
      | fetchingHeight =>
          have hsteady := hbounded.steady (by rw [hphase]; rfl)
          have hnext : (watch.tracker.step policy (.blockHeight answer rank)).changes =
              watch.tracker.changes ∧
              (watch.tracker.step policy (.blockHeight answer rank)).tracking =
                watch.tracker.tracking ∧
              ∀ currentHeight sig txBytes later,
                (watch.tracker.step policy (.blockHeight answer rank)).phase ≠
                  .rebroadcasting currentHeight sig txBytes later := by
            simp only [Tracker.step, hphase]
            cases answer with
            | none => simp
            | some currentHeight =>
                dsimp only
                split <;> simp
          obtain ⟨hchanges, htracking, hidle⟩ := hnext
          rw [step_eq_advance rfl]
          · apply hsteady.rest hidle hchanges
            rw [htracking]
            exact fun _ hget => hget
          · intro hsame
            rw [← hsame, hphase]
            rfl
      | _ =>
          rw [step_ignored rfl (by simp only [Tracker.step, hphase])]
          exact hbounded
  | signatureStatuses answer rank =>
      cases hphase : watch.tracker.phase with
      | fetchingStatuses currentHeight sigs later =>
          have hsteady := hbounded.steady (by rw [hphase]; rfl)
          rw [step_eq_advance rfl]
          · simp only [Tracker.step, hphase]
            cases answer with
            | none => exact hsteady.awaitStatuses rank currentHeight later
            | some statuses =>
                exact (hsteady.observeAll currentHeight sigs statuses).awaitStatuses rank
                  currentHeight later
          · intro hsame
            rw [← hsame, hphase]
            rfl
      | _ =>
          rw [step_ignored rfl (by simp only [Tracker.step, hphase])]
          exact hbounded
  | rebroadcast outcome =>
      cases hphase : watch.tracker.phase with
      | rebroadcasting currentHeight sig txBytes later =>
          have hqueue := hbounded.queued currentHeight sig txBytes later hphase
          have hinFlight : watch.tracker.phase.inFlight signature = decide (sig = signature) := by
            rw [hphase]
            rfl
          have hrecorded := Steady.recordRebroadcast (hqueue.due _ (List.mem_cons_self ..)) outcome
            hbounded.bounded (hinFlight ▸ hbounded.record)
          rw [step_eq_advance rfl]
          · simp only [Tracker.step, hphase]
            exact hrecorded.awaitRebroadcast (queue_recordRebroadcast hqueue)
          · intro hsame
            simp only [Tracker.step, hphase] at hsame ⊢
            cases later with
            | nil => rfl
            | cons next later =>
                -- The queue got shorter.
                obtain ⟨_, _, _, hlater⟩ := TickPhase.rebroadcasting.inj hsame
                exact absurd hlater (List.cons_ne_self _ _)
      | _ =>
          rw [step_ignored rfl (by simp only [Tracker.step, hphase])]
          exact hbounded

theorem bounded_after (policy : RetryPolicy) (signature : String) (history : List TrackerInput) :
    ((watched policy signature).after history).Bounded policy signature := by
  apply (watched policy signature).after_induction
    (P := fun _ watch => watch.Bounded policy signature)
  · constructor
    · exact Nat.zero_le _
    · intro record hget
      cases hget
    · intro _ _ _ _ hphase
      cases hphase
  · exact fun _ input hbounded => hbounded.step input

end Watch

/-- In every run, since the tracker last took a signature up, it sent its bytes
again at most `max_retries` times: each time the record was dropped and the
height read in that tick was within the last valid one, and no change sent for
the record up to that moment had resolved it. -/
theorem rebroadcasts_bounded (policy : RetryPolicy) (signature : String)
    (history : List TrackerInput) (input : TrackerInput) :
    let watch := (watched policy signature).after history
    let next := (watched policy signature).after (history ++ [input])
    watch.tracker = (trackerMachine policy).after history ∧
      watch.rebroadcasts ≤ policy.maxRetries.toNat ∧
      ∀ currentHeight txBytes later, watch.tracker.phase ≠ next.tracker.phase →
        next.tracker.phase = .rebroadcasting currentHeight signature txBytes later →
        (∃ record, next.tracker.tracking.get signature = some record ∧
          record.state = .dropped ∧ currentHeight ≤ record.lastValidBlockHeight) ∧
        next.rebroadcasts = watch.rebroadcasts + 1 ∧ ¬ next.Recorded signature := by
  intro watch next
  have hnext : next = watch.step policy signature input :=
    (watched policy signature).after_concat history input
  have hbounded : next.Bounded policy signature := Watch.bounded_after policy signature _
  refine ⟨watched_tracker policy signature history,
    (Watch.bounded_after policy signature history).bounded, ?_⟩
  intro currentHeight txBytes later hmoved hphase
  obtain ⟨record, hget, hdropped, _, hheight⟩ :=
    (hbounded.queued currentHeight signature txBytes later hphase).due _ (List.mem_cons_self ..)
  refine ⟨⟨record, hget, hdropped, hheight⟩, ?_, ?_⟩
  · rw [hnext, Watch.step_tracker] at hmoved hphase
    rw [hnext]
    apply Watch.step_rebroadcasts hmoved
    rw [hphase]
    exact decide_eq_true rfl
  · intro hrecorded
    have hresolved := (hbounded.record record hget).2 hrecorded
    rw [hdropped] at hresolved
    cases hresolved

/-- A transaction unseen for fifty blocks is sent again. -/
example :
    let uuid : Uuid := ⟨List.replicate 16 0, rfl⟩
    ((watched .default "signature").after
      [.track ⟨"signature", uuid, uuid, "session", "wallet", 1000, 100, some [1]⟩,
        .tick, .blockHeight (some 130) (fun _ => 0), .signatureStatuses none (fun _ => 0),
        .tick, .blockHeight (some 150) (fun _ => 0),
        .signatureStatuses (some [none]) (fun _ => 0)]).rebroadcasts = 1 := by
  decide

end SolFrontier.SolanaCore
