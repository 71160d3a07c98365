import SolFrontier.SolanaCore.StateChanges

/-! # The window after an expiry

An expired record stays tracked until a tick whose height is past its buffer.
The same tick may mark and drop it when the height jumped, and a later tick may
drop it without asking for its status when its polling tier is not due.
-/

namespace SolFrontier.SolanaCore

open Foundation

/-! ## Batches -/

theorem flatten_toChunksGo {α : Type} (size : Nat) (items : List α) (chunk : Array α)
    (chunks : Array (List α)) :
    (List.toChunks.go size items chunk chunks).flatten =
      chunks.toList.flatten ++ chunk.toList ++ items := by
  induction items generalizing chunk chunks with
  | nil => simp [List.toChunks.go]
  | cons item rest ih =>
      rw [List.toChunks.go]
      split
      · simp [ih]
      · simp [ih]

/-- Cutting a list into chunks loses nothing. -/
theorem flatten_toChunks {α : Type} (size : Nat) (items : List α) :
    (items.toChunks size).flatten = items := by
  cases items with
  | nil => simp [List.toChunks]
  | cons head tail =>
      cases size with
      | zero => simp [List.toChunks]
      | succ size =>
          rw [List.toChunks]
          · simp [flatten_toChunksGo]
          · simp

namespace TickPhase

/-- The block height read in the tick that is going on. -/
def height : TickPhase → Option UInt64
  | waiting | fetchingHeight => none
  | fetchingStatuses currentHeight .. | rebroadcasting currentHeight .. => some currentHeight

/-- The signatures whose statuses were requested last. -/
def asked : TickPhase → List String
  | fetchingStatuses _ sigs _ => sigs
  | _ => []

/-- The signatures whose statuses this tick has yet to request. -/
def unasked : TickPhase → List String
  | fetchingStatuses _ _ later => later.flatten
  | _ => []

/-- The signatures this tick may still observe. -/
def queue (phase : TickPhase) : List String := phase.asked ++ phase.unasked

theorem queue_of_height {phase : TickPhase} (hidle : phase.height = none) : phase.queue = [] := by
  cases phase with
  | waiting | fetchingHeight => rfl
  | fetchingStatuses | rebroadcasting => cases hidle

end TickPhase

namespace Tracker

variable {policy : RetryPolicy} {before after : Tracker} {input : TrackerInput}

/-- Everything one stretch can be. -/
inductive Stretch (policy : RetryPolicy) (before : Tracker) : TrackerInput → Tracker → Prop
  | tracks (call : TrackCall) : Stretch policy before (.track call) (before.track call)
  | ignores (input : TrackerInput) : Stretch policy before input before
  | ticks : before.phase = .waiting →
      Stretch policy before .tick
        { before with
          tickCounter := before.tickCounter + 1
          phase := if before.tracking.rows.isEmpty then .waiting else .fetchingHeight }
  | skips (answer : Option UInt64) (rank : String → Nat) : before.phase = .fetchingHeight →
      Stretch policy before (.blockHeight answer rank) { before with phase := .waiting }
  | polls (currentHeight : UInt64) (rank : String → Nat) (sigs : List String)
      (later : List (List String)) : before.phase = .fetchingHeight →
      sigs ++ later.flatten = before.eligible rank currentHeight →
      Stretch policy before (.blockHeight (some currentHeight) rank)
        { before with phase := .fetchingStatuses currentHeight sigs later }
  | applies (currentHeight : UInt64) (sigs : List String) (later : List (List String))
      (answer : Option (List (Option TransactionStatus))) (rank : String → Nat) :
      before.phase = .fetchingStatuses currentHeight sigs later →
      Stretch policy before (.signatureStatuses answer rank)
        ((answer.elim before (before.observeAll currentHeight sigs)).awaitStatuses policy rank
          currentHeight later)
  | records (currentHeight : UInt64) (sig : String) (txBytes : List UInt8)
      (later : List (String × List UInt8)) (outcome : Except String Unit) :
      before.phase = .rebroadcasting currentHeight sig txBytes later →
      Stretch policy before (.rebroadcast outcome)
        ((before.recordRebroadcast sig currentHeight outcome).awaitRebroadcast currentHeight later)

theorem step_stretch (policy : RetryPolicy) (before : Tracker) (input : TrackerInput) :
    Stretch policy before input (before.step policy input) := by
  cases input with
  | track call => exact .tracks call
  | tick =>
      cases hphase : before.phase with
      | waiting =>
          simp only [step, hphase]
          exact .ticks hphase
      | _ =>
          simp only [step, hphase]
          exact .ignores _
  | blockHeight answer rank =>
      cases hphase : before.phase with
      | fetchingHeight =>
          cases answer with
          | none =>
              simp only [step, hphase]
              exact .skips none rank hphase
          | some currentHeight =>
              have hchunks := flatten_toChunks maxBatchSize (before.eligible rank currentHeight)
              simp only [step, hphase]
              split
              · exact .skips _ rank hphase
              next sigs later heq =>
                rw [heq, List.flatten_cons] at hchunks
                exact .polls currentHeight rank sigs later hphase hchunks
      | _ =>
          simp only [step, hphase]
          exact .ignores _
  | signatureStatuses answer rank =>
      cases hphase : before.phase with
      | fetchingStatuses currentHeight sigs later =>
          have hstretch : Stretch policy before (.signatureStatuses answer rank) _ :=
            .applies currentHeight sigs later answer rank hphase
          simp only [step, hphase]
          cases answer with
          | none => exact hstretch
          | some statuses => exact hstretch
      | _ =>
          simp only [step, hphase]
          exact .ignores _
  | rebroadcast outcome =>
      cases hphase : before.phase with
      | rebroadcasting currentHeight sig txBytes later =>
          simp only [step, hphase]
          exact .records currentHeight sig txBytes later outcome hphase
      | _ =>
          simp only [step, hphase]
          exact .ignores _

/-! ## The phases of a tick -/

theorem phase_awaitRebroadcast (tracker : Tracker) (currentHeight : UInt64)
    (candidates : List (String × List UInt8)) :
    let phase := (tracker.awaitRebroadcast currentHeight candidates).phase
    phase.queue = [] ∧ (phase = .waiting ∨ phase.height = some currentHeight) := by
  cases candidates with
  | nil => exact ⟨rfl, .inl rfl⟩
  | cons => exact ⟨rfl, .inr rfl⟩

theorem phase_awaitStatuses (policy : RetryPolicy) (tracker : Tracker) (rank : String → Nat)
    (currentHeight : UInt64) (batches : List (List String)) :
    let phase := (tracker.awaitStatuses policy rank currentHeight batches).phase
    phase.queue = batches.flatten ∧ (phase = .waiting ∨ phase.height = some currentHeight) := by
  cases batches with
  | nil => exact phase_awaitRebroadcast tracker currentHeight _
  | cons => exact ⟨rfl, .inr rfl⟩

/-- Within a tick the queue only gets shorter. -/
theorem Stretch.of_ticking (hstretch : Stretch policy before input after)
    {currentHeight : UInt64} (hheight : before.phase.height = some currentHeight) :
    after.phase = before.phase ∨
      (before.phase ≠ after.phase ∧ after.phase.queue = before.phase.unasked ∧
        (after.phase = .waiting ∨ after.phase.height = some currentHeight)) := by
  cases hstretch with
  | tracks | ignores => exact .inl rfl
  | ticks hphase | skips _ _ hphase | polls _ _ _ _ hphase =>
      rw [hphase] at hheight
      cases hheight
  | applies height sigs later answer rank hphase =>
      rw [hphase] at hheight ⊢
      obtain rfl := Option.some.inj hheight
      obtain ⟨hqueue, hnext⟩ := phase_awaitStatuses policy
        (answer.elim before (before.observeAll height sigs)) rank height later
      refine .inr ⟨?_, hqueue, hnext⟩
      cases later with
      | nil =>
          intro hsame
          cases hcandidates : (answer.elim before
            (before.observeAll height sigs)).rebroadcastCandidates policy rank height with
          | nil => simp [awaitStatuses, awaitRebroadcast, cleanup, hcandidates] at hsame
          | cons => simp [awaitStatuses, awaitRebroadcast, hcandidates] at hsame
      | cons batch later =>
          intro hsame
          obtain ⟨_, _, hlater⟩ := TickPhase.fetchingStatuses.inj hsame
          exact absurd hlater (List.cons_ne_self _ _)
  | records height sig txBytes later outcome hphase =>
      rw [hphase] at hheight ⊢
      obtain rfl := Option.some.inj hheight
      obtain ⟨hqueue, hnext⟩ := phase_awaitRebroadcast
        (before.recordRebroadcast sig height outcome) height later
      refine .inr ⟨?_, hqueue, hnext⟩
      intro hsame
      cases later with
      | nil => cases hsame
      | cons candidate later =>
          obtain ⟨_, _, _, hlater⟩ := TickPhase.rebroadcasting.inj hsame
          exact absurd hlater (List.cons_ne_self _ _)

/-- Between two ticks nothing is asked until a height is read. -/
theorem Stretch.of_idle (hstretch : Stretch policy before input after)
    (hidle : before.phase.height = none) :
    after.phase.height = none ∨
      ∃ currentHeight rank, input = .blockHeight (some currentHeight) rank ∧
        before.phase = .fetchingHeight ∧ after.phase.height = some currentHeight ∧
        after.phase.queue = before.eligible rank currentHeight := by
  cases hstretch with
  | tracks | ignores => exact .inl hidle
  | ticks =>
      left
      dsimp only
      split <;> rfl
  | skips => exact .inl rfl
  | polls height rank sigs later hphase hqueue => exact .inr ⟨height, rank, rfl, hphase, rfl, hqueue⟩
  | applies _ _ _ _ _ hphase | records _ _ _ _ _ hphase =>
      rw [hphase] at hidle
      cases hidle

theorem nodup_eligible (tracker : Tracker) (rank : String → Nat) (currentHeight : UInt64) :
    (tracker.eligible rank currentHeight).Nodup := by
  have hperm : (tracker.entries rank).Perm tracker.tracking.rows := List.perm_insertionSort _ _
  have hkeys := (hperm.map TrackingRecord.signature).nodup_iff.mpr tracker.tracking.nodup
  exact (List.filter_sublist.map TrackingRecord.signature).nodup hkeys

/-- No tick asks for a signature twice. -/
theorem Stretch.nodup (hstretch : Stretch policy before input after)
    (hnodup : before.phase.queue.Nodup) : after.phase.queue.Nodup := by
  cases hheight : before.phase.height with
  | none =>
      rcases hstretch.of_idle hheight with hidle | ⟨height, rank, _, _, _, hqueue⟩
      · rw [TickPhase.queue_of_height hidle]
        exact List.nodup_nil
      · rw [hqueue]
        exact nodup_eligible before rank height
  | some height =>
      rcases hstretch.of_ticking hheight with hsame | ⟨_, hqueue, _⟩
      · rw [hsame]
        exact hnodup
      · rw [hqueue]
        exact (List.nodup_append.mp hnodup).2.1

theorem nodup_queue (policy : RetryPolicy) (history : List TrackerInput) :
    ((trackerMachine policy).after history).phase.queue.Nodup := by
  induction history using List.reverseRecOn with
  | nil => exact List.nodup_nil
  | append_singleton history input ih =>
      rw [Machine.after_concat]
      exact (step_stretch policy _ input).nodup ih

/-! ## One record in a stretch -/

variable {signature : String} {record : TrackingRecord}

/-- Observing another signature. -/
theorem observe_other (tracker : Tracker) (currentHeight : UInt64) {sig : String}
    (status : Option TransactionStatus) (hne : sig ≠ signature) :
    (tracker.observe currentHeight sig status).tracking.get signature =
        tracker.tracking.get signature ∧
      (tracker.observe currentHeight sig status).changesOf signature =
        tracker.changesOf signature := by
  unfold observe
  cases hget : tracker.tracking.get sig with
  | none => exact ⟨rfl, rfl⟩
  | some record =>
      dsimp only
      split
      · exact ⟨rfl, rfl⟩
      · obtain rfl : record.signature = sig := Table.key_of_get hget
        refine ⟨Table.get_update_of_ne _ _ (Ne.symm hne), ?_⟩
        rw [changesOf_move, if_neg hne]

theorem observeEach_other {currentHeight : UInt64} {statuses : List (Option TransactionStatus)}
    {positions : List (String × Nat)} (hnot : signature ∉ positions.map Prod.fst)
    (tracker : Tracker) :
    let next := positions.foldl (fun tracker (sig, i) =>
      tracker.observe currentHeight sig (statuses[i]?).join) tracker
    next.tracking.get signature = tracker.tracking.get signature ∧
      next.changesOf signature = tracker.changesOf signature := by
  induction positions generalizing tracker with
  | nil => exact ⟨rfl, rfl⟩
  | cons position later ih =>
      rw [List.map_cons, List.mem_cons, not_or] at hnot
      obtain ⟨hget, hchanges⟩ := observe_other tracker currentHeight
        (statuses[position.2]?).join (Ne.symm hnot.1)
      obtain ⟨hgetLater, hchangesLater⟩ := ih hnot.2 (tracker.observe currentHeight position.1 _)
      exact ⟨hgetLater.trans hget, hchangesLater.trans hchanges⟩

theorem observeAll_other {sigs : List String} (hnot : signature ∉ sigs) (tracker : Tracker)
    (currentHeight : UInt64) (statuses : List (Option TransactionStatus)) :
    (tracker.observeAll currentHeight sigs statuses).tracking.get signature =
        tracker.tracking.get signature ∧
      (tracker.observeAll currentHeight sigs statuses).changesOf signature =
        tracker.changesOf signature := by
  apply observeEach_other
  rwa [List.zipIdx_map_fst]

/-- A batch observes each of its signatures once. -/
theorem observeAll_once {sigs : List String} (hnodup : sigs.Nodup) (hmem : signature ∈ sigs)
    (tracker : Tracker) (currentHeight : UInt64) (statuses : List (Option TransactionStatus)) :
    ∃ (middle : Tracker) (status : Option TransactionStatus),
      middle.tracking.get signature = tracker.tracking.get signature ∧
      middle.changesOf signature = tracker.changesOf signature ∧
      (tracker.observeAll currentHeight sigs statuses).tracking.get signature =
        (middle.observe currentHeight signature status).tracking.get signature ∧
      (tracker.observeAll currentHeight sigs statuses).changesOf signature =
        (middle.observe currentHeight signature status).changesOf signature := by
  have hfirst : sigs.zipIdx.map Prod.fst = sigs := List.zipIdx_map_fst ..
  rw [← hfirst] at hnodup hmem
  unfold observeAll
  generalize sigs.zipIdx = positions at hnodup hmem
  obtain ⟨⟨sig, i⟩, hposition, rfl⟩ := List.mem_map.mp hmem
  obtain ⟨earlier, later, rfl⟩ := List.append_of_mem hposition
  rw [List.map_append, List.map_cons, List.nodup_append, List.nodup_cons] at hnodup
  obtain ⟨_, ⟨hlater, _⟩, hdisjoint⟩ := hnodup
  have hearlier : sig ∉ earlier.map Prod.fst :=
    fun h => hdisjoint sig h sig (List.mem_cons_self ..) rfl
  obtain ⟨hget, hchanges⟩ := @observeEach_other _ currentHeight statuses _ hearlier tracker
  rw [List.foldl_append, List.foldl_cons]
  exact ⟨_, _, hget, hchanges, observeEach_other hlater _⟩

/-- The tracker still has the record, with the same last valid height. -/
def Follows (record : TrackingRecord) (tracker : Tracker) : Prop :=
  ∃ current, tracker.tracking.get record.signature = some current ∧
    current.lastValidBlockHeight = record.lastValidBlockHeight

theorem Follows.of_write {tracker next : Tracker} {sig : String}
    {write : Update TrackingRecord.signature} (hfollows : Follows record tracker)
    (hwrite : ∀ row : TrackingRecord,
      (write.set row).lastValidBlockHeight = row.lastValidBlockHeight)
    (hnext : next.tracking = (tracker.tracking.update sig write).1) : Follows record next := by
  obtain ⟨current, hget, hheight⟩ := hfollows
  have hupdate := Table.get_update tracker.tracking sig write record.signature
  rw [← hnext] at hupdate
  by_cases heq : record.signature = sig
  · rw [if_pos heq, ← heq, hget] at hupdate
    refine ⟨write.onRow current, hupdate, ?_⟩
    unfold Update.onRow
    split
    · exact (hwrite current).trans hheight
    · exact hheight
  · rw [if_neg heq] at hupdate
    exact ⟨current, hupdate.trans hget, hheight⟩

theorem Follows.observe {tracker : Tracker} (hfollows : Follows record tracker)
    (currentHeight : UInt64) (sig : String) (status : Option TransactionStatus) :
    Follows record (tracker.observe currentHeight sig status) := by
  unfold Tracker.observe
  split
  · exact hfollows
  · split
    · exact hfollows
    · exact hfollows.of_write (fun _ => rfl) rfl

theorem Follows.observeAll {tracker : Tracker} (hfollows : Follows record tracker)
    (currentHeight : UInt64) (sigs : List String) (statuses : List (Option TransactionStatus)) :
    Follows record (tracker.observeAll currentHeight sigs statuses) := by
  unfold Tracker.observeAll
  generalize sigs.zipIdx = positions
  induction positions generalizing tracker with
  | nil => exact hfollows
  | cons position later ih => exact ih (hfollows.observe currentHeight position.1 _)

theorem Follows.awaitRebroadcast {tracker : Tracker} (hfollows : Follows record tracker)
    {currentHeight : UInt64} {candidates : List (String × List UInt8)}
    (hkept : (tracker.awaitRebroadcast currentHeight candidates).getState record.signature ≠ none) :
    Follows record (tracker.awaitRebroadcast currentHeight candidates) := by
  cases candidates with
  | cons => exact hfollows
  | nil =>
      obtain ⟨current, hget, hheight⟩ := hfollows
      have hretain := Table.get_retain tracker.tracking
        (fun row => shouldContinueTracking row currentHeight) record.signature
      rw [hget, Option.filter_some] at hretain
      split at hretain
      · exact ⟨current, hretain, hheight⟩
      · exact absurd (congrArg (Option.map TrackingRecord.state) hretain) hkept

theorem Follows.awaitStatuses {tracker : Tracker} (hfollows : Follows record tracker)
    {rank : String → Nat} {currentHeight : UInt64} {batches : List (List String)}
    (hkept : (tracker.awaitStatuses policy rank currentHeight batches).getState
      record.signature ≠ none) :
    Follows record (tracker.awaitStatuses policy rank currentHeight batches) := by
  cases batches with
  | cons => exact hfollows
  | nil => exact hfollows.awaitRebroadcast hkept

/-- A record that stays tracked keeps its last valid height. -/
theorem Stretch.follows (hstretch : Stretch policy before input after)
    (hfollows : Follows record before) (hkept : after.getState record.signature ≠ none) :
    Follows record after := by
  cases hstretch with
  | ignores | ticks | skips | polls => exact hfollows
  | tracks call =>
      obtain ⟨current, hget, hheight⟩ := hfollows
      refine ⟨current, ?_, hheight⟩
      rw [get_track, if_neg, hget]
      rw [hget]
      exact fun h => absurd h.2 (by simp)
  | applies height sigs later answer rank =>
      cases answer with
      | none => exact hfollows.awaitStatuses hkept
      | some statuses => exact (hfollows.observeAll height sigs statuses).awaitStatuses hkept
  | records height sig txBytes later outcome =>
      have hrecorded : Follows record (before.recordRebroadcast sig height outcome) := by
        have hsame : ∀ row : TrackingRecord,
            ((rebroadcastWrite height outcome).set row).lastValidBlockHeight =
              row.lastValidBlockHeight := by
          intro row
          cases outcome <;> rfl
        exact hfollows.of_write hsame rfl
      exact hrecorded.awaitRebroadcast hkept

/-! ## Dropping and marking -/

/-- The height is past the buffer of the record, where that does not overflow. -/
def PastBuffer (record : TrackingRecord) (currentHeight : UInt64) : Prop :=
  record.lastValidBlockHeight.toNat + 32 < 2 ^ 64 →
    record.lastValidBlockHeight.toNat + 32 < currentHeight.toNat

theorem pastBuffer_of_expired {current : TrackingRecord} {currentHeight : UInt64}
    (hexpired : current.state = .expired)
    (hheight : current.lastValidBlockHeight = record.lastValidBlockHeight)
    (hdropped : shouldContinueTracking current currentHeight = false) :
    PastBuffer record currentHeight := by
  intro hfits
  rw [shouldContinueTracking, hexpired, hheight, decide_eq_false_iff_not, UInt64.le_iff_toNat_le,
    UInt64.toNat_add] at hdropped
  change ¬ currentHeight.toNat ≤ (record.lastValidBlockHeight.toNat + 32) % 2 ^ 64 at hdropped
  rw [Nat.mod_eq_of_lt hfits] at hdropped
  omega

theorem dropped_by_awaitRebroadcast {tracker : Tracker} {current : TrackingRecord}
    {currentHeight : UInt64} {candidates : List (String × List UInt8)}
    (hget : tracker.tracking.get signature = some current)
    (hgone : (tracker.awaitRebroadcast currentHeight candidates).getState signature = none) :
    shouldContinueTracking current currentHeight = false := by
  cases candidates with
  | cons =>
      rw [awaitRebroadcast, getState, hget] at hgone
      cases hgone
  | nil =>
      have hretain := Table.get_retain tracker.tracking
        (fun row => shouldContinueTracking row currentHeight) signature
      rw [hget, Option.filter_some] at hretain
      split at hretain
      · rw [awaitRebroadcast, cleanup, getState, hretain] at hgone
        cases hgone
      next hstop => exact Bool.not_eq_true _ ▸ hstop

theorem dropped_by_awaitStatuses {tracker : Tracker} {current : TrackingRecord}
    {rank : String → Nat} {currentHeight : UInt64} {batches : List (List String)}
    (hget : tracker.tracking.get signature = some current)
    (hgone : (tracker.awaitStatuses policy rank currentHeight batches).getState signature = none) :
    batches = [] ∧ shouldContinueTracking current currentHeight = false := by
  cases batches with
  | cons =>
      rw [awaitStatuses, getState, hget] at hgone
      cases hgone
  | nil => exact ⟨rfl, dropped_by_awaitRebroadcast hget hgone⟩

/-- An expired record that the stretch does not observe is dropped only by a
tick that is past its buffer and has nothing left to ask. -/
theorem Stretch.drops (hstretch : Stretch policy before input after) {current : TrackingRecord}
    (hget : before.tracking.get signature = some current) (hexpired : current.state = .expired)
    (hheight : current.lastValidBlockHeight = record.lastValidBlockHeight)
    (hasked : signature ∉ before.phase.asked) (hgone : after.getState signature = none) :
    ∃ currentHeight, before.phase.height = some currentHeight ∧ before.phase.unasked = [] ∧
      PastBuffer record currentHeight := by
  have htracked : before.getState signature ≠ none := by
    rw [getState, hget]
    simp
  cases hstretch with
  | ignores | ticks | skips | polls => exact absurd hgone htracked
  | tracks call =>
      rw [getState_track, if_neg fun h => htracked h.2] at hgone
      exact absurd hgone htracked
  | applies height sigs later answer rank hphase =>
      have hsame : (answer.elim before (before.observeAll height sigs)).tracking.get signature =
          some current := by
        rw [hphase] at hasked
        cases answer with
        | none => exact hget
        | some statuses => exact (observeAll_other hasked before height statuses).1.trans hget
      obtain ⟨rfl, hstop⟩ := dropped_by_awaitStatuses hsame hgone
      exact ⟨height, by rw [hphase]; rfl, by rw [hphase]; rfl,
        pastBuffer_of_expired hexpired hheight hstop⟩
  | records height sig txBytes later outcome hphase =>
      refine ⟨height, by rw [hphase]; rfl, by rw [hphase]; rfl, ?_⟩
      have hwrite : (before.recordRebroadcast sig height outcome).tracking.get signature =
          if signature = sig then
            (before.tracking.get sig).map (rebroadcastWrite height outcome).onRow
          else before.tracking.get signature := Table.get_update ..
      by_cases heq : signature = sig
      · subst heq
        rw [if_pos rfl, hget, Option.map_some] at hwrite
        have hstop := dropped_by_awaitRebroadcast hwrite hgone
        cases outcome with
        | ok => cases hstop
        | error => exact pastBuffer_of_expired hexpired hheight hstop
      · rw [if_neg heq, hget] at hwrite
        exact pastBuffer_of_expired hexpired hheight (dropped_by_awaitRebroadcast hwrite hgone)

/-- The stretch marks the signature's record expired, and sends the change. -/
def Expires (signature : String) (before after : Tracker) : Prop :=
  ∃ sent change, after.changesOf signature = before.changesOf signature ++ sent ∧
    change ∈ sent ∧ change.toState = .expired

theorem changes_awaitRebroadcast (tracker : Tracker) (currentHeight : UInt64)
    (candidates : List (String × List UInt8)) :
    (tracker.awaitRebroadcast currentHeight candidates).changes = tracker.changes := by
  cases candidates <;> rfl

theorem changes_awaitStatuses (policy : RetryPolicy) (tracker : Tracker) (rank : String → Nat)
    (currentHeight : UInt64) (batches : List (List String)) :
    (tracker.awaitStatuses policy rank currentHeight batches).changes = tracker.changes := by
  cases batches with
  | nil => exact changes_awaitRebroadcast tracker currentHeight _
  | cons => rfl

theorem not_expires_of_changes (hchanges : after.changesOf signature = before.changesOf signature) :
    ¬ Expires signature before after := by
  rintro ⟨sent, change, hsent, hmem, _⟩
  obtain rfl := List.append_right_eq_self.mp (hsent.symm.trans hchanges)
  cases hmem

/-- An observation that marks a record leaves it expired. -/
theorem observe_marks {tracker : Tracker} {currentHeight : UInt64}
    {status : Option TransactionStatus}
    (hmarks : Expires signature tracker (tracker.observe currentHeight signature status)) :
    ∃ record, tracker.tracking.get signature = some record ∧
      (tracker.observe currentHeight signature status).tracking.get signature =
        some ((advance .expired).set record) := by
  cases hget : tracker.tracking.get signature with
  | none =>
      refine absurd hmarks (not_expires_of_changes ?_)
      rw [observe, hget]
  | some record =>
      by_cases hsame : record.nextState currentHeight status = record.state
      · refine absurd hmarks (not_expires_of_changes ?_)
        rw [observe, hget]
        exact congrArg (changesOf · signature) (if_pos hsame)
      · obtain rfl : record.signature = signature := Table.key_of_get hget
        have hmove : tracker.observe currentHeight record.signature status =
            tracker.move record currentHeight (record.nextState currentHeight status) := by
          rw [observe, hget]
          exact if_neg hsame
        obtain ⟨sent, change, hsent, hmem, hexpired⟩ := hmarks
        rw [hmove, changesOf_move, if_pos rfl] at hsent
        obtain rfl := List.append_cancel_left hsent
        obtain rfl := List.mem_singleton.mp hmem
        have hnext : record.nextState currentHeight status = .expired := hexpired
        refine ⟨record, rfl, ?_⟩
        rw [hmove, hnext, move, Table.get_update_self, hget, Option.map_some,
          Update.onRow_of_guard _ rfl]

/-- A record is marked in the tick that asks for its status, and dropped in the
same stretch only past its buffer. -/
theorem Stretch.marks (hstretch : Stretch policy before input after)
    (hnodup : before.phase.queue.Nodup) (hmarks : Expires signature before after) :
    ∃ currentHeight, before.phase.height = some currentHeight ∧
      signature ∉ after.phase.queue ∧
      (after.phase = .waiting ∨ after.phase.height = some currentHeight) ∧
      ∃ record, before.tracking.get signature = some record ∧
        (after.getState signature = none → PastBuffer record currentHeight) := by
  cases hstretch with
  | tracks | ignores | ticks | skips | polls => exact absurd hmarks (not_expires_of_changes rfl)
  | records height sig txBytes later outcome =>
      refine absurd hmarks (not_expires_of_changes ?_)
      rw [changesOf, changes_awaitRebroadcast]
      rfl
  | applies height sigs later answer rank hphase =>
      have hchanges (tracker : Tracker) :
          (tracker.awaitStatuses policy rank height later).changesOf signature =
            tracker.changesOf signature := by
        rw [changesOf, changes_awaitStatuses, changesOf]
      rw [hphase] at hnodup
      cases answer with
      | none => exact absurd hmarks (not_expires_of_changes (hchanges before))
      | some statuses =>
          by_cases hasked : signature ∈ sigs
          · -- A batch asks for a signature once, so one observation of it made the mark.
            obtain ⟨middle, status, hget, hsame, hgetLater, hsameLater⟩ :=
              observeAll_once (List.nodup_append.mp hnodup).1 hasked before height statuses
            have hobserved : Expires signature middle (middle.observe height signature status) := by
              obtain ⟨sent, change, hsent, hmem, hexpired⟩ := hmarks
              refine ⟨sent, change, ?_, hmem, hexpired⟩
              rw [← hsameLater, hsame, ← hsent]
              exact (hchanges _).symm
            obtain ⟨record, hrecord, hmarked⟩ := observe_marks hobserved
            obtain ⟨hqueue, hnext⟩ := phase_awaitStatuses policy
              (before.observeAll height sigs statuses) rank height later
            refine ⟨height, by rw [hphase]; rfl, ?_, hnext, record, hget.symm.trans hrecord, ?_⟩
            · intro hmem
              have hunasked : signature ∈ later.flatten := hqueue ▸ hmem
              exact (List.nodup_append.mp hnodup).2.2 signature hasked signature hunasked rfl
            intro hgone
            obtain ⟨_, hstop⟩ := dropped_by_awaitStatuses (hgetLater.trans hmarked) hgone
            have hexpired : ((advance .expired).set record).state = .expired := rfl
            exact pastBuffer_of_expired hexpired rfl hstop
          · refine absurd hmarks (not_expires_of_changes ?_)
            exact (hchanges _).trans (observeAll_other hasked before height statuses).2

end Tracker

/-! ## Runs -/

open Tracker

section Runs

variable (policy : RetryPolicy) (signature : String) (past steps : List TrackerInput)

/-- Every step is taken in a tick that read this height. -/
abbrev InTick (currentHeight : UInt64) : Prop :=
  ((trackerMachine policy).resume past).Throughout
    (fun tracker _ => tracker.phase.height = some currentHeight) steps

/-- Every step finds the signature's record expired. -/
abbrev StaysExpired : Prop :=
  ((trackerMachine policy).resume past).Throughout
    (fun tracker _ => tracker.getState signature = some .expired) steps

/-- Some step ends in a request for the signature's status. -/
def Polled : Prop :=
  ∃ done step rest, steps = done ++ step :: rest ∧
    let before := (trackerMachine policy).after (past ++ done)
    let after := (trackerMachine policy).after (past ++ done ++ [step])
    before.phase ≠ after.phase ∧ signature ∈ after.phase.asked

/-- The last tick read this height while the signature's tier was not due. -/
def NotDue (currentHeight : UInt64) : Prop :=
  ∃ done rank rest, steps = done ++ .blockHeight (some currentHeight) rank :: rest ∧
    let before := (trackerMachine policy).after (past ++ done)
    before.phase = .fetchingHeight ∧ signature ∉ before.eligible rank currentHeight ∧
      InTick policy (past ++ done ++ [.blockHeight (some currentHeight) rank]) rest currentHeight

variable {policy signature past steps}

theorem Polled.append (hpolled : Polled policy signature past steps) (later : List TrackerInput) :
    Polled policy signature past (steps ++ later) := by
  obtain ⟨done, step, rest, rfl, hrequest⟩ := hpolled
  exact ⟨done, step, rest ++ later, by simp, hrequest⟩

theorem Polled.of_request {step : TrackerInput}
    (hmoved : ((trackerMachine policy).after (past ++ steps)).phase ≠
      ((trackerMachine policy).after (past ++ steps ++ [step])).phase)
    (hasked : signature ∈ ((trackerMachine policy).after (past ++ steps ++ [step])).phase.asked) :
    Polled policy signature past (steps ++ [step]) :=
  ⟨steps, step, [], rfl, hmoved, hasked⟩

theorem inTick_concat {currentHeight : UInt64} {step : TrackerInput} :
    InTick policy past (steps ++ [step]) currentHeight ↔
      InTick policy past steps currentHeight ∧
        ((trackerMachine policy).after (past ++ steps)).phase.height = some currentHeight := by
  rw [InTick, Machine.throughout_concat, Machine.after_resume]

theorem NotDue.concat {currentHeight : UInt64} {step : TrackerInput}
    (hnot : NotDue policy signature past steps currentHeight)
    (hheight : ((trackerMachine policy).after (past ++ steps)).phase.height = some currentHeight) :
    NotDue policy signature past (steps ++ [step]) currentHeight := by
  obtain ⟨done, rank, rest, rfl, hphase, hdue, htick⟩ := hnot
  refine ⟨done, rank, rest ++ [step], by simp, hphase, hdue, inTick_concat.mpr ⟨htick, ?_⟩⟩
  rwa [List.append_assoc, List.append_assoc, List.singleton_append]

/-- After some steps the signature was asked for, waits to be, or is in a tick
that will not ask: the one it started in, or one it is not due in. -/
inductive Situation (policy : RetryPolicy) (signature : String) (past steps : List TrackerInput)
    (now : TickPhase) : Prop
  | polled : Polled policy signature past steps → Situation policy signature past steps now
  | idle : now.height = none → Situation policy signature past steps now
  | awaited (currentHeight : UInt64) : now.height = some currentHeight → signature ∈ now.unasked →
      Situation policy signature past steps now
  | unqueued (currentHeight : UInt64) : now.height = some currentHeight → signature ∉ now.queue →
      InTick policy past steps currentHeight ∨ NotDue policy signature past steps currentHeight →
      Situation policy signature past steps now

theorem situation_step {step : TrackerInput}
    (hbefore : Situation policy signature past steps
      ((trackerMachine policy).after (past ++ steps)).phase) :
    Situation policy signature past (steps ++ [step])
      ((trackerMachine policy).after (past ++ steps ++ [step])).phase := by
  have hstretch : Stretch policy ((trackerMachine policy).after (past ++ steps)) step
      ((trackerMachine policy).step ((trackerMachine policy).after (past ++ steps)) step) :=
    step_stretch policy _ step
  have hrequest := @Polled.of_request policy signature past steps step
  rw [Machine.after_concat] at hrequest ⊢
  cases hbefore with
  | polled hpolled => exact .polled (hpolled.append [step])
  | idle hidle =>
      rcases hstretch.of_idle hidle with hstill | ⟨height, rank, rfl, hphase, hheight, hqueue⟩
      · exact .idle hstill
      · by_cases hdue : signature ∈ ((trackerMachine policy).after (past ++ steps)).eligible rank height
        · rw [← hqueue] at hdue
          rcases List.mem_append.mp hdue with hasked | hunasked
          · refine .polled (hrequest ?_ hasked)
            intro hsame
            rw [hsame] at hidle
            exact absurd (hidle.symm.trans hheight) (by simp)
          · exact .awaited height hheight hunasked
        · -- The tick that just fetched the height has left the signature out.
          refine .unqueued height hheight (hqueue ▸ hdue) (.inr ?_)
          exact ⟨steps, rank, [], rfl, hphase, hdue, Machine.throughout_nil _ _⟩
  | awaited height hheight hunasked =>
      rcases hstretch.of_ticking hheight with hsame | ⟨hmoved, hqueue, hnext⟩
      · rw [hsame]
        exact .awaited height hheight hunasked
      · rw [← hqueue] at hunasked
        rcases List.mem_append.mp hunasked with hasked | hunasked
        · exact .polled (hrequest hmoved hasked)
        · rcases hnext with hwaiting | hnext
          · exact .idle (congrArg TickPhase.height hwaiting)
          · exact .awaited height hnext hunasked
  | unqueued height hheight hnot htick =>
      have htick : InTick policy past (steps ++ [step]) height ∨
          NotDue policy signature past (steps ++ [step]) height :=
        htick.imp (fun h => inTick_concat.mpr ⟨h, hheight⟩) fun h => h.concat hheight
      rcases hstretch.of_ticking hheight with hsame | ⟨_, hqueue, hnext⟩
      · rw [hsame]
        exact .unqueued height hheight hnot htick
      · rcases hnext with hwaiting | hnext
        · exact .idle (congrArg TickPhase.height hwaiting)
        · refine .unqueued height hnext ?_ htick
          rw [hqueue]
          exact fun hunasked => hnot (List.mem_append_right _ hunasked)

theorem situation_after
    (hstart : Situation policy signature past [] ((trackerMachine policy).after past).phase)
    (steps : List TrackerInput) :
    Situation policy signature past steps ((trackerMachine policy).after (past ++ steps)).phase := by
  induction steps using List.reverseRecOn with
  | nil => rwa [List.append_nil]
  | append_singleton steps step ih =>
      rw [← List.append_assoc]
      exact situation_step ih

/-- In the tick that observed it, a signature does not come back. -/
theorem not_queued_of_inTick {currentHeight : UInt64}
    (hstart : signature ∉ ((trackerMachine policy).after past).phase.queue)
    (htick : InTick policy past steps currentHeight) :
    signature ∉ ((trackerMachine policy).after (past ++ steps)).phase.queue := by
  induction steps using List.reverseRecOn with
  | nil => rwa [List.append_nil]
  | append_singleton steps step ih =>
      obtain ⟨hbefore, hheight⟩ := inTick_concat.mp htick
      rw [← List.append_assoc, Machine.after_concat]
      rcases (step_stretch policy _ step).of_ticking hheight with hsame | ⟨_, hqueue, _⟩
      · exact hsame ▸ ih hbefore
      · intro hmem
        exact ih hbefore (List.mem_append_right _ (hqueue ▸ hmem))

/-- A record that stays expired keeps its last valid height. -/
theorem follows_after {record : TrackingRecord} {last : TrackerInput}
    (hstart : Follows record ((trackerMachine policy).after past))
    (hexpired : StaysExpired policy record.signature past (steps ++ [last])) :
    Follows record ((trackerMachine policy).after (past ++ steps)) := by
  induction steps using List.reverseRecOn generalizing last with
  | nil => rwa [List.append_nil]
  | append_singleton steps step ih =>
      obtain ⟨hbefore, hnow⟩ := (Machine.throughout_concat _).mp hexpired
      rw [Machine.after_resume, ← List.append_assoc, Machine.after_concat] at hnow
      rw [← List.append_assoc, Machine.after_concat]
      refine (step_stretch policy _ step).follows (ih hbefore) ?_
      have hstate : (Tracker.step policy ((trackerMachine policy).after (past ++ steps)) step).getState
          record.signature = some .expired := hnow
      rw [hstate]
      simp

/-- An expired record that the last stretch did not observe was dropped past its
buffer. -/
theorem dropped_past_buffer {record : TrackingRecord} {last : TrackerInput}
    (hstart : Follows record ((trackerMachine policy).after past))
    (hexpired : StaysExpired policy record.signature past (steps ++ [last]))
    (hgone : ((trackerMachine policy).after (past ++ (steps ++ [last]))).getState record.signature =
      none)
    (hasked : record.signature ∉ ((trackerMachine policy).after (past ++ steps)).phase.asked) :
    ∃ currentHeight,
      ((trackerMachine policy).after (past ++ steps)).phase.height = some currentHeight ∧
        ((trackerMachine policy).after (past ++ steps)).phase.unasked = [] ∧
        PastBuffer record currentHeight := by
  obtain ⟨current, hget, hheight⟩ := follows_after hstart hexpired
  have hstate := ((Machine.throughout_concat _).mp hexpired).2
  rw [Machine.after_resume, getState, hget, Option.map_some, Option.some.injEq] at hstate
  rw [← List.append_assoc, Machine.after_concat] at hgone
  exact (step_stretch policy _ last).drops hget hstate hheight hasked hgone

theorem inTick_cons {currentHeight : UInt64} {step : TrackerInput} :
    InTick policy past (step :: steps) currentHeight ↔
      ((trackerMachine policy).after past).phase.height = some currentHeight ∧
        InTick policy (past ++ [step]) steps currentHeight :=
  Machine.throughout_resume_cons _

/-- A record dropped by the tick that marked it. -/
theorem dropped_in_tick {record : TrackingRecord} {currentHeight : UInt64} {last : TrackerInput}
    (hstart : Follows record ((trackerMachine policy).after past))
    (hqueue : record.signature ∉ ((trackerMachine policy).after past).phase.queue)
    (hexpired : StaysExpired policy record.signature past (steps ++ [last]))
    (hgone : ((trackerMachine policy).after (past ++ (steps ++ [last]))).getState record.signature =
      none)
    (htick : InTick policy past (steps ++ [last]) currentHeight) :
    PastBuffer record currentHeight := by
  obtain ⟨hbefore, hnow⟩ := inTick_concat.mp htick
  have hnot := not_queued_of_inTick hqueue hbefore
  obtain ⟨height, hheight, _, hpast⟩ := dropped_past_buffer hstart hexpired hgone
    fun hasked => hnot (List.mem_append_left _ hasked)
  obtain rfl := Option.some.inj (hnow.symm.trans hheight)
  exact hpast

/-- A record dropped by a later tick. -/
theorem dropped_by_later_tick {record : TrackingRecord} {last : TrackerInput}
    (hstart : Follows record ((trackerMachine policy).after past))
    (hqueue : record.signature ∉ ((trackerMachine policy).after past).phase.queue)
    (hexpired : StaysExpired policy record.signature past (steps ++ [last]))
    (hgone : ((trackerMachine policy).after (past ++ (steps ++ [last]))).getState record.signature =
      none) :
    Polled policy record.signature past (steps ++ [last]) ∨
      ∃ currentHeight, InTick policy past (steps ++ [last]) currentHeight ∨
        (PastBuffer record currentHeight ∧
          NotDue policy record.signature past (steps ++ [last]) currentHeight) := by
  have hfirst : Situation policy record.signature past []
      ((trackerMachine policy).after past).phase := by
    cases hheight : ((trackerMachine policy).after past).phase.height with
    | none => exact .idle hheight
    | some height => exact .unqueued height hheight hqueue (.inl (Machine.throughout_nil _ _))
  have hdropped := dropped_past_buffer hstart hexpired hgone
  have hnodup := nodup_queue policy (past ++ steps)
  cases situation_after hfirst steps with
  | polled hpolled => exact .inl (hpolled.append [last])
  | idle hidle =>
      have hempty := (List.append_eq_nil_iff.mp (TickPhase.queue_of_height hidle)).1
      obtain ⟨height, hheight, _⟩ := hdropped (by simp [hempty])
      exact absurd (hidle.symm.trans hheight) (by simp)
  | awaited height _ hunasked =>
      obtain ⟨_, _, hnone, _⟩ := hdropped fun hasked =>
        (List.nodup_append.mp hnodup).2.2 _ hasked _ hunasked rfl
      rw [hnone] at hunasked
      cases hunasked
  | unqueued height hheight hnot htick =>
      obtain ⟨_, hsame, _, hpast⟩ := hdropped fun hasked => hnot (List.mem_append_left _ hasked)
      obtain rfl := Option.some.inj (hheight.symm.trans hsame)
      refine .inr ⟨height, ?_⟩
      exact htick.imp (fun h => inTick_concat.mpr ⟨h, hheight⟩) fun h => ⟨hpast, h.concat hheight⟩

/-- Wherever a run marks a record expired and drops it later, still expired: a
tick that does both has read a height past the record's buffer, and otherwise
the record's status was requested in between, unless the tick that dropped it
had read a height past the buffer at which the record's tier was not due. -/
theorem expired_polled_before_dropped {earlier later : List TrackerInput}
    {marking : TrackerInput}
    (hmarks : Expires signature ((trackerMachine policy).after earlier)
      ((trackerMachine policy).after (earlier ++ [marking])))
    (hexpired : StaysExpired policy signature (earlier ++ [marking]) later)
    (hgone : ((trackerMachine policy).after (earlier ++ [marking] ++ later)).getState signature =
      none) :
    ∃ record, ((trackerMachine policy).after earlier).tracking.get signature = some record ∧
      (∀ currentHeight, InTick policy earlier (marking :: later) currentHeight →
        PastBuffer record currentHeight) ∧
      ((∀ currentHeight, ¬ InTick policy earlier (marking :: later) currentHeight) →
        Polled policy signature (earlier ++ [marking]) later ∨
          ∃ currentHeight, PastBuffer record currentHeight ∧
            NotDue policy signature (earlier ++ [marking]) later currentHeight) := by
  have hstretch : Stretch policy ((trackerMachine policy).after earlier) marking
      ((trackerMachine policy).after (earlier ++ [marking])) := by
    rw [Machine.after_concat]
    exact step_stretch policy _ marking
  obtain ⟨height, hheight, hqueue, hnext, record, hget, hsudden⟩ :=
    hstretch.marks (nodup_queue policy earlier) hmarks
  obtain rfl : record.signature = signature := Table.key_of_get hget
  refine ⟨record, hget, ?_⟩
  rcases List.eq_nil_or_concat later with rfl | ⟨steps, last, rfl⟩
  · -- The stretch that marks the record drops it.
    rw [List.append_nil] at hgone
    have htick : InTick policy earlier [marking] height :=
      inTick_cons.mpr ⟨hheight, Machine.throughout_nil _ _⟩
    refine ⟨?_, fun hnone => absurd htick (hnone height)⟩
    intro currentHeight hsame
    obtain rfl := Option.some.inj (hheight.symm.trans (inTick_cons.mp hsame).1)
    exact hsudden hgone
  · rw [List.concat_eq_append] at hexpired hgone ⊢
    have hstart : Follows record ((trackerMachine policy).after (earlier ++ [marking])) := by
      apply hstretch.follows ⟨record, hget, rfl⟩
      have hfirst : ((trackerMachine policy).after (earlier ++ [marking])).getState
          record.signature = some .expired := by
        cases steps with
        | nil => exact hexpired [] last [] rfl
        | cons step steps => exact hexpired [] step (steps ++ [last]) rfl
      rw [hfirst]
      simp
    constructor
    · intro currentHeight htick
      exact dropped_in_tick hstart hqueue hexpired hgone (inTick_cons.mp htick).2
    · intro hnone
      rcases dropped_by_later_tick hstart hqueue hexpired hgone with hpolled | ⟨other, hsame | hdue⟩
      · exact .inl hpolled
      · -- The marking tick goes on, so it read the same height.
        have hafter : ((trackerMachine policy).after (earlier ++ [marking])).phase.height =
            some other := by
          cases steps with
          | nil => exact hsame [] last [] rfl
          | cons step steps => exact hsame [] step (steps ++ [last]) rfl
        rcases hnext with hwaiting | hnext
        · rw [hwaiting] at hafter
          cases hafter
        · obtain rfl := Option.some.inj (hnext.symm.trans hafter)
          exact absurd (inTick_cons.mpr ⟨hheight, hsame⟩) (hnone height)
      · exact .inr ⟨other, hdue⟩

end Runs

/-- A call that tracks a transaction without its bytes. -/
def trackedCall (signature : String) (submissionBlockHeight lastValidBlockHeight : UInt64) :
    TrackCall where
  signature
  transactionId := Bytes.filled 16 0
  requestId := Bytes.filled 16 0
  sessionId := "session"
  walletPubkey := "wallet"
  lastValidBlockHeight
  submissionBlockHeight
  signedTxBytes := none

/-- No node knows the one transaction asked for. -/
def unseen : TrackerInput := .signatureStatuses (some [none]) fun _ => 0

/-- A tick up to its first request. -/
def requestAt (currentHeight : UInt64) : List TrackerInput :=
  [.tick, .blockHeight (some currentHeight) fun _ => 0]

/-- A transaction is tracked, some ticks read no height, and one reads this height. -/
def requestAfter (call : TrackCall) (gap : Nat) (currentHeight : UInt64) : List TrackerInput :=
  .track call :: (List.replicate gap [.tick, .blockHeight none fun _ => 0]).flatten ++
    requestAt currentHeight

/-- A record marked at 110 and dropped at 140 was asked for in between. -/
theorem polled_before_dropped :
    ∃ record, ((trackerMachine .default).after
        (requestAfter (trackedCall "signature" 90 100) 0 110)).tracking.get "signature" =
          some record ∧
      (∀ currentHeight, InTick .default (requestAfter (trackedCall "signature" 90 100) 0 110)
          (unseen :: (requestAt 140 ++ [unseen])) currentHeight →
        PastBuffer record currentHeight) ∧
      ((∀ currentHeight, ¬ InTick .default
          (requestAfter (trackedCall "signature" 90 100) 0 110)
          (unseen :: (requestAt 140 ++ [unseen])) currentHeight) →
        Polled .default "signature"
            (requestAfter (trackedCall "signature" 90 100) 0 110 ++ [unseen])
            (requestAt 140 ++ [unseen]) ∨
          ∃ currentHeight, PastBuffer record currentHeight ∧
            NotDue .default "signature"
              (requestAfter (trackedCall "signature" 90 100) 0 110 ++ [unseen])
              (requestAt 140 ++ [unseen]) currentHeight) := by
  apply expired_polled_before_dropped
  · refine ⟨[(trackedCall "signature" 90 100).record.change .expired 110], _, by decide,
      List.mem_singleton_self _, rfl⟩
  · refine (Machine.throughout_resume_cons _).mpr ⟨by decide, ?_⟩
    refine (Machine.throughout_resume_cons _).mpr ⟨by decide, ?_⟩
    exact (Machine.throughout_resume_cons _).mpr ⟨by decide, Machine.throughout_nil _ _⟩
  · decide

/-- A tick after a gap marks the record and drops it in one stretch. -/
theorem dropped_when_marked :
    Expires "signature"
        ((trackerMachine .default).after (requestAfter (trackedCall "signature" 90 100) 1 140))
        ((trackerMachine .default).after
          (requestAfter (trackedCall "signature" 90 100) 1 140 ++ [unseen])) ∧
      ((trackerMachine .default).after
        (requestAfter (trackedCall "signature" 90 100) 1 140 ++ [unseen])).getState "signature" =
          none :=
  ⟨⟨[(trackedCall "signature" 90 100).record.change .expired 140], _, by decide,
    List.mem_singleton_self _, rfl⟩, by decide⟩

/-- What another caller tracks makes the next tick go on without the record. -/
def dropFirst : List TrackerInput :=
  .track (trackedCall "second" 140 300) :: requestAt 140 ++ [unseen]

/-- A tick may mark a record and drop it in one stretch; and a record marked at
110 may be dropped at 140 by a tick that asks for another signature only. -/
theorem dropped_unpolled :
    (Expires "signature"
        ((trackerMachine .default).after (requestAfter (trackedCall "signature" 90 100) 1 140))
        ((trackerMachine .default).after
          (requestAfter (trackedCall "signature" 90 100) 1 140 ++ [unseen])) ∧
      ((trackerMachine .default).after
        (requestAfter (trackedCall "signature" 90 100) 1 140 ++ [unseen])).getState "signature" =
          none) ∧
    Expires "first"
        ((trackerMachine .default).after (requestAfter (trackedCall "first" 0 100) 4 110))
        ((trackerMachine .default).after
          (requestAfter (trackedCall "first" 0 100) 4 110 ++ [unseen])) ∧
      ((trackerMachine .default).after
        (requestAfter (trackedCall "first" 0 100) 4 110 ++ [unseen])).getState "first" =
          some .expired ∧
      (∀ count ≤ dropFirst.length, "first" ∉ ((trackerMachine .default).after
        (requestAfter (trackedCall "first" 0 100) 4 110 ++ [unseen] ++
          dropFirst.take count)).phase.asked) ∧
      ((trackerMachine .default).after
        (requestAfter (trackedCall "first" 0 100) 4 110 ++ [unseen] ++ dropFirst)).getState
          "first" = none := by
  refine ⟨dropped_when_marked, ?_, by decide, by decide, by decide⟩
  exact ⟨[(trackedCall "first" 0 100).record.change .expired 110], _, by decide,
    List.mem_singleton_self _, rfl⟩

end SolFrontier.SolanaCore
