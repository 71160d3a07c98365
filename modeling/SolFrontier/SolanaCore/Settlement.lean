import SolFrontier.SolanaCore.ExpiryWindow

/-! # Settled transactions are reported

The worker polls the old records less often, and a record may change its tier
between two ticks. Every tier is due at a tick whose number is a multiple of
thirty, and the counter meets one in any thirty ticks, also where it wraps.
-/

namespace SolFrontier.SolanaCore

open Foundation

/-! ## Settled states -/

/-- Neither settled nor expired: such a record stays tracked at every height. -/
def TxState.isOpen : TxState → Bool
  | .submitted | .dropped | .confirmed _ => true
  | .finalized _ | .failed _ | .expired => false

/-- The status says for good how the transaction ended. -/
def TransactionStatus.Settles (status : TransactionStatus) (outcome : TxState) : Prop :=
  match status.err with
  | some err => outcome = .failed err
  | none => status.confirmationStatus = some .finalized ∧ outcome = .finalized status.slot

variable {status : TransactionStatus} {outcome : TxState}

theorem TransactionStatus.Settles.not_open (hsettles : status.Settles outcome) :
    outcome.isOpen = false := by
  unfold TransactionStatus.Settles at hsettles
  split at hsettles
  · rw [hsettles]
    rfl
  · rw [hsettles.2]
    rfl

/-- A settling status moves every open record, whatever its state and the heights. -/
theorem TransactionStatus.Settles.nextState (hsettles : status.Settles outcome)
    {record : TrackingRecord} (hopen : record.state.isOpen = true) (currentHeight : UInt64) :
    record.nextState currentHeight (some status) = outcome := by
  obtain ⟨slot, err, confirmationStatus⟩ := status
  unfold TransactionStatus.Settles at hsettles
  unfold TrackingRecord.nextState
  generalize record.state = state at hopen ⊢
  cases err with
  | some err =>
      obtain rfl : outcome = .failed err := hsettles
      cases state with
      | submitted | dropped | confirmed | expired => rfl
      | finalized | failed => exact absurd hopen (by simp [TxState.isOpen])
  | none =>
      obtain ⟨hfinalized, rfl⟩ := hsettles
      obtain rfl : confirmationStatus = some .finalized := hfinalized
      cases state with
      | submitted | dropped | confirmed | expired => rfl
      | finalized | failed => exact absurd hopen (by simp [TxState.isOpen])

theorem shouldContinueTracking_of_open {record : TrackingRecord}
    (hopen : record.state.isOpen = true) (currentHeight : UInt64) :
    shouldContinueTracking record currentHeight = true := by
  unfold shouldContinueTracking
  cases hstate : record.state with
  | submitted | dropped | confirmed => rfl
  | finalized | failed | expired =>
      rw [hstate] at hopen
      exact absurd hopen (by simp [TxState.isOpen])

/-! ## Ticks at which every tier is due -/

theorem PollTier.due_of_thirtieth (tier : PollTier) {counter : UInt64}
    (hthirtieth : counter % 30 = 0) : counter % (tier.skipTicks + 1) = 0 := by
  have hcounter : counter.toNat % 30 = 0 := by
    have hnat := congrArg UInt64.toNat hthirtieth
    rwa [UInt64.toNat_mod] at hnat
  apply UInt64.toNat_inj.mp
  rw [UInt64.toNat_mod]
  cases tier with
  | hot => exact Nat.mod_one _
  | warm =>
      change counter.toNat % 2 = 0
      omega
  | cool =>
      change counter.toNat % 5 = 0
      omega
  | expiryWatch =>
      change counter.toNat % 15 = 0
      omega

/-- Thirty ticks in a row meet such a tick, and a counter that wraps meets zero. -/
theorem exists_thirtieth (start : UInt64) :
    ∃ ticks, 1 ≤ ticks ∧ ticks ≤ 30 ∧ (start + UInt64.ofNat ticks) % 30 = 0 := by
  have hbound : start.toNat < 2 ^ 64 := start.toNat_lt
  have hsum (ticks : Nat) (hticks : ticks ≤ 30)
      (hthirtieth : (start.toNat + ticks) % 2 ^ 64 % 30 = 0) :
      (start + UInt64.ofNat ticks) % 30 = 0 := by
    have hfits : ticks < 2 ^ 64 := Nat.lt_of_le_of_lt hticks (by decide)
    apply UInt64.toNat_inj.mp
    rw [UInt64.toNat_mod, UInt64.toNat_add, UInt64.toNat_ofNat_of_lt' hfits]
    exact hthirtieth
  by_cases hwraps : start.toNat + 30 < 2 ^ 64
  · have hnext : (start.toNat + (30 - start.toNat % 30)) % 30 = 0 := by omega
    refine ⟨30 - start.toNat % 30, by omega, Nat.sub_le _ _, hsum _ (Nat.sub_le _ _) ?_⟩
    have hfits : start.toNat + (30 - start.toNat % 30) < 2 ^ 64 := by omega
    rwa [Nat.mod_eq_of_lt hfits]
  · refine ⟨2 ^ 64 - start.toNat, by omega, by omega, hsum _ (by omega) ?_⟩
    rw [Nat.add_sub_cancel' hbound.le, Nat.mod_self]

namespace Tracker

variable {policy : RetryPolicy} {tracker before after : Tracker} {input : TrackerInput}
  {signature : String}

/-- The signature is tracked, and its transaction still open. -/
def IsOpen (tracker : Tracker) (signature : String) : Prop :=
  ∃ state, tracker.getState signature = some state ∧ state.isOpen = true

theorem mem_eligible (hopen : tracker.IsOpen signature)
    (hthirtieth : tracker.tickCounter % 30 = 0) (rank : String → Nat) (currentHeight : UInt64) :
    signature ∈ tracker.eligible rank currentHeight := by
  obtain ⟨_, hstate, _⟩ := hopen
  obtain ⟨record, hget, _⟩ := Option.map_eq_some_iff.mp hstate
  refine List.mem_map.mpr ⟨record, List.mem_filter.mpr ⟨?_, ?_⟩, Table.key_of_get hget⟩
  · exact (List.perm_insertionSort _ _).mem_iff.mpr (Table.mem_of_get hget)
  · exact decide_eq_true (PollTier.due_of_thirtieth _ hthirtieth)

/-- A tick begins with this input. -/
def begins (tracker : Tracker) : TrackerInput → Bool
  | .tick => tracker.phase = .waiting
  | _ => false

/-- How many ticks begin along the inputs. -/
def ticksBegun (policy : RetryPolicy) (tracker : Tracker) : List TrackerInput → Nat
  | [] => 0
  | input :: later =>
      (if tracker.begins input then 1 else 0) + ticksBegun policy (tracker.step policy input) later

/-- The node answers what the worker asks: it reads a height, and its statuses
settle the transaction. -/
structure Answers (signature : String) (outcome : TxState) (tracker : Tracker)
    (input : TrackerInput) : Prop where
  height : tracker.phase = .fetchingHeight → ∀ rank, input ≠ .blockHeight none rank
  statuses : ∀ {currentHeight sigs later answer rank},
    tracker.phase = .fetchingStatuses currentHeight sigs later →
    input = .signatureStatuses answer rank → ∃ statuses, answer = some statuses ∧
      ∀ i : Nat, sigs[i]? = some signature →
        ∃ status, statuses[i]? = some (some status) ∧ status.Settles outcome

/-- The stretch sends the change that settles an open transaction. -/
def Reports (signature : String) (outcome : TxState) (before after : Tracker) : Prop :=
  ∃ change, before.getState signature = some change.fromState ∧ change.fromState.isOpen = true ∧
    change.toState = outcome ∧ after.changesOf signature = before.changesOf signature ++ [change] ∧
    (after.getState signature = some outcome ∨ after.getState signature = none)

/-! ## One stretch -/

/-- A batch observes its signature with the status at the signature's place. -/
theorem observeAll_at {sigs : List String} (hnodup : sigs.Nodup) {i : Nat}
    (hplace : sigs[i]? = some signature) (tracker : Tracker) (currentHeight : UInt64)
    (statuses : List (Option TransactionStatus)) :
    ∃ middle : Tracker,
      middle.tracking.get signature = tracker.tracking.get signature ∧
      middle.changesOf signature = tracker.changesOf signature ∧
      (tracker.observeAll currentHeight sigs statuses).tracking.get signature =
        (middle.observe currentHeight signature (statuses[i]?).join).tracking.get signature ∧
      (tracker.observeAll currentHeight sigs statuses).changesOf signature =
        (middle.observe currentHeight signature (statuses[i]?).join).changesOf signature := by
  have hfirst : sigs.zipIdx.map Prod.fst = sigs := List.zipIdx_map_fst ..
  have hmem : (signature, i) ∈ sigs.zipIdx := List.mk_mem_zipIdx_iff_getElem?.mpr hplace
  rw [← hfirst] at hnodup
  unfold observeAll
  generalize sigs.zipIdx = positions at hnodup hmem
  obtain ⟨earlier, later, rfl⟩ := List.append_of_mem hmem
  rw [List.map_append, List.map_cons, List.nodup_append, List.nodup_cons] at hnodup
  obtain ⟨_, ⟨hlater, _⟩, hdisjoint⟩ := hnodup
  have hearlier : signature ∉ earlier.map Prod.fst :=
    fun h => hdisjoint signature h signature (List.mem_cons_self ..) rfl
  obtain ⟨hget, hchanges⟩ := @observeEach_other _ currentHeight statuses _ hearlier tracker
  rw [List.foldl_append, List.foldl_cons]
  exact ⟨_, hget, hchanges, observeEach_other hlater _⟩

theorem reports_observe (hopen : tracker.IsOpen signature) (hsettles : status.Settles outcome)
    (currentHeight : UInt64) :
    Reports signature outcome tracker (tracker.observe currentHeight signature (some status)) ∧
      (tracker.observe currentHeight signature (some status)).getState signature =
        some outcome := by
  obtain ⟨_, hstate, hopen⟩ := hopen
  obtain ⟨record, hget, rfl⟩ := Option.map_eq_some_iff.mp hstate
  obtain rfl : record.signature = signature := Table.key_of_get hget
  have hnext := hsettles.nextState hopen currentHeight
  have hmoved : outcome ≠ record.state := by
    rintro rfl
    rw [hsettles.not_open] at hopen
    cases hopen
  have hmove : tracker.observe currentHeight record.signature (some status) =
      tracker.move record currentHeight outcome := by
    rw [observe, hget]
    dsimp only
    rw [hnext, if_neg hmoved]
  have hafter := getState_move hget currentHeight outcome record.signature
  have hchanges := changesOf_move tracker record currentHeight outcome record.signature
  rw [if_pos rfl] at hafter hchanges
  rw [hmove]
  exact ⟨⟨record.change outcome currentHeight, hstate, hopen, rfl, hchanges, .inl hafter⟩, hafter⟩

/-- What follows the observations of a stretch keeps the change they sent. -/
theorem Reports.awaitStatuses {middle : Tracker} (hreports : Reports signature outcome before middle)
    (rank : String → Nat) (currentHeight : UInt64) (batches : List (List String)) :
    Reports signature outcome before
      (middle.awaitStatuses policy rank currentHeight batches) := by
  obtain ⟨change, hfrom, hopen, hto, hchanges, hstate⟩ := hreports
  have hsame : (middle.awaitStatuses policy rank currentHeight batches).changesOf signature =
      middle.changesOf signature := by
    rw [changesOf, changes_awaitStatuses, changesOf]
  refine ⟨change, hfrom, hopen, hto, hsame.trans hchanges, ?_⟩
  cases quiet_awaitStatuses policy middle rank currentHeight batches signature with
  | kept hkept => rwa [hkept]
  | moved _ _ _ _ hmoved =>
      rw [hsame] at hmoved
      exact absurd hmoved (by simp)
  | removed _ hnone => exact .inr hnone

theorem IsOpen.of_getState (hopen : before.IsOpen signature)
    (hsame : after.getState signature = before.getState signature) : after.IsOpen signature := by
  obtain ⟨state, hstate, hopen⟩ := hopen
  exact ⟨state, hsame.trans hstate, hopen⟩

theorem IsOpen.cleanup (hopen : tracker.IsOpen signature) (currentHeight : UInt64) :
    (tracker.cleanup currentHeight).IsOpen signature := by
  obtain ⟨state, hstate, hopen⟩ := hopen
  obtain ⟨record, hget, rfl⟩ := Option.map_eq_some_iff.mp hstate
  refine ⟨record.state, ?_, hopen⟩
  rw [getState, Tracker.cleanup, Table.get_retain, hget, Option.filter_some,
    if_pos (shouldContinueTracking_of_open hopen currentHeight)]
  rfl

theorem IsOpen.awaitRebroadcast (hopen : tracker.IsOpen signature) (currentHeight : UInt64)
    (candidates : List (String × List UInt8)) :
    (tracker.awaitRebroadcast currentHeight candidates).IsOpen signature := by
  cases candidates with
  | nil => exact hopen.cleanup currentHeight
  | cons => exact hopen

theorem IsOpen.awaitStatuses (hopen : tracker.IsOpen signature) (rank : String → Nat)
    (currentHeight : UInt64) (batches : List (List String)) :
    (tracker.awaitStatuses policy rank currentHeight batches).IsOpen signature := by
  cases batches with
  | nil => exact hopen.awaitRebroadcast currentHeight _
  | cons => exact hopen

/-- Sending the transaction again leaves it open, whatever comes of it. -/
theorem IsOpen.recordRebroadcast (hopen : tracker.IsOpen signature) (sig : String)
    (currentHeight : UInt64) (outcome : Except String Unit) :
    (tracker.recordRebroadcast sig currentHeight outcome).IsOpen signature := by
  have hstate := getState_rebroadcast tracker sig currentHeight outcome signature
  split at hstate
  · exact ⟨.submitted, hstate, rfl⟩
  · exact hopen.of_getState hstate

theorem tickCounter_awaitRebroadcast (tracker : Tracker) (currentHeight : UInt64)
    (candidates : List (String × List UInt8)) :
    (tracker.awaitRebroadcast currentHeight candidates).tickCounter = tracker.tickCounter := by
  cases candidates <;> rfl

theorem tickCounter_awaitStatuses (tracker : Tracker) (rank : String → Nat)
    (currentHeight : UInt64) (batches : List (List String)) :
    (tracker.awaitStatuses policy rank currentHeight batches).tickCounter =
      tracker.tickCounter := by
  cases batches with
  | nil => exact tickCounter_awaitRebroadcast tracker currentHeight _
  | cons => rfl

theorem tickCounter_observe (tracker : Tracker) (currentHeight : UInt64) (sig : String)
    (status : Option TransactionStatus) :
    (tracker.observe currentHeight sig status).tickCounter = tracker.tickCounter := by
  unfold observe
  split
  · rfl
  · split <;> rfl

theorem tickCounter_observeAll (tracker : Tracker) (currentHeight : UInt64) (sigs : List String)
    (statuses : List (Option TransactionStatus)) :
    (tracker.observeAll currentHeight sigs statuses).tickCounter = tracker.tickCounter := by
  unfold observeAll
  generalize sigs.zipIdx = positions
  induction positions generalizing tracker with
  | nil => rfl
  | cons position later ih =>
      rw [List.foldl_cons, ih]
      exact tickCounter_observe ..

/-- A height that is read queues every signature that is due. -/
theorem queue_of_height_read (policy : RetryPolicy) (hphase : before.phase = .fetchingHeight)
    (currentHeight : UInt64) (rank : String → Nat) :
    let next := before.step policy (.blockHeight (some currentHeight) rank)
    next.phase.queue = before.eligible rank currentHeight ∧ next.tracking = before.tracking ∧
      next.tickCounter = before.tickCounter := by
  have hchunks := flatten_toChunks maxBatchSize (before.eligible rank currentHeight)
  simp only [step, hphase]
  split
  next hnone =>
    rw [hnone] at hchunks
    exact ⟨hchunks, rfl, rfl⟩
  next sigs later hsome =>
    rw [hsome] at hchunks
    exact ⟨hchunks, rfl, rfl⟩

/-- The transaction is open and unreported after this many ticks, of which none
that ended was one at which every tier is due. -/
structure Owes (signature : String) (start : UInt64) (ticks : Nat) (tracker : Tracker) :
    Prop where
  opened : tracker.IsOpen signature
  counter : tracker.tickCounter = start + UInt64.ofNat ticks
  skipped : ∀ earlier, 1 ≤ earlier → earlier < ticks → (start + UInt64.ofNat earlier) % 30 ≠ 0
  current : ticks = 0 ∨ tracker.tickCounter % 30 ≠ 0 ∨
    (tracker.phase = .fetchingHeight ∨ signature ∈ tracker.phase.queue)

variable {start : UInt64} {ticks : Nat}

/-- A stretch that begins no tick and loses nothing of the current one. -/
theorem Owes.within (howes : before.Owes signature start ticks) (hopen : after.IsOpen signature)
    (hcounter : after.tickCounter = before.tickCounter)
    (hqueue : before.tickCounter % 30 = 0 →
      before.phase = .fetchingHeight ∨ signature ∈ before.phase.queue →
      after.phase = .fetchingHeight ∨ signature ∈ after.phase.queue) :
    after.Owes signature start ticks where
  opened := hopen
  counter := hcounter.trans howes.counter
  skipped := howes.skipped
  current := by
    rw [hcounter]
    rcases howes.current with hnone | hskipped | hwaits
    · exact .inl hnone
    · exact .inr (.inl hskipped)
    · by_cases hthirtieth : before.tickCounter % 30 = 0
      · exact .inr (.inr (hqueue hthirtieth hwaits))
      · exact .inr (.inl hthirtieth)

/-- A new tick finds nothing asked, so the last one was not due for every tier. -/
theorem Owes.tick (howes : before.Owes signature start ticks) (hphase : before.phase = .waiting) :
    (before.step policy .tick).Owes signature start (ticks + 1) := by
  obtain ⟨state, hstate, hopen⟩ := howes.opened
  have htracked : before.tracking.rows.isEmpty = false := by
    obtain ⟨record, hget, _⟩ := Option.map_eq_some_iff.mp hstate
    rw [List.isEmpty_eq_false_iff_exists_mem]
    exact ⟨record, Table.mem_of_get hget⟩
  have hstep : before.step policy .tick =
      { before with tickCounter := before.tickCounter + 1, phase := .fetchingHeight } := by
    simp [step, hphase, htracked]
  rw [hstep]
  refine ⟨⟨state, hstate, hopen⟩, ?_, ?_, .inr (.inr (.inl rfl))⟩
  · show before.tickCounter + 1 = _
    rw [howes.counter, UInt64.ofNat_add, UInt64.add_assoc]
    rfl
  · intro earlier hfirst hearlier
    rcases Nat.lt_succ_iff_lt_or_eq.mp hearlier with hbefore | rfl
    · exact howes.skipped earlier hfirst hbefore
    · rw [← howes.counter]
      rcases howes.current with hnone | hskipped | hfetching | hqueued
      · omega
      · exact hskipped
      · rw [hphase] at hfetching
        cases hfetching
      · rw [hphase] at hqueued
        cases hqueued

theorem Owes.blockHeight (howes : before.Owes signature start ticks) {answer : Option UInt64}
    {rank : String → Nat} (hanswers : Answers signature outcome before (.blockHeight answer rank)) :
    (before.step policy (.blockHeight answer rank)).Owes signature start ticks := by
  by_cases hphase : before.phase = .fetchingHeight
  · cases answer with
    | none => exact absurd rfl (hanswers.height hphase rank)
    | some currentHeight =>
        obtain ⟨hqueue, htracking, hcounter⟩ :=
          queue_of_height_read policy hphase currentHeight rank
        refine howes.within (howes.opened.of_getState ?_) hcounter ?_
        · rw [getState, htracking, getState]
        · intro hthirtieth _
          rw [hqueue]
          exact .inr (mem_eligible howes.opened hthirtieth rank currentHeight)
  · have hstretch := step_stretch policy before (.blockHeight answer rank)
    generalize before.step policy (.blockHeight answer rank) = after at hstretch ⊢
    cases hstretch with
    | ignores => exact howes
    | skips _ _ hfetching | polls _ _ _ _ hfetching => exact absurd hfetching hphase

/-- A batch of statuses reports the transaction, or asked for others only. -/
theorem Owes.signatureStatuses (howes : before.Owes signature start ticks)
    (hnodup : before.phase.queue.Nodup) {answer : Option (List (Option TransactionStatus))}
    {rank : String → Nat}
    (hanswers : Answers signature outcome before (.signatureStatuses answer rank)) :
    Reports signature outcome before (before.step policy (.signatureStatuses answer rank)) ∨
      (before.step policy (.signatureStatuses answer rank)).Owes signature start ticks := by
  have hstretch := step_stretch policy before (.signatureStatuses answer rank)
  generalize before.step policy (.signatureStatuses answer rank) = after at hstretch ⊢
  cases hstretch with
  | ignores => exact .inr howes
  | applies currentHeight sigs later _ _ hphase =>
      obtain ⟨statuses, rfl, hsettles⟩ := hanswers.statuses hphase rfl
      rw [hphase] at hnodup
      have honce : sigs.Nodup := (List.nodup_append.mp hnodup).1
      rw [Option.elim_some]
      by_cases hasked : signature ∈ sigs
      · left
        obtain ⟨i, hplace⟩ := List.mem_iff_getElem?.mp hasked
        obtain ⟨status, hstatus, hsettles⟩ := hsettles i hplace
        obtain ⟨middle, hget, hchanges, hgetAfter, hchangesAfter⟩ :=
          observeAll_at honce hplace before currentHeight statuses
        rw [hstatus, Option.join_some] at hgetAfter hchangesAfter
        have hsame : middle.getState signature = before.getState signature := by
          rw [getState, hget, getState]
        obtain ⟨⟨change, hfrom, hopen, hto, hsent, _⟩, hstate⟩ :=
          reports_observe (howes.opened.of_getState hsame) hsettles currentHeight
        have hobserved : Reports signature outcome before
            (before.observeAll currentHeight sigs statuses) := by
          refine ⟨change, hsame.symm.trans hfrom, hopen, hto, ?_, .inl ?_⟩
          · rw [hchangesAfter, hsent, hchanges]
          · rw [getState, hgetAfter]
            exact hstate
        exact hobserved.awaitStatuses rank currentHeight later
      · right
        have hopen : (before.observeAll currentHeight sigs statuses).IsOpen signature := by
          apply howes.opened.of_getState
          rw [getState, (observeAll_other hasked before currentHeight statuses).1, getState]
        refine howes.within (hopen.awaitStatuses rank currentHeight later) ?_ ?_
        · rw [tickCounter_awaitStatuses, tickCounter_observeAll]
        · intro _ hwaits
          rw [hphase] at hwaits
          rw [(phase_awaitStatuses policy _ rank currentHeight later).1]
          rcases hwaits with hfetching | hqueued
          · cases hfetching
          · exact .inr ((List.mem_append.mp hqueued).resolve_left hasked)

theorem Owes.rebroadcast (howes : before.Owes signature start ticks)
    (outcome : Except String Unit) :
    (before.step policy (.rebroadcast outcome)).Owes signature start ticks := by
  have hstretch := step_stretch policy before (.rebroadcast outcome)
  generalize before.step policy (.rebroadcast outcome) = after at hstretch ⊢
  cases hstretch with
  | ignores => exact howes
  | records currentHeight sig txBytes later _ hphase =>
      have hopen := howes.opened.recordRebroadcast sig currentHeight outcome
      refine howes.within (hopen.awaitRebroadcast currentHeight later) ?_ ?_
      · rw [tickCounter_awaitRebroadcast]
        rfl
      · intro _ hwaits
        rw [hphase] at hwaits
        rcases hwaits with hfetching | hqueued
        · cases hfetching
        · cases hqueued

theorem Owes.step (policy : RetryPolicy) (howes : before.Owes signature start ticks)
    (hnodup : before.phase.queue.Nodup) (hanswers : Answers signature outcome before input) :
    Reports signature outcome before (before.step policy input) ∨
      (before.step policy input).Owes signature start
        (ticks + if before.begins input then 1 else 0) := by
  cases input with
  | track call =>
      refine .inr (howes.within (howes.opened.of_getState ?_) rfl fun _ => id)
      obtain ⟨state, hstate, _⟩ := howes.opened
      rw [Tracker.step, getState_track, if_neg]
      simp [hstate]
  | tick =>
      by_cases hphase : before.phase = .waiting
      · rw [begins, decide_eq_true hphase, if_pos rfl]
        exact .inr (howes.tick hphase)
      · have hsame : before.step policy .tick = before := by
          unfold Tracker.step
          dsimp only
          split
          · contradiction
          · rfl
        rw [begins, decide_eq_false hphase, hsame]
        exact .inr howes
  | blockHeight => exact .inr (howes.blockHeight hanswers)
  | signatureStatuses => exact howes.signatureStatuses hnodup hanswers
  | rebroadcast outcome => exact .inr (howes.rebroadcast outcome)

end Tracker

/-! ## Runs -/

open Tracker

variable {policy : RetryPolicy} {signature : String} {past later : List TrackerInput}

/-- Some stretch of the steps settles the signature. -/
def Settled (policy : RetryPolicy) (signature : String) (outcome : TxState)
    (past steps : List TrackerInput) : Prop :=
  ∃ done step rest, steps = done ++ step :: rest ∧
    Reports signature outcome ((trackerMachine policy).after (past ++ done))
      ((trackerMachine policy).after (past ++ done ++ [step]))

theorem settled_or_owes {start : UInt64} {ticks : Nat}
    (howes : ((trackerMachine policy).after past).Owes signature start ticks)
    (hanswers : ((trackerMachine policy).resume past).Throughout (Answers signature outcome) later) :
    Settled policy signature outcome past later ∨
      ((trackerMachine policy).after (past ++ later)).Owes signature start
        (ticks + ticksBegun policy ((trackerMachine policy).after past) later) := by
  induction later generalizing past ticks with
  | nil => exact .inr (by simpa [ticksBegun] using howes)
  | cons input later ih =>
      obtain ⟨hfirst, hrest⟩ := (Machine.throughout_resume_cons _).mp hanswers
      have hafter : (trackerMachine policy).after (past ++ [input]) =
          ((trackerMachine policy).after past).step policy input := Machine.after_concat ..
      have hnext : past ++ input :: later = past ++ [input] ++ later := by simp
      rcases howes.step policy (nodup_queue policy past) hfirst with hreports | howes
      · rw [← hafter] at hreports
        exact .inl ⟨[], input, later, rfl, by simpa using hreports⟩
      · rw [← hafter] at howes
        rcases ih howes hrest with ⟨done, step, rest, rfl, hreports⟩ | howes
        · exact .inl ⟨input :: done, step, rest, rfl, by simpa using hreports⟩
        · right
          rw [hnext, ticksBegun, ← hafter, ← Nat.add_assoc]
          exact howes

/-- Wherever a run has come to: while the node answers, and its statuses say how
an open transaction ended, the change that settles it is sent before thirty-one
ticks have begun, whatever tiers the record goes through. -/
theorem settled_reported (policy : RetryPolicy) (signature : String) (outcome : TxState)
    (past later : List TrackerInput)
    (hopen : ((trackerMachine policy).after past).IsOpen signature)
    (hanswers : ((trackerMachine policy).resume past).Throughout (Answers signature outcome) later)
    (hticks : 31 ≤ ticksBegun policy ((trackerMachine policy).after past) later) :
    Settled policy signature outcome past later := by
  have hstart : ((trackerMachine policy).after past).Owes signature
      ((trackerMachine policy).after past).tickCounter 0 := by
    refine ⟨hopen, (UInt64.add_zero _).symm, ?_, .inl rfl⟩
    intro earlier _ hnone
    exact absurd hnone (Nat.not_lt_zero _)
  refine (settled_or_owes hstart hanswers).resolve_right ?_
  intro howes
  obtain ⟨thirtieth, hfirst, hlast, hdue⟩ :=
    exists_thirtieth ((trackerMachine policy).after past).tickCounter
  exact howes.skipped thirtieth hfirst (by omega) hdue

/-- A transaction seen finalized at slot 7 in the fifteenth tick, the first one
with anything to ask. -/
theorem settled_reported_late :
    Settled .default "signature" (.finalized 7)
      (List.replicate 14 .tick ++ [.track (trackedCall "signature" 0 1000)])
      (requestAt 400 ++
        .signatureStatuses (some [some ⟨7, none, some .finalized⟩]) (fun _ => 0) ::
          List.replicate 30 .tick) := by
  have hidle (tracker : Tracker) : Answers "signature" (.finalized 7) tracker .tick :=
    ⟨fun _ _ => by simp, fun _ h => by cases h⟩
  apply settled_reported
  · exact ⟨.submitted, by decide, rfl⟩
  · refine (Machine.throughout_resume_cons _).mpr ⟨hidle _, ?_⟩
    refine (Machine.throughout_resume_cons _).mpr ⟨?_, ?_⟩
    · exact ⟨fun _ _ => by simp, fun _ h => by cases h⟩
    refine (Machine.throughout_resume_cons _).mpr ⟨⟨fun _ _ => by simp, ?_⟩, ?_⟩
    · intro currentHeight sigs later answer rank hphase hinput
      have hasked : sigs = ["signature"] := by
        have hrequest := congrArg TickPhase.asked hphase
        exact hrequest.symm.trans (by decide)
      obtain ⟨rfl, _⟩ := TrackerInput.signatureStatuses.inj hinput
      refine ⟨_, rfl, ?_⟩
      intro i hplace
      rw [hasked, List.getElem?_singleton] at hplace
      obtain rfl : i = 0 := by
        by_contra hne
        rw [if_neg hne] at hplace
        cases hplace
      exact ⟨_, rfl, rfl, rfl⟩
    · intro earlier input rest heq
      have hmem : input ∈ List.replicate 30 TrackerInput.tick := by
        rw [heq]
        simp
      rw [(List.mem_replicate.mp hmem).2]
      exact hidle _
  · decide

end SolFrontier.SolanaCore
