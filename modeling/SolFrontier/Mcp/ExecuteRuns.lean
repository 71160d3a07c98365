import SolFrontier.Mcp.ExecuteProcess
import SolFrontier.Mcp.FinalizedEvidence

/-! # Processes pay what was ordered

Any number of processes run their cycles over one store, next to other users of
it, and each of them may crash at any point. At most one transaction is ever
sent for an intent, and what is sent is the deposit of the intent's own row.
-/

namespace SolFrontier.Mcp

open Foundation Types SolanaCore StateStore Executor Protocols Program

variable {platform : ExecutePlatform} {world after : ExecuteWorld}

/-! ## At most one send -/

/-- A worker keeps its lease discipline; with the inspection of the next row a
process starts over, as if the last worker had crashed. -/
def processLeases : Discipline executeFace LeasePhase where
  allows phase op :=
    match op with
    | .worker op => leaseDiscipline.allows phase op
    | _ => True
  next phase op answer :=
    match op, answer with
    | .worker op, answer => leaseDiscipline.next phase op answer
    | .inspect _, _ => .idle
    | _, _ => phase

/-- The counted sends are those that were recorded. -/
def SendsCounted (world : ExecuteWorld) : Prop :=
  ∀ id, world.store.sends id = world.sent.countP fun sent => sent.1 = id

theorem leaseHeld_idle (world : World) : LeaseHeld .idle world := by
  intro id hid
  cases hid

theorem leasesApart_idle (phase : LeasePhase) : LeasesApart .idle phase := by
  intro id hid
  cases hid

theorem countP_sent (op : McpOp) (id : String) :
    (op.sent.countP fun sent => sent.1 = id) = if op.bearing = .send id then 1 else 0 := by
  cases op with
  | sendTransaction other tx =>
      by_cases heq : other = id <;> simp [McpOp.sent, McpOp.bearing, heq]
  | funding op => cases op <;> rfl
  | _ => rfl

theorem sendsCounted_worker {op : McpOp} {answer : op.Answer}
    (hstep : mcpStep platform.store world.store ⟨op, answer⟩ after.store)
    (hsent : after.sent = world.sent ++ op.sent) (hcounted : SendsCounted world) :
    SendsCounted after := by
  intro id
  rw [hsent, List.countP_append, countP_sent, ← hcounted id]
  by_cases hsend : ∃ other, op.bearing = .send other
  · obtain ⟨other, hother⟩ := hsend
    rw [sends_send hstep hother, hother]
    by_cases heq : other = id
    · simp [heq]
    · rw [Function.update_of_ne (Ne.symm heq), if_neg (by simpa using heq), Nat.add_zero]
  · push Not at hsend
    rw [sends_step hstep hsend, if_neg (hsend id), Nat.add_zero]

def processInvariant (platform : ExecutePlatform) :
    PoolInvariant (executeStep platform) processLeases where
  inv world := BroadcastsBounded world.store ∧ SendsCounted world
  holds phase world := LeaseHeld phase world.store
  compat := LeasesApart
  compat_symm happart id hright hleft := happart id hleft hright
  step := by
    rintro world phase op answer after ⟨hinv, hcounted⟩ hheld hallows hstep
    cases op with
    | worker op =>
        obtain ⟨hstore, hsent, _⟩ := hstep
        exact ⟨⟨broadcastsBounded_step hinv hheld hallows hstore,
          sendsCounted_worker hstore hsent hcounted⟩, leaseHeld_step hinv hheld hallows hstore⟩
    | inspect funding =>
        obtain ⟨rfl, _⟩ := hstep
        exact ⟨⟨hinv, hcounted⟩, leaseHeld_idle _⟩
    | scan | emitCycle | emitAttempt =>
        obtain rfl : after = world := hstep
        exact ⟨⟨hinv, hcounted⟩, hheld⟩
  frame := by
    rintro world phase other op answer after ⟨hinv, _⟩ _ hother hapart hallows hstep
    cases op with
    | worker op =>
        obtain ⟨hstore, _, _⟩ := hstep
        exact ⟨leaseHeld_frame hother hapart hallows hstore,
          leasesApart_step hother hapart hstore⟩
    | inspect funding =>
        obtain ⟨rfl, _⟩ := hstep
        exact ⟨hother, leasesApart_idle other⟩
    | scan | emitCycle | emitAttempt =>
        obtain rfl : after = world := hstep
        exact ⟨hother, hapart⟩

/-- A worker starts from an inspection, so without a lease. -/
theorem executeFromFinalRevalidation_follows (inspection : CandidateInspection)
    (intentId : String) :
    (executeFromFinalRevalidation platform.store inspection intentId).Follows processLeases
      (fun _ _ => True) .idle := by
  unfold executeFromFinalRevalidation
  split
  next => trivial
  next candidate _ =>
    rw [follows_bind, follows_via]
    exact (executeRevalidatedCandidate_follows candidate).mono fun _ _ _ => trivial

/-- A process keeps its lease discipline through all its cycles. -/
theorem maintains_leases : Maintains platform.store processLeases fun _ => True where
  attempt intentId phase _ := by
    refine ⟨trivial, fun answer => ?_⟩
    rcases answer with error | none | funding
    · trivial
    · trivial
    · exact ⟨trivial, fun inspection =>
        executeFromFinalRevalidation_follows inspection intentId⟩
  report op phase hreport _ := by
    cases op with
    | worker | inspect => cases hreport
    | scan | emitCycle | emitAttempt => exact ⟨trivial, fun _ => trivial⟩

theorem ExecuteEntry.follows {program : Program executeFace Unit}
    (hentry : ExecuteEntry platform program) :
    program.Follows processLeases (fun _ _ => True) .idle := by
  cases hentry with
  | process cycles => exact maintains_leases.process cycles trivial
  | funding op hneutral =>
      refine ⟨?_, fun _ => trivial⟩
      simp only [processLeases, leaseDiscipline, hneutral]
  | rules op => exact ⟨trivial, fun _ => trivial⟩

/-! ## Where a send comes from -/

/-- The process read the row of the candidate's intent, inspected it, and took
the candidate out of the inspection. -/
def Revalidated (log : List (Event executeFace)) (candidate : RevalidatedExecutionCandidate) :
    Prop :=
  ∃ funding inspection,
    (⟨.worker (.funding (.get candidate.intentId)), .ok (some funding)⟩ : Event executeFace) ∈ log ∧
    (⟨.inspect funding, inspection⟩ : Event executeFace) ∈ log ∧
    revalidatedCandidate inspection candidate.intentId = .ok candidate

theorem Revalidated.mono {log more : List (Event executeFace)} (hsubset : log ⊆ more)
    {candidate : RevalidatedExecutionCandidate} (hcandidate : Revalidated log candidate) :
    Revalidated more candidate := by
  obtain ⟨funding, inspection, hread, hinspected, htaken⟩ := hcandidate
  exact ⟨funding, inspection, hsubset hread, hsubset hinspected, htaken⟩

/-- The process had the transaction reviewed for a candidate of the intent. -/
def ReviewedFor (log : List (Event executeFace)) (sent : String × Transaction) : Prop :=
  ∃ candidate payload, candidate.intentId = sent.1 ∧ Revalidated log candidate ∧
    (⟨.worker (.reviewAndSign candidate), .ok payload⟩ : Event executeFace) ∈ log ∧
    Transaction.deserialize payload.signedTransactionBytes = some sent.2

/-- Nothing is sent that was not reviewed before. -/
def sendsReviewed (log : List (Event executeFace)) : ExecuteOp → Prop
  | .worker op => ∀ sent ∈ op.sent, ReviewedFor log sent
  | _ => True

/-- The discipline of a worker's own calls. -/
abbrev reviewedSends : Discipline mcpFace (List (Event executeFace)) :=
  (Discipline.recall sendsReviewed).along workerPort

/-- The call gives nothing to the network. -/
def McpOp.Silent (op : McpOp) : Prop := op.sent = []

theorem sendsReviewed_silent {log : List (Event executeFace)} {op : McpOp} (hsilent : op.Silent) :
    sendsReviewed log (.worker op) := by
  intro sent hsent
  rw [show op.sent = [] from hsilent] at hsent
  cases hsent

theorem follows_silent {α : Type} {program : Program mcpFace α}
    (honly : program.Only McpOp.Silent) (log : List (Event executeFace)) :
    program.Follows reviewedSends (fun _ _ => True) log :=
  honly.follows (fun _ _ _ hsilent => sendsReviewed_silent hsilent) (fun _ _ _ _ _ => trivial)
    trivial

/-- A submission sends at most what its bytes say, for its intent. -/
def SendsBytes (intentId : String) (bytes : List UInt8) (op : McpOp) : Prop :=
  op.Silent ∨ ∃ tx, Transaction.deserialize bytes = some tx ∧ op.sent = [(intentId, tx)]

theorem sent_of_poll {op : McpOp} (hpoll : isSubmission op = false) : op.Silent := by
  cases op with
  | sendTransaction => cases hpoll
  | _ => rfl

theorem pollFinalized_sendsBytes (intentId : String) (bytes : List UInt8) (signature : Signature) :
    (pollFinalized signature).Only (SendsBytes intentId bytes) :=
  (pollFinalized_only signature).mono fun _ hpoll => .inl (sent_of_poll hpoll)

theorem submitTransaction_sendsBytes (intentId : String) (bytes : List UInt8) (height : UInt64) :
    (submitTransaction platform.store intentId bytes height).Only (SendsBytes intentId bytes) := by
  unfold submitTransaction
  cases hread : platform.store.deserializeTransaction bytes with
  | none => trivial
  | some tx =>
      apply request_only (.inr ⟨tx, hread, rfl⟩)
      intro sent
      cases sent with
      | error => trivial
      | ok signature =>
          apply request_only (.inl rfl)
          intro height
          cases height <;> trivial

theorem submitOnceAndObserve_sendsBytes (intentId : String) (payload : ReviewedSignedPayload) :
    (submitOnceAndObserve platform.store intentId payload).Only
      (SendsBytes intentId payload.signedTransactionBytes) := by
  apply request_only (.inl rfl)
  intro client
  cases client with
  | error => trivial
  | ok =>
      apply (submitTransaction_sendsBytes ..).bind
      intro submitted
      rcases submitted with (_ | _ | _) | submitted
      · trivial
      · exact pollFinalized_sendsBytes ..
      · trivial
      · dsimp only
        split
        · trivial
        · exact pollFinalized_sendsBytes ..

/-- A call that records how an attempt ended. -/
def McpOp.isRecording : McpOp → Bool
  | .funding (.releaseExecutionLeaseToBudgetReserved ..) | .funding (.markFailed ..)
  | .funding (.markCompletedIfExecuting ..) | .rules (.markCompleted ..) => true
  | _ => false

theorem reportRelease_records (candidate : RevalidatedExecutionCandidate)
    (successStatus originalError : String) (abortRemainingCycle : Bool) :
    (reportRelease candidate successStatus originalError abortRemainingCycle).Only
      fun op : McpOp => op.isRecording = true := by
  unfold reportRelease ExecutionState.releasePrebroadcastFailure
  apply Only.bind
  · apply request_only (by rfl)
    intro answer
    split <;> trivial
  · intro release
    trivial

theorem recordOutcome_records (candidate : RevalidatedExecutionCandidate)
    (outcome : NetworkOutcome) :
    (recordOutcome candidate outcome).Only fun op : McpOp => op.isRecording = true := by
  cases outcome with
  | preBroadcastFailure => exact reportRelease_records ..
  | unknown => trivial
  | onChainFailed =>
      unfold recordOutcome ExecutionState.markOnchainFailed
      apply Only.bind
      · apply request_only (by rfl)
        intro answer
        split <;> trivial
      · intro write
        trivial
  | finalized =>
      unfold recordOutcome ExecutionState.markFinalized
      apply Only.bind
      · apply request_only (by rfl)
        intro answer
        split
        · apply request_only (by rfl)
          intro second
          split <;> trivial
        · trivial
        · trivial
      · intro write
        trivial

theorem silent_of_recording {op : McpOp} (hrecording : op.isRecording = true) : op.Silent := by
  cases op with
  | sendTransaction => cases hrecording
  | _ => rfl

/-- A worker sends what was reviewed for its own candidate. -/
theorem executeLeased_reviewed {candidate : RevalidatedExecutionCandidate}
    {log : List (Event executeFace)} (hcandidate : Revalidated log candidate) :
    (executeLeased platform.store candidate).Follows reviewedSends (fun _ _ => True) log := by
  rw [executeLeased, request_bind, follows_call]
  refine ⟨sendsReviewed_silent rfl, fun answer => ?_⟩
  cases answer with
  | error => exact follows_silent ((reportRelease_records ..).mono fun _ => silent_of_recording) _
  | ok payload =>
      dsimp only
      rw [follows_bind]
      let reviewed : List (Event executeFace) :=
        log ++ [⟨.worker (.reviewAndSign candidate), .ok payload⟩]
      have hallows : ∀ more op, reviewed ⊆ more →
          SendsBytes candidate.intentId payload.signedTransactionBytes op →
          reviewedSends.allows more op := by
        intro more op hmore hkind sent hsent
        rcases hkind with hsilent | ⟨tx, hread, hsends⟩
        · exact sendsReviewed_silent hsilent sent hsent
        · rw [hsends, List.mem_singleton] at hsent
          subst hsent
          exact ⟨candidate, payload, rfl,
            hcandidate.mono (List.Subset.trans (List.subset_append_left ..) hmore),
            hmore (List.mem_append_right _ (List.mem_singleton_self _)), hread⟩
      have hkeeps : ∀ more op answer, reviewed ⊆ more →
          SendsBytes candidate.intentId payload.signedTransactionBytes op →
          reviewed ⊆ reviewedSends.next more op answer :=
        fun more op answer hmore _ => List.Subset.trans hmore (List.subset_append_left ..)
      have honly : (submitOnceAndObserve platform.store candidate.intentId payload).Only
          (SendsBytes candidate.intentId payload.signedTransactionBytes) :=
        submitOnceAndObserve_sendsBytes ..
      have hsends := honly.follows hallows hkeeps (List.Subset.refl _)
      exact hsends.mono fun last outcome _ => 
        follows_silent ((recordOutcome_records ..).mono fun _ => silent_of_recording) last

theorem executeRevalidatedCandidate_reviewed {candidate : RevalidatedExecutionCandidate}
    {log : List (Event executeFace)} (hcandidate : Revalidated log candidate) :
    (executeRevalidatedCandidate platform.store candidate).Follows reviewedSends
      (fun _ _ => True) log := by
  rw [executeRevalidatedCandidate, request_bind, follows_call]
  refine ⟨sendsReviewed_silent rfl, fun now => ?_⟩
  unfold ExecutionState.leaseAfterFinalRevalidation
  rw [follows_bind, request_bind, follows_call]
  refine ⟨sendsReviewed_silent rfl, fun answer => ?_⟩
  split
  · apply executeLeased_reviewed
    apply hcandidate.mono
    exact List.Subset.trans (List.subset_append_left ..) (List.subset_append_left ..)
  · trivial
  · trivial

theorem intentId_of_revalidated {inspection : CandidateInspection} {intentId : String}
    {candidate : RevalidatedExecutionCandidate}
    (htaken : revalidatedCandidate inspection intentId = .ok candidate) :
    candidate.intentId = intentId := by
  obtain ⟨_, htaken⟩ := check_eq_ok.mp htaken
  obtain ⟨found, _, htaken⟩ := bind_eq_ok.mp htaken
  obtain ⟨_, _, htaken⟩ := bind_eq_ok.mp htaken
  obtain ⟨_, htaken⟩ := check_eq_ok.mp htaken
  obtain ⟨hexpected, htaken⟩ := check_eq_ok.mp htaken
  obtain ⟨_, _, htaken⟩ := bind_eq_ok.mp htaken
  obtain ⟨_, _, htaken⟩ := bind_eq_ok.mp htaken
  obtain ⟨_, htaken⟩ := check_eq_ok.mp htaken
  obtain ⟨_, _, htaken⟩ := bind_eq_ok.mp htaken
  obtain ⟨_, htaken⟩ := check_eq_ok.mp htaken
  obtain ⟨_, _, htaken⟩ := bind_eq_ok.mp htaken
  obtain ⟨_, htaken⟩ := check_eq_ok.mp htaken
  obtain ⟨_, htaken⟩ := check_eq_ok.mp htaken
  obtain rfl := Except.ok.inj htaken
  exact artifactCheck_eq_ok.mp hexpected

/-- A process sends what was reviewed, through all its cycles. -/
theorem maintains_reviewed :
    Maintains platform.store (.recall sendsReviewed) fun _ => True where
  attempt intentId log _ := by
    refine ⟨sendsReviewed_silent rfl, fun answer => ?_⟩
    rcases answer with error | none | funding
    · trivial
    · trivial
    · refine ⟨trivial, fun inspection => ?_⟩
      change (executeFromFinalRevalidation platform.store inspection intentId).Follows _ _ _
      unfold executeFromFinalRevalidation
      split
      next => trivial
      next candidate htaken =>
        rw [follows_bind, follows_via]
        obtain rfl := intentId_of_revalidated htaken
        apply (executeRevalidatedCandidate_reviewed ?_).mono fun _ _ _ => trivial
        refine ⟨funding, inspection, ?_, ?_, htaken⟩
        · simp [Discipline.recall]
        · simp [Discipline.recall]
  report op log hreport _ := by
    cases op with
    | worker | inspect => cases hreport
    | scan | emitCycle | emitAttempt => exact ⟨trivial, fun _ => trivial⟩

theorem ExecuteEntry.reviewed {program : Program executeFace Unit}
    (hentry : ExecuteEntry platform program) :
    program.Follows (.recall sendsReviewed) (fun _ _ => True) [] := by
  cases hentry with
  | process cycles => exact maintains_reviewed.process cycles trivial
  | funding op => exact ⟨sendsReviewed_silent rfl, fun _ => trivial⟩
  | rules op => exact ⟨sendsReviewed_silent rfl, fun _ => trivial⟩

end SolFrontier.Mcp
