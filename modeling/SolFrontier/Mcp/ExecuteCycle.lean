import SolFrontier.Mcp.PaidOrders

/-! # One cycle, call by call

A cycle reads the row of each ready intent at most once, in the order of the
scan. It leases an intent right after a fresh inspection of the row, and it
makes no call after a report that could not be printed or that aborts it.
-/

namespace SolFrontier.Mcp

open Foundation Types SolanaCore StateStore Executor Protocols Program

/-! ## The calls that a cycle is about -/

/-- The intent whose row is read again. -/
def McpOp.rereads : McpOp → Option String
  | .funding (.get intentId) => some intentId
  | _ => none

/-- The intent whose lease is taken, and the time it is taken at. -/
def McpOp.leases : McpOp → Option (String × Int64)
  | .funding (.leaseExecutionIfBudgetReserved intentId leaseNowMs) => some (intentId, leaseNowMs)
  | _ => none

def ExecuteOp.rereads : ExecuteOp → Option String
  | .worker op => op.rereads
  | _ => none

def ExecuteOp.leases : ExecuteOp → Option (String × Int64)
  | .worker op => op.leases
  | _ => none

/-- The intents a run read again, in their order. -/
def attempted (trace : List (Event executeFace)) : List String :=
  trace.filterMap fun event => event.op.rereads

/-- The intents a run tried to lease, in their order. -/
def leased (trace : List (Event executeFace)) : List String :=
  trace.filterMap fun event => event.op.leases.map Prod.fst

/-- A printed report after which the cycle makes no call. -/
def stopsCycle : Event executeFace → Bool
  | ⟨.emitAttempt _, .error _⟩ => true
  | ⟨.emitAttempt attempt, .ok _⟩ => executionAttemptAbortsCycle attempt
  | _ => false

/-- A lease follows at once on the row, an inspection of it that gives the
candidate, and the time. -/
def leaseIsFresh (log : List (Event executeFace)) (op : ExecuteOp) : Prop :=
  ∀ intentId leaseNowMs, op.leases = some (intentId, leaseNowMs) →
    ∃ first funding inspection candidate,
      log = first ++ [⟨.worker (.funding (.get intentId)), .ok (some funding)⟩,
        ⟨.inspect funding, inspection⟩, ⟨.worker .nowMs, leaseNowMs⟩] ∧
      revalidatedCandidate inspection intentId = .ok candidate

theorem attempted_append (first second : List (Event executeFace)) :
    attempted (first ++ second) = attempted first ++ attempted second := List.filterMap_append

theorem leased_append (first second : List (Event executeFace)) :
    leased (first ++ second) = leased first ++ leased second := List.filterMap_append

/-- What comes before a log does not make its leases less fresh. -/
theorem obeys_leaseIsFresh_append {first second : List (Event executeFace)}
    (hfirst : Discipline.Obeys leaseIsFresh first)
    (hsecond : Discipline.Obeys leaseIsFresh second) :
    Discipline.Obeys leaseIsFresh (first ++ second) := by
  intro before event after heq intentId nowMs hlease
  rcases List.append_eq_append_iff.mp heq with ⟨middle, rfl, hmiddle⟩ | ⟨middle, rfl, hmiddle⟩
  · obtain ⟨initial, funding, inspection, candidate, rfl, hcandidate⟩ :=
      hsecond middle event after hmiddle intentId nowMs hlease
    exact ⟨first ++ initial, funding, inspection, candidate, (List.append_assoc ..).symm, hcandidate⟩
  · cases middle with
    | nil =>
        obtain ⟨initial, funding, inspection, candidate, hlog, _⟩ :=
          hsecond [] event after hmiddle.symm intentId nowMs hlease
        simp at hlog
    | cons other middle =>
        obtain ⟨rfl, rfl⟩ := List.cons.inj hmiddle
        exact hfirst before event middle rfl intentId nowMs hlease

/-! ## The calls of a worker that holds a lease -/

/-- A call to the network, or the pause between two. -/
def McpOp.isNetwork : McpOp → Bool
  | .writeClient | .sendTransaction .. | .blockHeight | .instantNow _ | .sleep _ | .readClient
  | .signatureStatuses _ => true
  | _ => false

theorem pollOnce_network (signature : Signature) (deadline seen : Nat) (backoff : Backoff)
    (errors : Nat) :
    (pollOnce signature deadline seen backoff errors).Only
      fun op : McpOp => op.isNetwork = true := by
  unfold pollOnce
  apply request_only (by rfl)
  intro before
  split
  · trivial
  apply request_only (by rfl)
  intro _
  apply request_only (by rfl)
  intro woken
  split
  · trivial
  apply request_only (by rfl)
  intro client
  cases client with
  | error => trivial
  | ok =>
      dsimp only
      apply request_only (by rfl)
      intro statuses
      cases statuses with
      | error => trivial
      | ok statuses =>
          dsimp only
          split <;> trivial

theorem pollLoop_network (signature : Signature) (deadline seen : Nat) (backoff : Backoff)
    (errors : Nat) :
    (pollLoop signature deadline seen backoff errors).Only
      fun op : McpOp => op.isNetwork = true := by
  induction hleft : deadline - seen using Nat.strong_induction_on
    generalizing seen backoff errors with
  | _ left ih =>
      rw [pollLoop]
      apply Only.bind (pollOnce_network signature deadline seen backoff errors)
      intro round
      cases round with
      | stop => trivial
      | again now hlater hopen nextErrors =>
          exact ih (deadline - now) (by omega) now (nextBackoff backoff) nextErrors rfl

theorem pollFinalized_network (signature : Signature) :
    (pollFinalized signature).Only fun op : McpOp => op.isNetwork = true := by
  apply request_only (by rfl)
  intro start
  exact pollLoop_network ..

theorem submitOnceAndObserve_network (platform : Platform) (intentId : String)
    (payload : ReviewedSignedPayload) :
    (submitOnceAndObserve platform intentId payload).Only
      fun op : McpOp => op.isNetwork = true := by
  apply request_only (by rfl)
  intro client
  cases client with
  | error => trivial
  | ok =>
      apply Only.bind
      · unfold submitTransaction
        cases platform.deserializeTransaction payload.signedTransactionBytes with
        | none => trivial
        | some tx =>
            apply request_only (by rfl)
            intro sent
            cases sent with
            | error => trivial
            | ok signature =>
                apply request_only (by rfl)
                intro height
                cases height <;> trivial
      · intro submitted
        rcases submitted with (_ | _ | _) | submitted
        · trivial
        · exact pollFinalized_network ..
        · trivial
        · dsimp only
          split
          · trivial
          · exact pollFinalized_network ..

/-- The call neither reads a row again nor leases. -/
def McpOp.Underway (op : McpOp) : Prop := op.rereads = none ∧ op.leases = none

theorem underway_of_network {op : McpOp} (hnetwork : op.isNetwork = true) : op.Underway := by
  cases op with
  | funding | rules => cases hnetwork
  | _ => exact ⟨rfl, rfl⟩

theorem underway_of_recording {op : McpOp} (hrecording : op.isRecording = true) :
    op.Underway := by
  cases op with
  | funding op =>
      cases op with
      | get | leaseExecutionIfBudgetReserved => cases hrecording
      | _ => exact ⟨rfl, rfl⟩
  | _ => exact ⟨rfl, rfl⟩

theorem executeLeased_underway (platform : Platform) (candidate : RevalidatedExecutionCandidate) :
    (executeLeased platform candidate).Only McpOp.Underway := by
  apply request_only ⟨rfl, rfl⟩
  intro answer
  cases answer with
  | error => exact (reportRelease_records ..).mono fun _ => underway_of_recording
  | ok payload =>
      apply Only.bind ((submitOnceAndObserve_network ..).mono fun _ => underway_of_network)
      intro outcome
      exact (recordOutcome_records ..).mono fun _ => underway_of_recording

/-- A worker reads the time, asks for its lease, and does neither again. -/
theorem worker_calls {platform : Platform} {candidate : RevalidatedExecutionCandidate}
    {trace : List (Event mcpFace)} {attempt : ExecutionAttemptReport}
    (htrace : (executeRevalidatedCandidate platform candidate).Traces trace attempt) :
    ∃ (leaseNowMs : Int64) (answer : Except StoreError Nat) (rest : List (Event mcpFace)),
      trace = ⟨.nowMs, leaseNowMs⟩ ::
        ⟨.funding (.leaseExecutionIfBudgetReserved candidate.intentId leaseNowMs), answer⟩ :: rest ∧
      ∀ event ∈ rest, event.op.Underway := by
  rw [executeRevalidatedCandidate, request_bind] at htrace
  obtain ⟨leaseNowMs, afterTime, rfl, hlease⟩ := traces_call_iff.mp htrace
  obtain ⟨before, outcome, after, rfl, hasked, hrest⟩ := traces_bind_iff.mp hlease
  rw [ExecutionState.leaseAfterFinalRevalidation, request_bind] at hasked
  obtain ⟨answer, afterAnswer, rfl, hanswered⟩ := traces_call_iff.mp hasked
  refine ⟨leaseNowMs, answer, afterAnswer ++ after, rfl, ?_⟩
  have hnil : afterAnswer = [] := by
    split at hanswered
    next => exact (traces_done_iff.mp hanswered).1
    next => exact (traces_done_iff.mp hanswered).1
    next => exact (traces_done_iff.mp hanswered).1
  subst hnil
  cases outcome with
  | acquired => exact (executeLeased_underway platform candidate).forall_traces hrest
  | notAcquired | storeUnavailable =>
      obtain ⟨rfl, _⟩ := traces_done_iff.mp hrest
      simp

/-! ## The calls of an attempt -/

/-- The calls of an attempt at an intent, up to its report. -/
inductive Attempted (platform : Platform) (intentId : String) :
    List (Event executeFace) → Except CandidateArtifactError ExecutionAttemptReport → Prop
  | unread (answer : Except StoreError (Option W5hFundingIntent)) (error : CandidateArtifactError) :
      Attempted platform intentId [⟨.worker (.funding (.get intentId)), answer⟩] (.error error)
  | refused (funding : W5hFundingIntent) (inspection : CandidateInspection)
      (error : CandidateArtifactError) :
      revalidatedCandidate inspection intentId = .error error →
      Attempted platform intentId
        [⟨.worker (.funding (.get intentId)), .ok (some funding)⟩, ⟨.inspect funding, inspection⟩]
        (.error error)
  | worked (funding : W5hFundingIntent) (inspection : CandidateInspection)
      (candidate : RevalidatedExecutionCandidate) (trace : List (Event mcpFace))
      (attempt : ExecutionAttemptReport) :
      revalidatedCandidate inspection intentId = .ok candidate →
      (executeRevalidatedCandidate platform candidate).Traces trace attempt →
      Attempted platform intentId
        ([⟨.worker (.funding (.get intentId)), .ok (some funding)⟩,
          ⟨.inspect funding, inspection⟩] ++ trace.map workerPort.event) (.ok attempt)

/-- The calls for some ready intents; the flag says whether they were aborted. -/
inductive Attempts (platform : Platform) :
    List String → List (Event executeFace) → Bool → Prop
  | nil : Attempts platform [] [] false
  | refused {intentId : String} {rest : List String} {before after : List (Event executeFace)}
      {error : CandidateArtifactError} {aborted : Bool} :
      Attempted platform intentId before (.error error) → Attempts platform rest after aborted →
      Attempts platform (intentId :: rest) (before ++ after) aborted
  | reported {intentId : String} {rest : List String} {before after : List (Event executeFace)}
      {attempt : ExecutionAttemptReport} {aborted : Bool} :
      Attempted platform intentId before (.ok attempt) →
      executionAttemptAbortsCycle attempt = false → Attempts platform rest after aborted →
      Attempts platform (intentId :: rest)
        (before ++ ⟨.emitAttempt attempt, .ok ()⟩ :: after) aborted
  | stopped {intentId : String} {rest : List String} {before : List (Event executeFace)}
      {attempt : ExecutionAttemptReport} {answer : Except Unit Unit} :
      Attempted platform intentId before (.ok attempt) →
      stopsCycle ⟨.emitAttempt attempt, answer⟩ = true →
      Attempts platform (intentId :: rest) (before ++ [⟨.emitAttempt attempt, answer⟩]) true

variable {platform : Platform}

theorem revalidatedCandidate_error (status errorClass : String) (intentId ruleIdHex : Option String)
    (expectedIntentId : String) :
    revalidatedCandidate (.blocked (.error status errorClass intentId ruleIdHex))
      expectedIntentId = .error .readyRowMissing := by
  simp [revalidatedCandidate, artifactCheck, CandidateInspection.blocked, WatchRowReport.error]
  rfl

theorem attempted_of_traces {intentId : String} {before after : List (Event executeFace)}
    {inspection : CandidateInspection}
    {result : Except CandidateArtifactError ExecutionAttemptReport}
    (hbefore : (revalidateOne intentId).Traces before inspection)
    (hafter : (executeFromFinalRevalidation platform inspection intentId).Traces after result) :
    Attempted platform intentId (before ++ after) result := by
  obtain ⟨answer, rest, rfl, hrest⟩ := traces_call_iff.mp hbefore
  have hblocked : ∀ status errorClass row, inspection = .blocked (.error status errorClass row row) →
      rest = [] → Attempted platform intentId
        (⟨.worker (.funding (.get intentId)), answer⟩ :: rest ++ after) result := by
    rintro status errorClass row rfl rfl
    rw [executeFromFinalRevalidation, revalidatedCandidate_error] at hafter
    obtain ⟨rfl, rfl⟩ := traces_done_iff.mp hafter
    exact .unread answer _
  rcases answer with error | none | funding
  · obtain ⟨hnil, hinspection⟩ := traces_done_iff.mp hrest
    exact hblocked _ _ _ hinspection hnil
  · obtain ⟨hnil, hinspection⟩ := traces_done_iff.mp hrest
    exact hblocked _ _ _ hinspection hnil
  · obtain ⟨found, last, rfl, hdone⟩ := traces_call_iff.mp hrest
    obtain ⟨rfl, rfl⟩ := traces_done_iff.mp hdone
    unfold executeFromFinalRevalidation at hafter
    split at hafter
    next error herror =>
      obtain ⟨rfl, rfl⟩ := traces_done_iff.mp hafter
      exact .refused funding _ _ herror
    next candidate hcandidate =>
      obtain ⟨calls, attempt, last, rfl, hworker, hdone⟩ := traces_bind_iff.mp hafter
      obtain ⟨rfl, rfl⟩ := traces_done_iff.mp hdone
      obtain ⟨own, rfl, hown⟩ := traces_via_iff.mp hworker
      rw [List.append_nil]
      exact .worked funding _ _ own attempt hcandidate hown

theorem attempts_of_traces {intentIds : List String} {trace : List (Event executeFace)}
    {aborted : Bool} (htrace : (executeReadyIntents platform intentIds).Traces trace aborted) :
    Attempts platform intentIds trace aborted := by
  induction intentIds generalizing trace with
  | nil =>
      obtain ⟨rfl, rfl⟩ := traces_done_iff.mp htrace
      exact .nil
  | cons intentId rest ih =>
      obtain ⟨read, inspection, afterRead, rfl, hread, hwork⟩ := traces_bind_iff.mp htrace
      obtain ⟨worked, result, afterWork, rfl, hworked, hreport⟩ := traces_bind_iff.mp hwork
      have hattempted := attempted_of_traces hread hworked
      rw [← List.append_assoc]
      cases result with
      | error error => exact .refused hattempted (ih hreport)
      | ok attempt =>
          dsimp only at hreport
          rw [ExecuteOp.request_bind] at hreport
          obtain ⟨answer, afterReport, rfl, hrest⟩ := traces_call_iff.mp hreport
          cases answer with
          | error =>
              obtain ⟨rfl, rfl⟩ := traces_done_iff.mp hrest
              exact .stopped hattempted rfl
          | ok =>
              cases haborts : executionAttemptAbortsCycle attempt with
              | true =>
                  simp only [haborts, if_true] at hrest
                  obtain ⟨rfl, rfl⟩ := traces_done_iff.mp hrest
                  exact .stopped hattempted haborts
              | false =>
                  simp only [haborts, Bool.false_eq_true, if_false] at hrest
                  exact .reported hattempted haborts (ih hrest)

/-! ## What holds of the calls -/

theorem quiet_worker {trace : List (Event mcpFace)} (hquiet : ∀ event ∈ trace, event.op.Underway) :
    attempted (trace.map workerPort.event) = [] ∧ leased (trace.map workerPort.event) = [] ∧
      Discipline.Obeys leaseIsFresh (trace.map workerPort.event) := by
  refine ⟨?_, ?_, ?_⟩
  · simp only [attempted, List.filterMap_eq_nil_iff, List.forall_mem_map]
    intro event hmem
    exact (hquiet event hmem).1
  · simp only [leased, List.filterMap_eq_nil_iff, List.forall_mem_map]
    intro event hmem
    exact congrArg (Option.map Prod.fst) (hquiet event hmem).2
  · intro before event after heq intentId leaseNowMs hlease
    have hmem : event ∈ trace.map workerPort.event := by rw [heq]; simp
    obtain ⟨own, hown, rfl⟩ := List.mem_map.mp hmem
    have hnone : (workerPort.event own).op.leases = none := (hquiet own hown).2
    rw [hnone] at hlease
    cases hlease

/-- No report is printed within an attempt. -/
theorem stopsCycle_worker (event : Event mcpFace) : stopsCycle (workerPort.event event) = false :=
  rfl

/-- What the calls of one attempt amount to. -/
structure AttemptLaws (intentId : String) (trace : List (Event executeFace)) : Prop where
  rereads : attempted trace = [intentId]
  leases : leased trace = [] ∨ leased trace = [intentId]
  fresh : Discipline.Obeys leaseIsFresh trace
  goesOn : ∀ event ∈ trace, stopsCycle event = false

theorem Attempted.laws {intentId : String} {trace : List (Event executeFace)}
    {result : Except CandidateArtifactError ExecutionAttemptReport}
    (hattempted : Attempted platform intentId trace result) : AttemptLaws intentId trace := by
  cases hattempted with
  | unread answer =>
      refine ⟨rfl, .inl rfl, ?_, by simp [stopsCycle]⟩
      intro before event after heq id leaseNowMs hlease
      have hmem : event ∈ [(⟨.worker (.funding (.get intentId)), answer⟩ : Event executeFace)] := by
        rw [heq]
        simp
      obtain rfl := List.mem_singleton.mp hmem
      cases hlease
  | refused funding inspection =>
      refine ⟨rfl, .inl rfl, ?_, by simp [stopsCycle]⟩
      intro before event after heq id leaseNowMs hlease
      have hmem : event ∈ [(⟨.worker (.funding (.get intentId)), .ok (some funding)⟩ :
          Event executeFace), ⟨.inspect funding, inspection⟩] := by
        rw [heq]
        simp
      rcases List.mem_pair.mp hmem with rfl | rfl <;> cases hlease
  | worked funding inspection candidate calls attempt hcandidate hcalls =>
      obtain rfl := intentId_of_revalidated hcandidate
      obtain ⟨leaseNowMs, answer, rest, rfl, hrest⟩ := worker_calls hcalls
      obtain ⟨hattempted, hleased, hfresh⟩ := quiet_worker hrest
      let opening : List (Event executeFace) :=
        [⟨.worker (.funding (.get candidate.intentId)), .ok (some funding)⟩,
          ⟨.inspect funding, inspection⟩, ⟨.worker .nowMs, leaseNowMs⟩]
      let lease : Event executeFace :=
        ⟨.worker (.funding (.leaseExecutionIfBudgetReserved candidate.intentId leaseNowMs)), answer⟩
      change AttemptLaws candidate.intentId (opening ++ [lease] ++ rest.map workerPort.event)
      have hopening : Discipline.Obeys leaseIsFresh (opening ++ [lease]) := by
        apply Discipline.Obeys.concat
        · intro before event after heq id now hlease
          have hmem : event ∈ opening := by
            rw [heq]
            simp
          simp only [opening, List.mem_cons, List.not_mem_nil, or_false] at hmem
          rcases hmem with rfl | rfl | rfl <;> cases hlease
        · intro id now hlease
          obtain ⟨rfl, rfl⟩ := Prod.mk.inj (Option.some.inj hlease)
          exact ⟨[], funding, inspection, candidate, rfl, hcandidate⟩
      constructor
      · rw [attempted_append, hattempted]
        rfl
      · rw [leased_append, hleased]
        exact .inr rfl
      · exact obeys_leaseIsFresh_append hopening hfresh
      · intro event hmem
        rcases List.mem_append.mp hmem with hfirst | hlast
        · simp only [opening, lease, List.cons_append, List.nil_append, List.mem_cons,
            List.not_mem_nil, or_false] at hfirst
          rcases hfirst with rfl | rfl | rfl | rfl <;> rfl
        · obtain ⟨own, _, rfl⟩ := List.mem_map.mp hlast
          exact stopsCycle_worker own

/-- What the calls for some ready intents amount to. -/
structure CycleLaws (intentIds : List String) (trace : List (Event executeFace)) (aborted : Bool) :
    Prop where
  inOrder : attempted trace <+: intentIds
  complete : aborted = false → attempted trace = intentIds
  leases : (leased trace).Sublist (attempted trace)
  fresh : Discipline.Obeys leaseIsFresh trace
  goesOn : ∀ event ∈ trace.dropLast, stopsCycle event = false
  stops : aborted = true ↔ ∃ event, trace.getLast? = some event ∧ stopsCycle event = true

theorem CycleLaws.after {intentId : String} {rest : List String}
    {before after : List (Event executeFace)} {aborted : Bool}
    (hbefore : AttemptLaws intentId before) (hafter : CycleLaws rest after aborted) :
    CycleLaws (intentId :: rest) (before ++ after) aborted where
  inOrder := by
    rw [attempted_append, hbefore.rereads, List.singleton_append, List.prefix_cons_inj]
    exact hafter.inOrder
  complete hfinished := by
    rw [attempted_append, hbefore.rereads, hafter.complete hfinished]
    rfl
  leases := by
    rw [attempted_append, leased_append]
    apply List.Sublist.append _ hafter.leases
    rw [hbefore.rereads]
    rcases hbefore.leases with hnone | hone
    · rw [hnone]
      exact List.nil_sublist _
    · rw [hone]
  fresh := obeys_leaseIsFresh_append hbefore.fresh hafter.fresh
  goesOn := by
    intro event hmem
    cases after with
    | nil =>
        rw [List.append_nil] at hmem
        exact hbefore.goesOn event (List.dropLast_subset _ hmem)
    | cons head tail =>
        rw [List.dropLast_append_cons] at hmem
        rcases List.mem_append.mp hmem with hfirst | hlast
        · exact hbefore.goesOn event hfirst
        · exact hafter.goesOn event hlast
  stops := by
    rw [hafter.stops]
    cases after with
    | nil =>
        rw [List.append_nil]
        constructor
        · rintro ⟨event, hlast, _⟩
          cases hlast
        · rintro ⟨event, hlast, hstops⟩
          have hgoes := hbefore.goesOn event (List.mem_of_getLast? hlast)
          rw [hgoes] at hstops
          cases hstops
    | cons head tail => rw [List.getLast?_append_of_ne_nil _ (List.cons_ne_nil head tail)]

/-- A printed report adds nothing to an attempt. -/
theorem AttemptLaws.report {intentId : String} {trace : List (Event executeFace)}
    (htrace : AttemptLaws intentId trace) {attempt : ExecutionAttemptReport}
    (haborts : executionAttemptAbortsCycle attempt = false) :
    AttemptLaws intentId (trace ++ [⟨.emitAttempt attempt, .ok ()⟩]) where
  rereads := by
    rw [attempted_append, htrace.rereads]
    rfl
  leases := by
    rw [leased_append]
    exact htrace.leases.imp (fun hnone => by rw [hnone]; rfl) fun hone => by rw [hone]; rfl
  fresh := htrace.fresh.concat fun _ _ hlease => by cases hlease
  goesOn event hmem := by
    rcases List.mem_append.mp hmem with hfirst | hlast
    · exact htrace.goesOn event hfirst
    · obtain rfl := List.mem_singleton.mp hlast
      exact haborts

/-- The last attempt of a cycle that is aborted. -/
theorem AttemptLaws.stop {intentId : String} {before : List (Event executeFace)}
    (hbefore : AttemptLaws intentId before) (rest : List String)
    {attempt : ExecutionAttemptReport} {answer : Except Unit Unit}
    (hstops : stopsCycle ⟨.emitAttempt attempt, answer⟩ = true) :
    CycleLaws (intentId :: rest) (before ++ [⟨.emitAttempt attempt, answer⟩]) true where
  inOrder := by
    rw [attempted_append, hbefore.rereads]
    exact ⟨rest, rfl⟩
  complete hfinished := by cases hfinished
  leases := by
    rw [attempted_append, leased_append, hbefore.rereads]
    rcases hbefore.leases with hnone | hone
    · rw [hnone]
      exact List.nil_sublist _
    · rw [hone]
      exact List.Sublist.refl _
  fresh := hbefore.fresh.concat fun _ _ hlease => by cases hlease
  goesOn event hmem := by
    rw [List.dropLast_concat] at hmem
    exact hbefore.goesOn event hmem
  stops := by
    rw [List.getLast?_concat]
    exact ⟨fun _ => ⟨_, rfl, hstops⟩, fun _ => rfl⟩

theorem Attempts.laws {intentIds : List String} {trace : List (Event executeFace)} {aborted : Bool}
    (hattempts : Attempts platform intentIds trace aborted) :
    CycleLaws intentIds trace aborted := by
  induction hattempts with
  | nil =>
      exact
        { inOrder := List.prefix_refl _
          complete := fun _ => rfl
          leases := List.Sublist.refl _
          fresh := Discipline.obeys_nil _
          goesOn := by simp
          stops := by simp }
  | refused hattempted _ ih => exact ih.after hattempted.laws
  | @reported intentId rest before after attempt aborted hattempted haborts _ ih =>
      have hsplit : before ++ ⟨.emitAttempt attempt, .ok ()⟩ :: after =
          (before ++ [⟨.emitAttempt attempt, .ok ()⟩]) ++ after := by simp
      rw [hsplit]
      exact ih.after (hattempted.laws.report haborts)
  | stopped hattempted hstops => exact hattempted.laws.stop _ hstops

/-! ## Whole runs -/

theorem collectReady_nodup {rows : List WatchRowReport} {taken ids : List String}
    (hnodup : taken.Nodup) (hcollected : collectReady rows taken = .ok ids) : ids.Nodup := by
  induction rows generalizing taken with
  | nil =>
      obtain rfl := Except.ok.inj hcollected
      exact hnodup
  | cons row rows ih =>
      rw [collectReady] at hcollected
      split at hcollected
      next => cases hcollected
      next intentId _ =>
        split at hcollected
        next => cases hcollected
        next hfresh =>
          rw [List.contains_iff_mem] at hfresh
          exact ih (List.nodup_append.mpr ⟨hnodup, List.nodup_singleton _, by
            rintro taken htaken other hother rfl
            rw [List.mem_singleton] at hother
            exact hfresh (hother ▸ htaken)⟩) hcollected

/-- The calls of one cycle: it scans and prints the scan. What was printed and
gives ids, each once, is worked through under the laws of a cycle; otherwise
nothing is called at all. -/
def InOrder (trace : List (Event executeFace)) (aborted : Bool) : Prop :=
  ∃ report answer rest,
    trace = ⟨.scan, report⟩ :: ⟨.emitCycle report, answer⟩ :: rest ∧
    ((∃ intentIds, answer = .ok () ∧ executeReadyIntentIds report = .ok intentIds ∧
        intentIds.Nodup ∧ CycleLaws intentIds rest aborted) ∨
      ((answer = .error () ∨ ∃ error, executeReadyIntentIds report = .error error) ∧ rest = [] ∧
        aborted = false))

theorem inOrder_of_traces {trace : List (Event executeFace)} {aborted : Bool}
    (htrace : (executeCycle platform).Traces trace aborted) : InOrder trace aborted := by
  rw [executeCycle, ExecuteOp.request_bind] at htrace
  obtain ⟨report, afterScan, rfl, hprint⟩ := traces_call_iff.mp htrace
  rw [ExecuteOp.request_bind] at hprint
  obtain ⟨answer, rest, rfl, hrest⟩ := traces_call_iff.mp hprint
  refine ⟨report, answer, rest, rfl, ?_⟩
  cases answer with
  | error =>
      obtain ⟨rfl, rfl⟩ := traces_done_iff.mp hrest
      exact .inr ⟨.inl rfl, rfl, rfl⟩
  | ok =>
      dsimp only at hrest
      cases hids : executeReadyIntentIds report with
      | error error =>
          rw [hids] at hrest
          obtain ⟨rfl, rfl⟩ := traces_done_iff.mp hrest
          exact .inr ⟨.inr ⟨error, rfl⟩, rfl, rfl⟩
      | ok intentIds =>
          rw [hids] at hrest
          have hnodup : intentIds.Nodup := by
            unfold executeReadyIntentIds at hids
            split at hids
            next => cases hids
            next => exact collectReady_nodup List.nodup_nil hids
          exact .inl ⟨intentIds, rfl, rfl, hnodup, (attempts_of_traces hrest).laws⟩

/-- Whatever a process is answered, its run is its cycles one after the other.
In each the ready intents of the printed scan are read again in their order,
each at most once, and all of them unless the cycle is aborted. Only these are
leased, each right after a fresh inspection that gave its candidate and at the
time read last. Nothing is called after a report that could not be printed or
that aborts the cycle, and a scan that was not printed or that is not complete
leads to no call. -/
theorem cycles_in_order (cycles : Nat) {trace : List (Event executeFace)}
    (htrace : (runExecuteWatch platform cycles).Traces trace ()) :
    ∃ runs : List (List (Event executeFace) × Bool), runs.length = cycles ∧
      trace = (runs.map Prod.fst).flatten ∧ ∀ run ∈ runs, InOrder run.1 run.2 := by
  induction cycles generalizing trace with
  | zero =>
      obtain ⟨rfl, _⟩ := traces_done_iff.mp htrace
      exact ⟨[], rfl, rfl, by simp⟩
  | succ cycles ih =>
      obtain ⟨first, aborted, rest, rfl, hfirst, hrest⟩ := traces_bind_iff.mp htrace
      obtain ⟨runs, hlength, rfl, hruns⟩ := ih hrest
      refine ⟨(first, aborted) :: runs, by rw [List.length_cons, hlength], rfl, ?_⟩
      intro run hmem
      rcases List.mem_cons.mp hmem with rfl | hlater
      · exact inOrder_of_traces hfirst
      · exact hruns run hlater

/-- A cycle that finds the sample order ready and is refused the lease. -/
theorem cycles_in_order_refused :
    ∃ trace : List (Event executeFace), leased trace = [payingRow.intentId] ∧
      ∃ runs : List (List (Event executeFace) × Bool), runs.length = 1 ∧
        trace = (runs.map Prod.fst).flatten ∧ ∀ run ∈ runs, InOrder run.1 run.2 := by
  obtain ⟨report, lifecycle, _, hcandidate⟩ := revalidatedCandidate_paying
  let inspection := (CandidateInspection.ready (payingPlan report) none).withLifecycle lifecycle
  let attempt : ExecutionAttemptReport :=
    { ExecutionAttemptReport.base (payingCandidate report) with
      status := "lease_not_acquired"
      errorClass := some "execution_lease_not_acquired"
      fundingState := "unknown_or_not_budget_reserved" }
  let answered : List (Event mcpFace) :=
    [⟨.nowMs, (1700000101000 : Int64)⟩,
      ⟨.funding (.leaseExecutionIfBudgetReserved payingRow.intentId 1700000101000), .ok 0⟩]
  have hworker : (executeRevalidatedCandidate payingPlatform.store (payingCandidate report)).Traces
      answered attempt :=
    .call (1700000101000 : Int64) rfl (.call (.ok 0) rfl (.done _ _))
  let read : List (Event executeFace) :=
    [⟨.worker (.funding (.get payingRow.intentId)), .ok (some payingRow.toIntent)⟩,
      ⟨.inspect payingRow.toIntent, inspection⟩]
  let attempts : List (Event executeFace) :=
    read ++ (answered.map workerPort.event ++ [⟨.emitAttempt attempt, .ok ()⟩])
  let calls : List (Event executeFace) :=
    ⟨.scan, payingScan⟩ :: ⟨.emitCycle payingScan, .ok ()⟩ :: attempts
  have hinspected : (revalidateOne payingRow.intentId).Traces read inspection :=
    .call (.ok (some payingRow.toIntent)) rfl (.call inspection rfl (.done _ _))
  have hattempted : (executeFromFinalRevalidation payingPlatform.store inspection
      payingRow.intentId).Traces (answered.map workerPort.event) (.ok attempt) := by
    simp only [executeFromFinalRevalidation, inspection, hcandidate]
    exact traces_bind_iff.mpr ⟨_, attempt, [], (List.append_nil _).symm,
      traces_via_iff.mpr ⟨answered, rfl, hworker⟩, traces_done_iff.mpr ⟨rfl, rfl⟩⟩
  have hreported : (executeReadyIntents payingPlatform.store [payingRow.intentId]).Traces
      attempts false :=
    traces_bind_iff.mpr ⟨_, inspection, _, rfl, hinspected, traces_bind_iff.mpr
      ⟨_, .ok attempt, [⟨.emitAttempt attempt, .ok ()⟩], rfl, hattempted,
        .call (.ok ()) rfl (.done _ _)⟩⟩
  have hids : executeReadyIntentIds payingScan = .ok [payingRow.intentId] := rfl
  have hcycle : (executeCycle payingPlatform.store).Traces calls false := by
    refine traces_call_iff.mpr ⟨payingScan, _, rfl, ?_⟩
    refine traces_call_iff.mpr ⟨.ok (), attempts, rfl, ?_⟩
    simp only [Program.bind, hids]
    exact hreported
  have hrun : (runExecuteWatch payingPlatform.store 1).Traces calls () :=
    traces_bind_iff.mpr ⟨_, false, [], (List.append_nil _).symm, hcycle,
      traces_done_iff.mpr ⟨rfl, rfl⟩⟩
  exact ⟨calls, rfl, cycles_in_order 1 hrun⟩

end SolFrontier.Mcp
