import Mathlib.Logic.Relation
import SolFrontier.Foundation.Traces
import SolFrontier.Mcp.WatchSubmission

/-! # What decides a submission

A run of the submission is read off its calls: the responses of its polls and
the instants it saw. A definite outcome is the first finalized response, and the
responses before it do not matter while neither the deadline nor the limit of
errors is reached.
-/

namespace SolFrontier.Mcp

open Foundation SolanaCore Program

/-! ## The polls of a run -/

/-- What one poll learns: the status of the signature, or nothing because the
RPC failed. -/
abbrev PollResult := Except Unit (Option TransactionStatus)

def pollResult : Event mcpFace → Option PollResult
  | ⟨.readClient, client⟩ =>
      match client with
      | .ok _ => none
      | .error _ => some (.error ())
  | ⟨.signatureStatuses _, statuses⟩ =>
      match statuses with
      | .ok statuses => some (.ok statuses.head?.join)
      | .error _ => some (.error ())
  | _ => none

/-- The responses of a run, in their order. -/
def pollResults (trace : List (Event mcpFace)) : List PollResult := trace.filterMap pollResult

/-- The instants a run saw, in their order. -/
def instants (trace : List (Event mcpFace)) : List Nat :=
  trace.filterMap fun
    | ⟨.instantNow _, now⟩ => some now.1
    | _ => none

/-- A response at finalized commitment. -/
def PollResult.isFinalized : PollResult → Bool
  | .ok (some status) => status.confirmationStatus = some .finalized
  | _ => false

/-- The outcome a finalized response stands for. -/
def finalOutcome (signature : Signature) (status : TransactionStatus) : NetworkOutcome :=
  if status.err.isSome then .onChainFailed signature.text "transaction_failed_on_chain"
  else .finalized signature.text status.slot

/-- A later instant lies at the deadline, which the first instant set. -/
def DeadlineReached (trace : List (Event mcpFace)) : Prop :=
  ∃ start later, instants trace = start :: later ∧ ∃ now ∈ later, start + totalPollTimeout ≤ now

/-- More errors in a row than are tolerated. -/
def ErrorLimitReached (trace : List (Event mcpFace)) : Prop :=
  ∃ before after, pollResults trace =
    before ++ List.replicate (transientErrorTolerance + 1) (.error ()) ++ after

theorem observe_eq (signature : Signature) (status : Option TransactionStatus) :
    FinalityTracker.observe signature status =
      if PollResult.isFinalized (.ok status) then status.map (finalOutcome signature) else none := by
  cases status with
  | none => rfl
  | some status =>
      simp only [FinalityTracker.observe, classifyStatus, PollResult.isFinalized, finalOutcome,
        decide_eq_true_eq, Option.map_some]
      rcases hcommitment : status.confirmationStatus with _ | _ | _ | _
      · simp
      · simp
      · simp
      · cases herr : status.err <;> simp

/-- How polling ends, after some errors in a row. -/
inductive PollEnd (signature : Signature) (deadline errors : Nat) (trace : List (Event mcpFace)) :
    NetworkOutcome → Prop
  | finalized {before : List PollResult} {status : TransactionStatus}
      (hresults : pollResults trace = before ++ [.ok (some status)])
      (hbefore : ∀ result ∈ before, result.isFinalized = false)
      (hstatus : PollResult.isFinalized (.ok (some status)) = true) :
      PollEnd signature deadline errors trace (finalOutcome signature status)
  | timeout (hnow : ∃ now ∈ instants trace, deadline ≤ now) :
      PollEnd signature deadline errors trace
        (FinalityTracker.unknown signature "finality_timeout")
  | limit {before : List PollResult} (errorClass : String)
      (hresults : List.replicate errors (.error ()) ++ pollResults trace =
        before ++ List.replicate (transientErrorTolerance + 1) (.error ())) :
      PollEnd signature deadline errors trace (FinalityTracker.unknown signature errorClass)

/-- What a round of polling shows that does not end it. -/
def Inconclusive (errors : Nat) (trace : List (Event mcpFace)) (nextErrors : Nat) : Prop :=
  ∃ result : PollResult, pollResults trace = [result] ∧ result.isFinalized = false ∧
    ((result = .error () ∧ nextErrors = errors + 1) ∨ ∃ status, result = .ok status ∧ nextErrors = 0)

/-- One round in its calls. -/
def RoundEnds (signature : Signature) (errors : Nat) (trace : List (Event mcpFace))
    {seen deadline : Nat} : PollRound seen deadline → Prop
  | .stop outcome => PollEnd signature deadline errors trace outcome
  | .again _ _ _ nextErrors => Inconclusive errors trace nextErrors

/-- One more error in the calls of a round ends it or is counted. -/
theorem roundEnds_afterPollError {signature : Signature} {errorClass : String}
    {errors seen deadline now : Nat} {trace : List (Event mcpFace)} (hlater : seen < now)
    (hopen : now < deadline) (hresults : pollResults trace = [.error ()]) :
    RoundEnds signature errors trace
      (afterPollError signature errorClass errors now hlater hopen) := by
  unfold afterPollError
  split
  next hlimit =>
    have hcount : errors + 1 = (errors - transientErrorTolerance) + (transientErrorTolerance + 1) := by
      omega
    apply PollEnd.limit
    rw [hresults, ← List.replicate_succ', hcount, ← List.replicate_append_replicate]
  next =>
    exact ⟨.error (), hresults, rfl, .inl ⟨rfl, rfl⟩⟩

theorem roundEnds_of_traces {signature : Signature} {deadline seen : Nat} {backoff : Backoff}
    {errors : Nat} {trace : List (Event mcpFace)} {round : PollRound seen deadline}
    (htrace : (pollOnce signature deadline seen backoff errors).Traces trace round) :
    RoundEnds signature errors trace round := by
  unfold pollOnce at htrace
  rw [request_bind] at htrace
  obtain ⟨before, rest, rfl, hwaits⟩ := traces_call_iff.mp htrace
  split at hwaits
  next hover =>
    obtain ⟨rfl, rfl⟩ := traces_done_iff.mp hwaits
    exact .timeout ⟨before.1, by simp [instants], hover⟩
  next =>
  rw [request_bind] at hwaits
  obtain ⟨slept, rest, rfl, hwakes⟩ := traces_call_iff.mp hwaits
  rw [request_bind] at hwakes
  obtain ⟨woken, rest, rfl, hasks⟩ := traces_call_iff.mp hwakes
  split at hasks
  next hover =>
    obtain ⟨rfl, rfl⟩ := traces_done_iff.mp hasks
    exact .timeout ⟨woken.1, by simp [instants], hover⟩
  next =>
  dsimp only at hasks
  rw [request_bind] at hasks
  obtain ⟨client, rest, rfl, hclient⟩ := traces_call_iff.mp hasks
  cases client with
  | error =>
      obtain ⟨rfl, rfl⟩ := traces_done_iff.mp hclient
      exact roundEnds_afterPollError _ _ rfl
  | ok =>
      dsimp only at hclient
      rw [request_bind] at hclient
      obtain ⟨statuses, rest, rfl, hreads⟩ := traces_call_iff.mp hclient
      cases statuses with
      | error =>
          obtain ⟨rfl, rfl⟩ := traces_done_iff.mp hreads
          exact roundEnds_afterPollError _ _ rfl
      | ok statuses =>
          dsimp only at hreads
          rw [observe_eq] at hreads
          by_cases hfinal : PollResult.isFinalized (.ok statuses.head?.join) = true
          · rw [if_pos hfinal] at hreads
            cases hstatus : statuses.head?.join with
            | none =>
                rw [hstatus] at hfinal
                cases hfinal
            | some status =>
                rw [hstatus] at hreads hfinal
                obtain ⟨rfl, rfl⟩ := traces_done_iff.mp hreads
                have hnone : ∀ result ∈ ([] : List PollResult), result.isFinalized = false := by
                  simp
                apply PollEnd.finalized ?_ hnone hfinal
                rw [← hstatus]
                rfl
          · rw [if_neg hfinal] at hreads
            obtain ⟨rfl, rfl⟩ := traces_done_iff.mp hreads
            exact ⟨.ok statuses.head?.join, rfl, Bool.eq_false_iff.mpr hfinal,
              .inr ⟨_, rfl, rfl⟩⟩

theorem pollResults_append (first second : List (Event mcpFace)) :
    pollResults (first ++ second) = pollResults first ++ pollResults second :=
  List.filterMap_append

theorem instants_append (first second : List (Event mcpFace)) :
    instants (first ++ second) = instants first ++ instants second :=
  List.filterMap_append

/-- A round that does not end polling is put before the rest. -/
theorem PollEnd.after {signature : Signature} {deadline errors nextErrors : Nat}
    {round rest : List (Event mcpFace)} {outcome : NetworkOutcome}
    (hround : Inconclusive errors round nextErrors)
    (hrest : PollEnd signature deadline nextErrors rest outcome) :
    PollEnd signature deadline errors (round ++ rest) outcome := by
  obtain ⟨result, hresult, hpending, hcount⟩ := hround
  cases hrest with
  | finalized hresults hbefore hstatus =>
      apply PollEnd.finalized (by rw [pollResults_append, hresult, hresults, ← List.append_assoc])
        ?_ hstatus
      intro other hmem
      rcases List.mem_append.mp hmem with hfirst | hlater
      · rw [List.mem_singleton.mp hfirst]
        exact hpending
      · exact hbefore other hlater
  | timeout hnow =>
      obtain ⟨now, hmem, hover⟩ := hnow
      apply PollEnd.timeout
      exact ⟨now, by rw [instants_append]; exact List.mem_append_right _ hmem, hover⟩
  | @limit before errorClass hresults =>
      rcases hcount with ⟨rfl, rfl⟩ | ⟨status, rfl, rfl⟩
      · -- The error of the round is the last of those counted so far.
        apply PollEnd.limit
        rw [pollResults_append, hresult, ← List.append_assoc, ← List.replicate_succ']
        exact hresults
      · -- An answered poll starts the count anew.
        rw [List.replicate_zero, List.nil_append] at hresults
        apply PollEnd.limit
        rw [pollResults_append, hresult, hresults, ← List.append_assoc, ← List.append_assoc]

theorem pollLoop_ends {signature : Signature} {deadline seen : Nat} {backoff : Backoff}
    {errors : Nat} {trace : List (Event mcpFace)} {outcome : NetworkOutcome}
    (htrace : (pollLoop signature deadline seen backoff errors).Traces trace outcome) :
    PollEnd signature deadline errors trace outcome := by
  -- Each round ends the loop or moves the clock closer to the deadline.
  induction hleft : deadline - seen using Nat.strong_induction_on
    generalizing seen backoff errors trace with
  | _ left ih =>
      rw [pollLoop, traces_bind_iff] at htrace
      obtain ⟨round, ended, rest, rfl, hround, hrest⟩ := htrace
      have hends := roundEnds_of_traces hround
      cases ended with
      | stop stopped =>
          obtain ⟨rfl, rfl⟩ := traces_done_iff.mp hrest
          rw [List.append_nil]
          exact hends
      | again now hlater hopen nextErrors =>
          exact PollEnd.after hends (ih (deadline - now) (by omega) hrest rfl)

theorem pollFinalized_ends {signature : Signature} {trace : List (Event mcpFace)}
    {outcome : NetworkOutcome} (htrace : (pollFinalized signature).Traces trace outcome) :
    ∃ start rest, instants trace = start :: instants rest ∧ pollResults trace = pollResults rest ∧
      PollEnd signature (start + totalPollTimeout) 0 rest outcome := by
  unfold pollFinalized at htrace
  rw [request_bind] at htrace
  obtain ⟨start, rest, rfl, hrest⟩ := traces_call_iff.mp htrace
  exact ⟨start.1, rest, rfl, rfl, pollLoop_ends hrest⟩

/-! ## The calls before polling -/

/-- The calls that send. -/
def isSubmission : McpOp → Bool
  | .writeClient | .sendTransaction .. | .blockHeight => true
  | _ => false

/-- The answers of the sending calls of a run. -/
def submissions (trace : List (Event mcpFace)) : List (Event mcpFace) :=
  trace.filter fun event => isSubmission event.op

/-- The part of a submission before polling; without an outcome polling follows. -/
def sendOnce (platform : Platform) (intentId : String) (payload : ReviewedSignedPayload) :
    Program mcpFace (Option NetworkOutcome) := do
  match ← request .writeClient with
  | .error _ => pure (some (.preBroadcastFailure "rpc_write_client_unavailable"))
  | .ok _ =>
      match ← submitTransaction platform intentId payload.signedTransactionBytes
          payload.lastValidBlockHeight with
      | .error .deserializationError =>
          pure (some (.preBroadcastFailure "signed_transaction_deserialize_failed"))
      | .error .rpcError =>
          pure (some (FinalityTracker.unknown payload.signature "send_result_unknown"))
      | .error .heightFetchError => pure none
      | .ok submitted =>
          if submitted.signature ≠ payload.signature then
            pure (some (FinalityTracker.unknown payload.signature "rpc_signature_mismatch"))
          else pure none

/-- What follows the sending. -/
def afterSend (signature : Signature) : Option NetworkOutcome → Program mcpFace NetworkOutcome
  | some outcome => pure outcome
  | none => pollFinalized signature

theorem submitOnceAndObserve_eq (platform : Platform) (intentId : String)
    (payload : ReviewedSignedPayload) :
    submitOnceAndObserve platform intentId payload =
      sendOnce platform intentId payload >>= afterSend payload.signature := by
  unfold submitOnceAndObserve sendOnce submitTransaction
  rw [request_bind, request_bind, call_bind]
  congr 1
  funext client
  cases client with
  | error => rfl
  | ok =>
      dsimp only
      cases platform.deserializeTransaction payload.signedTransactionBytes with
      | none => rfl
      | some tx =>
          dsimp only
          rw [request_bind, call_bind, call_bind, call_bind]
          congr 1
          funext sent
          cases sent with
          | error => rfl
          | ok signature =>
              dsimp only
              rw [request_bind, call_bind, call_bind, call_bind]
              congr 1
              funext height
              cases height with
              | error => rfl
              | ok height =>
                  by_cases hsame : signature = payload.signature
                  · simp [hsame, afterSend]
                  · simp [hsame, afterSend]

theorem sendOnce_only (platform : Platform) (intentId : String) (payload : ReviewedSignedPayload) :
    (sendOnce platform intentId payload).Only fun op => isSubmission op = true := by
  unfold sendOnce
  apply request_only (by rfl)
  intro client
  cases client with
  | error => trivial
  | ok =>
      dsimp only
      apply Only.bind
      · unfold submitTransaction
        cases platform.deserializeTransaction payload.signedTransactionBytes with
        | none => trivial
        | some tx =>
            dsimp only
            apply request_only (by rfl)
            intro sent
            cases sent with
            | error => trivial
            | ok signature =>
                apply request_only (by rfl)
                intro height
                cases height <;> trivial
      · intro submitted
        rcases submitted with (_ | _ | _) | submitted
        · trivial
        · trivial
        · trivial
        · dsimp only
          split <;> trivial

theorem pollOnce_only (signature : Signature) (deadline seen : Nat) (backoff : Backoff)
    (errors : Nat) :
    (pollOnce signature deadline seen backoff errors).Only fun op => isSubmission op = false := by
  unfold pollOnce
  apply request_only (by rfl)
  intro before
  split
  · trivial
  apply request_only (by rfl)
  intro _
  apply request_only (by rfl)
  intro woken
  split
  · trivial
  apply request_only (by rfl)
  intro client
  cases client with
  | error => trivial
  | ok =>
      dsimp only
      apply request_only (by rfl)
      intro statuses
      cases statuses with
      | error => trivial
      | ok statuses =>
          dsimp only
          split <;> trivial

theorem pollLoop_only (signature : Signature) (deadline seen : Nat) (backoff : Backoff)
    (errors : Nat) :
    (pollLoop signature deadline seen backoff errors).Only fun op => isSubmission op = false := by
  induction hleft : deadline - seen using Nat.strong_induction_on
    generalizing seen backoff errors with
  | _ left ih =>
      rw [pollLoop]
      apply Only.bind (pollOnce_only signature deadline seen backoff errors)
      intro round
      cases round with
      | stop => trivial
      | again now hlater hopen nextErrors =>
          exact ih (deadline - now) (by omega) now (nextBackoff backoff) nextErrors rfl

theorem pollFinalized_only (signature : Signature) :
    (pollFinalized signature).Only fun op => isSubmission op = false := by
  unfold pollFinalized
  apply request_only (by rfl)
  intro start
  exact pollLoop_only ..

/-! ## Whole submissions -/

/-- A run of a submission is its sending calls and then, if the sending left it
open, its polls. -/
theorem submission_parts {platform : Platform} {intentId : String}
    {payload : ReviewedSignedPayload} {trace : List (Event mcpFace)} {outcome : NetworkOutcome}
    (htrace : (submitOnceAndObserve platform intentId payload).Traces trace outcome) :
    ∃ sends sent polls, (sendOnce platform intentId payload).Traces sends sent ∧
      (afterSend payload.signature sent).Traces polls outcome ∧ submissions trace = sends ∧
      pollResults trace = pollResults polls ∧ instants trace = instants polls := by
  rw [submitOnceAndObserve_eq, traces_bind_iff] at htrace
  obtain ⟨sends, sent, polls, rfl, hsends, hpolls⟩ := htrace
  have hsubmits := (sendOnce_only platform intentId payload).forall_traces hsends
  have hpollsOnly : ∀ event ∈ polls, isSubmission event.op = false := by
    cases sent with
    | some outcome =>
        obtain ⟨rfl, _⟩ := traces_done_iff.mp hpolls
        simp
    | none => exact (pollFinalized_only payload.signature).forall_traces hpolls
  have hnoResults : pollResults sends = [] := by
    apply List.filterMap_eq_nil_iff.mpr
    intro ⟨op, answer⟩ hmem
    have hsubmit := hsubmits _ hmem
    cases op with
    | writeClient | sendTransaction | blockHeight => rfl
    | _ => cases hsubmit
  have hnoInstants : instants sends = [] := by
    apply List.filterMap_eq_nil_iff.mpr
    intro ⟨op, answer⟩ hmem
    have hsubmit := hsubmits _ hmem
    cases op with
    | writeClient | sendTransaction | blockHeight => rfl
    | _ => cases hsubmit
  refine ⟨sends, sent, polls, hsends, hpolls, ?_, ?_, ?_⟩
  · have hall : sends.filter (fun event => isSubmission event.op) = sends :=
      List.filter_eq_self.mpr hsubmits
    have hnone : polls.filter (fun event => isSubmission event.op) = [] := by
      apply List.filter_eq_nil_iff.mpr
      intro event hmem
      simp [hpollsOnly event hmem]
    rw [submissions, List.filter_append, hall, hnone, List.append_nil]
  · rw [pollResults_append, hnoResults, List.nil_append]
  · rw [instants_append, hnoInstants, List.nil_append]

/-- An outcome that the sending itself has is never a definite one of the chain,
and it is one before the broadcast only if nothing was sent. -/
theorem sendOnce_outcome {platform : Platform} {intentId : String}
    {payload : ReviewedSignedPayload} {sends : List (Event mcpFace)} {outcome : NetworkOutcome}
    (hsends : (sendOnce platform intentId payload).Traces sends (some outcome)) :
    (∃ errorClass, outcome = .preBroadcastFailure errorClass ∧
      ∀ id tx answer, (⟨.sendTransaction id tx, answer⟩ : Event mcpFace) ∉ sends) ∨
    ∃ errorClass, outcome = FinalityTracker.unknown payload.signature errorClass := by
  unfold sendOnce submitTransaction at hsends
  rw [request_bind] at hsends
  obtain ⟨client, rest, rfl, hclient⟩ := traces_call_iff.mp hsends
  cases client with
  | error =>
      obtain ⟨rfl, houtcome⟩ := traces_done_iff.mp hclient
      rw [Option.some.injEq] at houtcome
      exact .inl ⟨_, houtcome, by simp⟩
  | ok =>
      dsimp only at hclient
      cases hdecoded : platform.deserializeTransaction payload.signedTransactionBytes with
      | none =>
          rw [hdecoded] at hclient
          obtain ⟨rfl, houtcome⟩ := traces_done_iff.mp hclient
          rw [Option.some.injEq] at houtcome
          exact .inl ⟨_, houtcome, by simp⟩
      | some tx =>
          rw [hdecoded] at hclient
          dsimp only at hclient
          rw [request_bind, call_bind] at hclient
          obtain ⟨sent, rest, rfl, hsent⟩ := traces_call_iff.mp hclient
          cases sent with
          | error =>
              obtain ⟨rfl, houtcome⟩ := traces_done_iff.mp hsent
              rw [Option.some.injEq] at houtcome
              exact .inr ⟨_, houtcome⟩
          | ok signature =>
              dsimp only at hsent
              rw [request_bind, call_bind] at hsent
              obtain ⟨height, rest, rfl, hheight⟩ := traces_call_iff.mp hsent
              cases height with
              | error =>
                  -- The transaction is out, so the sending has no outcome of its own.
                  obtain ⟨_, houtcome⟩ := traces_done_iff.mp hheight
                  cases houtcome
              | ok height =>
                  dsimp only [pure_eq, done_bind] at hheight
                  split at hheight
                  · obtain ⟨rfl, houtcome⟩ := traces_done_iff.mp hheight
                    rw [Option.some.injEq] at houtcome
                    exact .inr ⟨_, houtcome⟩
                  · obtain ⟨_, houtcome⟩ := traces_done_iff.mp hheight
                    cases houtcome

/-- The outcome of a run, as its sending and its responses have it. -/
theorem submission_ends {platform : Platform} {intentId : String}
    {payload : ReviewedSignedPayload} {trace : List (Event mcpFace)} {outcome : NetworkOutcome}
    (htrace : (submitOnceAndObserve platform intentId payload).Traces trace outcome) :
    ((∃ errorClass, outcome = .preBroadcastFailure errorClass ∧
        ∀ id tx answer, (⟨.sendTransaction id tx, answer⟩ : Event mcpFace) ∉ trace) ∨
      ∃ errorClass, outcome = FinalityTracker.unknown payload.signature errorClass) ∨
    ∃ before status, pollResults trace = before ++ [.ok (some status)] ∧
      (∀ result ∈ before, result.isFinalized = false) ∧
      status.confirmationStatus = some .finalized ∧
      outcome = finalOutcome payload.signature status := by
  obtain ⟨sends, sent, polls, hsends, hpolls, hsubmissions, hresults, _⟩ := submission_parts htrace
  cases sent with
  | some decided =>
      obtain ⟨rfl, rfl⟩ := traces_done_iff.mp hpolls
      left
      rcases sendOnce_outcome hsends with ⟨errorClass, houtcome, hunsent⟩ | hunknown
      · refine .inl ⟨errorClass, houtcome, ?_⟩
        intro id tx answer hmem
        apply hunsent id tx answer
        rw [← hsubmissions, submissions, List.mem_filter]
        exact ⟨hmem, rfl⟩
      · exact .inr hunknown
  | none =>
      obtain ⟨start, rest, _, hrest, hend⟩ := pollFinalized_ends hpolls
      cases hend with
      | finalized hends hbefore hstatus =>
          right
          refine ⟨_, _, hresults.trans (hrest.trans hends), hbefore, ?_, rfl⟩
          simpa [PollResult.isFinalized] using hstatus
      | timeout => exact .inl (.inr ⟨_, rfl⟩)
      | limit errorClass => exact .inl (.inr ⟨_, rfl⟩)

/-- One more answered poll without finality, before the first finalized
response. -/
inductive PendingInserted : List PollResult → List PollResult → Prop
  | insert {before after : List PollResult} {status : Option TransactionStatus}
      (hbefore : ∀ result ∈ before, result.isFinalized = false)
      (hpending : PollResult.isFinalized (.ok status) = false) :
      PendingInserted (before ++ after) (before ++ .ok status :: after)

/-- Responses that agree up to answered polls without finality: such polls are
inserted, deleted and replaced before the first finalized response. -/
abbrev SameButPending : List PollResult → List PollResult → Prop :=
  Relation.EqvGen PendingInserted

/-- The first finalized response stays the same. -/
theorem SameButPending.find? {first second : List PollResult}
    (hsame : SameButPending first second) :
    first.find? PollResult.isFinalized = second.find? PollResult.isFinalized := by
  induction hsame with
  | rel first second hinserted =>
      obtain ⟨_, hpending⟩ := hinserted
      rw [List.find?_append, List.find?_append, List.find?_cons, hpending]
  | refl => rfl
  | symm first second _ ih => exact ih.symm
  | trans first middle second _ _ ihfirst ihsecond => exact ihfirst.trans ihsecond

/-- Polling that reaches neither bound ends with the first finalized response
there is. -/
theorem outcome_of_responses {signature : Signature} {polls trace : List (Event mcpFace)}
    {outcome : NetworkOutcome} {responses : List PollResult}
    (hpolls : (pollFinalized signature).Traces polls outcome)
    (hresults : pollResults trace = pollResults polls) (hinstants : instants trace = instants polls)
    (hanswered : pollResults trace <+: responses) (hdeadline : ¬ DeadlineReached trace)
    (hlimit : ¬ ErrorLimitReached trace) :
    ∃ status, responses.find? PollResult.isFinalized = some (.ok (some status)) ∧
      outcome = finalOutcome signature status := by
  obtain ⟨start, rest, hstart, hrest, hend⟩ := pollFinalized_ends hpolls
  cases hend with
  | @finalized before status hends hbefore hstatus =>
      refine ⟨status, ?_, rfl⟩
      obtain ⟨later, rfl⟩ := hanswered
      have hnone : before.find? PollResult.isFinalized = none := by
        apply List.find?_eq_none.mpr
        intro result hmem
        simp [hbefore result hmem]
      rw [hresults, hrest, hends, List.append_assoc, List.find?_append, hnone, Option.none_or,
        List.singleton_append, List.find?_cons, hstatus]
  | timeout hnow =>
      exact absurd ⟨start, instants rest, hinstants.trans hstart, hnow⟩ hdeadline
  | @limit before errorClass hends =>
      rw [List.replicate_zero, List.nil_append] at hends
      refine absurd ⟨before, [], ?_⟩ hlimit
      rw [List.append_nil, hresults, hrest, hends]

/-- A submission reports the chain's success or failure only from the first
finalized response of its polls and as that response's error says; it reports a
failure before the broadcast only if nothing was sent; and two submissions that
were sent alike and reach neither bound have one outcome when their responses
agree up to answered polls without finality. -/
theorem submission_decided_by_finalized (platform : Platform) (intentId : String)
    (payload : ReviewedSignedPayload) :
    (∀ trace outcome, (submitOnceAndObserve platform intentId payload).Traces trace outcome →
      (∀ signature slot, outcome = .finalized signature slot →
        ∃ before status, pollResults trace = before ++ [.ok (some status)] ∧
          (∀ result ∈ before, result.isFinalized = false) ∧
          status.confirmationStatus = some .finalized ∧ status.err = none ∧
          signature = payload.signature.text ∧ slot = status.slot) ∧
      (∀ signature errorClass, outcome = .onChainFailed signature errorClass →
        ∃ before status, pollResults trace = before ++ [.ok (some status)] ∧
          (∀ result ∈ before, result.isFinalized = false) ∧
          status.confirmationStatus = some .finalized ∧ status.err ≠ none ∧
          signature = payload.signature.text) ∧
      (∀ errorClass, outcome = .preBroadcastFailure errorClass →
        ∀ id tx answer, (⟨.sendTransaction id tx, answer⟩ : Event mcpFace) ∉ trace)) ∧
    (∀ (responses otherResponses : List PollResult) (trace otherTrace : List (Event mcpFace))
      (outcome otherOutcome : NetworkOutcome),
      SameButPending responses otherResponses →
      (submitOnceAndObserve platform intentId payload).Traces trace outcome →
      (submitOnceAndObserve platform intentId payload).Traces otherTrace otherOutcome →
      submissions trace = submissions otherTrace →
      pollResults trace <+: responses → pollResults otherTrace <+: otherResponses →
      ¬ DeadlineReached trace → ¬ ErrorLimitReached trace →
      ¬ DeadlineReached otherTrace → ¬ ErrorLimitReached otherTrace →
      outcome = otherOutcome) := by
  constructor
  · intro trace outcome htrace
    rcases submission_ends htrace with
      (⟨errorClass, rfl, hunsent⟩ | ⟨errorClass, rfl⟩) |
        ⟨before, status, hresults, hbefore, hstatus, rfl⟩
    · exact ⟨by simp, by simp, fun _ _ => hunsent⟩
    · exact ⟨by simp [FinalityTracker.unknown], by simp [FinalityTracker.unknown],
        by simp [FinalityTracker.unknown]⟩
    · cases herr : status.err with
      | none =>
          simp only [finalOutcome, herr, Option.isSome_none]
          refine ⟨?_, by simp, by simp⟩
          intro signature slot houtcome
          simp only [Bool.false_eq_true, if_false, NetworkOutcome.finalized.injEq] at houtcome
          exact ⟨before, status, hresults, hbefore, hstatus, herr, houtcome.1.symm,
            houtcome.2.symm⟩
      | some error =>
          simp only [finalOutcome, herr, Option.isSome_some]
          refine ⟨by simp, ?_, by simp⟩
          intro signature errorClass houtcome
          simp only [if_true, NetworkOutcome.onChainFailed.injEq] at houtcome
          exact ⟨before, status, hresults, hbefore, hstatus, by simp [herr], houtcome.1.symm⟩
  · intro responses otherResponses trace otherTrace outcome otherOutcome hsame htrace hotherTrace
      halike hanswered hotherPrefix hdeadline hlimit hotherDeadline hotherLimit
    obtain ⟨sends, sent, polls, hsends, hpolls, hsubmissions, hresults, hinstants⟩ :=
      submission_parts htrace
    obtain ⟨otherSends, otherSent, otherPolls, hotherSends, hotherPolls, hotherSubmissions,
      hotherResults, hotherInstants⟩ := submission_parts hotherTrace
    -- The same answers while sending leave both runs in the same place.
    have hsendsEq : sends ++ [] = otherSends ++ [] := by
      rw [← hsubmissions, ← hotherSubmissions, halike]
    obtain ⟨_, rfl⟩ := traces_unique hsends hotherSends hsendsEq
    cases sent with
    | some decided =>
        exact (traces_done_iff.mp hpolls).2.trans (traces_done_iff.mp hotherPolls).2.symm
    | none =>
        obtain ⟨status, hfirst, rfl⟩ :=
          outcome_of_responses hpolls hresults hinstants hanswered hdeadline hlimit
        obtain ⟨otherStatus, hotherFirst, rfl⟩ :=
          outcome_of_responses hotherPolls hotherResults hotherInstants hotherPrefix hotherDeadline
            hotherLimit
        rw [hsame.find?, hotherFirst] at hfirst
        simp only [Option.some.injEq, Except.ok.injEq] at hfirst
        rw [hfirst]

end SolFrontier.Mcp
