import SolFrontier.Mcp.WatchExecute
import SolFrontier.StateStore.W5hLifecycle

/-! # At most one broadcast for a reserved budget

A send is made only by a worker that holds the execution lease of its intent,
and the lease is given back only by its holder before any send. Between the
two the row is spent: no statement but that release makes it reserved again.
The laws hold for every interleaving of workers and other store users, with
every answer and a crash anywhere.
-/

namespace SolFrontier.Mcp

open Foundation StateStore Program

/-- No lease is granted on the row without a release before it. -/
def Spent (world : World) (intentId : String) : Prop :=
  ∃ row, world.funding.get intentId = some row ∧ row.status ≠ .fundingRequired ∧
    row.status ≠ .fundingSubmitted ∧ row.status ≠ .budgetReserved

/-! ## What one call does to the leases -/

/-- How a call bears on the execution leases. -/
inductive LeaseBearing where
  | lease (intentId : String)
  | release (intentId : String)
  | send (intentId : String)
  | neutral
  deriving DecidableEq

def McpOp.bearing : McpOp → LeaseBearing
  | .funding (.leaseExecutionIfBudgetReserved id _) => .lease id
  | .funding (.releaseExecutionLeaseToBudgetReserved id _) => .release id
  | .sendTransaction id _ => .send id
  | _ => .neutral

/-- The intent whose lease the answer grants. -/
def granted : (op : McpOp) → op.Answer → Option String
  | .funding (.leaseExecutionIfBudgetReserved id _), .ok 1 => some id
  | _, _ => none

theorem bearing_of_granted {op : McpOp} {answer : op.Answer} {id : String}
    (hgranted : granted op answer = some id) : op.bearing = .lease id := by
  unfold granted at hgranted
  split at hgranted
  · rw [Option.some.inj hgranted]
    rfl
  · cases hgranted

/-- Only a release leads back from the spent statuses. -/
theorem changes_spent {op : W5hOp} {row next : RowRaw} (hchange : op.Changes row next)
    (hrequired : row.status ≠ .fundingRequired) (hsubmitted : row.status ≠ .fundingSubmitted)
    (hreserved : row.status ≠ .budgetReserved) :
    (∃ id reason, op = .releaseExecutionLeaseToBudgetReserved id reason) ∨
      next.status ≠ .fundingRequired ∧ next.status ≠ .fundingSubmitted ∧
        next.status ≠ .budgetReserved := by
  cases hchange with
  | submitted hguard =>
      rcases hguard with h | ⟨h, _⟩
      · exact absurd h hrequired
      · exact absurd h hsubmitted
  | reserved h _ => exact absurd h hsubmitted
  | invalid h _ => exact absurd h hsubmitted
  | leasedExecution h _ => exact absurd h hreserved
  | expired h _ => exact absurd h hreserved
  | released => exact .inl ⟨_, _, rfl⟩
  | completed | leasedRefund | refunded | failed => exact .inr (by simp)

variable {platform : Platform} {world after : World} {op : McpOp} {answer : op.Answer}

/-- A repository call keeps a row spent, unless it releases that row. -/
theorem spent_funding {op : W5hOp} {answer : Except StoreError op.Answer} {table : W5hFundingTable}
    {id : String} (hattempt : w5hFundingRepository.Attempt world.funding op answer table)
    (hrelease : (McpOp.funding op).bearing ≠ .release id) (hspent : Spent world id) :
    Spent { world with funding := table } id := by
  obtain ⟨row, hget, hrequired, hsubmitted, hreserved⟩ := hspent
  rcases hattempt.get_of_some hget with hsame | ⟨clock, write, hop, hguard, hnext⟩
  · exact ⟨row, hsame, hrequired, hsubmitted, hreserved⟩
  · have hchange := W5hOp.changes_of_guard hop hguard
    rcases changes_spent hchange hrequired hsubmitted hreserved with
      ⟨other, reason, rfl⟩ | hstatus
    · obtain ⟨rfl, _⟩ := Statement.update.inj hop
      exact absurd rfl hrelease
    · exact ⟨_, hnext, hstatus⟩

/-- A call keeps every row spent that it does not release. -/
theorem spent_step {id : String} (hstep : mcpStep platform world ⟨op, answer⟩ after)
    (hrelease : op.bearing ≠ .release id) (hspent : Spent world id) : Spent after id := by
  cases op with
  | funding op =>
      obtain ⟨table, hattempt, rfl⟩ := hstep
      exact spent_funding hattempt hrelease hspent
  | rules op =>
      obtain ⟨table, _, rfl⟩ := hstep
      exact hspent
  | sendTransaction =>
      rw [show after = _ from hstep]
      exact hspent
  | _ =>
      rw [show after = world from hstep]
      exact hspent

/-- Every call but a send leaves the counts alone. -/
theorem sends_step (hstep : mcpStep platform world ⟨op, answer⟩ after)
    (hsend : ∀ id, op.bearing ≠ .send id) : after.sends = world.sends := by
  cases op with
  | funding op =>
      obtain ⟨table, _, rfl⟩ := hstep
      rfl
  | rules op =>
      obtain ⟨table, _, rfl⟩ := hstep
      rfl
  | sendTransaction id => exact absurd rfl (hsend id)
  | _ => rw [show after = world from hstep]

/-- A send counts one more for its intent. -/
theorem sends_send {id : String} (hstep : mcpStep platform world ⟨op, answer⟩ after)
    (hsend : op.bearing = .send id) :
    after.sends = Function.update world.sends id (world.sends id + 1) := by
  cases op with
  | sendTransaction other =>
      obtain rfl := LeaseBearing.send.inj hsend
      rw [show after = _ from hstep]
  | funding op => cases op <;> cases hsend
  | _ => cases hsend

/-- A granted lease found its row reserved and leaves it spent. -/
theorem spent_granted {id : String} (hstep : mcpStep platform world ⟨op, answer⟩ after)
    (hgranted : granted op answer = some id) : ¬ Spent world id ∧ Spent after id := by
  unfold granted at hgranted
  split at hgranted
  next other nowMs =>
    obtain rfl := Option.some.inj hgranted
    obtain ⟨table, hattempt, rfl⟩ := hstep
    obtain ⟨clock, hresult, htable⟩ := hattempt.of_ok
    have haffected := Except.ok.inj hresult
    obtain ⟨row, hget, hguard⟩ := (Table.update_affected _ _ _).mp haffected
    have hreserved : row.status = .budgetReserved := by
      simp only [W5hWrite.leaseExecutionIfBudgetReserved, decide_eq_true_eq] at hguard
      exact hguard.1
    constructor
    · intro hspent
      obtain ⟨other, hother, _, _, hne⟩ := hspent
      rw [hget, Option.some.injEq] at hother
      exact hne (hother ▸ hreserved)
    · have hset : table.get other =
          some ((W5hWrite.leaseExecutionIfBudgetReserved nowMs).set row) := by
        rw [htable]
        change (Table.update world.funding other _).1.get other = _
        rw [Table.get_update_self, hget, Option.map_some, Update.onRow_of_guard _ hguard]
      exact ⟨_, hset, by simp [W5hWrite.leaseExecutionIfBudgetReserved]⟩
  next => cases hgranted

/-! ## The discipline of the callers -/

inductive LeasePhase where
  | idle
  /-- The lease is held and nothing was sent under it. -/
  | holding (intentId : String)
  | finished
  deriving DecidableEq, Inhabited

/-- Lease when idle; send or release only one's own lease, once. -/
def leaseDiscipline : Discipline mcpFace LeasePhase where
  allows phase op :=
    match op.bearing with
    | .lease _ => phase = .idle
    | .release id | .send id => phase = .holding id
    | .neutral => True
  next phase op answer :=
    match granted op answer with
    | some id => .holding id
    | none =>
        match op.bearing with
        | .release _ | .send _ => .finished
        | .lease _ | .neutral => phase

theorem allows_lease {phase : LeasePhase} {id : String} (hbearing : op.bearing = .lease id) :
    leaseDiscipline.allows phase op ↔ phase = .idle := by
  simp only [leaseDiscipline, hbearing]

theorem allows_release {phase : LeasePhase} {id : String} (hbearing : op.bearing = .release id) :
    leaseDiscipline.allows phase op ↔ phase = .holding id := by
  simp only [leaseDiscipline, hbearing]

theorem allows_send {phase : LeasePhase} {id : String} (hbearing : op.bearing = .send id) :
    leaseDiscipline.allows phase op ↔ phase = .holding id := by
  simp only [leaseDiscipline, hbearing]

theorem next_granted {phase : LeasePhase} {id : String} (hgranted : granted op answer = some id) :
    leaseDiscipline.next phase op answer = .holding id := by
  simp only [leaseDiscipline, hgranted]

theorem next_kept {phase : LeasePhase} (hgranted : granted op answer = none)
    (hrelease : ∀ id, op.bearing ≠ .release id) (hsend : ∀ id, op.bearing ≠ .send id) :
    leaseDiscipline.next phase op answer = phase := by
  simp only [leaseDiscipline, hgranted]
  split <;> first | rfl | simp_all

theorem granted_eq_none (hlease : ∀ id, op.bearing ≠ .lease id) : granted op answer = none := by
  cases hgranted : granted op answer with
  | none => rfl
  | some id => exact absurd (bearing_of_granted hgranted) (hlease id)

theorem next_release {phase : LeasePhase} {id : String} (hbearing : op.bearing = .release id) :
    leaseDiscipline.next phase op answer = .finished := by
  have hgranted : granted op answer = none := granted_eq_none (by simp [hbearing])
  simp only [leaseDiscipline, hgranted, hbearing]

theorem next_send {phase : LeasePhase} {id : String} (hbearing : op.bearing = .send id) :
    leaseDiscipline.next phase op answer = .finished := by
  have hgranted : granted op answer = none := granted_eq_none (by simp [hbearing])
  simp only [leaseDiscipline, hgranted, hbearing]

/-! ## The invariant of the pool -/

/-- Every intent was sent at most once, and one that was sent is spent. -/
def BroadcastsBounded (world : World) : Prop :=
  ∀ id, world.sends id ≤ 1 ∧ (world.sends id = 1 → Spent world id)

/-- A lease is held before any send, on a spent row. -/
def LeaseHeld (phase : LeasePhase) (world : World) : Prop :=
  ∀ id, phase = .holding id → world.sends id = 0 ∧ Spent world id

/-- No two callers hold the same lease. -/
def LeasesApart (left right : LeasePhase) : Prop :=
  ∀ id, left = .holding id → right ≠ .holding id

theorem broadcastsBounded_step {phase : LeasePhase} (hinv : BroadcastsBounded world)
    (hheld : LeaseHeld phase world) (hallows : leaseDiscipline.allows phase op)
    (hstep : mcpStep platform world ⟨op, answer⟩ after) : BroadcastsBounded after := by
  intro id
  cases hbearing : op.bearing with
  | lease other | neutral =>
      rw [sends_step hstep (by simp [hbearing])]
      exact ⟨(hinv id).1, fun hsent => spent_step hstep (by simp [hbearing]) ((hinv id).2 hsent)⟩
  | release other =>
      rw [sends_step hstep (by simp [hbearing])]
      refine ⟨(hinv id).1, fun hsent => ?_⟩
      have hunsent := (hheld other ((allows_release hbearing).mp hallows)).1
      have hne : other ≠ id := by
        intro heq
        rw [heq, hsent] at hunsent
        cases hunsent
      exact spent_step hstep (by simp [hbearing, hne]) ((hinv id).2 hsent)
  | send other =>
      obtain ⟨hunsent, hspent⟩ := hheld other ((allows_send hbearing).mp hallows)
      rw [sends_send hstep hbearing]
      by_cases heq : id = other
      · subst heq
        rw [Function.update_self, hunsent]
        exact ⟨le_rfl, fun _ => spent_step hstep (by simp [hbearing]) hspent⟩
      · rw [Function.update_of_ne heq]
        exact ⟨(hinv id).1, fun hsent => spent_step hstep (by simp [hbearing]) ((hinv id).2 hsent)⟩

theorem leaseHeld_step {phase : LeasePhase} (hinv : BroadcastsBounded world)
    (hheld : LeaseHeld phase world) (hallows : leaseDiscipline.allows phase op)
    (hstep : mcpStep platform world ⟨op, answer⟩ after) :
    LeaseHeld (leaseDiscipline.next phase op answer) after := by
  intro id hnext
  cases hbearing : op.bearing with
  | lease other =>
      cases hgranted : granted op answer with
      | none =>
          rw [next_kept hgranted (by simp [hbearing]) (by simp [hbearing]),
            (allows_lease hbearing).mp hallows] at hnext
          cases hnext
      | some taken =>
          rw [next_granted hgranted] at hnext
          obtain rfl := LeasePhase.holding.inj hnext
          obtain ⟨hbefore, hspent⟩ := spent_granted hstep hgranted
          rw [sends_step hstep (by simp [hbearing])]
          have hone := (hinv taken).1
          have hunsent : world.sends taken ≠ 1 := fun hsent => hbefore ((hinv taken).2 hsent)
          exact ⟨by omega, hspent⟩
  | neutral =>
      rw [next_kept (granted_eq_none (by simp [hbearing])) (by simp [hbearing])
        (by simp [hbearing])] at hnext
      rw [sends_step hstep (by simp [hbearing])]
      exact ⟨(hheld id hnext).1, spent_step hstep (by simp [hbearing]) (hheld id hnext).2⟩
  | release other =>
      rw [next_release hbearing] at hnext
      cases hnext
  | send other =>
      rw [next_send hbearing] at hnext
      cases hnext

/-- What a caller holds survives the calls of every other caller. -/
theorem leaseHeld_frame {phase other : LeasePhase} (hother : LeaseHeld other world)
    (hapart : LeasesApart phase other) (hallows : leaseDiscipline.allows phase op)
    (hstep : mcpStep platform world ⟨op, answer⟩ after) : LeaseHeld other after := by
  intro id hid
  obtain ⟨hunsent, hspent⟩ := hother id hid
  cases hbearing : op.bearing with
  | lease taken | neutral =>
      rw [sends_step hstep (by simp [hbearing])]
      exact ⟨hunsent, spent_step hstep (by simp [hbearing]) hspent⟩
  | release freed =>
      have hne : freed ≠ id := by
        intro heq
        exact hapart id (heq ▸ (allows_release hbearing).mp hallows) hid
      rw [sends_step hstep (by simp [hbearing])]
      exact ⟨hunsent, spent_step hstep (by simp [hbearing, hne]) hspent⟩
  | send sent =>
      have hne : id ≠ sent := by
        intro heq
        exact hapart id (heq ▸ (allows_send hbearing).mp hallows) hid
      rw [sends_send hstep hbearing, Function.update_of_ne hne]
      exact ⟨hunsent, spent_step hstep (by simp [hbearing]) hspent⟩

theorem leasesApart_step {phase other : LeasePhase} (hother : LeaseHeld other world)
    (hapart : LeasesApart phase other) (hstep : mcpStep platform world ⟨op, answer⟩ after) :
    LeasesApart (leaseDiscipline.next phase op answer) other := by
  intro id hnext hid
  cases hgranted : granted op answer with
  | some taken =>
      rw [next_granted hgranted] at hnext
      obtain rfl := LeasePhase.holding.inj hnext
      exact (spent_granted hstep hgranted).1 (hother taken hid).2
  | none =>
      cases hbearing : op.bearing with
      | lease | neutral =>
          rw [next_kept hgranted (by simp [hbearing]) (by simp [hbearing])] at hnext
          exact hapart id hnext hid
      | release =>
          rw [next_release hbearing] at hnext
          cases hnext
      | send =>
          rw [next_send hbearing] at hnext
          cases hnext

def leaseInvariant (platform : Platform) :
    PoolInvariant (mcpStep platform) leaseDiscipline where
  inv := BroadcastsBounded
  holds := LeaseHeld
  compat := LeasesApart
  compat_symm happart id hright hleft := happart id hleft hright
  step hinv hheld hallows hstep :=
    ⟨broadcastsBounded_step hinv hheld hallows hstep, leaseHeld_step hinv hheld hallows hstep⟩
  frame _ _ hother hapart hallows hstep :=
    ⟨leaseHeld_frame hother hapart hallows hstep, leasesApart_step hother hapart hstep⟩

/-! ## The worker keeps the discipline -/

variable {α : Type} {post : LeasePhase → α → Prop} {phase : LeasePhase}

/-- A neutral call is always permitted and keeps the phase. -/
theorem follows_neutral {rest : op.Answer → Program mcpFace α} (hneutral : op.bearing = .neutral)
    (hrest : ∀ answer, (rest answer).Follows leaseDiscipline post phase) :
    (request op >>= rest).Follows leaseDiscipline post phase := by
  rw [request_bind, follows_call]
  refine ⟨by simp only [leaseDiscipline, hneutral], fun answer => ?_⟩
  rw [next_kept (granted_eq_none (by simp [hneutral])) (by simp [hneutral]) (by simp [hneutral])]
  exact hrest answer

/-- Something may have been sent. -/
def NetworkOutcome.broadcast : NetworkOutcome → Bool
  | .preBroadcastFailure _ => false
  | .finalized .. | .onChainFailed .. | .unknown .. => true

/-- A round that ends the polling ends it with a broadcast. -/
def PollRound.Broadcast {seen deadline : Nat} (round : PollRound seen deadline) : Prop :=
  ∀ outcome, round = .stop outcome → outcome.broadcast = true

theorem broadcast_unknown {seen deadline : Nat} (signature : Signature) (errorClass : String) :
    (PollRound.stop (FinalityTracker.unknown signature errorClass) :
      PollRound seen deadline).Broadcast := by
  intro outcome houtcome
  obtain rfl := PollRound.stop.inj houtcome
  rfl

theorem broadcast_afterPollError {seen deadline : Nat} (signature : Signature)
    (errorClass : String) (consecutiveErrors now : Nat) (hlater : seen < now)
    (hopen : now < deadline) :
    (afterPollError signature errorClass consecutiveErrors now hlater hopen).Broadcast := by
  unfold afterPollError
  split
  · exact broadcast_unknown signature errorClass
  · intro outcome houtcome
    cases houtcome

theorem broadcast_observe {signature : Signature} {status : Option SolanaCore.TransactionStatus}
    {outcome : NetworkOutcome}
    (hobserve : FinalityTracker.observe signature status = some outcome) :
    outcome.broadcast = true := by
  unfold FinalityTracker.observe at hobserve
  split at hobserve
  · cases hobserve
  · obtain rfl := Option.some.inj hobserve
    rfl
  · obtain rfl := Option.some.inj hobserve
    rfl

/-- Polling makes neutral calls only. -/
theorem pollOnce_follows (signature : Signature) (deadline seen : Nat) (backoff : Backoff)
    (consecutiveErrors : Nat) :
    (pollOnce signature deadline seen backoff consecutiveErrors).Follows leaseDiscipline
      (fun last round => last = phase ∧ round.Broadcast) phase := by
  apply follows_neutral rfl
  intro before
  split
  · exact ⟨rfl, broadcast_unknown _ _⟩
  · apply follows_neutral rfl
    intro _
    apply follows_neutral rfl
    intro woken
    split
    · exact ⟨rfl, broadcast_unknown _ _⟩
    · apply follows_neutral rfl
      intro client
      cases client with
      | error => exact ⟨rfl, broadcast_afterPollError _ _ _ _ _ _⟩
      | ok =>
          apply follows_neutral rfl
          intro statuses
          cases statuses with
          | error => exact ⟨rfl, broadcast_afterPollError _ _ _ _ _ _⟩
          | ok statuses =>
              dsimp only
              split
              next outcome hobserve =>
                refine ⟨rfl, fun ended hended => ?_⟩
                obtain rfl := PollRound.stop.inj hended
                exact broadcast_observe hobserve
              next =>
                refine ⟨rfl, fun ended hended => ?_⟩
                cases hended

theorem pollLoop_follows (signature : Signature) (deadline seen : Nat) (backoff : Backoff)
    (consecutiveErrors : Nat) :
    (pollLoop signature deadline seen backoff consecutiveErrors).Follows leaseDiscipline
      (fun last outcome => last = phase ∧ outcome.broadcast = true) phase := by
  -- Each round ends the loop or moves the clock closer to the deadline.
  induction hleft : deadline - seen using Nat.strong_induction_on
    generalizing seen backoff consecutiveErrors with
  | _ left ih =>
      rw [pollLoop, follows_bind]
      apply (pollOnce_follows signature deadline seen backoff consecutiveErrors).mono
      intro last round hround
      cases round with
      | stop outcome => exact ⟨hround.1, hround.2 outcome rfl⟩
      | again now hlater hopen errors =>
          rw [hround.1]
          exact ih (deadline - now) (by omega) now (nextBackoff backoff) errors rfl

theorem pollFinalized_follows (signature : Signature) :
    (pollFinalized signature).Follows leaseDiscipline
      (fun last outcome => last = phase ∧ outcome.broadcast = true) phase := by
  apply follows_neutral rfl
  intro start
  exact pollLoop_follows ..

/-- Where a submission leaves the worker: only an outcome before the broadcast
leaves it in possession of its lease. -/
def AfterSubmission (intentId : String) (phase : LeasePhase) (outcome : NetworkOutcome) : Prop :=
  phase = if outcome.broadcast then .finished else .holding intentId

theorem afterSubmission_polled {intentId : String} {last : LeasePhase} {outcome : NetworkOutcome}
    (hpolled : last = .finished ∧ outcome.broadcast = true) :
    AfterSubmission intentId last outcome := by
  rw [AfterSubmission, hpolled.2, hpolled.1]
  rfl

/-- The one send of a submission uses up the lease. -/
theorem submitTransaction_follows (intentId : String) (signedTxBytes : List UInt8)
    (lastValidBlockHeight : UInt64) :
    (submitTransaction platform intentId signedTxBytes lastValidBlockHeight).Follows
      leaseDiscipline
      (fun last submitted => last =
        if submitted = .error .deserializationError then .holding intentId else .finished)
      (.holding intentId) := by
  unfold submitTransaction
  cases platform.deserializeTransaction signedTxBytes with
  | none => exact rfl
  | some tx =>
      dsimp only
      rw [request_bind, follows_call]
      refine ⟨(allows_send rfl).mpr rfl, fun answer => ?_⟩
      rw [next_send rfl]
      cases answer with
      | error => exact rfl
      | ok signature =>
          apply follows_neutral rfl
          intro height
          cases height <;> exact rfl

theorem submitOnceAndObserve_follows (intentId : String) (payload : ReviewedSignedPayload) :
    (submitOnceAndObserve platform intentId payload).Follows leaseDiscipline
      (AfterSubmission intentId) (.holding intentId) := by
  apply follows_neutral rfl
  intro client
  cases client with
  | error => exact rfl
  | ok =>
      rw [follows_bind]
      apply (submitTransaction_follows ..).mono
      intro last submitted hlast
      cases submitted with
      | error error =>
          cases error with
          | deserializationError =>
              rw [hlast]
              exact rfl
          | rpcError =>
              rw [hlast]
              exact rfl
          | heightFetchError =>
              rw [hlast]
              exact (pollFinalized_follows payload.signature).mono
                fun _ _ => afterSubmission_polled
      | ok submitted =>
          rw [hlast, if_neg (by simp)]
          dsimp only
          split
          · exact rfl
          · exact (pollFinalized_follows payload.signature).mono
              fun _ _ => afterSubmission_polled

theorem reportRelease_follows (candidate : RevalidatedExecutionCandidate)
    (successStatus originalError : String) (abortRemainingCycle : Bool) :
    (reportRelease candidate successStatus originalError abortRemainingCycle).Follows
      leaseDiscipline (fun _ _ => True) (.holding candidate.intentId) := by
  unfold reportRelease ExecutionState.releasePrebroadcastFailure
  rw [follows_bind, request_bind, follows_call]
  refine ⟨(allows_release rfl).mpr rfl, fun answer => ?_⟩
  cases answer with
  | error => exact trivial
  | ok count =>
      dsimp only
      split <;> exact trivial

/-- A lease still held is released; otherwise the store is only told. -/
theorem recordOutcome_follows (candidate : RevalidatedExecutionCandidate) {last : LeasePhase}
    {outcome : NetworkOutcome} (hlast : AfterSubmission candidate.intentId last outcome) :
    (recordOutcome candidate outcome).Follows leaseDiscipline (fun _ _ => True) last := by
  cases outcome with
  | preBroadcastFailure errorClass =>
      rw [show last = .holding candidate.intentId from hlast]
      exact reportRelease_follows ..
  | unknown => exact trivial
  | onChainFailed =>
      unfold recordOutcome ExecutionState.markOnchainFailed
      rw [follows_bind]
      apply follows_neutral rfl
      intro answer
      cases answer with
      | error => exact trivial
      | ok count =>
          dsimp only
          split <;> exact trivial
  | finalized =>
      unfold recordOutcome ExecutionState.markFinalized
      rw [follows_bind]
      apply follows_neutral rfl
      intro answer
      split
      · apply follows_neutral rfl
        intro second
        split <;> exact trivial
      · exact trivial
      · exact trivial

theorem executeLeased_follows (candidate : RevalidatedExecutionCandidate) :
    (executeLeased platform candidate).Follows leaseDiscipline (fun _ _ => True)
      (.holding candidate.intentId) := by
  apply follows_neutral rfl
  intro reviewed
  cases reviewed with
  | error => exact reportRelease_follows ..
  | ok payload =>
      dsimp only
      rw [follows_bind]
      apply (submitOnceAndObserve_follows candidate.intentId payload).mono
      exact fun _ _ => recordOutcome_follows candidate

/-- A worker takes its lease first, and keeps the discipline from there. -/
theorem executeRevalidatedCandidate_follows (candidate : RevalidatedExecutionCandidate) :
    (executeRevalidatedCandidate platform candidate).Follows leaseDiscipline (fun _ _ => True)
      .idle := by
  apply follows_neutral rfl
  intro leaseNowMs
  unfold ExecutionState.leaseAfterFinalRevalidation
  rw [follows_bind, request_bind, follows_call]
  refine ⟨(allows_lease rfl).mpr rfl, fun answer => ?_⟩
  split
  · exact executeLeased_follows candidate
  · exact trivial
  · exact trivial

/-! ## Every interleaving -/

/-- What a caller of the store may run: a worker on any candidate, or any one
repository call that neither takes nor gives back an execution lease. -/
inductive ExecutePoolEntry (platform : Platform) :
    Program mcpFace (Option ExecutionAttemptReport) → Prop
  | worker (candidate : RevalidatedExecutionCandidate) :
      ExecutePoolEntry platform
        (executeRevalidatedCandidate platform candidate >>= fun report => pure (some report))
  | funding (op : W5hOp) : (McpOp.funding op).bearing = .neutral →
      ExecutePoolEntry platform (request (.funding op) >>= fun _ => pure none)
  | rules (op : WatchRuleOp) :
      ExecutePoolEntry platform (request (.rules op) >>= fun _ => pure none)

theorem ExecutePoolEntry.follows {program : Program mcpFace (Option ExecutionAttemptReport)}
    (hentry : ExecutePoolEntry platform program) :
    program.Follows leaseDiscipline (fun _ _ => True) .idle := by
  cases hentry with
  | worker candidate =>
      rw [follows_bind]
      exact (executeRevalidatedCandidate_follows candidate).mono fun _ _ _ => trivial
  | funding op hneutral => exact follows_neutral hneutral fun _ => trivial
  | rules op => exact follows_neutral rfl fun _ => trivial

theorem broadcastsBounded_unsent (funding : W5hFundingTable) (rules : WatchRuleTable) :
    BroadcastsBounded (.unsent funding rules) := by
  intro id
  exact ⟨Nat.zero_le _, fun hsent => by cases hsent⟩

variable {Caller : Type} [DecidableEq Caller]

theorem leasesAssigned {funding : W5hFundingTable} {rules : WatchRuleTable}
    {pool : Pool mcpFace World Caller (Option ExecutionAttemptReport)}
    (hreaches : Pool.Reaches (mcpStep platform) (ExecutePoolEntry platform)
      (.initial (.unsent funding rules)) pool) :
    (leaseInvariant platform).Good (fun _ _ => True) pool := by
  have hinitial : (leaseInvariant platform).Good (fun _ _ => True)
      (.initial (.unsent funding rules) :
        Pool mcpFace World Caller (Option ExecutionAttemptReport)) :=
    (leaseInvariant platform).good_initial _ (broadcastsBounded_unsent funding rules)
  have hheld : ∀ world, LeaseHeld .idle world := fun _ _ hidle => by cases hidle
  have hapart : ∀ phase, LeasesApart .idle phase := fun _ _ hidle => by cases hidle
  exact PoolInvariant.Good.reaches (fun _ hentry => hentry.follows) (fun _ => hheld)
    (fun _ => hapart) hinitial hreaches

/-- For every interleaving of any number of workers and other store users,
every answer of the store, the wallet and the network, and a crash of any
caller anywhere: at most one transaction is ever sent for an intent, and an
execution lease is given back only while none has been sent for it. -/
theorem at_most_one_broadcast {funding : W5hFundingTable} {rules : WatchRuleTable}
    {pool : Pool mcpFace World Caller (Option ExecutionAttemptReport)}
    (hreaches : Pool.Reaches (mcpStep platform) (ExecutePoolEntry platform)
      (.initial (.unsent funding rules)) pool) :
    (∀ id, pool.world.sends id ≤ 1) ∧
    ∀ next id row released,
      Pool.Step (mcpStep platform) (ExecutePoolEntry platform) pool next →
      pool.world.funding.get id = some row → row.status = .executing →
      next.world.funding.get id = some released → released.status = .budgetReserved →
      next.world.sends id = 0 := by
  obtain ⟨phases, hassigned⟩ := leasesAssigned hreaches
  refine ⟨fun id => (hassigned.inv id).1, ?_⟩
  intro next id row released hstep hget hexecuting hnext hreserved
  have hspent : Spent pool.world id := ⟨row, hget, by simp [hexecuting]⟩
  have hunspent : ¬ Spent next.world id := by
    intro hspent
    obtain ⟨other, hother, _, _, hne⟩ := hspent
    rw [hnext, Option.some.injEq] at hother
    exact hne (hother ▸ hreserved)
  cases hstep with
  | start => exact absurd hspent hunspent
  | crash => exact absurd hspent hunspent
  | @act after op resume caller answer hcall hsem =>
      -- Only a release by the holder of the lease makes the row reserved again.
      have hrelease : op.bearing = .release id := by
        by_contra hne
        exact hunspent (spent_step hsem hne hspent)
      have hallows := (hassigned.follows caller _ hcall).1
      have hholding := (allows_release hrelease).mp hallows
      have hsends : after.sends = pool.world.sends := sends_step hsem (by simp [hrelease])
      change after.sends id = 0
      rw [hsends]
      exact (hassigned.holds caller _ hcall id hholding).1

/-! ## A run that sends -/

def samplePlan : Executor.ValidatedSolendPlanInputs :=
  let key (byte : UInt8) : Types.PubkeyBytes := ⟨Bytes.filled 32 byte⟩
  { solendProgramId := key 1
    inputMint := key 2
    inputAmountRaw := 500000
    sourceLiquidity := key 3
    userCollateral := key 4
    reserve := key 5
    reserveLiquiditySupply := key 6
    reserveCollateralMint := key 7
    lendingMarket := key 8
    destinationDepositCollateral := key 9
    obligation := key 10
    obligationOwner := key 11
    pythOracle := key 12
    switchboardOracle := key 13
    userTransferAuthority := key 11
    tokenProgram := key 14
    report := .bare .ready [] 4000 (some 419000002) }

def sampleCandidate : RevalidatedExecutionCandidate where
  intentId := sampleIntent.intentId
  ruleId := Bytes.filled 16 0
  amountRaw := 500000
  plan := samplePlan

def sampleSigned : SolanaCore.Transaction where
  signatures := [Bytes.filled 64 7]
  message := ⟨⟨1, 0, 0⟩, [⟨Bytes.filled 32 11⟩], Bytes.filled 32 0, []⟩

def samplePayload : ReviewedSignedPayload where
  signedTransactionBytes := SolanaCore.Transaction.codec.encode sampleSigned
  signature := ⟨List.replicate 64 7, rfl⟩
  lastValidBlockHeight := 1000

def broadcastPlatform : Platform where
  json := .hex
  associatedTokenAddress wallet _ := wallet
  deserializeTransaction := SolanaCore.Transaction.deserialize

def sampleFunded : World := .unsent (w5hStore.after reservedRun) .empty

def sampleSent : World where
  funding := sampleFunded.funding.execute
    (W5hOp.statement 0 (.leaseExecutionIfBudgetReserved sampleIntent.intentId 4000))
  rules := .empty
  sends := Function.update (fun _ => 0) sampleIntent.intentId 1

def sampleReport : ExecutionAttemptReport :=
  { ExecutionAttemptReport.base sampleCandidate with
    status := "result_unknown_manual_reconciliation_required"
    signature := some samplePayload.signature.text
    errorClass := some "send_result_unknown"
    fundingState := "executing" }

/-- A worker takes the lease, sends, and loses the answer of the send. -/
theorem executes_broadcast :
    Executes (mcpStep broadcastPlatform) sampleFunded
      (executeRevalidatedCandidate broadcastPlatform sampleCandidate >>=
        fun report => pure (some report)) sampleSent (some sampleReport) := by
  have hdecode : broadcastPlatform.deserializeTransaction samplePayload.signedTransactionBytes =
      some sampleSigned := SolanaCore.Transaction.deserialize_encode sampleSigned
  refine .call (4000 : Int64) rfl ?_
  refine .call (.ok 1) ⟨_, .answered 0, rfl⟩ ?_
  refine .call (.ok samplePayload) rfl ?_
  refine .call (.ok ()) rfl ?_
  simp only [submitTransaction, hdecode]
  exact .call (.error ()) rfl (.done _ _)

theorem at_most_one_broadcast_sample :
    sampleSent.sends sampleIntent.intentId = 1 ∧ ∀ id, sampleSent.sends id ≤ 1 := by
  let first : Pool mcpFace World Unit (Option ExecutionAttemptReport) := .initial sampleFunded
  have hstart : Pool.Reaches (mcpStep broadcastPlatform) (ExecutePoolEntry broadcastPlatform)
      first first := .refl
  have hidle : first.callers () = none := rfl
  have hreaches := hstart.start_run hidle (.worker sampleCandidate) executes_broadcast
  exact ⟨rfl, (at_most_one_broadcast hreaches).1⟩

end SolFrontier.Mcp
