import SolFrontier.Mcp.Revalidation
import SolFrontier.Mcp.ReviewedMessage
import SolFrontier.Mcp.SingleBroadcast

/-! # The execute-mode process

A cycle scans, reports the scan, and works through the ready intents of a
complete scan one after the other. Each of them is inspected once more right
before its worker may take the lease. A report that cannot be printed ends the
cycle.
-/

namespace SolFrontier.Mcp

open Foundation Types SolanaCore StateStore Executor Protocols Program

/-! ## The calls of a process -/

/-- The calls of a process: those of its workers, the scan of a cycle, the
inspection of a row that was read again, and the reports it prints. The chain
and the clocks are read within a scan or an inspection. -/
inductive ExecuteOp where
  | worker (op : McpOp)
  | scan
  | emitCycle (report : WatchCycleReport)
  | inspect (funding : W5hFundingIntent)
  | emitAttempt (report : ExecutionAttemptReport)
  deriving DecidableEq, Repr

abbrev ExecuteOp.Answer : ExecuteOp → Type
  | worker op => op.Answer
  | scan => WatchCycleReport
  | emitCycle _ | emitAttempt _ => Except Unit Unit
  | inspect _ => CandidateInspection

abbrev executeFace : Interface := ⟨ExecuteOp, ExecuteOp.Answer⟩

def workerPort : Port mcpFace executeFace := ⟨.worker, fun _ => .refl _⟩

namespace ExecuteOp

def request (op : ExecuteOp) : Program executeFace op.Answer := @perform executeFace op

@[simp] theorem request_bind {α : Type} (op : ExecuteOp)
    (rest : op.Answer → Program executeFace α) : (op.request >>= rest) = .call op rest := rfl

end ExecuteOp

/-! ## The program -/

/-- Read the row of an intent again and inspect it. -/
def revalidateOne (intentId : String) : Program executeFace CandidateInspection := do
  let blocked status errorClass : CandidateInspection :=
    .blocked (.error status errorClass (some intentId) (some intentId))
  match ← (ExecuteOp.worker (.funding (.get intentId))).request with
  | .ok (some funding) => (ExecuteOp.inspect funding).request
  | .ok none => pure (blocked "candidate_missing" "funding_row_no_longer_budget_reserved")
  | .error _ => pure (blocked "funding_read_error" "state_store_read_failed")

/-- Cross the lease boundary only with the candidate of the inspection. -/
def executeFromFinalRevalidation (platform : Platform) (inspection : CandidateInspection)
    (expectedIntentId : String) :
    Program executeFace (Except CandidateArtifactError ExecutionAttemptReport) :=
  match revalidatedCandidate inspection expectedIntentId with
  | .error error => pure (.error error)
  | .ok candidate => do
      let attempt ← (executeRevalidatedCandidate platform candidate).via workerPort
      pure (.ok attempt)

/-- Work through the ready intents; the result says whether the cycle was aborted. -/
def executeReadyIntents (platform : Platform) : List String → Program executeFace Bool
  | [] => pure false
  | intentId :: rest => do
      let inspection ← revalidateOne intentId
      match ← executeFromFinalRevalidation platform inspection intentId with
      | .error _ => executeReadyIntents platform rest
      | .ok attempt =>
          match ← (ExecuteOp.emitAttempt attempt).request with
          | .error _ => pure true
          | .ok _ =>
              if executionAttemptAbortsCycle attempt then pure true
              else executeReadyIntents platform rest

/-- One cycle: nothing is leased unless the scan was printed and is complete. -/
def executeCycle (platform : Platform) : Program executeFace Bool := do
  let report ← ExecuteOp.scan.request
  match ← (ExecuteOp.emitCycle report).request with
  | .error _ => pure false
  | .ok _ =>
      match executeReadyIntentIds report with
      | .error _ => pure false
      | .ok intentIds => executeReadyIntents platform intentIds

/-- The first cycles of a process; it runs one with `--once` and goes on without
end otherwise. -/
def runExecuteWatch (platform : Platform) : Nat → Program executeFace Unit
  | 0 => pure ()
  | cycles + 1 => do
      let _ ← executeCycle platform
      runExecuteWatch platform cycles

/-! ## What a process keeps to -/

/-- A call that only prints or scans. -/
def ExecuteOp.isReporting : ExecuteOp → Bool
  | scan | emitCycle _ | emitAttempt _ => true
  | worker _ | inspect _ => false

/-- One attempt at an intent, and every report, maintain a condition on the
phase of a discipline. -/
structure Maintains {Phase : Type} (platform : Platform) (discipline : Discipline executeFace Phase)
    (holds : Phase → Prop) : Prop where
  attempt : ∀ intentId phase, holds phase →
    (revalidateOne intentId).Follows discipline (fun middle inspection =>
      (executeFromFinalRevalidation platform inspection intentId).Follows discipline
        (fun last _ => holds last) middle) phase
  report : ∀ op phase, op.isReporting = true → holds phase →
    discipline.allows phase op ∧ ∀ answer, holds (discipline.next phase op answer)

section

variable {Phase : Type} {platform : Platform} {discipline : Discipline executeFace Phase}
  {holds : Phase → Prop} {phase : Phase}

theorem Maintains.readyIntents (hmaintains : Maintains platform discipline holds)
    (intentIds : List String) (hphase : holds phase) :
    (executeReadyIntents platform intentIds).Follows discipline (fun last _ => holds last)
      phase := by
  induction intentIds generalizing phase with
  | nil => exact hphase
  | cons intentId rest ih =>
      rw [executeReadyIntents, follows_bind]
      apply (hmaintains.attempt intentId phase hphase).mono
      intro middle inspection hattempt
      rw [follows_bind]
      apply hattempt.mono
      intro last result hlast
      cases result with
      | error error => exact ih hlast
      | ok attempt =>
          obtain ⟨hallows, hnext⟩ := hmaintains.report (.emitAttempt attempt) last rfl hlast
          refine ⟨hallows, fun answer => ?_⟩
          cases answer with
          | error => exact hnext _
          | ok =>
              dsimp only
              split
              next => exact hnext _
              next => exact ih (hnext _)

theorem Maintains.cycle (hmaintains : Maintains platform discipline holds) (hphase : holds phase) :
    (executeCycle platform).Follows discipline (fun last _ => holds last) phase := by
  obtain ⟨hscan, hscanned⟩ := hmaintains.report .scan phase rfl hphase
  refine ⟨hscan, fun report => ?_⟩
  obtain ⟨hemit, hemitted⟩ := hmaintains.report (.emitCycle report) _ rfl (hscanned report)
  refine ⟨hemit, fun answer => ?_⟩
  cases answer with
  | error => exact hemitted _
  | ok =>
      dsimp only
      split
      next => exact hemitted _
      next intentIds _ => exact hmaintains.readyIntents intentIds (hemitted _)

/-- What every attempt and every report maintain, every run of cycles does. -/
theorem Maintains.process (hmaintains : Maintains platform discipline holds) (cycles : Nat)
    (hphase : holds phase) :
    (runExecuteWatch platform cycles).Follows discipline (fun last _ => holds last) phase := by
  induction cycles generalizing phase with
  | zero => exact hphase
  | succ cycles ih =>
      rw [runExecuteWatch, follows_bind]
      exact (hmaintains.cycle hphase).mono fun last _ hlast => ih hlast

end

/-! ## The backend of a worker -/

/-- What a process takes from other packages, and the controlled wallet's key. -/
structure ExecutePlatform where
  json : RuleJson
  associatedTokenAddress : PubkeyBytes → PubkeyBytes → PubkeyBytes
  review : ReviewPlatform
  findProgramAddress : FindProgramAddress
  unpackTokenAccount : List UInt8 → Option SplTokenAccount
  controlledWallet : PubkeyBytes

namespace ExecutePlatform

def store (platform : ExecutePlatform) : Platform where
  json := platform.json
  associatedTokenAddress := platform.associatedTokenAddress
  deserializeTransaction := Transaction.deserialize

def scan (platform : ExecutePlatform) : ScanPlatform where
  json := platform.json
  sdk := platform.review.sdk
  findProgramAddress := platform.findProgramAddress
  unpackTokenAccount := platform.unpackTokenAccount

end ExecutePlatform

/-- The unsigned transaction of a leased candidate, once its report was printed.
No result is a panic. -/
def transactionAfterVisibleReview (platform : ExecutePlatform)
    (plan : ValidatedSolendPlanInputs) (emitted : Except Unit Unit) :
    Option (Except String (Transaction × UnsignedTransactionReport)) :=
  (buildUnsignedTransaction platform.review.sdk platform.findProgramAddress plan).map fun built =>
    match built, emitted with
    | .error errorClass, _ => .error errorClass
    | .ok _, .error _ => .error transactionReviewSerializationFailed
    | .ok built, .ok _ => .ok built

/-- Build the transaction of a leased candidate, show it, and have the wallet
review and sign it. -/
def ExecutePlatform.reviewAndSign (platform : ExecutePlatform)
    (candidate : RevalidatedExecutionCandidate) (emitted : Except Unit Unit) :
    Program reviewFace (Option (Except String ReviewedSignedPayload)) :=
  match transactionAfterVisibleReview platform candidate.plan emitted with
  | none => pure none
  | some (.error errorClass) => pure (some (.error errorClass))
  | some (.ok (unsigned, _)) =>
      executionReviewAndSign platform.review platform.controlledWallet candidate unsigned

/-! ## The world of the processes -/

/-- The store, and every transaction ever given to the network, with the intent
it was sent for. -/
structure ExecuteWorld where
  store : World
  sent : List (String × Transaction)

/-- A store that nothing was sent for yet. -/
def ExecuteWorld.unsent (funding : W5hFundingTable) (rules : WatchRuleTable) : ExecuteWorld :=
  ⟨.unsent funding rules, []⟩

/-- What a call gives to the network. -/
def McpOp.sent : McpOp → List (String × Transaction)
  | .sendTransaction intentId tx => [(intentId, tx)]
  | _ => []

/-- A review answers what its backend makes of some answers of the network, the
signer, the clock and the printer; nothing restricts the other calls. -/
def ExecutePlatform.Permits (platform : ExecutePlatform) : (op : McpOp) → op.Answer → Prop
  | .reviewAndSign candidate, answer => ∃ emitted trace,
      (platform.reviewAndSign candidate emitted).Traces trace (some answer)
  | _, _ => True

/-- What one answered call does to the world. An inspection reads the rules as
they are, and anything from the chain and the clocks; a scan may say anything. -/
def executeStep (platform : ExecutePlatform) : Semantics executeFace ExecuteWorld
  | world, ⟨.worker op, answer⟩, after =>
      mcpStep platform.store world.store ⟨op, answer⟩ after.store ∧
        after.sent = world.sent ++ op.sent ∧ platform.Permits op answer
  | world, ⟨.inspect funding, inspection⟩, after => after = world ∧
      ∃ readings : ScanReadings, inspectFundingCandidate platform.scan world.store.rules funding
        readings readings.sampleSlot.1 readings.sampleSlot.2 false = some inspection
  | world, _, after => after = world

/-- What may run beside each other: processes, and single repository calls that
neither take nor give back an execution lease. -/
inductive ExecuteEntry (platform : ExecutePlatform) : Program executeFace Unit → Prop
  | process (cycles : Nat) : ExecuteEntry platform (runExecuteWatch platform.store cycles)
  | funding (op : W5hOp) : (McpOp.funding op).bearing = .neutral →
      ExecuteEntry platform ((ExecuteOp.worker (.funding op)).request >>= fun _ => pure ())
  | rules (op : WatchRuleOp) :
      ExecuteEntry platform ((ExecuteOp.worker (.rules op)).request >>= fun _ => pure ())

end SolFrontier.Mcp
