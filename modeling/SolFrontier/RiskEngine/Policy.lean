import Mathlib.Data.UInt
import SolFrontier.Types.Policy

/-! # Policy sets

Rules are evaluated in their order and the first match decides; without a
match a human is required. A failed simulation decides before any rule.
-/

namespace SolFrontier.RiskEngine

open Types

/-- Everything the policy engine needs to evaluate a transaction. -/
structure PolicyEvaluationContext where
  proposal : TransactionProposal
  simulationResult : Option SimulationResult
  network : SolanaNetwork
  sessionSpendLamports : UInt64
  walletDailySpendLamports : UInt64
  deriving DecidableEq, Repr

/-- Rules with the lists their conditions refer to. -/
structure PolicySet where
  rules : List PolicyRule
  programAllowlist : List String
  destinationDenylist : List String
  deriving Repr

/-! ## Allowed hours -/

/-- An offset from UTC in seconds; one of a day or more does not exist, and
UTC itself is used instead. The multiplication wraps. -/
def fixedOffset (utcOffsetHours : Int32) : Int :=
  let secs := (utcOffsetHours * 3600).toInt
  if -86400 < secs ∧ secs < 86400 then secs else 0

/-- The hour of a local time in seconds since the epoch. -/
def hourOf (localSecs : Int) : UInt8 := .ofNat (localSecs / 3600 % 24).toNat

/-- The day of the week, Monday being 1. The epoch was a Thursday. -/
def dayOfWeek (localSecs : Int) : UInt8 := .ofNat ((localSecs / 86400 + 3) % 7 + 1).toNat

/-- The time in seconds since the epoch is outside the window. -/
def isOutsideAllowedHoursAt (now : Int) (startHour endHour : UInt8) (allowedDays : List UInt8)
    (utcOffsetHours : Int32) : Bool :=
  let localSecs := now + fixedOffset utcOffsetHours
  let hour := hourOf localSecs
  if !allowedDays.isEmpty && !allowedDays.contains (dayOfWeek localSecs) then true
  else
    let inAllowedHours :=
      if startHour ≤ endHour then startHour ≤ hour && hour ≤ endHour
      else startHour ≤ hour || hour ≤ endHour
    !inAllowedHours

namespace PolicySet

/-- Session rules go before the others. -/
def withSessionRules (policy : PolicySet) (sessionRules : List PolicyRule) : PolicySet :=
  { policy with rules := sessionRules ++ policy.rules }

def permissiveDefault : PolicySet where
  rules :=
    [{ name := "allow-all"
       description := "Approve all transactions (devnet/testnet only)"
       condition := .always
       action := .approve }]
  programAllowlist := []
  destinationDenylist := []

def mainnetSafeDefault : PolicySet where
  rules :=
    [{ name := "mainnet-requires-human"
       description := "All mainnet transactions require human approval"
       condition := .networkIn [.mainnetBeta]
       action := .requireHumanApproval
         "mainnet transaction requires explicit operator approval" none },
     { name := "devnet-allow"
       description := "Allow devnet transactions automatically"
       condition := .networkIn [.devnet, .testnet, .localnet]
       action := .approve }]
  programAllowlist := []
  destinationDenylist := []

/-- What the wallet spends: the summarized transfers, saturating, or the
difference the simulation shows less its fee. -/
def transferAmountLamports (context : PolicyEvaluationContext) : Option UInt64 :=
  let proposalAmounts :=
    context.proposal.instructionsSummary.filterMap InstructionSummary.transferLamports
  if !proposalAmounts.isEmpty then
    some (proposalAmounts.foldl (fun total amount =>
      .ofNat (min (total.toNat + amount.toNat) (2 ^ 64 - 1))) 0)
  else do
    let simulation ← context.simulationResult
    let walletDiff ← simulation.accountDiffs.find? fun diff =>
      diff.pubkey = context.proposal.walletPubkey
    let before ← walletDiff.lamportsBefore
    let after ← walletDiff.lamportsAfter
    let lamportsSpent ← if after ≤ before then some (before - after) else none
    match simulation.feeLamports with
    | some feeLamports =>
        some (if feeLamports ≤ lamportsSpent then lamportsSpent - feeLamports else 0)
    | none => some lamportsSpent

/-- The token transfers among the summaries. -/
def tokenTransfers (context : PolicyEvaluationContext) : List TokenTransfer :=
  context.proposal.instructionsSummary.filterMap InstructionSummary.tokenTransfer

/-- Whether a rule applies at a time in seconds since the epoch. The sum of the
token amounts wraps. -/
def conditionMatchesAt (policy : PolicySet) (rule : PolicyRule)
    (context : PolicyEvaluationContext) (now : Int) : Bool :=
  match rule.condition with
  | .networkIn networks => networks.contains context.network
  | .programNotInAllowlist =>
      !policy.programAllowlist.isEmpty &&
        context.proposal.instructionsSummary.any fun instruction =>
          !policy.programAllowlist.contains instruction.programId
  | .destinationInDenylist =>
      !policy.destinationDenylist.isEmpty &&
        (context.proposal.instructionsSummary.flatMap InstructionSummary.accounts).any
          fun account => policy.destinationDenylist.contains account.pubkey
  | .costExceedsSol threshold =>
      match context.simulationResult with
      | some simulation =>
          (simulation.feeLamports.map fun fee =>
            decide ((threshold * 1000000000.0).toUInt64 < fee)).getD false
      | none => false
  | .dailySpendExceedsSol cap =>
      (cap * 1000000000.0).toUInt64 < context.walletDailySpendLamports
  | .amountExceedsLamports threshold =>
      ((transferAmountLamports context).map fun amount => decide (threshold ≤ amount)).getD false
  | .simulationNotPassed =>
      (context.simulationResult.map fun simulation => !simulation.success).getD true
  | .tokenAmountExceeds mint threshold =>
      threshold ≤
        (((tokenTransfers context).filter fun transfer => transfer.mint = mint).map
          TokenTransfer.amount).sum
  | .mintNotInAllowlist allowedMints =>
      !allowedMints.isEmpty &&
        (tokenTransfers context).any fun transfer => !allowedMints.contains transfer.mint
  | .legacyTokenTransferPresent =>
      context.proposal.instructionsSummary.any InstructionSummary.isLegacyTokenTransfer
  | .outsideAllowedHours startHour endHour allowedDays utcOffsetHours =>
      isOutsideAllowedHoursAt now startHour endHour allowedDays utcOffsetHours
  | .always => true

def actionToVerdict (action : PolicyAction) (ruleName : String) : PolicyVerdict :=
  match action with
  | .approve => .approved ruleName
  | .requireHumanApproval reason requiredApproverRole =>
      .requiresHumanApproval reason ruleName requiredApproverRole none
  | .requireApprovalChain reason stages =>
      .requiresHumanApproval reason ruleName none (some stages)
  | .reject reason => .rejected reason ruleName

/-- Evaluate the rules in order. -/
def evaluateRules (policy : PolicySet) (context : PolicyEvaluationContext) (now : Int) :
    PolicyEvaluationResult :=
  match policy.rules.zipIdx.find? fun (rule, _) => policy.conditionMatchesAt rule context now with
  | some (rule, index) =>
      { verdict := actionToVerdict rule.action rule.name
        rulesTotal := policy.rules.length
        rulesEvaluated := index + 1
        matchedRuleIndex := some index }
  | none =>
      { verdict := .requiresHumanApproval "no matching policy rule; failing closed"
          "default-fail-closed" none none
        rulesTotal := policy.rules.length
        rulesEvaluated := policy.rules.length
        matchedRuleIndex := none }

/-- Evaluate the policy at a time in seconds since the epoch. -/
def evaluateAt (policy : PolicySet) (context : PolicyEvaluationContext) (now : Int) :
    PolicyEvaluationResult :=
  match context.simulationResult with
  | some simulation =>
      if !simulation.success then
        { verdict := .simulationFailed (simulation.error.getD "unknown simulation error")
          rulesTotal := policy.rules.length
          rulesEvaluated := 0
          matchedRuleIndex := none }
      else policy.evaluateRules context now
  | none => policy.evaluateRules context now

/-- Rules that do not match are passed over, so an unconditional approval after
them decides. -/
theorem verdict_of_unmatched {policy : PolicySet} {context : PolicyEvaluationContext} {now : Int}
    {simulation : SimulationResult} {unmatched : List PolicyRule} (approval : PolicyRule)
    (hsimulation : context.simulationResult = some simulation)
    (hsuccess : simulation.success = true) (hrules : policy.rules = unmatched ++ [approval])
    (hunmatched : ∀ rule ∈ unmatched, policy.conditionMatchesAt rule context now = false)
    (hcondition : approval.condition = .always) (haction : approval.action = .approve) :
    (policy.evaluateAt context now).verdict = .approved approval.name := by
  have hmatch : policy.conditionMatchesAt approval context now = true := by
    simp [conditionMatchesAt, hcondition]
  have hfirst : (policy.rules.zipIdx.find? fun (rule, _) =>
      policy.conditionMatchesAt rule context now) = some (approval, unmatched.length) := by
    rw [hrules, List.zipIdx_append, List.find?_append]
    have hnone : (unmatched.zipIdx.find? fun (rule, _) =>
        policy.conditionMatchesAt rule context now) = none := by
      apply List.find?_eq_none.mpr
      intro entry hentry
      simp [hunmatched entry.1 (List.fst_mem_of_mem_zipIdx hentry)]
    simp [hnone, hmatch]
  simp [evaluateAt, hsimulation, hsuccess, evaluateRules, hfirst, haction, actionToVerdict]

end PolicySet

end SolFrontier.RiskEngine
