import SolFrontier.Executor.Candidate
import SolFrontier.Foundation.Pool
import SolFrontier.SolanaCore.Tracker
import SolFrontier.SolanaCore.Transaction
import SolFrontier.StateStore.W5hFunding
import SolFrontier.StateStore.WatchRules

/-! # What the tools ask of the outside world

Every await of a tool or of an execute worker is one call of this interface.
The state store behaves as its repositories do and may fail around any
statement; clocks, the market, the network, the wallet and the hash index
answer anything.
-/

namespace SolFrontier.Mcp

open Foundation Types SolanaCore StateStore

/-- The pure functions of other packages that the tools use. -/
structure Platform where
  json : RuleJson
  /-- The associated token account of a wallet for a mint. -/
  associatedTokenAddress : PubkeyBytes → PubkeyBytes → PubkeyBytes
  deserializeTransaction : List UInt8 → Option Transaction

/-! ## Payloads -/

abbrev Signature := Bytes 64

/-- The base58 text of a signature. -/
def Signature.text (signature : Signature) : String := base58Encode signature.1

/-- The answer of the sidecar to a draft claim. -/
inductive ClaimOutcome where
  | claimed
  | alreadyConsumed
  | conflict
  | unavailable
  deriving DecidableEq, Repr

/-- The answer of the sidecar to a hash mapping. -/
inductive IndexOutcome where
  | indexed
  | alreadyPresent
  | unavailable
  | conflict
  deriving DecidableEq, Repr

structure FinalizeMarketSnapshot where
  lastCheckedSlot : UInt64
  nativeOnchainAprBps : UInt32
  saveDisplayApyBps : UInt32
  deriving DecidableEq, Repr

inductive FinalizeMarketReadError where
  | rpcPoolUnavailable
  | slotRequestFailed
  | reserveRequestFailed
  | accountRequestFailed
  | reserveAccountMissing
  | reserveDecodeFailed
  | aprComputationFailed
  | aprOutOfRange
  | saveClientUnavailable
  | saveTimeout
  | saveRequestFailed
  | saveHttpStatus (status : UInt16)
  | saveInvalidResponse
  | saveIdentityMismatch
  | saveRateInvalid
  deriving DecidableEq, Repr

inductive ConfirmationLevel where
  | confirmed
  | finalized
  deriving DecidableEq, Repr

structure ObservedTokenBalance where
  account : String
  mint : String
  owner : String
  amountRaw : UInt64
  decimals : UInt8
  deriving DecidableEq, Repr

structure ObservedTransferChecked where
  source : String
  mint : String
  destination : String
  authority : String
  amountRaw : UInt64
  decimals : UInt8
  deriving DecidableEq, Repr

/-- The proof a funding confirmation is decided on. -/
structure ObservedFundingTransaction where
  slot : UInt64
  blockTimeMs : Option Int64
  confirmation : ConfirmationLevel
  succeeded : Bool
  signerPubkeys : List String
  memos : List String
  transferChecked : List ObservedTransferChecked
  preTokenBalances : List ObservedTokenBalance
  postTokenBalances : List ObservedTokenBalance
  deriving DecidableEq, Repr

inductive FundingTransactionRead where
  | pending
  | confirmed (observation : ObservedFundingTransaction)
  deriving DecidableEq, Repr

inductive FundingReadError where
  | poolUnavailable
  | statusRequestFailed
  | transactionRequestFailed
  | responseDecodeFailed
  deriving DecidableEq, Repr

/-- A validated candidate, ready for its lease. -/
structure RevalidatedExecutionCandidate where
  intentId : String
  ruleId : Bytes 16
  amountRaw : UInt64
  plan : Executor.ValidatedSolendPlanInputs
  deriving DecidableEq, Repr

/-- Exact signed bytes from the wallet's review pipeline. -/
structure ReviewedSignedPayload where
  signedTransactionBytes : List UInt8
  signature : Signature
  lastValidBlockHeight : UInt64
  deriving DecidableEq, Repr

/-! ## The interface -/

/-- The calls of the tools. Instants count nanoseconds, and a read client is
known by its endpoint only. -/
inductive McpOp where
  | funding (op : W5hOp)
  | rules (op : WatchRuleOp)
  | claimDraft (draftId draftHash : String) (consumedAtMs : Int64)
  | indexHash (canonicalRuleHash intentId draftId draftHash : String) (indexedAtMs : Int64)
  | nowMs
  | fetchSnapshot
  | readFundingTransaction (signature : String)
  | reviewAndSign (candidate : RevalidatedExecutionCandidate)
  | writeClient
  /-- One `sendTransaction` on behalf of an intent. -/
  | sendTransaction (intentId : String) (tx : Transaction)
  | blockHeight
  /-- The monotonic clock, read when it was already seen at `earliest`. -/
  | instantNow (earliest : Nat)
  | sleep (duration : Nat)
  | readClient
  | signatureStatuses (signature : Signature)
  deriving DecidableEq, Repr

/-- The type of each answer; errors that no caller looks into carry nothing. -/
abbrev McpOp.Answer : McpOp → Type
  | funding op => Except StoreError op.Answer
  | rules op => Except StoreError op.Answer
  | claimDraft .. => ClaimOutcome
  | indexHash .. => IndexOutcome
  | nowMs => Int64
  | fetchSnapshot => Except FinalizeMarketReadError FinalizeMarketSnapshot
  | readFundingTransaction _ => Except FundingReadError FundingTransactionRead
  | reviewAndSign _ => Except String ReviewedSignedPayload
  | writeClient => Except Unit Unit
  | sendTransaction .. => Except Unit Signature
  | blockHeight => Except Unit UInt64
  | instantNow earliest => { now : Nat // earliest ≤ now }
  | sleep _ => Unit
  | readClient => Except Unit Unit
  | signatureStatuses _ => Except Unit (List (Option TransactionStatus))

abbrev mcpFace : Interface := ⟨McpOp, McpOp.Answer⟩

open Program

def request (op : McpOp) : Program mcpFace op.Answer := @perform mcpFace op

@[simp] theorem request_bind {α : Type} (op : McpOp) (rest : op.Answer → Program mcpFace α) :
    (request op >>= rest) = .call op rest := rfl

theorem request_only {α : Type} {allowed : McpOp → Prop} {op : McpOp} (hallowed : allowed op)
    {rest : op.Answer → Program mcpFace α} (hrest : ∀ answer, (rest answer).Only allowed) :
    (request op >>= rest).Only allowed :=
  ⟨hallowed, hrest⟩

/-- The shared store, and how many transactions were sent for each intent. -/
structure World where
  funding : W5hFundingTable
  rules : WatchRuleTable
  sends : String → Nat

/-- A store that nothing was sent for yet. -/
def World.unsent (funding : W5hFundingTable) (rules : WatchRuleTable) : World :=
  ⟨funding, rules, fun _ => 0⟩

/-- What one answered call does to the world. A send is counted whatever it
answers. -/
def mcpStep (platform : Platform) : Semantics mcpFace World
  | world, ⟨.funding op, answer⟩, after => ∃ table,
      w5hFundingRepository.Attempt world.funding op answer table ∧
        after = { world with funding := table }
  | world, ⟨.rules op, answer⟩, after => ∃ table,
      (watchRuleRepository platform.json).Attempt world.rules op answer table ∧
        after = { world with rules := table }
  | world, ⟨.sendTransaction intentId _, _⟩, after =>
      after =
        { world with sends := Function.update world.sends intentId (world.sends intentId + 1) }
  | world, _, after => after = world

/-- The store and an environment that gives permitted answers only. -/
abbrev mcpWorld (platform : Platform) (permits : Event mcpFace → Prop) :
    Semantics mcpFace World :=
  permitting permits (mcpStep platform)

theorem executes_request {World α : Type} {sem : Semantics mcpFace World} {world after : World}
    {op : McpOp} {rest : op.Answer → Program mcpFace α} {result : α} :
    Executes sem world (request op >>= rest) after result ↔
      ∃ answer middle, sem world ⟨op, answer⟩ middle ∧
        Executes sem middle (rest answer) after result :=
  Executes.call_iff

/-- A call that neither reads nor writes the modelled world. -/
def McpOp.isQuiet : McpOp → Bool
  | funding _ | rules _ | sendTransaction .. => false
  | _ => true

theorem mcpStep_quiet {platform : Platform} {op : McpOp} (hquiet : op.isQuiet = true)
    {world after : World} {answer : op.Answer} :
    mcpStep platform world ⟨op, answer⟩ after ↔ after = world := by
  cases op with
  | funding | rules | sendTransaction => cases hquiet
  | _ => exact Iff.rfl

theorem executes_quiet {platform : Platform} {permits : Event mcpFace → Prop} {α : Type}
    {world after : World} {op : McpOp} (hquiet : op.isQuiet = true)
    {rest : op.Answer → Program mcpFace α} {result : α} :
    Executes (mcpWorld platform permits) world (request op >>= rest) after result ↔
      ∃ answer, permits ⟨op, answer⟩ ∧
        Executes (mcpWorld platform permits) world (rest answer) after result := by
  rw [executes_request]
  constructor
  · rintro ⟨answer, middle, ⟨hpermits, hstep⟩, hrest⟩
    rw [(mcpStep_quiet hquiet).mp hstep] at hrest
    exact ⟨answer, hpermits, hrest⟩
  · rintro ⟨answer, hpermits, hrest⟩
    exact ⟨answer, world, ⟨hpermits, (mcpStep_quiet hquiet).mpr rfl⟩, hrest⟩

end SolFrontier.Mcp
