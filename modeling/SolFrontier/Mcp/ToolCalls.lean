import SolFrontier.Mcp.FinalizeRuns
import SolFrontier.Mcp.Verification

/-! # What finalize and confirm know when they act

A call acts on what its earlier calls were answered, so its phase is the list
of these answers. Both tools stay within one discipline: funding is marked for
a verified payment only, and a response reports only what was read.
-/

namespace SolFrontier.Mcp

open Foundation Types StateStore Program

/-- The answered calls of a tool call, oldest first. -/
abbrev CallLog := List (Event mcpFace)

/-- A tool call together with its request. -/
inductive ToolAnswer where
  | finalized (params : FinalizeIntentParams) (result : FinalizeResult)
  | confirmed (params : ConfirmFundingParams) (result : ConfirmResult)

def finalizeCall (platform : Platform) (params : FinalizeIntentParams) (marketConfigured : Bool) :
    Program mcpFace ToolAnswer := do
  let result ← finalizeIntentJson platform params marketConfigured
  pure (.finalized params result)

def confirmCall (platform : Platform) (params : ConfirmFundingParams) (readerConfigured : Bool) :
    Program mcpFace ToolAnswer := do
  let result ← confirmFundingJson platform params readerConfigured
  pure (.confirmed params result)

theorem finalizeCall_executes {World : Type} {sem : Semantics mcpFace World} {world after : World}
    {platform : Platform} {params : FinalizeIntentParams} {marketConfigured : Bool}
    {result : FinalizeResult}
    (hexec : Executes sem world (finalizeIntentJson platform params marketConfigured) after result) :
    Executes sem world (finalizeCall platform params marketConfigured) after
      (.finalized params result) :=
  Executes.bind_iff.mpr ⟨after, result, hexec, .done _ _⟩

theorem confirmCall_executes {World : Type} {sem : Semantics mcpFace World} {world after : World}
    {platform : Platform} {params : ConfirmFundingParams} {readerConfigured : Bool}
    {result : ConfirmResult}
    (hexec : Executes sem world (confirmFundingJson platform params readerConfigured) after result) :
    Executes sem world (confirmCall platform params readerConfigured) after
      (.confirmed params result) :=
  Executes.bind_iff.mpr ⟨after, result, hexec, .done _ _⟩

/-- Any confirm call. -/
inductive ConfirmEntry (platform : Platform) : Program mcpFace ToolAnswer → Prop
  | confirm (params : ConfirmFundingParams) (readerConfigured : Bool) :
      ConfirmEntry platform (confirmCall platform params readerConfigured)

/-- Any finalize or confirm call. -/
inductive ToolEntry (platform : Platform) : Program mcpFace ToolAnswer → Prop
  | finalize (params : FinalizeIntentParams) (marketConfigured : Bool) :
      ToolEntry platform (finalizeCall platform params marketConfigured)
  | confirm (params : ConfirmFundingParams) (readerConfigured : Bool) :
      ToolEntry platform (confirmCall platform params readerConfigured)

/-! ## Evidence -/

/-- The call read a row and its rule, read a transaction for a signature, and
verified one against the other. -/
structure VerifiedBy (platform : Platform) (log : CallLog) (intentId signature : String)
    (tx : ObservedFundingTransaction) (intent : W5hFundingIntent) (stored : StoredWatchRule)
    (ruleId : Bytes 16) : Prop where
  wellFormed : (signatureFromStr signature).isSome = true
  decoded : decodeRuleId intentId = some ruleId
  row : ⟨.funding (.get intentId), .ok (some intent)⟩ ∈ log
  rule : ⟨.rules (.get ruleId), .ok (some stored)⟩ ∈ log
  identity : watchRuleMatchesIntent stored intent = true
  read : ⟨.readFundingTransaction signature, .ok (.confirmed tx)⟩ ∈ log
  pays : verifyFundingTransaction platform tx intent = .ok ()

/-- The call has seen a row record this signature. -/
def Recorded (log : CallLog) (intentId signature : String) : Prop :=
  (∃ intent, ⟨.funding (.get intentId), .ok (some intent)⟩ ∈ log ∧
      intent.status ≠ .fundingRequired ∧ intent.fundingSignature = some signature) ∨
    ∃ written : Nat, written ≠ 0 ∧
      ⟨.funding (.markFundingSubmittedIfRequired intentId signature), .ok written⟩ ∈ log

/-- Every row a call has read so far is the one under this id. -/
def AboutRow (log : CallLog) (intentId : String) : Prop :=
  ∀ other answer, ⟨.funding (.get other), answer⟩ ∈ log → other = intentId

/-- The call has not read a transaction yet. -/
def Unread (log : CallLog) : Prop :=
  ∀ signature answer, ⟨.readFundingTransaction signature, answer⟩ ∉ log

/-- What a tool may call, given what it was answered so far. -/
def ToolAllows (platform : Platform) (log : CallLog) : McpOp → Prop
  | .funding (.get intentId) => AboutRow log intentId
  | .funding (.insert _) => True
  | .funding (.markFundingSubmittedIfRequired intentId signature) =>
      ∃ tx intent stored ruleId,
        VerifiedBy platform log intentId signature tx intent stored ruleId
  | .funding (.markBudgetReservedIfSubmitted intentId signature slot) =>
      ∃ tx intent stored ruleId,
        VerifiedBy platform log intentId signature tx intent stored ruleId ∧ slot = tx.slot
  | .funding _ => False
  | .rules (.get _) => True
  | .rules (.insert rule) => WatchRule.codec.valid rule
  | .rules _ => False
  | .readFundingTransaction _ => Unread log
  | .sendTransaction .. => False
  | _ => True

abbrev toolDiscipline (platform : Platform) : Discipline mcpFace CallLog :=
  .recall (ToolAllows platform)

/-- A call that adds a row. -/
def McpOp.inserts : McpOp → Bool
  | .funding (.insert _) | .rules (.insert _) => true
  | _ => false

/-- Confirm adds no row. -/
def ConfirmAllows (platform : Platform) (log : CallLog) (op : McpOp) : Prop :=
  ToolAllows platform log op ∧ op.inserts = false

abbrev confirmDiscipline (platform : Platform) : Discipline mcpFace CallLog :=
  .recall (ConfirmAllows platform)

theorem follows_request {allows : CallLog → McpOp → Prop} {α : Type} {post : CallLog → α → Prop}
    {log : CallLog} {op : McpOp} {rest : op.Answer → Program mcpFace α} :
    (request op >>= rest).Follows (Discipline.recall allows : Discipline mcpFace CallLog) post log ↔
      allows log op ∧ ∀ answer, (rest answer).Follows
        (Discipline.recall allows : Discipline mcpFace CallLog) post (log ++ [⟨op, answer⟩]) :=
  Iff.rfl

/-- The response reports a reserved budget for a signature. -/
def ReportsReserved (response : Json) (signature : String) : Prop :=
  response.get "status" = some (.string "budget_reserved") ∧
    response.get "tx_signature" = some (.string signature)

/-- A reported reservation is one the call has seen recorded. -/
def ConfirmReports (intentId : String) (log : CallLog) (result : ConfirmResult) : Prop :=
  ∀ response signature, result = .ok response → ReportsReserved response signature →
    Recorded log intentId signature

theorem confirmReports_error {intentId : String} {log : CallLog}
    {error : ConfirmFundingInternalError} : ConfirmReports intentId log (.error error) := by
  intro response signature hresponse
  cases hresponse

theorem confirmReports_other {intentId status : String} {log : CallLog} {response : Json}
    (hstatus : response.get "status" = some (.string status)) (hne : status ≠ "budget_reserved") :
    ConfirmReports intentId log (.ok response) := by
  intro other signature hresponse hreports
  obtain rfl := Except.ok.inj hresponse
  rw [hreports.1, Option.some.injEq, Json.string.injEq] at hstatus
  exact absurd hstatus.symm hne

theorem confirmReports_success {intentId signature : String} {log : CallLog}
    (hrecorded : Recorded log intentId signature) {intent : W5hFundingIntent}
    {storedRule : StoredWatchRule} {observedSlot : Option UInt64}
    {observedBlockTimeMs : Option Int64} {confirmation : String} {nowMs : Int64}
    {idempotent : Bool} :
    ConfirmReports intentId log (.ok (successResponse intent storedRule signature observedSlot
      observedBlockTimeMs confirmation nowMs idempotent)) := by
  intro response other hresponse hreports
  obtain rfl := Except.ok.inj hresponse
  obtain rfl : signature = other := by
    simpa [successResponse, Json.get] using hreports.2
  exact hrecorded

/-! ## The log grows -/

variable {platform : Platform} {log : CallLog} {intentId signature : String}

theorem VerifiedBy.mono {later : CallLog} {tx : ObservedFundingTransaction}
    {intent : W5hFundingIntent} {stored : StoredWatchRule} {ruleId : Bytes 16}
    (hsub : log ⊆ later)
    (hverified : VerifiedBy platform log intentId signature tx intent stored ruleId) :
    VerifiedBy platform later intentId signature tx intent stored ruleId :=
  { hverified with
    row := hsub hverified.row
    rule := hsub hverified.rule
    read := hsub hverified.read }

theorem aboutRow_nil : AboutRow [] intentId := by
  intro other answer hmem
  cases hmem

theorem unread_nil : Unread [] := by
  intro other answer hmem
  cases hmem

theorem AboutRow.concat (habout : AboutRow log intentId) {event : Event mcpFace}
    (hevent : ∀ other answer, event = ⟨.funding (.get other), answer⟩ → other = intentId) :
    AboutRow (log ++ [event]) intentId := by
  intro other answer hmem
  rcases List.mem_append.mp hmem with hold | hnew
  · exact habout other answer hold
  · exact hevent other answer (List.mem_singleton.mp hnew).symm

theorem Unread.concat (hunread : Unread log) {event : Event mcpFace}
    (hevent : ∀ signature answer, event ≠ ⟨.readFundingTransaction signature, answer⟩) :
    Unread (log ++ [event]) := by
  intro other answer hmem
  rcases List.mem_append.mp hmem with hold | hnew
  · exact hunread other answer hold
  · exact hevent other answer (List.mem_singleton.mp hnew).symm

/-! ## Confirm -/

theorem resolveTransitionRace_follows (habout : AboutRow log intentId)
    (storedRule : StoredWatchRule) (observation : ObservedFundingTransaction) (nowMs : Int64) :
    (resolveTransitionRace storedRule intentId signature observation nowMs).Follows
      (confirmDiscipline platform) (ConfirmReports intentId) log := by
  refine follows_request.mpr ⟨⟨habout, rfl⟩, fun answer => ?_⟩
  rcases answer with error | none | current
  · exact confirmReports_error
  · exact confirmReports_other rfl (by decide)
  · dsimp only
    split
    next hreserved =>
      refine confirmReports_success (.inl ⟨current, ?_, ?_, hreserved.2⟩)
      · exact List.mem_append_right _ List.mem_cons_self
      · simp [hreserved.1]
    next =>
      split
      · exact confirmReports_other rfl (by decide)
      · exact confirmReports_other rfl (by decide)

theorem transitionLost_follows (habout : AboutRow log intentId) (storedRule : StoredWatchRule)
    (observation : ObservedFundingTransaction) :
    (transitionLost storedRule intentId signature observation).Follows
      (confirmDiscipline platform) (ConfirmReports intentId) log := by
  refine follows_request.mpr ⟨⟨trivial, rfl⟩, fun nowMs => ?_⟩
  exact resolveTransitionRace_follows (habout.concat (fun _ _ h => by cases h)) _ _ _

/-- The transitions follow a verified payment. -/
theorem confirmTransitions_follows (habout : AboutRow log intentId)
    {tx : ObservedFundingTransaction} {intent : W5hFundingIntent} {stored : StoredWatchRule}
    {ruleId : Bytes 16}
    (hverified : VerifiedBy platform log intentId signature tx intent stored ruleId) :
    (confirmTransitions stored intentId signature tx).Follows
      (confirmDiscipline platform) (ConfirmReports intentId) log := by
  refine follows_request.mpr ⟨⟨⟨tx, intent, stored, ruleId, hverified⟩, rfl⟩, fun answer => ?_⟩
  have hsubmitted : AboutRow
      (log ++ [⟨.funding (.markFundingSubmittedIfRequired intentId signature), answer⟩])
      intentId := habout.concat (fun _ _ h => by cases h)
  rcases answer with error | submitted
  · exact confirmReports_error
  dsimp only
  split
  · exact transitionLost_follows hsubmitted _ _
  next hwritten =>
  refine follows_request.mpr
    ⟨⟨⟨tx, intent, stored, ruleId, hverified.mono (List.subset_append_left _ _), rfl⟩, rfl⟩,
      fun answer => ?_⟩
  have hreserved : AboutRow
      (log ++ [⟨.funding (.markFundingSubmittedIfRequired intentId signature), .ok submitted⟩] ++
        [⟨.funding (.markBudgetReservedIfSubmitted intentId signature tx.slot), answer⟩])
      intentId := hsubmitted.concat (fun _ _ h => by cases h)
  rcases answer with error | reserved
  · exact confirmReports_error
  dsimp only
  split
  · exact transitionLost_follows hreserved _ _
  refine follows_request.mpr ⟨⟨hreserved, rfl⟩, fun answer => ?_⟩
  rcases answer with error | none | current
  · exact confirmReports_error
  · exact confirmReports_other rfl (by decide)
  · refine follows_request.mpr ⟨⟨trivial, rfl⟩, fun nowMs => ?_⟩
    refine confirmReports_success (.inr ⟨submitted, hwritten, ?_⟩)
    simp

/-- Nothing is written for a transaction that fails its verification. -/
theorem confirmObserved_follows (habout : AboutRow log intentId)
    {tx : ObservedFundingTransaction} {intent : W5hFundingIntent} {stored : StoredWatchRule}
    {ruleId : Bytes 16} {reserved : Bool}
    (hverified : verifyFundingTransaction platform tx intent = .ok () →
      VerifiedBy platform log intentId signature tx intent stored ruleId)
    (hreserved : reserved = true →
      intent.status ≠ .fundingRequired ∧ intent.fundingSignature = some signature)
    (hread : ⟨.funding (.get intentId), .ok (some intent)⟩ ∈ log) :
    (confirmObserved platform intent stored reserved intentId signature tx).Follows
      (confirmDiscipline platform) (ConfirmReports intentId) log := by
  unfold confirmObserved
  cases hcheck : verifyFundingTransaction platform tx intent with
  | error => exact confirmReports_other rfl (by decide)
  | ok =>
      dsimp only
      split
      next hrepeat =>
        split
        · exact confirmReports_other rfl (by decide)
        · refine follows_request.mpr ⟨⟨trivial, rfl⟩, fun nowMs => ?_⟩
          exact confirmReports_success
            (.inl ⟨intent, List.mem_append_left _ hread, hreserved hrepeat⟩)
      next => exact confirmTransitions_follows habout (hverified hcheck)

theorem confirmRead_follows (habout : AboutRow log intentId) (hunread : Unread log)
    {intent : W5hFundingIntent} {stored : StoredWatchRule} {ruleId : Bytes 16} {reserved : Bool}
    (hsignature : (signatureFromStr signature).isSome = true)
    (hdecoded : decodeRuleId intentId = some ruleId)
    (hread : ⟨.funding (.get intentId), .ok (some intent)⟩ ∈ log)
    (hrule : ⟨.rules (.get ruleId), .ok (some stored)⟩ ∈ log)
    (hidentity : watchRuleMatchesIntent stored intent = true)
    (hreserved : reserved = true →
      intent.status ≠ .fundingRequired ∧ intent.fundingSignature = some signature)
    (readerConfigured : Bool) :
    (confirmRead platform intent stored readerConfigured reserved intentId signature).Follows
      (confirmDiscipline platform) (ConfirmReports intentId) log := by
  unfold confirmRead
  split
  · exact confirmReports_other rfl (by decide)
  refine follows_request.mpr ⟨⟨hunread, rfl⟩, fun answer => ?_⟩
  rcases answer with error | ⟨_⟩ | tx
  · exact confirmReports_other rfl (by decide)
  · exact confirmReports_other rfl (by decide)
  · have hverified (hpays : verifyFundingTransaction platform tx intent = .ok ()) :
        VerifiedBy platform (log ++ [⟨.readFundingTransaction signature, .ok (.confirmed tx)⟩])
          intentId signature tx intent stored ruleId :=
      { wellFormed := hsignature
        decoded := hdecoded
        row := List.mem_append_left _ hread
        rule := List.mem_append_left _ hrule
        identity := hidentity
        read := List.mem_append_right _ List.mem_cons_self
        pays := hpays }
    exact confirmObserved_follows (habout.concat (fun _ _ h => by cases h)) hverified hreserved
      (List.mem_append_left _ hread)

/-- A row counts as reserved for the signature it records only. -/
theorem alreadyReserved_ok {intent : W5hFundingIntent} {reserved : Bool}
    (hok : alreadyReserved intent intentId signature = .ok reserved) (htrue : reserved = true) :
    intent.status ≠ .fundingRequired ∧ intent.fundingSignature = some signature := by
  unfold alreadyReserved at hok
  cases hstatus : intent.status with
  | fundingRequired =>
      simp only [hstatus, Except.ok.injEq] at hok
      rw [← hok] at htrue
      cases htrue
  | budgetReserved | fundingSubmitted =>
      simp only [hstatus] at hok
      split at hok
      next hsigned => exact ⟨by simp, hsigned⟩
      next => cases hok
  | _ => simp [hstatus] at hok

/-- A refused row is answered with its status. -/
theorem alreadyReserved_error {intent : W5hFundingIntent} {response : Json}
    (herror : alreadyReserved intent intentId signature = .error response) :
    ConfirmReports intentId log (.ok response) := by
  unfold alreadyReserved at herror
  cases hstatus : intent.status with
  | fundingRequired => simp [hstatus] at herror
  | budgetReserved | fundingSubmitted =>
      simp only [hstatus] at herror
      split at herror
      · cases herror
      · obtain rfl := Except.error.inj herror
        exact confirmReports_other rfl (by decide)
  | _ =>
      simp only [hstatus, Except.error.injEq] at herror
      subst herror
      exact confirmReports_other rfl (by decide)

theorem confirmFundingJson_follows (params : ConfirmFundingParams) (readerConfigured : Bool) :
    (confirmFundingJson platform params readerConfigured).Follows (confirmDiscipline platform)
      (ConfirmReports (trim params.intentId)) [] := by
  unfold confirmFundingJson
  dsimp only
  split
  · exact confirmReports_other rfl (by decide)
  next ruleId hdecoded =>
  split
  · exact confirmReports_other rfl (by decide)
  next hsignature =>
  rw [Bool.not_eq_true, Option.isNone_eq_false_iff] at hsignature
  refine follows_request.mpr ⟨⟨aboutRow_nil, rfl⟩, fun answer => ?_⟩
  rcases answer with error | none | intent
  · exact confirmReports_error
  · exact confirmReports_other rfl (by decide)
  refine follows_request.mpr ⟨⟨trivial, rfl⟩, fun answer => ?_⟩
  rcases answer with error | none | stored
  · exact confirmReports_error
  · exact confirmReports_other rfl (by decide)
  dsimp only
  split
  · exact confirmReports_other rfl (by decide)
  next hidentity =>
  rw [not_not] at hidentity
  split
  next response herror => exact alreadyReserved_error herror
  next reserved hok =>
    have habout : AboutRow [⟨.funding (.get (trim params.intentId)), .ok (some intent)⟩]
        (trim params.intentId) :=
      aboutRow_nil.concat (fun _ _ h => by cases h; rfl)
    have hunread : Unread [⟨.funding (.get (trim params.intentId)), .ok (some intent)⟩] :=
      unread_nil.concat (fun _ _ h => by cases h)
    refine confirmRead_follows (habout.concat (fun _ _ h => by cases h))
      (hunread.concat (fun _ _ h => by cases h)) hsignature hdecoded ?_ ?_ hidentity
      (alreadyReserved_ok hok) _
    · simp
    · simp

/-! ## Finalize -/

/-- What a call knows about its rule once that is settled. -/
structure RuleKnown (params : FinalizeIntentParams) (draft : DraftIntent)
    (userWallet : PubkeyBytes) (snapshot : FinalizeMarketSnapshot) (rule : WatchRule)
    (persisted : Bool) (log : CallLog) : Prop where
  accepted : params.Accepted draft userWallet
  claimed : ∃ consumedAtMs,
    ⟨.claimDraft params.draftId params.draftHash consumedAtMs, .claimed⟩ ∈ log
  market : ⟨.fetchSnapshot, .ok snapshot⟩ ∈ log
  stored : persisted = true →
    (⟨.rules (.insert rule), .ok ()⟩ ∈ log ∧
        rule = canonicalWatchRule draft snapshot.lastCheckedSlot) ∨
      ∃ found, ⟨.rules (.get (deriveRuleId draft.thresholdBps draft.amountRaw controlledWallet)),
        .ok (some found)⟩ ∈ log ∧ rule = found.rule

/-- An offer of funding with everything it rests on. -/
structure Offer (platform : Platform) (params : FinalizeIntentParams) (log : CallLog) where
  draft : DraftIntent
  userWallet : PubkeyBytes
  snapshot : FinalizeMarketSnapshot
  rule : WatchRule
  persistence : FundingPersistOutcome
  checkedAtMs : Int64
  known : RuleKnown params draft userWallet snapshot rule true log
  canonical : rule = canonicalWatchRule draft rule.createdAtSlot
  row : ⟨.funding (.get (hexEncode rule.ruleId.1)), .ok (some persistence.intoRow)⟩ ∈ log
  inserted : persistence.isExisting = false → ∃ createdAtMs,
    ⟨.funding (.insert (newFundingIntent platform draft snapshot userWallet rule draft.amountRaw
      createdAtMs)), .ok ()⟩ ∈ log
  handed : HandedOff platform userWallet rule persistence checkedAtMs
  lastClock : log.getLast? = some ⟨.nowMs, checkedAtMs⟩

def Offer.response {params : FinalizeIntentParams} (offer : Offer platform params log) : Json :=
  actionableResponse params offer.persistence.intoRow (hexEncode offer.rule.ruleId.1)
    (hexEncode (canonicalRuleHash offer.rule).1) offer.persistence.isExisting
    (offer.persistence.intoRow.userWallet = offer.userWallet.toBase58)

/-- Every response that offers funding is such an offer. -/
def FinalizeReports (platform : Platform) (params : FinalizeIntentParams) (log : CallLog)
    (result : FinalizeResult) : Prop :=
  ∀ response, result = .ok response → offersFunding response = true →
    ∃ offer : Offer platform params log, response = offer.response

theorem finalizeReports_error {params : FinalizeIntentParams} {error : FinalizeInternalError} :
    FinalizeReports platform params log (.error error) := by
  intro response hresponse
  cases hresponse

theorem finalizeReports_declined {params : FinalizeIntentParams} {response : Json}
    (hdeclined : offersFunding response = false) :
    FinalizeReports platform params log (.ok response) := by
  intro other hresponse hoffers
  obtain rfl := Except.ok.inj hresponse
  rw [hdeclined] at hoffers
  cases hoffers

variable {params : FinalizeIntentParams} {draft : DraftIntent} {userWallet : PubkeyBytes}
  {snapshot : FinalizeMarketSnapshot} {rule : WatchRule} {persisted : Bool}

theorem RuleKnown.mono {later : CallLog} (hsub : log ⊆ later)
    (hknown : RuleKnown params draft userWallet snapshot rule persisted log) :
    RuleKnown params draft userWallet snapshot rule persisted later where
  accepted := hknown.accepted
  claimed := hknown.claimed.imp fun _ hmem => hsub hmem
  market := hsub hknown.market
  stored hpersisted := by
    rcases hknown.stored hpersisted with ⟨hinsert, hrule⟩ | ⟨found, hget, hrule⟩
    · exact .inl ⟨hsub hinsert, hrule⟩
    · exact .inr ⟨found, hsub hget, hrule⟩

theorem RuleKnown.concat {event : Event mcpFace}
    (hknown : RuleKnown params draft userWallet snapshot rule persisted log) :
    RuleKnown params draft userWallet snapshot rule persisted (log ++ [event]) :=
  hknown.mono (List.subset_append_left _ _)

theorem finalizeHandOff_follows {persistence : FundingPersistOutcome}
    (hknown : RuleKnown params draft userWallet snapshot rule persisted log)
    (hcanonical : persisted = true → rule = canonicalWatchRule draft rule.createdAtSlot)
    (hrow : ⟨.funding (.get (hexEncode rule.ruleId.1)), .ok (some persistence.intoRow)⟩ ∈ log)
    (hinserted : persistence.isExisting = false → ∃ createdAtMs,
      ⟨.funding (.insert (newFundingIntent platform draft snapshot userWallet rule
        draft.amountRaw createdAtMs)), .ok ()⟩ ∈ log) :
    (finalizeHandOff platform params userWallet rule persisted persistence).Follows
      (toolDiscipline platform) (FinalizeReports platform params) log := by
  unfold finalizeHandOff
  dsimp only
  split
  · exact finalizeReports_declined rfl
  next hpersisted =>
  split
  · exact finalizeReports_declined rfl
  next hidentity =>
  split
  · exact finalizeReports_declined rfl
  next hwallet =>
  refine follows_request.mpr ⟨trivial, fun checkedAtMs => ?_⟩
  split
  · exact finalizeReports_declined rfl
  next hopen =>
  rw [not_not] at hpersisted hidentity
  rw [not_and, not_not] at hwallet
  rw [not_or, not_not] at hopen
  subst hpersisted
  have hsub : log ⊆ log ++ [⟨.nowMs, checkedAtMs⟩] := List.subset_append_left _ _
  intro response hresponse _
  obtain rfl := Except.ok.inj hresponse
  exact
    ⟨{ draft, userWallet, snapshot, rule, persistence, checkedAtMs
       known := hknown.mono hsub
       canonical := hcanonical rfl
       row := hsub hrow
       inserted := fun hfresh => (hinserted hfresh).imp fun _ hmem => hsub hmem
       handed :=
        { identity := hidentity
          wallet := hwallet
          status := hopen.1
          deadline := Int64.not_le.mp hopen.2 }
       lastClock := List.getLast?_concat }, rfl⟩

theorem finalizeFunding_follows
    (hknown : RuleKnown params draft userWallet snapshot rule persisted log)
    (hcanonical : persisted = true → rule = canonicalWatchRule draft rule.createdAtSlot)
    (hfresh : AboutRow log (hexEncode rule.ruleId.1)) :
    (finalizeFunding platform params draft snapshot userWallet rule persisted
      draft.amountRaw).Follows (toolDiscipline platform) (FinalizeReports platform params) log := by
  refine follows_request.mpr ⟨trivial, fun createdAtMs => ?_⟩
  refine follows_bind.mpr (follows_request.mpr ⟨trivial, fun answer => ?_⟩)
  have habout : AboutRow (log ++ [⟨.nowMs, createdAtMs⟩] ++ [⟨.funding (.insert
      (newFundingIntent platform draft snapshot userWallet rule draft.amountRaw createdAtMs)),
      answer⟩]) (hexEncode rule.ruleId.1) :=
    (hfresh.concat (fun _ _ h => by cases h)).concat (fun _ _ h => by cases h)
  rcases answer with error | done
  · refine follows_request.mpr ⟨habout, fun answer => ?_⟩
    rcases answer with error | none | existing
    · exact finalizeReports_error
    · exact finalizeReports_error
    · refine finalizeHandOff_follows hknown.concat.concat.concat hcanonical ?_ (fun h => by cases h)
      exact List.mem_append_right _ List.mem_cons_self
  · refine follows_request.mpr ⟨habout, fun answer => ?_⟩
    rcases answer with error | none | inserted
    · exact finalizeReports_error
    · exact finalizeReports_error
    · refine finalizeHandOff_follows hknown.concat.concat.concat hcanonical ?_
        (fun _ => ⟨createdAtMs, ?_⟩)
      · exact List.mem_append_right _ List.mem_cons_self
      · exact List.mem_append_left _ (List.mem_append_right _ List.mem_cons_self)

theorem indexRule_follows {post : CallLog → Unit → Prop} (persisted : Bool)
    (hskip : post log ()) (hindexed : ∀ indexedAtMs answer, post (log ++ [⟨.nowMs, indexedAtMs⟩] ++
      [⟨.indexHash (hexEncode (canonicalRuleHash rule).1) (hexEncode rule.ruleId.1) params.draftId
        params.draftHash indexedAtMs, answer⟩]) ()) :
    (indexRule params rule persisted).Follows (toolDiscipline platform) post log := by
  unfold indexRule
  split
  · refine follows_request.mpr ⟨trivial, fun indexedAtMs => ?_⟩
    exact follows_request.mpr ⟨trivial, fun answer => hindexed indexedAtMs answer⟩
  · exact hskip

theorem finalizeRule_follows
    (hknown : RuleKnown params draft userWallet snapshot rule persisted log)
    (hamount : ∀ amountRaw, canonicalSolendDepositAmountRaw rule = some amountRaw →
      (persisted = true → rule = canonicalWatchRule draft rule.createdAtSlot) →
      amountRaw = draft.amountRaw)
    (hfresh : ∀ intentId, AboutRow log intentId) :
    (finalizeRule platform params draft snapshot userWallet rule persisted).Follows
      (toolDiscipline platform) (FinalizeReports platform params) log := by
  unfold finalizeRule
  split
  · exact finalizeReports_declined rfl
  next hcanonical =>
  rw [not_and, not_not] at hcanonical
  split
  · exact finalizeReports_declined rfl
  next amountRaw hraw =>
  rw [hamount amountRaw hraw hcanonical]
  apply follows_bind.mpr
  apply indexRule_follows
  · exact finalizeFunding_follows hknown hcanonical (hfresh _)
  · intro indexedAtMs answer
    refine finalizeFunding_follows hknown.concat.concat hcanonical ?_
    exact ((hfresh _).concat (fun _ _ h => by cases h)).concat (fun _ _ h => by cases h)

/-- Reading the market and storing the rule of a claimed draft. -/
theorem finalizeClaimed_follows (haccepted : params.Accepted draft userWallet)
    (hclaimed : ∃ consumedAtMs,
      ⟨.claimDraft params.draftId params.draftHash consumedAtMs, .claimed⟩ ∈ log)
    (hfresh : ∀ intentId, AboutRow log intentId) :
    (finalizeClaimed platform params draft userWallet).Follows (toolDiscipline platform)
      (FinalizeReports platform params) log := by
  refine follows_request.mpr ⟨trivial, fun startedAtMs => ?_⟩
  refine follows_request.mpr ⟨trivial, fun market => ?_⟩
  rcases market with error | snapshot
  · exact finalizeReports_declined rfl
  dsimp only
  split
  · exact finalizeReports_declined rfl
  next fresh hbuilt =>
  obtain ⟨_, _, hfreshRule⟩ := bind_eq_ok.mp hbuilt
  obtain rfl := Except.ok.inj hfreshRule
  have hids (intentId : String) : AboutRow (log ++ [⟨.nowMs, startedAtMs⟩] ++
      [⟨.fetchSnapshot, .ok snapshot⟩]) intentId :=
    ((hfresh intentId).concat (fun _ _ h => by cases h)).concat (fun _ _ h => by cases h)
  have hknown (persisted : Bool) (rule : WatchRule) (later : CallLog)
      (hstored : persisted = true →
        (⟨.rules (.insert rule), .ok ()⟩ ∈ log ++ [⟨.nowMs, startedAtMs⟩] ++
            [⟨.fetchSnapshot, .ok snapshot⟩] ++ later ∧
            rule = canonicalWatchRule draft snapshot.lastCheckedSlot) ∨
          ∃ found, ⟨.rules (.get (deriveRuleId draft.thresholdBps draft.amountRaw
            controlledWallet)), .ok (some found)⟩ ∈ log ++ [⟨.nowMs, startedAtMs⟩] ++
              [⟨.fetchSnapshot, .ok snapshot⟩] ++ later ∧ rule = found.rule) :
      RuleKnown params draft userWallet snapshot rule persisted
        (log ++ [⟨.nowMs, startedAtMs⟩] ++ [⟨.fetchSnapshot, .ok snapshot⟩] ++ later) :=
    { accepted := haccepted
      claimed := hclaimed.imp fun _ hmem => by simp [hmem]
      market := by simp
      stored := hstored }
  -- The amount of a rule that the call built itself is the draft's.
  have hfreshAmount (amountRaw : UInt64)
      (hraw : canonicalSolendDepositAmountRaw
        (canonicalWatchRule draft snapshot.lastCheckedSlot) = some amountRaw) :
      amountRaw = draft.amountRaw := by
    rw [canonicalSolendDepositAmountRaw_canonical] at hraw
    exact (Option.some.inj hraw).symm
  refine follows_bind.mpr (follows_request.mpr ⟨canonicalWatchRule_valid .., fun answer => ?_⟩)
  rcases answer with error | done
  · -- The rule was not stored; an earlier one under its id stands for it.
    refine follows_request.mpr ⟨trivial, fun answer => ?_⟩
    rcases answer with error | none | found
    · exact finalizeRule_follows (by
          rw [List.append_assoc]
          exact hknown false _ _ (fun h => by cases h))
        (fun amountRaw hraw _ => hfreshAmount amountRaw hraw) (fun intentId =>
          ((hids intentId).concat (fun _ _ h => by cases h)).concat (fun _ _ h => by cases h))
    · exact finalizeRule_follows (by
          rw [List.append_assoc]
          exact hknown false _ _ (fun h => by cases h))
        (fun amountRaw hraw _ => hfreshAmount amountRaw hraw) (fun intentId =>
          ((hids intentId).concat (fun _ _ h => by cases h)).concat (fun _ _ h => by cases h))
    · refine finalizeRule_follows (by
          rw [List.append_assoc]
          exact hknown true _ _ (fun _ => .inr ⟨found, by simp [canonicalWatchRule], rfl⟩))
        (fun amountRaw hraw hcanonical => ?_) (fun intentId =>
          ((hids intentId).concat (fun _ _ h => by cases h)).concat (fun _ _ h => by cases h))
      rw [hcanonical rfl, canonicalSolendDepositAmountRaw_canonical] at hraw
      exact (Option.some.inj hraw).symm
  · exact finalizeRule_follows (hknown true _ _ (fun _ => .inl ⟨by simp, rfl⟩))
      (fun amountRaw hraw _ => hfreshAmount amountRaw hraw) (fun intentId =>
        (hids intentId).concat (fun _ _ h => by cases h))

theorem finalizeClaim_follows (haccepted : params.Accepted draft userWallet) :
    (finalizeClaim platform params draft userWallet).Follows (toolDiscipline platform)
      (FinalizeReports platform params) [] := by
  refine follows_request.mpr ⟨trivial, fun consumedAtMs => ?_⟩
  refine follows_request.mpr ⟨trivial, fun claim => ?_⟩
  have hfresh (intentId : String) : AboutRow ([] ++ [⟨.nowMs, consumedAtMs⟩] ++
      [⟨.claimDraft params.draftId params.draftHash consumedAtMs, claim⟩]) intentId :=
    (aboutRow_nil.concat (fun _ _ h => by cases h)).concat (fun _ _ h => by cases h)
  cases claim with
  | claimed =>
      exact finalizeClaimed_follows haccepted
        ⟨consumedAtMs, List.mem_append_right _ List.mem_cons_self⟩ hfresh
  | alreadyConsumed | conflict | unavailable => exact finalizeReports_declined rfl

theorem finalizeIntentJson_follows (params : FinalizeIntentParams) (marketConfigured : Bool) :
    (finalizeIntentJson platform params marketConfigured).Follows (toolDiscipline platform)
      (FinalizeReports platform params) [] := by
  unfold finalizeIntentJson
  split
  · exact finalizeReports_declined rfl
  next draft recomputedHash hvalidated =>
  obtain ⟨validated, hdraft, hhash⟩ := bind_eq_ok.mp hvalidated
  obtain ⟨rfl, rfl⟩ := Prod.mk.inj (Except.ok.inj hhash)
  split
  · exact finalizeReports_declined rfl
  next hmatches =>
  split
  · exact finalizeReports_declined rfl
  next hdraftId =>
  split
  · exact finalizeReports_declined rfl
  split
  · exact finalizeReports_declined rfl
  split
  · exact finalizeReports_declined rfl
  next userWallet hwallet =>
  exact finalizeClaim_follows
    { validated := hdraft
      hash := not_not.mp hmatches
      draftId := not_not.mp hdraftId
      wallet := hwallet }

/-! ## Any call -/

/-- What any call may report. -/
def ToolReports (platform : Platform) (log : CallLog) : ToolAnswer → Prop
  | .finalized params result => FinalizeReports platform params log result
  | .confirmed params result => ConfirmReports (trim params.intentId) log result

theorem finalizeCall_follows (params : FinalizeIntentParams) (marketConfigured : Bool) :
    (finalizeCall platform params marketConfigured).Follows (toolDiscipline platform)
      (ToolReports platform) [] := by
  unfold finalizeCall
  rw [follows_bind]
  refine Follows.mono ?_ (finalizeIntentJson_follows params marketConfigured)
  intro log result hreports
  exact hreports

theorem confirmEntry_follows {program : Program mcpFace ToolAnswer}
    (hentry : ConfirmEntry platform program) :
    program.Follows (confirmDiscipline platform) (ToolReports platform) [] := by
  cases hentry with
  | confirm params readerConfigured =>
      unfold confirmCall
      rw [follows_bind]
      refine Follows.mono ?_ (confirmFundingJson_follows params readerConfigured)
      intro log result hreports
      exact hreports

theorem ConfirmEntry.tool {program : Program mcpFace ToolAnswer}
    (hentry : ConfirmEntry platform program) : ToolEntry platform program := by
  cases hentry with
  | confirm params readerConfigured => exact .confirm params readerConfigured

theorem toolEntry_follows {program : Program mcpFace ToolAnswer}
    (hentry : ToolEntry platform program) :
    program.Follows (toolDiscipline platform) (ToolReports platform) [] := by
  cases hentry with
  | finalize params marketConfigured => exact finalizeCall_follows params marketConfigured
  | confirm params readerConfigured =>
      exact (confirmEntry_follows (.confirm params readerConfigured)).relax fun _ _ h => h.1

end SolFrontier.Mcp
