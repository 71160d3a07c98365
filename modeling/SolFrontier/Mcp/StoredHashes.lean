import SolFrontier.Mcp.Offers

/-! # The hash column of the funding rows

Finalize is the only writer of funding rows, and it writes the lower-case text
of a rule hash. Over such rows an offer shows exactly the hash that is stored.
-/

namespace SolFrontier.Mcp

open Foundation Types StateStore Program

variable {platform : Platform} {permits : Event mcpFace → Prop} {world after base : World}

/-! ## What finalize inserts -/

/-- A funding row is only ever inserted with a lower-case hash. -/
def LowerCaseInsert : McpOp → Prop
  | .funding (.insert fresh) => asciiLower fresh.canonicalRuleHashHex = fresh.canonicalRuleHashHex
  | _ => True

theorem finalizeHandOff_only (params : FinalizeIntentParams) (userWallet : PubkeyBytes)
    (rule : WatchRule) (persisted : Bool) (persistence : FundingPersistOutcome) :
    (finalizeHandOff platform params userWallet rule persisted persistence).Only
      LowerCaseInsert := by
  unfold finalizeHandOff
  dsimp only
  split
  · trivial
  split
  · trivial
  split
  · trivial
  apply request_only trivial
  intro checkedAtMs
  split
  · trivial
  · trivial

theorem persistFunding_only {fresh : NewW5hFundingIntent}
    (hlower : LowerCaseInsert (.funding (.insert fresh))) :
    (persistFundingWithLegacyRecovery fresh).Only LowerCaseInsert := by
  refine ⟨hlower, fun inserted => ?_⟩
  cases inserted with
  | ok =>
      refine ⟨trivial, fun read => ?_⟩
      rcases read with error | none | row <;> trivial
  | error =>
      refine ⟨trivial, fun read => ?_⟩
      rcases read with error | none | row <;> trivial

theorem newFundingIntent_lower (draft : DraftIntent) (snapshot : FinalizeMarketSnapshot)
    (userWallet : PubkeyBytes) (rule : WatchRule) (amountRaw : UInt64) (createdAtMs : Int64) :
    LowerCaseInsert (.funding (.insert
      (newFundingIntent platform draft snapshot userWallet rule amountRaw createdAtMs))) :=
  asciiLower_hexEncode (canonicalRuleHash rule).1

theorem finalizeFunding_only (params : FinalizeIntentParams) (draft : DraftIntent)
    (snapshot : FinalizeMarketSnapshot) (userWallet : PubkeyBytes) (rule : WatchRule)
    (persisted : Bool) (amountRaw : UInt64) :
    (finalizeFunding platform params draft snapshot userWallet rule persisted amountRaw).Only
      LowerCaseInsert := by
  apply request_only trivial
  intro createdAtMs
  apply Only.bind (persistFunding_only
    (newFundingIntent_lower draft snapshot userWallet rule amountRaw createdAtMs))
  intro persistence
  cases persistence with
  | error => trivial
  | ok persistence => exact finalizeHandOff_only params userWallet rule persisted persistence

theorem indexRule_only (params : FinalizeIntentParams) (rule : WatchRule) (persisted : Bool) :
    (indexRule params rule persisted).Only LowerCaseInsert := by
  unfold indexRule
  split
  · exact ⟨trivial, fun _ => ⟨trivial, fun _ => trivial⟩⟩
  · trivial

theorem finalizeRule_only (params : FinalizeIntentParams) (draft : DraftIntent)
    (snapshot : FinalizeMarketSnapshot) (userWallet : PubkeyBytes) (rule : WatchRule)
    (persisted : Bool) :
    (finalizeRule platform params draft snapshot userWallet rule persisted).Only
      LowerCaseInsert := by
  unfold finalizeRule
  split
  · trivial
  split
  · trivial
  next amountRaw _ =>
    apply Only.bind (indexRule_only params rule persisted)
    intro _
    exact finalizeFunding_only params draft snapshot userWallet rule persisted amountRaw

theorem persistRule_only (fresh : WatchRule) :
    (persistRuleWithLegacyRecovery fresh).Only LowerCaseInsert := by
  refine ⟨trivial, fun inserted => ?_⟩
  cases inserted with
  | ok => trivial
  | error =>
      refine ⟨trivial, fun read => ?_⟩
      rcases read with error | none | found <;> trivial

theorem finalizeClaimed_only (params : FinalizeIntentParams) (draft : DraftIntent)
    (userWallet : PubkeyBytes) :
    (finalizeClaimed platform params draft userWallet).Only LowerCaseInsert := by
  apply request_only trivial
  intro _
  apply request_only trivial
  intro market
  cases market with
  | error => trivial
  | ok snapshot =>
      dsimp only
      split
      · trivial
      next fresh _ =>
        apply Only.bind (persistRule_only fresh)
        intro (rule, persisted)
        exact finalizeRule_only params draft snapshot userWallet rule persisted

theorem finalizeIntentJson_only (params : FinalizeIntentParams) (marketConfigured : Bool) :
    (finalizeIntentJson platform params marketConfigured).Only LowerCaseInsert := by
  unfold finalizeIntentJson
  split
  · trivial
  split
  · trivial
  split
  · trivial
  split
  · trivial
  split
  · trivial
  split
  · trivial
  next userWallet _ =>
    apply request_only trivial
    intro _
    apply request_only trivial
    intro claim
    cases claim with
    | claimed => exact finalizeClaimed_only params _ userWallet
    | alreadyConsumed | conflict | unavailable => trivial

theorem toolEntry_only {program : Program mcpFace ToolAnswer}
    (hentry : ToolEntry platform program) : program.Only LowerCaseInsert := by
  cases hentry with
  | finalize params marketConfigured =>
      exact Only.bind (finalizeIntentJson_only params marketConfigured) fun _ => trivial
  | confirm params readerConfigured =>
      apply (confirmEntry_follows (.confirm params readerConfigured)).only
      rintro log op ⟨_, hinserts⟩
      cases op with
      | funding op => cases op <;> trivial
      | _ => trivial

/-! ## What is stored -/

/-- Every funding row holds the lower-case text of its hash. -/
def LowerCaseHashes (world : World) : Prop :=
  ∀ id row, world.funding.get id = some row →
    asciiLower row.canonicalRuleHashHex = row.canonicalRuleHashHex

theorem lowerCaseHashes_step {op : McpOp} {answer : op.Answer} (hhashes : LowerCaseHashes world)
    (hinsert : LowerCaseInsert op) (hstep : mcpStep platform world ⟨op, answer⟩ after) :
    LowerCaseHashes after := by
  cases op with
  | funding op =>
      obtain ⟨table, hattempt, rfl⟩ := hstep
      intro id row hget
      rcases attempt_found hattempt hget with
        hsame | ⟨fresh, nowMs, rfl, _, rfl⟩ | ⟨old, write, nowMs, _, hold, hchange⟩
      · exact hhashes id row hsame
      · exact hinsert
      · have horder := RowRaw.SameOrder.changes hchange (.refl old)
        rw [horder]
        exact hhashes id old hold
  | rules op =>
      obtain ⟨table, _, rfl⟩ := hstep
      exact hhashes
  | sendTransaction =>
      obtain rfl := hstep
      exact hhashes
  | _ =>
      obtain rfl : after = world := hstep
      exact hhashes

/-- Tool calls keep the hashes in lower case. -/
theorem lowerCaseHashes_reaches {Caller : Type} [DecidableEq Caller]
    {pool : Pool mcpFace World Caller ToolAnswer} (hbase : LowerCaseHashes base)
    (hreaches : Pool.Reaches (mcpWorld platform permits) (ToolEntry platform) (Pool.initial base)
      pool) : LowerCaseHashes pool.world := by
  apply Pool.Reaches.keeps (fun _ => toolEntry_only) ?_ hbase hreaches
  intro world op answer after hhashes hinsert hstep
  exact lowerCaseHashes_step hhashes hinsert hstep.2

end SolFrontier.Mcp
