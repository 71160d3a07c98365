import SolFrontier.Mcp.ToolCalls
import SolFrontier.StateStore.W5hLifecycle

/-! # What an answer says about the store from then on

The two tools only insert rows and move funding rows forward. What a call
learned from an answer therefore stays true whatever the others do, and every
interleaving keeps each caller's knowledge without any lock.
-/

namespace SolFrontier.Mcp

open Foundation Types StateStore Program

/-! ## Rows that only move forward -/

/-- How far the funding of a row has come; nothing here leaves the last stage. -/
def fundingStage : W5hIntentStatus → Nat
  | .fundingRequired => 0
  | .fundingSubmitted => 1
  | _ => 2

/-- A later version of a funding row. -/
structure Advances (row later : RowRaw) : Prop where
  order : row.SameOrder later
  forward : fundingStage row.status ≤ fundingStage later.status
  signed : fundingStage row.status ≠ 0 → ∀ signature, row.fundingSignature = some signature →
    later.fundingSignature = some signature
  settled : fundingStage row.status = 2 → later = row

theorem Advances.refl (row : RowRaw) : Advances row row where
  order := .refl row
  forward := Nat.le_refl _
  signed _ _ h := h
  settled _ := rfl

theorem Advances.trans {first middle last : RowRaw} (hfirst : Advances first middle)
    (hlast : Advances middle last) : Advances first last where
  order := hfirst.order.trans hlast.order
  forward := hfirst.forward.trans hlast.forward
  signed hstarted signature hsigned := by
    have hforward := hfirst.forward
    refine hlast.signed ?_ signature (hfirst.signed hstarted signature hsigned)
    omega
  settled h := by
    have hmiddle := hfirst.settled h
    subst hmiddle
    exact hlast.settled h

/-- The calls on the funding rows that the two tools make. -/
inductive ToolFundingOp : W5hOp → Prop
  | get (id : String) : ToolFundingOp (.get id)
  | insert (intent : NewW5hFundingIntent) : ToolFundingOp (.insert intent)
  | submit (id signature : String) : ToolFundingOp (.markFundingSubmittedIfRequired id signature)
  | reserve (id signature : String) (slot : UInt64) :
      ToolFundingOp (.markBudgetReservedIfSubmitted id signature slot)

theorem advances_of_changes {op : W5hOp} (htool : ToolFundingOp op) {row next : RowRaw}
    (hchange : op.Changes row next) : Advances row next where
  order := RowRaw.SameOrder.changes hchange (.refl row)
  forward := by
    cases htool <;> cases hchange
    case submit.submitted hguard =>
      rcases hguard with h | ⟨h, _⟩
      · simp [h, fundingStage]
      · simp [h, fundingStage]
    case reserve.reserved h _ => simp [h, fundingStage]
  signed hstarted signature hsigned := by
    cases htool <;> cases hchange
    case submit.submitted hguard =>
      rcases hguard with h | ⟨_, h | h⟩
      · exact absurd (congrArg fundingStage h) hstarted
      · rw [h] at hsigned
        cases hsigned
      · exact h.symm.trans hsigned
    case reserve.reserved => exact hsigned
  settled hlast := by
    cases htool <;> cases hchange
    case submit.submitted hguard =>
      rcases hguard with h | ⟨h, _⟩
      · rw [h] at hlast
        cases hlast
      · rw [h] at hlast
        cases hlast
    case reserve.reserved h _ =>
      rw [h] at hlast
      cases hlast

/-! ## Later stores -/

/-- The rows of one world are the rows of the other, moved forward. -/
structure World.Later (world later : World) : Prop where
  funding : ∀ id row, world.funding.get id = some row →
    ∃ current, later.funding.get id = some current ∧ Advances row current
  rules : ∀ id row, world.rules.get id = some row → later.rules.get id = some row

theorem World.Later.refl (world : World) : world.Later world where
  funding _ row hget := ⟨row, hget, .refl row⟩
  rules _ _ hget := hget

theorem World.Later.trans {first middle last : World} (hfirst : first.Later middle)
    (hlast : middle.Later last) : first.Later last where
  funding id row hget := by
    obtain ⟨current, hcurrent, hadvances⟩ := hfirst.funding id row hget
    obtain ⟨final, hfinal, hrest⟩ := hlast.funding id current hcurrent
    exact ⟨final, hfinal, hadvances.trans hrest⟩
  rules id row hget := hlast.rules id row (hfirst.rules id row hget)

variable {platform : Platform} {permits : Event mcpFace → Prop} {world after : World}

theorem later_of_funding {op : W5hOp} (htool : ToolFundingOp op)
    {answer : Except StoreError op.Answer} {table : W5hFundingTable}
    (hattempt : w5hFundingRepository.Attempt world.funding op answer table) :
    world.Later { world with funding := table } where
  funding id row hget := by
    rcases attempt_stored hattempt hget with hsame | ⟨changed, _, _, _, hchange, hnext⟩
    · exact ⟨row, hsame, .refl row⟩
    · exact ⟨changed, hnext, advances_of_changes htool hchange⟩
  rules _ _ hget := hget

/-- The calls on the rules that the two tools make. -/
inductive ToolRuleOp : WatchRuleOp → Prop
  | get (id : Bytes 16) : ToolRuleOp (.get id)
  | insert (rule : WatchRule) : WatchRule.codec.valid rule → ToolRuleOp (.insert rule)

theorem later_of_rules {op : WatchRuleOp} (htool : ToolRuleOp op)
    {answer : Except StoreError op.Answer} {table : WatchRuleTable}
    (hattempt : (watchRuleRepository platform.json).Attempt world.rules op answer table) :
    world.Later { world with rules := table } where
  funding _ row hget := ⟨row, hget, .refl row⟩
  rules id row hget := by
    rcases hattempt.get_of_some hget with hsame | ⟨nowMs, write, hop, _⟩
    · exact hsame
    · cases htool <;> cases hop

/-- Every call that a tool may make moves the store forward. -/
theorem later_of_allowed {log : CallLog} {op : McpOp} (hallows : ToolAllows platform log op)
    {answer : op.Answer} (hstep : mcpStep platform world ⟨op, answer⟩ after) :
    world.Later after := by
  cases op with
  | funding op =>
      obtain ⟨table, hattempt, rfl⟩ := hstep
      cases op with
      | get id => exact later_of_funding (.get id) hattempt
      | insert intent => exact later_of_funding (.insert intent) hattempt
      | markFundingSubmittedIfRequired id signature =>
          exact later_of_funding (.submit id signature) hattempt
      | markBudgetReservedIfSubmitted id signature slot =>
          exact later_of_funding (.reserve id signature slot) hattempt
      | _ => exact absurd hallows id
  | rules op =>
      obtain ⟨table, hattempt, rfl⟩ := hstep
      cases op with
      | get id => exact later_of_rules (.get id) hattempt
      | insert rule => exact later_of_rules (.insert rule hallows) hattempt
      | _ => exact absurd hallows id
  | sendTransaction => exact absurd hallows id
  | _ =>
      have hsame : after = world := hstep
      rw [hsame]
      exact .refl world

/-! ## Facts -/

/-- What an answered call tells about the store, then and later. -/
def Fact (platform : Platform) (world : World) : Event mcpFace → Prop
  | ⟨.funding (.get id), .ok (some intent)⟩ => ∃ first row, rowToIntent first = .ok intent ∧
      world.funding.get id = some row ∧ Advances first row
  | ⟨.funding (.insert fresh), .ok _⟩ => ∃ nowMs row,
      world.funding.get fresh.intentId = some row ∧ Advances (fresh.toRow nowMs) row
  | ⟨.funding (.markFundingSubmittedIfRequired id signature), .ok written⟩ => written ≠ 0 →
      ∃ first row, first.fundingSignature = some signature ∧ first.status = .fundingSubmitted ∧
        world.funding.get id = some row ∧ Advances first row
  | ⟨.rules (.get id), .ok (some stored)⟩ => ∃ row, world.rules.get (ruleIdHex id) = some row ∧
      rowToStored platform.json row = .ok stored
  | ⟨.rules (.insert rule), .ok _⟩ => ∃ nowMs,
      world.rules.get (ruleIdHex rule.ruleId) = some (ruleToRow platform.json rule nowMs)
  | _ => True

theorem World.Later.advances {later : World} (hlater : world.Later later) {id : String}
    {first row : RowRaw} (hget : world.funding.get id = some row) (hadvances : Advances first row) :
    ∃ current, later.funding.get id = some current ∧ Advances first current := by
  obtain ⟨current, hcurrent, hrest⟩ := hlater.funding id row hget
  exact ⟨current, hcurrent, hadvances.trans hrest⟩

/-- A fact survives everything the tools do. -/
theorem Fact.later {event : Event mcpFace} {later : World} (hfact : Fact platform world event)
    (hlater : world.Later later) : Fact platform later event := by
  unfold Fact at hfact ⊢
  split at hfact
  next =>
    obtain ⟨first, row, hread, hget, hadvances⟩ := hfact
    obtain ⟨current, hcurrent, hadvances⟩ := hlater.advances hget hadvances
    exact ⟨first, current, hread, hcurrent, hadvances⟩
  next =>
    obtain ⟨nowMs, row, hget, hadvances⟩ := hfact
    obtain ⟨current, hcurrent, hadvances⟩ := hlater.advances hget hadvances
    exact ⟨nowMs, current, hcurrent, hadvances⟩
  next =>
    intro hwritten
    obtain ⟨first, row, hsigned, hstatus, hget, hadvances⟩ := hfact hwritten
    obtain ⟨current, hcurrent, hadvances⟩ := hlater.advances hget hadvances
    exact ⟨first, current, hsigned, hstatus, hcurrent, hadvances⟩
  next =>
    obtain ⟨row, hget, hstored⟩ := hfact
    exact ⟨row, hlater.rules _ _ hget, hstored⟩
  next =>
    obtain ⟨nowMs, hget⟩ := hfact
    exact ⟨nowMs, hlater.rules _ _ hget⟩
  next => trivial

/-- An answered call establishes its fact. -/
theorem fact_of_step {event : Event mcpFace} (hstep : mcpStep platform world event after) :
    Fact platform after event := by
  unfold Fact
  split
  next id intent =>
    obtain ⟨table, hattempt, rfl⟩ := hstep
    obtain ⟨_, hlookup, rfl⟩ := hattempt.of_ok
    obtain ⟨row, hget, hread⟩ := W5hFundingTable.lookup_eq_some.mp hlookup
    exact ⟨row, row, hread, hget, .refl row⟩
  next fresh answer =>
    obtain ⟨table, hattempt, rfl⟩ := hstep
    obtain ⟨nowMs, hok, rfl⟩ := hattempt.of_ok
    have hfree := w5hFunding_insert_ok.mp hok
    exact ⟨nowMs, fresh.toRow nowMs, Table.get_execute_inserted hfree,
      .refl _⟩
  next id signature written =>
    intro hwritten
    obtain ⟨table, hattempt, rfl⟩ := hstep
    obtain ⟨nowMs, hok, rfl⟩ := hattempt.of_ok
    obtain rfl := Except.ok.inj hok
    have hle := world.funding.affected_le_one
      (W5hOp.statement nowMs (.markFundingSubmittedIfRequired id signature))
    have hone : (world.funding.update id
        (W5hWrite.markFundingSubmittedIfRequired signature nowMs)).2 = 1 :=
      le_antisymm hle (Nat.one_le_iff_ne_zero.mpr hwritten)
    obtain ⟨row, hget, hguard⟩ := (Table.update_affected _ _ _).mp hone
    have hnext := (Table.get_update_self world.funding id
      (W5hWrite.markFundingSubmittedIfRequired signature nowMs))
    rw [hget, Option.map_some, Update.onRow_of_guard _ hguard] at hnext
    exact ⟨_, _, rfl, rfl, hnext, .refl _⟩
  next id stored =>
    obtain ⟨table, hattempt, rfl⟩ := hstep
    obtain ⟨_, hlookup, rfl⟩ := hattempt.of_ok
    obtain ⟨row, hget, hstored⟩ := WatchRuleTable.lookup_eq_some.mp hlookup
    exact ⟨row, hget, hstored⟩
  next rule answer =>
    obtain ⟨table, hattempt, rfl⟩ := hstep
    obtain ⟨nowMs, hok, rfl⟩ := hattempt.of_ok
    have hfree := watchRule_insert_ok.mp hok
    exact ⟨nowMs, Table.get_execute_inserted hfree⟩
  next => trivial

/-! ## Every interleaving keeps what its callers know -/

/-- What a caller with this log may rely on. -/
structure Knows (platform : Platform) (permits : Event mcpFace → Prop) (log : CallLog)
    (world : World) : Prop where
  permitted : ∀ event ∈ log, permits event
  facts : ∀ event ∈ log, Fact platform world event

theorem knows_nil (world : World) : Knows platform permits [] world where
  permitted _ hmem := by cases hmem
  facts _ hmem := by cases hmem

theorem Knows.later {log : CallLog} {later : World} (hknows : Knows platform permits log world)
    (hlater : world.Later later) : Knows platform permits log later :=
  { hknows with facts := fun event hmem => (hknows.facts event hmem).later hlater }

theorem Knows.step {log : CallLog} (hknows : Knows platform permits log world) {op : McpOp}
    {answer : op.Answer} (hallows : ToolAllows platform log op)
    (hstep : mcpWorld platform permits world ⟨op, answer⟩ after) :
    Knows platform permits (log ++ [⟨op, answer⟩]) after where
  permitted event hmem := by
    rcases List.mem_append.mp hmem with hold | hnew
    · exact hknows.permitted event hold
    · rw [List.mem_singleton.mp hnew]
      exact hstep.1
  facts event hmem := by
    rcases List.mem_append.mp hmem with hold | hnew
    · exact (hknows.facts event hold).later (later_of_allowed hallows hstep.2)
    · rw [List.mem_singleton.mp hnew]
      exact fact_of_step hstep.2

/-- Knowledge is kept by every interleaving, together with any store invariant
that the allowed calls keep. -/
def toolInvariant (platform : Platform) (permits : Event mcpFace → Prop) (inv : World → Prop)
    (hkeeps : ∀ {world log op answer after}, inv world → Knows platform permits log world →
      ToolAllows platform log op → mcpWorld platform permits world ⟨op, answer⟩ after →
      inv after) :
    PoolInvariant (mcpWorld platform permits) (toolDiscipline platform) where
  inv := inv
  holds := Knows platform permits
  compat _ _ := True
  compat_symm _ := trivial
  step hinv hknows hallows hstep :=
    ⟨hkeeps hinv hknows hallows hstep, hknows.step hallows hstep⟩
  frame _ _ hother _ hallows hstep :=
    ⟨hother.later (later_of_allowed hallows hstep.2), trivial⟩

end SolFrontier.Mcp
