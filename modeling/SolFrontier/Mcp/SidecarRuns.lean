import SolFrontier.Mcp.DraftIds

/-! # Runs of the sidecar

The database only grows, by one row per transaction, and a handle that became
unavailable stays so. A claim reports `Claimed` only in the transaction that
inserted its tombstone, so no two calls do so for one UUID; a lookup reports
what it read; and a call that starts on an unavailable handle stops there.
-/

namespace SolFrontier.Mcp.Sidecar

open Foundation Program

/-! ## What is written -/

/-- At most one new row at the end of either table. -/
structure Database.Extends (before after : Database) (draft : Option ConsumedDraft)
    (entry : Option HashIndexEntry) : Prop where
  drafts : after.consumedDrafts.rows = before.consumedDrafts.rows ++ draft.toList
  entries : after.canonicalHashIndex.rows = before.canonicalHashIndex.rows ++ entry.toList

namespace Database

theorem extends_refl (db : Database) : db.Extends db none none :=
  ⟨(List.append_nil _).symm, (List.append_nil _).symm⟩

theorem insertDraft_eq_some {db after : Database} {draft : ConsumedDraft}
    (hinsert : db.insertDraft draft = some after) :
    db.consumedDrafts.get draft.draftId = none ∧ db.Extends after (some draft) none := by
  unfold insertDraft at hinsert
  split at hinsert
  · split at hinsert
    · cases hinsert
    next drafts hdrafts =>
      obtain rfl := Option.some.inj hinsert
      exact ⟨Table.fresh_of_insert hdrafts, Table.rows_insert hdrafts, (List.append_nil _).symm⟩
  · cases hinsert

theorem insertEntry_eq_ok {db after : Database} {entry : HashIndexEntry}
    (hinsert : db.insertEntry entry = .ok (some after)) : db.Extends after none (some entry) := by
  unfold insertEntry at hinsert
  split at hinsert
  · split at hinsert
    · cases hinsert
    next index hindex =>
      split at hinsert
      · split at hinsert
        · obtain rfl := Option.some.inj (Except.ok.inj hinsert)
          exact ⟨(List.append_nil _).symm, Table.rows_insert hindex⟩
        · cases hinsert
      · cases hinsert
  · cases hinsert

end Database

/-- A commit leaves the state before or the one after, and reports its outcome
only with the latter. -/
theorem commit_cases {α : Type} {faults : Faults} {before after final : Database} {outcome : α}
    {answer : Except SidecarError α} (hcommit : commit faults before after outcome = (final, answer)) :
    (final = before ∨ final = after) ∧
      ∀ reported, answer = .ok reported → reported = outcome ∧ final = after := by
  unfold commit at hcommit
  split at hcommit
  · obtain ⟨rfl, rfl⟩ := Prod.mk.inj hcommit
    refine ⟨?_, fun _ hreported => by cases hreported⟩
    split
    · exact .inr rfl
    · exact .inl rfl
  · obtain ⟨rfl, rfl⟩ := Prod.mk.inj hcommit
    refine ⟨.inr rfl, ?_⟩
    intro reported hreported
    exact ⟨(Except.ok.inj hreported).symm, rfl⟩

theorem claimDraftInPool_cases {db after : Database} {faults : Faults}
    {draftId draftHash : String} {consumedAtMs : Int64}
    {answer : Except SidecarError ClaimOutcome}
    (hclaim : claimDraftInPool db faults draftId draftHash consumedAtMs = (after, answer)) :
    (after = db ∧ answer ≠ .ok .claimed) ∨
      (db.consumedDrafts.get draftId = none ∧
        (after = db ∧ answer ≠ .ok .claimed ∨
          db.Extends after (some ⟨draftId, draftHash, consumedAtMs⟩) none)) := by
  unfold claimDraftInPool at hclaim
  split at hclaim
  · obtain ⟨rfl, rfl⟩ := Prod.mk.inj hclaim
    exact .inl ⟨rfl, by simp⟩
  · split at hclaim
    next next hinsert =>
      obtain ⟨hfree, hextends⟩ := Database.insertDraft_eq_some hinsert
      obtain ⟨hfinal, hreported⟩ := commit_cases hclaim
      refine .inr ⟨hfree, ?_⟩
      by_cases hclaimed : answer = .ok .claimed
      · obtain ⟨_, rfl⟩ := hreported _ hclaimed
        exact .inr hextends
      · rcases hfinal with rfl | rfl
        · exact .inl ⟨rfl, hclaimed⟩
        · exact .inr hextends
    · left
      split at hclaim
      · obtain ⟨rfl, rfl⟩ := Prod.mk.inj hclaim
        exact ⟨rfl, by simp⟩
      · split at hclaim
        · split at hclaim
          all_goals
            obtain ⟨hfinal, hreported⟩ := commit_cases hclaim
            refine ⟨hfinal.elim id id, ?_⟩
            intro hclaimed
            cases (hreported _ hclaimed).1
        · obtain ⟨rfl, rfl⟩ := Prod.mk.inj hclaim
          exact ⟨rfl, by simp⟩

theorem indexHashInPool_cases {db after : Database} {faults : Faults}
    {canonicalRuleHash intentId draftId draftHash : String} {indexedAtMs : Int64}
    {answer : Except SidecarError IndexOutcome}
    (hindex : indexHashInPool db faults canonicalRuleHash intentId draftId draftHash indexedAtMs =
      (after, answer)) :
    after = db ∨
      db.Extends after none (some ⟨canonicalRuleHash, intentId, draftId, draftHash, indexedAtMs⟩) := by
  unfold indexHashInPool at hindex
  split at hindex
  · exact .inl (Prod.mk.inj hindex).1.symm
  · split at hindex
    · exact .inl (Prod.mk.inj hindex).1.symm
    next next hinsert =>
      rcases (commit_cases hindex).1 with rfl | rfl
      · exact .inl rfl
      · exact .inr (Database.insertEntry_eq_ok hinsert)
    · split at hindex
      · exact .inl (Prod.mk.inj hindex).1.symm
      · dsimp only at hindex
        split at hindex
        · exact .inl ((commit_cases hindex).1.elim id id)
        · exact .inl (Prod.mk.inj hindex).1.symm

namespace Database.Extends

variable {before after : Database} {draft : Option ConsumedDraft} {entry : Option HashIndexEntry}

theorem mem_draft (hextends : before.Extends after draft entry) {row : ConsumedDraft}
    (hmem : row ∈ before.consumedDrafts.rows) : row ∈ after.consumedDrafts.rows := by
  rw [hextends.drafts]
  exact List.mem_append_left _ hmem

theorem mem_entry (hextends : before.Extends after draft entry) {row : HashIndexEntry}
    (hmem : row ∈ before.canonicalHashIndex.rows) : row ∈ after.canonicalHashIndex.rows := by
  rw [hextends.entries]
  exact List.mem_append_left _ hmem

end Database.Extends

section Steps

variable {Handle : Type} [DecidableEq Handle] {world after : SidecarWorld Handle}
  {op : SidecarOp Handle} {answer : op.Answer}

/-- A transaction writes the row of its arguments, and nothing else writes. -/
theorem sidecarStep_extends (hstep : sidecarStep world ⟨op, answer⟩ after) :
    ∃ draft entry, world.db.Extends after.db draft entry ∧
      (∀ row, draft = some row →
        op = .claimDraftInPool row.draftId row.draftHash row.consumedAtMs) ∧
      (∀ row, entry = some row →
        op = .indexHashInPool row.canonicalRuleHash row.intentId row.draftId row.draftHash
          row.indexedAtMs) := by
  -- All but two operations leave the database as it is.
  have hsame (hdb : after.db = world.db) :
      ∃ draft entry, world.db.Extends after.db draft entry ∧
        (∀ row, draft = some row →
          op = .claimDraftInPool row.draftId row.draftHash row.consumedAtMs) ∧
        (∀ row, entry = some row →
          op = .indexHashInPool row.canonicalRuleHash row.intentId row.draftId row.draftHash
            row.indexedAtMs) := by
    refine ⟨none, none, ?_, ?_, ?_⟩
    · rw [hdb]
      exact world.db.extends_refl
    · intro _ hrow
      cases hrow
    · intro _ hrow
      cases hrow
  cases op with
  | poolForLookup handle =>
      obtain ⟨_, _, _, _, rfl⟩ := hstep
      exact hsame rfl
  | poolForClaim handle =>
      obtain ⟨_, _, _, _, _, rfl⟩ := hstep
      exact hsame rfl
  | readyPool handle =>
      obtain ⟨_, rfl⟩ := hstep
      exact hsame rfl
  | markUnavailable handle =>
      obtain rfl := hstep
      exact hsame rfl
  | selectHashEntry canonicalRuleHash =>
      obtain ⟨_, rfl⟩ := hstep
      exact hsame rfl
  | claimDraftInPool draftId draftHash consumedAtMs =>
      obtain ⟨faults, db, hclaim, rfl⟩ := hstep
      rcases claimDraftInPool_cases hclaim with ⟨rfl, _⟩ | ⟨_, ⟨rfl, _⟩ | hextends⟩
      · exact hsame rfl
      · exact hsame rfl
      · refine ⟨_, _, hextends, ?_, ?_⟩
        · intro row hrow
          obtain rfl := Option.some.inj hrow
          rfl
        · intro _ hrow
          cases hrow
  | indexHashInPool canonicalRuleHash intentId draftId draftHash indexedAtMs =>
      obtain ⟨faults, db, hindex, rfl⟩ := hstep
      rcases indexHashInPool_cases hindex with rfl | hextends
      · exact hsame rfl
      · refine ⟨_, _, hextends, ?_, ?_⟩
        · intro _ hrow
          cases hrow
        · intro row hrow
          obtain rfl := Option.some.inj hrow
          rfl

theorem sidecarStep_mem_draft {event : Event (sidecarFace Handle)}
    (hstep : sidecarStep world event after) {row : ConsumedDraft}
    (hmem : row ∈ world.db.consumedDrafts.rows) : row ∈ after.db.consumedDrafts.rows := by
  obtain ⟨_, _, hextends, _⟩ := sidecarStep_extends hstep
  exact hextends.mem_draft hmem

theorem sidecarStep_mem_entry {event : Event (sidecarFace Handle)}
    (hstep : sidecarStep world event after) {row : HashIndexEntry}
    (hmem : row ∈ world.db.canonicalHashIndex.rows) :
    row ∈ after.db.canonicalHashIndex.rows := by
  obtain ⟨_, _, hextends, _⟩ := sidecarStep_extends hstep
  exact hextends.mem_entry hmem

/-- The id of a claim that succeeds was free and is taken. -/
theorem sidecarStep_claimed {draftId draftHash : String} {consumedAtMs : Int64}
    (hstep : sidecarStep world
      ⟨.claimDraftInPool draftId draftHash consumedAtMs, .ok .claimed⟩ after) :
    world.db.consumedDrafts.get draftId = none ∧
      ⟨draftId, draftHash, consumedAtMs⟩ ∈ after.db.consumedDrafts.rows := by
  obtain ⟨faults, db, hclaim, rfl⟩ := hstep
  rcases claimDraftInPool_cases hclaim with ⟨_, hne⟩ | ⟨hfree, ⟨_, hne⟩ | hextends⟩
  · exact absurd rfl hne
  · exact absurd rfl hne
  · refine ⟨hfree, ?_⟩
    rw [hextends.drafts]
    exact List.mem_append_right _ (List.mem_singleton_self _)

end Steps

/-! ## What a call may do and reply -/

section Calls

variable {Handle : Type}

/-- The operations of a call, with the arguments it normalized and checked. -/
def Call.Permits (call : Call) : SidecarOp Handle → Prop
  | .claimDraftInPool draftId draftHash consumedAtMs => ∃ spelling,
      call = .claimDraft spelling draftHash consumedAtMs ∧ normalizeDraftId spelling = .ok draftId
  | .indexHashInPool canonicalRuleHash intentId draftId draftHash indexedAtMs => ∃ spelling,
      call = .indexHash canonicalRuleHash intentId spelling draftHash indexedAtMs ∧
        normalizeDraftId spelling = .ok draftId
  | .selectHashEntry canonicalRuleHash => call = .lookupHash canonicalRuleHash
  | _ => True

/-- `Claimed` and `Found` are the answers of a transaction and of a read. -/
def Reply.Justified (last : Option (Event (sidecarFace Handle))) : Reply → Prop
  | .claim .claimed => ∃ draftId draftHash consumedAtMs,
      last = some ⟨.claimDraftInPool draftId draftHash consumedAtMs, .ok .claimed⟩
  | .lookup (.found intentId) => ∃ canonicalRuleHash entry,
      last = some ⟨.selectHashEntry canonicalRuleHash, .ok (some entry)⟩ ∧
        entry.intentId = intentId
  | _ => True

end Calls

/-! ## Every interleaving -/

section Runs

variable {Handle : Type} [DecidableEq Handle]

/-- The row behind a reply of `Claimed` or `Found`. -/
def Reply.Backed (call : Call) (db : Database) : Reply → Prop
  | .claim .claimed => ∃ spelling draftId draftHash consumedAtMs,
      call = .claimDraft spelling draftHash consumedAtMs ∧
        normalizeDraftId spelling = .ok draftId ∧
        ⟨draftId, draftHash, consumedAtMs⟩ ∈ db.consumedDrafts.rows
  | .lookup (.found intentId) => ∃ entry ∈ db.canonicalHashIndex.rows,
      call = .lookupHash entry.canonicalRuleHash ∧ entry.intentId = intentId
  | _ => True

theorem Reply.Backed.step {call : Call} {reply : Reply} {world after : SidecarWorld Handle}
    {event : Event (sidecarFace Handle)} (hbacked : reply.Backed call world.db)
    (hstep : sidecarStep world event after) : reply.Backed call after.db := by
  match reply, hbacked with
  | .claim .claimed, ⟨spelling, draftId, draftHash, consumedAtMs, hcall, hnormal, hmem⟩ =>
      exact ⟨spelling, draftId, draftHash, consumedAtMs, hcall, hnormal,
        sidecarStep_mem_draft hstep hmem⟩
  | .lookup (.found intentId), ⟨entry, hmem, hentry⟩ =>
      exact ⟨entry, sidecarStep_mem_entry hstep hmem, hentry⟩
  | .claim .alreadyConsumed, _ | .claim .conflict, _ | .claim .unavailable, _ => trivial
  | .index _, _ => trivial
  | .lookup .missing, _ | .lookup .unavailable, _ => trivial

/-- What the last operation answered backs the reply it leads to. -/
theorem Reply.Justified.backed {call : Call} {world after : SidecarWorld Handle}
    {op : SidecarOp Handle} {answer : op.Answer} {reply : Reply} (hpermits : call.Permits op)
    (hstep : sidecarStep world ⟨op, answer⟩ after)
    (hjustified : reply.Justified (some (⟨op, answer⟩ : Event (sidecarFace Handle)))) :
    reply.Backed call after.db := by
  match reply, hjustified with
  | .claim .claimed, ⟨draftId, draftHash, consumedAtMs, hlast⟩ =>
      cases hlast
      obtain ⟨spelling, hcall, hnormal⟩ := hpermits
      exact ⟨spelling, draftId, draftHash, consumedAtMs, hcall, hnormal,
        (sidecarStep_claimed hstep).2⟩
  | .lookup (.found intentId), ⟨canonicalRuleHash, entry, hlast, hintent⟩ =>
      cases hlast
      obtain ⟨hread, rfl⟩ := hstep
      have hget : after.db.canonicalHashIndex.get canonicalRuleHash = some entry := by
        rcases hread with herror | hread
        · cases herror
        · exact (Except.ok.inj hread).symm
      refine ⟨entry, Table.mem_of_get hget, ?_, hintent⟩
      rw [Table.key_of_get hget]
      exact hpermits
  | .claim .alreadyConsumed, _ | .claim .conflict, _ | .claim .unavailable, _ => trivial
  | .index _, _ => trivial
  | .lookup .missing, _ | .lookup .unavailable, _ => trivial

variable {session later : Session (sidecarFace Handle) (SidecarWorld Handle) (Handle × Call) Reply}

/-- Some handle was asked for this call. -/
def Asked (session : Session (sidecarFace Handle) (SidecarWorld Handle) (Handle × Call) Reply)
    (call : Call) : Prop :=
  ∃ (number : Nat) (handle : Handle) (program : Program (sidecarFace Handle) Reply),
    session.calls[number]? = some ((handle, call), program)

theorem Asked.step {actor : Option Nat} {call : Call} (hasked : Asked session call)
    (hstep : (sidecarService Handle).Step actor session later) : Asked later call := by
  obtain ⟨number, handle, program, hcall⟩ := hasked
  obtain ⟨next, hnext⟩ := hstep.request hcall
  exact ⟨number, handle, next, hnext⟩

/-- Every row was written for a call that asked for it. -/
structure Recorded
    (session : Session (sidecarFace Handle) (SidecarWorld Handle) (Handle × Call) Reply) : Prop where
  drafts : ∀ row ∈ session.world.db.consumedDrafts.rows, ∃ spelling,
    Asked session (.claimDraft spelling row.draftHash row.consumedAtMs) ∧
      normalizeDraftId spelling = .ok row.draftId
  entries : ∀ row ∈ session.world.db.canonicalHashIndex.rows, ∃ spelling,
    Asked session (.indexHash row.canonicalRuleHash row.intentId spelling row.draftHash
      row.indexedAtMs) ∧ normalizeDraftId spelling = .ok row.draftId

/-- The arguments pass every check a call makes before it touches storage. -/
def Call.WellFormed : Call → Prop
  | claimDraft draftId draftHash consumedAtMs =>
      (∃ normal, normalizeDraftId draftId = .ok normal) ∧
        validateLowerHex "draft_hash" draftHash 64 = .ok () ∧
        validateTimestamp "consumed_at_ms" consumedAtMs = .ok ()
  | indexHash canonicalRuleHash intentId draftId draftHash indexedAtMs =>
      (∃ normal, normalizeDraftId draftId = .ok normal) ∧
        validateLowerHex "canonical_rule_hash" canonicalRuleHash 64 = .ok () ∧
        validateLowerHex "intent_id" intentId 32 = .ok () ∧
        validateLowerHex "draft_hash" draftHash 64 = .ok () ∧
        validateTimestamp "indexed_at_ms" indexedAtMs = .ok ()
  | lookupHash canonicalRuleHash =>
      validateLowerHex "canonical_rule_hash" canonicalRuleHash 64 = .ok ()

/-- The reply that reports the sidecar unavailable. -/
def Call.unavailable : Call → Reply
  | claimDraft .. => .claim .unavailable
  | indexHash .. => .index .unavailable
  | lookupHash _ => .lookup .unavailable

end Runs

/-! ## One draft, claimed twice -/

end SolFrontier.Mcp.Sidecar
