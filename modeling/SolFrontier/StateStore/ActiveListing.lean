import SolFrontier.StateStore.RuleBook

/-! # Listing the active rules

The listing compares slots after a cast to signed 64-bit integers. The cast
keeps the order of two slots exactly when it keeps or loses the sign of both,
so the listing is exact when the current slot and the expiry slots of the
pending rules lie on one side of `2^63`.
-/

namespace SolFrontier.StateStore

open Foundation Types

/-! ## Slots in a signed column -/

/-- Casting keeps the order of two slots exactly when they lie on one side. -/
theorem signed_lt_iff (current expires : UInt64) :
    (current.toInt64 < expires.toInt64 ↔ current < expires) ↔
      (expires.toNat < 2 ^ 63 ↔ current.toNat < 2 ^ 63) := by
  have hcurrent := current.toNat_lt
  have hexpires := expires.toNat_lt
  rw [Int64.lt_iff_toInt_lt, UInt64.lt_iff_toNat_lt, toInt_toInt64, toInt_toInt64]
  split <;> split <;> omega

/-! ## What a listing should return -/

namespace StoredWatchRule

/-- Neither flagged completed or revoked nor in a terminal status. -/
def isPending (stored : StoredWatchRule) : Bool :=
  !stored.completed && !stored.revoked && !stored.status.isRetired

/-- Pending, and expiring after a slot. -/
def isLive (currentSlot : UInt64) (stored : StoredWatchRule) : Bool :=
  stored.isPending && currentSlot < stored.rule.expiresAtSlot

/-- What the listing compares. -/
def isListed (currentSlot : UInt64) (stored : StoredWatchRule) : Bool :=
  stored.isPending && currentSlot.toInt64 < stored.rule.expiresAtSlot.toInt64

end StoredWatchRule

def oldestFirst (stored : List StoredWatchRule) : List StoredWatchRule :=
  stored.mergeSort fun left right => left.createdAtMs ≤ right.createdAtMs

theorem isPending_of_reading {json : RuleJson} {row : WatchRuleRowRaw} {stored : StoredWatchRule}
    (hreading : Reading json row stored) : isPending row = stored.isPending := by
  obtain ⟨_, _, _, hstatus, hcompleted, hrevoked⟩ := rowToStored_ok hreading.reads
  obtain ⟨status, hcolumn⟩ := hreading.held.status
  rw [hcolumn, WatchRuleStatus.parse_asStr, Option.some.injEq] at hstatus
  have hterminal : inTerminalStatus row = stored.status.isRetired := by
    rw [inTerminalStatus, hcolumn, ← hstatus]
    cases status <;> rfl
  simp [isPending, StoredWatchRule.isPending, hterminal, hcompleted, hrevoked, Bool.and_assoc]

theorem createdAtMs_of_reading {json : RuleJson} {row : WatchRuleRowRaw} {stored : StoredWatchRule}
    (hreading : Reading json row stored) : stored.createdAtMs = row.createdAtMs := by
  rw [(rowToStored_ok_iff.mp hreading.reads).rest]

/-- Sorting by keys that related items share keeps the relation. -/
theorem forall₂_mergeSort {α β : Type} {R : α → β → Prop} {le : α → α → Bool} {le' : β → β → Bool}
    (hle : ∀ a b, R a b → ∀ a' b', R a' b' → le a a' = le' b b') {left : List α} {right : List β}
    (hrel : List.Forall₂ R left right) :
    List.Forall₂ R (left.mergeSort le) (right.mergeSort le') := by
  obtain ⟨hlength, hpairs⟩ := List.forall₂_iff_zip.mp hrel
  -- Both sides are projections of one sorted list of related pairs.
  let sorted := (left.zip right).mergeSort fun first second => le first.1 second.1
  have hmem : ∀ pair ∈ sorted, R pair.1 pair.2 :=
    fun pair hpair => hpairs (List.mem_mergeSort.mp hpair)
  have hleft : sorted.map Prod.fst = left.mergeSort le := by
    rw [List.map_mergeSort (s := le) (fun _ _ _ _ => rfl), List.map_fst_zip (le_of_eq hlength)]
  have hright : sorted.map Prod.snd = right.mergeSort le' := by
    rw [List.map_mergeSort (s := le') fun first hfirst second hsecond =>
        hle _ _ (hpairs hfirst) _ _ (hpairs hsecond),
      List.map_snd_zip (le_of_eq hlength.symm)]
  rw [← hleft, ← hright, List.forall₂_map_left_iff, List.forall₂_map_right_iff]
  exact List.forall₂_same.mpr hmem

/-- A listing of rows that all read back lists their readings. -/
theorem listWhere_readings {json : RuleJson} {table : WatchRuleTable}
    {stored : List StoredWatchRule} {select : WatchRuleRowRaw → Bool}
    {keep : StoredWatchRule → Bool} (hreadings : List.Forall₂ (Reading json) table.rows stored)
    (hselect : ∀ row stored, Reading json row stored → select row = keep stored) :
    table.listWhere json select none = .ok (oldestFirst (stored.filter keep)) ∧
      ∀ limit, table.listWhere json select (some limit) =
        .ok ((oldestFirst (stored.filter keep)).take limit.toNat) := by
  have hselected : List.Forall₂ (Reading json) (table.rows.filter select) (stored.filter keep) :=
    List.rel_filter (fun row stored hreading => iff_of_eq (congrArg (· = true)
      (hselect row stored hreading))) hreadings
  have hsorted : List.Forall₂ (Reading json)
      ((table.rows.filter select).mergeSort fun left right => left.createdAtMs ≤ right.createdAtMs)
      (oldestFirst (stored.filter keep)) := by
    apply forall₂_mergeSort _ hselected
    intro row stored hreading other known hother
    rw [createdAtMs_of_reading hreading, createdAtMs_of_reading hother]
  have hreads := hsorted.imp fun _ _ hreading => hreading.reads
  exact ⟨mapM_eq_ok.mpr hreads, fun limit => mapM_eq_ok.mpr (List.forall₂_take _ hreads)⟩

/-! ## Exact listings -/

/-- Both listings return the live ones among some stored rules. -/
def ListsExactly (json : RuleJson) (table : WatchRuleTable) (stored : List StoredWatchRule)
    (currentSlot : UInt64) : Prop :=
  table.listActive json currentSlot none =
      .ok (oldestFirst (stored.filter (·.isLive currentSlot))) ∧
    ∀ limit, table.listActive json currentSlot (some limit) =
      .ok ((oldestFirst (stored.filter (·.isLive currentSlot))).take limit.toNat)

theorem listActive_readings {json : RuleJson} {table : WatchRuleTable}
    {stored : List StoredWatchRule} (hreadings : List.Forall₂ (Reading json) table.rows stored)
    (currentSlot : UInt64) :
    table.listActive json currentSlot none =
        .ok (oldestFirst (stored.filter (·.isListed currentSlot))) ∧
      ∀ limit, table.listActive json currentSlot (some limit) =
        .ok ((oldestFirst (stored.filter (·.isListed currentSlot))).take limit.toNat) := by
  apply listWhere_readings hreadings
  intro row stored hreading
  rw [StoredWatchRule.isListed, ← isPending_of_reading hreading, ← hreading.held.expiresAtSlot,
    Bool.and_comm]
  simp [gt_iff_lt]

/-- A listing says which stored rules it keeps. -/
theorem filter_eq_of_oldestFirst {stored : List StoredWatchRule} {keep keep' : StoredWatchRule → Bool}
    (heq : oldestFirst (stored.filter keep) = oldestFirst (stored.filter keep')) :
    ∀ rule ∈ stored, keep rule = keep' rule := by
  intro rule hrule
  have hmem : rule ∈ stored.filter keep ↔ rule ∈ stored.filter keep' := by
    have hsorted : rule ∈ oldestFirst (stored.filter keep) ↔
        rule ∈ oldestFirst (stored.filter keep') := by rw [heq]
    rwa [oldestFirst, oldestFirst, List.mem_mergeSort, List.mem_mergeSort] at hsorted
  rw [List.mem_filter, List.mem_filter, and_congr_right_iff] at hmem
  exact Bool.eq_iff_iff.mpr (hmem hrule)

theorem isListed_eq_isLive_iff (currentSlot : UInt64) (stored : StoredWatchRule) :
    stored.isListed currentSlot = stored.isLive currentSlot ↔
      (stored.isPending = true →
        (stored.rule.expiresAtSlot.toNat < 2 ^ 63 ↔ currentSlot.toNat < 2 ^ 63)) := by
  rw [← signed_lt_iff, StoredWatchRule.isListed, StoredWatchRule.isLive]
  cases stored.isPending <;> simp

theorem listsExactly_iff {json : RuleJson} {table : WatchRuleTable} {stored : List StoredWatchRule}
    (hreadings : List.Forall₂ (Reading json) table.rows stored) (currentSlot : UInt64) :
    ListsExactly json table stored currentSlot ↔
      ∀ rule ∈ stored, rule.isPending = true →
        (rule.rule.expiresAtSlot.toNat < 2 ^ 63 ↔ currentSlot.toNat < 2 ^ 63) := by
  obtain ⟨hall, hlimited⟩ := listActive_readings hreadings currentSlot
  constructor
  · rintro ⟨hexact, _⟩ rule hrule
    rw [hall, Except.ok.injEq] at hexact
    exact (isListed_eq_isLive_iff currentSlot rule).mp
      (filter_eq_of_oldestFirst hexact rule hrule)
  · intro hsides
    have hsame : stored.filter (·.isListed currentSlot) = stored.filter (·.isLive currentSlot) :=
      List.filter_congr fun rule hrule =>
        (isListed_eq_isLive_iff currentSlot rule).mpr (hsides rule hrule)
    rw [hsame] at hall hlimited
    exact ⟨hall, hlimited⟩

/-- The table holds the accepted rules, all of which read back, and the active
ones are listed exactly, for a current slot, when that slot and the expiry slots
of the pending rules lie on one side of `2^63`. -/
theorem active_listing_exact_iff (json : RuleJson) {history : List WatchRuleCall}
    (hencodable : Encodable history) :
    ∃ stored, ((watchRuleStore json).after history).rows.mapM (rowToStored json) = .ok stored ∧
      stored.map (·.rule) = acceptedRules history ∧
      ∀ currentSlot : UInt64,
        ListsExactly json ((watchRuleStore json).after history) stored currentSlot ↔
          ∀ rule ∈ stored, rule.isPending = true →
            (rule.rule.expiresAtSlot.toNat < 2 ^ 63 ↔ currentSlot.toNat < 2 ^ 63) := by
  obtain ⟨stored, hreadings, hrules⟩ := exists_readings json hencodable
  have hreads := mapM_eq_ok.mpr (hreadings.imp fun _ _ hreading => hreading.reads)
  exact ⟨stored, hreads, hrules, listsExactly_iff hreadings⟩

/-- A stored rule that expires at slot 100 is listed at slot 7. -/
theorem active_listing_of_one_rule :
    ∃ stored, stored.map (·.rule) = [{ emptyDepositRule 0 with expiresAtSlot := 100 }] ∧
      ListsExactly .hex
        ((watchRuleStore .hex).after
          [(.insert { emptyDepositRule 0 with expiresAtSlot := 100 }, 0)]) stored 7 := by
  have hencodable : Encodable [(.insert { emptyDepositRule 0 with expiresAtSlot := 100 }, 0)] := by
    intro rule nowMs hmem
    obtain ⟨hrule, _⟩ := Prod.mk.inj (List.mem_singleton.mp hmem)
    obtain rfl := WatchRuleOp.insert.inj hrule
    show 0 < 2 ^ 32
    decide
  obtain ⟨stored, _, hrules, hlists⟩ := active_listing_exact_iff .hex hencodable
  refine ⟨stored, hrules, (hlists 7).mpr ?_⟩
  intro rule hrule _
  have hexpires := List.mem_map_of_mem (f := (·.rule)) hrule
  rw [hrules] at hexpires
  rw [List.mem_singleton.mp hexpires]
  decide

/-- A rule meant never to expire. -/
def unendingRule : WatchRule :=
  { emptyDepositRule 0 with expiresAtSlot := 18446744073709551615 }

/-- It is stored, active and unexpired, and the listing at slot 1 leaves it out. -/
theorem unending_rule_unlisted :
    ((watchRuleStore .hex).after [(.insert unendingRule, 0)]).rows.mapM (rowToStored .hex) =
        .ok [.fresh unendingRule 0] ∧
      ¬ ListsExactly .hex ((watchRuleStore .hex).after [(.insert unendingRule, 0)])
        [.fresh unendingRule 0] 1 := by
  have hvalid : WatchRule.codec.valid unendingRule := WatchRule.codec_valid (by decide)
  have hreading : Reading .hex (ruleToRow .hex unendingRule 0) (.fresh unendingRule 0) :=
    ⟨rowOf_ruleToRow unendingRule 0, rowToStored_ruleToRow .hex hvalid 0⟩
  have hreadings : List.Forall₂ (Reading .hex)
      ((watchRuleStore .hex).after [(.insert unendingRule, 0)]).rows [.fresh unendingRule 0] :=
    .cons hreading .nil
  refine ⟨mapM_eq_ok.mpr (hreadings.imp fun _ _ hread => hread.reads), ?_⟩
  intro hexact
  have hside := (listsExactly_iff hreadings 1).mp hexact _ (List.mem_singleton_self _) rfl
  revert hside
  decide

end SolFrontier.StateStore
