import SolFrontier.StateStore.W5hLifecycle

/-! # Reading funding intents back

The insert casts an amount into a signed column and the read converts it back
with a check. An amount from `2^63` on is accepted and can never be read again,
alone or in a list.
-/

namespace SolFrontier.StateStore

open Foundation

/-- A fresh row can be read exactly when its amount fits the signed column. -/
theorem rowToIntent_toRow_iff {fresh : NewW5hFundingIntent} {nowMs : Int64} :
    rowToIntent (fresh.toRow nowMs) = .ok (fresh.intent nowMs) ↔
      fresh.amountRaw.toNat < 2 ^ 63 := by
  constructor
  · intro hread
    by_contra hlarge
    exact (rowToIntent_ok.mp hread).1 (toInt64_neg_iff.mpr hlarge)
  · exact fun hamount => rowToIntent_toRow hamount nowMs

/-- Every accepted insert reads back, at once as inserted and later as the same
order, and no list ever fails. -/
structure FundingRoundTrips (history : List W5hCall) : Prop where
  reads : ∀ earlier fresh nowMs middle later,
    history = earlier ++ (.insert fresh, nowMs) :: (middle ++ later) →
    (w5hStore.after earlier).get fresh.intentId = none →
    ∃ intent, (w5hStore.after (earlier ++ (.insert fresh, nowMs) :: middle)).lookup fresh.intentId =
        .ok (some intent) ∧
      (fresh.intent nowMs).SameOrder intent ∧ (middle = [] → intent = fresh.intent nowMs)
  lists : ∀ earlier later, history = earlier ++ later → ∀ (nowMs : Int64) (limit : UInt32),
    (∃ intents, (w5hStore.after earlier).listBudgetReserved limit = .ok intents) ∧
    ∃ intents, (w5hStore.after earlier).listEligibleForRefund nowMs limit = .ok intents

/-- Every amount that an insert has accepted fits the signed column. -/
def AmountsFit (history : List W5hCall) : Prop :=
  w5hStore.Throughout (fun table call => ∀ fresh, call.1 = .insert fresh →
    table.get fresh.intentId = none → fresh.amountRaw.toNat < 2 ^ 63) history

section RoundTrip

variable {history : List W5hCall}

/-- An accepted insert leaves its row. -/
theorem get_after_insert {fresh : NewW5hFundingIntent} (nowMs : Int64)
    (hfree : (w5hStore.after history).get fresh.intentId = none) :
    (w5hStore.after (history ++ [(.insert fresh, nowMs)])).get fresh.intentId =
      some (fresh.toRow nowMs) := by
  rw [Machine.after_concat]
  exact @Table.get_execute_inserted _ _ _ _ _ (fresh.toRow nowMs) hfree

/-- While the amounts fit, every stored row can be read. -/
theorem AmountsFit.reads (hfit : AmountsFit history) {id : String} {row : RowRaw}
    (hget : (w5hStore.after history).get id = some row) :
    rowToIntent row = .ok row.toIntent := by
  obtain ⟨before, fresh, nowMs, later, hhistory, rfl, hfree, hsame⟩ := insertedOrder_of_get hget
  have hamount := hfit before (.insert fresh, nowMs) later hhistory fresh rfl hfree
  exact (hsame.intent (rowToIntent_toRow hamount nowMs)).1

/-- A list over rows that can all be read succeeds. -/
theorem listWhere_ok {table : W5hFundingTable} (select : RowRaw → Bool) (limit : UInt32)
    (hreads : ∀ row ∈ table.rows, rowToIntent row = .ok row.toIntent) :
    ∃ intents, table.listWhere select limit = .ok intents := by
  unfold W5hFundingTable.listWhere
  split
  · exact ⟨[], rfl⟩
  · apply exists_mapM_eq_ok
    intro row hrow
    have hsorted := List.mem_mergeSort.mp (List.mem_of_mem_take hrow)
    exact ⟨_, hreads row (List.mem_filter.mp hsorted).1⟩

/-- Any calls at any clock readings: funding intents round-trip and the lists
never fail exactly when every accepted amount is below `2^63`. -/
theorem funding_round_trips_iff (history : List W5hCall) :
    FundingRoundTrips history ↔ AmountsFit history := by
  constructor
  · rintro htrips earlier ⟨op, nowMs⟩ later hhistory fresh rfl hfree
    obtain ⟨intent, hread, _, hsame⟩ := htrips.reads earlier fresh nowMs [] later hhistory hfree
    obtain rfl := hsame rfl
    obtain ⟨row, hget, hrow⟩ := W5hFundingTable.lookup_eq_some.mp hread
    obtain rfl := Option.some.inj ((get_after_insert nowMs hfree).symm.trans hget)
    exact rowToIntent_toRow_iff.mp hrow
  · intro hfit
    constructor
    · intro earlier fresh nowMs middle later hhistory hfree
      have hamount := hfit earlier (.insert fresh, nowMs) (middle ++ later) hhistory fresh rfl hfree
      have hread := rowToIntent_toRow hamount nowMs
      obtain ⟨current, hcurrent, hsame⟩ := w5hRow_continues (R := RowRaw.SameOrder)
        (fun _ _ _ _ hchange => RowRaw.SameOrder.changes hchange) (.refl _)
        (get_after_insert nowMs hfree) middle
      rw [List.append_assoc, List.singleton_append] at hcurrent
      obtain ⟨hnow, horder⟩ := hsame.intent hread
      refine ⟨current.toIntent, W5hFundingTable.lookup_eq_some.mpr ⟨current, hcurrent, hnow⟩,
        horder, ?_⟩
      rintro rfl
      obtain rfl := Option.some.inj (hcurrent.symm.trans (get_after_insert nowMs hfree))
      exact (rowToIntent_ok.mp hread).2
    · rintro earlier later rfl nowMs limit
      have hreads : ∀ row ∈ (w5hStore.after earlier).rows, rowToIntent row = .ok row.toIntent :=
        fun row hrow => AmountsFit.reads (w5hStore.throughout_of_append hfit) (Table.get_of_mem hrow)
      exact ⟨listWhere_ok _ limit hreads, listWhere_ok _ limit hreads⟩

end RoundTrip

/-! ## The largest amount -/

/-- An accepted order for the largest amount cannot be read back. -/
theorem largest_amount_unreadable : ∃ history, ¬ FundingRoundTrips history := by
  refine ⟨[(.insert { sampleIntent with amountRaw := 18446744073709551615 }, 1000)], ?_⟩
  intro htrips
  have hfit := (@rowToIntent_toRow_iff
    { sampleIntent with amountRaw := 18446744073709551615 } 1000).not.mpr (by decide)
  obtain ⟨intent, hread, _, hsame⟩ := htrips.reads [] _ 1000 [] [] rfl rfl
  obtain rfl := hsame rfl
  obtain ⟨row, hget, hrow⟩ := W5hFundingTable.lookup_eq_some.mp hread
  obtain rfl := Option.some.inj
    ((@get_after_insert [] _ 1000 (Table.get_empty _)).symm.trans hget)
  exact hfit hrow

end SolFrontier.StateStore
