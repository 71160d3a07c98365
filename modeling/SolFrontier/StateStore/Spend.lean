import SolFrontier.Foundation.History
import SolFrontier.Foundation.MachineSums

/-! # The spend ledger

An append-only table of what signed transactions cost, one row for each
transaction. Totals are sums over a signed column, cast back to unsigned.
-/

namespace SolFrontier.StateStore

open Foundation

structure SpendRow where
  id : String
  walletPubkey : String
  sessionId : String
  transactionId : String
  lamportsSpent : Int64
  recordedDate : String
  recordedAt : Int64
  deriving DecidableEq, Repr

/-- The rows by primary key; the transaction id is unique as well. -/
abbrev SpendLedger := Table SpendRow String SpendRow.id

/-- What a caller reports once a transaction is signed. -/
structure Spend where
  walletPubkey : String
  sessionId : String
  transactionId : String
  lamportsSpent : UInt64
  deriving DecidableEq, Repr

/-- A report with the id that is drawn for its row and what the clock shows. -/
structure SpendCall extends Spend where
  id : String
  date : String
  nowMs : Int64
  deriving DecidableEq, Repr

def SpendCall.row (call : SpendCall) : SpendRow where
  id := call.id
  walletPubkey := call.walletPubkey
  sessionId := call.sessionId
  transactionId := call.transactionId
  lamportsSpent := call.lamportsSpent.toInt64
  recordedDate := call.date
  recordedAt := call.nowMs

namespace SpendLedger

/-- `INSERT OR IGNORE`. The second component says whether the row was inserted. -/
def recordSpend (ledger : SpendLedger) (call : SpendCall) : SpendLedger × Bool :=
  if ledger.rows.any fun row => row.transactionId = call.transactionId then (ledger, false)
  else
    match ledger.insert call.row with
    | some next => (next, true)
    | none => (ledger, false)

/-- `COALESCE(SUM(lamports_spent), 0)` of the selected rows. An overflow of the
sum is an error of the query. -/
def sumWhere (ledger : SpendLedger) (select : SpendRow → Bool) : Option UInt64 :=
  (sumChecked ((ledger.rows.filter select).map SpendRow.lamportsSpent)).map Int64.toUInt64

def walletDailySpend (ledger : SpendLedger) (walletPubkey date : String) : Option UInt64 :=
  ledger.sumWhere fun row => row.walletPubkey = walletPubkey && row.recordedDate = date

def sessionSpend (ledger : SpendLedger) (sessionId : String) : Option UInt64 :=
  ledger.sumWhere fun row => row.sessionId = sessionId

end SpendLedger

/-- The repository, from an empty ledger. -/
def spendStore : Machine SpendLedger SpendCall where
  init := Table.empty
  step ledger call := (ledger.recordSpend call).1

/-- Distinct transactions under distinct ids all leave their rows, in order. -/
theorem spendStore_rows {history : List SpendCall} (hids : (history.map SpendCall.id).Nodup)
    (htransactions : (history.map fun call => call.transactionId).Nodup) :
    (spendStore.after history).rows = history.map SpendCall.row := by
  induction history using List.reverseRecOn with
  | nil => rfl
  | append_singleton history call ih =>
      rw [List.map_append, List.nodup_append] at hids htransactions
      have hrows := ih hids.1 htransactions.1
      have hfresh : ((spendStore.after history).rows.any fun row =>
          row.transactionId = call.transactionId) = false := by
        rw [hrows, List.any_eq_false]
        intro row hrow htaken
        obtain ⟨earlier, hearlier, rfl⟩ := List.mem_map.mp hrow
        refine htransactions.2.2 _ (List.mem_map_of_mem hearlier) _ ?_ rfl
        exact List.mem_singleton.mpr (of_decide_eq_true htaken)
      have hfree : (spendStore.after history).get call.row.id = none := by
        rw [Table.get_eq_none, hrows]
        intro row hrow htaken
        obtain ⟨earlier, hearlier, rfl⟩ := List.mem_map.mp hrow
        refine hids.2.2 _ (List.mem_map_of_mem hearlier) _ ?_ rfl
        exact List.mem_singleton.mpr htaken
      rw [Machine.after_concat, List.map_append, ← hrows]
      show ((spendStore.after history).recordSpend call).1.rows = _
      rw [SpendLedger.recordSpend, if_neg (by simp [hfresh])]
      cases hinsert : (spendStore.after history).insert call.row with
      | none =>
          obtain ⟨existing, hexisting⟩ := Table.insert_eq_none.mp hinsert
          rw [hfree] at hexisting
          cases hexisting
      | some next => exact Table.rows_insert hinsert

end SolFrontier.StateStore
