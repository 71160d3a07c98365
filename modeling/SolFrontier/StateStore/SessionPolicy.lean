import SolFrontier.Foundation.Batches

/-! # Stored session policies

One row for each session with rules of its own. The rules are a text that the
store does not look into; saving again replaces the row.
-/

namespace SolFrontier.StateStore

open Foundation

structure SessionPolicyRow where
  sessionId : String
  rulesJson : String
  /-- Milliseconds since the epoch when the rules were stored. -/
  createdAt : Int64
  deriving DecidableEq, Repr

abbrev SessionPolicyTable := Table SessionPolicyRow String SessionPolicyRow.sessionId

namespace SessionPolicyTable

def load (table : SessionPolicyTable) (sessionId : String) : Option SessionPolicyRow :=
  table.get sessionId

def loadAll (table : SessionPolicyTable) : List SessionPolicyRow := table.rows

def count (table : SessionPolicyTable) : Nat := table.rows.length

/-- Save the rules of a session, at the clock's reading. -/
def save (table : SessionPolicyTable) (sessionId rulesJson : String) (now : Int64) :
    SessionPolicyTable :=
  table.replace { sessionId, rulesJson, createdAt := now }

/-- Remove the rules of a session. The second component is the number of rows removed. -/
def deleteSession (table : SessionPolicyTable) (sessionId : String) : SessionPolicyTable × Nat :=
  (table.retain fun row => row.sessionId ≠ sessionId,
    table.rows.countP fun row => row.sessionId = sessionId)

end SessionPolicyTable

/-- The writing calls of the repository. -/
inductive SessionPolicyOp where
  | save (sessionId rulesJson : String)
  | deleteSession (sessionId : String)
  deriving DecidableEq, Repr

namespace SessionPolicyOp

/-- The session a call is about. -/
def session : SessionPolicyOp → String
  | save sessionId _ => sessionId
  | deleteSession sessionId => sessionId

end SessionPolicyOp

/-- The repository, from an empty table, at the clock's reading in each call. -/
def sessionPolicyStore : Machine SessionPolicyTable (SessionPolicyOp × Int64) where
  init := Table.empty
  step table
    | (.save sessionId rulesJson, now) => table.save sessionId rulesJson now
    | (.deleteSession sessionId, _) => (table.deleteSession sessionId).1

namespace SessionPolicyTable

variable {table : SessionPolicyTable} {sessionId : String}

theorem load_save (table : SessionPolicyTable) (sessionId rulesJson : String) (now : Int64)
    (other : String) : (table.save sessionId rulesJson now).load other =
      if other = sessionId then some { sessionId, rulesJson, createdAt := now }
      else table.load other :=
  Table.get_replace table _ other

theorem load_deleteSession (table : SessionPolicyTable) (sessionId other : String) :
    (table.deleteSession sessionId).1.load other =
      if other = sessionId then none else table.load other := by
  show (table.retain _).get other = _
  rw [Table.get_retain]
  cases hget : table.get other with
  | none => simp [load, hget]
  | some row =>
      have hkey : row.sessionId = other := Table.key_of_get hget
      by_cases hsame : other = sessionId
      · simp [hkey, hsame]
      · simp [load, hget, hkey, hsame]

/-- A deletion reports one row exactly when there is one to remove. -/
theorem deleteSession_count (table : SessionPolicyTable) (sessionId : String) :
    (table.deleteSession sessionId).2 = if (table.load sessionId).isSome then 1 else 0 := by
  have hcount : (table.deleteSession sessionId).2 =
      (table.rows.map SessionPolicyRow.sessionId).count sessionId := by
    rw [List.count, List.countP_map]
    exact List.countP_congr fun row _ => by simp
  rw [hcount, table.nodup.count]
  congr 1
  simp [load, Table.get]

theorem mem_loadAll {row : SessionPolicyRow} (hload : table.load sessionId = some row) :
    row ∈ table.loadAll :=
  Table.mem_of_get hload

end SessionPolicyTable

/-- Calls about other sessions leave a row alone. -/
theorem load_step_of_ne {table : SessionPolicyTable} {sessionId : String}
    {call : SessionPolicyOp × Int64} (hother : call.1.session ≠ sessionId) :
    (sessionPolicyStore.step table call).load sessionId = table.load sessionId := by
  obtain ⟨op, now⟩ := call
  cases op with
  | save other rulesJson =>
      have hne : ¬ sessionId = other := Ne.symm hother
      exact (SessionPolicyTable.load_save table other rulesJson now sessionId).trans (if_neg hne)
  | deleteSession other =>
      have hne : ¬ sessionId = other := Ne.symm hother
      exact (SessionPolicyTable.load_deleteSession table other sessionId).trans (if_neg hne)

/-- What was saved for a session is loaded until another call is about it. -/
theorem load_after_save (before : List (SessionPolicyOp × Int64)) (rulesJson : String)
    (now : Int64) {sessionId : String} {later : List (SessionPolicyOp × Int64)}
    (hlater : ∀ call ∈ later, call.1.session ≠ sessionId) :
    (sessionPolicyStore.after
      (before ++ (.save sessionId rulesJson, now) :: later)).load sessionId =
      some { sessionId, rulesJson, createdAt := now } := by
  induction later using List.reverseRecOn with
  | nil =>
      rw [Machine.after_concat]
      exact (SessionPolicyTable.load_save _ sessionId rulesJson now sessionId).trans (if_pos rfl)
  | append_singleton earlier call ih =>
      -- The last call is about another session, and so are those before it.
      have hcall := hlater call (List.mem_append_right _ List.mem_cons_self)
      have hearlier := ih fun other hmem => hlater other (List.mem_append_left _ hmem)
      rw [← List.cons_append, ← List.append_assoc, Machine.after_concat, load_step_of_ne hcall]
      exact hearlier

end SolFrontier.StateStore
