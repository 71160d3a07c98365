import SolFrontier.Foundation.History

/-! # Replacements, sweeps and calls of several statements

A replacement puts its row whatever is stored under the key, and a sweep writes
every row behind its guard. A call may consist of several such statements: other
calls run between them, and a call that fails stops after any of them. A history
therefore names one statement of one call at a time.
-/

namespace Foundation

universe u v w

namespace Table

variable {Row : Type u} {Key : Type v} {key : Row → Key} [DecidableEq Key]

/-- Put a row in the place of whatever its key holds. -/
def replace (table : Table Row Key key) (row : Row) : Table Row Key key :=
  ⟨(table.retain fun other => key other ≠ key row).rows ++ [row], by
    rw [List.map_append, List.nodup_append]
    refine ⟨(table.retain _).nodup, by simp, ?_⟩
    intro left hleft right hright
    obtain ⟨other, hother, rfl⟩ := List.mem_map.mp hleft
    obtain rfl : right = key row := by simpa using hright
    simpa using (List.mem_filter.mp hother).2⟩

theorem get_replace (table : Table Row Key key) (row : Row) (k : Key) :
    (table.replace row).get k = if k = key row then some row else table.get k := by
  by_cases heq : k = key row
  · rw [if_pos heq, get_eq_some_iff]
    exact ⟨List.mem_append_right _ (List.mem_singleton.mpr rfl), heq.symm⟩
  · rw [if_neg heq]
    have hkept : (table.retain fun other => key other ≠ key row).get k = table.get k := by
      rw [get_retain]
      cases hget : table.get k with
      | none => rfl
      | some stored =>
          have hkey : key stored ≠ key row := fun h => heq ((key_of_get hget).symm.trans h)
          simp [hkey]
    rw [← hkept]
    have hne : ¬ key row = k := fun h => heq h.symm
    simp [replace, get, List.find?_append, hne]

/-- Write every row behind the guard. The second component is the number of
rows the statement affected. -/
def sweep (table : Table Row Key key) (write : Update key) : Table Row Key key × Nat :=
  (⟨table.rows.map write.onRow, by
      have hkeys : (table.rows.map write.onRow).map key = table.rows.map key := by
        rw [List.map_map]
        exact List.map_congr_left fun row _ => write.key_onRow row
      rw [hkeys]
      exact table.nodup⟩,
    table.rows.countP write.guard)

theorem get_sweep (table : Table Row Key key) (write : Update key) (k : Key) :
    (table.sweep write).1.get k = (table.get k).map write.onRow := by
  cases hget : table.get k with
  | none =>
      rw [Option.map_none, get_eq_none]
      intro row hrow
      obtain ⟨stored, hstored, rfl⟩ := List.mem_map.mp hrow
      rw [write.key_onRow]
      exact get_eq_none.mp hget stored hstored
  | some stored =>
      obtain ⟨hmem, hkey⟩ := get_eq_some_iff.mp hget
      rw [Option.map_some, get_eq_some_iff]
      exact ⟨List.mem_map_of_mem hmem, (write.key_onRow stored).trans hkey⟩

end Table

/-- A statement over one table, or one of the two kinds that do more. -/
inductive Command {Row : Type u} {Key : Type v} (key : Row → Key) where
  | single (statement : Statement key)
  | replace (row : Row)
  | sweep (write : Update key)

namespace Command

variable {Row : Type u} {Key : Type v} {key : Row → Key}

/-- The command writes the row under a key in place. -/
def Writes (command : Command key) (k : Key) (write : Update key) : Prop :=
  command = .single (.update k write) ∨ command = .sweep write

end Command

namespace Table

variable {Row : Type u} {Key : Type v} {key : Row → Key} [DecidableEq Key]

/-- The table after a command. -/
def perform (table : Table Row Key key) : Command key → Table Row Key key
  | .single statement => table.execute statement
  | .replace row => table.replace row
  | .sweep write => (table.sweep write).1

/-- Everything a command can do to a stored row: nothing, replace it, or write
it in place behind a guard. -/
theorem get_perform_of_some {table : Table Row Key key} (command : Command key) {k : Key}
    {row : Row} (hget : table.get k = some row) :
    (table.perform command).get k = some row ∨
    (∃ fresh, command = .replace fresh ∧ key fresh = k ∧
      (table.perform command).get k = some fresh) ∨
    ∃ write, command.Writes k write ∧ write.guard row = true ∧
      (table.perform command).get k = some (write.set row) := by
  cases command with
  | single statement =>
      rcases get_execute_of_some statement hget with hsame | ⟨write, rfl, hguard, hnext⟩
      · exact .inl hsame
      · exact .inr (.inr ⟨write, .inl rfl, hguard, hnext⟩)
  | replace fresh =>
      by_cases heq : k = key fresh
      · refine .inr (.inl ⟨fresh, rfl, heq.symm, ?_⟩)
        simp [perform, get_replace, heq]
      · refine .inl ?_
        simp [perform, get_replace, heq, hget]
  | sweep write =>
      cases hguard : write.guard row with
      | false =>
          refine .inl ?_
          simp [perform, get_sweep, hget, write.onRow_of_not_guard hguard]
      | true =>
          refine .inr (.inr ⟨write, .inr rfl, hguard, ?_⟩)
          simp [perform, get_sweep, hget, write.onRow_of_guard hguard]

end Table

section Batches

variable {State : Type u} {Part : Type v} {Call : Type w}

/-- Perform the part a label names, if the call has so many. -/
def performPart (perform : State → Part → State) (parts : Call → List Part) (state : State)
    (label : Call × Nat) : State :=
  ((parts label.1)[label.2]?).elim state (perform state)

/-- The machine whose labels name one part of one call. -/
def batchMachine (init : State) (perform : State → Part → State) (parts : Call → List Part) :
    Machine State (Call × Nat) where
  init := init
  step := performPart perform parts

/-- The labels of a call that runs on its own, from its first part to its last. -/
def wholeCall (parts : Call → List Part) (call : Call) : List (Call × Nat) :=
  (List.range (parts call).length).map fun index => (call, index)

variable {init : State} {perform : State → Part → State} {parts : Call → List Part}

/-- A call of one part is that part at its first label and nothing after. -/
theorem performPart_singleton {call : Call} {part : Part} (hparts : parts call = [part])
    (state : State) (index : Nat) : performPart perform parts state (call, index) =
      if index = 0 then perform state part else state := by
  cases index with
  | zero => simp [performPart, hparts]
  | succ index => simp [performPart, hparts]

private theorem foldl_range_parts (call : Call) (state : State) {count : Nat}
    (hcount : count ≤ (parts call).length) :
    (List.range count).foldl (fun state index => performPart perform parts state (call, index))
      state = ((parts call).take count).foldl perform state := by
  induction count with
  | zero => rfl
  | succ count ih =>
      have hlt : count < (parts call).length := hcount
      rw [List.range_succ, List.foldl_append, ih (Nat.le_of_lt hlt), List.take_add_one,
        List.foldl_append]
      simp [performPart, List.getElem?_eq_getElem hlt]

theorem foldl_wholeCall (call : Call) (state : State) :
    (wholeCall parts call).foldl (performPart perform parts) state =
      (parts call).foldl perform state := by
  rw [wholeCall, List.foldl_map, foldl_range_parts call state (Nat.le_refl _), List.take_length]

/-- Calls that follow one another are among the histories. -/
theorem after_wholeCalls (calls : List Call) :
    (batchMachine init perform parts).after (calls.flatMap (wholeCall parts)) =
      calls.foldl (fun state call => (parts call).foldl perform state) init := by
  show (calls.flatMap (wholeCall parts)).foldl (performPart perform parts) init = _
  induction calls generalizing init with
  | nil => rfl
  | cons call calls ih =>
      rw [List.flatMap_cons, List.foldl_append, List.foldl_cons, foldl_wholeCall]
      exact ih

end Batches

end Foundation
