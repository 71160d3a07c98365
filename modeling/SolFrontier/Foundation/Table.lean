import Mathlib.Data.List.Nodup

/-! # Tables with a primary key and guarded updates

A table is a list of rows in insertion order whose keys are distinct. Inserting
an existing key is refused, and a guarded update rewrites the addressed row
only when its guard holds, reporting how many rows it changed. Every update is
described by its effect on one key, so a property of a table's history reduces
to a property of the histories of single rows.
-/

namespace Foundation

universe u v

/-- Rows in insertion order, distinct in the primary key. -/
structure Table (Row : Type u) (Key : Type v) (key : Row → Key) where
  rows : List Row
  nodup : (rows.map key).Nodup

/-- A conditional write that leaves the primary key alone. -/
structure Update {Row : Type u} {Key : Type v} (key : Row → Key) where
  guard : Row → Bool
  set : Row → Row
  key_set : ∀ row, key (set row) = key row

namespace Update

variable {Row : Type u} {Key : Type v} {key : Row → Key}

/-- The effect on the addressed row. -/
def onRow (update : Update key) (row : Row) : Row :=
  if update.guard row then update.set row else row

theorem key_onRow (update : Update key) (row : Row) :
    key (update.onRow row) = key row := by
  unfold onRow
  split
  · exact update.key_set row
  · rfl

theorem onRow_of_guard (update : Update key) {row : Row} (hguard : update.guard row = true) :
    update.onRow row = update.set row := by
  simp [onRow, hguard]

theorem onRow_of_not_guard (update : Update key) {row : Row} (hguard : update.guard row = false) :
    update.onRow row = row := by
  simp [onRow, hguard]

end Update

namespace Table

variable {Row : Type u} {Key : Type v} {key : Row → Key}

theorem ext_rows {left right : Table Row Key key} (heq : left.rows = right.rows) :
    left = right := by
  cases left
  cases right
  cases heq
  rfl

def empty : Table Row Key key := ⟨[], by simp⟩

instance : Inhabited (Table Row Key key) := ⟨empty⟩

variable [DecidableEq Key]

/-- The row stored under a key. -/
def get (table : Table Row Key key) (k : Key) : Option Row :=
  table.rows.find? fun row => key row = k

@[simp] theorem get_empty (k : Key) : (empty : Table Row Key key).get k = none := rfl

theorem key_of_get {table : Table Row Key key} {k : Key} {row : Row}
    (hget : table.get k = some row) : key row = k := by
  simpa using List.find?_some hget

theorem mem_of_get {table : Table Row Key key} {k : Key} {row : Row}
    (hget : table.get k = some row) : row ∈ table.rows :=
  List.mem_of_find?_eq_some hget

theorem get_eq_none {table : Table Row Key key} {k : Key} :
    table.get k = none ↔ ∀ row ∈ table.rows, key row ≠ k := by
  simp [get]

private theorem find?_key_of_nodup {rows : List Row} (hnodup : (rows.map key).Nodup)
    {row : Row} (hmem : row ∈ rows) :
    rows.find? (fun other => key other = key row) = some row := by
  induction rows with
  | nil => simp at hmem
  | cons head tail ih =>
      simp only [List.map_cons, List.nodup_cons] at hnodup
      rcases List.mem_cons.mp hmem with rfl | htail
      · simp
      · have hne : key head ≠ key row := by
          intro heq
          exact hnodup.1 (heq ▸ List.mem_map_of_mem htail)
        simp only [List.find?_cons, hne, decide_false]
        exact ih hnodup.2 htail

/-- Distinct keys make every stored row reachable by its own key. -/
theorem get_of_mem {table : Table Row Key key} {row : Row} (hmem : row ∈ table.rows) :
    table.get (key row) = some row :=
  find?_key_of_nodup table.nodup hmem

theorem get_eq_some_iff {table : Table Row Key key} {k : Key} {row : Row} :
    table.get k = some row ↔ row ∈ table.rows ∧ key row = k := by
  constructor
  · exact fun hget => ⟨mem_of_get hget, key_of_get hget⟩
  · rintro ⟨hmem, rfl⟩
    exact get_of_mem hmem

/-- Append a row, or refuse it when its key is taken. -/
def insert (table : Table Row Key key) (row : Row) : Option (Table Row Key key) :=
  if hfresh : table.get (key row) = none then
    some ⟨table.rows ++ [row], by
      rw [List.map_append, List.nodup_append]
      refine ⟨table.nodup, by simp, ?_⟩
      intro left hleft right hright
      obtain ⟨other, hother, rfl⟩ := List.mem_map.mp hleft
      simp only [List.map_cons, List.map_nil, List.mem_singleton] at hright
      rw [hright]
      exact get_eq_none.mp hfresh other hother⟩
  else none

theorem insert_eq_none {table : Table Row Key key} {row : Row} :
    table.insert row = none ↔ ∃ existing, table.get (key row) = some existing := by
  unfold insert
  split
  next hfresh => simp [hfresh]
  next hfresh => simpa using Option.ne_none_iff_exists'.mp hfresh

theorem fresh_of_insert {table next : Table Row Key key} {row : Row}
    (hinsert : table.insert row = some next) : table.get (key row) = none := by
  by_contra hne
  simp [insert, hne] at hinsert

theorem rows_insert {table next : Table Row Key key} {row : Row}
    (hinsert : table.insert row = some next) : next.rows = table.rows ++ [row] := by
  have hfresh := fresh_of_insert hinsert
  simp only [insert, hfresh, dite_true, Option.some.injEq] at hinsert
  rw [← hinsert]

theorem get_insert {table next : Table Row Key key} {row : Row}
    (hinsert : table.insert row = some next) (k : Key) :
    next.get k = if k = key row then some row else table.get k := by
  have hfresh := fresh_of_insert hinsert
  simp only [get, rows_insert hinsert, List.find?_append]
  by_cases heq : k = key row
  · subst heq
    simp only [get] at hfresh
    simp [hfresh]
  · have hne : ¬ key row = k := fun h => heq h.symm
    simp [heq, hne]

/-- An insert that may be refused stores its row under a free key only. -/
theorem get_insert_getD {table : Table Row Key key} {fresh row : Row} :
    ((table.insert fresh).getD table).get (key row) = some row ↔
      table.get (key row) = none ∧ fresh = row ∨ table.get (key row) = some row := by
  cases hinsert : table.insert fresh with
  | none =>
      obtain ⟨existing, hget⟩ := insert_eq_none.mp hinsert
      rw [Option.getD_none]
      constructor
      · exact .inr
      · rintro (⟨hfree, rfl⟩ | hstored)
        · rw [hfree] at hget
          cases hget
        · exact hstored
  | some next =>
      have hfresh := fresh_of_insert hinsert
      rw [Option.getD_some, get_insert hinsert]
      by_cases heq : key row = key fresh
      · rw [if_pos heq, heq, hfresh]
        simp
      · rw [if_neg heq]
        have hne : fresh ≠ row := fun hsame => heq (congrArg key hsame.symm)
        simp [hne]

/-- Rewrite the addressed row when the guard holds. The second component is
the number of rows the statement affected. -/
def update (table : Table Row Key key) (k : Key) (write : Update key) :
    Table Row Key key × Nat :=
  (⟨table.rows.map fun row => if key row = k then write.onRow row else row, by
      have hkeys : (table.rows.map fun row =>
          if key row = k then write.onRow row else row).map key = table.rows.map key := by
        rw [List.map_map]
        apply List.map_congr_left
        intro row _
        by_cases hkey : key row = k <;> simp [hkey, write.key_onRow]
      rw [hkeys]
      exact table.nodup⟩,
    match table.get k with
    | none => 0
    | some row => if write.guard row then 1 else 0)

private theorem find?_map_onRow (write : Update key) (k k' : Key) (rows : List Row) :
    (rows.map fun row => if key row = k then write.onRow row else row).find?
        (fun row => key row = k') =
      (rows.find? fun row => key row = k').map
        fun row => if k' = k then write.onRow row else row := by
  induction rows with
  | nil => rfl
  | cons head tail ih =>
      by_cases hhead : key head = k <;> by_cases hk' : key head = k'
      · subst hhead
        simp [write.key_onRow, hk'.symm]
      · subst hhead
        simp [write.key_onRow, hk', ih]
      · subst hk'
        simp [hhead]
      · simp [hhead, hk', ih]

/-- An update is a function of the addressed row and the identity elsewhere. -/
theorem get_update (table : Table Row Key key) (k : Key) (write : Update key) (k' : Key) :
    (table.update k write).1.get k' =
      if k' = k then (table.get k).map write.onRow else table.get k' := by
  simp only [update, get, find?_map_onRow]
  by_cases heq : k' = k
  · subst heq
    simp
  · simp [heq]

theorem get_update_self (table : Table Row Key key) (k : Key) (write : Update key) :
    (table.update k write).1.get k = (table.get k).map write.onRow := by
  simp [get_update]

theorem get_update_of_ne (table : Table Row Key key) {k k' : Key} (write : Update key)
    (hne : k' ≠ k) : (table.update k write).1.get k' = table.get k' := by
  simp [get_update, hne]

theorem update_affected (table : Table Row Key key) (k : Key) (write : Update key) :
    (table.update k write).2 = 1 ↔ ∃ row, table.get k = some row ∧ write.guard row = true := by
  unfold update
  cases hget : table.get k with
  | none => simp
  | some row => by_cases hguard : write.guard row = true <;> simp [hguard]

theorem update_affected_le_one (table : Table Row Key key) (k : Key) (write : Update key) :
    (table.update k write).2 ≤ 1 := by
  unfold update
  cases table.get k with
  | none => simp
  | some row => by_cases hguard : write.guard row = true <;> simp [hguard]

/-- A lost race is observationally a no-op: no affected row means no change. -/
theorem update_eq_self {table : Table Row Key key} {k : Key} {write : Update key}
    (hlost : (table.update k write).2 = 0) : (table.update k write).1 = table := by
  apply ext_rows
  simp only [update]
  conv_rhs => rw [← List.map_id table.rows]
  apply List.map_congr_left
  intro row hmem
  by_cases hkey : key row = k
  · have hget : table.get k = some row := hkey ▸ get_of_mem hmem
    have hguard : write.guard row = false := by
      by_contra hne
      have hone := (table.update_affected k write).mpr ⟨row, hget, by simpa using hne⟩
      omega
    simp [hkey, write.onRow_of_not_guard hguard]
  · simp [hkey]

/-- Keep only the rows a predicate selects. -/
def retain (table : Table Row Key key) (keep : Row → Bool) : Table Row Key key :=
  ⟨table.rows.filter keep, (List.Sublist.map key List.filter_sublist).nodup table.nodup⟩

theorem get_retain (table : Table Row Key key) (keep : Row → Bool) (k : Key) :
    (table.retain keep).get k = (table.get k).filter keep := by
  cases hget : table.get k with
  | none =>
      rw [Option.filter_none, get_eq_none]
      rw [get_eq_none] at hget
      exact fun row hmem => hget row (List.mem_filter.mp hmem).1
  | some row =>
      obtain ⟨hmem, hkey⟩ := get_eq_some_iff.mp hget
      cases hkeep : keep row with
      | true =>
          rw [Option.filter_some, if_pos hkeep, get_eq_some_iff]
          exact ⟨List.mem_filter.mpr ⟨hmem, hkeep⟩, hkey⟩
      | false =>
          rw [Option.filter_some, if_neg (by simp [hkeep]), get_eq_none]
          intro other hother heq
          obtain ⟨hin, htrue⟩ := List.mem_filter.mp hother
          have hsame := get_eq_some_iff.mpr ⟨hin, heq⟩
          rw [hget, Option.some.injEq] at hsame
          rw [← hsame, hkeep] at htrue
          exact absurd htrue (by simp)

theorem get_retain_other (table : Table Row Key key) (k : Key) :
    (table.retain fun row => key row ≠ k).get k = none := by
  rw [get_retain, Option.filter_eq_none_iff]
  intro row hget
  simp [key_of_get hget]

/-- Store a row in the place of any other under its key. -/
def put (table : Table Row Key key) (row : Row) : Table Row Key key :=
  ((table.retain fun other => key other ≠ key row).insert row).getD table

theorem get_put (table : Table Row Key key) (row : Row) (k : Key) :
    (table.put row).get k = if k = key row then some row else table.get k := by
  cases hinsert : (table.retain fun other => key other ≠ key row).insert row with
  | none =>
      obtain ⟨existing, hget⟩ := insert_eq_none.mp hinsert
      rw [get_retain_other] at hget
      cases hget
  | some next =>
      rw [put, hinsert, Option.getD_some, get_insert hinsert, get_retain]
      by_cases heq : k = key row
      · rw [if_pos heq, if_pos heq]
      · rw [if_neg heq, if_neg heq]
        cases hget : table.get k with
        | none => rfl
        | some other =>
            have hother : key other ≠ key row := key_of_get hget ▸ heq
            simp [hother]

end Table

end Foundation
