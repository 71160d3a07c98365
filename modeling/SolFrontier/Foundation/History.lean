import Mathlib.Data.List.Induction
import SolFrontier.Foundation.Table

/-! # Histories

A machine takes one labelled step after another from its initial state. For a
machine whose labels are statements over one table, a law about every history
follows from what an insert writes and what each guarded update preserves.
-/

namespace Foundation

universe u v w

/-- A deterministic machine driven by a list of labels. -/
structure Machine (State : Type u) (Label : Type w) where
  init : State
  step : State → Label → State

namespace Machine

variable {State : Type u} {Label : Type w} (machine : Machine State Label)

/-- The state a history leads to. -/
def after (history : List Label) : State :=
  history.foldl machine.step machine.init

@[simp] theorem after_nil : machine.after [] = machine.init := rfl

theorem after_append (history later : List Label) :
    machine.after (history ++ later) = later.foldl machine.step (machine.after history) :=
  List.foldl_append

@[simp] theorem after_concat (history : List Label) (label : Label) :
    machine.after (history ++ [label]) = machine.step (machine.after history) label := by
  simp [after_append]

/-- A property of histories and their states, proved one step at a time. -/
theorem after_induction {P : List Label → State → Prop} (hinit : P [] machine.init)
    (hstep : ∀ history label, P history (machine.after history) →
      P (history ++ [label]) (machine.step (machine.after history) label))
    (history : List Label) : P history (machine.after history) := by
  induction history using List.reverseRecOn with
  | nil => exact hinit
  | append_singleton history label ih =>
      rw [after_concat]
      exact hstep history label ih

/-- What every step preserves survives every continuation. -/
theorem after_stable {P : State → Prop}
    (hstep : ∀ state label, P state → P (machine.step state label))
    {history : List Label} (hnow : P (machine.after history)) (later : List Label) :
    P (machine.after (history ++ later)) := by
  rw [after_append]
  induction later generalizing history with
  | nil => exact hnow
  | cons label later ih =>
      have hnext : P (machine.after (history ++ [label])) := by
        rw [after_concat]
        exact hstep _ _ hnow
      simpa using ih hnext

/-- The machine that goes on from where a history led. -/
def resume (history : List Label) : Machine State Label where
  init := machine.after history
  step := machine.step

@[simp] theorem after_resume (history later : List Label) :
    (machine.resume history).after later = machine.after (history ++ later) :=
  (machine.after_append history later).symm

/-- Every label of a history satisfies a condition on it and the state it meets. -/
def Throughout (condition : State → Label → Prop) (history : List Label) : Prop :=
  ∀ earlier label later, history = earlier ++ label :: later →
    condition (machine.after earlier) label

theorem throughout_nil (condition : State → Label → Prop) :
    machine.Throughout condition [] := by
  intro earlier label later heq
  simp at heq

theorem throughout_concat {condition : State → Label → Prop} {history : List Label}
    {label : Label} : machine.Throughout condition (history ++ [label]) ↔
      machine.Throughout condition history ∧ condition (machine.after history) label := by
  constructor
  · intro hall
    refine ⟨?_, hall history label [] rfl⟩
    intro earlier other later heq
    apply hall earlier other (later ++ [label])
    rw [heq, List.append_assoc, List.cons_append]
  · rintro ⟨hbefore, hlast⟩ earlier other later heq
    rcases List.eq_nil_or_concat later with rfl | ⟨initial, last, rfl⟩
    · obtain ⟨rfl, hlabel⟩ := List.append_inj' heq rfl
      obtain rfl := List.singleton_inj.mp hlabel
      exact hlast
    · rw [List.concat_eq_append, ← List.cons_append, ← List.append_assoc] at heq
      exact hbefore earlier other initial (List.append_inj' heq rfl).1

/-- What holds throughout a history holds throughout its beginnings. -/
theorem throughout_of_append {condition : State → Label → Prop} {history later : List Label}
    (hall : machine.Throughout condition (history ++ later)) :
    machine.Throughout condition history := by
  intro earlier label rest heq
  apply hall earlier label (rest ++ later)
  rw [heq, List.append_assoc, List.cons_append]

/-- What holds throughout a continuation holds at its first step and after it. -/
theorem throughout_resume_cons {condition : State → Label → Prop} {past later : List Label}
    {label : Label} : (machine.resume past).Throughout condition (label :: later) ↔
      condition (machine.after past) label ∧
        (machine.resume (past ++ [label])).Throughout condition later := by
  constructor
  · intro hall
    refine ⟨hall [] label later rfl, ?_⟩
    rintro earlier other rest rfl
    have hnow := hall (label :: earlier) other rest rfl
    rwa [after_resume, List.append_assoc, List.singleton_append, ← after_resume]
  · rintro ⟨hfirst, hrest⟩ earlier other rest heq
    cases earlier with
    | nil =>
        obtain ⟨rfl, _⟩ := List.cons.inj heq
        exact hfirst
    | cons first earlier =>
        obtain ⟨rfl, rfl⟩ := List.cons.inj heq
        have hnow := hrest earlier other rest rfl
        rwa [after_resume, List.append_assoc, List.singleton_append, ← after_resume] at hnow

/-- A property that some steps bring about and some labels end holds exactly when
a step brought it about and no label has ended it since. -/
theorem since_iff (holds : State → Prop) (brings : State → Label → Prop) (ends : Label → Prop)
    (hinit : ¬ holds machine.init)
    (hstep : ∀ state label,
      holds (machine.step state label) ↔ brings state label ∨ holds state ∧ ¬ ends label)
    (history : List Label) :
    holds (machine.after history) ↔ ∃ earlier label later, history = earlier ++ label :: later ∧
      brings (machine.after earlier) label ∧ ∀ other ∈ later, ¬ ends other := by
  induction history using List.reverseRecOn with
  | nil =>
      rw [after_nil]
      exact ⟨fun hnow => absurd hnow hinit, by rintro ⟨earlier, label, later, heq, _⟩; simp at heq⟩
  | append_singleton history last ih =>
      rw [after_concat, hstep, ih]
      constructor
      · rintro (hbrings | ⟨⟨earlier, label, later, rfl, hbrings, hkept⟩, hlast⟩)
        · exact ⟨history, last, [], rfl, hbrings, by simp⟩
        · refine ⟨earlier, label, later ++ [last], by simp, hbrings, ?_⟩
          intro other hmem
          rcases List.mem_append.mp hmem with hold | hnew
          · exact hkept other hold
          · rwa [List.mem_singleton.mp hnew]
      · rintro ⟨earlier, label, later, heq, hbrings, hkept⟩
        rcases List.eq_nil_or_concat later with rfl | ⟨initial, final, rfl⟩
        · obtain ⟨rfl, hlabel⟩ := List.append_inj' heq rfl
          rw [List.singleton_inj.mp hlabel]
          exact .inl hbrings
        · rw [List.concat_eq_append] at heq hkept
          rw [← List.cons_append, ← List.append_assoc] at heq
          obtain ⟨hhistory, hlabel⟩ := List.append_inj' heq rfl
          obtain rfl := List.singleton_inj.mp hlabel
          refine .inr ⟨⟨earlier, label, initial, hhistory, hbrings, ?_⟩, hkept last (by simp)⟩
          exact fun other hmem => hkept other (List.mem_append_left _ hmem)

/-- What each step of a history shows, in order. -/
def observe {Seen : Type v} (shows : State → Label → Seen) (history : List Label) : List Seen :=
  (history.foldl (fun run label => (machine.step run.1 label, run.2 ++ [shows run.1 label]))
    (machine.init, [])).2

@[simp] theorem observe_nil {Seen : Type v} (shows : State → Label → Seen) :
    machine.observe shows [] = [] := rfl

@[simp] theorem observe_concat {Seen : Type v} (shows : State → Label → Seen)
    (history : List Label) (label : Label) :
    machine.observe shows (history ++ [label]) =
      machine.observe shows history ++ [shows (machine.after history) label] := by
  have hstate : ∀ history : List Label, (history.foldl (fun run label =>
      (machine.step run.1 label, run.2 ++ [shows run.1 label])) (machine.init, [])).1 =
        machine.after history := by
    intro history
    induction history using List.reverseRecOn with
    | nil => rfl
    | append_singleton history label ih =>
        rw [List.foldl_append, after_concat, ← ih]
        rfl
  unfold observe
  rw [List.foldl_append, ← hstate history]
  rfl

end Machine

/-- The statements of a repository over one table. -/
inductive Statement {Row : Type u} {Key : Type v} (key : Row → Key) where
  | read
  | insert (row : Row)
  | update (k : Key) (write : Update key)

namespace Table

variable {Row : Type u} {Key : Type v} {key : Row → Key} [DecidableEq Key]

/-- The table after a statement; a refused insert leaves it as it was. -/
def execute (table : Table Row Key key) : Statement key → Table Row Key key
  | .read => table
  | .insert row => (table.insert row).getD table
  | .update k write => (table.update k write).1

/-- How many rows the statement wrote. -/
def affected (table : Table Row Key key) : Statement key → Nat
  | .read => 0
  | .insert row => if (table.insert row).isSome then 1 else 0
  | .update k write => (table.update k write).2

theorem affected_le_one (table : Table Row Key key) (statement : Statement key) :
    table.affected statement ≤ 1 := by
  cases statement with
  | read => exact Nat.zero_le 1
  | insert row =>
      simp only [affected]
      split <;> omega
  | update k write => exact table.update_affected_le_one k write

/-- Everything a statement can do to the row under one key. -/
theorem get_execute_cases (table : Table Row Key key) (statement : Statement key) (k : Key) :
    (table.execute statement).get k = table.get k ∨
    (∃ row, statement = .insert row ∧ key row = k ∧ table.get k = none ∧
      (table.execute statement).get k = some row) ∨
    (∃ write row, statement = .update k write ∧ table.get k = some row ∧
      write.guard row = true ∧ (table.execute statement).get k = some (write.set row)) := by
  cases statement with
  | read => exact .inl rfl
  | insert row =>
      cases hinsert : table.insert row with
      | none => simp [execute, hinsert]
      | some next =>
          by_cases heq : k = key row
          · subst heq
            refine .inr (.inl ⟨row, rfl, rfl, fresh_of_insert hinsert, ?_⟩)
            simp [execute, hinsert, get_insert hinsert]
          · simp [execute, hinsert, get_insert hinsert, heq]
  | update target write =>
      by_cases heq : k = target
      · subst heq
        cases hget : table.get k with
        | none => simp [execute, get_update_self, hget]
        | some row =>
            cases hguard : write.guard row with
            | false => simp [execute, get_update_self, hget, write.onRow_of_not_guard hguard]
            | true =>
                refine .inr (.inr ⟨write, row, rfl, rfl, hguard, ?_⟩)
                simp [execute, get_update_self, hget, write.onRow_of_guard hguard]
      · exact .inl (get_update_of_ne table write heq)

/-- A statement that wrote no row left the table as it was. -/
theorem execute_eq_self {table : Table Row Key key} {statement : Statement key}
    (hlost : table.affected statement = 0) : table.execute statement = table := by
  cases statement with
  | read => rfl
  | insert row =>
      cases hinsert : table.insert row with
      | none => simp [execute, hinsert]
      | some next => simp [affected, hinsert] at hlost
  | update k write => exact update_eq_self hlost

/-- A stored row is never deleted: it stays, or one guarded write changes it. -/
theorem get_execute_of_some {table : Table Row Key key} (statement : Statement key) {k : Key}
    {row : Row} (hget : table.get k = some row) :
    (table.execute statement).get k = some row ∨
    ∃ write, statement = .update k write ∧ write.guard row = true ∧
      (table.execute statement).get k = some (write.set row) := by
  rcases table.get_execute_cases statement k with
    hsame | ⟨_, _, _, hnone, _⟩ | ⟨write, current, hstatement, hcurrent, hguard, hnext⟩
  · exact .inl (hsame.trans hget)
  · exact absurd (hget.symm.trans hnone) (by simp)
  · obtain rfl : current = row := Option.some.inj (hcurrent.symm.trans hget)
    exact .inr ⟨write, hstatement, hguard, hnext⟩

/-- An insert writes its row exactly when the key is free. -/
theorem affected_insert (table : Table Row Key key) (row : Row) :
    table.affected (.insert row) = 1 ↔ table.get (key row) = none := by
  cases hinsert : table.insert row with
  | none =>
      obtain ⟨existing, hget⟩ := insert_eq_none.mp hinsert
      simp [affected, hinsert, hget]
  | some next => simp [affected, hinsert, fresh_of_insert hinsert]

theorem get_execute_update {table : Table Row Key key} {k : Key} {write : Update key} {row : Row}
    (hget : table.get k = some row) (hguard : write.guard row = true) :
    (table.execute (.update k write)).get k = some (write.set row) := by
  simp [execute, get_update_self, hget, write.onRow_of_guard hguard]

/-- A granted update found its row behind the guard and leaves it written. -/
theorem execute_granted {table : Table Row Key key} {k : Key} {write : Update key}
    (hone : table.affected (.update k write) = 1) :
    ∃ row, table.get k = some row ∧ write.guard row = true ∧
      (table.execute (.update k write)).get k = some (write.set row) := by
  obtain ⟨row, hget, hguard⟩ := (table.update_affected k write).mp hone
  exact ⟨row, hget, hguard, get_execute_update hget hguard⟩

theorem get_execute_insert {table : Table Row Key key} {row : Row}
    (hfree : table.get (key row) = none) (k : Key) :
    (table.execute (.insert row)).get k = if k = key row then some row else table.get k := by
  cases hinsert : table.insert row with
  | none =>
      obtain ⟨existing, hget⟩ := insert_eq_none.mp hinsert
      rw [hfree] at hget
      cases hget
  | some next => simp [execute, hinsert, get_insert hinsert]

/-- A row whose key is free is there once it is inserted. -/
theorem get_execute_inserted {table : Table Row Key key} {row : Row}
    (hfree : table.get (key row) = none) :
    (table.execute (.insert row)).get (key row) = some row :=
  (get_execute_insert hfree _).trans (if_pos rfl)

end Table

section Repository

variable {Row : Type u} {Key : Type v} {key : Row → Key} [DecidableEq Key] {Op : Type w}

/-- The machine that starts from an empty table and executes operations. -/
def tableMachine (statement : Op → Statement key) : Machine (Table Row Key key) Op where
  init := Table.empty
  step table op := table.execute (statement op)

variable {statement : Op → Statement key}

/-- A row property that inserts establish and updates preserve holds in every
row of every history. -/
theorem row_invariant {P : Row → Prop}
    (hinsert : ∀ op row, statement op = .insert row → P row)
    (hwrite : ∀ op k write row, statement op = .update k write → write.guard row = true →
      P row → P (write.set row))
    {history : List Op} {k : Key} {row : Row}
    (hget : ((tableMachine statement).after history).get k = some row) : P row := by
  refine (tableMachine statement).after_induction
    (P := fun _ table => ∀ row, table.get k = some row → P row) ?_ ?_ history row hget
  · simp [tableMachine]
  · intro history op ih row hrow
    rcases Table.get_execute_cases ((tableMachine statement).after history) (statement op) k with
      hsame | ⟨fresh, hop, _, _, hnext⟩ | ⟨write, current, hop, hcurrent, hguard, hnext⟩
    · exact ih row (hsame.symm.trans hrow)
    · obtain rfl : fresh = row := Option.some.inj (hnext.symm.trans hrow)
      exact hinsert op fresh hop
    · obtain rfl : write.set current = row := Option.some.inj (hnext.symm.trans hrow)
      exact hwrite op k write current hop hguard (ih current hcurrent)

/-- A relation to an earlier version of a row that every update preserves
holds between that version and every later one. -/
theorem row_continues {R : Row → Row → Prop}
    (hwrite : ∀ op k write first row, statement op = .update k write →
      write.guard row = true → R first row → R first (write.set row))
    {history : List Op} {k : Key} {row : Row} (hrefl : R row row)
    (hget : ((tableMachine statement).after history).get k = some row) (later : List Op) :
    ∃ current, ((tableMachine statement).after (history ++ later)).get k = some current ∧
      R row current := by
  refine (tableMachine statement).after_stable
    (P := fun table => ∃ current, table.get k = some current ∧ R row current)
    ?_ ⟨row, hget, hrefl⟩ later
  rintro table op ⟨current, hcurrent, hrel⟩
  rcases Table.get_execute_of_some (statement op) hcurrent with
    hsame | ⟨write, hop, hguard, hnext⟩
  · exact ⟨current, hsame, hrel⟩
  · exact ⟨write.set current, hnext, hwrite op k write row current hop hguard hrel⟩

/-- A row stays as it is while no update names its key. -/
theorem row_stays {history : List Op} {k : Key} {row : Row}
    (hget : ((tableMachine statement).after history).get k = some row) {later : List Op}
    (hlater : ∀ op ∈ later, ∀ write, statement op ≠ .update k write) :
    ((tableMachine statement).after (history ++ later)).get k = some row := by
  induction later generalizing history with
  | nil => rwa [List.append_nil]
  | cons op later ih =>
      have hnext : ((tableMachine statement).after (history ++ [op])).get k = some row := by
        rw [Machine.after_concat]
        rcases Table.get_execute_of_some (statement op) hget with hsame | ⟨write, hop, _, _⟩
        · exact hsame
        · exact absurd hop (hlater op (by simp) write)
      have hrest := ih hnext fun other hmem => hlater other (by simp [hmem])
      rwa [List.append_assoc, List.singleton_append] at hrest

/-- Every stored row descends from one insert into a table without its key. -/
theorem row_origin {R : Row → Row → Prop} (hrefl : ∀ row, R row row)
    (hwrite : ∀ op k write first row, statement op = .update k write →
      write.guard row = true → R first row → R first (write.set row))
    {history : List Op} {k : Key} {row : Row}
    (hget : ((tableMachine statement).after history).get k = some row) :
    ∃ before op later first, history = before ++ op :: later ∧
      statement op = .insert first ∧ key first = k ∧
      ((tableMachine statement).after before).get k = none ∧ R first row := by
  refine (tableMachine statement).after_induction
    (P := fun history table => ∀ row, table.get k = some row →
      ∃ before op later first, history = before ++ op :: later ∧
        statement op = .insert first ∧ key first = k ∧
        ((tableMachine statement).after before).get k = none ∧ R first row)
    ?_ ?_ history row hget
  · simp [tableMachine]
  · intro history op ih row hrow
    rcases Table.get_execute_cases ((tableMachine statement).after history) (statement op) k with
      hsame | ⟨fresh, hop, hkey, hnone, hnext⟩ | ⟨write, current, hop, hcurrent, hguard, hnext⟩
    · obtain ⟨before, first, later, inserted, rfl, hfirst⟩ := ih row (hsame.symm.trans hrow)
      exact ⟨before, first, later ++ [op], inserted, by simp, hfirst⟩
    · obtain rfl : fresh = row := Option.some.inj (hnext.symm.trans hrow)
      exact ⟨history, op, [], fresh, rfl, hop, hkey, hnone, hrefl fresh⟩
    · obtain rfl : write.set current = row := Option.some.inj (hnext.symm.trans hrow)
      obtain ⟨before, first, later, inserted, rfl, hfirst, hkey, hnone, hrel⟩ := ih current hcurrent
      exact ⟨before, first, later ++ [op], inserted, by simp, hfirst, hkey, hnone,
        hwrite op k write inserted current hop hguard hrel⟩

end Repository

end Foundation
