import Mathlib.Data.List.Forall2
import Mathlib.Data.UInt
import SolFrontier.Foundation.History

/-! # Repositories that may fail

A repository offers methods over one table. Each method executes one statement
and returns something about it. An attempted call either answers, or fails with
its statement not executed, or fails although its statement was executed.
-/

namespace Foundation

universe u v w

/-- A success is gone on with. -/
theorem ok_bind {Error α β : Type} (value : α) (rest : α → Except Error β) :
    (Except.ok value >>= rest) = rest value := rfl

/-- A failure ends a sequence of steps. -/
theorem error_bind {Error α β : Type} (error : Error) (rest : α → Except Error β) :
    (Except.error error >>= rest) = .error error := rfl

/-- A sequence of fallible steps succeeds when each one does. -/
theorem bind_eq_ok {Error α β : Type} {first : Except Error α} {rest : α → Except Error β}
    {result : β} :
    (first >>= rest) = .ok result ↔ ∃ value, first = .ok value ∧ rest value = .ok result := by
  cases first with
  | error =>
      constructor
      · intro h
        cases h
      · rintro ⟨value, hfirst, _⟩
        cases hfirst
  | ok value =>
      constructor
      · exact fun h => ⟨value, rfl, h⟩
      · rintro ⟨_, hfirst, hrest⟩
        cases hfirst
        exact hrest

/-- A check that returns nothing only passes or fails. -/
theorem check_eq_ok {Error β : Type} {check : Except Error Unit} {rest : Unit → Except Error β}
    {result : β} : (check >>= rest) = .ok result ↔ check = .ok () ∧ rest () = .ok result := by
  rw [bind_eq_ok]
  exact ⟨fun ⟨_, hcheck, hrest⟩ => ⟨hcheck, hrest⟩, fun ⟨hcheck, hrest⟩ => ⟨(), hcheck, hrest⟩⟩

/-- Wrapping errors changes no success. -/
theorem mapError_eq_ok {Error Other α : Type} {result : Except Error α} {wrap : Error → Other}
    {value : α} : result.mapError wrap = .ok value ↔ result = .ok value := by
  cases result <;> simp [Except.mapError]

/-- A step for every item succeeds when each one does. -/
theorem mapM_eq_ok {Error α β : Type} {step : α → Except Error β} {items : List α}
    {results : List β} :
    items.mapM step = .ok results ↔
      List.Forall₂ (fun item result => step item = .ok result) items results := by
  induction items generalizing results with
  | nil =>
      rw [List.mapM_nil, List.forall₂_nil_left_iff]
      exact ⟨fun h => (Except.ok.inj h).symm, fun h => congrArg _ h.symm⟩
  | cons item rest ih =>
      rw [List.mapM_cons, bind_eq_ok]
      constructor
      · rintro ⟨first, hfirst, hrest⟩
        obtain ⟨others, hothers, hresults⟩ := bind_eq_ok.mp hrest
        obtain rfl := Except.ok.inj hresults
        exact .cons hfirst (ih.mp hothers)
      · intro hall
        cases hall with
        | cons hfirst hothers => exact ⟨_, hfirst, bind_eq_ok.mpr ⟨_, ih.mpr hothers, rfl⟩⟩

theorem exists_mapM_eq_ok {Error α β : Type} {step : α → Except Error β} {items : List α}
    (hall : ∀ item ∈ items, ∃ value, step item = .ok value) :
    ∃ results, items.mapM step = .ok results := by
  induction items with
  | nil => exact ⟨[], mapM_eq_ok.mpr .nil⟩
  | cons item rest ih =>
      obtain ⟨value, hvalue⟩ := hall item (List.mem_cons_self ..)
      obtain ⟨results, hresults⟩ := ih fun other hother => hall other (List.mem_cons_of_mem _ hother)
      exact ⟨value :: results, mapM_eq_ok.mpr (.cons hvalue (mapM_eq_ok.mp hresults))⟩

/-- In a run that succeeds every step did, and its value is among the results. -/
theorem exists_of_mapM_eq_ok {Error α β : Type} {step : α → Except Error β} {items : List α}
    {results : List β} (hall : items.mapM step = .ok results) {item : α} (hitem : item ∈ items) :
    ∃ value ∈ results, step item = .ok value := by
  have hforall := mapM_eq_ok.mp hall
  clear hall
  induction hforall with
  | nil => cases hitem
  | cons hfirst _ ih =>
      cases hitem with
      | head => exact ⟨_, List.mem_cons_self .., hfirst⟩
      | tail _ hrest =>
          obtain ⟨value, hmem, hvalue⟩ := ih hrest
          exact ⟨value, List.mem_cons_of_mem _ hmem, hvalue⟩

/-- The results are the values of the steps. -/
theorem mem_of_mapM_eq_ok {Error α β : Type} {step : α → Except Error β} {items : List α}
    {results : List β} (hall : items.mapM step = .ok results) {value : β} :
    value ∈ results ↔ ∃ item ∈ items, step item = .ok value := by
  constructor
  · intro hvalue
    have hforall := mapM_eq_ok.mp hall
    clear hall
    induction hforall with
    | nil => cases hvalue
    | cons hfirst _ ih =>
        cases hvalue with
        | head => exact ⟨_, List.mem_cons_self .., hfirst⟩
        | tail _ hrest =>
            obtain ⟨item, hitem, hstep⟩ := ih hrest
            exact ⟨item, List.mem_cons_of_mem _ hitem, hstep⟩
  · intro ⟨item, hitem, hstep⟩
    obtain ⟨other, hother, heq⟩ := exists_of_mapM_eq_ok hall hitem
    rw [hstep] at heq
    cases heq
    exact hother

theorem exists_mapM_eq_some {α β : Type} {step : α → Option β} {items : List α}
    (hall : ∀ item ∈ items, ∃ value, step item = some value) :
    ∃ results, items.mapM step = some results := by
  induction items with
  | nil => exact ⟨[], by simp⟩
  | cons item rest ih =>
      obtain ⟨value, hvalue⟩ := hall item (List.mem_cons_self ..)
      obtain ⟨results, hresults⟩ := ih fun other hother => hall other (List.mem_cons_of_mem _ hother)
      exact ⟨value :: results, by simp [List.mapM_cons, hvalue, hresults]⟩

/-- A step that succeeds for every item gives the items' values in order. -/
theorem mapM_eq_some {α β : Type} {step : α → Option β} {items : List α} {results : List β} :
    items.mapM step = some results ↔
      List.Forall₂ (fun item result => step item = some result) items results := by
  induction items generalizing results with
  | nil => simp [eq_comm]
  | cons item rest ih =>
      rw [List.mapM_cons, Option.bind_eq_bind, Option.bind_eq_some_iff, List.forall₂_cons_left_iff]
      constructor
      · rintro ⟨first, hfirst, hrest⟩
        obtain ⟨others, hothers, hresults⟩ := Option.bind_eq_some_iff.mp hrest
        exact ⟨first, others, hfirst, ih.mp hothers, (Option.some.inj hresults).symm⟩
      · rintro ⟨first, others, hfirst, hothers, rfl⟩
        exact ⟨first, hfirst, by simp [ih.mpr hothers]⟩

/-- The methods over one table; `Clock` is what a method reads by itself. -/
structure Repository {Row : Type u} {Key : Type v} (key : Row → Key) (Clock Error Op : Type) where
  Answer : Op → Type
  statement : Clock → Op → Statement key
  result : Table Row Key key → (op : Op) → Clock → Except Error (Answer op)

namespace Repository

variable {Row : Type u} {Key : Type v} {key : Row → Key} {Clock Error Op : Type} [DecidableEq Key]

/-- One attempted call: its answer and the table it leaves. -/
inductive Attempt (repository : Repository key Clock Error Op) (table : Table Row Key key)
    (op : Op) : Except Error (repository.Answer op) → Table Row Key key → Prop
  | answered (clock : Clock) :
      Attempt repository table op (repository.result table op clock)
        (table.execute (repository.statement clock op))
  | failedBefore (error : Error) : Attempt repository table op (.error error) table
  | failedAfter (error : Error) (clock : Clock) :
      Attempt repository table op (.error error)
        (table.execute (repository.statement clock op))

variable {repository : Repository key Clock Error Op} {table after : Table Row Key key} {op : Op}
  {answer : Except Error (repository.Answer op)}

/-- A call that nothing disturbs answers with its result. -/
theorem Attempt.of_result {clock : Clock} (hresult : repository.result table op clock = answer) :
    repository.Attempt table op answer (table.execute (repository.statement clock op)) := by
  rw [← hresult]
  exact .answered clock

/-- Whatever a call answers, it executed its statement or left the table alone. -/
theorem Attempt.table_cases (hattempt : repository.Attempt table op answer after) :
    after = table ∨ ∃ clock, after = table.execute (repository.statement clock op) := by
  cases hattempt with
  | answered clock => exact .inr ⟨clock, rfl⟩
  | failedBefore => exact .inl rfl
  | failedAfter _ clock => exact .inr ⟨clock, rfl⟩

/-- A successful answer is the result of the executed statement. -/
theorem Attempt.of_ok {value : repository.Answer op}
    (hattempt : repository.Attempt table op (.ok value) after) :
    ∃ clock, repository.result table op clock = .ok value ∧
      after = table.execute (repository.statement clock op) := by
  obtain ⟨answer, hanswer⟩ : ∃ answer, answer = Except.ok value := ⟨_, rfl⟩
  rw [← hanswer] at hattempt
  cases hattempt with
  | answered clock => exact ⟨clock, hanswer, rfl⟩
  | failedBefore => exact absurd hanswer (by simp)
  | failedAfter => exact absurd hanswer (by simp)

/-- A stored row survives every attempted call, possibly changed by one write. -/
theorem Attempt.get_of_some (hattempt : repository.Attempt table op answer after) {k : Key}
    {row : Row} (hget : table.get k = some row) :
    after.get k = some row ∨
    ∃ clock write, repository.statement clock op = .update k write ∧ write.guard row = true ∧
      after.get k = some (write.set row) := by
  rcases hattempt.table_cases with rfl | ⟨clock, rfl⟩
  · exact .inl hget
  · rcases Table.get_execute_of_some (repository.statement clock op) hget with
      hsame | ⟨write, hop, hguard, hnext⟩
    · exact .inl hsame
    · exact .inr ⟨clock, write, hop, hguard, hnext⟩

/-- A call whose statement is a read leaves the table alone. -/
theorem Attempt.eq_of_read (hattempt : repository.Attempt table op answer after)
    (hread : ∀ clock, repository.statement clock op = .read) : after = table := by
  rcases hattempt.table_cases with rfl | ⟨clock, rfl⟩
  · rfl
  · rw [hread clock]
    rfl

end Repository

/-! ## Unsigned values in signed columns -/

theorem toInt_toInt64 (value : UInt64) :
    value.toInt64.toInt =
      if value.toNat < 2 ^ 63 then (value.toNat : Int) else value.toNat - 2 ^ 64 := by
  show value.toBitVec.toInt = _
  rw [BitVec.toInt_eq_toNat_cond]
  have hlt := value.toNat_lt
  by_cases hsmall : value.toNat < 2 ^ 63
  · rw [if_pos (by simp; omega), if_pos hsmall]
    rfl
  · rw [if_neg (by simp; omega), if_neg hsmall]
    rfl

/-- The column shows the values from `2 ^ 63` on as negative. -/
theorem toInt64_neg_iff {value : UInt64} : value.toInt64 < 0 ↔ ¬ value.toNat < 2 ^ 63 := by
  have hlt := value.toNat_lt
  rw [Int64.lt_iff_toInt_lt, toInt_toInt64, Int64.toInt_zero]
  split <;> omega

end Foundation
