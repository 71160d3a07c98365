import Mathlib.Logic.Function.Basic

/-! # Programs over an interface of operations

A program is a tree of calls: each call names an operation and continues with
the answer the outside world gives. One program has two readings here, a
sequential execution over a world and a thread in a pool of concurrent callers.
-/

namespace Foundation

/-- The operations a program may call and the type of each one's answer. -/
structure Interface where
  Op : Type
  Answer : Op → Type

/-- One call together with the answer it received. -/
structure Event (face : Interface) where
  op : face.Op
  answer : face.Answer op

/-- A program either has its result or calls an operation and continues. -/
inductive Program (face : Interface) (α : Type) where
  | done (result : α)
  | call (op : face.Op) (next : face.Answer op → Program face α)

/-- What one answered call may do to the world. -/
abbrev Semantics (face : Interface) (World : Type) :=
  World → Event face → World → Prop

namespace Program

variable {face : Interface} {α β : Type}

def bind : Program face α → (α → Program face β) → Program face β
  | .done result, rest => rest result
  | .call op next, rest => .call op fun answer => (next answer).bind rest

instance : Monad (Program face) where
  pure := .done
  bind := bind

/-- Call one operation and return its answer. -/
def perform (op : face.Op) : Program face (face.Answer op) :=
  .call op .done

/-- Run a program over a part of a larger interface. -/
def embed {part whole : Interface} (inject : part.Op → whole.Op)
    (answer : ∀ op, whole.Answer (inject op) → part.Answer op) :
    Program part α → Program whole α
  | .done result => .done result
  | .call op next => .call (inject op) fun given => (next (answer op given)).embed inject answer

@[simp] theorem pure_eq (result : α) : (pure result : Program face α) = .done result := rfl

@[simp] theorem done_bind (result : α) (rest : α → Program face β) :
    (Program.done result >>= rest) = rest result := rfl

@[simp] theorem call_bind (op : face.Op) (next : face.Answer op → Program face α)
    (rest : α → Program face β) :
    (Program.call op next >>= rest) = .call op fun answer => next answer >>= rest := rfl

@[simp] theorem perform_bind (op : face.Op) (rest : face.Answer op → Program face β) :
    (perform op >>= rest) = .call op rest := rfl

/-- Sequential execution: every answer is one the semantics allows. -/
inductive Executes {World : Type} (sem : Semantics face World) :
    World → Program face α → World → α → Prop
  | done (world : World) (result : α) : Executes sem world (.done result) world result
  | call {world middle final : World} {op : face.Op}
      {next : face.Answer op → Program face α} {result : α} (answer : face.Answer op) :
      sem world ⟨op, answer⟩ middle → Executes sem middle (next answer) final result →
      Executes sem world (.call op next) final result

namespace Executes

variable {World : Type} {sem : Semantics face World}

theorem done_iff {world final : World} {result value : α} :
    Executes sem world (.done result) final value ↔ final = world ∧ value = result := by
  constructor
  · intro hexec
    cases hexec
    exact ⟨rfl, rfl⟩
  · rintro ⟨rfl, rfl⟩
    exact .done _ _

theorem call_iff {world final : World} {op : face.Op}
    {next : face.Answer op → Program face α} {value : α} :
    Executes sem world (.call op next) final value ↔
      ∃ answer middle, sem world ⟨op, answer⟩ middle ∧
        Executes sem middle (next answer) final value := by
  constructor
  · intro hexec
    cases hexec with
    | call answer hstep hrest => exact ⟨answer, _, hstep, hrest⟩
  · rintro ⟨answer, middle, hstep, hrest⟩
    exact .call answer hstep hrest

/-- A sequential composition passes through the first part's result. -/
theorem bind_iff {world final : World} {first : Program face α}
    {rest : α → Program face β} {value : β} :
    Executes sem world (first >>= rest) final value ↔
      ∃ middle result, Executes sem world first middle result ∧
        Executes sem middle (rest result) final value := by
  induction first generalizing world with
  | done result =>
      simp only [done_bind, done_iff]
      exact ⟨fun hrest => ⟨world, result, ⟨rfl, rfl⟩, hrest⟩,
        fun ⟨_, _, ⟨hmiddle, hresult⟩, hrest⟩ => hmiddle ▸ hresult ▸ hrest⟩
  | call op next ih =>
      simp only [call_bind, call_iff, ih]
      constructor
      · rintro ⟨answer, after, hstep, middle, result, hfirst, hrest⟩
        exact ⟨middle, result, ⟨answer, after, hstep, hfirst⟩, hrest⟩
      · rintro ⟨middle, result, ⟨answer, after, hstep, hfirst⟩, hrest⟩
        exact ⟨answer, after, hstep, middle, result, hfirst, hrest⟩

/-- A run stays a run when more answers are allowed. -/
theorem mono {wider : Semantics face World}
    (hwider : ∀ world event after, sem world event after → wider world event after)
    {world final : World} {program : Program face α} {value : α}
    (hexec : Executes sem world program final value) : Executes wider world program final value := by
  induction hexec with
  | done world result => exact .done world result
  | call answer hsem _ ih => exact .call answer (hwider _ _ _ hsem) ih

/-- A property that every answered call preserves holds at the end. -/
theorem invariant {inv : World → Prop}
    (hstep : ∀ world event after, inv world → sem world event after → inv after)
    {world final : World} {program : Program face α} {value : α}
    (hexec : Executes sem world program final value) (hinv : inv world) : inv final := by
  induction hexec with
  | done => exact hinv
  | call answer hsem _ ih => exact ih (hstep _ _ _ hinv hsem)

end Executes

/-- A semantics together with the log of the answered calls. -/
def logged {World : Type} (sem : Semantics face World) :
    Semantics face (World × List (Event face)) :=
  fun before event after => sem before.1 event after.1 ∧ after.2 = before.2 ++ [event]

/-- A semantics whose answers come from a permitted environment only. -/
def permitting {World : Type} (permits : Event face → Prop) (sem : Semantics face World) :
    Semantics face World :=
  fun before event after => permits event ∧ sem before event after

/-- The log only grows, and a run needs no answers besides those in its log. -/
theorem Executes.within {World : Type} {sem : Semantics face World}
    {before after : World × List (Event face)} {program : Program face α} {value : α}
    (hexec : Executes (logged sem) before program after value) :
    before.2 ⊆ after.2 ∧
      Executes (permitting (· ∈ after.2) sem) before.1 program after.1 value := by
  induction hexec with
  | done => exact ⟨List.Subset.refl _, .done _ _⟩
  | call answer hstep _ ih =>
      obtain ⟨hsub, hrest⟩ := ih
      rw [hstep.2] at hsub
      obtain ⟨hold, hnew⟩ := List.append_subset.mp hsub
      exact ⟨hold, .call answer ⟨hnew List.mem_cons_self, hstep.1⟩ hrest⟩

/-- Every run has its log. -/
theorem Executes.withLog {World : Type} {sem : Semantics face World} {world final : World}
    {program : Program face α} {value : α} (hexec : Executes sem world program final value)
    (log : List (Event face)) :
    ∃ last, Executes (logged sem) (world, log) program (final, last) value := by
  induction hexec generalizing log with
  | done world result => exact ⟨log, .done _ _⟩
  | @call world middle final op next result answer hstep _ ih =>
      obtain ⟨last, hrest⟩ := ih (log ++ [⟨op, answer⟩])
      exact ⟨last, .call answer ⟨hstep, rfl⟩ hrest⟩

/-- The semantics that records every answered call and restricts none. -/
def recording : Semantics face (List (Event face)) :=
  fun log event after => after = log ++ [event]

theorem recording_call_iff {log final : List (Event face)} {op : face.Op}
    {next : face.Answer op → Program face α} {value : α} :
    Executes recording log (.call op next) final value ↔
      ∃ answer, Executes recording (log ++ [⟨op, answer⟩]) (next answer) final value := by
  rw [Executes.call_iff]
  constructor
  · rintro ⟨answer, _, rfl, hrest⟩
    exact ⟨answer, hrest⟩
  · rintro ⟨answer, hrest⟩
    exact ⟨answer, _, rfl, hrest⟩

end Program

end Foundation
