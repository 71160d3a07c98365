import Mathlib.Data.List.Basic
import SolFrontier.Foundation.Traces

/-! # Services

A service runs any number of calls at once over one shared world, one operation
of one call at a time. Calls are numbered in the order in which they start and
are never forgotten, so what a finished call replied stays on record; a call
that crashes is one that takes no further step.
-/

namespace Foundation

/-- The world's answers, and the program each request runs. -/
structure Service (face : Interface) (World Request Reply : Type) where
  sem : Semantics face World
  serve : Request → Program face Reply

/-- The shared world, and each started call with what is left of its program. -/
structure Session (face : Interface) (World Request Reply : Type) where
  world : World
  calls : List (Request × Program face Reply)

variable {face : Interface} {World Request Reply : Type}

namespace Service

/-- One step: a call starts, or the numbered one has its next operation answered. -/
inductive Step (service : Service face World Request Reply) :
    Option Nat → Session face World Request Reply → Session face World Request Reply → Prop
  | start {session : Session face World Request Reply} (request : Request) :
      Step service none session
        ⟨session.world, session.calls ++ [(request, service.serve request)]⟩
  | act {session : Session face World Request Reply} {after : World} {op : face.Op}
      {next : face.Answer op → Program face Reply} {request : Request} (number : Nat)
      (answer : face.Answer op) :
      session.calls[number]? = some (request, .call op next) →
      service.sem session.world ⟨op, answer⟩ after →
      Step service (some number) session
        ⟨after, session.calls.set number (request, next answer)⟩

/-- Any number of steps, by any calls in any order. -/
inductive Runs (service : Service face World Request Reply)
    (first : Session face World Request Reply) : Session face World Request Reply → Prop
  | refl : Runs service first first
  | step {session next : Session face World Request Reply} {actor : Option Nat} :
      Runs service first session → Step service actor session next → Runs service first next

variable {service : Service face World Request Reply}
  {first session next : Session face World Request Reply}

theorem Runs.trans {middle last : Session face World Request Reply}
    (hfirst : service.Runs first middle) (hlast : service.Runs middle last) :
    service.Runs first last := by
  induction hlast with
  | refl => exact hfirst
  | step _ hstep ih => exact ih.step hstep

/-- An entry of a list with one more element is an old one or the new one. -/
private theorem getElem?_concat_cases {α : Type} {list : List α} {last entry : α} {number : Nat}
    (hentry : (list ++ [last])[number]? = some entry) :
    list[number]? = some entry ∨ (number = list.length ∧ entry = last) := by
  rcases Nat.lt_trichotomy number list.length with hlt | rfl | hgt
  · rw [List.getElem?_append_left hlt] at hentry
    exact .inl hentry
  · rw [List.getElem?_concat_length, Option.some.injEq] at hentry
    exact .inr ⟨rfl, hentry.symm⟩
  · rw [List.getElem?_eq_none] at hentry
    · cases hentry
    · rw [List.length_append]
      exact hgt

/-- What one answered operation may change: the calls before and after agree
but on the acting one. -/
theorem Step.call_cases {actor : Option Nat} (hstep : service.Step actor session next)
    {number : Nat} {request : Request} {program : Program face Reply}
    (hcall : next.calls[number]? = some (request, program)) :
    session.calls[number]? = some (request, program) ∨
      (number = session.calls.length ∧ program = service.serve request ∧
        next.world = session.world) ∨
      ∃ op resume answer, session.calls[number]? = some (request, .call op resume) ∧
        program = resume answer ∧ service.sem session.world ⟨op, answer⟩ next.world := by
  cases hstep with
  | start started =>
      rcases getElem?_concat_cases hcall with hbefore | ⟨hnumber, hnew⟩
      · exact .inl hbefore
      · obtain ⟨rfl, rfl⟩ := Prod.mk.inj hnew
        exact .inr (.inl ⟨hnumber, rfl, rfl⟩)
  | act acting answer hacting hsem =>
      by_cases heq : acting = number
      · subst heq
        have hlt := (List.getElem?_eq_some_iff.mp hacting).1
        rw [List.getElem?_set_self hlt, Option.some.injEq] at hcall
        obtain ⟨rfl, rfl⟩ := Prod.mk.inj hcall
        exact .inr (.inr ⟨_, _, answer, hacting, rfl, hsem⟩)
      · rw [List.getElem?_set_ne heq] at hcall
        exact .inl hcall

/-- A started call stays on record with its request. -/
theorem Step.request {actor : Option Nat} (hstep : service.Step actor session next) {number : Nat}
    {request : Request} {program : Program face Reply}
    (hcall : session.calls[number]? = some (request, program)) :
    ∃ later, next.calls[number]? = some (request, later) := by
  have hlt := (List.getElem?_eq_some_iff.mp hcall).1
  cases hstep with
  | start started => exact ⟨program, (List.getElem?_append_left hlt).trans hcall⟩
  | act acting answer hacting hsem =>
      by_cases heq : acting = number
      · subst heq
        rw [hcall, Option.some.injEq] at hacting
        obtain ⟨rfl, _⟩ := Prod.mk.inj hacting
        exact ⟨_, List.getElem?_set_self hlt⟩
      · exact ⟨program, (List.getElem?_set_ne heq).trans hcall⟩

/-- An undisturbed call, as a run of the service. -/
theorem Runs.call {world after : World} {calls : List (Request × Program face Reply)}
    {request : Request} {program : Program face Reply} {reply : Reply}
    (hexec : Program.Executes service.sem world program after reply)
    (hruns : service.Runs first ⟨world, calls ++ [(request, program)]⟩) :
    service.Runs first ⟨after, calls ++ [(request, .done reply)]⟩ := by
  induction hexec with
  | done => exact hruns
  | call answer hsem _ ih =>
      apply ih
      have hacts := hruns.step (.act calls.length answer List.getElem?_concat_length hsem)
      rwa [List.set_append_right _ _ (Nat.le_refl _), Nat.sub_self] at hacts

/-- A fact about the world that every answered operation keeps. -/
theorem Runs.world (fact : World → Prop)
    (hkeep : ∀ world event after, fact world → service.sem world event after → fact after)
    (hruns : service.Runs first session) (hfact : fact first.world) : fact session.world := by
  induction hruns with
  | refl => exact hfact
  | step _ hstep ih =>
      cases hstep with
      | start => exact ih
      | act _ _ _ hsem => exact hkeep _ _ _ ih hsem

/-! ## Invariants of calls -/

/-- A property of single calls and of pairs of calls, and what each answered
operation owes it. -/
structure Invariant (service : Service face World Request Reply) where
  holds : Request → Program face Reply → World → Prop
  compat : Request × Program face Reply → Request × Program face Reply → Prop
  compat_symm : ∀ {left right}, compat left right → compat right left
  start : ∀ request world, holds request (service.serve request) world
  start_compat : ∀ request other, compat (request, service.serve request) other
  step : ∀ {request op next answer world after}, holds request (.call op next) world →
    service.sem world ⟨op, answer⟩ after → holds request (next answer) after
  frame : ∀ {request op next answer world after other program},
    holds request (.call op next) world → holds other program world →
    service.sem world ⟨op, answer⟩ after →
    holds other program after ∧ compat (request, next answer) (other, program)

namespace Invariant

/-- The property holds of every call and of every two calls. -/
structure Good (invariant : Invariant service) (session : Session face World Request Reply) :
    Prop where
  holds : ∀ {number : Nat} {request : Request} {program : Program face Reply},
    session.calls[number]? = some (request, program) →
      invariant.holds request program session.world
  compat : ∀ {number other : Nat} {left right : Request × Program face Reply}, number ≠ other →
    session.calls[number]? = some left → session.calls[other]? = some right →
      invariant.compat left right

theorem good_initial (invariant : Invariant service) (world : World) :
    invariant.Good ⟨world, []⟩ :=
  ⟨fun hcall => absurd hcall (by simp), fun _ hcall => absurd hcall (by simp)⟩

variable {invariant : Invariant service}

theorem Good.start (hgood : invariant.Good session) (request : Request) :
    invariant.Good ⟨session.world, session.calls ++ [(request, service.serve request)]⟩ := by
  constructor
  · intro number started program hcall
    rcases getElem?_concat_cases hcall with hbefore | ⟨_, hnew⟩
    · exact hgood.holds hbefore
    · obtain ⟨rfl, rfl⟩ := Prod.mk.inj hnew
      exact invariant.start _ _
  · intro number other left right hne hleft hright
    rcases getElem?_concat_cases hleft with hleft | ⟨hnumber, rfl⟩
    · rcases getElem?_concat_cases hright with hright | ⟨_, rfl⟩
      · exact hgood.compat hne hleft hright
      · exact invariant.compat_symm (invariant.start_compat _ _)
    · exact invariant.start_compat _ _

theorem Good.act (hgood : invariant.Good session) {after : World} {op : face.Op}
    {next : face.Answer op → Program face Reply} {request : Request} {number : Nat}
    {answer : face.Answer op}
    (hcall : session.calls[number]? = some (request, .call op next))
    (hsem : service.sem session.world ⟨op, answer⟩ after) :
    invariant.Good ⟨after, session.calls.set number (request, next answer)⟩ := by
  have hactor := hgood.holds hcall
  have hlt := (List.getElem?_eq_some_iff.mp hcall).1
  constructor
  · intro other acting program hother
    by_cases heq : number = other
    · subst heq
      rw [List.getElem?_set_self hlt, Option.some.injEq] at hother
      obtain ⟨rfl, rfl⟩ := Prod.mk.inj hother
      exact invariant.step hactor hsem
    · rw [List.getElem?_set_ne heq] at hother
      exact (invariant.frame hactor (hgood.holds hother) hsem).1
  · intro left right leftEntry rightEntry hne hleft hright
    by_cases hleftActs : number = left
    · subst hleftActs
      rw [List.getElem?_set_self hlt, Option.some.injEq] at hleft
      rw [List.getElem?_set_ne hne] at hright
      subst hleft
      exact (invariant.frame hactor (hgood.holds hright) hsem).2
    · rw [List.getElem?_set_ne hleftActs] at hleft
      by_cases hrightActs : number = right
      · subst hrightActs
        rw [List.getElem?_set_self hlt, Option.some.injEq] at hright
        subst hright
        exact invariant.compat_symm (invariant.frame hactor (hgood.holds hleft) hsem).2
      · rw [List.getElem?_set_ne hrightActs] at hright
        exact hgood.compat hne hleft hright

/-- Every session that any interleaving reaches is good. -/
theorem Good.runs (hgood : invariant.Good first) (hruns : service.Runs first session) :
    invariant.Good session := by
  induction hruns with
  | refl => exact hgood
  | step _ hstep ih =>
      cases hstep with
      | start request => exact ih.start request
      | act number answer hcall hsem => exact ih.act hcall hsem

end Invariant

/-! ## What a call saw -/

end Service

end Foundation
