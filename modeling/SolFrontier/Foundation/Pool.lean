import Mathlib.Data.List.Induction
import Mathlib.Logic.Function.Basic
import SolFrontier.Foundation.Traces

/-! # Pools of concurrent callers

A pool interleaves programs over one shared world. A step starts a caller, lets
one caller make its next call, or crashes a caller at any point. A discipline
assigns each caller a phase and says which calls the phase permits; a proof
about every interleaving then consists of one obligation per permitted call:
what it does to the world, to the caller's own phase, and to the phases of the
others.
-/

namespace Foundation

variable {face : Interface} {World Caller α Phase : Type}

/-- A shared world and the remaining program of each running caller. -/
structure Pool (face : Interface) (World Caller α : Type) where
  world : World
  callers : Caller → Option (Program face α)

namespace Pool

/-- No caller is running yet. -/
def initial (world : World) : Pool face World Caller α := ⟨world, fun _ => none⟩

variable [DecidableEq Caller]

/-- One interleaving step; `entry` are the programs a caller may start. -/
inductive Step (sem : Semantics face World) (entry : Program face α → Prop) :
    Pool face World Caller α → Pool face World Caller α → Prop
  | start {pool : Pool face World Caller α} (caller : Caller) (program : Program face α) :
      pool.callers caller = none → entry program →
      Step sem entry pool ⟨pool.world, Function.update pool.callers caller (some program)⟩
  | act {pool : Pool face World Caller α} {after : World} {op : face.Op}
      {next : face.Answer op → Program face α} (caller : Caller) (answer : face.Answer op) :
      pool.callers caller = some (.call op next) → sem pool.world ⟨op, answer⟩ after →
      Step sem entry pool ⟨after, Function.update pool.callers caller (some (next answer))⟩
  | crash {pool : Pool face World Caller α} (caller : Caller) :
      Step sem entry pool ⟨pool.world, Function.update pool.callers caller none⟩

/-- The pools some interleaving reaches. -/
inductive Reaches (sem : Semantics face World) (entry : Program face α → Prop)
    (first : Pool face World Caller α) : Pool face World Caller α → Prop
  | refl : Reaches sem entry first first
  | step {pool next : Pool face World Caller α} :
      Reaches sem entry first pool → Step sem entry pool next → Reaches sem entry first next

theorem Reaches.trans {sem : Semantics face World} {entry : Program face α → Prop}
    {first middle last : Pool face World Caller α} (hfirst : Reaches sem entry first middle)
    (hlast : Reaches sem entry middle last) : Reaches sem entry first last := by
  induction hlast with
  | refl => exact hfirst
  | step _ hstep ih => exact ih.step hstep

/-- An undisturbed run of one caller, as a run of its pool. -/
theorem Reaches.run {sem : Semantics face World} {entry : Program face α → Prop}
    {first : Pool face World Caller α} {world after : World}
    {callers : Caller → Option (Program face α)} {caller : Caller} {program : Program face α}
    {result : α} (hexec : Program.Executes sem world program after result)
    (hreaches : Reaches sem entry first ⟨world, callers⟩)
    (hcaller : callers caller = some program) :
    Reaches sem entry first
      ⟨after, Function.update callers caller (some (.done result))⟩ := by
  induction hexec generalizing callers with
  | done world result =>
      have hsame : Function.update callers caller (some (.done result)) = callers :=
        Function.update_eq_self_iff.mpr hcaller.symm
      rw [hsame]
      exact hreaches
  | call answer hsem _ ih =>
      have hnext := ih (hreaches.step (.act caller answer hcaller hsem)) (Function.update_self ..)
      rwa [Function.update_idem] at hnext

/-- Start a caller and let it run undisturbed. -/
theorem Reaches.start_run {sem : Semantics face World} {entry : Program face α → Prop}
    {first pool : Pool face World Caller α} (hreaches : Reaches sem entry first pool)
    {caller : Caller} (hnone : pool.callers caller = none) {program : Program face α}
    (hentry : entry program) {after : World} {result : α}
    (hexec : Program.Executes sem pool.world program after result) :
    Reaches sem entry first
      ⟨after, Function.update pool.callers caller (some (.done result))⟩ := by
  have hstarted := hreaches.step (.start caller program hnone hentry)
  have hrunning : Function.update pool.callers caller (some program) caller = some program :=
    Function.update_self ..
  have hrun := Reaches.run hexec hstarted hrunning
  rwa [Function.update_idem] at hrun

/-- A caller that starts and runs undisturbed leaves the others as they were. -/
theorem Reaches.finishes {sem : Semantics face World} {entry : Program face α → Prop}
    {first pool : Pool face World Caller α} (hreaches : Reaches sem entry first pool)
    {caller : Caller} (hnone : pool.callers caller = none) {program : Program face α}
    (hentry : entry program) {after : World} {result : α}
    (hexec : Program.Executes sem pool.world program after result) :
    ∃ last, Reaches sem entry first last ∧ last.world = after ∧
      last.callers caller = some (.done result) ∧
      ∀ other, other ≠ caller → last.callers other = pool.callers other := by
  refine ⟨_, hreaches.start_run hnone hentry hexec, rfl, ?_, ?_⟩
  · exact Function.update_self ..
  · intro other hne
    exact Function.update_of_ne hne ..

/-- Interleavings together with the calls each caller made since it started. -/
inductive Trace (sem : Semantics face World) (entry : Program face α → Prop)
    (first : Pool face World Caller α) :
    (Caller → List (Event face)) → Pool face World Caller α → Prop
  | refl : Trace sem entry first (fun _ => []) first
  | start {logs : Caller → List (Event face)} {pool : Pool face World Caller α} (caller : Caller)
      (program : Program face α) :
      Trace sem entry first logs pool → pool.callers caller = none → entry program →
      Trace sem entry first (Function.update logs caller [])
        ⟨pool.world, Function.update pool.callers caller (some program)⟩
  | act {logs : Caller → List (Event face)} {pool : Pool face World Caller α} {after : World}
      {op : face.Op} {next : face.Answer op → Program face α} (caller : Caller)
      (answer : face.Answer op) :
      Trace sem entry first logs pool → pool.callers caller = some (.call op next) →
      sem pool.world ⟨op, answer⟩ after →
      Trace sem entry first (Function.update logs caller (logs caller ++ [⟨op, answer⟩]))
        ⟨after, Function.update pool.callers caller (some (next answer))⟩
  | crash {logs : Caller → List (Event face)} {pool : Pool face World Caller α} (caller : Caller) :
      Trace sem entry first logs pool →
      Trace sem entry first logs ⟨pool.world, Function.update pool.callers caller none⟩

/-- Every run of the pool has its calls. -/
theorem Reaches.trace {sem : Semantics face World} {entry : Program face α → Prop}
    {first pool : Pool face World Caller α} (hreaches : Reaches sem entry first pool) :
    ∃ logs, Trace sem entry first logs pool := by
  induction hreaches with
  | refl => exact ⟨_, .refl⟩
  | step _ hstep ih =>
      obtain ⟨logs, htrace⟩ := ih
      cases hstep with
      | start caller program hnone hentry => exact ⟨_, htrace.start caller program hnone hentry⟩
      | act caller answer hcall hsem => exact ⟨_, htrace.act caller answer hcall hsem⟩
      | crash caller => exact ⟨_, htrace.crash caller⟩

end Pool

/-- Which calls a phase permits, and the phase an answer leads to. -/
structure Discipline (face : Interface) (Phase : Type) where
  allows : Phase → face.Op → Prop
  next : Phase → (op : face.Op) → face.Answer op → Phase

/-- The phase a list of answered calls leads to. -/
def Discipline.after (discipline : Discipline face Phase) (phase : Phase)
    (log : List (Event face)) : Phase :=
  log.foldl (fun phase event => discipline.next phase event.op event.answer) phase

@[simp] theorem Discipline.after_nil (discipline : Discipline face Phase) (phase : Phase) :
    discipline.after phase [] = phase := rfl

@[simp] theorem Discipline.after_concat (discipline : Discipline face Phase) (phase : Phase)
    (log : List (Event face)) (event : Event face) :
    discipline.after phase (log ++ [event]) =
      discipline.next (discipline.after phase log) event.op event.answer := by
  simp [Discipline.after]

/-- The discipline that remembers every answered call. -/
def Discipline.recall (allows : List (Event face) → face.Op → Prop) :
    Discipline face (List (Event face)) where
  allows
  next log op answer := log ++ [⟨op, answer⟩]

@[simp] theorem Discipline.after_recall (allows : List (Event face) → face.Op → Prop)
    (before log : List (Event face)) : (Discipline.recall allows).after before log = before ++ log := by
  induction log using List.reverseRecOn with
  | nil => simp
  | append_singleton log event ih =>
      rw [Discipline.after_concat, ih, ← List.append_assoc]
      rfl

/-- Every call of a log was allowed by the calls before it. -/
def Discipline.Obeys (allows : List (Event face) → face.Op → Prop) (log : List (Event face)) :
    Prop :=
  ∀ before event after, log = before ++ event :: after → allows before event.op

theorem Discipline.obeys_nil (allows : List (Event face) → face.Op → Prop) :
    Discipline.Obeys allows [] := by
  intro before event after heq
  simp at heq

theorem Discipline.Obeys.concat {allows : List (Event face) → face.Op → Prop}
    {log : List (Event face)} (hobeys : Discipline.Obeys allows log) {event : Event face}
    (hallows : allows log event.op) : Discipline.Obeys allows (log ++ [event]) := by
  intro before other after heq
  rcases List.eq_nil_or_concat after with rfl | ⟨initial, last, rfl⟩
  · obtain ⟨rfl, hother⟩ := List.append_inj' heq rfl
    obtain rfl := List.singleton_inj.mp hother
    exact hallows
  · rw [List.concat_eq_append, ← List.cons_append, ← List.append_assoc] at heq
    exact hobeys before other initial (List.append_inj' heq rfl).1

namespace Program

/-- The program makes only permitted calls from this phase, whatever the
answers, and every result it may return satisfies `post` in its last phase. -/
def Follows (discipline : Discipline face Phase) (post : Phase → α → Prop) :
    Phase → Program face α → Prop
  | phase, .done result => post phase result
  | phase, .call op next => discipline.allows phase op ∧
      ∀ answer, (next answer).Follows discipline post (discipline.next phase op answer)

@[simp] theorem follows_done (discipline : Discipline face Phase) (post : Phase → α → Prop)
    (phase : Phase) (result : α) :
    (Program.done result : Program face α).Follows discipline post phase ↔ post phase result :=
  Iff.rfl

@[simp] theorem follows_call (discipline : Discipline face Phase) (post : Phase → α → Prop)
    (phase : Phase) (op : face.Op) (next : face.Answer op → Program face α) :
    (Program.call op next).Follows discipline post phase ↔ discipline.allows phase op ∧
      ∀ answer, (next answer).Follows discipline post (discipline.next phase op answer) :=
  Iff.rfl

theorem Follows.mono {discipline : Discipline face Phase} {post weaker : Phase → α → Prop}
    (hpost : ∀ phase result, post phase result → weaker phase result) {phase : Phase}
    {program : Program face α} (hfollows : program.Follows discipline post phase) :
    program.Follows discipline weaker phase := by
  induction program generalizing phase with
  | done result => exact hpost phase result hfollows
  | call op next ih => exact ⟨hfollows.1, fun answer => ih answer (hfollows.2 answer)⟩

/-- Composition hands the first part's last phase to the second part. -/
theorem follows_bind {β : Type} {discipline : Discipline face Phase}
    {post : Phase → β → Prop} {phase : Phase} {first : Program face α}
    {rest : α → Program face β} :
    (first >>= rest).Follows discipline post phase ↔
      first.Follows discipline
        (fun phase result => (rest result).Follows discipline post phase) phase := by
  induction first generalizing phase with
  | done result => rfl
  | call op next ih => simp only [call_bind, follows_call, ih]

/-- A program within one set of permitted calls is within every larger one. -/
theorem Follows.relax {allows wider : List (Event face) → face.Op → Prop}
    (hwider : ∀ log op, allows log op → wider log op) {post : List (Event face) → α → Prop}
    {log : List (Event face)} {program : Program face α}
    (hfollows : program.Follows (.recall allows) post log) :
    program.Follows (.recall wider) post log := by
  induction program generalizing log with
  | done result => exact hfollows
  | call op next ih =>
      exact ⟨hwider log op hfollows.1, fun answer => ih answer (hfollows.2 answer)⟩

/-- A finished run ends with a result that satisfies the condition on its log. -/
theorem Follows.executes {allows : List (Event face) → face.Op → Prop}
    {post : List (Event face) → α → Prop} {sem : Semantics face World}
    {before after : World × List (Event face)} {program : Program face α} {result : α}
    (hexec : Executes (logged sem) before program after result)
    (hfollows : program.Follows (.recall allows) post before.2) : post after.2 result := by
  induction hexec with
  | done => exact hfollows
  | call answer hstep _ ih =>
      apply ih
      rw [hstep.2]
      exact hfollows.2 answer

end Program

/-- The obligations that make a discipline sound for every interleaving. -/
structure PoolInvariant (sem : Semantics face World) (discipline : Discipline face Phase) where
  inv : World → Prop
  /-- What a caller in this phase may rely on. -/
  holds : Phase → World → Prop
  /-- Phases two different callers may be in at once. -/
  compat : Phase → Phase → Prop
  compat_symm : ∀ {left right}, compat left right → compat right left
  step : ∀ {world phase op answer after}, inv world → holds phase world →
    discipline.allows phase op → sem world ⟨op, answer⟩ after →
    inv after ∧ holds (discipline.next phase op answer) after
  frame : ∀ {world phase other op answer after}, inv world → holds phase world →
    holds other world → compat phase other → discipline.allows phase op →
    sem world ⟨op, answer⟩ after →
    holds other after ∧ compat (discipline.next phase op answer) other

namespace PoolInvariant

variable {sem : Semantics face World} {discipline : Discipline face Phase}

/-- A consistent assignment of phases to the running callers. -/
structure Assigned (invariant : PoolInvariant sem discipline) (post : Phase → α → Prop)
    (pool : Pool face World Caller α) (phases : Caller → Phase) : Prop where
  inv : invariant.inv pool.world
  follows : ∀ caller program, pool.callers caller = some program →
    program.Follows discipline post (phases caller)
  holds : ∀ caller program, pool.callers caller = some program →
    invariant.holds (phases caller) pool.world
  compat : ∀ caller other program otherProgram, caller ≠ other →
    pool.callers caller = some program → pool.callers other = some otherProgram →
    invariant.compat (phases caller) (phases other)

/-- Some consistent assignment of phases exists. -/
def Good (invariant : PoolInvariant sem discipline) (post : Phase → α → Prop)
    (pool : Pool face World Caller α) : Prop :=
  ∃ phases : Caller → Phase, invariant.Assigned post pool phases

theorem good_initial (invariant : PoolInvariant sem discipline) (post : Phase → α → Prop)
    [Inhabited Phase] {world : World} (hinv : invariant.inv world) :
    invariant.Good post (Pool.initial world : Pool face World Caller α) :=
  ⟨fun _ => default, hinv, by simp [Pool.initial], by simp [Pool.initial],
    by simp [Pool.initial]⟩

/-- An undisturbed run keeps the invariant and what its program relies on. -/
theorem executes {allows : List (Event face) → face.Op → Prop}
    (invariant : PoolInvariant sem (.recall allows)) {post : List (Event face) → α → Prop}
    {before after : World × List (Event face)} {program : Program face α} {result : α}
    (hexec : Program.Executes (Program.logged sem) before program after result)
    (hfollows : program.Follows (.recall allows) post before.2)
    (hinv : invariant.inv before.1) (hholds : invariant.holds before.2 before.1) :
    invariant.inv after.1 ∧ invariant.holds after.2 after.1 := by
  induction hexec with
  | done => exact ⟨hinv, hholds⟩
  | call answer hstep _ ih =>
      obtain ⟨hinv, hholds⟩ := invariant.step hinv hholds hfollows.1 hstep.1
      apply ih
      · rw [hstep.2]
        exact hfollows.2 answer
      · exact hinv
      · rw [hstep.2]
        exact hholds

variable [DecidableEq Caller]

/-- A caller that starts takes a phase that asks nothing of the world or of the
other callers. -/
theorem Assigned.start {invariant : PoolInvariant sem discipline} {post : Phase → α → Prop}
    {pool : Pool face World Caller α} {phases : Caller → Phase}
    (hassigned : invariant.Assigned post pool phases) {program : Program face α} {phase : Phase}
    (hfollows : program.Follows discipline post phase)
    (hholds : ∀ world, invariant.holds phase world)
    (hcompat : ∀ other, invariant.compat phase other) (caller : Caller) :
    invariant.Assigned post ⟨pool.world, Function.update pool.callers caller (some program)⟩
      (Function.update phases caller phase) := by
  refine ⟨hassigned.inv, ?_, ?_, ?_⟩
  · intro other running hrunning
    by_cases heq : other = caller
    · subst other
      simp only [Function.update_self, Option.some.injEq] at hrunning ⊢
      exact hrunning ▸ hfollows
    · simp only [Function.update_of_ne heq] at hrunning ⊢
      exact hassigned.follows other running hrunning
  · intro other running hrunning
    by_cases heq : other = caller
    · subst other
      simpa using hholds pool.world
    · simp only [Function.update_of_ne heq] at hrunning ⊢
      exact hassigned.holds other running hrunning
  · intro left right leftProgram rightProgram hne hleft hright
    by_cases hl : left = caller
    · subst left
      simpa using hcompat _
    · by_cases hr : right = caller
      · subst right
        simpa using invariant.compat_symm (hcompat _)
      · simp only [Function.update_of_ne hl] at hleft ⊢
        simp only [Function.update_of_ne hr] at hright ⊢
        exact hassigned.compat left right _ _ hne hleft hright

/-- An answered call moves its caller to the next phase. -/
theorem Assigned.act {invariant : PoolInvariant sem discipline} {post : Phase → α → Prop}
    {pool : Pool face World Caller α} {phases : Caller → Phase}
    (hassigned : invariant.Assigned post pool phases) {after : World} {op : face.Op}
    {resume : face.Answer op → Program face α} {caller : Caller} {answer : face.Answer op}
    (hcall : pool.callers caller = some (.call op resume))
    (hsem : sem pool.world ⟨op, answer⟩ after) :
    invariant.Assigned post ⟨after, Function.update pool.callers caller (some (resume answer))⟩
      (Function.update phases caller (discipline.next (phases caller) op answer)) := by
  obtain ⟨hallows, hresume⟩ := hassigned.follows caller _ hcall
  have hown := hassigned.holds caller _ hcall
  obtain ⟨hinv', hown'⟩ := invariant.step hassigned.inv hown hallows hsem
  -- The others hold what they held, and go together with the caller's next phase.
  have hothers : ∀ other program, other ≠ caller → pool.callers other = some program →
      invariant.holds (phases other) after ∧
        invariant.compat (discipline.next (phases caller) op answer) (phases other) :=
    fun other program hne hother => invariant.frame hassigned.inv hown
      (hassigned.holds other _ hother)
      (hassigned.compat caller other _ _ (Ne.symm hne) hcall hother) hallows hsem
  refine ⟨hinv', ?_, ?_, ?_⟩
  · intro other running hrunning
    by_cases heq : other = caller
    · subst other
      simp only [Function.update_self, Option.some.injEq] at hrunning ⊢
      exact hrunning ▸ hresume answer
    · simp only [Function.update_of_ne heq] at hrunning ⊢
      exact hassigned.follows other running hrunning
  · intro other running hrunning
    by_cases heq : other = caller
    · subst other
      simpa using hown'
    · simp only [Function.update_of_ne heq] at hrunning ⊢
      exact (hothers other running heq hrunning).1
  · intro left right leftProgram rightProgram hne hleft hright
    by_cases hl : left = caller
    · subst left
      have hr : right ≠ caller := Ne.symm hne
      simp only [Function.update_of_ne hr, Function.update_self] at hright ⊢
      exact (hothers right _ hr hright).2
    · simp only [Function.update_of_ne hl] at hleft ⊢
      by_cases hr : right = caller
      · subst right
        simp only [Function.update_self]
        exact invariant.compat_symm (hothers left _ hl hleft).2
      · simp only [Function.update_of_ne hr] at hright ⊢
        exact hassigned.compat left right _ _ hne hleft hright

/-- A crash takes one caller out and leaves every phase. -/
theorem Assigned.crash {invariant : PoolInvariant sem discipline} {post : Phase → α → Prop}
    {pool : Pool face World Caller α} {phases : Caller → Phase}
    (hassigned : invariant.Assigned post pool phases) (caller : Caller) :
    invariant.Assigned post ⟨pool.world, Function.update pool.callers caller none⟩ phases := by
  have hrunning : ∀ other running,
      Function.update pool.callers caller none other = some running →
      pool.callers other = some running := by
    intro other running hother
    by_cases heq : other = caller
    · subst other
      simp at hother
    · simpa only [Function.update_of_ne heq] using hother
  exact ⟨hassigned.inv,
    fun other running h => hassigned.follows other running (hrunning other _ h),
    fun other running h => hassigned.holds other running (hrunning other _ h),
    fun left right _ _ hne hl hr =>
      hassigned.compat left right _ _ hne (hrunning left _ hl) (hrunning right _ hr)⟩

/-- Every interleaving step keeps some consistent assignment, provided each
program a caller may start follows the discipline from a phase that asks
nothing of the world or of the other callers. -/
theorem Good.step {invariant : PoolInvariant sem discipline} {post : Phase → α → Prop}
    {entry : Program face α → Prop} {fresh : Program face α → Phase}
    (hentry : ∀ program, entry program → program.Follows discipline post (fresh program))
    (hfresh : ∀ program world, invariant.holds (fresh program) world)
    (hcompat : ∀ program phase, invariant.compat (fresh program) phase)
    {pool next : Pool face World Caller α} (hgood : invariant.Good post pool)
    (hstep : Pool.Step sem entry pool next) : invariant.Good post next := by
  obtain ⟨phases, hassigned⟩ := hgood
  cases hstep with
  | start caller program hnone hprogram =>
      exact ⟨_, hassigned.start (hentry program hprogram) (hfresh program) (hcompat program) caller⟩
  | act caller answer hcall hsem => exact ⟨_, hassigned.act hcall hsem⟩
  | crash caller => exact ⟨_, hassigned.crash caller⟩

/-- Every reachable pool has a consistent assignment. -/
theorem Good.reaches {invariant : PoolInvariant sem discipline} {post : Phase → α → Prop}
    {entry : Program face α → Prop} {fresh : Program face α → Phase}
    (hentry : ∀ program, entry program → program.Follows discipline post (fresh program))
    (hfresh : ∀ program world, invariant.holds (fresh program) world)
    (hcompat : ∀ program phase, invariant.compat (fresh program) phase)
    {first pool : Pool face World Caller α} (hgood : invariant.Good post first)
    (hreaches : Pool.Reaches sem entry first pool) : invariant.Good post pool := by
  induction hreaches with
  | refl => exact hgood
  | step _ hstep ih => exact ih.step hentry hfresh hcompat hstep

/-- Along every trace the calls of a caller determine its phase. -/
theorem assigned_of_trace {invariant : PoolInvariant sem discipline} {post : Phase → α → Prop}
    {entry : Program face α → Prop} {idle : Phase}
    (hentry : ∀ program, entry program → program.Follows discipline post idle)
    (hidle : ∀ world, invariant.holds idle world)
    (hcompat : ∀ phase, invariant.compat idle phase) {world : World} (hinv : invariant.inv world)
    {pool : Pool face World Caller α} {logs : Caller → List (Event face)}
    (htrace : Pool.Trace sem entry (Pool.initial world) logs pool) :
    invariant.Assigned post pool fun caller => discipline.after idle (logs caller) := by
  induction htrace with
  | refl => exact ⟨hinv, by simp [Pool.initial], by simp [Pool.initial], by simp [Pool.initial]⟩
  | @start logs pool caller program _ hnone hprogram ih =>
      have hphases : (fun other => discipline.after idle (Function.update logs caller [] other)) =
          Function.update (fun other => discipline.after idle (logs other)) caller idle := by
        funext other
        by_cases heq : other = caller
        · subst other
          simp
        · simp [Function.update_of_ne heq]
      rw [hphases]
      exact ih.start (hentry program hprogram) hidle hcompat caller
  | @act logs pool after op resume caller answer _ hcall hsem ih =>
      have hphases : (fun other => discipline.after idle
          (Function.update logs caller (logs caller ++ [⟨op, answer⟩]) other)) =
          Function.update (fun other => discipline.after idle (logs other)) caller
            (discipline.next (discipline.after idle (logs caller)) op answer) := by
        funext other
        by_cases heq : other = caller
        · subst other
          simp
        · simp [Function.update_of_ne heq]
      rw [hphases]
      exact ih.act hcall hsem
  | crash caller _ ih => exact ih.crash caller

/-- Every caller's calls are within its discipline, whatever the world does. -/
def obeying (sem : Semantics face World) (allows : List (Event face) → face.Op → Prop) :
    PoolInvariant sem (.recall allows) where
  inv _ := True
  holds log _ := Discipline.Obeys allows log
  compat _ _ := True
  compat_symm _ := trivial
  step _ hobeys hallows _ := ⟨trivial, hobeys.concat hallows⟩
  frame _ _ hobeys _ _ _ := ⟨hobeys, trivial⟩

/-- The calls of a running caller were allowed one after another, and so are
those it still makes. -/
theorem recalls_of_trace {allows : List (Event face) → face.Op → Prop}
    {post : List (Event face) → α → Prop} {entry : Program face α → Prop}
    (hentry : ∀ program, entry program → program.Follows (.recall allows) post []) {world : World}
    {pool : Pool face World Caller α} {logs : Caller → List (Event face)}
    (htrace : Pool.Trace sem entry (Pool.initial world) logs pool) {caller : Caller}
    {program : Program face α} (hrunning : pool.callers caller = some program) :
    Discipline.Obeys allows (logs caller) ∧ program.Follows (.recall allows) post (logs caller) := by
  have hassigned : (obeying sem allows).Assigned post pool
      fun caller => (Discipline.recall allows).after [] (logs caller) :=
    assigned_of_trace hentry (fun _ => Discipline.obeys_nil allows) (fun _ => trivial) trivial htrace
  have hobeys := hassigned.holds caller program hrunning
  have hfollows := hassigned.follows caller program hrunning
  rw [Discipline.after_recall, List.nil_append] at hobeys hfollows
  exact ⟨hobeys, hfollows⟩

end PoolInvariant

/-! ## Calls of one kind -/

namespace Program

/-- Every call the program may make is of one kind, whatever it was answered. -/
def Only (kind : face.Op → Prop) : Program face α → Prop
  | .done _ => True
  | .call op next => kind op ∧ ∀ answer, (next answer).Only kind

theorem Only.bind {β : Type} {kind : face.Op → Prop} {first : Program face α}
    {rest : α → Program face β} (hfirst : first.Only kind)
    (hrest : ∀ result, (rest result).Only kind) : (first >>= rest).Only kind := by
  induction first with
  | done result => exact hrest result
  | call op next ih => exact ⟨hfirst.1, fun answer => ih answer (hfirst.2 answer)⟩

theorem Only.mono {kind wider : face.Op → Prop} (hwider : ∀ op, kind op → wider op)
    {program : Program face α} (honly : program.Only kind) : program.Only wider := by
  induction program with
  | done result => trivial
  | call op next ih => exact ⟨hwider op honly.1, fun answer => ih answer (honly.2 answer)⟩

/-- Every call of a run is of the kind its program keeps to. -/
theorem Only.forall_traces {kind : face.Op → Prop} {program : Program face α}
    (honly : program.Only kind) {trace : List (Event face)} {result : α}
    (htrace : program.Traces trace result) : ∀ event ∈ trace, kind event.op := by
  induction program generalizing trace with
  | done value =>
      obtain ⟨rfl, _⟩ := traces_done_iff.mp htrace
      simp
  | call op next ih =>
      obtain ⟨answer, rest, rfl, hrest⟩ := traces_call_iff.mp htrace
      intro event hmem
      rcases List.mem_cons.mp hmem with rfl | hlater
      · exact honly.1
      · exact ih answer (honly.2 answer) hrest event hlater

/-- A program that keeps to one kind of calls follows every discipline that
permits the kind under a condition which its calls maintain. -/
theorem Only.follows {discipline : Discipline face Phase} {kind : face.Op → Prop}
    {holds : Phase → Prop} {program : Program face α} (honly : program.Only kind)
    (hallows : ∀ phase op, holds phase → kind op → discipline.allows phase op)
    (hkeeps : ∀ phase op answer, holds phase → kind op → holds (discipline.next phase op answer))
    {phase : Phase} (hphase : holds phase) :
    program.Follows discipline (fun last _ => holds last) phase := by
  induction program generalizing phase with
  | done result => exact hphase
  | call op next ih =>
      exact ⟨hallows phase op hphase honly.1,
        fun answer => ih answer (honly.2 answer) (hkeeps phase op answer hphase honly.1)⟩

/-- What a discipline permits at all bounds the calls of a program. -/
theorem Follows.only {allows : List (Event face) → face.Op → Prop} {kind : face.Op → Prop}
    (hkind : ∀ log op, allows log op → kind op) {post : List (Event face) → α → Prop}
    {log : List (Event face)} {program : Program face α}
    (hfollows : program.Follows (.recall allows) post log) : program.Only kind := by
  induction program generalizing log with
  | done result => trivial
  | call op next ih => exact ⟨hkind log op hfollows.1, fun answer => ih answer (hfollows.2 answer)⟩

end Program

/-! ## Disciplines of a larger interface -/

/-- A discipline as it binds the programs that make their calls through a port. -/
def Discipline.along {source : Interface} (port : Port source face)
    (discipline : Discipline face Phase) : Discipline source Phase where
  allows phase op := discipline.allows phase (port.op op)
  next phase op answer := discipline.next phase (port.op op) (port.answer op answer)

theorem Program.follows_via {source : Interface} {port : Port source face}
    {discipline : Discipline face Phase} {post : Phase → α → Prop} {phase : Phase}
    {program : Program source α} :
    (program.via port).Follows discipline post phase ↔
      program.Follows (discipline.along port) post phase := by
  induction program generalizing phase with
  | done result => rfl
  | call op next ih =>
      rw [Program.via, follows_call, follows_call]
      refine and_congr_right fun _ => ?_
      rw [(port.answer op).symm.forall_congr_left]
      simp only [Equiv.symm_symm, Equiv.symm_apply_apply, ih]
      rfl

/-- Replacing one entry by one with the property. -/
theorem forall_update {β : Type} [DecidableEq Caller] {property : β → Prop}
    {entries : Caller → Option β}
    (hentries : ∀ caller value, entries caller = some value → property value) (caller : Caller)
    {replacement : Option β} (hreplacement : ∀ value, replacement = some value → property value)
    (other : Caller) (value : β)
    (hvalue : Function.update entries caller replacement other = some value) :
    property value := by
  by_cases hsame : other = caller
  · subst hsame
    rw [Function.update_self] at hvalue
    exact hreplacement value hvalue
  · rw [Function.update_of_ne hsame] at hvalue
    exact hentries other value hvalue

/-- What every call of one kind keeps is kept by callers that make no others. -/
theorem Pool.Reaches.keeps [DecidableEq Caller] {sem : Semantics face World}
    {entry : Program face α → Prop} {kind : face.Op → Prop} {inv : World → Prop}
    (hentry : ∀ program, entry program → program.Only kind)
    (hkeeps : ∀ {world op answer after}, inv world → kind op → sem world ⟨op, answer⟩ after →
      inv after)
    {world : World} (hinv : inv world) {pool : Pool face World Caller α}
    (hreaches : Pool.Reaches sem entry (Pool.initial world) pool) : inv pool.world := by
  suffices hboth : inv pool.world ∧
      ∀ caller program, pool.callers caller = some program → program.Only kind from hboth.1
  induction hreaches with
  | refl => exact ⟨hinv, fun caller program h => by cases h⟩
  | step _ hstep ih =>
      obtain ⟨hworld, hcallers⟩ := ih
      cases hstep with
      | start caller program _ hprogram =>
          refine ⟨hworld, forall_update hcallers caller fun found hfound => ?_⟩
          exact Option.some.inj hfound ▸ hentry program hprogram
      | act caller answer hcall hsem =>
          obtain ⟨hkind, hnext⟩ := hcallers caller _ hcall
          refine ⟨hkeeps hworld hkind hsem, forall_update hcallers caller fun found hfound => ?_⟩
          exact Option.some.inj hfound ▸ hnext answer
      | crash caller =>
          refine ⟨hworld, forall_update hcallers caller fun found hfound => ?_⟩
          cases hfound

end Foundation
