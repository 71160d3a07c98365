import SolFrontier.Foundation.Pool

/-! # The moments of a run

A run passes through the world it starts in, the worlds between its calls and
the one it ends in; a run that is cut short ends in one of them. `Along` says
what holds at every moment of every run and of each result at its end, and is
proved by walking down the program.
-/

namespace Foundation

namespace Program

variable {face : Interface} {World α β : Type} {sem : Semantics face World}

/-- A world that some run of the program passes through. -/
inductive Visits (sem : Semantics face World) : World → Program face α → World → Prop
  | now (world : World) (program : Program face α) : Visits sem world program world
  | later {world middle state : World} {op : face.Op} {next : face.Answer op → Program face α}
      (answer : face.Answer op) : sem world ⟨op, answer⟩ middle →
      Visits sem middle (next answer) state → Visits sem world (.call op next) state

/-- A run passes through the world it ends in. -/
theorem Executes.visits {world final : World} {program : Program face α} {result : α}
    (hexec : Executes sem world program final result) : Visits sem world program final := by
  induction hexec with
  | done => exact .now _ _
  | call answer hsem _ ih => exact .later answer hsem ih

/-- At every moment of every run `always` holds, and at its end `post` does. -/
def Along (sem : Semantics face World) (always : World → Prop) (post : World → α → Prop) :
    World → Program face α → Prop
  | world, .done result => always world ∧ post world result
  | world, .call op next => always world ∧
      ∀ answer after, sem world ⟨op, answer⟩ after → (next answer).Along sem always post after

variable {always wider : World → Prop} {post weaker : World → α → Prop} {world : World}
  {program : Program face α}

@[simp] theorem along_done (result : α) :
    (Program.done result : Program face α).Along sem always post world ↔
      always world ∧ post world result :=
  Iff.rfl

@[simp] theorem along_call (op : face.Op) (next : face.Answer op → Program face α) :
    (Program.call op next).Along sem always post world ↔ always world ∧
      ∀ answer after, sem world ⟨op, answer⟩ after → (next answer).Along sem always post after :=
  Iff.rfl

theorem Along.always_now (halong : program.Along sem always post world) : always world := by
  cases program with
  | done => exact halong.1
  | call => exact halong.1

/-- Composition hands the end of the first part to the second. -/
theorem along_bind {first : Program face α} {rest : α → Program face β} {post : World → β → Prop} :
    (first >>= rest).Along sem always post world ↔
      first.Along sem always (fun world result => (rest result).Along sem always post world)
        world := by
  induction first generalizing world with
  | done result => exact ⟨fun hrest => ⟨hrest.always_now, hrest⟩, And.right⟩
  | call op next ih => simp only [call_bind, along_call, ih]

theorem Along.mono (halways : ∀ world, always world → wider world)
    (hpost : ∀ world result, always world → post world result → weaker world result)
    (halong : program.Along sem always post world) : program.Along sem wider weaker world := by
  induction program generalizing world with
  | done result => exact ⟨halways world halong.1, hpost world result halong.1 halong.2⟩
  | call op next ih =>
      refine ⟨halways world halong.1, ?_⟩
      intro answer after hsem
      exact ih answer (halong.2 answer after hsem)

/-- What every call of a kind keeps holds along the programs of that kind. -/
theorem Only.along {kind : face.Op → Prop} (honly : program.Only kind)
    (hkeeps : ∀ {world op answer after}, always world → kind op → sem world ⟨op, answer⟩ after →
      always after) (halways : always world) :
    program.Along sem always (fun _ _ => True) world := by
  induction program generalizing world with
  | done result => exact ⟨halways, trivial⟩
  | call op next ih =>
      refine ⟨halways, ?_⟩
      intro answer after hsem
      exact ih answer (honly.2 answer) (hkeeps halways honly.1 hsem)

/-- A finished run ends as the program says. -/
theorem Along.executes {final : World} {result : α} (halong : program.Along sem always post world)
    (hexec : Executes sem world program final result) : post final result := by
  induction hexec with
  | done => exact halong.2
  | call answer hsem _ ih => exact ih (halong.2 answer _ hsem)

theorem Along.visits {state : World} (halong : program.Along sem always post world)
    (hvisits : Visits sem world program state) : always state := by
  induction hvisits with
  | now => exact halong.always_now
  | later answer hsem _ ih => exact ih (halong.2 answer _ hsem)

/-- The moments of a run are the same with the log of its calls. -/
theorem Visits.logged {state : World} (hvisits : Visits sem world program state)
    (log : List (Event face)) :
    ∃ final, Visits (logged sem) (world, log) program (state, final) := by
  induction hvisits generalizing log with
  | now world program => exact ⟨log, .now _ _⟩
  | @later world middle state op next answer hsem _ ih =>
      obtain ⟨final, hfinal⟩ := ih (log ++ [⟨op, answer⟩])
      exact ⟨final, .later answer ⟨hsem, rfl⟩ hfinal⟩

end Program

end Foundation
