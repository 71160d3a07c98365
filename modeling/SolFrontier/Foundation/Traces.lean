import Mathlib.Logic.Equiv.Defs
import SolFrontier.Foundation.Program

/-! # Traces

The calls a program makes in a run, each with the answer it received. A trace
of a composition is the traces of its parts one after the other, also when a
part speaks another interface and is called through a port.
-/

namespace Foundation

/-- Every call of one interface, made as a call of another. -/
structure Port (source target : Interface) where
  op : source.Op → target.Op
  answer (call : source.Op) : source.Answer call ≃ target.Answer (op call)

namespace Port

variable {source target : Interface}

def event (port : Port source target) (event : Event source) : Event target :=
  ⟨port.op event.op, port.answer event.op event.answer⟩

end Port

namespace Program

variable {face source target : Interface} {α β : Type}

/-- The program can end with this result after these calls. -/
abbrev Traces (program : Program face α) (trace : List (Event face)) (result : α) : Prop :=
  Executes recording [] program trace result

/-- What was recorded before does not matter to a run. -/
theorem recording_iff {program : Program face α} {log final : List (Event face)} {result : α} :
    Executes recording log program final result ↔
      ∃ trace, final = log ++ trace ∧ program.Traces trace result := by
  induction program generalizing log final with
  | done value =>
      simp only [Traces, Executes.done_iff]
      constructor
      · rintro ⟨hfinal, hresult⟩
        exact ⟨[], by rw [hfinal, List.append_nil], rfl, hresult⟩
      · rintro ⟨trace, hfinal, htrace, hresult⟩
        exact ⟨by rw [hfinal, htrace, List.append_nil], hresult⟩
  | call op next ih =>
      simp only [Traces, recording_call_iff, List.nil_append]
      constructor
      · rintro ⟨answer, hrest⟩
        obtain ⟨trace, hfinal, htrace⟩ := (ih answer).mp hrest
        refine ⟨⟨op, answer⟩ :: trace, ?_, answer, ?_⟩
        · rw [hfinal, List.append_assoc, List.singleton_append]
        · exact (ih answer).mpr ⟨trace, rfl, htrace⟩
      · rintro ⟨trace, hfinal, answer, hrest⟩
        obtain ⟨rest, htrace, hrest⟩ := (ih answer).mp hrest
        refine ⟨answer, (ih answer).mpr ⟨rest, ?_, hrest⟩⟩
        rw [hfinal, htrace, List.append_assoc]

theorem traces_done_iff {trace : List (Event face)} {result value : α} :
    (Program.done result : Program face α).Traces trace value ↔ trace = [] ∧ value = result :=
  Executes.done_iff

theorem traces_call_iff {op : face.Op} {next : face.Answer op → Program face α}
    {trace : List (Event face)} {result : α} :
    (Program.call op next).Traces trace result ↔
      ∃ answer rest, trace = ⟨op, answer⟩ :: rest ∧ (next answer).Traces rest result := by
  simp only [Traces, recording_call_iff, List.nil_append]
  constructor
  · rintro ⟨answer, hrest⟩
    obtain ⟨rest, htrace, hrest⟩ := recording_iff.mp hrest
    exact ⟨answer, rest, htrace, hrest⟩
  · rintro ⟨answer, rest, htrace, hrest⟩
    exact ⟨answer, recording_iff.mpr ⟨rest, htrace, hrest⟩⟩

theorem traces_bind_iff {first : Program face α} {rest : α → Program face β}
    {trace : List (Event face)} {result : β} :
    (first >>= rest).Traces trace result ↔
      ∃ before value after, trace = before ++ after ∧ first.Traces before value ∧
        (rest value).Traces after result := by
  rw [Traces, Executes.bind_iff]
  constructor
  · rintro ⟨before, value, hfirst, hrest⟩
    obtain ⟨after, htrace, hrest⟩ := recording_iff.mp hrest
    exact ⟨before, value, after, htrace, hfirst, hrest⟩
  · rintro ⟨before, value, after, htrace, hfirst, hrest⟩
    exact ⟨before, value, hfirst, recording_iff.mpr ⟨after, htrace, hrest⟩⟩

/-- The answers decide a run: of two traces of a program, neither goes on after
the other. -/
theorem traces_unique {program : Program face α} {left right : List (Event face)}
    {leftResult rightResult : α} (hleft : program.Traces left leftResult)
    (hright : program.Traces right rightResult) {leftRest rightRest : List (Event face)}
    (heq : left ++ leftRest = right ++ rightRest) :
    left = right ∧ leftResult = rightResult := by
  induction program generalizing left right with
  | done value =>
      obtain ⟨hleft, hleftResult⟩ := traces_done_iff.mp hleft
      obtain ⟨hright, hrightResult⟩ := traces_done_iff.mp hright
      exact ⟨hleft.trans hright.symm, hleftResult.trans hrightResult.symm⟩
  | call op next ih =>
      obtain ⟨answer, after, rfl, hafter⟩ := traces_call_iff.mp hleft
      obtain ⟨answer', after', rfl, hafter'⟩ := traces_call_iff.mp hright
      rw [List.cons_append, List.cons_append, List.cons.injEq] at heq
      obtain ⟨hevent, hrests⟩ := heq
      obtain rfl : answer = answer' := by simpa using hevent
      obtain ⟨htrace, hresult⟩ := ih answer hafter hafter' hrests
      exact ⟨by rw [htrace], hresult⟩

/-! ## Programs that may fail -/

/-- A composition succeeds through the success of its first part. -/
theorem traces_ok_bind_iff {ε : Type} {first : ExceptT ε (Program face) α}
    {rest : α → ExceptT ε (Program face) β} {trace : List (Event face)} {result : β} :
    (first >>= rest).run.Traces trace (.ok result) ↔
      ∃ before value after, trace = before ++ after ∧ first.run.Traces before (.ok value) ∧
        (rest value).run.Traces after (.ok result) := by
  rw [ExceptT.run_bind, traces_bind_iff]
  constructor
  · rintro ⟨before, value, after, htrace, hfirst, hrest⟩
    cases value with
    | error error => exact absurd (traces_done_iff.mp hrest).2 (by simp)
    | ok value => exact ⟨before, value, after, htrace, hfirst, hrest⟩
  · rintro ⟨before, value, after, htrace, hfirst, hrest⟩
    exact ⟨before, .ok value, after, htrace, hfirst, hrest⟩

/-- The same program, making its calls through a port. -/
def via (port : Port source target) : Program source α → Program target α
  | .done result => .done result
  | .call op next => .call (port.op op) fun answer => (next ((port.answer op).symm answer)).via port

@[simp] theorem done_via (port : Port source target) (result : α) :
    (Program.done result : Program source α).via port = .done result := rfl

theorem traces_via_iff {port : Port source target} {program : Program source α}
    {trace : List (Event target)} {result : α} :
    (program.via port).Traces trace result ↔
      ∃ own, trace = own.map port.event ∧ program.Traces own result := by
  induction program generalizing trace with
  | done value =>
      simp only [done_via, traces_done_iff]
      constructor
      · rintro ⟨htrace, hresult⟩
        exact ⟨[], htrace, rfl, hresult⟩
      · rintro ⟨own, htrace, hown, hresult⟩
        exact ⟨by rw [htrace, hown, List.map_nil], hresult⟩
  | call op next ih =>
      simp only [via, traces_call_iff, ih]
      constructor
      · rintro ⟨answer, rest, htrace, own, hrest, hown⟩
        refine ⟨⟨op, (port.answer op).symm answer⟩ :: own, ?_, _, own, rfl, hown⟩
        rw [htrace, hrest, List.map_cons, Port.event, Equiv.apply_symm_apply]
      · rintro ⟨own, htrace, answer, rest, rfl, hrest⟩
        refine ⟨port.answer op answer, rest.map port.event, htrace, rest, rfl, ?_⟩
        rw [Equiv.symm_apply_apply]
        exact hrest

end Program

end Foundation
