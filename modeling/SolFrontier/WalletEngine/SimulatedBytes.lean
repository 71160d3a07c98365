import SolFrontier.WalletEngine.Pipeline

/-! # The simulated transaction is the transaction

Every successful run carries bytes that one of its simulations saw together
with that simulation's result, except when the second pass fails: the fallback
keeps the first result but the transaction keeps the refreshed blockhash.
-/

namespace SolFrontier.WalletEngine

open Foundation SolanaCore Types Program

/-- The calls of a run with their answers, in order. -/
abbrev Log := List (Event pipelineFace)

/-- Some simulation of the run returned this result for these very bytes. -/
def Carries (sdk : Sdk) (log : Log) (simulated : SimulatedTransaction) : Prop :=
  ∃ sent output, (⟨.simulate sent, .ok output⟩ : Event pipelineFace) ∈ log ∧
    sdk.serialize simulated.inner = sdk.serialize sent ∧
    simulated.simulation = output.intoResult

/-- The run's second simulation failed: the hashes its two passes were given,
the transaction and the compute units of the first one. -/
def SecondPassFailed (log : Log) (first second : Hash) (sent : Transaction) (used : UInt64) :
    Prop :=
  ∃ before height output nextHeight retried answer,
    log = before ++ [⟨.getFresh, .ok (first, height)⟩, ⟨.simulate sent, .ok output⟩,
      ⟨.getFresh, .ok (second, nextHeight)⟩, ⟨.simulate retried, answer⟩] ∧
    output.computeUnitsUsed = some used ∧ ∀ again, answer = .ok again → again.success = false

/-- Tightening a transaction's limit and restoring the default gives it back. -/
def Restores (sdk : Sdk) (tx : Transaction) (limit : UInt32) : Prop :=
  ∃ tightened found, replaceComputeUnitLimit sdk tx limit = some (true, tightened) ∧
    replaceComputeUnitLimit sdk tightened defaultComputeUnits = some (found, tx)

/-! ## The stages -/

/-- Resolving the fee simulates nothing. -/
theorem no_simulate_of_resolve {strategy : PriorityFeeStrategy} {log : Log}
    {fee : Except SolanaError UInt64} (hrun : Executes recording [] (resolve strategy) log fee) :
    ∀ event ∈ log, ∀ tx, event.op ≠ .simulate tx := by
  cases strategy with
  | none | fixed =>
      obtain ⟨rfl, _⟩ := Executes.done_iff.mp hrun
      simp
  | percentile | dynamic =>
      obtain ⟨answer, hrest⟩ := recording_call_iff.mp hrun
      obtain ⟨rfl, _⟩ := Executes.done_iff.mp hrest
      simp

theorem firstPass_ok {sdk : Sdk} {tx : Transaction} {prepended : Bool} {before log : Log}
    {simulated : SimulatedTransaction}
    (hrun : Executes recording before (firstPass sdk tx prepended) log (some (.ok simulated))) :
    ∃ hash height output, output.success = true ∧
      Executes recording (before ++ [⟨.getFresh, .ok (hash, height)⟩,
        ⟨.simulate (tx.withBlockhash hash), .ok output⟩])
        (optimize sdk (tx.withBlockhash hash) prepended output height) log
        (some (.ok simulated)) := by
  rw [firstPass, request_bind, recording_call_iff] at hrun
  obtain ⟨fresh, hrun⟩ := hrun
  cases fresh with
  | error => exact absurd (Executes.done_iff.mp hrun).2 (by simp)
  | ok fresh =>
      obtain ⟨hash, height⟩ := fresh
      dsimp only at hrun
      rw [request_bind, recording_call_iff] at hrun
      obtain ⟨answer, hrun⟩ := hrun
      cases answer with
      | error => exact absurd (Executes.done_iff.mp hrun).2 (by simp)
      | ok output =>
          dsimp only at hrun
          split at hrun
          next hsuccess =>
            rw [List.append_assoc, List.singleton_append] at hrun
            exact ⟨hash, height, output, hsuccess, hrun⟩
          next => exact absurd (Executes.done_iff.mp hrun).2 (by simp)

/-- The run settles on the first pass, or tightens the limit and goes on. -/
theorem optimize_ok {sdk : Sdk} {tx : Transaction} {prepended : Bool} {before log : Log}
    {output : SimulationOutput} {height : UInt64} {simulated : SimulatedTransaction}
    (hrun : Executes recording before (optimize sdk tx prepended output height) log
      (some (.ok simulated))) :
    (log = before ∧ simulated = ⟨tx, output.intoResult, height⟩) ∨
    ∃ used tightened, output.computeUnitsUsed = some used ∧
      replaceComputeUnitLimit sdk tx (computeLimitFromSimulation used) =
        some (true, tightened) ∧
      Executes recording before (secondPass sdk tightened output) log (some (.ok simulated)) := by
  have hsettle : Executes recording before (pure (settle tx output height)) log
      (some (.ok simulated)) → log = before ∧ simulated = ⟨tx, output.intoResult, height⟩ := by
    intro hrun
    obtain ⟨hlog, hvalue⟩ := Executes.done_iff.mp hrun
    simp only [settle, Option.some.injEq, Except.ok.injEq] at hvalue
    exact ⟨hlog, hvalue⟩
  rw [optimize] at hrun
  cases hused : output.computeUnitsUsed with
  | none =>
      rw [hused] at hrun
      exact .inl (hsettle hrun)
  | some used =>
      rw [hused] at hrun
      dsimp only at hrun
      split at hrun
      · cases hreplace : replaceComputeUnitLimit sdk tx (computeLimitFromSimulation used) with
        | none =>
            rw [hreplace] at hrun
            exact absurd (Executes.done_iff.mp hrun).2 (by simp)
        | some rewritten =>
            obtain ⟨found, tightened⟩ := rewritten
            rw [hreplace] at hrun
            cases found with
            | true => exact .inr ⟨used, tightened, rfl, hreplace, hrun⟩
            | false =>
                obtain rfl := eq_of_replace_false hreplace
                exact .inl (hsettle hrun)
      · exact .inl (hsettle hrun)

/-- The second simulation succeeds and is settled on, or it fails and the run
falls back to the first result with a restored limit. -/
theorem secondPass_ok {sdk : Sdk} {tx : Transaction} {before log : Log}
    {output : SimulationOutput} {simulated : SimulatedTransaction}
    (hrun : Executes recording before (secondPass sdk tx output) log (some (.ok simulated))) :
    ∃ hash height answer,
      log = before ++ [⟨.getFresh, .ok (hash, height)⟩,
        ⟨.simulate (tx.withBlockhash hash), answer⟩] ∧
      ((∃ again, answer = .ok again ∧ again.success = true ∧
          simulated = ⟨tx.withBlockhash hash, again.intoResult, height⟩) ∨
        ((∀ again, answer = .ok again → again.success = false) ∧
          ∃ found restored,
            replaceComputeUnitLimit sdk (tx.withBlockhash hash) defaultComputeUnits =
              some (found, restored) ∧
            simulated = ⟨restored, output.intoResult, height⟩)) := by
  rw [secondPass, request_bind, recording_call_iff] at hrun
  obtain ⟨fresh, hrun⟩ := hrun
  cases fresh with
  | error => exact absurd (Executes.done_iff.mp hrun).2 (by simp)
  | ok fresh =>
      obtain ⟨hash, height⟩ := fresh
      dsimp only at hrun
      rw [request_bind, recording_call_iff] at hrun
      obtain ⟨answer, hrun⟩ := hrun
      rw [List.append_assoc, List.singleton_append] at hrun
      refine ⟨hash, height, answer, ?_⟩
      -- A failed second pass and a failed request end in the same way.
      have hfallBack : Executes recording
          (before ++ [⟨.getFresh, .ok (hash, height)⟩,
            ⟨.simulate (tx.withBlockhash hash), answer⟩])
          (pure ((replaceComputeUnitLimit sdk (tx.withBlockhash hash) defaultComputeUnits).bind
            fun replaced => settle replaced.2 output height)) log (some (.ok simulated)) →
          log = before ++ [⟨.getFresh, .ok (hash, height)⟩,
            ⟨.simulate (tx.withBlockhash hash), answer⟩] ∧
          ∃ found restored,
            replaceComputeUnitLimit sdk (tx.withBlockhash hash) defaultComputeUnits =
              some (found, restored) ∧ simulated = ⟨restored, output.intoResult, height⟩ := by
        intro hrun
        obtain ⟨hlog, hvalue⟩ := Executes.done_iff.mp hrun
        obtain ⟨⟨found, restored⟩, hreplace, hsettle⟩ := Option.bind_eq_some_iff.mp hvalue.symm
        simp only [settle, Option.some.injEq, Except.ok.injEq] at hsettle
        exact ⟨hlog, found, restored, hreplace, hsettle.symm⟩
      cases answer with
      | error e =>
          obtain ⟨hlog, hrestored⟩ := hfallBack hrun
          exact ⟨hlog, .inr ⟨fun again hagain => absurd hagain (by simp), hrestored⟩⟩
      | ok sim2 =>
          dsimp only at hrun
          split at hrun
          next hsuccess =>
            obtain ⟨hlog, hvalue⟩ := Executes.done_iff.mp hrun
            simp only [settle, Option.some.injEq, Except.ok.injEq] at hvalue
            exact ⟨hlog, .inl ⟨sim2, rfl, hsuccess, hvalue⟩⟩
          next hfailed =>
            obtain ⟨hlog, hrestored⟩ := hfallBack hrun
            refine ⟨hlog, .inr ⟨?_, hrestored⟩⟩
            intro again hagain
            rw [Except.ok.injEq] at hagain
            rw [← hagain]
            simpa using hfailed

theorem simulate_ok {sdk : Sdk} {strategy : PriorityFeeStrategy} {tx : Transaction} {log : Log}
    {simulated : SimulatedTransaction}
    (hrun : Executes recording [] (simulate sdk strategy tx) log (some (.ok simulated))) :
    ∃ fees prepared prepended, (∀ event ∈ fees, ∀ tx, event.op ≠ .simulate tx) ∧
      Executes recording fees (firstPass sdk prepared prepended) log (some (.ok simulated)) := by
  rw [simulate, Executes.bind_iff] at hrun
  obtain ⟨fees, fee, hresolve, hrun⟩ := hrun
  split at hrun
  · exact absurd (Executes.done_iff.mp hrun).2 (by simp)
  · exact ⟨fees, _, _, no_simulate_of_resolve hresolve, hrun⟩

/-! ## Whole runs -/

/-- A run whose only simulation is its last call has no failed second pass. -/
theorem not_secondPassFailed_of_single {fees log : Log} {first second : Hash}
    {sent : Transaction} {used : UInt64} {last : List (Event pipelineFace)}
    (hfees : ∀ event ∈ fees, ∀ tx, event.op ≠ .simulate tx) (hlast : last.length = 2)
    (hlog : log = fees ++ last) : ¬ SecondPassFailed log first second sent used := by
  rintro ⟨before, height, output, nextHeight, retried, answer, hshape, _⟩
  have hsplit : fees ++ last = (before ++ [⟨.getFresh, .ok (first, height)⟩,
      ⟨.simulate sent, .ok output⟩]) ++ [⟨.getFresh, .ok (second, nextHeight)⟩,
        ⟨.simulate retried, answer⟩] := by
    rw [← hlog, hshape]
    simp
  have hearlier := (List.append_inj' hsplit (by simp [hlast])).1
  exact hfees ⟨.simulate sent, .ok output⟩ (by simp [hearlier]) sent rfl

/-- In the two-pass run the failed second pass is the one that happened. -/
theorem secondPassFailed_iff {fees log : Log} {hash nextHash first second : Hash}
    {height nextHeight : UInt64} {sent retried again : Transaction} {output : SimulationOutput}
    {answer : Except SolanaError SimulationOutput} {used : UInt64}
    (hlog : log = fees ++ [⟨.getFresh, .ok (hash, height)⟩, ⟨.simulate sent, .ok output⟩,
      ⟨.getFresh, .ok (nextHash, nextHeight)⟩, ⟨.simulate retried, answer⟩]) :
    SecondPassFailed log first second again used ↔
      hash = first ∧ nextHash = second ∧ sent = again ∧ output.computeUnitsUsed = some used ∧
        ∀ again, answer = .ok again → again.success = false := by
  constructor
  · rintro ⟨before, _, _, _, _, _, hshape, hused, hfailed⟩
    rw [hlog] at hshape
    have hcalls := (List.append_inj' hshape rfl).2
    simp only [List.cons.injEq, Event.mk.injEq, true_and, heq_eq_eq, Except.ok.injEq,
      Prod.mk.injEq, PipelineOp.simulate.injEq, and_true] at hcalls
    obtain ⟨⟨rfl, _⟩, ⟨rfl, rfl⟩, ⟨rfl, _⟩, _, rfl⟩ := hcalls
    exact ⟨rfl, rfl, rfl, hused, hfailed⟩
  · rintro ⟨rfl, rfl, rfl, hused, hfailed⟩
    exact ⟨fees, height, output, nextHeight, retried, answer, hlog, hused, hfailed⟩

/-- A failed second pass carries the first simulation's bytes exactly when the
refreshed blockhash is the old one and the limit's restoration is exact. -/
theorem carries_of_failed {sdk : Sdk} {fees log : Log} {hash nextHash : Hash}
    {height nextHeight : UInt64} {sent tightened restored : Transaction} {limit : UInt32}
    {found : Bool} {output : SimulationOutput} {answer : Except SolanaError SimulationOutput}
    (hfees : ∀ event ∈ fees, ∀ tx, event.op ≠ .simulate tx)
    (hlog : log = fees ++ [⟨.getFresh, .ok (hash, height)⟩, ⟨.simulate sent, .ok output⟩,
      ⟨.getFresh, .ok (nextHash, nextHeight)⟩,
      ⟨.simulate (tightened.withBlockhash nextHash), answer⟩])
    (hhash : sent.message.recentBlockhash = hash) (hsuccess : output.success = true)
    (hfailed : ∀ again, answer = .ok again → again.success = false)
    (htighten : replaceComputeUnitLimit sdk sent limit = some (true, tightened))
    (hrestore : replaceComputeUnitLimit sdk (tightened.withBlockhash nextHash)
      defaultComputeUnits = some (found, restored)) :
    Carries sdk log ⟨restored, output.intoResult, nextHeight⟩ ↔
      nextHash = hash ∧ Restores sdk sent limit := by
  have hkept : tightened.message.recentBlockhash = hash :=
    (recentBlockhash_of_replace htighten).trans hhash
  constructor
  · rintro ⟨seen, result, hmem, hbytes, hresult⟩
    rw [hlog, List.mem_append] at hmem
    rcases hmem with hfee | hcall
    · exact absurd rfl (hfees _ hfee seen)
    · simp only [List.mem_cons, Event.mk.injEq, PipelineOp.simulate.injEq, reduceCtorEq,
        false_and, false_or, List.not_mem_nil, or_false] at hcall
      rcases hcall with ⟨rfl, _⟩ | ⟨rfl, hanswer⟩
      · have hsame : restored = seen := sdk.serialize_inj hbytes
        have hnext : nextHash = hash := by
          rw [← hhash, ← hsame, recentBlockhash_of_replace hrestore,
            Transaction.withBlockhash_recentBlockhash]
        rw [hnext, Transaction.withBlockhash_self hkept, hsame] at hrestore
        exact ⟨hnext, tightened, found, htighten, hrestore⟩
      · -- The failed simulation's result is not the one attached.
        have hno := hfailed result (eq_of_heq hanswer).symm
        have hyes : result.intoResult.success = true := by
          rw [← hresult]
          exact hsuccess
        exact absurd (hyes.symm.trans hno) (by simp)
  · rintro ⟨rfl, again, seen, hagain, hback⟩
    rw [htighten, Option.some.injEq, Prod.mk.injEq] at hagain
    rw [Transaction.withBlockhash_self hkept, hagain.2, hback, Option.some.injEq,
      Prod.mk.injEq] at hrestore
    exact ⟨sent, output, by simp [hlog], by rw [hrestore.2], rfl⟩

/-- A successful run carries bytes that a simulation of the same run saw, with
that simulation's result, exactly when its second pass did not fail, or the
blockhash fetched for it was the first one and the limit was restored exactly. -/
theorem simulate_carries_iff {sdk : Sdk} {strategy : PriorityFeeStrategy} {tx : Transaction}
    {log : Log} {simulated : SimulatedTransaction}
    (hrun : Executes recording [] (simulate sdk strategy tx) log (some (.ok simulated))) :
    Carries sdk log simulated ↔
      ∀ first second sent used, SecondPassFailed log first second sent used →
        second = first ∧ Restores sdk sent (computeLimitFromSimulation used) := by
  obtain ⟨fees, prepared, prepended, hfees, hrun⟩ := simulate_ok hrun
  obtain ⟨hash, height, output, hsuccess, hrun⟩ := firstPass_ok hrun
  rcases optimize_ok hrun with ⟨hlog, rfl⟩ | ⟨used, tightened, hused, htighten, hrun⟩
  · have hcarries : Carries sdk log
        ⟨prepared.withBlockhash hash, output.intoResult, height⟩ :=
      ⟨prepared.withBlockhash hash, output, by simp [hlog], rfl, rfl⟩
    refine ⟨fun _ first second sent used hfailed => ?_, fun _ => hcarries⟩
    exact absurd hfailed (not_secondPassFailed_of_single hfees rfl hlog)
  · obtain ⟨nextHash, nextHeight, answer, hlog, hend⟩ := secondPass_ok hrun
    rw [List.append_assoc] at hlog
    rcases hend with ⟨again, rfl, hagain, rfl⟩ | ⟨hfailed, found, restored, hrestore, rfl⟩
    · have hcarries : Carries sdk log
          ⟨tightened.withBlockhash nextHash, again.intoResult, nextHeight⟩ :=
        ⟨tightened.withBlockhash nextHash, again, by simp [hlog], rfl, rfl⟩
      refine ⟨fun _ first second sent used hpass => ?_, fun _ => hcarries⟩
      obtain ⟨_, _, _, _, hfailed⟩ := (secondPassFailed_iff hlog).mp hpass
      exact absurd (hagain.symm.trans (hfailed again rfl)) (by simp)
    · rw [carries_of_failed hfees hlog rfl hsuccess hfailed htighten hrestore]
      constructor
      · rintro hback first second sent units hpass
        obtain ⟨rfl, rfl, rfl, hunits, _⟩ := (secondPassFailed_iff hlog).mp hpass
        rw [hused, Option.some.injEq] at hunits
        exact hunits ▸ hback
      · intro hall
        exact hall hash nextHash _ used
          ((secondPassFailed_iff hlog).mpr ⟨rfl, rfl, rfl, hused, hfailed⟩)

/-- A transaction that brings its own budget is simulated once, as it is but for
the blockhash. -/
theorem executes_simulate_budgeted {sdk : Sdk} {tx : Transaction} {hash : Hash} {height : UInt64}
    {output : SimulationOutput} (hbudget : hasComputeBudgetInstructions tx = true)
    (hsuccess : output.success = true) :
    Executes recording [] (simulate sdk .none tx)
      [⟨.getFresh, .ok (hash, height)⟩, ⟨.simulate (tx.withBlockhash hash), .ok output⟩]
      (some (.ok ⟨tx.withBlockhash hash, output.intoResult, height⟩)) := by
  have hsimulate : simulate sdk .none tx = firstPass sdk tx false := by
    simp [simulate, resolve, prependComputeBudget, hbudget]
  have hoptimize : optimize sdk (tx.withBlockhash hash) false output height =
      pure (settle (tx.withBlockhash hash) output height) := by
    unfold optimize
    cases output.computeUnitsUsed <;> rfl
  rw [hsimulate, firstPass, request_bind, recording_call_iff]
  refine ⟨.ok (hash, height), ?_⟩
  dsimp only
  rw [request_bind, recording_call_iff]
  refine ⟨.ok output, ?_⟩
  dsimp only
  rw [if_pos hsuccess, hoptimize]
  exact .done _ _

/-! ## Failed second passes happen -/

/-- The calls of a run whose second simulation cannot be reached. -/
def failedLog (hash nextHash : Hash) (sent retried : Transaction) (output : SimulationOutput) :
    Log :=
  [⟨.getFresh, .ok (hash, 100)⟩, ⟨.simulate sent, .ok output⟩,
    ⟨.getFresh, .ok (nextHash, 200)⟩, ⟨.simulate retried, .error .poolExhausted⟩]

/-- Whatever the first simulation reports, the second one may fail. -/
theorem executes_failedLog {sdk : Sdk} {tx prepared tightened restored : Transaction}
    {output : SimulationOutput} {used : UInt64} {limit : UInt32} {found : Bool}
    {hash nextHash : Hash}
    (hprepend : prependComputeBudget sdk tx defaultComputeUnits 0 = some (true, prepared))
    (hsuccess : output.success = true) (hused : output.computeUnitsUsed = some used)
    (hlimit : computeLimitFromSimulation used = limit)
    (hpays : shouldTighten defaultComputeUnits limit = true)
    (htighten : replaceComputeUnitLimit sdk (prepared.withBlockhash hash) limit =
      some (true, tightened))
    (hrestore : replaceComputeUnitLimit sdk (tightened.withBlockhash nextHash)
      defaultComputeUnits = some (found, restored)) :
    Executes recording [] (simulate sdk .none tx)
      (failedLog hash nextHash (prepared.withBlockhash hash) (tightened.withBlockhash nextHash)
        output)
      (some (.ok ⟨restored, output.intoResult, 200⟩)) := by
  have hsimulate : simulate sdk .none tx = firstPass sdk prepared true := by
    simp [simulate, resolve, hprepend, Except.toOption]
  have hoptimize : optimize sdk (prepared.withBlockhash hash) true output 100 =
      secondPass sdk tightened output := by
    simp [optimize, hused, hlimit, hpays, htighten]
  rw [hsimulate, firstPass, request_bind, recording_call_iff]
  refine ⟨.ok (hash, 100), ?_⟩
  dsimp only
  rw [request_bind, recording_call_iff]
  refine ⟨.ok output, ?_⟩
  dsimp only
  rw [if_pos hsuccess, hoptimize, secondPass, request_bind, recording_call_iff]
  refine ⟨.ok (nextHash, 200), ?_⟩
  dsimp only
  rw [request_bind, recording_call_iff]
  refine ⟨.error .poolExhausted, ?_⟩
  dsimp only
  rw [hrestore]
  exact .done _ _

/-- A transfer of one lamport, with its compute unit limit. -/
def sampleTransaction (limit : Option UInt32) : Transaction where
  signatures := [Bytes.filled 64 0]
  message :=
    let payer : PubkeyBytes := ⟨Bytes.filled 32 7⟩
    let payee : PubkeyBytes := ⟨Bytes.filled 32 9⟩
    let systemProgram : PubkeyBytes := ⟨Bytes.filled 32 0⟩
    let transfer : CompiledInstruction := ⟨2, [0, 1], [2, 0, 0, 0, 1, 0, 0, 0, 0, 0, 0, 0]⟩
    match limit with
    | none => ⟨⟨1, 0, 1⟩, [payer, payee, systemProgram], Bytes.filled 32 0, [transfer]⟩
    | some units =>
        ⟨⟨1, 0, 2⟩, [payer, payee, systemProgram, computeBudgetId], Bytes.filled 32 0,
          [⟨3, [], 2 :: Codec.u32.encode units⟩, transfer]⟩

def sampleOutput : SimulationOutput := ⟨true, none, some 50000, [], none, none, []⟩

def sampleHash (byte : UInt8) : Hash := Bytes.filled 32 byte

/-- The sample run, whose second pass is given the first hash or another one. -/
theorem executes_sample {byte : UInt8} (hbyte : byte = 1 ∨ byte = 2) :
    Executes recording [] (simulate standardSdk .none (sampleTransaction none))
      (failedLog (sampleHash 1) (sampleHash byte)
        ((sampleTransaction (some defaultComputeUnits)).withBlockhash (sampleHash 1))
        (((sampleTransaction (some 55000)).withBlockhash (sampleHash 1)).withBlockhash
          (sampleHash byte)) sampleOutput)
      (some (.ok ⟨(sampleTransaction (some defaultComputeUnits)).withBlockhash (sampleHash byte),
        sampleOutput.intoResult, 200⟩)) := by
  have hprepend : prependComputeBudget standardSdk (sampleTransaction none) defaultComputeUnits 0 =
      some (true, sampleTransaction (some defaultComputeUnits)) := by decide +kernel
  have hlimit : computeLimitFromSimulation 50000 = 55000 := by decide +kernel
  have hpays : shouldTighten defaultComputeUnits 55000 = true := by decide
  have htighten : replaceComputeUnitLimit standardSdk
      ((sampleTransaction (some defaultComputeUnits)).withBlockhash (sampleHash 1)) 55000 =
        some (true, (sampleTransaction (some 55000)).withBlockhash (sampleHash 1)) := by
    decide +kernel
  have hrestore : replaceComputeUnitLimit standardSdk
      (((sampleTransaction (some 55000)).withBlockhash (sampleHash 1)).withBlockhash
        (sampleHash byte)) defaultComputeUnits =
      some (true, (sampleTransaction (some defaultComputeUnits)).withBlockhash
        (sampleHash byte)) := by
    rcases hbyte with rfl | rfl
    · decide +kernel
    · decide +kernel
  exact executes_failedLog hprepend rfl rfl hlimit hpays htighten hrestore

/-- With the first hash again, the fallback carries what the first pass saw. -/
theorem simulate_carries_sample :
    Carries standardSdk
      (failedLog (sampleHash 1) (sampleHash 1)
        ((sampleTransaction (some defaultComputeUnits)).withBlockhash (sampleHash 1))
        (((sampleTransaction (some 55000)).withBlockhash (sampleHash 1)).withBlockhash
          (sampleHash 1)) sampleOutput)
      ⟨(sampleTransaction (some defaultComputeUnits)).withBlockhash (sampleHash 1),
        sampleOutput.intoResult, 200⟩ := by
  refine (simulate_carries_iff (executes_sample (.inl rfl))).mpr ?_
  intro first second sent used hpass
  obtain ⟨rfl, rfl, rfl, hused, _⟩ :=
    (secondPassFailed_iff (List.nil_append _).symm).mp hpass
  obtain rfl : 50000 = used := Option.some.inj hused
  refine ⟨rfl, (sampleTransaction (some 55000)).withBlockhash (sampleHash 1), true, ?_, ?_⟩
  · decide +kernel
  · decide +kernel

/-- With a refreshed hash, the run succeeds with a transaction that no
simulation of the run saw under the attached result. -/
theorem fallback_mixes_passes :
    ∃ log simulated,
      Executes recording [] (simulate standardSdk .none (sampleTransaction none)) log
        (some (.ok simulated)) ∧ ¬ Carries standardSdk log simulated := by
  refine ⟨_, _, executes_sample (.inr rfl), ?_⟩
  rintro ⟨seen, result, hmem, hbytes, hresult⟩
  have hsame := standardSdk.serialize_inj hbytes
  simp only [failedLog, List.mem_cons, Event.mk.injEq, PipelineOp.simulate.injEq, reduceCtorEq,
    false_and, false_or, List.not_mem_nil, or_false] at hmem
  rcases hmem with ⟨hseen, _⟩ | ⟨_, hanswer⟩
  · rw [hseen] at hsame
    have hhash := congrArg (fun tx => tx.message.recentBlockhash) hsame
    exact absurd hhash (by decide)
  · exact absurd (eq_of_heq hanswer) (by simp)

end SolFrontier.WalletEngine
