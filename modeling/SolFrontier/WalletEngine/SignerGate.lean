import SolFrontier.WalletEngine.Review
import SolFrontier.WalletEngine.SimulatedBytes

/-! # The signer is reached through the gate

Nothing is signed in a dry run, nor when the message is not the approved one,
nor without an approval by the policy or by a human. One verdict slips through:
in automatic mode a transaction whose policy still requires a simulation is
signed, because that verdict neither blocks nor asks for a human.
-/

namespace SolFrontier.WalletEngine

open Foundation SolanaCore Types Program

/-- The conditions on which a transaction may be given to the signer. -/
structure Gate (mode : ApprovalMode) (verdict : PolicyVerdict) (hash : Bytes 32)
    (tx : Transaction) : Prop where
  signs : mode ≠ .dryRun
  bound : approvalTxHash tx.message.serialize = hash
  granted : mode = .humanGranted ∨ verdict.isAutoApproved = true

/-- The case that the code lets through: the policy has not been satisfied, and
nobody is asked. -/
structure Unguarded (mode : ApprovalMode) (verdict : PolicyVerdict) (hash : Bytes 32)
    (tx : Transaction) : Prop where
  automatic : mode = .automatic
  unsimulated : verdict = .simulationRequired
  bound : approvalTxHash tx.message.serialize = hash

/-- Everything the signer was given is allowed. -/
def SignsOnly (allowed : Transaction → Prop) (trace : List (Event walletFace)) : Prop :=
  ∀ tx answer, (⟨.signTransaction tx, answer⟩ : Event walletFace) ∈ trace → allowed tx

theorem Unguarded.not_gate {mode : ApprovalMode} {verdict : PolicyVerdict} {hash : Bytes 32}
    {tx : Transaction} (hunguarded : Unguarded mode verdict hash tx) :
    ¬ Gate mode verdict hash tx := by
  intro hgate
  have hgranted := hgate.granted
  rw [hunguarded.automatic, hunguarded.unsimulated] at hgranted
  simp [PolicyVerdict.isAutoApproved] at hgranted

/-! ## One signing -/

/-- The stage either asks the signer about the transaction, in one of the two
cases, or has its result without it. -/
theorem sign_cases {m : Type → Type} [Monad m] (signer : SignerRef m) (mode : ApprovalMode)
    (approved : ApprovedTransaction) :
    ((Gate mode approved.policyVerdict approved.approvalTxHash approved.inner.inner ∨
        Unguarded mode approved.policyVerdict approved.approvalTxHash approved.inner.inner) ∧
      sign signer mode approved = signWith signer approved) ∨
    (¬ Unguarded mode approved.policyVerdict approved.approvalTxHash approved.inner.inner ∧
      ∃ result, sign signer mode approved = pure result) := by
  unfold sign
  dsimp only
  by_cases hdry : mode = .dryRun
  · refine .inr ⟨fun hunguarded => ?_, _, if_pos hdry⟩
    exact absurd (hdry.symm.trans hunguarded.automatic) (by simp)
  rw [if_neg hdry]
  by_cases hhash : approvalTxHash approved.inner.inner.message.serialize = approved.approvalTxHash
  · rw [if_neg (not_not.mpr hhash)]
    by_cases hgranted : mode = .humanGranted
    · exact .inl ⟨.inl ⟨hdry, hhash, .inl hgranted⟩, if_pos hgranted⟩
    rw [if_neg hgranted]
    -- What is left is decided by the mode and by the kind of the verdict.
    by_cases happroved : approved.policyVerdict.isAutoApproved = true
    · have hhuman : approved.policyVerdict.requiresHuman = false := by
        cases hverdict : approved.policyVerdict <;>
          simp_all [PolicyVerdict.isAutoApproved, PolicyVerdict.requiresHuman]
      exact .inl ⟨.inl ⟨hdry, hhash, .inr happroved⟩, by simp [happroved, hhuman]⟩
    · rw [Bool.not_eq_true] at happroved
      cases mode with
      | dryRun => exact absurd rfl hdry
      | humanGranted => exact absurd rfl hgranted
      | requireHuman timeout =>
          refine .inr ⟨fun hunguarded => absurd hunguarded.automatic (by simp), ?_⟩
          simp [ApprovalMode.isRequireHuman, happroved]
      | automatic =>
          by_cases hhuman : approved.policyVerdict.requiresHuman = true
          · refine .inr ⟨fun hunguarded => ?_, ?_⟩
            · rw [hunguarded.unsimulated] at hhuman
              exact absurd hhuman (by simp [PolicyVerdict.requiresHuman])
            · simp [hhuman]
          · rw [Bool.not_eq_true] at hhuman
            have hverdict := PolicyVerdict.eq_simulationRequired_iff.mpr
              ⟨happroved, approved.notBlocked, hhuman⟩
            exact .inl ⟨.inr ⟨rfl, hverdict, hhash⟩, by simp [hhuman, ApprovalMode.isRequireHuman]⟩
  · refine .inr ⟨fun hunguarded => hhash hunguarded.bound, ?_⟩
    rw [if_pos hhash]
    exact ⟨_, rfl⟩

/-- The signer is asked once, about the transaction itself. -/
theorem traces_signWith {approved : ApprovedTransaction} {trace : List (Event walletFace)}
    {result : Except WalletError PipelineResult}
    (htrace : (signWith walletSigner approved).Traces trace result) :
    ∃ answer, trace = [⟨.signTransaction approved.inner.inner, answer⟩] := by
  rw [signWith, walletSigner, perform_bind] at htrace
  obtain ⟨answer, rest, rfl, hrest⟩ := traces_call_iff.mp htrace
  obtain ⟨rfl, _⟩ := traces_done_iff.mp hrest
  exact ⟨answer, rfl⟩

/-- Whatever was done to the transaction and to its commitment since it was
approved, the signer is given it through the gate, or in the unguarded case. -/
theorem sign_signsOnly_iff {mode : ApprovalMode} {approved : ApprovedTransaction}
    {trace : List (Event walletFace)} {result : Except WalletError PipelineResult}
    (htrace : (sign walletSigner mode approved).Traces trace result) :
    SignsOnly (Gate mode approved.policyVerdict approved.approvalTxHash) trace ↔
      ¬ Unguarded mode approved.policyVerdict approved.approvalTxHash approved.inner.inner := by
  rcases sign_cases walletSigner mode approved with ⟨hcase, hsign⟩ | ⟨hguarded, value, hsign⟩
  · rw [hsign] at htrace
    obtain ⟨answer, rfl⟩ := traces_signWith htrace
    constructor
    · intro hgated hunguarded
      exact hunguarded.not_gate (hgated _ answer List.mem_cons_self)
    · intro hguarded tx given hmem
      have hgiven : tx = approved.inner.inner ∧ given = answer := by
        simpa using List.mem_singleton.mp hmem
      rw [hgiven.1]
      exact hcase.resolve_right hguarded
  · rw [hsign] at htrace
    obtain ⟨rfl, _⟩ := traces_done_iff.mp htrace
    exact ⟨fun _ => hguarded, fun _ _ _ hmem => absurd hmem List.not_mem_nil⟩

/-! ## Runs of the pipeline -/

/-- The network's answers decide a stage that only asks the network. -/
theorem traces_rpc_unique {α : Type} {stage : Program pipelineFace α} {left right : Log}
    {leftResult rightResult : α} (hleft : stage.Traces left leftResult)
    (hright : stage.Traces right rightResult) {leftRest rightRest : List (Event walletFace)}
    (heq : left.map rpcPort.event ++ leftRest = right.map rpcPort.event ++ rightRest) :
    leftResult = rightResult := by
  have hvia : (stage.via rpcPort).Traces (left.map rpcPort.event) leftResult :=
    traces_via_iff.mpr ⟨left, rfl, hleft⟩
  have hvia' : (stage.via rpcPort).Traces (right.map rpcPort.event) rightResult :=
    traces_via_iff.mpr ⟨right, rfl, hright⟩
  exact (traces_unique hvia hvia' heq).2

/-- The run simulated its transaction with this outcome. -/
def Simulated (sdk : Sdk) (strategy : PriorityFeeStrategy) (tx : Transaction)
    (trace : List (Event walletFace)) (simulated : SimulatedTransaction) : Prop :=
  ∃ own rest, trace = own.map rpcPort.event ++ rest ∧
    (simulate sdk strategy tx).Traces own (some (.ok simulated))

/-- The outcome of a run's simulation is unique. -/
theorem Simulated.unique {sdk : Sdk} {strategy : PriorityFeeStrategy} {tx : Transaction}
    {trace : List (Event walletFace)} {left right : SimulatedTransaction}
    (hleft : Simulated sdk strategy tx trace left)
    (hright : Simulated sdk strategy tx trace right) : left = right := by
  obtain ⟨own, rest, htrace, hown⟩ := hleft
  obtain ⟨own', rest', htrace', hown'⟩ := hright
  simpa using traces_rpc_unique hown hown' (htrace.symm.trans htrace')

/-- The simulation stage never reaches the signer. -/
theorem signTransaction_not_mem_rpc {own : Log} {tx : Transaction}
    {answer : WalletOp.Answer (.signTransaction tx)} :
    (⟨.signTransaction tx, answer⟩ : Event walletFace) ∉ own.map rpcPort.event := by
  intro hmem
  obtain ⟨event, _, hevent⟩ := List.mem_map.mp hmem
  have hop := congrArg Event.op hevent
  exact absurd hop (by simp [Port.event, rpcPort])

/-- A run ends with its simulation, or goes on to review what it simulated. -/
theorem traces_run {sdk : Sdk} {strategy : PriorityFeeStrategy} {mode : ApprovalMode}
    {tx : Transaction} {policyCheck : SimulationResult → PolicyVerdict}
    {trace : List (Event walletFace)} {result : Option PipelineResult}
    (htrace : (run sdk strategy mode tx policyCheck).Traces trace result) :
    ∃ own rest simulation, trace = own.map rpcPort.event ++ rest ∧
      (simulate sdk strategy tx).Traces own simulation ∧
      ((rest = [] ∧ ∀ simulated, simulation ≠ some (.ok simulated)) ∨
        ∃ simulated reviewed, simulation = some (.ok simulated) ∧
          (reviewSimulated mode policyCheck simulated).Traces rest reviewed) := by
  rw [run, traces_bind_iff] at htrace
  obtain ⟨before, simulation, rest, rfl, hsimulate, hrest⟩ := htrace
  obtain ⟨own, rfl, hown⟩ := traces_via_iff.mp hsimulate
  refine ⟨own, rest, simulation, rfl, hown, ?_⟩
  rcases simulation with _ | (error | simulated)
  · exact .inl ⟨(traces_done_iff.mp hrest).1, by simp⟩
  · refine .inl ⟨?_, by simp⟩
    cases error with
    | _ => exact (traces_done_iff.mp hrest).1
  · obtain ⟨review, reviewed, after, rfl, hreview, hafter⟩ := traces_bind_iff.mp hrest
    obtain ⟨rfl, _⟩ := traces_done_iff.mp hafter
    rw [List.append_nil]
    exact .inr ⟨simulated, reviewed, rfl, hreview⟩

/-- Between the simulation and the signer nothing happens to the transaction. -/
theorem reviewSimulated_signsOnly_iff {mode : ApprovalMode}
    {policyCheck : SimulationResult → PolicyVerdict} {simulated : SimulatedTransaction}
    {trace : List (Event walletFace)} {result : PipelineResult}
    (htrace : (reviewSimulated mode policyCheck simulated).Traces trace result) :
    SignsOnly (Gate mode (policyCheck simulated.simulation)
        (approvalTxHash simulated.inner.message.serialize)) trace ↔
      ¬ (mode = .automatic ∧ policyCheck simulated.simulation = .simulationRequired) := by
  cases hblocked : (policyCheck simulated.simulation).isBlocked with
  | true =>
      rw [reviewSimulated, evaluatePolicy_of_blocked hblocked] at htrace
      obtain ⟨rfl, _⟩ := traces_done_iff.mp htrace
      refine ⟨fun _ hunguarded => ?_, fun _ _ _ hmem => absurd hmem List.not_mem_nil⟩
      rw [hunguarded.2] at hblocked
      exact absurd hblocked (by simp [PolicyVerdict.isBlocked])
  | false =>
      rw [reviewSimulated, evaluatePolicy_of_not_blocked hblocked] at htrace
      obtain ⟨signing, signed, after, rfl, hsign, hafter⟩ := traces_bind_iff.mp htrace
      have hend : after = [] := by
        cases signed with
        | error => exact (traces_done_iff.mp hafter).1
        | ok => exact (traces_done_iff.mp hafter).1
      rw [hend, List.append_nil]
      apply (sign_signsOnly_iff hsign).trans
      apply not_congr
      exact ⟨fun hunguarded => ⟨hunguarded.automatic, hunguarded.unsimulated⟩,
        fun hunguarded => ⟨hunguarded.1, hunguarded.2, rfl⟩⟩

/-- A transaction of the run that may be given to the signer: it has the hash
of the simulated one, whose simulation the policy was asked about. -/
def RunGate (sdk : Sdk) (strategy : PriorityFeeStrategy) (mode : ApprovalMode) (tx : Transaction)
    (policyCheck : SimulationResult → PolicyVerdict) (trace : List (Event walletFace))
    (given : Transaction) : Prop :=
  ∃ simulated, Simulated sdk strategy tx trace simulated ∧
    Gate mode (policyCheck simulated.simulation)
      (approvalTxHash simulated.inner.message.serialize) given

/-- The policy's answer in the run asks for a simulation in automatic mode. -/
def RunUnguarded (sdk : Sdk) (strategy : PriorityFeeStrategy) (mode : ApprovalMode)
    (tx : Transaction) (policyCheck : SimulationResult → PolicyVerdict)
    (trace : List (Event walletFace)) : Prop :=
  ∃ simulated, Simulated sdk strategy tx trace simulated ∧ mode = .automatic ∧
    policyCheck simulated.simulation = .simulationRequired

theorem run_signsOnly_iff {sdk : Sdk} {strategy : PriorityFeeStrategy} {mode : ApprovalMode}
    {tx : Transaction} {policyCheck : SimulationResult → PolicyVerdict}
    {trace : List (Event walletFace)} {result : Option PipelineResult}
    (htrace : (run sdk strategy mode tx policyCheck).Traces trace result) :
    SignsOnly (RunGate sdk strategy mode tx policyCheck trace) trace ↔
      ¬ RunUnguarded sdk strategy mode tx policyCheck trace := by
  obtain ⟨own, rest, simulation, htrace, hown, hend | hreview⟩ := traces_run htrace
  · obtain ⟨hrest, hfailed⟩ := hend
    rw [hrest, List.append_nil] at htrace
    constructor
    · rintro _ ⟨simulated, ⟨own', rest', htrace', hown'⟩, _⟩
      -- A successful simulation would be the one that the run ended with.
      rw [htrace, ← List.append_nil (own.map rpcPort.event)] at htrace'
      exact hfailed simulated (traces_rpc_unique hown hown' htrace')
    · intro _ given answer hmem
      rw [htrace] at hmem
      exact absurd hmem signTransaction_not_mem_rpc
  · obtain ⟨simulated, reviewed, rfl, hreview⟩ := hreview
    have hsimulated : Simulated sdk strategy tx trace simulated := ⟨own, rest, htrace, hown⟩
    have hreviewed := reviewSimulated_signsOnly_iff hreview
    constructor
    · rintro hgated ⟨simulated', hsimulated', hunguarded⟩
      obtain rfl := hsimulated.unique hsimulated'
      refine hreviewed.mp ?_ hunguarded
      intro given answer hmem
      obtain ⟨simulated', hsimulated', hgate⟩ :=
        hgated given answer (htrace ▸ List.mem_append_right _ hmem)
      exact hsimulated.unique hsimulated' ▸ hgate
    · intro hguarded given answer hmem
      rw [htrace] at hmem
      have hrest := (List.mem_append.mp hmem).resolve_left signTransaction_not_mem_rpc
      refine ⟨simulated, hsimulated, hreviewed.mpr ?_ given answer hrest⟩
      exact fun hunguarded => hguarded ⟨simulated, hsimulated, hunguarded⟩

/-- Signing alone and every run of the pipeline, for any policy and any answers
of the network and the signer: the signer is given transactions through the
gate only, exactly when the unguarded case does not arise. -/
theorem signer_gated_iff (mode : ApprovalMode) :
    (∀ approved trace result, (sign walletSigner mode approved).Traces trace result →
      (SignsOnly (Gate mode approved.policyVerdict approved.approvalTxHash) trace ↔
        ¬ Unguarded mode approved.policyVerdict approved.approvalTxHash approved.inner.inner)) ∧
    ∀ sdk strategy tx policyCheck trace result,
      (run sdk strategy mode tx policyCheck).Traces trace result →
        (SignsOnly (RunGate sdk strategy mode tx policyCheck trace) trace ↔
          ¬ RunUnguarded sdk strategy mode tx policyCheck trace) :=
  ⟨fun _ _ _ htrace => sign_signsOnly_iff htrace,
    fun _ _ _ _ _ _ htrace => run_signsOnly_iff htrace⟩

/-! ## A run that signs -/

/-- The calls of a run whose second simulation fails and whose signer signs. -/
def signedTrace : List (Event walletFace) :=
  let simulated := (sampleTransaction (some defaultComputeUnits)).withBlockhash (sampleHash 1)
  (failedLog (sampleHash 1) (sampleHash 1) simulated
      (((sampleTransaction (some 55000)).withBlockhash (sampleHash 1)).withBlockhash
        (sampleHash 1)) sampleOutput).map rpcPort.event ++
    [⟨.signTransaction simulated, (simulated, .ok ⟨List.replicate 64 5, rfl⟩)⟩]

/-- In automatic mode a verdict that neither blocks nor asks for a human is
enough for a signature. -/
theorem traces_signedTrace {verdict : PolicyVerdict} (hblocked : verdict.isBlocked = false)
    (hhuman : verdict.requiresHuman = false) :
    (run standardSdk .none .automatic (sampleTransaction none) fun _ => verdict).Traces signedTrace
      (some (.signed sampleOutput.intoResult verdict
        (signatureText ⟨List.replicate 64 5, rfl⟩))) := by
  rw [run, traces_bind_iff]
  refine ⟨_, _, _, rfl, traces_via_iff.mpr ⟨_, rfl, executes_sample (.inl rfl)⟩, ?_⟩
  dsimp only
  rw [reviewSimulated, evaluatePolicy_of_not_blocked hblocked]
  dsimp only
  rw [sign_automatic_newUnchecked walletSigner hblocked hhuman, signWith, walletSigner]
  exact traces_call_iff.mpr ⟨_, [], rfl, traces_done_iff.mpr ⟨rfl, rfl⟩⟩

/-- With an approving policy the run signs through the gate. -/
theorem signer_gated_sample :
    SignsOnly (RunGate standardSdk .none .automatic (sampleTransaction none)
      (fun _ => .approved "allow-all") signedTrace) signedTrace := by
  refine ((signer_gated_iff .automatic).2 _ _ _ _ _ _ (traces_signedTrace rfl rfl)).mpr ?_
  rintro ⟨_, _, _, hverdict⟩
  exact absurd hverdict (by simp)

/-- With a policy that requires a simulation it signs all the same. -/
theorem simulationRequired_signed :
    ∃ trace result,
      (run standardSdk .none .automatic (sampleTransaction none)
        fun _ => .simulationRequired).Traces trace result ∧
      ¬ SignsOnly (RunGate standardSdk .none .automatic (sampleTransaction none)
        (fun _ => .simulationRequired) trace) trace := by
  refine ⟨signedTrace, _, traces_signedTrace rfl rfl, ?_⟩
  intro hgated
  refine (run_signsOnly_iff (traces_signedTrace rfl rfl)).mp hgated ?_
  exact ⟨_, ⟨_, _, rfl, executes_sample (.inl rfl)⟩, rfl, rfl⟩

end SolFrontier.WalletEngine
