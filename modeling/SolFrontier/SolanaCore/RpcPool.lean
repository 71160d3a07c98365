import Mathlib.Data.Nat.ModEq
import SolFrontier.Foundation.CircuitBreaker
import SolFrontier.Foundation.History

/-! # The RPC endpoint pool

Requests go to the first endpoint whose circuit is closed, writes to the first
such write endpoint. A circuit opens at the threshold of consecutive failures
and remembers when; only a success closes it or forgets that time.
-/

namespace SolFrontier.SolanaCore

open Foundation

/-! ## Endpoints -/

structure EndpointConfig where
  url : String
  isWriteEndpoint : Bool
  deriving DecidableEq, Repr

/-- Durations and times are in the clock's own unit. -/
structure RpcPoolConfig where
  endpoints : List EndpointConfig
  failureThreshold : UInt32
  recoveryInterval : Nat
  requestTimeout : Nat
  deriving DecidableEq, Repr

structure RpcClient where
  url : String
  timeout : Nat
  deriving DecidableEq, Repr

structure EndpointState where
  config : EndpointConfig
  client : RpcClient
  consecutiveFailures : UInt32
  circuitOpenSince : Option Nat
  deriving DecidableEq, Repr

namespace EndpointState

def new (config : EndpointConfig) (timeout : Nat) : EndpointState where
  config
  client := ⟨config.url, timeout⟩
  consecutiveFailures := 0
  circuitOpenSince := none

def isAvailable (endpoint : EndpointState) (recoveryInterval now : Nat) : Bool :=
  match endpoint.circuitOpenSince with
  | none => true
  | some since => recoveryInterval ≤ now - since

def recordSuccess (endpoint : EndpointState) : EndpointState :=
  { endpoint with consecutiveFailures := 0, circuitOpenSince := none }

/-- The count wraps. An open circuit keeps the time at which it opened. -/
def recordFailure (endpoint : EndpointState) (failureThreshold : UInt32) (now : Nat) :
    EndpointState :=
  let consecutiveFailures := endpoint.consecutiveFailures + 1
  if failureThreshold ≤ consecutiveFailures ∧ endpoint.circuitOpenSince = none then
    { endpoint with consecutiveFailures, circuitOpenSince := some now }
  else { endpoint with consecutiveFailures }

def record (failureThreshold : UInt32) (endpoint : EndpointState) (outcome : Outcome) :
    EndpointState :=
  if outcome.success then endpoint.recordSuccess
  else endpoint.recordFailure failureThreshold outcome.time

end EndpointState

/-! ## The pool -/

structure RpcPool where
  config : RpcPoolConfig
  endpoints : List EndpointState
  deriving DecidableEq, Repr

namespace RpcPool

def new (config : RpcPoolConfig) : RpcPool where
  config
  endpoints := config.endpoints.map fun endpoint => .new endpoint config.requestTimeout

def available (pool : RpcPool) (now : Nat) (endpoint : EndpointState) : Bool :=
  endpoint.isAvailable pool.config.recoveryInterval now

/-- The first available endpoint; none is an exhausted pool. -/
def pickAny (pool : RpcPool) (now : Nat) : Option RpcClient :=
  (pool.endpoints.find? (pool.available now)).map EndpointState.client

def readClient (pool : RpcPool) (now : Nat) : Option RpcClient := pool.pickAny now

/-- Write endpoints go first. -/
def writeClient (pool : RpcPool) (now : Nat) : Option RpcClient :=
  match pool.endpoints.find? fun endpoint =>
    endpoint.config.isWriteEndpoint && pool.available now endpoint with
  | some endpoint => some endpoint.client
  | none => pool.pickAny now

/-- Apply an outcome to the first endpoint with this URL. -/
def recordAt (failureThreshold : UInt32) (url : String) (outcome : Outcome) :
    List EndpointState → List EndpointState
  | [] => []
  | endpoint :: rest =>
      if endpoint.config.url = url then endpoint.record failureThreshold outcome :: rest
      else endpoint :: recordAt failureThreshold url outcome rest

/-- `record_success` and `record_failure`. -/
def record (pool : RpcPool) (url : String) (outcome : Outcome) : RpcPool :=
  { pool with endpoints := recordAt pool.config.failureThreshold url outcome pool.endpoints }

/-- The pool with a single endpoint of it. -/
def only (pool : RpcPool) (endpoint : EndpointState) : RpcPool :=
  { pool with endpoints := [endpoint] }

/-- Neither selection takes the endpoint, even when there is no other. -/
def Skips (pool : RpcPool) (endpoint : EndpointState) (now : Nat) : Prop :=
  (pool.only endpoint).readClient now = none ∧ (pool.only endpoint).writeClient now = none

theorem skips_iff {pool : RpcPool} {endpoint : EndpointState} {now : Nat} :
    pool.Skips endpoint now ↔ pool.available now endpoint = false := by
  unfold Skips readClient writeClient pickAny available
  cases hpool : endpoint.isAvailable pool.config.recoveryInterval now <;>
    cases hwrite : endpoint.config.isWriteEndpoint <;> simp [only, hpool, hwrite]

/-- A read goes to an endpoint of the pool that is not skipped. -/
theorem readClient_eq_some {pool : RpcPool} {now : Nat} {client : RpcClient}
    (hread : pool.readClient now = some client) :
    ∃ endpoint ∈ pool.endpoints, endpoint.client = client ∧ ¬ pool.Skips endpoint now := by
  obtain ⟨endpoint, hfind, hclient⟩ := Option.map_eq_some_iff.mp hread
  refine ⟨endpoint, List.mem_of_find?_eq_some hfind, hclient, ?_⟩
  rw [skips_iff, Bool.not_eq_false]
  exact List.find?_some hfind

/-- So does a write. -/
theorem writeClient_eq_some {pool : RpcPool} {now : Nat} {client : RpcClient}
    (hwrite : pool.writeClient now = some client) :
    ∃ endpoint ∈ pool.endpoints, endpoint.client = client ∧ ¬ pool.Skips endpoint now := by
  unfold writeClient at hwrite
  split at hwrite
  next endpoint hfind =>
    have hselected := List.find?_some hfind
    rw [Bool.and_eq_true] at hselected
    refine ⟨endpoint, List.mem_of_find?_eq_some hfind, Option.some.inj hwrite, ?_⟩
    rw [skips_iff, Bool.not_eq_false]
    exact hselected.2
  next => exact readClient_eq_some hwrite

end RpcPool

/-! ## Runs -/

/-- A URL and the outcome recorded for it. -/
abbrev PoolCall := String × Outcome

def poolMachine (config : RpcPoolConfig) : Machine RpcPool PoolCall where
  init := .new config
  step pool call := pool.record call.1 call.2

/-- The outcomes that reach an endpoint: those for its URL, if it is the first with it. -/
def outcomesOf (config : RpcPoolConfig) (index : Nat) (history : List PoolCall) : List Outcome :=
  (history.filter fun call =>
    config.endpoints.findIdx? (fun endpoint => endpoint.url = call.1) = some index).map Prod.snd

section Runs

variable {config : RpcPoolConfig}

theorem outcomesOf_concat (config : RpcPoolConfig) (index : Nat) (history : List PoolCall)
    (call : PoolCall) :
    outcomesOf config index (history ++ [call]) =
      if (config.endpoints.findIdx? fun endpoint => endpoint.url = call.1) = some index then
        outcomesOf config index history ++ [call.2]
      else outcomesOf config index history := by
  unfold outcomesOf
  split
  next hreaches => simp [hreaches]
  next hpasses => simp [hpasses]

/-- The state of an endpoint is a function of the outcomes that reached it. -/
structure EndpointState.After (threshold : UInt32) (endpoint : EndpointState)
    (outcomes : List Outcome) : Prop where
  count : endpoint.consecutiveFailures = .ofNat (Breaker.failures outcomes).length
  opened : endpoint.circuitOpenSince = (Breaker.failures outcomes)[threshold.toNat - 1]?

/-- A failure counts one more, and the circuit opens with the one that reaches the threshold. -/
theorem EndpointState.After.recordFailure {threshold : UInt32} {endpoint : EndpointState}
    {outcomes later : List Outcome} (hthreshold : 0 < threshold)
    (hafter : endpoint.After threshold outcomes) {time : Nat}
    (hlast : Breaker.failures later = Breaker.failures outcomes ++ [time]) :
    (endpoint.recordFailure threshold time).After threshold later := by
  obtain ⟨hcount, hopened⟩ := hafter
  have hpositive : 0 < threshold.toNat := hthreshold
  have hbound := threshold.toNat_lt
  have hnext : endpoint.consecutiveFailures + 1 =
      .ofNat (Breaker.failures later).length := by
    rw [hcount, hlast, List.length_append, List.length_singleton, UInt32.ofNat_add]
    rfl
  unfold EndpointState.recordFailure
  dsimp only
  by_cases hfew : (Breaker.failures outcomes).length < threshold.toNat
  · -- Below the threshold the count has not wrapped.
    have hclosed : endpoint.circuitOpenSince = none := by
      rw [hopened, List.getElem?_eq_none_iff]
      omega
    have hreached : threshold ≤ endpoint.consecutiveFailures + 1 ↔
        threshold.toNat ≤ (Breaker.failures outcomes).length + 1 := by
      rw [hnext, hlast, List.length_append, List.length_singleton, UInt32.le_iff_toNat_le,
        UInt32.toNat_ofNat_of_lt' (lt_of_le_of_lt hfew hbound)]
    by_cases hopens : threshold ≤ endpoint.consecutiveFailures + 1
    · rw [if_pos ⟨hopens, hclosed⟩]
      have hindex : threshold.toNat - 1 = (Breaker.failures outcomes).length := by
        have hreach := hreached.mp hopens
        omega
      exact ⟨hnext, by rw [hlast, hindex, List.getElem?_concat_length]⟩
    · rw [if_neg fun h => hopens h.1]
      refine ⟨hnext, ?_⟩
      rw [hlast, hclosed, eq_comm, List.getElem?_eq_none_iff, List.length_append,
        List.length_singleton]
      have hreach := hreached.not.mp hopens
      omega
  · -- An open circuit keeps the time it opened at.
    have hindex : threshold.toNat - 1 < (Breaker.failures outcomes).length := by omega
    have hopen : endpoint.circuitOpenSince ≠ none := by
      rw [hopened, List.getElem?_eq_getElem hindex]
      exact Option.some_ne_none _
    rw [if_neg fun h => hopen h.2]
    exact ⟨hnext, by rw [hlast, List.getElem?_append_left hindex]; exact hopened⟩

theorem EndpointState.After.record {threshold : UInt32} {endpoint : EndpointState}
    {outcomes : List Outcome} (hthreshold : 0 < threshold)
    (hafter : endpoint.After threshold outcomes) (outcome : Outcome) :
    (endpoint.record threshold outcome).After threshold (outcomes ++ [outcome]) := by
  unfold EndpointState.record
  cases hsuccess : outcome.success with
  | true =>
      constructor <;> simp [Breaker.failures_concat, hsuccess, EndpointState.recordSuccess]
  | false =>
      rw [if_neg Bool.false_ne_true]
      apply hafter.recordFailure hthreshold
      simp [Breaker.failures_concat, hsuccess]

/-- An outcome changes the endpoint that its URL finds, and no other. -/
theorem getElem?_recordAt {threshold : UInt32} {url : String} {outcome : Outcome}
    {endpoints : List EndpointState} {index : Nat} {endpoint : EndpointState}
    (hget : endpoints[index]? = some endpoint) :
    (RpcPool.recordAt threshold url outcome endpoints)[index]? =
      some (if endpoints.findIdx? (fun endpoint => endpoint.config.url = url) = some index then
        endpoint.record threshold outcome else endpoint) := by
  induction endpoints generalizing index with
  | nil => cases hget
  | cons first rest ih =>
      rw [RpcPool.recordAt]
      by_cases hurl : first.config.url = url
      · cases index with
        | zero =>
            obtain rfl := Option.some.inj hget
            simp [hurl, List.findIdx?_cons]
        | succ index =>
            rw [List.getElem?_cons_succ] at hget
            simp [hurl, hget, List.findIdx?_cons]
      · cases index with
        | zero =>
            obtain rfl := Option.some.inj hget
            simp [hurl, List.findIdx?_cons]
        | succ index =>
            rw [List.getElem?_cons_succ] at hget
            simp [hurl, ih hget, List.findIdx?_cons]

theorem config_record (threshold : UInt32) (endpoint : EndpointState) (outcome : Outcome) :
    (endpoint.record threshold outcome).config = endpoint.config := by
  unfold EndpointState.record EndpointState.recordSuccess EndpointState.recordFailure
  dsimp only
  split
  · rfl
  · split <;> rfl

theorem configs_recordAt (threshold : UInt32) (url : String) (outcome : Outcome)
    (endpoints : List EndpointState) :
    (RpcPool.recordAt threshold url outcome endpoints).map EndpointState.config =
      endpoints.map EndpointState.config := by
  induction endpoints with
  | nil => rfl
  | cons endpoint rest ih =>
      rw [RpcPool.recordAt]
      split
      · rw [List.map_cons, config_record, List.map_cons]
      · rw [List.map_cons, ih, List.map_cons]

theorem config_after (history : List PoolCall) :
    ((poolMachine config).after history).config = config := by
  induction history using List.reverseRecOn with
  | nil => rfl
  | append_singleton history call ih => rwa [Machine.after_concat]

/-- Recording changes no endpoint's configuration. -/
theorem configs_after (history : List PoolCall) :
    ((poolMachine config).after history).endpoints.map EndpointState.config =
      config.endpoints := by
  induction history using List.reverseRecOn with
  | nil =>
      simp only [Machine.after_nil, poolMachine, RpcPool.new, List.map_map]
      exact List.map_id _
  | append_singleton history call ih =>
      rw [Machine.after_concat]
      exact (configs_recordAt ..).trans ih

/-- At each point of a run every endpoint is in the state that the outcomes of
its own calls lead to. -/
theorem endpoint_after (hthreshold : 0 < config.failureThreshold) {index : Nat}
    {endpointConfig : EndpointConfig} (hindex : config.endpoints[index]? = some endpointConfig)
    (history : List PoolCall) :
    ∃ endpoint, ((poolMachine config).after history).endpoints[index]? = some endpoint ∧
      endpoint.After config.failureThreshold (outcomesOf config index history) := by
  induction history using List.reverseRecOn with
  | nil =>
      refine ⟨.new endpointConfig config.requestTimeout, ?_, rfl, rfl⟩
      simp [poolMachine, RpcPool.new, hindex]
  | append_singleton history call ih =>
      obtain ⟨endpoint, hget, hafter⟩ := ih
      -- Recording keeps the configurations, so a URL finds what it found at the start.
      have hfound : ∀ url, (config.endpoints.findIdx? fun other => other.url = url) =
          ((poolMachine config).after history).endpoints.findIdx?
            fun other => other.config.url = url := by
        intro url
        rw [← configs_after history, List.findIdx?_map]
        rfl
      have hnext : ((poolMachine config).after (history ++ [call])).endpoints[index]? =
          some (if (config.endpoints.findIdx? fun other => other.url = call.1) = some index then
            endpoint.record config.failureThreshold call.2 else endpoint) := by
        rw [Machine.after_concat, hfound]
        show (RpcPool.recordAt _ call.1 call.2 _)[index]? = _
        rw [config_after]
        exact getElem?_recordAt hget
      refine ⟨_, hnext, ?_⟩
      rw [outcomesOf_concat]
      split
      · exact hafter.record hthreshold call.2
      · exact hafter

/-- An endpoint is skipped while less than an interval has passed since its
circuit opened. -/
theorem EndpointState.After.available_iff {pool : RpcPool} {endpoint : EndpointState}
    {threshold : UInt32} {outcomes : List Outcome} (hafter : endpoint.After threshold outcomes)
    {now : Nat} (hnow : ∀ outcome ∈ outcomes, outcome.time ≤ now) :
    pool.Skips endpoint now ↔ ∃ opened, (Breaker.failures outcomes)[threshold.toNat - 1]? =
      some opened ∧ now < opened + pool.config.recoveryInterval := by
  rw [RpcPool.skips_iff, RpcPool.available, EndpointState.isAvailable, hafter.opened]
  cases hopened : (Breaker.failures outcomes)[threshold.toNat - 1]? with
  | none => simp
  | some opened =>
      obtain ⟨outcome, houtcome, htime⟩ :=
        Breaker.mem_of_failures (List.mem_of_getElem? hopened)
      have hpast := hnow outcome houtcome
      simp only [decide_eq_false_iff_not, Option.some.injEq, exists_eq_left']
      omega

/-- Any recorded outcomes, at any clock: at each later time an endpoint is skipped
as documented exactly when no probe of it failed within the last interval. -/
theorem skipped_as_documented_iff (hthreshold : 0 < config.failureThreshold) {index : Nat}
    (hindex : index < config.endpoints.length) (history : List PoolCall) {now : Nat}
    (hnow : ∀ call ∈ history, call.2.time ≤ now) :
    ((∃ endpoint, ((poolMachine config).after history).endpoints[index]? = some endpoint ∧
        ((poolMachine config).after history).Skips endpoint now) ↔
      Breaker.Blocked config.failureThreshold.toNat config.recoveryInterval
        (outcomesOf config index history) now) ↔
      ∀ probe ∈ Breaker.probes config.failureThreshold.toNat config.recoveryInterval
        (outcomesOf config index history), probe + config.recoveryInterval ≤ now := by
  obtain ⟨endpoint, hget, hafter⟩ :=
    endpoint_after hthreshold (List.getElem?_eq_getElem hindex) history
  have hpast : ∀ outcome ∈ outcomesOf config index history, outcome.time ≤ now := by
    intro outcome houtcome
    obtain ⟨call, hcall, rfl⟩ := List.mem_map.mp houtcome
    exact hnow call (List.mem_filter.mp hcall).1
  have hpositive : 0 < config.failureThreshold.toNat := hthreshold
  rw [← Breaker.forgetful_iff hpositive hpast]
  simp only [hget, Option.some.injEq, exists_eq_left', hafter.available_iff hpast, config_after]

end Runs

/-! ## A broken endpoint -/

/-- A single endpoint whose circuit opens at the first failure, for ten units of time. -/
def singleEndpoint : RpcPoolConfig where
  endpoints := [⟨"https://api.devnet.solana.com", true⟩]
  failureThreshold := 1
  recoveryInterval := 10
  requestTimeout := 15

/-- It fails, and fails again when it is probed an interval later. -/
def failingCalls : List PoolCall :=
  [("https://api.devnet.solana.com", ⟨0, false⟩), ("https://api.devnet.solana.com", ⟨10, false⟩)]

/-- An interval after the failed probe, the next one is due in any case. -/
theorem skipped_as_documented_failing :
    ((∃ endpoint, ((poolMachine singleEndpoint).after failingCalls).endpoints[0]? = some endpoint ∧
        ((poolMachine singleEndpoint).after failingCalls).Skips endpoint 20) ↔
      Breaker.Blocked 1 10 (outcomesOf singleEndpoint 0 failingCalls) 20) ↔
      ∀ probe ∈ Breaker.probes 1 10 (outcomesOf singleEndpoint 0 failingCalls), probe + 10 ≤ 20 :=
  skipped_as_documented_iff (by decide) (by decide) failingCalls (by decide)

/-- Right after the failed probe the endpoint is selected again, and again. -/
theorem failed_probe_forgotten :
    ¬ ∀ config history index now, 0 < config.failureThreshold →
      index < config.endpoints.length → (∀ call ∈ history, call.2.time ≤ now) →
      ((∃ endpoint, ((poolMachine config).after history).endpoints[index]? = some endpoint ∧
          ((poolMachine config).after history).Skips endpoint now) ↔
        Breaker.Blocked config.failureThreshold.toNat config.recoveryInterval
          (outcomesOf config index history) now) := by
  intro hdocumented
  have hblocked : Breaker.Blocked 1 10 (outcomesOf singleEndpoint 0 failingCalls) 11 :=
    ⟨by decide, 0, rfl, .inr ⟨10, by decide, by decide⟩⟩
  obtain ⟨endpoint, hget, hskips⟩ := (hdocumented singleEndpoint failingCalls 0 11 (by decide)
    (by decide) (by decide)).mpr hblocked
  have hfirst : ((poolMachine singleEndpoint).after failingCalls).endpoints[0]? =
      some ⟨⟨"https://api.devnet.solana.com", true⟩, ⟨"https://api.devnet.solana.com", 15⟩, 2,
        some 0⟩ := rfl
  obtain rfl := Option.some.inj (hfirst.symm.trans hget)
  exact absurd hskips.1 (by decide)

end SolFrontier.SolanaCore
