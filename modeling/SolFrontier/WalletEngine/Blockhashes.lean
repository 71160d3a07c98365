import SolFrontier.Foundation.Pool
import SolFrontier.WalletEngine.Pipeline

/-! # The blockhash manager

One cached blockhash serves all callers. A caller takes it while it is younger
than thirty seconds and otherwise fetches its own; a background loop replaces
it on a timer. Nothing keeps a slow fetch from overwriting a newer one, but each
entry carries the time at which it was received.
-/

namespace SolFrontier.WalletEngine

open Foundation SolanaCore Program

/-- A blockhash with its validity; times are in the clock's own unit. -/
structure BlockhashEntry where
  hash : Hash
  lastValidBlockHeight : UInt64
  fetchedAt : Nat
  deriving DecidableEq, Repr

def BlockhashEntry.pair (entry : BlockhashEntry) : Hash × UInt64 :=
  (entry.hash, entry.lastValidBlockHeight)

/-- How long an entry is handed out: thirty seconds in nanoseconds. -/
def maxCachedAge : Nat := 30 * 10 ^ 9

/-- The locks, clock readings and requests of the manager. -/
inductive BlockhashOp where
  | readCurrent
  | now
  | readClient
  | getLatestBlockhash
  | writeCurrent (entry : BlockhashEntry)
  deriving DecidableEq, Repr

abbrev BlockhashOp.Answer : BlockhashOp → Type
  | readCurrent => Option BlockhashEntry
  | now => Nat
  | readClient => Except SolanaError Unit
  | getLatestBlockhash => Except String (Hash × UInt64)
  | writeCurrent _ => Unit

abbrev blockhashFace : Interface := ⟨BlockhashOp, BlockhashOp.Answer⟩

namespace BlockhashManager

def request (op : BlockhashOp) : Program blockhashFace op.Answer := @perform blockhashFace op

@[simp] theorem request_bind {α : Type} (op : BlockhashOp)
    (rest : op.Answer → Program blockhashFace α) : (request op >>= rest) = .call op rest := rfl

/-- Fetch a blockhash from the RPC. -/
def fetchFresh : Program blockhashFace (Except SolanaError BlockhashEntry) := do
  match ← request .readClient with
  | .error error => pure (.error error)
  | .ok () =>
      match ← request .getLatestBlockhash with
      | .error message => pure (.error (.client message))
      | .ok (hash, lastValidBlockHeight) => do
          let fetchedAt ← request .now
          pure (.ok ⟨hash, lastValidBlockHeight, fetchedAt⟩)

/-- Fetch a blockhash, keep it for the others, and return it. -/
def refetch : Program blockhashFace (Except SolanaError (Hash × UInt64)) := do
  match ← fetchFresh with
  | .error error => pure (.error error)
  | .ok entry => do
      request (.writeCurrent entry)
      pure (.ok entry.pair)

/-- The cached blockhash, or a fetched one when there is none or it is stale. -/
def getFresh : Program blockhashFace (Except SolanaError (Hash × UInt64)) := do
  match ← request .readCurrent with
  | some entry => do
      let checkedAt ← request .now
      if checkedAt - entry.fetchedAt < maxCachedAge then pure (.ok entry.pair) else refetch
  | none => refetch

/-- One round of the refresh loop; a failure is only logged. -/
def refresh : Program blockhashFace Unit := do
  match ← fetchFresh with
  | .error _ => pure ()
  | .ok entry => request (.writeCurrent entry)

/-- The cache, the latest clock reading, and what the node has answered so far,
each answer with the time it was given. -/
structure World where
  current : Option BlockhashEntry
  clock : Nat
  answered : List ((Hash × UInt64) × Nat)

/-- Time passes with clock readings and requests, and never goes back. -/
def step : Semantics blockhashFace World
  | world, ⟨.readCurrent, answer⟩, after => answer = world.current ∧ after = world
  | world, ⟨.now, answer⟩, after => world.clock ≤ answer ∧ after = { world with clock := answer }
  | world, ⟨.readClient, _⟩, after => after = world
  | world, ⟨.getLatestBlockhash, answer⟩, after => ∃ time, world.clock ≤ time ∧
      after =
        { world with
          clock := time
          answered := world.answered ++ (answer.toOption.map fun pair => (pair, time)).toList }
  | world, ⟨.writeCurrent entry, _⟩, after => after = { world with current := some entry }

/-- A later world has answered more, at a later time. -/
structure World.Later (world later : World) : Prop where
  clock : world.clock ≤ later.clock
  answered : ∀ answer ∈ world.answered, answer ∈ later.answered

theorem later_step {world after : World} {event : Event blockhashFace}
    (hstep : step world event after) : world.Later after := by
  obtain ⟨op, answer⟩ := event
  cases op with
  | readCurrent =>
      obtain ⟨_, rfl⟩ := hstep
      exact ⟨Nat.le_refl _, fun _ h => h⟩
  | now =>
      obtain ⟨hclock, rfl⟩ := hstep
      exact ⟨hclock, fun _ h => h⟩
  | readClient =>
      obtain rfl : after = world := hstep
      exact ⟨Nat.le_refl _, fun _ h => h⟩
  | getLatestBlockhash =>
      obtain ⟨time, hclock, rfl⟩ := hstep
      exact ⟨hclock, fun _ h => List.mem_append_left _ h⟩
  | writeCurrent entry =>
      obtain rfl : after = _ := hstep
      exact ⟨Nat.le_refl _, fun _ h => h⟩

/-- The node answered the entry's pair before the entry was stamped. -/
def World.Vouches (world : World) (entry : BlockhashEntry) : Prop :=
  ∃ time ≤ entry.fetchedAt, (entry.pair, time) ∈ world.answered

/-- What an answer tells, by a time. -/
def Told (world : World) (time : Nat) : Event blockhashFace → Prop
  | ⟨.readCurrent, some entry⟩ => world.Vouches entry ∧ entry.fetchedAt ≤ time
  | ⟨.getLatestBlockhash, .ok pair⟩ => ∃ answeredAt ≤ time, (pair, answeredAt) ∈ world.answered
  | ⟨.now, reading⟩ => reading ≤ time
  | _ => True

theorem Told.later {world later : World} (hlater : world.Later later) {time : Nat}
    {event : Event blockhashFace} (htold : Told world time event) : Told later time event := by
  unfold Told at htold ⊢
  split at htold
  · obtain ⟨⟨answeredAt, hbefore, hmem⟩, hfetched⟩ := htold
    exact ⟨⟨answeredAt, hbefore, hlater.answered _ hmem⟩, hfetched⟩
  · obtain ⟨answeredAt, hbefore, hmem⟩ := htold
    exact ⟨answeredAt, hbefore, hlater.answered _ hmem⟩
  · exact htold
  · trivial

/-! ## What a task knows -/

abbrev TaskLog := List (Event blockhashFace)

/-- A task keeps only an entry that it has just received and stamped. -/
def allows (log : TaskLog) : BlockhashOp → Prop
  | .writeCurrent entry => ∃ before, log =
      before ++ [⟨.getLatestBlockhash, .ok entry.pair⟩, ⟨.now, entry.fetchedAt⟩]
  | _ => True

/-- Every answer still tells what it told, and told it before the task read the
clock again. -/
def Knows (log : TaskLog) (world : World) : Prop :=
  ∀ before event after, log = before ++ event :: after → ∃ time ≤ world.clock,
    Told world time event ∧ ∀ reading, ⟨.now, reading⟩ ∈ after → time ≤ reading

/-- The cached entry was answered and stamped before now. -/
def CacheVouched (world : World) : Prop :=
  ∀ entry, world.current = some entry → world.Vouches entry ∧ entry.fetchedAt ≤ world.clock

variable {world after : World} {log : TaskLog}

theorem World.Vouches.later {later : World} {entry : BlockhashEntry}
    (hvouches : world.Vouches entry) (hlater : world.Later later) : later.Vouches entry := by
  obtain ⟨time, hbefore, hmem⟩ := hvouches
  exact ⟨time, hbefore, hlater.answered _ hmem⟩

theorem told_step {event : Event blockhashFace} (hcache : CacheVouched world)
    (hstep : step world event after) : Told after after.clock event := by
  obtain ⟨op, answer⟩ := event
  cases op with
  | readCurrent =>
      obtain ⟨hanswer, rfl⟩ := hstep
      cases answer with
      | none => trivial
      | some entry => exact hcache entry hanswer.symm
  | now =>
      obtain ⟨_, rfl⟩ := hstep
      exact Nat.le_refl _
  | getLatestBlockhash =>
      obtain ⟨time, _, rfl⟩ := hstep
      cases answer with
      | error => trivial
      | ok pair => exact ⟨time, Nat.le_refl _, List.mem_append_right _ (List.mem_singleton_self _)⟩
  | readClient | writeCurrent => trivial

theorem Knows.later {later : World} (hknows : Knows log world) (hlater : world.Later later) :
    Knows log later := by
  intro before event rest hlog
  obtain ⟨time, htime, htold, hreadings⟩ := hknows before event rest hlog
  exact ⟨time, htime.trans hlater.clock, htold.later hlater, hreadings⟩

theorem Knows.step {event : Event blockhashFace} (hknows : Knows log world)
    (hcache : CacheVouched world) (hstep : step world event after) :
    Knows (log ++ [event]) after := by
  intro before known rest hlog
  rcases List.eq_nil_or_concat rest with rfl | ⟨initial, last, rfl⟩
  · obtain ⟨_, hevent⟩ := List.append_inj' hlog rfl
    obtain rfl := List.singleton_inj.mp hevent
    exact ⟨after.clock, Nat.le_refl _, told_step hcache hstep, by simp⟩
  · rw [List.concat_eq_append, ← List.cons_append, ← List.append_assoc] at hlog
    obtain ⟨hbefore, hevent⟩ := List.append_inj' hlog rfl
    obtain rfl := List.singleton_inj.mp hevent
    obtain ⟨time, htime, htold, hreadings⟩ := hknows before known initial hbefore
    have hlater := later_step hstep
    refine ⟨time, htime.trans hlater.clock, htold.later hlater, ?_⟩
    intro reading hmem
    rw [List.concat_eq_append] at hmem
    rcases List.mem_append.mp hmem with hold | hnew
    · exact hreadings reading hold
    · -- The clock does not go back.
      rw [← List.mem_singleton.mp hnew] at hstep
      exact htime.trans hstep.1

/-- Nothing is cached, and nothing was answered yet. -/
def World.initial (clock : Nat) : World := ⟨none, clock, []⟩

variable {Caller : Type} [DecidableEq Caller] {pool : Pool blockhashFace World Caller TaskResult}
  {logs : Caller → TaskLog}

end BlockhashManager

end SolFrontier.WalletEngine
