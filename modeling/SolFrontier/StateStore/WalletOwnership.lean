import Mathlib.Data.UInt
import SolFrontier.Foundation.History
import SolFrontier.StateStore.Errors

/-! # Ownership of external wallets

A challenge is a nonce that a client signs to prove that it holds a wallet; a
binding ties the wallet to a session and survives restarts. Any call may fail,
with its statement executed or not.
-/

namespace SolFrontier.StateStore

open Foundation

/-- How an attempted call ends. -/
inductive Fate where
  | answered
  | failedBefore
  | failedAfter
  deriving DecidableEq, Repr

/-- The statement of a call reached the database. -/
def Fate.executes : Fate → Bool
  | answered | failedAfter => true
  | failedBefore => false

/-! ## Challenges -/

/-- A persisted wallet bind challenge. -/
structure WalletChallengeRow where
  id : String
  sessionId : String
  walletPubkey : String
  nonce : String
  message : String
  createdAt : Int64
  expiresAt : Int64
  usedAt : Option Int64
  deriving DecidableEq, Repr

abbrev ChallengeTable := Table WalletChallengeRow String WalletChallengeRow.id

inductive ChallengeOp where
  | createChallenge (sessionId walletPubkey nonce message : String) (expiresAt : Int64)
  | getChallenge (challengeId : String)
  | markUsed (challengeId : String)
  | purgeOld (retentionMs : Int64)
  deriving DecidableEq, Repr

abbrev ChallengeOp.Answer : ChallengeOp → Type
  | createChallenge .. => String
  | getChallenge _ => Option WalletChallengeRow
  | markUsed _ => Bool
  | purgeOld _ => Nat

/-- An attempted call with the clock's reading, the id it draws, and its fate. -/
structure ChallengeCall where
  op : ChallengeOp
  now : Int64
  newId : String
  fate : Fate
  deriving DecidableEq, Repr

/-- `SET used_at = ? WHERE id = ? AND used_at IS NULL`. -/
def useWrite (now : Int64) : Update WalletChallengeRow.id where
  guard row := row.usedAt.isNone
  set row := { row with usedAt := some now }
  key_set _ := rfl

/-- The row that a creation stores. -/
def WalletChallengeRow.fresh (newId : String) (now : Int64)
    (sessionId walletPubkey nonce message : String) (expiresAt : Int64) : WalletChallengeRow where
  id := newId
  sessionId := sessionId
  walletPubkey := walletPubkey
  nonce := nonce
  message := message
  createdAt := now
  expiresAt := expiresAt
  usedAt := none

namespace ChallengeTable

/-- The table after the call's statement; an id that is taken refuses the insert. -/
def execute (table : ChallengeTable) (call : ChallengeCall) : ChallengeTable :=
  match call.op with
  | .createChallenge sessionId walletPubkey nonce message expiresAt =>
      (table.insert (.fresh call.newId call.now sessionId walletPubkey nonce message
        expiresAt)).getD table
  | .getChallenge _ => table
  | .markUsed challengeId => (table.update challengeId (useWrite call.now)).1
  | .purgeOld retentionMs => table.retain fun row => ¬ row.createdAt < call.now - retentionMs

/-- What a call answers when nothing fails. -/
def result (table : ChallengeTable) (now : Int64) (newId : String) :
    (op : ChallengeOp) → Except StoreError op.Answer
  | .createChallenge sessionId walletPubkey nonce message expiresAt =>
      if (table.insert (.fresh newId now sessionId walletPubkey nonce message expiresAt)).isSome then
        .ok newId
      else .error .sqlx
  | .getChallenge challengeId => .ok (table.get challengeId)
  | .markUsed challengeId => .ok (0 < (table.update challengeId (useWrite now)).2)
  | .purgeOld retentionMs => .ok (table.rows.countP fun row => row.createdAt < now - retentionMs)

def answer (table : ChallengeTable) (call : ChallengeCall) : Except StoreError call.op.Answer :=
  match call.fate with
  | .answered => table.result call.now call.newId call.op
  | .failedBefore | .failedAfter => .error .sqlx

/-- The challenge that a call reports as used by it. -/
def reportsUse (table : ChallengeTable) : ChallengeCall → Option String
  | ⟨.markUsed challengeId, now, newId, fate⟩ =>
      match table.answer ⟨.markUsed challengeId, now, newId, fate⟩ with
      | .ok true => some challengeId
      | _ => none
  | _ => none

end ChallengeTable

/-- The repository, from an empty table. -/
def challengeStore : Machine ChallengeTable ChallengeCall where
  init := .empty
  step table call := if call.fate.executes then table.execute call else table

/-- The call stores this challenge, its id being free. -/
def Creates (row : WalletChallengeRow) (table : ChallengeTable) (call : ChallengeCall) : Prop :=
  call.fate.executes = true ∧ table.get row.id = none ∧
    ∃ sessionId walletPubkey nonce message expiresAt,
      call.op = .createChallenge sessionId walletPubkey nonce message expiresAt ∧
      .fresh call.newId call.now sessionId walletPubkey nonce message expiresAt = row

/-- The call uses this challenge or purges it. -/
def ChallengeCall.Ends (row : WalletChallengeRow) (call : ChallengeCall) : Prop :=
  call.fate.executes = true ∧ (call.op = .markUsed row.id ∨
    ∃ retentionMs, call.op = .purgeOld retentionMs ∧ row.createdAt < call.now - retentionMs)

/-- The call inserts a challenge under this id. -/
def ChallengeCall.draws (challengeId : String) (call : ChallengeCall) : Bool :=
  match call.op with
  | .createChallenge .. => call.fate.executes && call.newId = challengeId
  | _ => false

variable {table : ChallengeTable} {row : WalletChallengeRow} {challengeId : String}

/-- A challenge is stored unused after a call when the call creates it, or when
it was so before and the call neither uses nor purges it. -/
theorem unused_step (hunused : row.usedAt = none) (call : ChallengeCall) :
    (challengeStore.step table call).get row.id = some row ↔
      Creates row table call ∨ table.get row.id = some row ∧ ¬ call.Ends row := by
  obtain ⟨op, now, newId, fate⟩ := call
  unfold challengeStore Creates ChallengeCall.Ends
  dsimp only
  cases hfate : fate.executes with
  | false => simp
  | true =>
      rw [if_pos rfl]
      cases op with
      | createChallenge sessionId walletPubkey nonce message expiresAt =>
          simp only [ChallengeTable.execute, Table.get_insert_getD]
          simp [and_comm]
      | getChallenge => simp [ChallengeTable.execute]
      | markUsed target =>
          simp only [ChallengeTable.execute, Table.get_update]
          by_cases hid : row.id = target
          · rw [if_pos hid, ← hid]
            cases hget : table.get row.id with
            | none => simp
            | some stored =>
                have hne : (useWrite now).onRow stored ≠ row := by
                  intro heq
                  rw [← heq] at hunused
                  cases hused : stored.usedAt <;>
                    simp [Update.onRow, useWrite, hused] at hunused
                simp [hne]
          · rw [if_neg hid]
            simp [Ne.symm hid]
      | purgeOld retentionMs =>
          simp only [ChallengeTable.execute, Table.get_retain]
          cases hget : table.get row.id with
          | none => simp
          | some stored =>
              by_cases heq : stored = row
              · subst heq
                by_cases hold : stored.createdAt < now - retentionMs <;>
                  simp [Option.filter, hold]
              · simp [Option.filter, heq]

/-- The challenge is stored and was not used. -/
def ChallengeTable.Unused (table : ChallengeTable) (challengeId : String) : Prop :=
  ∃ row, table.get challengeId = some row ∧ row.usedAt = none

/-- Only a creation makes a challenge unused. -/
theorem unused_of_step {call : ChallengeCall}
    (hunused : (challengeStore.step table call).Unused challengeId) :
    call.draws challengeId = true ∨ table.Unused challengeId := by
  obtain ⟨row, hget, hnone⟩ := hunused
  obtain rfl : row.id = challengeId := Table.key_of_get hget
  rcases (unused_step hnone call).mp hget with
    ⟨hexecutes, _, _, _, _, _, _, hop, hrow⟩ | ⟨hstored, _⟩
  · left
    have hid : call.newId = row.id := congrArg WalletChallengeRow.id hrow
    simp [ChallengeCall.draws, hop, hexecutes, hid]
  · exact .inr ⟨row, hstored, hnone⟩

/-- A use that is reported was of an unused challenge, and it uses it up. -/
theorem used_of_reports {call : ChallengeCall}
    (hreports : table.reportsUse call = some challengeId) :
    table.Unused challengeId ∧ ¬ (challengeStore.step table call).Unused challengeId := by
  obtain ⟨op, now, newId, fate⟩ := call
  cases op with
  | createChallenge | getChallenge | purgeOld => cases hreports
  | markUsed target =>
      cases fate with
      | failedBefore | failedAfter => cases hreports
      | answered =>
          simp only [ChallengeTable.reportsUse, ChallengeTable.answer, ChallengeTable.result]
            at hreports
          split at hreports
          next hgranted =>
            obtain rfl := Option.some.inj hreports
            have haffected : (table.update target (useWrite now)).2 = 1 := by
              have hpositive := of_decide_eq_true (Except.ok.inj hgranted)
              have hone := table.update_affected_le_one target (useWrite now)
              omega
            obtain ⟨row, hget, hguard⟩ := (Table.update_affected _ _ _).mp haffected
            refine ⟨⟨row, hget, Option.isNone_iff_eq_none.mp hguard⟩, ?_⟩
            rintro ⟨after, hafter, hnone⟩
            have hstep : (challengeStore.step table ⟨.markUsed target, now, newId, .answered⟩).get
                target = some ((useWrite now).onRow row) := by
              show (table.update target (useWrite now)).1.get target = _
              rw [Table.get_update_self, hget]
              rfl
            rw [Update.onRow_of_guard _ hguard, hafter] at hstep
            rw [Option.some.inj hstep] at hnone
            cases hnone
          next => cases hreports

/-- Each creation pays for one reported use. -/
theorem uses_le_draws (challengeId : String) (history : List ChallengeCall) :
    (challengeStore.observe ChallengeTable.reportsUse history).count (some challengeId) ≤
        history.countP (ChallengeCall.draws challengeId) ∧
      ((challengeStore.after history).Unused challengeId →
        (challengeStore.observe ChallengeTable.reportsUse history).count (some challengeId) <
          history.countP (ChallengeCall.draws challengeId)) := by
  induction history using List.reverseRecOn with
  | nil =>
      refine ⟨Nat.le_refl _, ?_⟩
      rintro ⟨row, hget, _⟩
      cases hget
  | append_singleton history call ih =>
      obtain ⟨hbound, hspare⟩ := ih
      rw [Machine.observe_concat, Machine.after_concat, List.count_append, List.countP_append,
        List.count_singleton, List.countP_singleton]
      by_cases hreports : (challengeStore.after history).reportsUse call = some challengeId
      · obtain ⟨hunused, hused⟩ := used_of_reports hreports
        have hless := hspare hunused
        rw [hreports, if_pos (beq_self_eq_true _)]
        exact ⟨by omega, fun hstill => absurd hstill hused⟩
      · rw [if_neg (by simpa using hreports)]
        refine ⟨by omega, fun hunused => ?_⟩
        rcases unused_of_step hunused with hdraws | hbefore
        · rw [if_pos hdraws]
          omega
        · have hless := hspare hbefore
          omega

/-- Whatever calls run, fail or lose their answers: a challenge is reported as used
at most as often as its id was drawn, so once if ids are not drawn twice; and it is
stored unused, as it was created, exactly when a call created it and none has used
or purged it since. -/
theorem challenge_used_once (history : List ChallengeCall) :
    (∀ challengeId,
      (challengeStore.observe ChallengeTable.reportsUse history).count (some challengeId) ≤
        history.countP (ChallengeCall.draws challengeId)) ∧
    ∀ row : WalletChallengeRow, row.usedAt = none →
      ((challengeStore.after history).get row.id = some row ↔
        ∃ earlier call later, history = earlier ++ call :: later ∧
          Creates row (challengeStore.after earlier) call ∧ ∀ other ∈ later, ¬ other.Ends row) := by
  refine ⟨fun challengeId => (uses_le_draws challengeId history).1, fun row hunused => ?_⟩
  refine challengeStore.since_iff (fun table => table.get row.id = some row) (Creates row)
    (ChallengeCall.Ends row) ?_ (fun table call => unused_step hunused call) history
  exact fun hget => by cases hget

/-! ## Bindings -/

/-- A persisted session-wallet binding. -/
structure WalletBindingRow where
  sessionId : String
  walletPubkey : String
  createdAt : Int64
  deriving DecidableEq, Repr

def WalletBindingRow.pair (row : WalletBindingRow) : String × String :=
  (row.sessionId, row.walletPubkey)

abbrev BindingTable := Table WalletBindingRow (String × String) WalletBindingRow.pair

inductive BindingOp where
  | bind (sessionId walletPubkey : String)
  | walletsForSession (sessionId : String)
  | loadAll
  | unbindSession (sessionId : String)
  deriving DecidableEq, Repr

structure BindingCall where
  op : BindingOp
  now : Int64
  fate : Fate
  deriving DecidableEq, Repr

namespace BindingTable

/-- The table after the call's statement; a pair that is bound is left alone. -/
def execute (table : BindingTable) (call : BindingCall) : BindingTable :=
  match call.op with
  | .bind sessionId walletPubkey => (table.insert ⟨sessionId, walletPubkey, call.now⟩).getD table
  | .walletsForSession _ | .loadAll => table
  | .unbindSession sessionId => table.retain fun row => row.sessionId ≠ sessionId

def walletsForSession (table : BindingTable) (sessionId : String) : List String :=
  (table.rows.filter fun row => row.sessionId = sessionId).map WalletBindingRow.walletPubkey

def loadAll (table : BindingTable) : List WalletBindingRow := table.rows

end BindingTable

/-- The repository, from an empty table. -/
def bindingStore : Machine BindingTable BindingCall where
  init := .empty
  step table call := if call.fate.executes then table.execute call else table

/-- The call stores this binding, the pair being unbound. -/
def Binds (row : WalletBindingRow) (table : BindingTable) (call : BindingCall) : Prop :=
  call.fate.executes = true ∧ table.get row.pair = none ∧
    call.op = .bind row.sessionId row.walletPubkey ∧ call.now = row.createdAt

/-- The call closes this session. -/
def BindingCall.Closes (sessionId : String) (call : BindingCall) : Prop :=
  call.fate.executes = true ∧ call.op = .unbindSession sessionId

theorem bound_step {table : BindingTable} (row : WalletBindingRow) (call : BindingCall) :
    (bindingStore.step table call).get row.pair = some row ↔
      Binds row table call ∨ table.get row.pair = some row ∧ ¬ call.Closes row.sessionId := by
  obtain ⟨op, now, fate⟩ := call
  unfold bindingStore Binds BindingCall.Closes
  dsimp only
  cases hfate : fate.executes with
  | false => simp
  | true =>
      rw [if_pos rfl]
      cases op with
      | bind sessionId walletPubkey =>
          simp only [BindingTable.execute, Table.get_insert_getD]
          obtain ⟨rowSession, rowWallet, createdAt⟩ := row
          simp [and_assoc]
      | walletsForSession | loadAll => simp [BindingTable.execute]
      | unbindSession sessionId =>
          simp only [BindingTable.execute, Table.get_retain]
          cases hget : table.get row.pair with
          | none => simp
          | some stored =>
              by_cases heq : stored = row
              · subst heq
                by_cases hclosed : stored.sessionId = sessionId
                · simp [Option.filter, hclosed]
                · simp [Option.filter, hclosed, Ne.symm hclosed]
              · simp [Option.filter, heq]

theorem nodup_walletsForSession (table : BindingTable) (sessionId : String) :
    (table.walletsForSession sessionId).Nodup := by
  refine List.Nodup.map_on ?_ ((List.Nodup.of_map _ table.nodup).filter _)
  intro row hrow other hother hwallet
  obtain ⟨hmem, hsession⟩ := List.mem_filter.mp hrow
  obtain ⟨hotherMem, hotherSession⟩ := List.mem_filter.mp hother
  have hpair : row.pair = other.pair :=
    Prod.ext ((of_decide_eq_true hsession).trans (of_decide_eq_true hotherSession).symm) hwallet
  have hget := Table.get_of_mem hmem
  rw [hpair, Table.get_of_mem hotherMem] at hget
  exact (Option.some.inj hget).symm

theorem mem_walletsForSession {table : BindingTable} {sessionId walletPubkey : String} :
    walletPubkey ∈ table.walletsForSession sessionId ↔
      ∃ createdAt, ⟨sessionId, walletPubkey, createdAt⟩ ∈ table.loadAll := by
  simp only [BindingTable.walletsForSession, BindingTable.loadAll, List.mem_map, List.mem_filter,
    decide_eq_true_eq]
  constructor
  · rintro ⟨row, ⟨hmem, rfl⟩, rfl⟩
    exact ⟨row.createdAt, hmem⟩
  · rintro ⟨createdAt, hmem⟩
    exact ⟨_, ⟨hmem, rfl⟩, rfl⟩

/-- Whatever calls run, fail or lose their answers: a restart loads each bound pair
once and with the time of the call that bound it, a pair being bound exactly when a
call bound it and its session was not closed since; and a session is shown exactly
its wallets of that load. -/
theorem bindings_exact (history : List BindingCall) :
    (∀ row, row ∈ (bindingStore.after history).loadAll ↔
      ∃ earlier call later, history = earlier ++ call :: later ∧
        Binds row (bindingStore.after earlier) call ∧
        ∀ other ∈ later, ¬ other.Closes row.sessionId) ∧
    ((bindingStore.after history).loadAll.map WalletBindingRow.pair).Nodup ∧
    ∀ sessionId, ((bindingStore.after history).walletsForSession sessionId).Nodup ∧
      ∀ walletPubkey, walletPubkey ∈ (bindingStore.after history).walletsForSession sessionId ↔
        ∃ createdAt, ⟨sessionId, walletPubkey, createdAt⟩ ∈ (bindingStore.after history).loadAll := by
  refine ⟨fun row => ?_, (bindingStore.after history).nodup, fun sessionId =>
    ⟨nodup_walletsForSession _ _, fun _ => mem_walletsForSession⟩⟩
  have hmem : row ∈ (bindingStore.after history).loadAll ↔
      (bindingStore.after history).get row.pair = some row :=
    ⟨Table.get_of_mem, Table.mem_of_get⟩
  rw [hmem]
  exact bindingStore.since_iff (fun table => table.get row.pair = some row) (Binds row)
    (fun call => call.Closes row.sessionId) (fun hget => by cases hget)
    (fun table call => bound_step row call) history

end SolFrontier.StateStore
