import SolFrontier.StateStore.Spend

/-! # Spend tracking

The in-memory counterpart of the spend ledger: unsigned counters for each
session and for each wallet and day. The two agree, and show the exact totals,
exactly as long as the signed column can be added up.
-/

namespace SolFrontier.RiskEngine

open Foundation StateStore

/-- Cumulative spend by session, and by wallet and UTC date. -/
structure SpendTracker where
  sessions : String → Option UInt64
  daily : String × String → Option UInt64

namespace SpendTracker

def new : SpendTracker := ⟨fun _ => none, fun _ => none⟩

def sessionSpend (tracker : SpendTracker) (sessionId : String) : UInt64 :=
  (tracker.sessions sessionId).getD 0

def dailySpend (tracker : SpendTracker) (walletPubkey today : String) : UInt64 :=
  (tracker.daily (walletPubkey, today)).getD 0

/-- The additions wrap. -/
def recordSpend (tracker : SpendTracker) (sessionId walletPubkey : String) (lamports : UInt64)
    (today : String) : SpendTracker where
  sessions := Function.update tracker.sessions sessionId
    (some (tracker.sessionSpend sessionId + lamports))
  daily := Function.update tracker.daily (walletPubkey, today)
    (some (tracker.dailySpend walletPubkey today + lamports))

def clearSession (tracker : SpendTracker) (sessionId : String) : SpendTracker :=
  { tracker with sessions := Function.update tracker.sessions sessionId none }

end SpendTracker

/-- The tracker that hears of the same spends as the ledger. -/
def spendTracker : Machine SpendTracker SpendCall where
  init := .new
  step tracker call :=
    tracker.recordSpend call.sessionId call.walletPubkey call.lamportsSpent call.date

/-! ## Totals -/

/-- What a total is asked for. -/
inductive SpendAccount where
  | session (sessionId : String)
  | wallet (walletPubkey : String)
  deriving DecidableEq, Repr

namespace SpendAccount

/-- The total that the ledger reports on a day. -/
def stored (ledger : SpendLedger) (today : String) : SpendAccount → Option UInt64
  | session sessionId => ledger.sessionSpend sessionId
  | wallet walletPubkey => ledger.walletDailySpend walletPubkey today

/-- The total that the tracker reports on a day. -/
def tracked (tracker : SpendTracker) (today : String) : SpendAccount → UInt64
  | session sessionId => tracker.sessionSpend sessionId
  | wallet walletPubkey => tracker.dailySpend walletPubkey today

def charges (today : String) : SpendAccount → SpendCall → Bool
  | session sessionId, call => call.sessionId = sessionId
  | wallet walletPubkey, call => call.walletPubkey = walletPubkey && call.date = today

/-- The amounts that spends charge to an account. -/
def amounts (account : SpendAccount) (today : String) (history : List SpendCall) : List UInt64 :=
  (history.filter (account.charges today)).map fun call => call.lamportsSpent

theorem amounts_append (account : SpendAccount) (today : String)
    (earlier later : List SpendCall) :
    account.amounts today (earlier ++ later) =
      account.amounts today earlier ++ account.amounts today later := by
  simp [amounts]

theorem amounts_perm (account : SpendAccount) (today : String) {left right : List SpendCall}
    (hperm : left.Perm right) :
    (account.amounts today left).Perm (account.amounts today right) :=
  (hperm.filter _).map _

end SpendAccount

section Runs

variable {today : String} {history : List SpendCall}

/-- The tracker holds the wrapping sums. -/
theorem tracked_eq (today : String) (history : List SpendCall) (account : SpendAccount) :
    account.tracked (spendTracker.after history) today = (account.amounts today history).sum := by
  induction history using List.reverseRecOn with
  | nil => cases account <;> rfl
  | append_singleton history call ih =>
      rw [Machine.after_concat, SpendAccount.amounts_append, List.sum_append, ← ih]
      cases account with
      | session sessionId =>
          by_cases hsession : call.sessionId = sessionId
          · subst hsession
            simp [SpendAccount.tracked, spendTracker, SpendTracker.recordSpend,
              SpendTracker.sessionSpend, SpendAccount.amounts, SpendAccount.charges]
          · simp [SpendAccount.tracked, spendTracker, SpendTracker.recordSpend,
              SpendTracker.sessionSpend, SpendAccount.amounts, SpendAccount.charges, hsession,
              Function.update_of_ne (Ne.symm hsession)]
      | wallet walletPubkey =>
          by_cases hwallet : call.walletPubkey = walletPubkey ∧ call.date = today
          · obtain ⟨rfl, rfl⟩ := hwallet
            simp [SpendAccount.tracked, spendTracker, SpendTracker.recordSpend,
              SpendTracker.dailySpend, SpendAccount.amounts, SpendAccount.charges]
          · have hother : (walletPubkey, today) ≠ (call.walletPubkey, call.date) := by
              intro heq
              obtain ⟨hsame, hday⟩ := Prod.mk.inj heq
              exact hwallet ⟨hsame.symm, hday.symm⟩
            simp [SpendAccount.tracked, spendTracker, SpendTracker.recordSpend,
              SpendTracker.dailySpend, SpendAccount.amounts, SpendAccount.charges, hwallet,
              Function.update_of_ne hother]

/-- Each transaction is reported once, and each row draws an id of its own. -/
structure DistinctSpends (history : List SpendCall) : Prop where
  ids : (history.map SpendCall.id).Nodup
  transactions : (history.map fun call => call.transactionId).Nodup

/-- A query of the ledger adds up the cast amounts of the calls it selects. -/
theorem sumWhere_eq (hdistinct : DistinctSpends history) {select : SpendRow → Bool}
    {charged : SpendCall → Bool} (hsame : ∀ call : SpendCall, select call.row = charged call) :
    (spendStore.after history).sumWhere select =
      (sumChecked (((history.filter charged).map fun call => call.lamportsSpent).map
        UInt64.toInt64)).map Int64.toUInt64 := by
  have hselect : select ∘ SpendCall.row = charged := funext hsame
  unfold SpendLedger.sumWhere
  rw [spendStore_rows hdistinct.ids hdistinct.transactions, List.filter_map, hselect,
    List.map_map, List.map_map]
  rfl

theorem stored_eq (hdistinct : DistinctSpends history) (today : String) (account : SpendAccount) :
    account.stored (spendStore.after history) today =
      (sumChecked ((account.amounts today history).map UInt64.toInt64)).map Int64.toUInt64 := by
  cases account with
  | session sessionId => exact sumWhere_eq hdistinct fun _ => rfl
  | wallet walletPubkey => exact sumWhere_eq hdistinct fun _ => rfl

theorem DistinctSpends.sublist {part : List SpendCall} (hdistinct : DistinctSpends history)
    (hsublist : part.Sublist history) : DistinctSpends part where
  ids := (hsublist.map _).nodup hdistinct.ids
  transactions := (hsublist.map _).nodup hdistinct.transactions

theorem DistinctSpends.perm {other : List SpendCall} (hdistinct : DistinctSpends history)
    (hperm : other.Perm history) : DistinctSpends other where
  ids := (hperm.map _).nodup_iff.mpr hdistinct.ids
  transactions := (hperm.map _).nodup_iff.mpr hdistinct.transactions

/-- After every prefix of the spends both ledgers report the same totals, which
are exact while they are words; no spend lowers a total, and their order does
not matter. -/
structure LedgersAgree (today : String) (history : List SpendCall) : Prop where
  equal : ∀ earlier later, history = earlier ++ later → ∀ account : SpendAccount,
    account.stored (spendStore.after earlier) today =
      some (account.tracked (spendTracker.after earlier) today)
  exact : ∀ earlier later, history = earlier ++ later → ∀ account : SpendAccount,
    exactSum (account.amounts today earlier) < 2 ^ 64 →
      (account.tracked (spendTracker.after earlier) today).toNat =
        exactSum (account.amounts today earlier)
  grows : ∀ earlier middle later, history = earlier ++ middle ++ later →
    ∀ account : SpendAccount, account.tracked (spendTracker.after earlier) today ≤
      account.tracked (spendTracker.after (earlier ++ middle)) today
  unordered : ∀ other, other.Perm history → ∀ account : SpendAccount,
    account.stored (spendStore.after other) today =
        account.stored (spendStore.after history) today ∧
      account.tracked (spendTracker.after other) today =
        account.tracked (spendTracker.after history) today

/-- The charges of every account fit the signed column. -/
def SpendsFit (today : String) (history : List SpendCall) : Prop :=
  ∀ account : SpendAccount, FitsSigned (account.amounts today history)

/-- Where the charges of an account fit, both ledgers report their exact sum. -/
theorem totals_of_fits (hdistinct : DistinctSpends history) {account : SpendAccount}
    (hfits : FitsSigned (account.amounts today history)) :
    account.stored (spendStore.after history) today =
        some (account.tracked (spendTracker.after history) today) ∧
      (account.tracked (spendTracker.after history) today).toNat =
        exactSum (account.amounts today history) := by
  obtain ⟨total, hsum, htotal, hexact⟩ := hfits.sumChecked
  rw [stored_eq hdistinct, tracked_eq, hsum, Option.map_some, htotal]
  exact ⟨rfl, hexact⟩

/-- Totals that never fall have not wrapped. -/
theorem word_of_agree (hagree : LedgersAgree today history) (account : SpendAccount)
    {earlier later : List SpendCall} (hhistory : history = earlier ++ later) :
    exactSum (account.amounts today earlier) < 2 ^ 64 := by
  induction earlier using List.reverseRecOn generalizing later with
  | nil => exact Nat.two_pow_pos 64
  | append_singleton earlier call ih =>
      have hbefore := ih (hhistory.trans (List.append_assoc ..))
      -- Were this call the first to wrap, the total of the tracker would fall.
      by_contra hwrapped
      have hgrows := hagree.grows earlier [call] later hhistory account
      rw [UInt64.le_iff_toNat_le, tracked_eq, tracked_eq, toNat_sum, toNat_sum,
        Nat.mod_eq_of_lt hbefore] at hgrows
      rw [SpendAccount.amounts_append, exactSum_append] at hgrows hwrapped
      have hone : exactSum (account.amounts today [call]) < 2 ^ 64 := by
        cases hcharged : account.charges today call with
        | true =>
            have hlt := call.lamportsSpent.toNat_lt
            simpa [SpendAccount.amounts, hcharged] using hlt
        | false => simp [SpendAccount.amounts, hcharged]
      omega

/-- Distinct spends, recorded in both: on every day the two ledgers agree, are
exact, never fall and do not depend on the order exactly when the charges of
each session and of each wallet fit the signed column. -/
theorem ledgers_agree_iff (hdistinct : DistinctSpends history) :
    LedgersAgree today history ↔ SpendsFit today history := by
  constructor
  · intro hagree account
    have hword := word_of_agree hagree account (List.append_nil history).symm
    have hequal := hagree.equal history [] (List.append_nil history).symm account
    rw [stored_eq hdistinct] at hequal
    obtain ⟨total, hsum, _⟩ := Option.map_eq_some_iff.mp hequal
    exact fitsSigned_of_sumChecked hword hsum
  · intro hfit
    -- A part of the history charges an account a part of what the history charges it.
    have hpart : ∀ {part : List SpendCall}, part.Sublist history → ∀ account : SpendAccount,
        FitsSigned (account.amounts today part) := by
      intro part hsublist account
      exact (hfit account).sublist ((hsublist.filter _).map _)
    constructor
    · rintro earlier later rfl account
      have hsublist := List.sublist_append_left earlier later
      exact (totals_of_fits (hdistinct.sublist hsublist) (hpart hsublist account)).1
    · rintro earlier later rfl account _
      have hsublist := List.sublist_append_left earlier later
      exact (totals_of_fits (hdistinct.sublist hsublist) (hpart hsublist account)).2
    · rintro earlier middle later rfl account
      have hmore := List.sublist_append_left (earlier ++ middle) later
      have hless := (List.sublist_append_left earlier middle).trans hmore
      rw [UInt64.le_iff_toNat_le, (totals_of_fits (hdistinct.sublist hless) (hpart hless account)).2,
        (totals_of_fits (hdistinct.sublist hmore) (hpart hmore account)).2]
      rw [SpendAccount.amounts_append, exactSum_append]
      exact Nat.le_add_right _ _
    · intro other hperm account
      have hamounts := account.amounts_perm today hperm
      obtain ⟨hstored, hexact⟩ := totals_of_fits hdistinct (hfit account)
      obtain ⟨hother, hsame⟩ := totals_of_fits (hdistinct.perm hperm) ((hfit account).perm hamounts)
      have htracked : account.tracked (spendTracker.after other) today =
          account.tracked (spendTracker.after history) today := by
        rw [UInt64.toNat_inj.symm, hsame, hexact]
        exact exactSum_perm hamounts
      exact ⟨by rw [hstored, hother, htracked], htracked⟩

end Runs

/-! ## Two large spends -/

/-- A transaction of one session that costs `2 ^ 62` lamports. -/
def largeSpend (id transactionId : String) : SpendCall where
  walletPubkey := "wallet"
  sessionId := "session"
  transactionId := transactionId
  lamportsSpent := 4611686018427387904
  id := id
  date := "2026-05-01"
  nowMs := 0

theorem largeSpends_distinct :
    DistinctSpends [largeSpend "row-1" "tx-1", largeSpend "row-2" "tx-2"] where
  ids := by decide
  transactions := by decide

theorem ledgers_agree_large :
    LedgersAgree "2026-05-01" [largeSpend "row-1" "tx-1", largeSpend "row-2" "tx-2"] ↔
      SpendsFit "2026-05-01" [largeSpend "row-1" "tx-1", largeSpend "row-2" "tx-2"] :=
  ledgers_agree_iff largeSpends_distinct

/-- Two of them add up to a word, but the query of the ledger fails. -/
theorem large_spends_unreported :
    ¬ ∀ today history, DistinctSpends history → (∀ call ∈ history, call.date = today) →
      LedgersAgree today history := by
  intro hagree
  have hequal := (hagree "2026-05-01" _ largeSpends_distinct (by decide)).equal _ []
    (List.append_nil _).symm (.session "session")
  have hfails : SpendAccount.stored (spendStore.after
      [largeSpend "row-1" "tx-1", largeSpend "row-2" "tx-2"]) "2026-05-01"
      (.session "session") = none := by decide
  rw [hfails] at hequal
  cases hequal

end SolFrontier.RiskEngine
