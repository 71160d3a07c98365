import SolFrontier.Mcp.FreshPair

/-! # One payment and the orders it may fund

The check of a payment looks at one row, and the funding signature of a row is
no key of the table. Which orders one transaction may fund is therefore up to
the transaction: a payment that fits one stored order funds that order only.
-/

namespace SolFrontier.Mcp

open Foundation Types StateStore Program

variable {platform : Platform} {Caller : Type} [DecidableEq Caller]

/-- Reading a transaction gives what the chain holds under its signature. -/
def FromHistory (history : String → Option ObservedFundingTransaction) (event : Event mcpFace) :
    Prop :=
  ∀ signature tx, event = ⟨.readFundingTransaction signature, .ok (.confirmed tx)⟩ →
    history signature = some tx

/-- Some transaction pays two stored orders at once. -/
def PaidTwice (platform : Platform) (history : String → Option ObservedFundingTransaction)
    (world : World) : Prop :=
  ∃ signature tx first second firstRow secondRow, history signature = some tx ∧ first ≠ second ∧
    world.funding.get first = some firstRow ∧ world.funding.get second = some secondRow ∧
    Pays platform tx firstRow.toIntent ∧ Pays platform tx secondRow.toIntent

/-- Two orders are reserved on the strength of one signature. -/
def ReservedTwice (world : World) : Prop :=
  ∃ signature first second firstRow secondRow, first ≠ second ∧
    world.funding.get first = some firstRow ∧ world.funding.get second = some secondRow ∧
    firstRow.status = .budgetReserved ∧ secondRow.status = .budgetReserved ∧
    firstRow.fundingSignature = some signature ∧ secondRow.fundingSignature = some signature

/-- The stores that tool calls reach from the empty one. -/
def Reachable (platform : Platform) (permits : Event mcpFace → Prop)
    (pool : Pool mcpFace World Caller ToolAnswer) : Prop :=
  Pool.Reaches (mcpWorld platform permits) (ToolEntry platform)
    (Pool.initial (.unsent .empty .empty)) pool

theorem sound_of_reachable {permits : Event mcpFace → Prop}
    {pool : Pool mcpFace World Caller ToolAnswer} (hreachable : Reachable platform permits pool) :
    Sound platform permits (.unsent .empty .empty) pool.world := by
  obtain ⟨logs, htrace⟩ := hreachable.trace
  have hempty : AllEvidenced (.unsent .empty .empty) := by
    intro id row hget
    cases hget
  exact (assigned_of_tools (fun _ hentry => hentry) hempty htrace).inv

/-! ## A payment with two memos -/

/-- A chain that holds the payment of both orders. -/
def halfUsdcHistory (signature : String) : Option ObservedFundingTransaction :=
  if signature = halfUsdcSignature then some halfUsdcPayment else none

theorem fromHistory_smooth (event : Event mcpFace) (hsmooth : Smooth firstMarket event)
    (_ : AfterEpoch event) : FromHistory halfUsdcHistory event := by
  intro signature tx hevent
  cases hsmooth <;> cases hevent

theorem fromHistory_undisturbed (event : Event mcpFace)
    (hundisturbed : Undisturbed halfUsdcSignature halfUsdcPayment event) :
    FromHistory halfUsdcHistory event := by
  intro signature tx hevent
  cases hundisturbed with
  | read =>
      cases hevent
      exact if_pos rfl
  | _ => cases hevent

def halfUsdcRuleRow (thresholdBps : UInt32) : WatchRuleRowRaw :=
  ruleToRow halfUsdcPlatform.json (canonicalWatchRule (halfUsdcDraft thresholdBps) 419000000)
    1700000000000

/-- The store after finalizing an order. -/
def World.ordered (world : World) (thresholdBps : UInt32) : World :=
  world.finalized halfUsdcPlatform (halfUsdcDraft thresholdBps) firstMarket payerWallet
    1700000000000

/-- The store after confirming an order. -/
def World.confirmed (world : World) (thresholdBps : UInt32) : World :=
  world.reserved (halfUsdcOrder thresholdBps).intentId halfUsdcSignature halfUsdcPayment.slot 0 0

/-! ## The store along the run -/

theorem orderId_ne : (halfUsdcOrder 51).intentId ≠ (halfUsdcOrder 50).intentId := by
  decide +kernel

theorem get_ordered {world : World} {thresholdBps : UInt32}
    (hfunding : world.funding.get (halfUsdcOrder thresholdBps).intentId = none) (id : String) :
    (world.ordered thresholdBps).funding.get id =
      if id = (halfUsdcOrder thresholdBps).intentId then
        some ((halfUsdcOrder thresholdBps).toRow 1700000000000) else world.funding.get id :=
  Table.get_execute_insert hfunding id

theorem getRule_ordered {world : World} {thresholdBps : UInt32}
    (hrule : world.rules.get (halfUsdcOrder thresholdBps).intentId = none) (id : String) :
    (world.ordered thresholdBps).rules.get id =
      if id = (halfUsdcOrder thresholdBps).intentId then
        some (halfUsdcRuleRow thresholdBps)
      else world.rules.get id :=
  Table.get_execute_insert hrule id

theorem get_confirmed {world : World} {thresholdBps : UInt32}
    (hfunding : world.funding.get (halfUsdcOrder thresholdBps).intentId =
      some ((halfUsdcOrder thresholdBps).toRow 1700000000000)) (id : String) :
    (world.confirmed thresholdBps).funding.get id =
      if id = (halfUsdcOrder thresholdBps).intentId then
        some (reservedRow ((halfUsdcOrder thresholdBps).toRow 1700000000000) halfUsdcSignature
          halfUsdcPayment.slot 0)
      else world.funding.get id := by
  have hsubmitted := (get_submitted hfunding
    (show Submittable _ halfUsdcSignature from .inl rfl) 0).1
  split
  next heq =>
    subst heq
    exact (get_reserved hsubmitted halfUsdcPayment.slot 0).1
  next hne =>
    unfold World.confirmed World.reserved
    dsimp only
    rw [Table.get_update_of_ne _ _ hne, Table.get_update_of_ne _ _ hne]

section
variable {pool : Pool mcpFace World Nat ToolAnswer}

/-- An order that is not stored yet can be finalized by an idle caller. -/
theorem reachable_ordered (caller : Nat) (thresholdBps : UInt32)
    (hreachable : Reachable halfUsdcPlatform (FromHistory halfUsdcHistory) pool)
    (hidle : pool.callers caller = none)
    (hthreshold : 1 ≤ thresholdBps ∧ thresholdBps ≤ maxThresholdBps)
    (hrule : pool.world.rules.get (halfUsdcOrder thresholdBps).intentId = none)
    (hfunding : pool.world.funding.get (halfUsdcOrder thresholdBps).intentId = none) :
    ∃ last : Pool mcpFace World Nat ToolAnswer,
      Reachable halfUsdcPlatform (FromHistory halfUsdcHistory) last ∧
      last.world = pool.world.ordered thresholdBps ∧
      ∀ other, other ≠ caller → last.callers other = pool.callers other := by
  have haccepted := accepted_halfUsdc hthreshold
    (show isV4Uuid "aaaaaaaa-aaaa-4aaa-8aaa-aaaaaaaaaaaa" = true by decide +kernel)
  have hrun := finalizeIntentJson_inserts fromHistory_smooth halfUsdcPlatform pool.world haccepted
    (by decide : 0 ≤ (1700000000000 : Int64).toInt) hrule hfunding (by decide)
  obtain ⟨last, hlast, hworld, _, hothers⟩ :=
    hreachable.finishes hidle (.finalize _ true) (finalizeCall_executes hrun)
  exact ⟨last, hlast, hworld, hothers⟩

/-- A stored order whose memo the payment carries can be confirmed by an idle
caller. -/
theorem reachable_confirmed (caller : Nat) (thresholdBps : UInt32)
    (hreachable : Reachable halfUsdcPlatform (FromHistory halfUsdcHistory) pool)
    (hidle : pool.callers caller = none)
    (hthreshold : 1 ≤ thresholdBps ∧ thresholdBps ≤ maxThresholdBps)
    (hmemo : halfUsdcMemo thresholdBps ∈ halfUsdcPayment.memos)
    (htrim : trim (halfUsdcOrder thresholdBps).intentId = (halfUsdcOrder thresholdBps).intentId)
    (hrule : pool.world.rules.get (halfUsdcOrder thresholdBps).intentId =
      some (halfUsdcRuleRow thresholdBps))
    (hfunding : pool.world.funding.get (halfUsdcOrder thresholdBps).intentId =
      some ((halfUsdcOrder thresholdBps).toRow 1700000000000)) :
    ∃ last : Pool mcpFace World Nat ToolAnswer,
      Reachable halfUsdcPlatform (FromHistory halfUsdcHistory) last ∧
      last.world = pool.world.confirmed thresholdBps ∧
      ∀ other, other ≠ caller → last.callers other = pool.callers other := by
  have hevidence : Evidence halfUsdcPlatform (Undisturbed halfUsdcSignature halfUsdcPayment)
      pool.world ((halfUsdcOrder thresholdBps).toRow 1700000000000) halfUsdcSignature
      halfUsdcPayment := evidence_halfUsdc hthreshold hmemo hrule .read
  have hintent : trim (halfUsdcConfirm thresholdBps).intentId =
    (halfUsdcOrder thresholdBps).intentId := htrim
  obtain ⟨stored, hruns⟩ := confirmFundingJson_reserves hintent trim_halfUsdcSignature hfunding
    hevidence (.inl rfl)
  have hrun := Executes.mono (fun _ _ _ hstep => And.imp_left (fromHistory_undisturbed _) hstep)
    ((hruns _ _).mpr ⟨0, 0, 0, rfl, rfl⟩)
  obtain ⟨last, hlast, hworld, _, hothers⟩ :=
    hreachable.finishes hidle (.confirm _ true) (confirmCall_executes hrun)
  exact ⟨last, hlast, hworld, hothers⟩

end

/-! ## One payment, one order -/

/-- As long as no transaction of the chain pays two stored orders, no two
orders are reserved with one signature, whatever the interleaving. -/
theorem one_payment_one_intent (history : String → Option ObservedFundingTransaction)
    {pool : Pool mcpFace World Caller ToolAnswer}
    (hreachable : Reachable platform (FromHistory history) pool)
    (hpaid : ¬ PaidTwice platform history pool.world) : ¬ ReservedTwice pool.world := by
  rintro ⟨signature, first, second, firstRow, secondRow, hne, hfirst, hsecond, _, _, hsigned,
    hsame⟩
  have hsound := sound_of_reachable hreachable
  have hpays {id : String} {row : RowRaw} (hget : pool.world.funding.get id = some row)
      (hrecorded : row.fundingSignature = some signature) :
      ∃ tx, history signature = some tx ∧ Pays platform tx row.toIntent := by
    rcases hsound.backed id row signature hget hrecorded with hbase | ⟨tx, hevidence⟩
    · cases hbase
    · exact ⟨tx, hevidence.read signature tx rfl, verifyFundingTransaction_ok.mp hevidence.pays⟩
  obtain ⟨firstTx, hread, hpaysFirst⟩ := hpays hfirst hsigned
  obtain ⟨secondTx, hagain, hpaysSecond⟩ := hpays hsecond hsame
  obtain rfl : firstTx = secondTx := Option.some.inj (hread.symm.trans hagain)
  exact hpaid ⟨signature, firstTx, first, second, firstRow, secondRow, hread, hne, hfirst, hsecond,
    hpaysFirst, hpaysSecond⟩

/-- A store with one order, and nothing else. -/
theorem reachable_first : ∃ pool : Pool mcpFace World Nat ToolAnswer,
    Reachable halfUsdcPlatform (FromHistory halfUsdcHistory) pool ∧
    pool.world = (World.unsent .empty .empty).ordered 50 ∧
    ∀ other, other ≠ 0 → pool.callers other = none := by
  have hstart : Reachable halfUsdcPlatform (FromHistory halfUsdcHistory)
      (Pool.initial (.unsent .empty .empty) : Pool mcpFace World Nat ToolAnswer) := .refl
  exact reachable_ordered 0 50 hstart rfl (by decide) rfl rfl

/-- One order, one payment: a run that ends with one reserved row. -/
theorem one_payment_one_intent_halfUsdc :
    ∃ pool : Pool mcpFace World Nat ToolAnswer,
      Reachable halfUsdcPlatform (FromHistory halfUsdcHistory) pool ∧
      (∃ row, pool.world.funding.get (halfUsdcOrder 50).intentId = some row ∧
        row.status = .budgetReserved) ∧
      ¬ ReservedTwice pool.world := by
  obtain ⟨ordered, hordered, hworld, hidle⟩ := reachable_first
  have hget (id : String) : ordered.world.funding.get id =
      if id = (halfUsdcOrder 50).intentId then some ((halfUsdcOrder 50).toRow 1700000000000)
      else none := by
    rw [hworld]
    exact get_ordered rfl id
  have hrule : ordered.world.rules.get (halfUsdcOrder 50).intentId =
      some (halfUsdcRuleRow 50) := by
    rw [hworld, getRule_ordered rfl, if_pos rfl]
  have hfunding := (hget _).trans (if_pos rfl)
  obtain ⟨pool, hpool, hlast, _⟩ := reachable_confirmed 1 50 hordered (hidle 1 (by decide))
    (by decide) List.mem_cons_self (trim_hexEncode _) hrule hfunding
  refine ⟨pool, hpool, ⟨reservedRow ((halfUsdcOrder 50).toRow 1700000000000) halfUsdcSignature
    halfUsdcPayment.slot 0, ?_, rfl⟩, one_payment_one_intent halfUsdcHistory hpool ?_⟩
  · rw [hlast, get_confirmed hfunding, if_pos rfl]
  -- Only one order is stored, so no transaction pays two.
  rintro ⟨_, _, first, second, _, _, _, hne, hfirst, hsecond, _⟩
  have honly {id : String} {row : RowRaw} (hstored : pool.world.funding.get id = some row) :
      id = (halfUsdcOrder 50).intentId := by
    by_contra hother
    rw [hlast, get_confirmed hfunding, if_neg hother, hget, if_neg hother] at hstored
    cases hstored
  exact hne ((honly hfirst).trans (honly hsecond).symm)

/-- A payment that carries the memos of two orders reserves both. -/
theorem two_orders_reserved :
    ∃ pool : Pool mcpFace World Nat ToolAnswer,
      Reachable halfUsdcPlatform (FromHistory halfUsdcHistory) pool ∧ ReservedTwice pool.world := by
  obtain ⟨first, hfirst, hworld, hidle⟩ := reachable_first
  have hfree : first.world.funding.get (halfUsdcOrder 51).intentId = none := by
    rw [hworld, get_ordered rfl, if_neg orderId_ne]
    rfl
  have hfreeRule : first.world.rules.get (halfUsdcOrder 51).intentId = none := by
    rw [hworld, getRule_ordered rfl, if_neg orderId_ne]
    rfl
  have hfifty : first.world.funding.get (halfUsdcOrder 50).intentId =
      some ((halfUsdcOrder 50).toRow 1700000000000) := by
    rw [hworld, get_ordered rfl, if_pos rfl]
  have hfiftyRule : first.world.rules.get (halfUsdcOrder 50).intentId =
      some (halfUsdcRuleRow 50) := by
    rw [hworld, getRule_ordered rfl, if_pos rfl]
  -- A second order asks for the same amount at another threshold.
  obtain ⟨both, hboth, hbothWorld, hbothIdle⟩ :=
    reachable_ordered 1 51 hfirst (hidle 1 (by decide)) (by decide) hfreeRule hfree
  have hone : both.world.funding.get (halfUsdcOrder 50).intentId =
      some ((halfUsdcOrder 50).toRow 1700000000000) := by
    rw [hbothWorld, get_ordered hfree, if_neg orderId_ne.symm, hfifty]
  have htwo : both.world.funding.get (halfUsdcOrder 51).intentId =
      some ((halfUsdcOrder 51).toRow 1700000000000) := by
    rw [hbothWorld, get_ordered hfree, if_pos rfl]
  have honeRule : both.world.rules.get (halfUsdcOrder 50).intentId =
      some (halfUsdcRuleRow 50) := by
    rw [hbothWorld, getRule_ordered hfreeRule, if_neg orderId_ne.symm, hfiftyRule]
  have htwoRule : both.world.rules.get (halfUsdcOrder 51).intentId =
      some (halfUsdcRuleRow 51) := by
    rw [hbothWorld, getRule_ordered hfreeRule, if_pos rfl]
  -- The payment confirms the one order, and then the other.
  obtain ⟨half, hhalf, hhalfWorld, hhalfIdle⟩ := reachable_confirmed 2 50 hboth
    ((hbothIdle 2 (by decide)).trans (hidle 2 (by decide))) (by decide) List.mem_cons_self
    (trim_hexEncode _) honeRule hone
  have hleft : half.world.funding.get (halfUsdcOrder 51).intentId =
      some ((halfUsdcOrder 51).toRow 1700000000000) := by
    rw [hhalfWorld, get_confirmed hone, if_neg orderId_ne, htwo]
  have hleftRule : half.world.rules.get (halfUsdcOrder 51).intentId =
      some (halfUsdcRuleRow 51) := by
    rw [hhalfWorld]
    exact htwoRule
  obtain ⟨last, hlast, hlastWorld, _⟩ := reachable_confirmed 3 51 hhalf
    ((hhalfIdle 3 (by decide)).trans ((hbothIdle 3 (by decide)).trans (hidle 3 (by decide))))
    (by decide) (List.mem_cons_of_mem _ List.mem_cons_self) (trim_hexEncode _) hleftRule hleft
  refine ⟨last, hlast, halfUsdcSignature, _, _,
    reservedRow ((halfUsdcOrder 51).toRow 1700000000000) halfUsdcSignature halfUsdcPayment.slot 0,
    reservedRow ((halfUsdcOrder 50).toRow 1700000000000) halfUsdcSignature halfUsdcPayment.slot 0,
    orderId_ne, ?_, ?_, rfl, rfl, rfl, rfl⟩
  · rw [hlastWorld, get_confirmed hleft, if_pos rfl]
  · rw [hlastWorld, get_confirmed hleft, if_neg orderId_ne.symm, hhalfWorld, get_confirmed hone,
      if_pos rfl]

end SolFrontier.Mcp
