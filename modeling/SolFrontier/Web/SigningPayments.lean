import SolFrontier.Web.SigningAgreement
import SolFrontier.Web.SigningRuns

/-! # How often the page pays

The page calls the wallet only after its checks and never twice at a time. It
does not remember that a payment was sent: as long as the checks pass, another
click pays again.
-/

namespace SolFrontier.Web

open Foundation Types Mcp

namespace Page

variable {first page : Page} {events : List PageEvent}

/-! ## Runs of a page with one task -/

theorem after_append (first : Page) (before rest : List PageEvent) :
    first.after (before ++ rest) = (first.after before).after rest :=
  List.foldl_append

theorem Happens.oneTask {event : PageEvent} {next : Page} {call : Option SigningCall}
    (hone : page.OneTask) (hhappens : Happens page event next call) : next.OneTask := by
  cases hhappens with
  | nothing hsame => exact hsame.oneTask hone
  | connects _ _ hturn => exact hturn.oneTask
  | starts _ hturn => exact hturn.oneTask
  | ends _ _ hturn => exact hturn.oneTask
  | pays _ _ _ _ _ _ _ _ _ _ hturn => exact hturn.oneTask
  | returns _ _ _ _ hturn => exact hturn.oneTask

theorem Happens.parsed {event : PageEvent} {next : Page} {call : Option SigningCall}
    (hhappens : Happens page event next call) : next.parsed = page.parsed := by
  cases hhappens with
  | nothing hsame => exact hsame.parsed
  | connects _ _ hturn => exact hturn.parsed
  | starts _ hturn => exact hturn.parsed
  | ends _ _ hturn => exact hturn.parsed
  | pays _ _ _ _ _ _ _ _ _ _ hturn => exact hturn.parsed
  | returns _ _ _ _ hturn => exact hturn.parsed

theorem OneTask.after (hone : first.OneTask) (events : List PageEvent) :
    (first.after events).OneTask := by
  induction events generalizing first with
  | nil => exact hone
  | cons event rest ih => exact ih ((step_happens hone event).oneTask hone)

theorem OneTask.parsed_after (hone : first.OneTask) (events : List PageEvent) :
    (first.after events).parsed = first.parsed := by
  induction events generalizing first with
  | nil => rfl
  | cons event rest ih =>
      have hhappens := step_happens hone event
      exact (ih (hhappens.oneTask hone)).trans hhappens.parsed

/-! ## After a payment -/

/-- The page calls the wallet only while the payload may be signed and no other
call is open, and not at all once a call has returned a signature. -/
structure PaysAtMostOnce (first : Page) (events : List PageEvent) : Prop where
  guarded : ∀ before event rest call, events = before ++ event :: rest →
    (first.after before).calls event = some call →
    ∃ index answer live parsed provider, event = .blockhashAnswered index answer live ∧
      (first.after before).SafeNow live parsed provider ∧ call.provider = provider.id
  exclusive : ∀ before event rest call, events = before ++ event :: rest →
    (first.after before).calls event = some call →
    ∀ other, .signature other ∉ (first.after before).awaits
  once : ∀ before returned middle event rest,
    events = before ++ returned :: (middle ++ event :: rest) →
    (first.after before).returnsSignature returned = true →
    (first.after (before ++ returned :: middle)).calls event = none

/-- No click starts a signature on a page that shows one. -/
def NoClickAfterPayment (first : Page) (events : List PageEvent) : Prop :=
  ∀ before event rest, events = before ++ event :: rest →
    (first.after before).signature ≠ "" → (first.after before).takesClick event = false

theorem NoClickAfterPayment.rest {before rest : List PageEvent}
    (hcareful : first.NoClickAfterPayment (before ++ rest)) :
    (first.after before).NoClickAfterPayment rest := by
  intro later event after heq hshown
  rw [← after_append] at hshown ⊢
  apply hcareful (before ++ later) event after
  · rw [heq, List.append_assoc]
  · exact hshown

theorem NoClickAfterPayment.beginning {before rest : List PageEvent}
    (hcareful : first.NoClickAfterPayment (before ++ rest)) : first.NoClickAfterPayment before := by
  intro earlier event after heq hshown
  apply hcareful earlier event (after ++ rest)
  · rw [heq, List.append_assoc, List.cons_append]
  · exact hshown

/-- An answer is no click. -/
theorem NoClickAfterPayment.answered {before : List PageEvent}
    (hcareful : first.NoClickAfterPayment before) (index : Nat) (answer : Option LatestBlockhash)
    (live : Live) :
    first.NoClickAfterPayment (before ++ [.blockhashAnswered index answer live]) := by
  intro earlier event after heq hshown
  have hbeginning : earlier ++ [event] <+: before ++ [.blockhashAnswered index answer live] := by
    rw [heq]
    exact (List.prefix_append_right_inj earlier).mpr ⟨after, rfl⟩
  rcases List.prefix_concat_iff.mp hbeginning with hwhole | ⟨rest, hrest⟩
  · obtain ⟨_, hlast⟩ := List.append_inj' hwhole rfl
    obtain rfl := List.singleton_inj.mp hlast
    rfl
  · apply hcareful earlier event rest
    · rw [← hrest, List.append_assoc, List.singleton_append]
    · exact hshown

/-- The page shows a signature, and is not about to ask for another. -/
structure Paid (page : Page) : Prop where
  oneTask : page.OneTask
  shown : page.signature ≠ ""
  settled : page.awaits ≠ [.blockhash]

theorem Paid.calls (hpaid : page.Paid) (event : PageEvent) : page.calls event = none := by
  have hhappens := step_happens hpaid.oneTask event
  generalize page.calls event = call at hhappens ⊢
  cases hhappens with
  | pays _ _ _ _ _ hawaits => exact absurd hawaits hpaid.settled
  | nothing | connects | starts | ends | returns => rfl

theorem Paid.step (hpaid : page.Paid) {event : PageEvent} (hclick : page.takesClick event = false) :
    (page.step event).1.Paid := by
  have hhappens := step_happens hpaid.oneTask event
  rw [hpaid.calls event] at hhappens
  refine ⟨hhappens.oneTask hpaid.oneTask, ?_, ?_⟩
  · cases hhappens with
    | nothing hsame => exact hsame.signature ▸ hpaid.shown
    | connects _ _ hturn => exact hturn.signature ▸ hpaid.shown
    | starts _ hturn => exact hturn.signature ▸ hpaid.shown
    | ends _ _ hturn => exact hturn.signature ▸ hpaid.shown
    | returns _ _ _ hne hturn => exact hturn.signature ▸ hne
  · cases hhappens with
    | nothing hsame => exact hsame.awaits ▸ hpaid.settled
    | connects provider _ hturn => simp [hturn.awaits]
    | starts _ _ htaken => exact absurd (htaken.symm.trans hclick) (by simp)
    | ends _ _ hturn => simp [hturn.awaits]
    | returns _ _ _ _ hturn => simp [hturn.awaits]

theorem Paid.after (hpaid : page.Paid) (hcareful : page.NoClickAfterPayment events) :
    (page.after events).Paid := by
  induction events generalizing page with
  | nil => exact hpaid
  | cons event rest ih =>
      have hclick := hcareful [] event rest rfl hpaid.shown
      have hrest : (page.after [event]).NoClickAfterPayment rest :=
        NoClickAfterPayment.rest hcareful
      exact ih (hpaid.step hclick) hrest

theorem Happens.returned {event : PageEvent} {next : Page} {call : Option SigningCall}
    (hhappens : Happens page event next call) (hreturned : page.returnsSignature event = true) :
    ∃ signature, signature ≠ "" ∧ Turn { page with signature } next none := by
  cases hhappens with
  | returns _ signature _ hne hturn => exact ⟨signature, hne, hturn⟩
  | pays _ _ _ _ _ _ heq =>
      rw [heq] at hreturned
      cases hreturned
  | nothing _ _ hother | connects _ _ _ _ hother | starts _ _ _ hother | ends _ _ _ _ hother =>
      rw [hother] at hreturned
      cases hreturned

theorem Happens.unsigned {event : PageEvent} {next : Page} {call : Option SigningCall}
    (hhappens : Happens page event next call) (hother : page.returnsSignature event = false) :
    next.signature = page.signature := by
  cases hhappens with
  | nothing hsame => exact hsame.signature
  | connects _ _ hturn => exact hturn.signature
  | starts _ hturn => exact hturn.signature
  | ends _ _ hturn => exact hturn.signature
  | pays _ _ _ _ _ _ _ _ _ _ hturn => exact hturn.signature
  | returns _ _ _ _ _ _ hreturned =>
      rw [hother] at hreturned
      cases hreturned

theorem Happens.started {event : PageEvent} {next : Page} {call : Option SigningCall}
    (hhappens : Happens page event next call) (htaken : page.takesClick event = true) :
    Turn page next (some .blockhash) := by
  cases hhappens with
  | starts _ hturn => exact hturn
  | pays _ _ _ _ _ _ heq =>
      rw [heq] at htaken
      cases htaken
  | nothing _ hrefused | connects _ _ _ hrefused | ends _ _ _ hrefused
  | returns _ _ _ _ _ hrefused =>
      rw [hrefused] at htaken
      cases htaken

theorem paid_of_returned (hone : page.OneTask) {event : PageEvent}
    (hreturned : page.returnsSignature event = true) : (page.step event).1.Paid := by
  have hhappens := step_happens hone event
  obtain ⟨signature, hne, hturn⟩ := hhappens.returned hreturned
  refine ⟨hhappens.oneTask hone, hturn.signature ▸ hne, ?_⟩
  rw [hturn.awaits]
  exact (List.cons_ne_nil _ _).symm

/-- A page that is left alone after its payment pays at most once. -/
theorem paysAtMostOnce_of_careful (hone : first.OneTask)
    (hcareful : first.NoClickAfterPayment events) : PaysAtMostOnce first events where
  guarded before event rest call heq hcall := by
    have hhappens := step_happens (hone.after before) event
    rw [hcall] at hhappens
    cases hhappens with
    | pays latestBlockhash live parsed provider _ _ hevent hsafe hprovider =>
        exact ⟨0, some latestBlockhash, live, parsed, provider, hevent, hsafe, hprovider⟩
  exclusive before event rest call heq hcall other hopen := by
    have hhappens := step_happens (hone.after before) event
    rw [hcall] at hhappens
    cases hhappens with
    | pays _ _ _ _ _ hawaits =>
        rw [hawaits] at hopen
        simp at hopen
  once before returned middle event rest heq hreturned := by
    rw [heq] at hcareful
    have hpaid := paid_of_returned (hone.after before) hreturned
    have hpage : (first.after before).NoClickAfterPayment
        ([returned] ++ (middle ++ event :: rest)) := hcareful.rest
    have hlater := hpaid.after hpage.rest.beginning
    rw [after_append]
    exact hlater.calls event

/-! ## Another click pays again -/

theorem requireInstructionOrder_ok {value : Option JsonValue} {order : List String}
    (hread : requireInstructionOrder value = .ok order) : order = expectedOrder := by
  unfold requireInstructionOrder at hread
  split at hread
  next items =>
    split at hread
    · cases hread
    next horder =>
      obtain rfl := Except.ok.inj hread
      rw [not_not] at horder
      have hkept := congrArg (List.filterMap id) horder
      simpa [List.filterMap_map, Function.comp_def] using hkept
  · cases hread

theorem instructionOrder_of_validate {web3 : SolanaWeb3} {payload : JsonValue}
    {parsed : ParsedFunding} (hread : validateFundingPayload web3 payload = .ok parsed) :
    parsed.instructionOrder = expectedOrder := by
  unfold validateFundingPayload at hread
  obtain ⟨_, _, hread⟩ := bind_eq_ok.mp hread
  split at hread
  · dsimp only at hread
    obtain ⟨_, _, hread⟩ := bind_eq_ok.mp hread
    obtain ⟨_, _, hread⟩ := bind_eq_ok.mp hread
    split at hread
    · cases hread
    obtain ⟨order, horder, hread⟩ := bind_eq_ok.mp hread
    iterate 12 obtain ⟨_, _, hread⟩ := bind_eq_ok.mp hread
    obtain rfl := Except.ok.inj hread
    exact requireInstructionOrder_ok horder
  · cases hread

/-- A page before its first event: idle, with no signature, and with the
instruction order that it has checked. -/
structure Fresh (first : Page) : Prop where
  oneTask : first.OneTask
  unsigned : first.signature = ""
  order : ∀ parsed, first.parsed = some parsed → parsed.instructionOrder = expectedOrder

theorem fresh_initialise (web3 : Option SolanaWeb3) (isSafeLoopbackOrigin : Bool) (hash : String)
    (providerAtLoad : Option Nat) (now countdownNow : Int) :
    (initialise web3 isSafeLoopbackOrigin hash providerAtLoad now countdownNow).Fresh := by
  have hopened : (opened providerAtLoad).Fresh := ⟨.inl ⟨rfl, rfl⟩, rfl, fun _ hnone => nomatch hnone⟩
  unfold initialise
  dsimp only
  split
  · exact hopened
  split
  · exact hopened
  split
  · exact ⟨.inl ⟨rfl, rfl⟩, rfl, fun _ hnone => nomatch hnone⟩
  next payload _ =>
  split
  · exact ⟨.inl ⟨rfl, rfl⟩, rfl, fun _ hnone => nomatch hnone⟩
  next parsed hparsed =>
  refine ⟨.inl ⟨rfl, rfl⟩, rfl, ?_⟩
  intro kept hkept
  obtain rfl := Option.some.inj hkept
  exact instructionOrder_of_validate hparsed

/-- A page that shows a signature got it from one of its events. -/
theorem exists_returned (hone : first.OneTask) (hunsigned : first.signature = "")
    (hshown : (first.after events).signature ≠ "") :
    ∃ before returned middle, events = before ++ returned :: middle ∧
      (first.after before).returnsSignature returned = true := by
  induction events generalizing first with
  | nil => exact absurd hunsigned hshown
  | cons event rest ih =>
      have hhappens := step_happens hone event
      by_cases hreturned : first.returnsSignature event = true
      · exact ⟨[], event, rest, rfl, hreturned⟩
      · have hkept := (hhappens.unsigned (Bool.not_eq_true _ ▸ hreturned)).trans hunsigned
        obtain ⟨before, returned, middle, rfl, hlater⟩ :=
          ih (hhappens.oneTask hone) hkept hshown
        exact ⟨event :: before, returned, middle, rfl, hlater⟩

theorem takesClick_safe {click : PageEvent} (htaken : page.takesClick click = true) :
    ∃ live parsed provider, page.SafeNow live parsed provider := by
  have hchecked : ∃ live, (page.preflightStillSafe live).2 = true := by
    unfold takesClick at htaken
    split at htaken
    next live => exact ⟨live, (Bool.and_eq_true_iff.mp htaken).2⟩
    next live => exact ⟨live, (Bool.and_eq_true_iff.mp htaken).2⟩
    · cases htaken
  obtain ⟨live, hpassed⟩ := hchecked
  obtain ⟨parsed, provider, hsafe, _⟩ := preflightStillSafe_true hpassed
  exact ⟨live, parsed, provider, hsafe⟩

/-- The checks pass again at the same moment. -/
theorem SafeNow.turn {live : Live} {parsed : ParsedFunding} {provider : Provider} {next : Page}
    {asked : Option Await} (hsafe : page.SafeNow live parsed provider)
    (hturn : Turn page next asked) : next.SafeNow live parsed provider where
  ready := hturn.ready.trans hsafe.ready
  actionable := by
    have hactionable := hsafe.actionable
    unfold fundingActionable at hactionable ⊢
    rw [hturn.payload]
    exact hactionable
  accepted := hturn.parsed.trans hsafe.accepted
  deadline := hsafe.deadline
  current := hsafe.current
  wallet := hsafe.wallet

/-- A blockhash makes the page call the wallet, if the checks pass. -/
theorem calls_blockhash {live : Live} {parsed : ParsedFunding} {provider : Provider}
    (hsafe : page.SafeNow live parsed provider) (hasked : page.awaits = [.blockhash])
    (horder : parsed.instructionOrder = expectedOrder) (latestBlockhash : LatestBlockhash) :
    page.calls (.blockhashAnswered 0 (some latestBlockhash) live) ≠ none := by
  have herased : SafeNow { page with awaits := page.awaits.eraseIdx 0 } live parsed provider :=
    ⟨hsafe.ready, hsafe.actionable, hsafe.accepted, hsafe.deadline, hsafe.current, hsafe.wallet⟩
  have hawait : page.awaits[0]? = some .blockhash := by rw [hasked]; rfl
  unfold calls step
  dsimp only
  rw [hawait]
  dsimp only
  unfold blockhashAnswered
  dsimp only
  rw [herased.preflight]
  dsimp only
  rw [hsafe.accepted]
  dsimp only
  rw [buildTransaction_expectedOrder horder latestBlockhash]
  exact Option.some_ne_none _

/-- A click on a page that shows a signature can pay again: the node only has to
answer. -/
theorem paysAgain (hfresh : first.Fresh) {before : List PageEvent} {click : PageEvent}
    (hshown : (first.after before).signature ≠ "")
    (htaken : (first.after before).takesClick click = true) :
    ∃ live, ¬ PaysAtMostOnce first
      (before ++ [click, .blockhashAnswered 0 (some ⟨"", 0⟩) live]) := by
  have hone := hfresh.oneTask.after before
  obtain ⟨live, parsed, provider, hsafe⟩ := takesClick_safe htaken
  have horder : parsed.instructionOrder = expectedOrder := by
    apply hfresh.order
    rw [← hfresh.oneTask.parsed_after before, hsafe.accepted]
  have hturn := (step_happens hone click).started htaken
  have hcalls := calls_blockhash (hsafe.turn hturn) hturn.awaits horder ⟨"", 0⟩
  obtain ⟨earlier, returned, middle, rfl, hreturned⟩ :=
    exists_returned hfresh.oneTask hfresh.unsigned hshown
  refine ⟨live, fun hpays => hcalls ?_⟩
  have hnever := hpays.once earlier returned (middle ++ [click])
    (.blockhashAnswered 0 (some ⟨"", 0⟩) live) [] (by simp) hreturned
  rwa [← List.cons_append, ← List.append_assoc, after_append] at hnever

/-- No click of a run starts a signature while the page shows one, if and only if
the page pays at most once in the run, and in each of its beginnings however the
node answers next. -/
theorem pays_at_most_once_iff (web3 : Option SolanaWeb3) (isSafeLoopbackOrigin : Bool)
    (hash : String) (providerAtLoad : Option Nat) (now countdownNow : Int)
    (events : List PageEvent) :
    (initialise web3 isSafeLoopbackOrigin hash providerAtLoad now
        countdownNow).NoClickAfterPayment events ↔
      PaysAtMostOnce
        (initialise web3 isSafeLoopbackOrigin hash providerAtLoad now countdownNow) events ∧
      ∀ before, before <+: events → ∀ index answer live,
        PaysAtMostOnce
          (initialise web3 isSafeLoopbackOrigin hash providerAtLoad now countdownNow)
          (before ++ [.blockhashAnswered index answer live]) := by
  have hfresh := fresh_initialise web3 isSafeLoopbackOrigin hash providerAtLoad now countdownNow
  constructor
  · intro hcareful
    refine ⟨paysAtMostOnce_of_careful hfresh.oneTask hcareful, ?_⟩
    rintro before ⟨rest, rfl⟩ index answer live
    apply paysAtMostOnce_of_careful hfresh.oneTask
    exact hcareful.beginning.answered index answer live
  · rintro ⟨_, hanswered⟩ before event rest rfl hshown
    by_contra htaken
    rw [Bool.not_eq_false] at htaken
    obtain ⟨live, hpaid⟩ := paysAgain hfresh hshown htaken
    apply hpaid
    have hbeginning : before ++ [event] <+: before ++ event :: rest :=
      (List.prefix_append_right_inj before).mpr ⟨rest, rfl⟩
    have hnext := hanswered _ hbeginning 0 (some ⟨"", 0⟩) live
    rwa [List.append_assoc] at hnext

/-! ## A run that pays twice -/

/-- The wallet connects, and is asked for one signature, which it returns. -/
def onePayment (live : Live) (wallet : String) : List PageEvent :=
  [.connectClicked live, .connectAnswered 0 (some wallet) live.countdownNow, .signClicked live,
    .blockhashAnswered 0 (some ⟨"", 0⟩) live,
    .signatureAnswered 0 (some (.string "signature")) live.countdownNow]

theorem actionable_of_validate {web3 : SolanaWeb3} {payload : JsonValue} {parsed : ParsedFunding}
    (hvalid : validateFundingPayload web3 payload = .ok parsed) :
    isBool (payload.get "funding_actionable") true = true ∧
      isText (payload.get "status") "rule_unconfirmed" = false := by
  unfold validateFundingPayload at hvalid
  obtain ⟨_, hrequired, _⟩ := bind_eq_ok.mp hvalid
  unfold requireActionable at hrequired
  split at hrequired
  · cases hrequired
  next hconfirmed =>
  split at hrequired
  · cases hrequired
  split at hrequired
  · cases hrequired
  next hfundable => exact ⟨not_not.mp hfundable, (Bool.not_eq_true _).mp hconfirmed⟩

/-- The page after one payment is ready for the next. -/
theorem ready_onePayment {web3 : SolanaWeb3} {hash : String} {payload : JsonValue}
    {parsed : ParsedFunding} {live : Live} {provider : Provider}
    (hread : readFinalizePayload hash = .ok payload)
    (hvalid : validateFundingPayload web3 payload = .ok parsed)
    (hcurrent : currentPhantomProvider live = some provider)
    (hwallet : provider.publicKey = some parsed.userWallet.toBase58)
    (hdeadline : live.deadlineNow < parsed.expiresAtMs)
    (hcountdown : live.countdownNow < parsed.expiresAtMs) :
    ((initialise web3 true hash none live.deadlineNow live.countdownNow).after
        (onePayment live parsed.userWallet.toBase58)).signature ≠ "" ∧
      ((initialise web3 true hash none live.deadlineNow live.countdownNow).after
        (onePayment live parsed.userWallet.toBase58)).takesClick (.signClicked live) = true := by
  have hbuilt := buildTransaction_expectedOrder (instructionOrder_of_validate hvalid) ⟨"", 0⟩
  obtain ⟨hfundable, hconfirmed⟩ := actionable_of_validate hvalid
  have hnow : ¬ parsed.expiresAtMs ≤ live.deadlineNow := not_le.mpr hdeadline
  have hleft : ¬ parsed.expiresAtMs ≤ live.countdownNow := not_le.mpr hcountdown
  have hsignature : signatureOf (.string "signature") = some "signature" := rfl
  -- every check passes, so the run can be followed event by event
  simp [initialise, hread, hvalid, opened, onePayment, after, step, takesClick, connectPhantom,
    connected, signAndSendFunding, updateCountdown, updateButtons, preflightStillSafe,
    blockhashAnswered, signatureAnswered, hsignature, hbuilt, hcurrent, hwallet, hnow, hleft,
    fundingActionable, hfundable, hconfirmed, isExpectedWalletConnected]

/-- The browser of the payer, one second before the deadline of the first order. -/
def payerBrowser : Live where
  phantomSolana := some ⟨0, true, some payerWalletBs58⟩
  solana := none
  deadlineNow := halfUsdcKept.expiresAtMs - 1000
  expiredNow := halfUsdcKept.expiresAtMs - 1000
  countdownNow := halfUsdcKept.expiresAtMs - 1000

/-- The payer of the first order clicks twice, and pays twice. -/
theorem pays_twice_halfUsdc :
    ¬ ∀ (web3 : Option SolanaWeb3) (isSafeLoopbackOrigin : Bool) (hash : String)
      (providerAtLoad : Option Nat) (now countdownNow : Int) (events : List PageEvent),
      PaysAtMostOnce
        (initialise web3 isSafeLoopbackOrigin hash providerAtLoad now countdownNow) events := by
  intro hall
  obtain ⟨payload, hread, hvalid⟩ := bind_eq_ok.mp page_reads_halfUsdc
  have hwallet : payerWallet.toBase58 = payerWalletBs58 := toBase58_pinned _
  have hshowsKey : some payerWalletBs58 = some halfUsdcKept.userWallet.toBase58 :=
    congrArg some hwallet.symm
  have hbefore : halfUsdcKept.expiresAtMs - 1000 < halfUsdcKept.expiresAtMs := by omega
  have hcurrent : currentPhantomProvider payerBrowser = some ⟨0, true, some payerWalletBs58⟩ := rfl
  obtain ⟨hshown, htaken⟩ := ready_onePayment hread hvalid hcurrent hshowsKey hbefore hbefore
  obtain ⟨live, hpaid⟩ := paysAgain (fresh_initialise _ _ _ _ _ _) hshown htaken
  exact hpaid (hall _ _ _ _ _ _ _)

end Page

end SolFrontier.Web
