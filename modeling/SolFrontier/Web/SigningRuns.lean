import SolFrontier.Web.SigningPage

/-! # What the tasks of the page do

The page has one task at a time. Each event leaves what the page has read alone,
and starts, continues or ends its task in one of a few ways.
-/

namespace SolFrontier.Web

open Foundation Types

variable {page : Page} {live : Live}

namespace Page

/-! ## What the buttons leave alone -/

/-- The payload and the tasks of two pages are the same. -/
structure SameTasks (page next : Page) : Prop where
  payload : next.payload = page.payload
  parsed : next.parsed = page.parsed
  ready : next.ready = page.ready
  busy : next.busy = page.busy
  signature : next.signature = page.signature
  awaits : next.awaits = page.awaits

theorem SameTasks.refl (page : Page) : SameTasks page page := ⟨rfl, rfl, rfl, rfl, rfl, rfl⟩

theorem sameTasks_updateCountdown (page : Page) (now : Int) :
    SameTasks page (page.updateCountdown now) := by
  unfold updateCountdown
  split
  · exact .refl page
  · exact ⟨rfl, rfl, rfl, rfl, rfl, rfl⟩

/-! ## The checks before a signature -/

/-- What the checks let through: a payload that may be funded, a clock before its
deadline, and a live wallet that is the payer's. -/
structure SafeNow (page : Page) (live : Live) (parsed : ParsedFunding) (provider : Provider) :
    Prop where
  ready : page.ready = true
  actionable : page.fundingActionable = true
  accepted : page.parsed = some parsed
  deadline : live.deadlineNow < parsed.expiresAtMs
  current : currentPhantomProvider live = some provider
  wallet : provider.publicKey = some parsed.userWallet.toBase58

theorem sameTasks_preflightStillSafe (page : Page) (live : Live) :
    SameTasks page (page.preflightStillSafe live).1 := by
  unfold preflightStillSafe
  split
  · exact .refl page
  split
  · exact .refl page
  split
  · exact sameTasks_updateCountdown page live.expiredNow
  dsimp only
  split
  · exact ⟨rfl, rfl, rfl, rfl, rfl, rfl⟩
  · exact ⟨rfl, rfl, rfl, rfl, rfl, rfl⟩

theorem preflightStillSafe_true (hsafe : (page.preflightStillSafe live).2 = true) :
    ∃ parsed provider, page.SafeNow live parsed provider ∧
      (page.preflightStillSafe live).1 =
        { page with provider := some provider.id, connectedWallet := provider.publicKey } := by
  unfold preflightStillSafe at hsafe ⊢
  split at hsafe
  · cases hsafe
  next hready =>
  split at hsafe
  · cases hsafe
  next parsed hparsed =>
  split at hsafe
  · cases hsafe
  next hdeadline =>
  dsimp only at hsafe
  split at hsafe
  · cases hsafe
  next hwallet =>
  simp only [Bool.or_eq_true, Bool.not_eq_true', not_or, Bool.not_eq_false] at hready
  simp only [Bool.or_eq_true, decide_eq_true_eq, not_or, not_not, Option.isNone_iff_eq_none]
    at hwallet
  obtain ⟨provider, hcurrent⟩ := Option.ne_none_iff_exists'.mp hwallet.1
  have hkey := hwallet.2
  rw [hcurrent, Option.bind_some] at hkey
  refine ⟨parsed, provider, ⟨hready.1, hready.2, hparsed, not_le.mp hdeadline, hcurrent, hkey⟩, ?_⟩
  simp [hready.1, hready.2, hdeadline, hcurrent, hkey]

theorem SafeNow.preflight {parsed : ParsedFunding} {provider : Provider}
    (hsafe : page.SafeNow live parsed provider) :
    page.preflightStillSafe live =
      ({ page with provider := some provider.id, connectedWallet := provider.publicKey }, true) := by
  unfold preflightStillSafe
  simp [hsafe.ready, hsafe.actionable, hsafe.accepted, not_le.mpr hsafe.deadline, hsafe.current,
    hsafe.wallet]

/-! ## One task at a time -/

/-- The page waits for at most one answer, and is busy while it does. -/
def OneTask (page : Page) : Prop :=
  (page.busy = false ∧ page.awaits = []) ∨ ∃ await, page.busy = true ∧ page.awaits = [await]

theorem SameTasks.oneTask {next : Page} (hsame : SameTasks page next) (hone : page.OneTask) :
    next.OneTask := by
  unfold OneTask
  rw [hsame.busy, hsame.awaits]
  exact hone

/-- What a task leaves: the payload as it is, and a page that waits for nothing,
for what it waited for, or for one new answer. -/
structure Turn (page next : Page) (asked : Option Await) : Prop where
  payload : next.payload = page.payload
  parsed : next.parsed = page.parsed
  ready : next.ready = page.ready
  signature : next.signature = page.signature
  busy : next.busy = asked.isSome
  awaits : next.awaits = asked.toList

theorem Turn.oneTask {next : Page} {asked : Option Await} (hturn : Turn page next asked) :
    next.OneTask := by
  cases asked with
  | none => exact .inl ⟨hturn.busy, hturn.awaits⟩
  | some await => exact .inr ⟨await, hturn.busy, hturn.awaits⟩

/-- Showing the buttons again does not change what a task left. -/
theorem Turn.same {middle next : Page} {asked : Option Await} (hturn : Turn page middle asked)
    (hsame : SameTasks middle next) : Turn page next asked where
  payload := hsame.payload.trans hturn.payload
  parsed := hsame.parsed.trans hturn.parsed
  ready := hsame.ready.trans hturn.ready
  signature := hsame.signature.trans hturn.signature
  busy := hsame.busy.trans hturn.busy
  awaits := hsame.awaits.trans hturn.awaits

/-! ## What an event does -/

/-- Every kind of turn an event can take, with the call it makes. -/
inductive Happens (page : Page) (event : PageEvent) (next : Page) : Option SigningCall → Prop
  | nothing : SameTasks page next → page.takesClick event = false →
      page.returnsSignature event = false → Happens page event next none
  | connects (provider : Nat) : page.awaits = [] → Turn page next (some (.connect provider)) →
      page.takesClick event = false → page.returnsSignature event = false →
      Happens page event next none
  | starts : page.awaits = [] → Turn page next (some .blockhash) →
      page.takesClick event = true → page.returnsSignature event = false →
      Happens page event next none
  | ends (await : Await) : page.awaits = [await] → Turn page next none →
      page.takesClick event = false → page.returnsSignature event = false →
      Happens page event next none
  | pays (latestBlockhash : LatestBlockhash) (live : Live) (parsed : ParsedFunding)
      (provider : Provider) (call : SigningCall) :
      page.awaits = [.blockhash] → event = .blockhashAnswered 0 (some latestBlockhash) live →
      page.SafeNow live parsed provider → call.provider = provider.id →
      buildTransaction parsed latestBlockhash = .ok call.transaction →
      Turn page next (some (.signature call)) → Happens page event next (some call)
  | returns (call : SigningCall) (signature : String) : page.awaits = [.signature call] →
      signature ≠ "" → Turn { page with signature } next none →
      page.takesClick event = false → page.returnsSignature event = true →
      Happens page event next none

theorem connectPhantom_happens (hone : page.OneTask) (live : Live) :
    SameTasks page (page.connectPhantom live) ∨
      ∃ provider, page.awaits = [] ∧
        Turn page (page.connectPhantom live) (some (.connect provider)) := by
  unfold connectPhantom
  split
  · exact .inl (.refl page)
  next hready =>
  split
  · exact .inl (.refl page)
  next provider _ =>
  have hidle : page.busy = false := by
    simp only [Bool.or_eq_true, not_or, Bool.not_eq_true] at hready
    exact hready.2
  have hnone : page.awaits = [] := by
    rcases hone with ⟨_, hnone⟩ | ⟨_, hbusy, _⟩
    · exact hnone
    · rw [hidle] at hbusy
      cases hbusy
  refine .inr ⟨provider.id, hnone, ⟨rfl, rfl, rfl, rfl, rfl, ?_⟩⟩
  dsimp only [updateButtons]
  rw [hnone]
  rfl

/-- A click is refused, or asks for a blockhash. -/
theorem signAndSendFunding_happens (hone : page.OneTask) (live : Live) :
    (SameTasks page (page.signAndSendFunding live) ∧
      (!page.busy && (page.preflightStillSafe live).2) = false) ∨
    (page.awaits = [] ∧ (!page.busy && (page.preflightStillSafe live).2) = true ∧
      Turn page (page.signAndSendFunding live) (some .blockhash)) := by
  have hsame := sameTasks_preflightStillSafe page live
  unfold signAndSendFunding
  rcases hone with ⟨hidle, hnone⟩ | ⟨_, hbusy, _⟩
  · rw [if_neg (by simp [hidle])]
    rcases hchecked : page.preflightStillSafe live with ⟨checked, _ | _⟩
    · rw [hchecked] at hsame
      exact .inl ⟨hsame, by simp⟩
    · rw [hchecked] at hsame
      refine .inr ⟨hnone, by simp [hidle], ?_⟩
      refine ⟨hsame.payload, hsame.parsed, hsame.ready, hsame.signature, rfl, ?_⟩
      dsimp only [updateButtons]
      rw [hsame.awaits, hnone]
      rfl
  · rw [if_pos hbusy]
    exact .inl ⟨.refl page, by simp [hbusy]⟩

/-- The page that an answer finds: it still is busy, and waits for nothing else. -/
structure Answered (page erased : Page) : Prop where
  payload : erased.payload = page.payload
  parsed : erased.parsed = page.parsed
  ready : erased.ready = page.ready
  signature : erased.signature = page.signature
  busy : erased.busy = true
  awaits : erased.awaits = []

theorem Answered.same {erased next : Page} (hanswered : Answered page erased)
    (hsame : SameTasks erased next) : Answered page next where
  payload := hsame.payload.trans hanswered.payload
  parsed := hsame.parsed.trans hanswered.parsed
  ready := hsame.ready.trans hanswered.ready
  signature := hsame.signature.trans hanswered.signature
  busy := hsame.busy.trans hanswered.busy
  awaits := hsame.awaits.trans hanswered.awaits

theorem Answered.failed {erased : Page} (hanswered : Answered page erased) (now : Int) :
    Turn page (erased.failed now) none := by
  refine Turn.same ?_ (sameTasks_updateCountdown { erased with
    busy := false, lastFailureCanRetry := true } now)
  exact ⟨hanswered.payload, hanswered.parsed, hanswered.ready, hanswered.signature, rfl,
    hanswered.awaits⟩

theorem Answered.connected {erased : Page} (hanswered : Answered page erased) (provider : Nat)
    (answer : Option String) (now : Int) : Turn page (erased.connected provider answer now) none := by
  cases answer with
  | none =>
      refine Turn.same ?_ (sameTasks_updateCountdown { erased with busy := false } now)
      exact ⟨hanswered.payload, hanswered.parsed, hanswered.ready, hanswered.signature, rfl,
        hanswered.awaits⟩
  | some wallet =>
      refine Turn.same ?_ (sameTasks_updateCountdown { erased with
        provider := some provider, connectedWallet := some wallet, busy := false } now)
      exact ⟨hanswered.payload, hanswered.parsed, hanswered.ready, hanswered.signature, rfl,
        hanswered.awaits⟩

/-- A blockhash ends the task, or is signed with. -/
theorem blockhashAnswered_happens {erased : Page} (hanswered : Answered page erased)
    (answer : Option LatestBlockhash) (live : Live) :
    (Turn page (erased.blockhashAnswered answer live).1 none ∧
      (erased.blockhashAnswered answer live).2 = none) ∨
    ∃ latestBlockhash parsed provider call, answer = some latestBlockhash ∧
      erased.SafeNow live parsed provider ∧ call.provider = provider.id ∧
      buildTransaction parsed latestBlockhash = .ok call.transaction ∧
      Turn page (erased.blockhashAnswered answer live).1 (some (.signature call)) ∧
      (erased.blockhashAnswered answer live).2 = some call := by
  unfold blockhashAnswered
  cases answer with
  | none => exact .inl ⟨hanswered.failed live.countdownNow, rfl⟩
  | some latestBlockhash =>
      dsimp only
      cases hpassed : (erased.preflightStillSafe live).2 with
      | false =>
          have hsame := hanswered.same (sameTasks_preflightStillSafe erased live)
          rw [show erased.preflightStillSafe live =
            ((erased.preflightStillSafe live).1, false) from Prod.ext rfl hpassed]
          left
          refine ⟨Turn.same ?_ (sameTasks_updateCountdown _ live.countdownNow), rfl⟩
          exact ⟨hsame.payload, hsame.parsed, hsame.ready, hsame.signature, rfl, hsame.awaits⟩
      | true =>
          obtain ⟨parsed, provider, hsafe, _⟩ := preflightStillSafe_true hpassed
          rw [hsafe.preflight]
          dsimp only
          rw [hsafe.accepted]
          dsimp only
          -- Building can still fail, and then nothing is signed.
          cases hbuilt : buildTransaction parsed latestBlockhash with
          | error error =>
              dsimp only
              left
              refine ⟨Answered.failed ?_ live.countdownNow, rfl⟩
              exact ⟨hanswered.payload, hsafe.accepted.symm.trans hanswered.parsed,
                hanswered.ready, hanswered.signature, hanswered.busy, hanswered.awaits⟩
          | ok transaction =>
              dsimp only
              refine .inr ⟨latestBlockhash, parsed, provider, ⟨provider.id, transaction⟩, rfl,
                hsafe, rfl, hbuilt, ?_, rfl⟩
              refine ⟨hanswered.payload, hsafe.accepted.symm.trans hanswered.parsed,
                hanswered.ready, hanswered.signature, hanswered.busy, ?_⟩
              dsimp only
              rw [hanswered.awaits]
              rfl

theorem signatureAnswered_happens {erased : Page} (hanswered : Answered page erased)
    (answer : Option JsonValue) (now : Int) :
    match answer.bind signatureOf with
    | none => Turn page (erased.signatureAnswered answer now) none
    | some signature => signature ≠ "" ∧
        Turn { page with signature } (erased.signatureAnswered answer now) none := by
  unfold signatureAnswered
  cases hsignature : answer.bind signatureOf with
  | none => exact hanswered.failed now
  | some signature =>
      have hne : signature ≠ "" := by
        obtain ⟨result, _, hresult⟩ := Option.bind_eq_some_iff.mp hsignature
        have hkept := (Option.filter_eq_some_iff.mp hresult).2
        simpa using hkept
      refine ⟨hne, Turn.same ?_ (sameTasks_updateCountdown { erased with
        signature, lastFailureCanRetry := false, busy := false } now)⟩
      exact ⟨hanswered.payload, hanswered.parsed, hanswered.ready, rfl, rfl, hanswered.awaits⟩

/-- An answer finds the page with its only await gone. -/
theorem OneTask.answered (hone : page.OneTask) {index : Nat} {await : Await}
    (hawait : page.awaits[index]? = some await) :
    page.awaits = [await] ∧ index = 0 ∧
      Answered page { page with awaits := page.awaits.eraseIdx index } := by
  rcases hone with ⟨_, hnone⟩ | ⟨only, hbusy, honly⟩
  · rw [hnone] at hawait
    cases hawait
  · cases index with
    | zero =>
        rw [honly] at hawait ⊢
        obtain rfl := Option.some.inj hawait
        exact ⟨rfl, rfl, ⟨rfl, rfl, rfl, rfl, hbusy, rfl⟩⟩
    | succ index =>
        rw [honly] at hawait
        cases hawait

/-- Every event of a page with one task is of one of these kinds. -/
theorem step_happens (hone : page.OneTask) (event : PageEvent) :
    Happens page event (page.step event).1 (page.calls event) := by
  unfold calls
  cases event with
  | tick now => exact .nothing (sameTasks_updateCountdown page now) rfl rfl
  | accountChanged publicKey now =>
      refine .nothing ?_ rfl rfl
      unfold step accountChanged
      dsimp only
      split
      · exact .refl page
      next provider _ =>
        have hsame := sameTasks_updateCountdown { page with
          provider := some provider, connectedWallet := publicKey } now
        exact ⟨hsame.payload, hsame.parsed, hsame.ready, hsame.busy, hsame.signature, hsame.awaits⟩
  | connectClicked live =>
      unfold step
      dsimp only
      split
      · exact .nothing (.refl page) rfl rfl
      · rcases connectPhantom_happens hone live with hsame | ⟨provider, hnone, hturn⟩
        · exact .nothing hsame rfl rfl
        · exact .connects provider hnone hturn rfl rfl
  | signClicked live =>
      unfold step
      dsimp only
      split
      next hdisabled => exact .nothing (.refl page) (by simp [takesClick, hdisabled]) rfl
      next henabled =>
        have hclick : page.takesClick (.signClicked live) =
            (!page.busy && (page.preflightStillSafe live).2) := by
          simp [takesClick, henabled]
        rcases signAndSendFunding_happens hone live with ⟨hsame, hrefused⟩ | ⟨hnone, htaken, hturn⟩
        · exact .nothing hsame (hclick.trans hrefused) rfl
        · exact .starts hnone hturn (hclick.trans htaken) rfl
  | retryClicked live =>
      unfold step
      dsimp only
      split
      next hdisabled => exact .nothing (.refl page) (by simp [takesClick, hdisabled]) rfl
      next henabled =>
        have hclick : page.takesClick (.retryClicked live) =
            (!page.busy && (page.preflightStillSafe live).2) := by
          rw [Bool.not_eq_true] at henabled
          simp [takesClick, henabled]
        rcases signAndSendFunding_happens hone live with ⟨hsame, hrefused⟩ | ⟨hnone, htaken, hturn⟩
        · exact .nothing hsame (hclick.trans hrefused) rfl
        · exact .starts hnone hturn (hclick.trans htaken) rfl
  | connectAnswered index answer now =>
      unfold step
      dsimp only
      split
      next provider hawait =>
        obtain ⟨honly, _, hanswered⟩ := hone.answered hawait
        exact .ends (.connect provider) honly (hanswered.connected provider answer now) rfl rfl
      · exact .nothing (.refl page) rfl rfl
  | blockhashAnswered index answer live =>
      unfold step
      dsimp only
      split
      next hawait =>
        obtain ⟨honly, rfl, hanswered⟩ := hone.answered hawait
        -- Without a blockhash the task ends; with one the wallet is asked to sign and send.
        rcases blockhashAnswered_happens hanswered answer live with ⟨hturn, hcall⟩ |
          ⟨latestBlockhash, parsed, provider, call, rfl, hsafe, hprovider, hbuilt, hturn, hcall⟩
        · rw [hcall]
          exact .ends .blockhash honly hturn rfl rfl
        · rw [hcall]
          refine .pays latestBlockhash live parsed provider call honly rfl ?_ hprovider hbuilt hturn
          exact ⟨hsafe.ready, hsafe.actionable, hsafe.accepted, hsafe.deadline, hsafe.current,
            hsafe.wallet⟩
      · exact .nothing (.refl page) rfl rfl
  | signatureAnswered index answer now =>
      unfold step
      dsimp only
      split
      next call hawait =>
        obtain ⟨honly, _, hanswered⟩ := hone.answered hawait
        have hreturned : page.returnsSignature (.signatureAnswered index answer now) =
            (answer.bind signatureOf).isSome := by
          simp only [returnsSignature, hawait]
        have hturn := signatureAnswered_happens hanswered answer now
        cases hsignature : answer.bind signatureOf with
        | none =>
            rw [hsignature] at hturn hreturned
            exact .ends (.signature call) honly hturn rfl hreturned
        | some signature =>
            rw [hsignature] at hturn hreturned
            exact .returns call signature honly hturn.1 hturn.2 rfl hreturned
      next hother =>
        -- An answer to no request returns no signature.
        refine .nothing (.refl page) rfl ?_
        unfold returnsSignature
        dsimp only
        split
        next call hawait => exact absurd hawait (hother call)
        · rfl

end Page

end SolFrontier.Web
