import SolFrontier.Web.FundingTransaction

/-! # The signing page

The page is a state and tasks that change it: a click, a tick of its timer, a
message of the wallet, or the answer to something a task awaits. A task runs to
its end or to its next await, and other tasks may run before the answer comes.
-/

namespace SolFrontier.Web

open Foundation Types

/-! ## State -/

/-- A wallet of the browser, as it shows itself at one moment. -/
structure Provider where
  id : Nat
  isPhantom : Bool
  /-- The base58 text of its key. -/
  publicKey : Option String
  deriving DecidableEq, Repr

/-- What a task reads around it. The clock is read for the deadline, for the
countdown after a missed deadline, and for the countdown that ends the task. -/
structure Live where
  phantomSolana : Option Provider
  solana : Option Provider
  deadlineNow : Int
  expiredNow : Int
  countdownNow : Int
  deriving DecidableEq, Repr

/-- A call of `signAndSendTransaction`. -/
structure SigningCall where
  provider : Nat
  transaction : FundingTransaction
  deriving DecidableEq, Repr

/-- What a task waits for. -/
inductive Await where
  | connect (provider : Nat)
  | blockhash
  | signature (call : SigningCall)
  deriving DecidableEq, Repr

/-- The state of the page with its buttons, its shown signature and the awaits
of its tasks. -/
structure Page where
  providerAtLoad : Option Nat
  payload : Option JsonValue
  parsed : Option ParsedFunding
  provider : Option Nat
  connectedWallet : Option String
  expired : Bool
  busy : Bool
  ready : Bool
  lastFailureCanRetry : Bool
  signDisabled : Bool
  connectDisabled : Bool
  retryDisabled : Bool
  retryHidden : Bool
  signature : String
  awaits : List Await

namespace Page

/-- The page before its script reads the payload. -/
def opened (providerAtLoad : Option Nat) : Page where
  providerAtLoad
  payload := none
  parsed := none
  provider := none
  connectedWallet := none
  expired := true
  busy := false
  ready := false
  lastFailureCanRetry := false
  signDisabled := true
  connectDisabled := false
  retryDisabled := false
  retryHidden := true
  signature := ""
  awaits := []

/-- `state.payload` allows funding. -/
def fundingActionable (page : Page) : Bool :=
  let payload := page.payload.getD .null
  isBool (payload.get "funding_actionable") true &&
    !isText (payload.get "status") "rule_unconfirmed"

def isExpectedWalletConnected (page : Page) : Bool :=
  match page.parsed with
  | some parsed => page.connectedWallet = some parsed.userWallet.toBase58
  | none => false

def updateButtons (page : Page) : Page :=
  let canSign := page.ready && !page.busy && !page.expired && page.fundingActionable &&
    page.isExpectedWalletConnected
  { page with
    signDisabled := !canSign
    connectDisabled := page.busy || page.expired || !page.ready
    retryDisabled := !canSign
    retryHidden := !page.lastFailureCanRetry }

def updateCountdown (page : Page) (now : Int) : Page :=
  match page.parsed with
  | none => page
  | some parsed =>
      let expired : Bool := parsed.expiresAtMs - now ≤ 0
      updateButtons
        { page with
          expired
          lastFailureCanRetry := page.lastFailureCanRetry && !expired }

end Page

/-! ## Tasks -/

/-- `window.phantom?.solana ?? window.solana`, if it is Phantom. -/
def currentPhantomProvider (live : Live) : Option Provider :=
  (live.phantomSolana.orElse fun _ => live.solana).filter fun provider => provider.isPhantom

namespace Page

/-- Ask the wallet to connect. -/
def connectPhantom (page : Page) (live : Live) : Page :=
  if !page.ready || page.expired || page.busy then page
  else
    match currentPhantomProvider live with
    | none => page
    | some provider =>
        let asking := updateButtons { page with busy := true }
        { asking with awaits := asking.awaits ++ [.connect provider.id] }

/-- The wallet has connected under a key, or not. -/
def connected (page : Page) (provider : Nat) (answer : Option String) (now : Int) : Page :=
  let answered :=
    match answer with
    | some wallet => { page with provider := some provider, connectedWallet := some wallet }
    | none => page
  updateCountdown { answered with busy := false } now

/-- Whether the payload may be signed now, by this clock and this wallet. -/
def preflightStillSafe (page : Page) (live : Live) : Page × Bool :=
  if !page.ready || !page.fundingActionable then (page, false)
  else
    match page.parsed with
    | none => (page, false)
    | some parsed =>
        if parsed.expiresAtMs ≤ live.deadlineNow then (page.updateCountdown live.expiredNow, false)
        else
          let provider := currentPhantomProvider live
          let liveWallet := provider.bind Provider.publicKey
          let seen := { page with provider := provider.map Provider.id, connectedWallet := liveWallet }
          if provider.isNone || liveWallet ≠ some parsed.userWallet.toBase58 then
            (updateButtons seen, false)
          else (seen, true)

/-- A click that asks for the signature: check, and fetch a blockhash. -/
def signAndSendFunding (page : Page) (live : Live) : Page :=
  if page.busy then page
  else
    match page.preflightStillSafe live with
    | (checked, false) => checked
    | (checked, true) =>
        let asking := updateButtons { checked with busy := true, lastFailureCanRetry := false }
        { asking with awaits := asking.awaits ++ [.blockhash] }

/-- The task ended without a signature, and may be retried. -/
def failed (page : Page) (now : Int) : Page :=
  updateCountdown { page with busy := false, lastFailureCanRetry := true } now

/-- The blockhash has come: check again, and hand the transaction to the wallet. -/
def blockhashAnswered (page : Page) (answer : Option LatestBlockhash) (live : Live) :
    Page × Option SigningCall :=
  match answer with
  | none => (page.failed live.countdownNow, none)
  | some latestBlockhash =>
      match page.preflightStillSafe live with
      | (checked, false) => (updateCountdown { checked with busy := false } live.countdownNow, none)
      | (checked, true) =>
          match checked.parsed, checked.provider with
          | some parsed, some provider =>
              match buildTransaction parsed latestBlockhash with
              | .error _ => (checked.failed live.countdownNow, none)
              | .ok transaction =>
                  let call := { provider, transaction }
                  ({ checked with awaits := checked.awaits ++ [.signature call] }, some call)
          | _, _ => (checked.failed live.countdownNow, none)

/-- The signature in an answer of the wallet: the answer itself or its member. -/
def signatureOf (result : JsonValue) : Option String :=
  let signature :=
    match result.string? with
    | some text => some text
    | none => (result.get "signature").bind JsonValue.string?
  signature.filter (· ≠ "")

/-- The wallet has answered a call, or refused it. -/
def signatureAnswered (page : Page) (answer : Option JsonValue) (now : Int) : Page :=
  match answer.bind signatureOf with
  | none => page.failed now
  | some signature =>
      updateCountdown { page with signature, lastFailureCanRetry := false, busy := false } now

/-- The wallet that was there at load shows another key. -/
def accountChanged (page : Page) (publicKey : Option String) (now : Int) : Page :=
  match page.providerAtLoad with
  | none => page
  | some provider =>
      updateCountdown { page with provider := some provider, connectedWallet := publicKey } now

/-- The page as its script has read the payload of the address. -/
def initialise (web3 : Option SolanaWeb3) (isSafeLoopbackOrigin : Bool) (hash : String)
    (providerAtLoad : Option Nat) (now countdownNow : Int) : Page :=
  let page := opened providerAtLoad
  match web3 with
  | none => page
  | some web3 =>
      if !isSafeLoopbackOrigin then page
      else
        match readFinalizePayload hash with
        | .error _ => updateButtons page
        | .ok payload =>
            match validateFundingPayload web3 payload with
            | .error _ => updateButtons { page with payload := some payload }
            | .ok parsed =>
                updateCountdown
                  { page with
                    payload := some payload
                    parsed := some parsed
                    ready := true
                    expired := parsed.expiresAtMs ≤ now }
                  countdownNow

end Page

/-! ## Runs -/

/-- What may happen next. An answer names the await it is for. -/
inductive PageEvent where
  | tick (now : Int)
  | connectClicked (live : Live)
  | signClicked (live : Live)
  | retryClicked (live : Live)
  | accountChanged (publicKey : Option String) (now : Int)
  | connectAnswered (index : Nat) (answer : Option String) (now : Int)
  | blockhashAnswered (index : Nat) (answer : Option LatestBlockhash) (live : Live)
  | signatureAnswered (index : Nat) (answer : Option JsonValue) (now : Int)

namespace Page

/-- The task of an event, with the call it makes to the wallet. A button that is
disabled or hidden takes no click, and an answer needs its await. -/
def step (page : Page) : PageEvent → Page × Option SigningCall
  | .tick now => (page.updateCountdown now, none)
  | .connectClicked live =>
      if page.connectDisabled then (page, none) else (page.connectPhantom live, none)
  | .signClicked live =>
      if page.signDisabled then (page, none) else (page.signAndSendFunding live, none)
  | .retryClicked live =>
      if page.retryDisabled || page.retryHidden then (page, none)
      else (page.signAndSendFunding live, none)
  | .accountChanged publicKey now => (page.accountChanged publicKey now, none)
  | .connectAnswered index answer now =>
      match page.awaits[index]? with
      | some (.connect provider) =>
          (connected { page with awaits := page.awaits.eraseIdx index } provider answer now, none)
      | _ => (page, none)
  | .blockhashAnswered index answer live =>
      match page.awaits[index]? with
      | some .blockhash =>
          blockhashAnswered { page with awaits := page.awaits.eraseIdx index } answer live
      | _ => (page, none)
  | .signatureAnswered index answer now =>
      match page.awaits[index]? with
      | some (.signature _) =>
          (signatureAnswered { page with awaits := page.awaits.eraseIdx index } answer now, none)
      | _ => (page, none)

/-- The page after these events. -/
def after (page : Page) (events : List PageEvent) : Page :=
  events.foldl (fun page event => (page.step event).1) page

/-- The call that an event makes. -/
def calls (page : Page) (event : PageEvent) : Option SigningCall := (page.step event).2

/-- The event is a click that starts a signature: its button takes it, nothing else
is going on, and the checks pass. -/
def takesClick (page : Page) : PageEvent → Bool
  | .signClicked live => !page.signDisabled && !page.busy && (page.preflightStillSafe live).2
  | .retryClicked live =>
      !(page.retryDisabled || page.retryHidden) && !page.busy && (page.preflightStillSafe live).2
  | _ => false

/-- The event brings the signature of a call: the payment was sent. -/
def returnsSignature (page : Page) : PageEvent → Bool
  | .signatureAnswered index answer _ =>
      match page.awaits[index]? with
      | some (.signature _) => (answer.bind signatureOf).isSome
      | _ => false
  | _ => false

end Page

end SolFrontier.Web
