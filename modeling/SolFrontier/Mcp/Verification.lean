import SolFrontier.Mcp.Funding

/-! # What the verification of a payment means

`Pays` describes the payment of one order without mentioning errors; the check
accepts exactly the transactions that make it. Only the columns of the order
itself matter, never its status.
-/

namespace SolFrontier.Mcp

open Foundation Types StateStore Program

/-- A USDC balance of this owner. -/
def ObservedTokenBalance.IsUsdcOf (balance : ObservedTokenBalance) (owner : String) : Prop :=
  balance.mint = usdcMintBs58 ∧ balance.decimals = usdcTokenDecimals ∧ balance.owner = owner

/-- The transfer an order asks for. -/
def orderTransfer (intent : W5hFundingIntent) : ObservedTransferChecked where
  source := intent.userUsdcAta
  mint := usdcMintBs58
  destination := intent.controlledUsdcAta
  authority := intent.userWallet
  amountRaw := intent.amountRaw
  decimals := usdcTokenDecimals

/-- A wallet and its canonical USDC account. -/
def CanonicalAccount (platform : Platform) (wallet account : String) : Prop :=
  ∃ key, pubkeyFromStr wallet = some key ∧
    (platform.associatedTokenAddress key usdcMint).toBase58 = account

/-- The transaction carries an order's memo, is signed by its payer, and makes
exactly its payment. -/
structure Pays (platform : Platform) (tx : ObservedFundingTransaction) (intent : W5hFundingIntent) :
    Prop where
  succeeded : tx.succeeded = true
  memo : fundingMemo intent.intentId intent.canonicalRuleHashHex ∈ tx.memos
  signer : intent.userWallet ∈ tx.signerPubkeys
  payerAccount : CanonicalAccount platform intent.userWallet intent.userUsdcAta
  receivingAccount : CanonicalAccount platform intent.controlledWallet intent.controlledUsdcAta
  transfer : orderTransfer intent ∈ tx.transferChecked
  debit : ∃ before after, findBalance tx.preTokenBalances intent.userUsdcAta = some before ∧
    findBalance tx.postTokenBalances intent.userUsdcAta = some after ∧
    before.IsUsdcOf intent.userWallet ∧ after.IsUsdcOf intent.userWallet ∧
    before.amountRaw.toNat = after.amountRaw.toNat + intent.amountRaw.toNat
  credit : ∃ after, findBalance tx.postTokenBalances intent.controlledUsdcAta = some after ∧
    (∀ before, findBalance tx.preTokenBalances intent.controlledUsdcAta = some before →
      before.IsUsdcOf intent.controlledWallet) ∧
    after.IsUsdcOf intent.controlledWallet ∧
    after.amountRaw.toNat =
      ((findBalance tx.preTokenBalances intent.controlledUsdcAta).elim 0
        ObservedTokenBalance.amountRaw).toNat + intent.amountRaw.toNat

/-! ## The check, part by part -/

theorem validateStoredAtas_ok {platform : Platform} {intent : W5hFundingIntent} :
    validateStoredAtas platform intent = .ok () ↔
      CanonicalAccount platform intent.userWallet intent.userUsdcAta ∧
        CanonicalAccount platform intent.controlledWallet intent.controlledUsdcAta := by
  have hmint : pubkeyFromStr usdcMintBs58 = some usdcMint := pubkeyFromStr_pinned _
  unfold validateStoredAtas CanonicalAccount
  cases huser : pubkeyFromStr intent.userWallet with
  | none => simp
  | some user =>
      cases hcontrolled : pubkeyFromStr intent.controlledWallet with
      | none => simp
      | some controlled => simp [hmint]

theorem transferMatches_iff {intent : W5hFundingIntent} {transfer : ObservedTransferChecked} :
    transferMatches intent transfer = true ↔ transfer = orderTransfer intent := by
  cases transfer
  simp [transferMatches, orderTransfer]
  tauto

theorem validateBalanceIdentity_ok {balance : ObservedTokenBalance} {owner : String}
    {source : Bool} :
    validateBalanceIdentity balance owner source = .ok () ↔ balance.IsUsdcOf owner := by
  unfold validateBalanceIdentity ObservedTokenBalance.IsUsdcOf
  split
  next hmint => simp [hmint]
  next hmint =>
    split
    next hdecimals => simp [hdecimals]
    next hdecimals =>
      split
      next howner => simp [howner]
      next howner =>
        rw [ne_eq, not_not] at hmint hdecimals howner
        simp [hmint, hdecimals, howner]

theorem validateDelta_ok {left right amountRaw : UInt64} {error : VerificationError} :
    validateDelta (checkedSubU64 left right) amountRaw error = .ok () ↔
      left.toNat = right.toNat + amountRaw.toNat := by
  unfold checkedSubU64
  split
  next hle =>
    have hsub := UInt64.toNat_sub_of_le _ _ hle
    rw [UInt64.le_iff_toNat_le] at hle
    unfold validateDelta
    dsimp only
    split
    next hne =>
      rw [ne_eq, ← UInt64.toNat_inj, hsub] at hne
      simp only [reduceCtorEq, false_iff]
      omega
    next heq =>
      rw [ne_eq, not_not, ← UInt64.toNat_inj, hsub] at heq
      simp only [true_iff]
      omega
  next hlt =>
    rw [UInt64.le_iff_toNat_le] at hlt
    simp only [validateDelta, reduceCtorEq, false_iff]
    omega

theorem verifySource_ok {tx : ObservedFundingTransaction} {intent : W5hFundingIntent} :
    verifySource tx intent = .ok () ↔
      ∃ before after, findBalance tx.preTokenBalances intent.userUsdcAta = some before ∧
        findBalance tx.postTokenBalances intent.userUsdcAta = some after ∧
        before.IsUsdcOf intent.userWallet ∧ after.IsUsdcOf intent.userWallet ∧
        before.amountRaw.toNat = after.amountRaw.toNat + intent.amountRaw.toNat := by
  unfold verifySource
  cases findBalance tx.preTokenBalances intent.userUsdcAta with
  | none => simp
  | some before =>
      cases findBalance tx.postTokenBalances intent.userUsdcAta with
      | none => simp
      | some after =>
          simp only [check_eq_ok, validateBalanceIdentity_ok, validateDelta_ok]
          simp

theorem verifyReceiving_ok {tx : ObservedFundingTransaction} {intent : W5hFundingIntent} :
    verifyReceiving tx intent = .ok () ↔
      ∃ after, findBalance tx.postTokenBalances intent.controlledUsdcAta = some after ∧
        (∀ before, findBalance tx.preTokenBalances intent.controlledUsdcAta = some before →
          before.IsUsdcOf intent.controlledWallet) ∧
        after.IsUsdcOf intent.controlledWallet ∧
        after.amountRaw.toNat =
          ((findBalance tx.preTokenBalances intent.controlledUsdcAta).elim 0
            ObservedTokenBalance.amountRaw).toNat + intent.amountRaw.toNat := by
  unfold verifyReceiving
  dsimp only
  cases findBalance tx.postTokenBalances intent.controlledUsdcAta with
  | none => simp
  | some after =>
      simp only [check_eq_ok, validateBalanceIdentity_ok, validateDelta_ok]
      cases findBalance tx.preTokenBalances intent.controlledUsdcAta with
      | none => simp [Option.forM, pure, Except.pure]
      | some before => simp [Option.forM, validateBalanceIdentity_ok]

/-- The check accepts exactly the transactions that pay the order. -/
theorem verifyFundingTransaction_ok {platform : Platform} {tx : ObservedFundingTransaction}
    {intent : W5hFundingIntent} :
    verifyFundingTransaction platform tx intent = .ok () ↔ Pays platform tx intent := by
  unfold verifyFundingTransaction
  split
  next hfailed =>
    simp only [reduceCtorEq, false_iff]
    exact fun hpays => hfailed hpays.succeeded
  next hsucceeded =>
  split
  next hmissing =>
    simp only [reduceCtorEq, false_iff]
    intro hpays
    simp [hpays.memo] at hmissing
  next hmemo =>
  split
  next hunsigned =>
    simp only [reduceCtorEq, false_iff]
    intro hpays
    simp [hpays.signer] at hunsigned
  next hsigner =>
  simp only [List.any_eq_true, decide_eq_true_eq, exists_eq_right, not_not] at hsucceeded hmemo hsigner
  simp only [check_eq_ok, validateStoredAtas_ok]
  constructor
  · rintro ⟨haccounts, hrest⟩
    split at hrest
    · cases hrest
    next hfound =>
    rw [Bool.not_eq_true, Option.isNone_eq_false_iff, List.find?_isSome] at hfound
    obtain ⟨transfer, hmem, hmatches⟩ := hfound
    rw [transferMatches_iff] at hmatches
    obtain ⟨hdebit, hcredit⟩ := check_eq_ok.mp hrest
    exact
      { succeeded := hsucceeded
        memo := hmemo
        signer := hsigner
        payerAccount := haccounts.1
        receivingAccount := haccounts.2
        transfer := hmatches ▸ hmem
        debit := verifySource_ok.mp hdebit
        credit := verifyReceiving_ok.mp hcredit }
  · intro hpays
    have hfound : (tx.transferChecked.find? (transferMatches intent)).isNone = false := by
      rw [Option.isNone_eq_false_iff, List.find?_isSome]
      exact ⟨_, hpays.transfer, transferMatches_iff.mpr rfl⟩
    refine ⟨⟨hpays.payerAccount, hpays.receivingAccount⟩, ?_⟩
    rw [if_neg (by simp [hfound])]
    exact check_eq_ok.mpr ⟨verifySource_ok.mpr hpays.debit, verifyReceiving_ok.mpr hpays.credit⟩

/-! ## The accepted payments, entry by entry -/

/-- The first entry of an account among these balances. -/
def FirstEntry (balances : List ObservedTokenBalance) (account : String)
    (balance : ObservedTokenBalance) : Prop :=
  balance.account = account ∧ ∃ earlier later, balances = earlier ++ balance :: later ∧
    ∀ other ∈ earlier, other.account ≠ account

theorem findBalance_eq_some {balances : List ObservedTokenBalance} {account : String}
    {balance : ObservedTokenBalance} :
    findBalance balances account = some balance ↔ FirstEntry balances account balance := by
  simp [findBalance, List.find?_eq_some_iff_append, FirstEntry]

theorem findBalance_eq_none {balances : List ObservedTokenBalance} {account : String} :
    findBalance balances account = none ↔ ∀ balance ∈ balances, balance.account ≠ account := by
  simp [findBalance]

/-- A transfer is the order's own exactly when its six members are. -/
theorem exists_orderTransfer_iff {tx : ObservedFundingTransaction} {intent : W5hFundingIntent} :
    orderTransfer intent ∈ tx.transferChecked ↔
      ∃ transfer ∈ tx.transferChecked, transfer.source = intent.userUsdcAta ∧
        transfer.destination = intent.controlledUsdcAta ∧ transfer.mint = usdcMintBs58 ∧
        transfer.decimals = 6 ∧ transfer.amountRaw = intent.amountRaw ∧
        transfer.authority = intent.userWallet := by
  constructor
  · intro hmem
    exact ⟨orderTransfer intent, hmem, rfl, rfl, rfl, rfl, rfl, rfl⟩
  · intro ⟨transfer, hmem, hsource, hdestination, hmint, hdecimals, hamount, hauthority⟩
    have horder : transfer = orderTransfer intent := by
      cases transfer
      simp_all [orderTransfer, usdcTokenDecimals]
    exact horder ▸ hmem

/-- A transaction is accepted for an order exactly when it succeeded with the
order's memo and payer, names the canonical accounts, holds the order's transfer,
and its first balance entries show the amount leave the one account and reach
the other; all differences are of integers. -/
theorem verifyFundingTransaction_ok_iff_specified (platform : Platform)
    (tx : ObservedFundingTransaction) (intent : W5hFundingIntent) :
    verifyFundingTransaction platform tx intent = .ok () ↔
      tx.succeeded = true ∧
      fundingMemo intent.intentId intent.canonicalRuleHashHex ∈ tx.memos ∧
      intent.userWallet ∈ tx.signerPubkeys ∧
      CanonicalAccount platform intent.userWallet intent.userUsdcAta ∧
      CanonicalAccount platform intent.controlledWallet intent.controlledUsdcAta ∧
      (∃ transfer ∈ tx.transferChecked, transfer.source = intent.userUsdcAta ∧
        transfer.destination = intent.controlledUsdcAta ∧ transfer.mint = usdcMintBs58 ∧
        transfer.decimals = 6 ∧ transfer.amountRaw = intent.amountRaw ∧
        transfer.authority = intent.userWallet) ∧
      (∃ before after, FirstEntry tx.preTokenBalances intent.userUsdcAta before ∧
        FirstEntry tx.postTokenBalances intent.userUsdcAta after ∧
        before.IsUsdcOf intent.userWallet ∧ after.IsUsdcOf intent.userWallet ∧
        (before.amountRaw.toNat : Int) - after.amountRaw.toNat = intent.amountRaw.toNat) ∧
      (∃ after, FirstEntry tx.postTokenBalances intent.controlledUsdcAta after ∧
        after.IsUsdcOf intent.controlledWallet ∧
        ((∃ before, FirstEntry tx.preTokenBalances intent.controlledUsdcAta before ∧
            before.IsUsdcOf intent.controlledWallet ∧
            (after.amountRaw.toNat : Int) - before.amountRaw.toNat = intent.amountRaw.toNat) ∨
          (∀ before ∈ tx.preTokenBalances, before.account ≠ intent.controlledUsdcAta) ∧
            (after.amountRaw.toNat : Int) - 0 = intent.amountRaw.toNat)) := by
  rw [verifyFundingTransaction_ok, ← exists_orderTransfer_iff]
  simp only [← findBalance_eq_some, ← findBalance_eq_none]
  constructor
  · intro hpays
    obtain ⟨before, after, hbefore, hafter, howner, howner', hdebit⟩ := hpays.debit
    obtain ⟨credited, hcredited, hprior, hcontrolled, hcredit⟩ := hpays.credit
    refine ⟨hpays.succeeded, hpays.memo, hpays.signer, hpays.payerAccount, hpays.receivingAccount,
      hpays.transfer, ⟨before, after, hbefore, hafter, howner, howner', by omega⟩,
      credited, hcredited, hcontrolled, ?_⟩
    cases hentry : findBalance tx.preTokenBalances intent.controlledUsdcAta with
    | none =>
        -- An account that is not among the entries before counts as empty.
        rw [hentry] at hcredit
        have hzero : (0 : UInt64).toNat = 0 := rfl
        simp only [Option.elim_none, hzero] at hcredit
        exact .inr ⟨rfl, by omega⟩
    | some prior =>
        rw [hentry, Option.elim_some] at hcredit
        exact .inl ⟨prior, rfl, hprior prior hentry, by omega⟩
  · intro ⟨hsucceeded, hmemo, hsigner, hpayer, hreceiving, htransfer, hdebit, hcredit⟩
    obtain ⟨before, after, hbefore, hafter, howner, howner', hdebit⟩ := hdebit
    obtain ⟨credited, hcredited, hcontrolled, hentries⟩ := hcredit
    refine
      { succeeded := hsucceeded
        memo := hmemo
        signer := hsigner
        payerAccount := hpayer
        receivingAccount := hreceiving
        transfer := htransfer
        debit := ⟨before, after, hbefore, hafter, howner, howner', by omega⟩
        credit := ⟨credited, hcredited, ?_, hcontrolled, ?_⟩ }
    · intro prior hprior
      rcases hentries with ⟨first, hfirst, hfirstOwner, _⟩ | ⟨hnone, _⟩
      · obtain rfl : first = prior := Option.some.inj (hfirst.symm.trans hprior)
        exact hfirstOwner
      · rw [hnone] at hprior
        cases hprior
    · rcases hentries with ⟨first, hfirst, _, hdelta⟩ | ⟨hnone, hdelta⟩
      · rw [hfirst, Option.elim_some]
        omega
      · have hzero : (0 : UInt64).toNat = 0 := rfl
        rw [hnone, Option.elim_none, hzero]
        omega

end SolFrontier.Mcp
