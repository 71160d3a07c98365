import SolFrontier.Mcp.FinalizeAgreement
import SolFrontier.Mcp.FreshPair
import SolFrontier.Mcp.ScanSelection

/-! # An intent and the other rows

Complete scans take an intent for its own row, rule and readings. But finalizing
a draft costs nothing and leaves a pending rule: an order that is taken alone is
no longer taken once enough unpaid drafts are pending beside it.
-/

namespace SolFrontier.Mcp

open Foundation Types StateStore SolanaCore Executor Protocols

/-! ## Ready rows -/

theorem exactRuleId_ruleIdHex (id : Bytes 16) : exactRuleId (ruleIdHex id) = some id := by
  have hlength : (utf8Bytes (ruleIdHex id)).length = 32 := by
    simp [ruleIdHex, utf8Bytes_hexEncode, List.length_flatMap, id.2]
  have hlower : (utf8Bytes (ruleIdHex id)).any (fun byte => !Sidecar.isLowerHex byte) = false := by
    rw [ruleIdHex, utf8Bytes_hexEncode, List.any_flatMap, List.any_eq_false]
    intro byte _
    have hbound := byte.toNat_lt
    have hhigh := isLowerHexByte_hexDigitByte (show byte.toNat / 16 < 16 by omega)
    have hlow := isLowerHexByte_hexDigitByte (show byte.toNat % 16 < 16 by omega)
    have hhighHex : Sidecar.isLowerHex (hexDigitByte (byte.toNat / 16)) = true := hhigh
    have hlowHex : Sidecar.isLowerHex (hexDigitByte (byte.toNat % 16)) = true := hlow
    simp [hhighHex, hlowHex]
  rw [exactRuleId, if_neg (by simp [hlength, hlower]), ruleIdHex, hexDecode_hexEncode]
  simp [id.2]

section

variable {platform : ScanPlatform} {readings : ScanReadings} {rules : WatchRuleTable}
  {intent : W5hFundingIntent} {snapshot : FundingSnapshot} {stored : StoredWatchRule}
  {deposit : SolendDeposit} {rate : SolendReserveSupplyRate} {facts : ChainFacts}
  {slot finalSlot : UInt64}

/-- A pair that meets every requirement at the accounts read is inspected to the
plan of its order. -/
theorem inspectFundingCandidate_eq_of_requirements
    (hid : intent.intentId = ruleIdHex stored.rule.ruleId) (hrule : intent.intentId = intent.ruleIdHex)
    (hlookup : rules.lookup platform.json stored.rule.ruleId = .ok (some stored))
    (hlifecycle : ineligibleLifecycle stored = none)
    (hsnapshot : fundingSnapshot intent = .ok snapshot)
    (hslot : readings.confirmedSlot = some (.ok slot))
    (hadmissible : AdmissibleDeposit snapshot stored.rule deposit rate
      ⟨(readings.candidate intent.intentId).preflightNowMs, some slot⟩)
    (hfacts : ∀ prepared, prepared.action = deposit →
      prepared.delegatedWallet = stored.rule.delegatedWallet →
      readChainFacts platform prepared (readings.candidate intent.intentId) = pure facts)
    (hfinal : (readings.candidate intent.intentId).finalSlot = .ok finalSlot)
    (hrequired : ChainRequirements snapshot stored.rule deposit rate facts
      ⟨(readings.candidate intent.intentId).finalNowMs, finalSlot⟩) :
    ∃ report lifecycle, inspectFundingCandidate platform rules intent readings
        readings.sampleSlot.1 readings.sampleSlot.2 false =
      some ((CandidateInspection.ready (planInputs snapshot deposit facts report) none).withLifecycle
        lifecycle) := by
  obtain ⟨report, hready⟩ := ready_of_requirements hadmissible hrequired
  have hexact : exactRuleId intent.intentId = some stored.rule.ruleId := by
    rw [hid, exactRuleId_ruleIdHex]
  have hsample : readings.sampleSlot = (some slot, none) := by
    simp [ScanReadings.sampleSlot, hslot]
  have hinspect : ∀ prepared : PreparedDeposit, prepared.action = deposit →
      prepared.delegatedWallet = stored.rule.delegatedWallet →
      validateChain prepared facts ⟨(readings.candidate intent.intentId).finalNowMs, finalSlot⟩ =
        some (.ready (planInputs snapshot deposit facts report)) →
      inspectCandidate platform prepared (readings.candidate intent.intentId) false =
        some (.ready (planInputs snapshot deposit facts report) none) := by
    intro prepared haction hwallet hvalidated
    rw [inspectCandidate, hfacts prepared haction hwallet, hfinal]
    simp only [Inspect.read, pure_bind, hvalidated]
    rfl
  unfold inspectFundingCandidate
  dsimp only
  rw [if_neg (not_not.mpr hrule), hexact]
  dsimp only
  rw [hlookup]
  dsimp only
  rw [hlifecycle, hsnapshot, hsample]
  dsimp only
  rw [preflightCandidate_of_admissible hadmissible]
  dsimp only
  rw [hslot, if_neg (by simp), hinspect _ rfl rfl hready]
  exact ⟨report, _, rfl⟩

/-- A pair that meets every requirement at the accounts read is ready. -/
theorem inspectFundingCandidate_of_requirements
    (hid : intent.intentId = ruleIdHex stored.rule.ruleId) (hrule : intent.intentId = intent.ruleIdHex)
    (hlookup : rules.lookup platform.json stored.rule.ruleId = .ok (some stored))
    (hlifecycle : ineligibleLifecycle stored = none)
    (hsnapshot : fundingSnapshot intent = .ok snapshot)
    (hslot : readings.confirmedSlot = some (.ok slot))
    (hadmissible : AdmissibleDeposit snapshot stored.rule deposit rate
      ⟨(readings.candidate intent.intentId).preflightNowMs, some slot⟩)
    (hfacts : ∀ prepared, prepared.action = deposit →
      prepared.delegatedWallet = stored.rule.delegatedWallet →
      readChainFacts platform prepared (readings.candidate intent.intentId) = pure facts)
    (hfinal : (readings.candidate intent.intentId).finalSlot = .ok finalSlot)
    (hrequired : ChainRequirements snapshot stored.rule deposit rate facts
      ⟨(readings.candidate intent.intentId).finalNowMs, finalSlot⟩) :
    ∃ inspection, inspectFundingCandidate platform rules intent readings readings.sampleSlot.1
        readings.sampleSlot.2 false = some inspection ∧ inspection.row.status = "ready" := by
  obtain ⟨report, lifecycle, hinspection⟩ := inspectFundingCandidate_eq_of_requirements hid hrule
    hlookup hlifecycle hsnapshot hslot hadmissible hfacts hfinal hrequired
  exact ⟨_, hinspection, rfl⟩

end

/-! ## The accounts of one order -/

def collateralMint : PubkeyBytes :=
  pinnedPubkey "993dVFL2uXWYeoXuEBFXR4BijeXdTv4s6BzsCjJZuwqk" (by decide +kernel)

def controlledUsdcAta : PubkeyBytes := pinnedPubkey controlledUsdcAtaBs58 controlledUsdcAta_valid

def controlledCollateralAta : PubkeyBytes :=
  pinnedPubkey "BQazv4UQNFV8t4QGVntELr1ee3bCeTN8AvdPGRutFKn7" (by decide +kernel)

/-- A reserve of six decimals, refreshed at a slot and half borrowed at ten percent. -/
def halfBorrowedReserve : List UInt8 :=
  [1] ++ Codec.u64.encode 419000090 ++ [0] ++ solendLendingMarket.bytes.1 ++ usdcMint.bytes.1 ++
    [6] ++ List.replicate 32 8 ++ List.replicate 32 9 ++ List.replicate 32 10 ++
    Codec.u64.encode 8 ++ Codec.leBytes 16 8000000000000000000 ++ List.replicate 32 0 ++
    collateralMint.bytes.1 ++ List.replicate 8 0 ++ List.replicate 32 12 ++
    [50, 0, 0, 0, 0, 10, 50] ++ List.replicate 164 0 ++ [80] ++ Codec.u64.encode 150 ++
    List.replicate 140 0

/-- An obligation of the controlled wallet without deposits or borrows. -/
def emptyObligation : List UInt8 :=
  [1] ++ Codec.u64.encode 419000090 ++ [0] ++ solendLendingMarket.bytes.1 ++
    controlledWallet.bytes.1 ++ List.replicate 1226 0

/-- An initialized token account of the controlled wallet. -/
def controlledTokenAccount (mint : PubkeyBytes) (amountRaw : UInt64) : List UInt8 :=
  mint.bytes.1 ++ controlledWallet.bytes.1 ++ Codec.u64.encode amountRaw ++ List.replicate 36 0 ++
    [1] ++ List.replicate 56 0

/-- Unpack an account that is initialized and not frozen. -/
def unpackInitialized (data : List UInt8) : Option SplTokenAccount := do
  let mint ← readPubkey data 0
  let owner ← readPubkey data 32
  let amount ← readU64Le data 64
  if data.length = 165 ∧ readByte data 108 = some 1 then some ⟨mint, owner, amount, .initialized⟩
  else none

def crowdPlatform : ScanPlatform where
  json := halfUsdcPlatform.json
  sdk := standardSdk
  findProgramAddress seeds _ :=
    if seeds = [controlledWallet.bytes.1, splTokenProgramId.bytes.1, usdcMint.bytes.1] then
      controlledUsdcAta
    else controlledCollateralAta
  unpackTokenAccount := unpackInitialized

def crowdReadings : ScanReadings where
  confirmedSlot := some (.ok 419000100)
  candidate _ :=
    { preflightNowMs := 1700000100000
      confirmedReserve := fun reserve =>
        .ok ⟨419000100, reserve, ⟨solendProgramId, halfBorrowedReserve⟩⟩
      confirmedAccount := fun address =>
        .ok (some
          (if address = solendTargetObligation then ⟨solendProgramId, emptyObligation⟩
          else if address = controlledUsdcAta then
            ⟨splTokenProgramId, controlledTokenAccount usdcMint 500000⟩
          else ⟨splTokenProgramId, controlledTokenAccount collateralMint 0⟩))
      finalSlot := .ok 419000100
      finalNowMs := 1700000100500 }

/-- What those accounts say. -/
def crowdFacts : ChainFacts where
  reserve :=
    { address := solendReserve
      accountOwner := solendProgramId
      lastUpdateSlot := 419000090
      lastUpdateStale := false
      lendingMarket := solendLendingMarket
      liquidityMint := usdcMint
      liquidityMintDecimals := 6
      liquiditySupply := samplePubkey 8
      pythOracle := samplePubkey 9
      switchboardOracle := samplePubkey 10
      collateralMint
      collateralSupply := samplePubkey 12 }
  obligation :=
    { address := solendTargetObligation
      accountOwner := solendProgramId
      lendingMarket := solendLendingMarket
      obligationOwner := controlledWallet }
  sourceLiquidity := some
    { address := controlledUsdcAta
      accountOwner := splTokenProgramId
      mint := usdcMint
      tokenOwner := controlledWallet
      amountRaw := 500000
      initialized := true
      frozen := false }
  collateral := some
    { address := controlledCollateralAta
      accountOwner := splTokenProgramId
      mint := collateralMint
      tokenOwner := controlledWallet
      amountRaw := 0
      initialized := true
      frozen := false }
  derived :=
    { tokenProgram := splTokenProgramId
      sourceLiquidityAta := controlledUsdcAta
      collateralAta := controlledCollateralAta }
  nativeSupplyAprWad := 50000000000000000

theorem decode_halfBorrowedReserve :
    (decodeReserve halfBorrowedReserve).run = some (.ok
      { lastUpdateSlot := 419000090
        lastUpdateStale := false
        lendingMarket := solendLendingMarket
        liquidityMint := usdcMint
        liquidityMintDecimals := 6
        liquiditySupply := samplePubkey 8
        pythOracle := samplePubkey 9
        switchboardOracle := samplePubkey 10
        collateralMint
        collateralSupply := samplePubkey 12 }) ∧
    (nativeSupplyAprFromReserveData halfBorrowedReserve).run =
      some (.ok (50000000000000000, 500)) ∧
    (decodeObligation emptyObligation).run = some (.ok
      { version := 1
        lastUpdateSlot := 419000090
        lastUpdateStale := false
        lendingMarket := solendLendingMarket
        owner := controlledWallet
        deposits := []
        borrows := []
        borrowedValueUpperBoundWads := 0
        borrowingIsolatedAsset := false
        superUnhealthyBorrowValueWads := 0
        unweightedBorrowedValueWads := 0
        closeable := false }) ∧
    unpackInitialized (controlledTokenAccount usdcMint 500000) =
      some ⟨usdcMint, controlledWallet, 500000, .initialized⟩ ∧
    unpackInitialized (controlledTokenAccount collateralMint 0) =
      some ⟨collateralMint, controlledWallet, 0, .initialized⟩ ∧
    controlledUsdcAta ≠ solendTargetObligation ∧
    controlledCollateralAta ≠ solendTargetObligation ∧
    controlledCollateralAta ≠ controlledUsdcAta ∧
    collateralMint ≠ usdcMint := by
  decide +kernel

theorem readChainFacts_crowd {prepared : PreparedDeposit} {intentId : String}
    (haction : prepared.action.targetObligation = solendTargetObligation ∧
      prepared.action.reservePubkey = solendReserve ∧ prepared.action.inputMint = usdcMint)
    (hwallet : prepared.delegatedWallet = controlledWallet) :
    readChainFacts crowdPlatform prepared (crowdReadings.candidate intentId) = pure crowdFacts := by
  obtain ⟨hobligation, hreserve, hmint⟩ := haction
  obtain ⟨hdecoded, hrate, hdecodedObligation, hsource, hcollateral, husdc, hreceipt, hother,
    hmints⟩ := decode_halfBorrowedReserve
  have hread : ∀ {α : Type} (value : α),
      Inspect.read prepared.report (.ok value) = pure value := fun _ => rfl
  have hdecode : ∀ {Error α : Type} (errorClass : Error → String) (decoded : Decode Error α) value,
      decoded.run = some (.ok value) →
      Inspect.decode prepared.report errorClass decoded = pure value := by
    intro Error α errorClass decoded value hrun
    rw [Inspect.decode, hrun]
    rfl
  have husdcAta : deriveAssociatedTokenAddress crowdPlatform.findProgramAddress controlledWallet
      usdcMint splTokenProgramId = controlledUsdcAta := by
    unfold deriveAssociatedTokenAddress crowdPlatform
    dsimp only
    exact if_pos rfl
  have hcollateralAta : deriveAssociatedTokenAddress crowdPlatform.findProgramAddress
      controlledWallet collateralMint splTokenProgramId = controlledCollateralAta := by
    unfold deriveAssociatedTokenAddress crowdPlatform
    dsimp only
    apply if_neg
    intro hseeds
    simp only [List.cons.injEq, true_and, and_true] at hseeds
    exact hmints (PubkeyBytes.ext_bytes hseeds)
  have hobligationAccount : (crowdReadings.candidate intentId).confirmedAccount
      solendTargetObligation = .ok (some ⟨solendProgramId, emptyObligation⟩) := by
    simp [crowdReadings]
  have hsourceAccount : (crowdReadings.candidate intentId).confirmedAccount controlledUsdcAta =
      .ok (some ⟨splTokenProgramId, controlledTokenAccount usdcMint 500000⟩) := by
    simp [crowdReadings, husdc]
  have hcollateralAccount : (crowdReadings.candidate intentId).confirmedAccount
      controlledCollateralAta =
        .ok (some ⟨splTokenProgramId, controlledTokenAccount collateralMint 0⟩) := by
    simp [crowdReadings, hreceipt, hother]
  have hreserveAccount : (crowdReadings.candidate intentId).confirmedReserve solendReserve =
      .ok ⟨419000100, solendReserve, ⟨solendProgramId, halfBorrowedReserve⟩⟩ := rfl
  have htoken : ∀ address mint amountRaw,
      unpackInitialized (controlledTokenAccount mint amountRaw) =
        some ⟨mint, controlledWallet, amountRaw, .initialized⟩ →
      (decodeTokenAccount crowdPlatform address
        (some ⟨splTokenProgramId, controlledTokenAccount mint amountRaw⟩)).run =
          some (.ok (some ⟨address, splTokenProgramId, mint, controlledWallet, amountRaw, true,
            false⟩)) := by
    intro address mint amountRaw hunpack
    simp only [decodeTokenAccount, crowdPlatform, hunpack, orThrow, pure_bind]
    rfl
  unfold readChainFacts
  simp only [hobligation, hreserve, hmint, hwallet, hreserveAccount, hread, pure_bind]
  rw [hdecode _ _ _ hdecoded]
  simp only [pure_bind]
  rw [hdecode _ _ _ hrate]
  simp only [pure_bind, hobligationAccount, hread, orThrow]
  rw [hdecode _ _ _ hdecodedObligation]
  simp only [pure_bind, husdcAta, hcollateralAta, hsourceAccount, hcollateralAccount, hread]
  rw [hdecode _ _ _ (htoken _ _ _ hsource), pure_bind, hdecode _ _ _ (htoken _ _ _ hcollateral),
    pure_bind]
  simp only [reserveFacts]
  rfl

/-! ## Pending drafts -/

/-- The funding row of an order for half a USDC, paid and confirmed. -/
def reservedHalfUsdc : RowRaw :=
  { (halfUsdcOrder 50).toRow 1700000000000 with
    status := .budgetReserved
    fundingSignature := some halfUsdcSignature
    fundingFinalizedSlot := some 419000050
    updatedAtMs := 1700000050000 }

/-- The rule that finalizing such a draft leaves behind. -/
def pendingRule (thresholdBps : Nat) : WatchRuleRowRaw :=
  ruleToRow halfUsdcPlatform.json
    (canonicalWatchRule (halfUsdcDraft (.ofNat thresholdBps)) 419000000) 1700000000000

/-- What the rule of the paid order reads back as. -/
def paidRule : StoredWatchRule :=
  .fresh (canonicalWatchRule (halfUsdcDraft 50) 419000000) 1700000000000

theorem pendingRule_inj {left right : Nat} (hleft : left < 1000) (hright : right < 1000)
    (heq : (pendingRule left).ruleId = (pendingRule right).ruleId) : left = right := by
  have hid := Subtype.ext (hexEncode_inj heq)
  obtain ⟨hthreshold, _⟩ := deriveRuleId_inj hid
  have hnat := congrArg UInt32.toNat hthreshold
  simp only [halfUsdcDraft, UInt32.toNat_ofNat'] at hnat
  omega

/-- One order paid for, among drafts for as many thresholds from 50 up. -/
def crowdedStore (drafts : Fin 900) : WatchStore where
  funding := ⟨[reservedHalfUsdc], by simp⟩
  rules := ⟨(List.range drafts).map fun index => pendingRule (50 + index), by
    rw [List.map_map]
    apply List.Nodup.map_on _ List.nodup_range
    intro left hleft right hright heq
    rw [List.mem_range] at hleft hright
    have hsame := pendingRule_inj (by omega) (by omega) heq
    omega⟩

theorem mem_crowdedStore {drafts : Fin 900} {row : WatchRuleRowRaw}
    (hrow : row ∈ (crowdedStore drafts).rules.rows) : ∃ thresholdBps, row = pendingRule thresholdBps := by
  obtain ⟨index, _, rfl⟩ := List.mem_map.mp hrow
  exact ⟨50 + index, rfl⟩

theorem length_crowdedRules (drafts : Fin 900) :
    (((crowdedStore drafts).rules.rows).filter isPending).length = drafts := by
  have hpending : ((crowdedStore drafts).rules.rows).filter isPending =
      (crowdedStore drafts).rules.rows := by
    rw [List.filter_eq_self]
    intro row hrow
    obtain ⟨thresholdBps, rfl⟩ := mem_crowdedStore hrow
    rfl
  rw [hpending]
  simp [crowdedStore]

/-- As long as the drafts fit a batch, the scan lists everything. -/
theorem crowdedStore_complete {drafts : Fin 900} (hfits : drafts.val ≤ watchBatchLimit) :
    (crowdedStore drafts).ScanComplete crowdPlatform.json := by
  refine ⟨⟨?_, ?_⟩, ?_, ?_⟩
  · exact (List.length_filter_le _ _).trans (show 1 ≤ watchBatchLimit by decide)
  · intro row hrow _
    rw [List.mem_singleton.mp hrow]
    exact ⟨_, rowToIntent_ok.mpr ⟨by decide, rfl⟩⟩
  · rw [length_crowdedRules]
    exact hfits
  · intro row hrow _
    obtain ⟨thresholdBps, rfl⟩ := mem_crowdedStore hrow
    exact ⟨_, rowToStored_ruleToRow _ (canonicalWatchRule_valid ..) _⟩

theorem crowdedStore_incomplete {drafts : Fin 900} (hcrowded : watchBatchLimit < drafts.val) :
    ¬ (crowdedStore drafts).ScanComplete crowdPlatform.json := by
  intro hcomplete
  have hlimit := hcomplete.2.1
  rw [length_crowdedRules] at hlimit
  omega

theorem get_crowdedRule {drafts : Fin 900} (hsome : 0 < drafts.val) :
    (crowdedStore drafts).rules.get reservedHalfUsdc.ruleIdHex = some (pendingRule 50) := by
  have hmem : pendingRule 50 ∈ (crowdedStore drafts).rules.rows :=
    List.mem_map.mpr ⟨0, List.mem_range.mpr hsome, rfl⟩
  exact Table.get_of_mem hmem

theorem get_crowdedFunding (drafts : Fin 900) :
    (crowdedStore drafts).funding.get reservedHalfUsdc.intentId = some reservedHalfUsdc :=
  Table.get_of_mem (List.mem_singleton_self _)

/-- The accounts are those of the order, fresh, and pay more than its threshold. -/
theorem chainRequirements_crowd :
    ChainRequirements (freshSnapshot (halfUsdcDraft 50) 419000000 1700000180000)
      (canonicalWatchRule (halfUsdcDraft 50) 419000000)
      { targetObligation := solendTargetObligation
        reservePubkey := solendReserve
        lendingMarket := solendLendingMarket
        solendProgramId := solendProgramId
        inputMint := usdcMint
        inputAmountRaw := (halfUsdcDraft 50).amountRaw }
      { reservePubkey := solendReserve
        lendingMarket := solendLendingMarket
        solendProgramId := solendProgramId
        comparison := .gt
        thresholdBps := (halfUsdcDraft 50).thresholdBps
        rateKind := .apr
        formulaVersion := 1
        maxReserveStalenessSlots := 16
        requiredRefreshSameTx := true }
      crowdFacts ⟨1700000100500, 419000100⟩ where
  wallClock := by decide
  slotClock := by decide
  reserveAddress := rfl
  reserveProgram := rfl
  reserveMarket := rfl
  reserveMint := rfl
  decimals := rfl
  obligationAddress := rfl
  obligationProgram := rfl
  obligationMarket := rfl
  obligationOwner := rfl
  sourceAta := rfl
  tokenProgram := rfl
  source := ⟨_, rfl, ⟨rfl, rfl, rfl, rfl, rfl, rfl⟩, by decide⟩
  collateral := ⟨_, rfl, rfl, rfl, rfl, rfl, rfl, rfl⟩
  notAhead := by decide
  notStale := rfl
  fresh := by decide
  condition := by decide

/-- Beside no other draft the paid order is taken. -/
theorem selects_alone :
    Selects crowdPlatform crowdReadings (crowdedStore 1) reservedHalfUsdc.intentId := by
  apply (selects_iff_readyAlone (crowdedStore_complete (by decide))).mpr
  have hvalid : (halfUsdcDraft 50).Validated := validated_of_ok (validateDraft_halfUsdc (by decide))
  have hsnapshot : fundingSnapshot reservedHalfUsdc.toIntent =
      .ok (freshSnapshot (halfUsdcDraft 50) 419000000 1700000180000) := by
    have hsame : ((halfUsdcOrder 50).intent 1700000000000).SameOrder reservedHalfUsdc.toIntent := by
      have hamount : (halfUsdcOrder 50).amountRaw.toNat < 2 ^ 63 := by decide
      rw [← (rowToIntent_ok.mp (rowToIntent_toRow hamount 1700000000000)).2]
      rfl
    have hfresh : fundingSnapshot ((newFundingIntent halfUsdcPlatform (halfUsdcDraft 50)
        firstMarket payerWallet (canonicalWatchRule (halfUsdcDraft 50) 419000000)
        (halfUsdcDraft 50).amountRaw 1700000000000).intent 1700000000000) =
          .ok (freshSnapshot (halfUsdcDraft 50) 419000000
            (saturatingAddI64 1700000000000 fundingWindowMs)) := fundingSnapshot_fresh ..
    have hdeadline : saturatingAddI64 1700000000000 fundingWindowMs = 1700000180000 := by decide
    rw [fundingSnapshot_sameOrder hsame, ← hdeadline]
    exact hfresh
  have hlookup : (crowdedStore 1).rules.lookup crowdPlatform.json paidRule.rule.ruleId =
      .ok (some paidRule) :=
    WatchRuleTable.lookup_eq_some.mpr ⟨_, get_crowdedRule (by decide),
      rowToStored_ruleToRow _ (canonicalWatchRule_valid ..) _⟩
  have hslot : crowdReadings.confirmedSlot = some (.ok 419000100) := rfl
  have hid : reservedHalfUsdc.toIntent.intentId = ruleIdHex paidRule.rule.ruleId := rfl
  have hrule : reservedHalfUsdc.toIntent.intentId = reservedHalfUsdc.toIntent.ruleIdHex := rfl
  have hadmissible := admissible_fresh hvalid
    (show (1700000100000 : Int64) < 1700000180000 by decide)
    (show 419000100 < (canonicalWatchRule (halfUsdcDraft 50) 419000000).expiresAtSlot by decide)
  obtain ⟨inspection, hinspection, hready⟩ := inspectFundingCandidate_of_requirements hid hrule
    hlookup rfl hsnapshot hslot hadmissible
    (fun prepared haction hwallet => readChainFacts_crowd (by simp [haction]) hwallet) rfl
    chainRequirements_crowd
  exact ⟨reservedHalfUsdc, _, inspection, get_crowdedFunding 1, rfl,
    rowToIntent_ok.mpr ⟨by decide, rfl⟩, hinspection, hready⟩

/-! ## Two scans -/

section

variable {platform : ScanPlatform} {intentId : String} {left right : WatchStore}
  {leftReadings rightReadings : ScanReadings}

theorem readyAlone_of_agree
    (hfunding : left.funding.get intentId = right.funding.get intentId)
    (hrule : ∀ row, left.funding.get intentId = some row →
      left.rules.get row.ruleIdHex = right.rules.get row.ruleIdHex)
    (hslot : leftReadings.confirmedSlot = rightReadings.confirmedSlot)
    (hcandidate : leftReadings.candidate intentId = rightReadings.candidate intentId)
    (hready : ReadyAlone platform leftReadings left intentId) :
    ReadyAlone platform rightReadings right intentId := by
  obtain ⟨row, intent, inspection, hget, hstatus, hrow, hinspection, hreadyRow⟩ := hready
  have hid : intent.intentId = intentId := by
    have hkey : row.intentId = intentId := Table.key_of_get hget
    rw [← (rowToIntent_ok.mp hrow).2, ← hkey]
    rfl
  have hsample : leftReadings.sampleSlot = rightReadings.sampleSlot := by
    rw [ScanReadings.sampleSlot, ScanReadings.sampleSlot, hslot]
  have hruleId : left.rules.get intent.ruleIdHex = right.rules.get intent.ruleIdHex := by
    rw [← (rowToIntent_ok.mp hrow).2]
    exact hrule row hget
  refine ⟨row, intent, inspection, hfunding ▸ hget, hstatus, hrow, ?_, hreadyRow⟩
  rw [← hinspection, ← hsample]
  exact (inspectFundingCandidate_congr hruleId hslot (hid ▸ hcandidate)).symm

/-- Two complete scans that agree on an intent's row, rule and readings both
take it or both do not; an incomplete scan takes no intent at all. -/
theorem selection_independent
    (hfunding : left.funding.get intentId = right.funding.get intentId)
    (hrule : ∀ row, left.funding.get intentId = some row →
      left.rules.get row.ruleIdHex = right.rules.get row.ruleIdHex)
    (hslot : leftReadings.confirmedSlot = rightReadings.confirmedSlot)
    (hcandidate : leftReadings.candidate intentId = rightReadings.candidate intentId) :
    (left.ScanComplete platform.json → right.ScanComplete platform.json →
      (Selects platform leftReadings left intentId ↔
        Selects platform rightReadings right intentId)) ∧
    (∀ readings (store : WatchStore), ¬ store.ScanComplete platform.json →
      (∃ report, scanCycle platform .executePreflight readings store = some report ∧
        executeReadyIntentIds report = .error .scanUnsafe) ∧
      ¬ Selects platform readings store intentId) := by
  constructor
  · intro hleft hright
    rw [selects_iff_readyAlone hleft, selects_iff_readyAlone hright]
    constructor
    · exact readyAlone_of_agree hfunding hrule hslot hcandidate
    · apply readyAlone_of_agree hfunding.symm ?_ hslot.symm hcandidate.symm
      intro row hget
      exact (hrule row (hfunding.trans hget)).symm
  · intro readings store hincomplete
    obtain ⟨report, hreport, hrefused⟩ := scanUnsafe_of_not_complete hincomplete
    refine ⟨⟨report, hreport, hrefused⟩, ?_⟩
    intro ⟨other, ids, hother, htaken, _⟩
    rw [hreport] at hother
    cases hother
    rw [hrefused] at htaken
    cases htaken

end

/-- Beside 127 drafts that nobody paid for, the paid order is still taken. -/
theorem selection_independent_fits :
    Selects crowdPlatform crowdReadings (crowdedStore 1) reservedHalfUsdc.intentId ↔
      Selects crowdPlatform crowdReadings (crowdedStore 128) reservedHalfUsdc.intentId := by
  have hfunding : (crowdedStore 1).funding.get reservedHalfUsdc.intentId =
      (crowdedStore 128).funding.get reservedHalfUsdc.intentId := rfl
  have hrule : ∀ row, (crowdedStore 1).funding.get reservedHalfUsdc.intentId = some row →
      (crowdedStore 1).rules.get row.ruleIdHex = (crowdedStore 128).rules.get row.ruleIdHex := by
    intro row hrow
    rw [get_crowdedFunding, Option.some.injEq] at hrow
    rw [← hrow, get_crowdedRule (by decide), get_crowdedRule (by decide)]
  have halone : (crowdedStore 1).ScanComplete crowdPlatform.json :=
    crowdedStore_complete (by decide)
  have hfull : (crowdedStore 128).ScanComplete crowdPlatform.json :=
    crowdedStore_complete (by decide)
  exact (selection_independent hfunding hrule rfl rfl).1 halone hfull

/-- Beside 128 more drafts that nobody paid for, it is not. -/
theorem crowd_stops_selection :
    (crowdedStore 1).funding.get reservedHalfUsdc.intentId =
      (crowdedStore 129).funding.get reservedHalfUsdc.intentId ∧
    (crowdedStore 1).rules.get reservedHalfUsdc.ruleIdHex =
      (crowdedStore 129).rules.get reservedHalfUsdc.ruleIdHex ∧
    (crowdedStore 1).funding.rows.length ≤ watchBatchLimit ∧
    (crowdedStore 129).funding.rows.length ≤ watchBatchLimit ∧
    Selects crowdPlatform crowdReadings (crowdedStore 1) reservedHalfUsdc.intentId ∧
    ¬ Selects crowdPlatform crowdReadings (crowdedStore 129) reservedHalfUsdc.intentId := by
  refine ⟨rfl, ?_, by decide, by decide, selects_alone, ?_⟩
  · rw [get_crowdedRule (by decide), get_crowdedRule (by decide)]
  · intro ⟨report, ids, hreport, htaken, _⟩
    have hcrowded : ¬ (crowdedStore 129).ScanComplete crowdPlatform.json :=
      crowdedStore_incomplete (by decide)
    obtain ⟨other, hother, hrefused⟩ := scanUnsafe_of_not_complete hcrowded
    rw [hreport] at hother
    cases hother
    rw [hrefused] at htaken
    cases htaken

end SolFrontier.Mcp
