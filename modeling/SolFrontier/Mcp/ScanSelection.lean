import SolFrontier.Executor.Precedence
import SolFrontier.Mcp.WatchScan

/-! # What a cycle takes

A listed row is inspected on its own: the inspection reads nothing but the rule
it names and the chain, and it always ends. The two listings are all or nothing.
A complete scan takes the rows that are ready by themselves, any other is
refused as a whole.
-/

namespace SolFrontier.Mcp

open Foundation Types StateStore SolanaCore Executor Protocols

/-! ## Inspections end -/

/-- The inspection does not panic; a row it ends with early is not ready, and a
value it gives is as described. -/
def Settles {α : Type} (inspect : Inspect α) (post : α → Prop) : Prop :=
  ∃ result, inspect.run = some result ∧ (∀ row, result = .error row → row.status ≠ "ready") ∧
    ∀ value, result = .ok value → post value

namespace Settles

variable {α β : Type}

theorem pure {post : α → Prop} {value : α} (hpost : post value) :
    Settles (Pure.pure value) post := by
  refine ⟨.ok value, rfl, ?_, ?_⟩
  · intro row hrow
    cases hrow
  · intro other hother
    cases hother
    exact hpost

theorem throw {post : α → Prop} {row : WatchRowReport} (hrow : row.status ≠ "ready") :
    Settles (MonadExcept.throw row) post := by
  refine ⟨.error row, rfl, ?_, ?_⟩
  · intro other hother
    cases hother
    exact hrow
  · intro value hvalue
    cases hvalue

theorem bind {middle : α → Prop} {post : β → Prop} {first : Inspect α} {rest : α → Inspect β}
    (hfirst : Settles first middle) (hrest : ∀ value, middle value → Settles (rest value) post) :
    Settles (first >>= rest) post := by
  obtain ⟨result, hresult, hrow, hvalue⟩ := hfirst
  cases result with
  | error row =>
      refine ⟨.error row, ?_, ?_, ?_⟩
      · rw [ExceptT.run_bind, hresult]
        rfl
      · intro other hother
        cases hother
        exact hrow row rfl
      · intro value hvalue
        cases hvalue
  | ok value =>
      obtain ⟨final, hfinal, hfinalRow, hfinalValue⟩ := hrest value (hvalue value rfl)
      refine ⟨final, ?_, hfinalRow, hfinalValue⟩
      rw [ExceptT.run_bind, hresult]
      exact hfinal

theorem read (audit : CandidateReport) (answer : Except FinalizeMarketReadError α) :
    Settles (Inspect.read audit answer) fun _ => True := by
  cases answer with
  | ok value => exact pure trivial
  | error error => exact throw (by simp [WatchRowReport.candidateError, WatchRowReport.error,
      WatchRowReport.databaseOnly])

theorem decode {Error : Type} (audit : CandidateReport) (errorClass : Error → String)
    {decoded : Decode Error α} (hdecoded : Total decoded) :
    Settles (Inspect.decode audit errorClass decoded) fun _ => True := by
  obtain ⟨result, hresult⟩ := hdecoded
  cases result with
  | ok value =>
      have hrun : Inspect.decode audit errorClass decoded = Pure.pure value := by
        simp [Inspect.decode, hresult, Except.mapError]
        rfl
      rw [hrun]
      exact pure trivial
  | error error =>
      have hrun : Inspect.decode audit errorClass decoded =
          MonadExcept.throw (.candidateError "decode_error" (errorClass error) audit) := by
        simp [Inspect.decode, hresult, Except.mapError]
        rfl
      rw [hrun]
      exact throw (by simp [WatchRowReport.candidateError, WatchRowReport.error,
        WatchRowReport.databaseOnly])

theorem orThrow (value : Option α) {row : WatchRowReport} (hrow : row.status ≠ "ready") :
    Settles (Protocols.orThrow value row) fun _ => True := by
  cases value with
  | none => exact throw hrow
  | some value => exact pure trivial

theorem lift (value : α) :
    Settles (liftM (some value) : Inspect α) fun other => other = value := by
  refine ⟨.ok value, rfl, ?_, ?_⟩
  · intro row hrow
    cases hrow
  · intro other hother
    cases hother
    rfl

end Settles

/-- Where a row ends an inspection it is not ready. -/
theorem Inspect.finish_settles {intentId : Option String} {inspect : Inspect CandidateInspection}
    (hsettles : Settles inspect fun inspection =>
      inspection.row.status = "ready" → inspection.row.intentId = intentId) :
    ∃ inspection, inspect.finish = some inspection ∧
      (inspection.row.status = "ready" → inspection.row.intentId = intentId) := by
  obtain ⟨result, hresult, hrow, hvalue⟩ := hsettles
  rw [Inspect.finish, hresult]
  cases result with
  | error row =>
      refine ⟨.blocked row, rfl, ?_⟩
      intro hready
      exact absurd hready (hrow row rfl)
  | ok inspection => exact ⟨inspection, rfl, hvalue inspection rfl⟩

section

variable {platform : ScanPlatform} {prepared : PreparedDeposit} {readings : CandidateReadings}
  {input : CandidateInput} {clocks : PreflightClockSnapshot}

theorem decodeTokenAccount_total (address : PubkeyBytes) (account : Option Account) :
    Total (decodeTokenAccount platform address account) := by
  cases account with
  | none => exact Total.pure none
  | some account =>
      have hdecides : Decides False (decodeTokenAccount platform address (some account)) := by
        rw [decodeTokenAccount]
        exact Decides.orThrow_bind False.elim fun _ _ => Decides.pure _
      exact hdecides.total

theorem readChainFacts_settles :
    Settles (readChainFacts platform prepared readings) fun _ => True := by
  unfold readChainFacts
  apply Settles.bind (Settles.read _ _)
  intro observation _
  apply Settles.bind (Settles.decode _ _ (decodeReserve_total _))
  intro reserve _
  apply Settles.bind (Settles.decode _ _ (nativeSupplyAprFromReserveData_total _))
  intro rate _
  apply Settles.bind (Settles.read _ _)
  intro obligationRead _
  apply Settles.bind (Settles.orThrow _ (by simp [WatchRowReport.candidateError,
    WatchRowReport.error, WatchRowReport.databaseOnly]))
  intro obligationAccount _
  apply Settles.bind (Settles.decode _ _ (decodeObligation_total _))
  intro obligation _
  apply Settles.bind (Settles.read _ _)
  intro sourceRead _
  apply Settles.bind (Settles.decode _ _ (decodeTokenAccount_total _ _))
  intro sourceLiquidity _
  apply Settles.bind (Settles.read _ _)
  intro collateralRead _
  apply Settles.bind (Settles.decode _ _ (decodeTokenAccount_total _ _))
  intro collateral _
  exact Settles.pure trivial

/-! ## Only a ready plan gives a ready row -/

theorem classificationLabel_ne_ready {classification : CandidateClassification}
    (hclass : classification ≠ .ready) : classificationLabel classification ≠ "ready" := by
  cases classification <;> simp_all [classificationLabel]

/-- Validation ends because the prepared report has both deadlines. -/
theorem validateChain_settles
    (hprepared : preflightCandidate input clocks = .needsChain prepared) (facts : ChainFacts)
    (finalClocks : ClockSnapshot) :
    ∃ outcome, validateChain prepared facts finalClocks = some outcome ∧
      (∀ report, outcome = .blocked report → report.classification ≠ .ready) ∧
      ∀ plan, outcome = .ready plan → plan.report.intentId = prepared.report.intentId := by
  obtain ⟨funding, rule, deposit, rate, _, _, rfl⟩ := prepared_of_needsChain hprepared
  obtain ⟨report, hreport, houtcome⟩ := validateChain_eq ⟨funding, rule.delegatedWallet, deposit,
    ⟨rate.comparison, rate.thresholdBps, rate.maxReserveStalenessSlots⟩,
    joinedReport funding rule clocks⟩ (fundingExpiresAtMs_joinedReport ..)
    (ruleExpiresAtSlot_joinedReport ..) rfl
  rw [houtcome]
  split
  next hfound =>
    refine ⟨_, rfl, ?_, ?_⟩
    · intro other hother
      cases hother
      rw [hreport]
      exact primaryClassification_ne_ready hfound
    · intro plan hplan
      cases hplan
  next =>
    refine ⟨_, rfl, ?_, ?_⟩
    · intro other hother
      cases hother
    · intro plan hplan
      cases hplan
      rw [hreport]
      rfl

/-- An inspection of a prepared candidate ends, and a ready row names it. -/
theorem inspectCandidate_settles
    (hprepared : preflightCandidate input clocks = .needsChain prepared) :
    ∃ inspection, inspectCandidate platform prepared readings false = some inspection ∧
      (inspection.row.status = "ready" → inspection.row.intentId = prepared.report.intentId) := by
  apply Inspect.finish_settles
  apply Settles.bind readChainFacts_settles
  intro facts _
  apply Settles.bind (Settles.read _ _)
  intro finalSlot _
  obtain ⟨outcome, houtcome, hblocked, hready⟩ :=
    validateChain_settles hprepared facts ⟨readings.finalNowMs, finalSlot⟩
  rw [houtcome]
  apply Settles.bind (Settles.lift outcome)
  intro other hother
  rw [hother]
  cases outcome with
  | blocked report =>
      apply Settles.pure
      intro hstatus
      exact absurd hstatus (classificationLabel_ne_ready (hblocked report rfl))
  | ready plan =>
      apply Settles.pure
      intro _
      exact hready plan rfl

end

/-! ## A listed funding row -/

/-- A prepared deposit is reported under the id of its funding row. -/
theorem intentId_of_needsChain {funding : FundingSnapshot} {rule : WatchRule}
    (hprepared : preflightCandidate ⟨some funding, some rule⟩ clocks = .needsChain prepared) :
    prepared.report.intentId = some funding.intentId := by
  obtain ⟨other, _, _, _, hinput, _, rfl⟩ := prepared_of_needsChain hprepared
  cases hinput
  rfl

/-- Preflight blocks a pair for a finding, and a finding is never ready. -/
theorem classification_ne_ready_of_blocked {funding : FundingSnapshot} {rule : WatchRule}
    {report : CandidateReport}
    (hblocked : preflightCandidate ⟨some funding, some rule⟩ clocks = .blocked report) :
    report.classification ≠ .ready := by
  by_cases hfound : (joinedFindings funding rule clocks).2 = []
  · obtain ⟨deposit, rate, hadmissible⟩ := admissible_of_joinedFindings hfound
    rw [preflightCandidate_of_admissible hadmissible] at hblocked
    cases hblocked
  · rw [preflightCandidate_of_findings hfound] at hblocked
    cases hblocked
    exact primaryClassification_ne_ready hfound

theorem intentId_of_fundingSnapshot {intent : W5hFundingIntent} {funding : FundingSnapshot}
    (hsnapshot : fundingSnapshot intent = .ok funding) : funding.intentId = intent.intentId := by
  unfold fundingSnapshot at hsnapshot
  split at hsnapshot
  next => cases hsnapshot
  next =>
    split at hsnapshot
    next => cases hsnapshot
    next =>
      cases hsnapshot
      rfl

theorem ruleIdHex_of_exactRuleId {text : String} {ruleId : Bytes 16}
    (hexact : exactRuleId text = some ruleId) : ruleIdHex ruleId = text := by
  unfold exactRuleId at hexact
  split at hexact
  next => cases hexact
  next hshape =>
    push Not at hshape
    obtain ⟨hlength, hlower⟩ := hshape
    have hbytes : ∀ byte ∈ utf8Bytes text, Sidecar.isLowerHex byte = true := by
      simpa using hlower
    obtain ⟨value, hpairs, htext⟩ := Sidecar.hexPairs_isLowerHex (by rw [hlength]) hbytes
    have hdecode : hexDecode text = .ok value := by
      rw [hexDecode, if_neg (by simp [hlength]), hpairs]
    rw [hdecode] at hexact
    simp only [Option.dite_none_right_eq_some, Option.some.injEq] at hexact
    obtain ⟨hsixteen, rfl⟩ := hexact
    exact utf8Bytes_inj htext

theorem lookup_of_exactRuleId {json : RuleJson} {left right : WatchRuleTable} {text : String}
    {ruleId : Bytes 16} (hexact : exactRuleId text = some ruleId)
    (hagree : left.get text = right.get text) : left.lookup json ruleId = right.lookup json ruleId := by
  have hid := ruleIdHex_of_exactRuleId hexact
  rw [WatchRuleTable.lookup, WatchRuleTable.lookup, hid, hagree]

section

variable {platform : ScanPlatform} {rules : WatchRuleTable} {funding : W5hFundingIntent}
  {readings : ScanReadings} {slot : Option UInt64} {errorClass : Option String}

/-- A row that is not even ready needs no name. -/
theorem exists_blocked {intentId : Option String} {row : WatchRowReport}
    (hrow : row.status ≠ "ready") :
    ∃ inspection, some (CandidateInspection.blocked row) = some inspection ∧
      (inspection.row.status = "ready" → inspection.row.intentId = intentId) := by
  refine ⟨_, rfl, ?_⟩
  intro hready
  exact absurd hready hrow

/-- Inspecting a listed row ends, and a ready row names the row inspected. -/
theorem inspectFundingCandidate_settles :
    ∃ inspection, inspectFundingCandidate platform rules funding readings slot errorClass false =
        some inspection ∧
      (inspection.row.status = "ready" → inspection.row.intentId = some funding.intentId) := by
  have herror : ∀ status errorClass, status ≠ "ready" → ∃ inspection,
      some (CandidateInspection.blocked (.error status errorClass (some funding.intentId)
        (some funding.ruleIdHex))) = some inspection ∧
      (inspection.row.status = "ready" → inspection.row.intentId = some funding.intentId) :=
    fun _ _ hstatus => exists_blocked hstatus
  have hlifecycle : ∀ (row : WatchRowReport) lifecycle, row.status ≠ "ready" → ∃ inspection,
      some (CandidateInspection.blocked (row.withLifecycle lifecycle)) = some inspection ∧
      (inspection.row.status = "ready" → inspection.row.intentId = some funding.intentId) :=
    fun _ _ hstatus => exists_blocked hstatus
  unfold inspectFundingCandidate
  dsimp only
  split
  next => exact herror _ _ (by simp)
  next =>
    split
    next => exact herror _ _ (by simp)
    next =>
      split
      next => exact herror _ _ (by simp)
      next => exact exists_blocked (by simp [WatchRowReport.databaseOnly])
      next stored _ =>
        split
        next => exact hlifecycle _ _ (by simp [WatchRowReport.error, WatchRowReport.databaseOnly])
        next =>
          split
          next => exact hlifecycle _ _ (by simp [WatchRowReport.error, WatchRowReport.databaseOnly])
          next snapshot hsnapshot =>
            cases hpreflight : preflightCandidate ⟨some snapshot, some stored.rule⟩
                ⟨(readings.candidate funding.intentId).preflightNowMs, slot⟩ with
            | blocked report =>
                exact hlifecycle (.fromCandidate report) _
                  (classificationLabel_ne_ready (classification_ne_ready_of_blocked hpreflight))
            | needsChain prepared =>
                dsimp only
                split
                next => exact hlifecycle _ _ (by simp [WatchRowReport.error, WatchRowReport.databaseOnly])
                next =>
                  obtain ⟨inspection, hinspection, hready⟩ :
                      ∃ inspection, inspectCandidate platform prepared
                          (readings.candidate funding.intentId) false = some inspection ∧ _ :=
                    inspectCandidate_settles hpreflight
                  rw [hinspection]
                  refine ⟨inspection.withLifecycle _, rfl, ?_⟩
                  intro hstatus
                  rw [← intentId_of_fundingSnapshot hsnapshot, ← intentId_of_needsChain hpreflight]
                  exact hready hstatus

theorem intentId_of_ready {inspection : CandidateInspection}
    (hinspection : inspectFundingCandidate platform rules funding readings slot errorClass false =
      some inspection) (hready : inspection.row.status = "ready") :
    inspection.row.intentId = some funding.intentId := by
  obtain ⟨other, hother, hname⟩ : ∃ inspection, inspectFundingCandidate platform rules funding
      readings slot errorClass false = some inspection ∧ _ := inspectFundingCandidate_settles
  rw [hinspection] at hother
  cases hother
  exact hname hready

/-- Besides its funding row, an inspection reads the rule it names and the
readings for it. -/
theorem inspectFundingCandidate_congr {left right : WatchRuleTable}
    {leftReadings rightReadings : ScanReadings} {assembleUnsigned : Bool}
    (hrule : left.get funding.ruleIdHex = right.get funding.ruleIdHex)
    (hslot : leftReadings.confirmedSlot = rightReadings.confirmedSlot)
    (hcandidate : leftReadings.candidate funding.intentId =
      rightReadings.candidate funding.intentId) :
    inspectFundingCandidate platform left funding leftReadings slot errorClass assembleUnsigned =
      inspectFundingCandidate platform right funding rightReadings slot errorClass
        assembleUnsigned := by
  unfold inspectFundingCandidate
  dsimp only
  rw [hslot, hcandidate]
  by_cases hid : funding.intentId = funding.ruleIdHex
  · cases hexact : exactRuleId funding.intentId with
    | none => simp only [hid]
    | some ruleId =>
        dsimp only
        rw [lookup_of_exactRuleId hexact (hid ▸ hrule)]
  · rw [if_pos hid, if_pos hid]

end

/-! ## Listings -/

section

variable {Row α : Type} (select : Row → Bool) (decode : Row → Except StoreError α)

/-- The selected rows fit the limit and all of them decode. -/
def AllListed (rows : List Row) : Prop :=
  (rows.filter select).length ≤ watchBatchLimit ∧
    ∀ row ∈ rows, select row = true → ∃ value, decode row = .ok value

variable {select decode} {before : Row → Row → Bool} {rows : List Row} {table : String}

/-- A listing that fits is the decoded selected rows, in some order. -/
theorem boundedScan_of_allListed (hlisted : AllListed select decode rows) :
    ∃ values, boundedScan table ((((rows.filter select).mergeSort before).take
        watchFetchLimit.toNat).mapM decode) = (values, []) ∧
      ((rows.filter select).mergeSort before).mapM decode = .ok values := by
  obtain ⟨hlength, hdecode⟩ := hlisted
  have htake : ((rows.filter select).mergeSort before).take watchFetchLimit.toNat =
      (rows.filter select).mergeSort before := by
    apply List.take_of_length_le
    rw [List.length_mergeSort]
    exact hlength.trans (by decide)
  have hall : ∀ row ∈ (rows.filter select).mergeSort before, ∃ value, decode row = .ok value := by
    intro row hrow
    rw [List.mem_mergeSort, List.mem_filter] at hrow
    exact hdecode row hrow.1 hrow.2
  obtain ⟨values, hvalues⟩ := exists_mapM_eq_ok hall
  have hfits : ¬ watchBatchLimit < values.length := by
    rw [← (mapM_eq_ok.mp hvalues).length_eq, List.length_mergeSort]
    omega
  refine ⟨values, ?_, hvalues⟩
  rw [htake, hvalues]
  simp [boundedScan, hfits]

/-- A scan without an error has listed everything. -/
theorem allListed_of_boundedScan
    (hscan : (boundedScan table ((((rows.filter select).mergeSort before).take
      watchFetchLimit.toNat).mapM decode)).2 = []) : AllListed select decode rows := by
  cases hlist : (((rows.filter select).mergeSort before).take watchFetchLimit.toNat).mapM decode with
  | error error => simp [hlist, boundedScan] at hscan
  | ok values =>
      have hfits : values.length ≤ watchBatchLimit := by
        by_contra hlong
        simp [hlist, boundedScan, not_le.mp hlong] at hscan
      -- the fetch limit is one more than the batch limit, so nothing was cut off
      have hlength : (rows.filter select).length ≤ watchBatchLimit := by
        have hcut := (mapM_eq_ok.mp hlist).length_eq
        rw [List.length_take, List.length_mergeSort] at hcut
        have hfetch : watchFetchLimit.toNat = watchBatchLimit + 1 := by decide
        omega
      have htake : ((rows.filter select).mergeSort before).take watchFetchLimit.toNat =
          (rows.filter select).mergeSort before := by
        apply List.take_of_length_le
        rw [List.length_mergeSort]
        exact hlength.trans (by decide)
      refine ⟨hlength, ?_⟩
      intro row hrow hselect
      rw [htake] at hlist
      have hmem : row ∈ (rows.filter select).mergeSort before := by
        simp [hrow, hselect]
      obtain ⟨value, _, hvalue⟩ := exists_of_mapM_eq_ok hlist hmem
      exact ⟨value, hvalue⟩

end

/-! ## Which intents a cycle takes -/

theorem orphanRow_ne_ready {funding : W5hFundingTable} {stored : StoredWatchRule}
    {row : WatchRowReport} (hrow : orphanRow funding stored = some row) : row.status ≠ "ready" := by
  unfold orphanRow at hrow
  dsimp only at hrow
  split at hrow
  next => cases hrow
  next =>
    cases hrow
    simp [WatchRowReport.withLifecycle, WatchRowReport.databaseOnly]
  next =>
    cases hrow
    simp [WatchRowReport.withLifecycle, WatchRowReport.error, WatchRowReport.databaseOnly]

/-- Rows with distinct ids are all taken, in their order. -/
theorem collectReady_eq {rows : List WatchRowReport} {ids taken : List String}
    (hids : rows.map WatchRowReport.intentId = ids.map some) (hnodup : (taken ++ ids).Nodup) :
    collectReady rows taken = .ok (taken ++ ids) := by
  induction rows generalizing ids taken with
  | nil =>
      have hnil : ids = [] := by simpa using hids.symm
      simp [collectReady, hnil]
  | cons row rows ih =>
      cases ids with
      | nil => simp at hids
      | cons id ids =>
          simp only [List.map_cons, List.cons.injEq] at hids
          have hfresh : id ∉ taken := by
            intro htaken
            exact List.disjoint_of_nodup_append hnodup htaken (List.mem_cons_self ..)
          have hshift : taken ++ id :: ids = (taken ++ [id]) ++ ids := by simp
          rw [collectReady, hids.1]
          simp only [List.contains_iff_mem, hfresh, if_false]
          rw [hshift]
          apply ih hids.2
          rwa [← hshift]

section

variable {inspect : W5hFundingIntent → Option CandidateInspection}

/-- The ready rows of a scan name the inspected rows that are ready. -/
theorem exists_readyIds {fundings : List W5hFundingIntent}
    {inspections : List CandidateInspection}
    (hall : List.Forall₂ (fun funding inspection => inspect funding = some inspection) fundings
      inspections)
    (hnames : ∀ funding inspection, inspect funding = some inspection →
      inspection.row.status = "ready" → inspection.row.intentId = some funding.intentId) :
    ∃ ids : List String,
      ((inspections.map CandidateInspection.row).filter fun row => row.status = "ready").map
          WatchRowReport.intentId = ids.map some ∧
      ids.Sublist (fundings.map W5hFundingIntent.intentId) ∧
      ∀ id, id ∈ ids ↔ ∃ funding ∈ fundings, funding.intentId = id ∧
        ∃ inspection, inspect funding = some inspection ∧ inspection.row.status = "ready" := by
  induction hall with
  | nil => exact ⟨[], by simp, by simp, by simp⟩
  | @cons funding inspection fundings inspections hfirst _ ih =>
      obtain ⟨ids, hids, hsublist, hmem⟩ := ih
      by_cases hready : inspection.row.status = "ready"
      · refine ⟨funding.intentId :: ids, ?_, ?_, ?_⟩
        · simp [hready, hids, hnames funding inspection hfirst hready]
        · simpa using hsublist
        · intro id
          simp [hmem, hfirst, hready, eq_comm]
      · refine ⟨ids, ?_, ?_, ?_⟩
        · simpa [hready] using hids
        · exact hsublist.trans (by simp)
        · intro id
          simp [hmem, hfirst, hready]

end

/-- Both listings are complete: neither is cut off and every listed row decodes. -/
def WatchStore.ScanComplete (json : RuleJson) (store : WatchStore) : Prop :=
  AllListed (fun row => row.status = .budgetReserved) rowToIntent store.funding.rows ∧
    AllListed isPending (rowToStored json) store.rules.rows

/-- An execute-mode cycle takes the intent. -/
def Selects (platform : ScanPlatform) (readings : ScanReadings) (store : WatchStore)
    (intentId : String) : Prop :=
  ∃ report ids, scanCycle platform .executePreflight readings store = some report ∧
    executeReadyIntentIds report = .ok ids ∧ intentId ∈ ids

/-- The intent's own row and rule make it ready. -/
def ReadyAlone (platform : ScanPlatform) (readings : ScanReadings) (store : WatchStore)
    (intentId : String) : Prop :=
  ∃ row intent inspection, store.funding.get intentId = some row ∧
    row.status = .budgetReserved ∧ rowToIntent row = .ok intent ∧
    inspectFundingCandidate platform store.rules intent readings readings.sampleSlot.1
      readings.sampleSlot.2 false = some inspection ∧ inspection.row.status = "ready"

section

variable {platform : ScanPlatform} {readings : ScanReadings} {store : WatchStore}

/-- A cycle ends: it reports the inspected rows, then the orphan rules. -/
theorem exists_scanCycle :
    ∃ report inspections, scanCycle platform .executePreflight readings store = some report ∧
      List.Forall₂ (fun funding inspection => inspectFundingCandidate platform store.rules funding
        readings readings.sampleSlot.1 readings.sampleSlot.2 false = some inspection)
        store.scanFunding.1 inspections ∧
      report.rows = inspections.map CandidateInspection.row ++
        (store.scanRules platform.json).1.filterMap (orphanRow store.funding) ∧
      report.scanErrors = store.scanFunding.2 ++ (store.scanRules platform.json).2 := by
  have hinspect : ∀ funding ∈ store.scanFunding.1, ∃ inspection, inspectFundingCandidate platform
      store.rules funding readings readings.sampleSlot.1 readings.sampleSlot.2 false =
        some inspection := by
    intro funding _
    obtain ⟨inspection, hinspection, _⟩ := inspectFundingCandidate_settles
    exact ⟨inspection, hinspection⟩
  obtain ⟨inspections, hinspections⟩ := exists_mapM_eq_some hinspect
  have hmode : ScanMode.executePreflight.assembleUnsigned = false := by decide
  have hcycle : ∃ report, scanCycle platform .executePreflight readings store = some report ∧
      report.rows = inspections.map CandidateInspection.row ++
        (store.scanRules platform.json).1.filterMap (orphanRow store.funding) ∧
      report.scanErrors = store.scanFunding.2 ++ (store.scanRules platform.json).2 := by
    simp [scanCycle, hmode, hinspections]
  obtain ⟨report, hreport, hrows, herrors⟩ := hcycle
  exact ⟨report, inspections, hreport, mapM_eq_some.mp hinspections, hrows, herrors⟩

theorem scanErrors_eq_nil_iff :
    store.scanFunding.2 ++ (store.scanRules platform.json).2 = [] ↔
      store.ScanComplete platform.json := by
  rw [List.append_eq_nil_iff]
  constructor
  · intro ⟨hfunding, hrules⟩
    exact ⟨allListed_of_boundedScan hfunding, allListed_of_boundedScan hrules⟩
  · intro ⟨hfunding, hrules⟩
    obtain ⟨_, hfundingScan, _⟩ := boundedScan_of_allListed hfunding
    obtain ⟨_, hruleScan, _⟩ := boundedScan_of_allListed hrules
    constructor
    · exact congrArg Prod.snd hfundingScan
    · exact congrArg Prod.snd hruleScan

/-- A scan that is not complete is refused as a whole. -/
theorem scanUnsafe_of_not_complete (hincomplete : ¬ store.ScanComplete platform.json) :
    ∃ report, scanCycle platform .executePreflight readings store = some report ∧
      executeReadyIntentIds report = .error .scanUnsafe := by
  obtain ⟨report, _, hreport, _, _, herrors⟩ := exists_scanCycle
  refine ⟨report, hreport, ?_⟩
  have hsome : report.scanErrors ≠ [] := by
    intro hnone
    rw [herrors] at hnone
    exact hincomplete (scanErrors_eq_nil_iff.mp hnone)
  rw [executeReadyIntentIds, if_pos hsome]

/-- The listed fundings are the reserved rows, each under its own id. -/
theorem scanFunding_of_complete (hcomplete : store.ScanComplete platform.json) :
    (store.scanFunding.1.map W5hFundingIntent.intentId).Nodup ∧
      ∀ intent, intent ∈ store.scanFunding.1 ↔ ∃ row, store.funding.get intent.intentId = some row ∧
        row.status = .budgetReserved ∧ rowToIntent row = .ok intent := by
  obtain ⟨values, hscan, hvalues⟩ := boundedScan_of_allListed hcomplete.1
  have hfirst : store.scanFunding.1 = values := congrArg Prod.fst hscan
  have hid : ∀ {row : RowRaw} {intent}, rowToIntent row = .ok intent →
      row.intentId = intent.intentId := by
    intro row intent hrow
    obtain ⟨_, rfl⟩ := rowToIntent_ok.mp hrow
    rfl
  rw [hfirst]
  constructor
  · have hforall := mapM_eq_ok.mp hvalues
    have hmap := hforall.imp fun _ _ h => hid h
    rw [← List.forall₂_map_right_iff, ← List.forall₂_map_left_iff, List.forall₂_eq_eq_eq] at hmap
    rw [← hmap, ((List.mergeSort_perm _ _).map _).nodup_iff]
    exact (List.filter_sublist.map _).nodup store.funding.nodup
  · intro intent
    rw [mem_of_mapM_eq_ok hvalues]
    constructor
    · intro ⟨row, hmem, hrow⟩
      simp only [List.mem_mergeSort, List.mem_filter, decide_eq_true_eq] at hmem
      exact ⟨row, Table.get_eq_some_iff.mpr ⟨hmem.1, hid hrow⟩, hmem.2, hrow⟩
    · intro ⟨row, hget, hstatus, hrow⟩
      refine ⟨row, ?_, hrow⟩
      simp [Table.mem_of_get hget, hstatus]

/-- A complete scan takes an intent for what is its own. -/
theorem selects_iff_readyAlone (hcomplete : store.ScanComplete platform.json) {intentId : String} :
    Selects platform readings store intentId ↔ ReadyAlone platform readings store intentId := by
  obtain ⟨report, inspections, hreport, hinspections, hrows, herrors⟩ : ∃ report inspections,
      scanCycle platform .executePreflight readings store = some report ∧ _ := exists_scanCycle
  obtain ⟨hnodup, hlisted⟩ := scanFunding_of_complete hcomplete
  obtain ⟨ids, hids, hsublist, hmem⟩ := exists_readyIds hinspections fun _ _ => intentId_of_ready
  have horphans : ((store.scanRules platform.json).1.filterMap (orphanRow store.funding)).filter
      (fun row => row.status = "ready") = [] := by
    rw [List.filter_eq_nil_iff]
    intro row hrow
    obtain ⟨stored, _, horphan⟩ := List.mem_filterMap.mp hrow
    simpa using orphanRow_ne_ready horphan
  have htaken : executeReadyIntentIds report = .ok ids := by
    have hnone : ¬ report.scanErrors ≠ [] := by
      rw [herrors, not_not]
      exact scanErrors_eq_nil_iff.mpr hcomplete
    have hdistinct : ([] ++ ids).Nodup := by
      simpa using hsublist.nodup hnodup
    rw [executeReadyIntentIds, if_neg hnone, hrows, List.filter_append, horphans, List.append_nil,
      collectReady_eq hids hdistinct, List.nil_append]
  constructor
  · intro ⟨other, taken, hother, htakenOther, hselected⟩
    rw [hreport] at hother
    cases hother
    rw [htaken] at htakenOther
    cases htakenOther
    obtain ⟨intent, hintent, rfl, inspection, hinspection, hready⟩ := (hmem intentId).mp hselected
    obtain ⟨row, hget, hstatus, hrow⟩ := (hlisted intent).mp hintent
    exact ⟨row, intent, inspection, hget, hstatus, hrow, hinspection, hready⟩
  · intro ⟨row, intent, inspection, hget, hstatus, hrow, hinspection, hready⟩
    have hid : intent.intentId = intentId := by
      have hkey : row.intentId = intentId := Table.key_of_get hget
      rw [← (rowToIntent_ok.mp hrow).2, ← hkey]
      rfl
    have hintent : intent ∈ store.scanFunding.1 :=
      (hlisted intent).mpr ⟨row, hid ▸ hget, hstatus, hrow⟩
    exact ⟨report, ids, hreport, htaken,
      (hmem intentId).mpr ⟨intent, hintent, hid, inspection, hinspection, hready⟩⟩

end

end SolFrontier.Mcp
