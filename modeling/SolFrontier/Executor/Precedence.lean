import Mathlib.Data.List.Nodup
import SolFrontier.Executor.Report
import SolFrontier.Foundation.FirstMatch

/-! # Precedence of findings

The tests of the primary classification are a table read from its first row: a
row is taken when some finding has one of its codes. Every code is in a row, so
findings move the first row taken forward and never past the end.
-/

namespace SolFrontier.Executor

open Foundation

/-- A class with the codes of the findings that call for it. -/
structure PrecedenceRow where
  classification : CandidateClassification
  codes : List FindingCode

/-- The classes in the order in which they are tested. -/
def precedenceTable : List PrecedenceRow :=
  [ ⟨.orphanFundingOnly, [.orphanFundingOnly]⟩,
    ⟨.orphanRuleOnly, [.orphanRuleOnly]⟩,
    ⟨.emptyCandidate, [.emptyCandidate]⟩,
    ⟨.unsupportedAction, [.unsupportedAction]⟩,
    ⟨.unsupportedRuleEnvelope,
      [.unsupportedSchemaVersion, .multiUseRule, .usedAmountNonZero, .thresholdOutOfRange,
        .controlledWalletEnvelopeMismatch, .unsupportedSolendProgram, .unsupportedInputMint]⟩,
    ⟨.unsupportedCondition,
      [.unsupportedConditionShape, .unsupportedFormulaVersion, .unsupportedRateKind,
        .refreshNotRequired]⟩,
    ⟨.hashMismatch, [.canonicalHashMismatch]⟩,
    ⟨.identityMismatch,
      [.ruleIdMismatch, .conditionActionMismatch, .conditionFundingMismatch,
        .controlledWalletMismatch]⟩,
    ⟨.amountMismatch, [.amountMismatch, .amountZero]⟩,
    ⟨.wallClockExpired, [.wallClockExpired]⟩,
    ⟨.slotExpired, [.slotExpired]⟩,
    ⟨.clockUnavailable, [.confirmedSlotUnavailable]⟩,
    ⟨.reserveStale, [.reserveExplicitlyStale, .reserveSlotAhead, .reserveTooOld]⟩,
    ⟨.ataMissing, [.ataMissing]⟩,
    ⟨.accountMissing, [.accountMissing]⟩,
    ⟨.accountMismatch,
      [.reserveIdentityMismatch, .obligationIdentityMismatch, .sourceAtaMismatch,
        .sourceTokenMismatch, .collateralAtaMismatch, .collateralTokenMismatch,
        .unsupportedMintDecimals, .unsupportedTokenProgram]⟩,
    ⟨.sourceBalanceInsufficient, [.sourceBalanceInsufficient]⟩,
    ⟨.conditionNotMet, [.conditionNotMet]⟩ ]

/-- The place of a class among the tests, the first being the most severe. The
class without a test comes behind all of them. -/
def CandidateClassification.rank (classification : CandidateClassification) : Nat :=
  (precedenceTable.map (·.classification)).idxOf classification

/-- Whether some finding has a code of the row. -/
abbrev reported (findings : List CandidateFinding) (row : PrecedenceRow) : Bool :=
  has findings row.codes

variable {findings more : List CandidateFinding} {row : PrecedenceRow} {index : Nat}

theorem elim_find?_cons (test : PrecedenceRow → Bool) (row : PrecedenceRow)
    (rest : List PrecedenceRow) (default : CandidateClassification) :
    ((row :: rest).find? test).elim default (·.classification) =
      if test row then row.classification
      else (rest.find? test).elim default (·.classification) := by
  rw [List.find?_cons]
  cases htest : test row <;> rfl

/-- The chain of tests takes the first row that is called for. -/
theorem primaryClassification_eq (findings : List CandidateFinding) :
    primaryClassification findings =
      (precedenceTable.find? (reported findings)).elim .ready (·.classification) := by
  simp only [precedenceTable, elim_find?_cons]
  rfl

/-! ## The rows -/

theorem classifications_nodup : (precedenceTable.map (·.classification)).Nodup := by decide

theorem classification_ne_ready : ∀ row ∈ precedenceTable, row.classification ≠ .ready := by decide

/-- Every code calls for some class. -/
theorem exists_row (code : FindingCode) : ∃ row ∈ precedenceTable, code ∈ row.codes := by
  cases code <;> decide

theorem rank_classification (hrow : precedenceTable[index]? = some row) :
    row.classification.rank = index := by
  obtain ⟨hindex, rfl⟩ := List.getElem?_eq_some_iff.mp hrow
  have hlength : index < (precedenceTable.map (·.classification)).length := by simpa using hindex
  have hidx := classifications_nodup.idxOf_getElem index hlength
  rwa [List.getElem_map] at hidx

theorem rank_le_ready (classification : CandidateClassification) :
    classification.rank ≤ CandidateClassification.ready.rank := by
  have hready : CandidateClassification.ready.rank = precedenceTable.length := by decide
  rw [hready, ← List.length_map (·.classification)]
  exact List.idxOf_le_length

/-! ## Findings -/

theorem has_iff {needles : List FindingCode} :
    has findings needles = true ↔ ∃ finding ∈ findings, finding.code ∈ needles := by
  simp [has]

theorem has_mono {needles : List FindingCode} (hsubset : findings ⊆ more)
    (hhas : has findings needles = true) : has more needles = true := by
  obtain ⟨finding, hfinding, hcode⟩ := has_iff.mp hhas
  exact has_iff.mpr ⟨finding, hsubset hfinding, hcode⟩

theorem reported_congr {left right : List CandidateFinding}
    (hsame : ∀ finding, finding ∈ left ↔ finding ∈ right) : reported left = reported right := by
  funext row
  rw [Bool.eq_iff_iff]
  constructor
  · exact has_mono fun finding hfinding => (hsame finding).mp hfinding
  · exact has_mono fun finding hfinding => (hsame finding).mpr hfinding

theorem primaryClassification_of_firstMatch
    (hmatch : FirstMatch (reported findings) precedenceTable row index) :
    primaryClassification findings = row.classification := by
  rw [primaryClassification_eq, hmatch.find?_eq]
  rfl

/-- Any finding at all calls for some class. -/
theorem exists_firstMatch (hfound : findings ≠ []) :
    ∃ row index, FirstMatch (reported findings) precedenceTable row index := by
  rcases firstMatch_or_none (reported findings) precedenceTable with hmatch | hnone
  · exact hmatch
  · obtain ⟨finding, hfinding⟩ := List.exists_mem_of_ne_nil findings hfound
    obtain ⟨row, hrow, hcode⟩ := exists_row finding.code
    have hreported : reported findings row = true := has_iff.mpr ⟨finding, hfinding, hcode⟩
    exact absurd hreported (by simp [hnone row hrow])

/-- Every finding belongs to a class, so only a report without findings is ready. -/
theorem primaryClassification_ne_ready (hfound : findings ≠ []) :
    primaryClassification findings ≠ .ready := by
  obtain ⟨row, index, hmatch⟩ := exists_firstMatch hfound
  rw [primaryClassification_of_firstMatch hmatch]
  exact classification_ne_ready row (List.mem_of_getElem? hmatch.found)

/-- More findings move the class forward, if at all. -/
theorem rank_primaryClassification_mono (hsubset : findings ⊆ more) :
    (primaryClassification more).rank ≤ (primaryClassification findings).rank := by
  by_cases hfound : findings = []
  · rw [hfound]
    exact rank_le_ready _
  · obtain ⟨row, index, hmatch⟩ := exists_firstMatch hfound
    obtain ⟨other, position, hother, hle⟩ :=
      hmatch.of_weaker fun row hreported => has_mono hsubset hreported
    calc (primaryClassification more).rank
        = position := by
          rw [primaryClassification_of_firstMatch hother, rank_classification hother.found]
      _ ≤ index := hle
      _ = (primaryClassification findings).rank := by
          rw [primaryClassification_of_firstMatch hmatch, rank_classification hmatch.found]

/-- The class depends on which findings there are, not on their order or how often
each is reported: no finding is ready, any finding is not, and findings added
anywhere never lower the class in the order of the tests. -/
theorem primaryClassification_of_findings :
    (∀ findings, primaryClassification findings = .ready ↔ findings = []) ∧
      (∀ left right : List CandidateFinding,
        (∀ finding, finding ∈ left ↔ finding ∈ right) →
          primaryClassification left = primaryClassification right) ∧
      ∀ findings more : List CandidateFinding, findings ⊆ more →
        (primaryClassification more).rank ≤ (primaryClassification findings).rank := by
  refine ⟨?_, ?_, fun _ _ => rank_primaryClassification_mono⟩
  · intro findings
    constructor
    · intro hready
      by_contra hfound
      exact primaryClassification_ne_ready hfound hready
    · rintro rfl
      rfl
  · intro left right hsame
    rw [primaryClassification_eq, primaryClassification_eq, reported_congr hsame]

/-- A zero amount found beside an expired slot, in either order. -/
theorem primaryClassification_expired_and_zero :
    let expired : CandidateFinding :=
      ⟨.slotExpired, "final confirmed slot is at or beyond WatchRule.expires_at_slot"⟩
    let zero : CandidateFinding := ⟨.amountZero, "deposit amount must be non-zero"⟩
    primaryClassification [expired] ≠ .ready ∧
      primaryClassification [expired, zero] = primaryClassification [zero, expired, expired] ∧
        (primaryClassification [expired, zero]).rank ≤ (primaryClassification [expired]).rank := by
  intro expired zero
  obtain ⟨hready, hsame, hmono⟩ := primaryClassification_of_findings
  refine ⟨?_, hsame _ _ ?_, hmono _ _ ?_⟩
  · rw [ne_eq, hready]
    exact List.cons_ne_nil _ _
  · intro finding
    simp [or_comm]
  · intro finding hfinding
    exact List.mem_append_left [zero] hfinding

end SolFrontier.Executor
