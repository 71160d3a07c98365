import SolFrontier.RiskEngine.TokenCaps

/-! # Appended instructions

A proposal may grow by further instructions while its simulation stays. The list
conditions only gain witnesses. The amount condition reads the declared
transfers as soon as there is one, and the token condition the exact sum as long
as the word holds it.
-/

namespace SolFrontier.RiskEngine

open Types

namespace PolicyEvaluationContext

/-- The same context, its proposal longer by some instructions. -/
def append (context : PolicyEvaluationContext) (more : List InstructionSummary) :
    PolicyEvaluationContext :=
  { context with
    proposal :=
      { context.proposal with
        instructionsSummary := context.proposal.instructionsSummary ++ more } }

end PolicyEvaluationContext

namespace PolicySet

/-- The lamport amounts that instructions declare. -/
def declaredTransfers (summaries : List InstructionSummary) : List UInt64 :=
  summaries.filterMap InstructionSummary.transferLamports

/-- A sum that stays at the largest word once it reaches it. -/
def saturatingTotal (amounts : List UInt64) : UInt64 :=
  amounts.foldl (fun total amount => .ofNat (min (total.toNat + amount.toNat) (2 ^ 64 - 1))) 0

private theorem toNat_saturating (amounts : List UInt64) (total : UInt64) :
    (amounts.foldl (fun total amount => .ofNat (min (total.toNat + amount.toNat) (2 ^ 64 - 1)))
      total : UInt64).toNat = min (total.toNat + (amounts.map UInt64.toNat).sum) (2 ^ 64 - 1) := by
  induction amounts generalizing total with
  | nil =>
      have hlt := total.toNat_lt
      simp only [List.foldl_nil, List.map_nil, List.sum_nil]
      omega
  | cons amount amounts ih =>
      have hword : min (total.toNat + amount.toNat) (2 ^ 64 - 1) < 2 ^ 64 := by omega
      rw [List.foldl_cons, ih, UInt64.toNat_ofNat_of_lt' hword, List.map_cons, List.sum_cons]
      omega

theorem toNat_saturatingTotal (amounts : List UInt64) :
    (saturatingTotal amounts).toNat = min (amounts.map UInt64.toNat).sum (2 ^ 64 - 1) := by
  rw [saturatingTotal, toNat_saturating]
  simp

/-- Further transfers never lower a saturating total. -/
theorem saturatingTotal_le_append (amounts more : List UInt64) :
    saturatingTotal amounts ≤ saturatingTotal (amounts ++ more) := by
  rw [UInt64.le_iff_toNat_le, toNat_saturatingTotal, toNat_saturatingTotal, List.map_append,
    List.sum_append]
  omega

section Append

variable {context : PolicyEvaluationContext} {more : List InstructionSummary}

theorem declaredTransfers_append (summaries more : List InstructionSummary) :
    declaredTransfers (summaries ++ more) = declaredTransfers summaries ++ declaredTransfers more :=
  List.filterMap_append

theorem tokenTransfers_append :
    tokenTransfers (context.append more) =
      tokenTransfers context ++ more.filterMap InstructionSummary.tokenTransfer :=
  List.filterMap_append

/-- Declared transfers are what counts as soon as there is one. -/
theorem transferAmountLamports_of_declared
    (hdeclared : declaredTransfers context.proposal.instructionsSummary ≠ []) :
    transferAmountLamports context =
      some (saturatingTotal (declaredTransfers context.proposal.instructionsSummary)) := by
  have hsome : (declaredTransfers context.proposal.instructionsSummary).isEmpty = false := by
    simpa using hdeclared
  rw [transferAmountLamports]
  exact if_pos (by rw [Bool.not_eq_true', ← hsome]; rfl)

/-- Instructions that declare nothing leave the amount as it was. -/
theorem transferAmountLamports_append (hsilent : declaredTransfers more = []) :
    transferAmountLamports (context.append more) = transferAmountLamports context := by
  have hsame : (context.append more).proposal.instructionsSummary.filterMap
      InstructionSummary.transferLamports =
        context.proposal.instructionsSummary.filterMap InstructionSummary.transferLamports := by
    have hjoined := declaredTransfers_append context.proposal.instructionsSummary more
    rwa [hsilent, List.append_nil] at hjoined
  simp only [transferAmountLamports, hsame]
  rfl

theorem exactTokenTotal_le_append (mint : String) :
    exactTokenTotal context mint ≤ exactTokenTotal (context.append more) mint := by
  simp only [exactTokenTotal, mintAmounts, tokenTransfers_append, List.filter_append,
    List.map_append, List.sum_append]
  omega

end Append

/-- The conditions that further instructions cannot turn off. -/
inductive Steady (context : PolicyEvaluationContext) (more : List InstructionSummary) :
    PolicyCondition → Prop
  | program : Steady context more .programNotInAllowlist
  | destination : Steady context more .destinationInDenylist
  | mint (allowedMints : List String) : Steady context more (.mintNotInAllowlist allowedMints)
  | legacy : Steady context more .legacyTokenTransferPresent
  /-- The proposal declares a transfer already, or none is appended. -/
  | lamports (threshold : UInt64) :
      declaredTransfers context.proposal.instructionsSummary ≠ [] ∨ declaredTransfers more = [] →
      Steady context more (.amountExceedsLamports threshold)
  | token (mint : String) (threshold : UInt64) :
      exactTokenTotal (context.append more) mint < 2 ^ 64 →
      Steady context more (.tokenAmountExceeds mint threshold)

section Matches

variable {policy : PolicySet} {rule : PolicyRule} {context : PolicyEvaluationContext}
  {more : List InstructionSummary} {now : Int}

theorem amountExceedsLamports_matches {threshold : UInt64}
    (hrule : rule.condition = .amountExceedsLamports threshold) :
    policy.conditionMatchesAt rule context now = true ↔
      ∃ amount, transferAmountLamports context = some amount ∧ threshold ≤ amount := by
  rw [conditionMatchesAt, hrule]
  cases transferAmountLamports context <;> simp

/-- A matched steady condition still matches the longer proposal. -/
theorem steady_still_matches (hsteady : Steady context more rule.condition)
    (hmatch : policy.conditionMatchesAt rule context now = true) :
    policy.conditionMatchesAt rule (context.append more) now = true := by
  obtain ⟨name, description, condition, action⟩ := rule
  cases hsteady with
  | program =>
      obtain ⟨hlist, hany⟩ := Bool.and_eq_true_iff.mp hmatch
      refine Bool.and_eq_true_iff.mpr ⟨hlist, ?_⟩
      show (context.proposal.instructionsSummary ++ more).any _ = true
      rw [List.any_append, hany, Bool.true_or]
  | destination =>
      obtain ⟨hlist, hany⟩ := Bool.and_eq_true_iff.mp hmatch
      refine Bool.and_eq_true_iff.mpr ⟨hlist, ?_⟩
      show ((context.proposal.instructionsSummary ++ more).flatMap _).any _ = true
      rw [List.flatMap_append, List.any_append, hany, Bool.true_or]
  | mint allowedMints =>
      obtain ⟨hlist, hany⟩ := Bool.and_eq_true_iff.mp hmatch
      refine Bool.and_eq_true_iff.mpr ⟨hlist, ?_⟩
      rw [tokenTransfers_append, List.any_append, hany, Bool.true_or]
  | legacy =>
      show (context.proposal.instructionsSummary ++ more).any _ = true
      have hany : context.proposal.instructionsSummary.any
        InstructionSummary.isLegacyTokenTransfer = true := hmatch
      rw [List.any_append, hany, Bool.true_or]
  | lamports threshold hdeclared =>
      obtain ⟨amount, hamount, hreached⟩ := (amountExceedsLamports_matches rfl).mp hmatch
      refine (amountExceedsLamports_matches rfl).mpr ?_
      rcases hdeclared with hsome | hsilent
      · -- The amount is that of the declared transfers, before and after.
        have hjoined := declaredTransfers_append context.proposal.instructionsSummary more
        have hboth : declaredTransfers (context.append more).proposal.instructionsSummary ≠ [] := by
          show declaredTransfers (context.proposal.instructionsSummary ++ more) ≠ []
          rw [hjoined]
          exact List.append_ne_nil_of_left_ne_nil hsome _
        obtain rfl := Option.some.inj ((transferAmountLamports_of_declared hsome).symm.trans hamount)
        refine ⟨_, transferAmountLamports_of_declared hboth, ?_⟩
        show threshold ≤ saturatingTotal
          (declaredTransfers (context.proposal.instructionsSummary ++ more))
        rw [hjoined]
        exact UInt64.le_trans hreached (saturatingTotal_le_append _ _)
      · exact ⟨amount, (transferAmountLamports_append hsilent).trans hamount, hreached⟩
  | token mint threshold hfits =>
      have hbefore := (tokenAmountExceeds_matches policy context now name description action mint
        threshold).mp hmatch
      refine (tokenAmountExceeds_matches policy (context.append more) now name description action
        mint threshold).mpr ?_
      rw [Nat.mod_eq_of_lt hfits]
      calc threshold.toNat
        _ ≤ exactTokenTotal context mint % 2 ^ 64 := hbefore
        _ ≤ exactTokenTotal context mint := Nat.mod_le _ _
        _ ≤ exactTokenTotal (context.append more) mint := exactTokenTotal_le_append mint

/-- Appended instructions never turn a matched condition off, as long as they
are not the first to declare a transfer and the token sum fits its word. The
first declared transfer replaces the simulated outflow. -/
theorem appended_instructions_match (policy : PolicySet) (rule : PolicyRule)
    (context : PolicyEvaluationContext) (more : List InstructionSummary) (now : Int) :
    (Steady context more rule.condition → policy.conditionMatchesAt rule context now = true →
      policy.conditionMatchesAt rule (context.append more) now = true) ∧
    ∀ threshold, rule.condition = .amountExceedsLamports threshold →
      declaredTransfers context.proposal.instructionsSummary = [] → declaredTransfers more ≠ [] →
      (policy.conditionMatchesAt rule (context.append more) now = true ↔
        threshold ≤ saturatingTotal (declaredTransfers more)) := by
  refine ⟨steady_still_matches, ?_⟩
  intro threshold hrule hnone hsome
  have hjoined : declaredTransfers (context.append more).proposal.instructionsSummary =
      declaredTransfers more := by
    rw [← List.nil_append (declaredTransfers more), ← hnone]
    exact declaredTransfers_append _ _
  have hdeclared : declaredTransfers (context.append more).proposal.instructionsSummary ≠ [] :=
    hjoined ▸ hsome
  rw [amountExceedsLamports_matches hrule, transferAmountLamports_of_declared hdeclared, hjoined]
  simp

end Matches

/-! ## The first declared transfer -/

/-- A simulated outflow of a thousand lamports meets a cap of five hundred until
an instruction that declares one lamport is appended. -/
theorem declared_transfer_hides_outflow :
    let outflow : SimulationResult :=
      { success := true
        error := none
        computeUnitsUsed := none
        logs := []
        returnData := none
        accountDiffs := [⟨"wallet", some 3000, some 2000, false⟩]
        feeLamports := none }
    let context : PolicyEvaluationContext :=
      { proposal := ⟨"wallet", .mainnetBeta, "swap", []⟩
        simulationResult := some outflow
        network := .mainnetBeta
        sessionSpendLamports := 0
        walletDailySpendLamports := 0 }
    let transfer : InstructionSummary :=
      { programId := "11111111111111111111111111111111"
        programName := none
        description := "transfer"
        transferLamports := some 1
        tokenTransfer := none
        isLegacyTokenTransfer := false
        accounts := [] }
    let cap : PolicyRule := ⟨"cap", "", .amountExceedsLamports 500, .reject "too much"⟩
    permissiveDefault.conditionMatchesAt cap context 0 = true ∧
      permissiveDefault.conditionMatchesAt cap (context.append [transfer]) 0 = false := by
  decide

end PolicySet

end SolFrontier.RiskEngine
