import SolFrontier.RiskEngine.Policy

/-! # Caps on token amounts

The amounts of one mint are summed in a 64-bit word. A release build wraps the
sum and a build with overflow checks panics on it, so the cap is exact only
while the exact sum fits the word.
-/

namespace SolFrontier.RiskEngine

open Types

namespace PolicySet

/-- The amounts of the transfers of a mint. -/
def mintAmounts (context : PolicyEvaluationContext) (mint : String) : List UInt64 :=
  ((tokenTransfers context).filter fun transfer => transfer.mint = mint).map TokenTransfer.amount

/-- The exact amount of a mint that is transferred. -/
def exactTokenTotal (context : PolicyEvaluationContext) (mint : String) : Nat :=
  ((mintAmounts context mint).map UInt64.toNat).sum

/-- `Iterator::sum` in a build with overflow checks, from a running total; no
result is a panic. -/
def checkedSum (total : UInt64) : List UInt64 → Option UInt64
  | [] => some total
  | amount :: amounts =>
      if total.toNat + amount.toNat < 2 ^ 64 then checkedSum (total + amount) amounts else none

theorem toNat_sum (amounts : List UInt64) :
    amounts.sum.toNat = (amounts.map UInt64.toNat).sum % 2 ^ 64 := by
  induction amounts with
  | nil => rfl
  | cons amount amounts ih =>
      rw [List.sum_cons, List.map_cons, List.sum_cons, UInt64.toNat_add, ih, Nat.add_mod_mod]

theorem checkedSum_isSome_iff (total : UInt64) (amounts : List UInt64) :
    (checkedSum total amounts).isSome = true ↔
      total.toNat + (amounts.map UInt64.toNat).sum < 2 ^ 64 := by
  induction amounts generalizing total with
  | nil => simpa [checkedSum] using total.toNat_lt
  | cons amount amounts ih =>
      rw [checkedSum, List.map_cons, List.sum_cons]
      by_cases hfits : total.toNat + amount.toNat < 2 ^ 64
      · have hadd : (total + amount).toNat = total.toNat + amount.toNat := by
          rw [UInt64.toNat_add, Nat.mod_eq_of_lt hfits]
        rw [if_pos hfits, ih, hadd, Nat.add_assoc]
      · rw [if_neg hfits]
        constructor
        · intro hnone
          cases hnone
        · intro hsum
          omega

section Cap

variable (policy : PolicySet) (context : PolicyEvaluationContext) (now : Int)
  (name description : String) (action : PolicyAction) (mint : String) (threshold : UInt64)

theorem tokenAmountExceeds_matches :
    policy.conditionMatchesAt ⟨name, description, .tokenAmountExceeds mint threshold, action⟩
        context now = true ↔
      threshold.toNat ≤ exactTokenTotal context mint % 2 ^ 64 := by
  rw [exactTokenTotal, ← toNat_sum, ← UInt64.le_iff_toNat_le]
  exact decide_eq_true_iff

/-- The cap is exact in a release build, and evaluating it does not panic with
overflow checks, exactly while the exact sum fits the word. In a release build
alone a larger sum is judged rightly only if what remains of it after wrapping
reaches the threshold as well. -/
theorem tokenAmountExceeds_exact_iff :
    (((policy.conditionMatchesAt ⟨name, description, .tokenAmountExceeds mint threshold, action⟩
          context now = true ↔ threshold.toNat ≤ exactTokenTotal context mint) ∧
        (checkedSum 0 (mintAmounts context mint)).isSome = true) ↔
      exactTokenTotal context mint < 2 ^ 64) ∧
    ((policy.conditionMatchesAt ⟨name, description, .tokenAmountExceeds mint threshold, action⟩
          context now = true ↔ threshold.toNat ≤ exactTokenTotal context mint) ↔
      exactTokenTotal context mint < 2 ^ 64 ∨
        threshold.toNat ≤ exactTokenTotal context mint % 2 ^ 64) := by
  have hmatched := tokenAmountExceeds_matches policy context now name description action mint
    threshold
  have hpanics : (checkedSum 0 (mintAmounts context mint)).isSome = true ↔
      exactTokenTotal context mint < 2 ^ 64 := by
    simpa [exactTokenTotal] using checkedSum_isSome_iff 0 (mintAmounts context mint)
  generalize exactTokenTotal context mint = exact at hmatched hpanics ⊢
  have hword := threshold.toNat_lt
  by_cases hfits : exact < 2 ^ 64
  · have hmod : exact % 2 ^ 64 = exact := Nat.mod_eq_of_lt hfits
    simp only [hpanics, hmatched, hmod, hfits, true_or, iff_self, true_and]
  · -- Every threshold is below a sum that does not fit.
    have hexceeds : threshold.toNat ≤ exact := by omega
    simp only [hpanics, hmatched, hfits, hexceeds, and_false, iff_true, false_or, iff_self,
      and_self]

end Cap

/-- Two transfers of half the word wrap to nothing and pass a cap of one. -/
theorem tokenAmountExceeds_wraps :
    let transfer : InstructionSummary :=
      { programId := "TokenkegQfeZyiNwAJbNbGKPFXCWuBvf9Ss623VQ5DA"
        programName := none
        description := "transfer"
        transferLamports := none
        tokenTransfer := some ⟨"USDC", 9223372036854775808, some 6, "source", "destination"⟩
        isLegacyTokenTransfer := false
        accounts := [] }
    let context : PolicyEvaluationContext :=
      { proposal := ⟨"wallet", .mainnetBeta, "two transfers", [transfer, transfer]⟩
        simulationResult := none
        network := .mainnetBeta
        sessionSpendLamports := 0
        walletDailySpendLamports := 0 }
    permissiveDefault.conditionMatchesAt
        ⟨"cap", "", .tokenAmountExceeds "USDC" 1, .reject "too much"⟩ context 0 = false ∧
      exactTokenTotal context "USDC" = 2 ^ 64 ∧
      (checkedSum 0 (mintAmounts context "USDC")).isSome = false := by
  intro transfer context
  have hexact : exactTokenTotal context "USDC" = 2 ^ 64 := by
    simp [exactTokenTotal, mintAmounts, tokenTransfers, context, transfer]
  refine ⟨?_, hexact, ?_⟩
  · apply Bool.eq_false_iff.mpr
    intro hmatched
    rw [tokenAmountExceeds_matches, hexact] at hmatched
    simp at hmatched
  · apply Bool.eq_false_iff.mpr
    intro hsome
    have hfits := (checkedSum_isSome_iff 0 (mintAmounts context "USDC")).mp hsome
    have hsum : ((mintAmounts context "USDC").map UInt64.toNat).sum = 2 ^ 64 := hexact
    rw [hsum] at hfits
    simp at hfits

end PolicySet

end SolFrontier.RiskEngine
