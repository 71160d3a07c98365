import SolFrontier.Foundation.OrderStatistics
import SolFrontier.SolanaCore.Compute

/-! # Priority fees

The fee at a percentile is an order statistic of the recent ones. Its rank is
computed in words: as long as the product of the percentile and the number of
fees fits one, the fee is a quantile.
-/

namespace SolFrontier.SolanaCore

open Foundation

/-- Fees are ordered by their values. -/
local instance feeOrder : LinearOrder UInt64 where
  le_refl := fun fee => UInt64.le_refl fee
  le_trans := fun _ _ _ => UInt64.le_trans
  le_antisymm := fun _ _ => UInt64.le_antisymm
  le_total := UInt64.le_total
  lt_iff_le_not_ge := Std.LawfulOrderLT.lt_iff
  toDecidableLE := UInt64.decLe
  toDecidableLT := UInt64.decLt
  toDecidableEq := instDecidableEqUInt64

variable {fees other : List UInt64} {percentile lower : UInt8} {length : Nat}

/-! ## The index -/

theorem percentileIndex_lt (percentile : UInt8) (hlength : 0 < length) :
    percentileIndex percentile length < length := by
  rw [percentileIndex]
  omega

theorem toNat_product : (percentile.toUInt64 * .ofNat length).toNat =
    percentile.toNat * length % 2 ^ 64 := by
  rw [UInt64.toNat_mul, UInt8.toNat_toUInt64, UInt64.toNat_ofNat', Nat.mul_mod_mod]

/-- A product that wraps only gets smaller. -/
theorem percentileIndex_le :
    percentileIndex percentile length ≤ percentile.toNat * length / 100 := by
  have hproduct : (percentile.toUInt64 * .ofNat length).toNat ≤ percentile.toNat * length := by
    rw [toNat_product]
    exact Nat.mod_le _ _
  rw [percentileIndex, UInt64.toNat_div]
  exact (Nat.min_le_left _ _).trans (Nat.div_le_div_right hproduct)

/-- The product of words is the product, as long as that fits a word. -/
theorem toNat_product_eq_iff :
    (percentile.toUInt64 * .ofNat length).toNat = percentile.toNat * length ↔
      percentile.toNat * length < 2 ^ 64 := by
  rw [toNat_product]
  constructor
  · intro hexact
    rw [← hexact]
    exact Nat.mod_lt _ (Nat.two_pow_pos 64)
  · exact Nat.mod_eq_of_lt

theorem percentileIndex_eq (hproduct : percentile.toNat * length < 2 ^ 64) :
    percentileIndex percentile length = min (percentile.toNat * length / 100) (length - 1) := by
  rw [percentileIndex, UInt64.toNat_div, toNat_product_eq_iff.mpr hproduct]
  rfl

/-! ## The fee -/

/-- The fee is the one whose rank is the index. -/
theorem orderStatistic_percentileIndex (percentile : UInt8) (hfees : fees ≠ []) :
    orderStatistic fees (percentileIndex percentile fees.length) =
      some (estimatePercentile fees percentile) := by
  have hindex := percentileIndex_lt percentile (List.length_pos_iff.mpr hfees)
  obtain ⟨value, hvalue⟩ := exists_orderStatistic hindex
  rw [hvalue, estimatePercentile, List.length_insertionSort, List.getD_eq_getElem?_getD]
  rw [orderStatistic] at hvalue
  rw [hvalue, Option.getD_some]

theorem estimatePercentile_congr (hperm : fees.Perm other) :
    estimatePercentile fees percentile = estimatePercentile other percentile := by
  rw [estimatePercentile, insertionSort_congr hperm, estimatePercentile]

theorem estimatePercentile_mono (hfees : fees ≠ [])
    (hproduct : percentile.toNat * fees.length < 2 ^ 64) (hlower : lower ≤ percentile) :
    estimatePercentile fees lower ≤ estimatePercentile fees percentile := by
  have hle : lower.toNat * fees.length ≤ percentile.toNat * fees.length :=
    Nat.mul_le_mul_right _ (UInt8.le_iff_toNat_le.mp hlower)
  apply orderStatistic_mono (orderStatistic_percentileIndex lower hfees)
    (orderStatistic_percentileIndex percentile hfees)
  rw [percentileIndex_eq hproduct, percentileIndex_eq (Nat.lt_of_le_of_lt hle hproduct)]
  have hdiv := Nat.div_le_div_right (c := 100) hle
  omega

/-- What a percentile of the recent fees stands for: its index is computed without
overflow and lies in the list, and the fee there is a quantile that depends on
the fees as a collection and grows with the percentile. -/
structure TrueQuantile (fees : List UInt64) (percentile : UInt8) : Prop where
  exact : (percentile.toUInt64 * .ofNat fees.length).toNat = percentile.toNat * fees.length
  inside : percentileIndex percentile fees.length < fees.length
  quantile : IsQuantile fees percentile.toNat 100 (estimatePercentile fees percentile)
  unordered : ∀ other, fees.Perm other →
    estimatePercentile fees percentile = estimatePercentile other percentile
  monotone : ∀ lower ≤ percentile,
    estimatePercentile fees lower ≤ estimatePercentile fees percentile

/-- The fee is always one of the recent ones, whatever their order, with at most the
percentage of them below it, and the index never leaves the list. It is a true
quantile exactly as long as the product of the percentile and the number of fees
fits a word. -/
theorem estimatePercentile_trueQuantile (fees : List UInt64) (percentile : UInt8)
    (hfees : fees ≠ []) (hpercentile : percentile ≤ 100) :
    estimatePercentile fees percentile ∈ fees ∧
      100 * fees.countP (· < estimatePercentile fees percentile) ≤
        percentile.toNat * fees.length ∧
      percentileIndex percentile fees.length < fees.length ∧
      (∀ other, fees.Perm other →
        estimatePercentile fees percentile = estimatePercentile other percentile) ∧
      (TrueQuantile fees percentile ↔ percentile.toNat * fees.length < 2 ^ 64) := by
  have hinside := percentileIndex_lt percentile (List.length_pos_iff.mpr hfees)
  have hvalue := orderStatistic_percentileIndex percentile hfees
  refine ⟨mem_of_orderStatistic hvalue, below_of_rank_le hvalue percentileIndex_le, hinside,
    fun other => estimatePercentile_congr, ?_⟩
  constructor
  · intro hquantile
    exact toNat_product_eq_iff.mp hquantile.exact
  · intro hproduct
    rw [percentileIndex_eq hproduct] at hvalue
    exact
      { exact := toNat_product_eq_iff.mpr hproduct
        inside := hinside
        quantile :=
          isQuantile_orderStatistic (by decide) (UInt8.le_iff_toNat_le.mp hpercentile) hvalue
        unordered := fun other => estimatePercentile_congr
        monotone := fun lower => estimatePercentile_mono hfees hproduct }

/-- The upper quartile of four fees. -/
theorem estimatePercentile_of_four_fees :
    estimatePercentile [5000, 0, 1200, 0] 75 ∈ [5000, 0, 1200, 0] ∧
      TrueQuantile [5000, 0, 1200, 0] 75 := by
  obtain ⟨hmem, _, _, _, hiff⟩ :=
    estimatePercentile_trueQuantile [5000, 0, 1200, 0] 75 (by decide) (by decide)
  exact ⟨hmem, hiff.mpr (by decide)⟩

/-! ## A product that wraps -/

/-- Slots without a fee and as many with the least one. -/
def splitFees (half : Nat) : List UInt64 := List.replicate half 0 ++ List.replicate half 1

theorem splitFees_length {half : Nat} : (splitFees half).length = half + half := by
  simp [splitFees]

theorem splitFees_pairwise {half : Nat} : (splitFees half).Pairwise (· ≤ ·) := by
  refine List.pairwise_append.mpr
    ⟨List.pairwise_replicate_of_refl, List.pairwise_replicate_of_refl, ?_⟩
  intro left hleft right hright
  rw [List.eq_of_mem_replicate hleft]
  exact UInt64.zero_le

/-- An index in the first half gives no fee, which only half of the slots go by. -/
theorem not_isQuantile_splitFees {half : Nat} (hhalf : 0 < half)
    (hindex : percentileIndex 100 (half + half) < half) :
    ¬ IsQuantile (splitFees half) 100 100 (estimatePercentile (splitFees half) 100) := by
  have hzero : estimatePercentile (splitFees half) 100 = 0 := by
    rw [estimatePercentile, splitFees_pairwise.insertionSort_eq, splitFees_length, splitFees,
      List.getD_eq_getElem?_getD, List.getElem?_append_left (by simpa using hindex),
      List.getElem?_replicate_of_lt hindex, Option.getD_some]
  have hcount : (splitFees half).countP (· ≤ 0) = half := by
    simp [splitFees, List.countP_replicate]
  intro hquantile
  have hupTo := hquantile.upTo
  rw [hzero, hcount, splitFees_length] at hupTo
  omega

/-- A hundred times `2 ^ 58` fees wraps, and the result leaves half of the fees above
it. -/
theorem not_trueQuantile_splitFees :
    splitFees (2 ^ 57) ≠ [] ∧ (100 : UInt8) ≤ 100 ∧
      ¬ TrueQuantile (splitFees (2 ^ 57)) 100 := by
  refine ⟨?_, by decide, ?_⟩
  · rw [← List.length_pos_iff, splitFees_length]
    decide
  · intro hquantile
    exact not_isQuantile_splitFees (by decide) (by decide) hquantile.quantile

end SolFrontier.SolanaCore
