import SolFrontier.Foundation.Interpolation
import SolFrontier.Mcp.WideDivision

/-! # The rate model over exact numbers

For a valid configuration every checked operation of the model succeeds as soon
as the whole liquidity fits the word, and its words are those of a share and of
three lines over the natural numbers. Bounds and growth are read off these.
-/

namespace SolFrontier.Mcp

open Foundation

/-! ## Words for numbers -/

/-- The computation succeeds with a word of this value. -/
def Gives (result : Except AprMathError (BitVec 128)) (value : Nat) : Prop :=
  ∃ word, result = .ok word ∧ word.toNat = value

namespace Gives

variable {first : Except AprMathError (BitVec 128)}
  {rest : BitVec 128 → Except AprMathError (BitVec 128)} {middle value : Nat}

theorem bind (hfirst : Gives first middle)
    (hrest : ∀ word, word.toNat = middle → Gives (rest word) value) :
    Gives (first >>= rest) value := by
  obtain ⟨word, rfl, hword⟩ := hfirst
  exact hrest word hword

theorem toNat_eq {result : Except AprMathError (BitVec 128)} {word : BitVec 128}
    (hvalue : Gives result value) (hword : result = .ok word) : word.toNat = value := by
  obtain ⟨same, hsame, hvalue⟩ := hvalue
  rw [hword, Except.ok.injEq] at hsame
  rw [hsame, hvalue]

end Gives

theorem gives_ok {word : BitVec 128} {value : Nat} (hword : word.toNat = value) :
    Gives (.ok word) value :=
  ⟨word, rfl, hword⟩

theorem gives_checked {value : Nat} (hfits : value < 2 ^ 128) : Gives (checked value) value :=
  ⟨_, checked_of_lt value hfits⟩

theorem gives_checkedAdd (left right : BitVec 128) (hfits : left.toNat + right.toNat < 2 ^ 128) :
    Gives (checkedAdd left right) (left.toNat + right.toNat) :=
  gives_checked hfits

theorem gives_checkedSub {left right : BitVec 128} (hle : right.toNat ≤ left.toNat) :
    Gives (checkedSub left right) (left.toNat - right.toNat) := by
  rw [checkedSub, if_pos (BitVec.le_def.mpr hle)]
  exact gives_ok (BitVec.toNat_sub_of_le hle)

theorem gives_mulDivFloor {left right divisor : BitVec 128} (hdivisor : 0 < divisor.toNat)
    (hfits : left.toNat * right.toNat / divisor.toNat < 2 ^ 128) :
    Gives (mulDivFloorU128 left right divisor) (left.toNat * right.toNat / divisor.toNat) := by
  have hne : divisor ≠ 0 := by
    rintro rfl
    exact absurd hdivisor (by decide)
  rw [mulDivFloorU128_eq, if_neg hne, if_neg (not_le.mpr hfits)]
  exact gives_ok (by rw [BitVec.toNat_ofNat, Nat.mod_eq_of_lt hfits])

/-- One, in the domain of the rates. -/
def wad : Nat := 10 ^ 18

theorem toNat_solendWad : solendWad.toNat = wad := rfl

theorem gives_mulWad (left right : BitVec 128)
    (hfits : left.toNat * right.toNat / wad < 2 ^ 128) :
    Gives (mulWad left right) (left.toNat * right.toNat / wad) :=
  gives_mulDivFloor (by decide) hfits

theorem gives_divWad (numerator denominator : BitVec 128) (hdenominator : 0 < denominator.toNat)
    (hfits : numerator.toNat * wad / denominator.toNat < 2 ^ 128) :
    Gives (divWad numerator denominator) (numerator.toNat * wad / denominator.toNat) := by
  have hne : denominator ≠ 0 := by
    rintro rfl
    exact absurd hdenominator (by decide)
  rw [divWad, if_neg hne]
  exact gives_mulDivFloor hdenominator hfits

/-- A percentage in the domain of the rates. -/
def pctWad (percent : Nat) : Nat := percent * 10 ^ 16

theorem pctWad_lt {percent : Nat} (hpercent : percent < 2 ^ 64) : pctWad percent < 2 ^ 120 := by
  unfold pctWad
  omega

theorem pctWad_mono {left right : Nat} (hle : left ≤ right) : pctWad left ≤ pctWad right :=
  Nat.mul_le_mul_right _ hle

theorem gives_pctToWad (percent : UInt64) : Gives (pctToWad percent) (pctWad percent.toNat) := by
  have hpercent := percent.toNat_lt
  have hword : (BitVec.ofNat 128 percent.toNat).toNat = percent.toNat := by
    rw [BitVec.toNat_ofNat, Nat.mod_eq_of_lt (by omega)]
  have hscale : (10000000000000000 : BitVec 128).toNat = 10 ^ 16 := rfl
  have hlt := pctWad_lt hpercent
  rw [pctToWad, checkedMul, hword, hscale]
  exact gives_checked (by unfold pctWad at hlt; omega)

/-! ## The lines -/

/-- A line between two utilizations whose lower end was passed. -/
theorem gives_rateBetween {utilization lower upper : BitVec 128}
    {lowerPct upperPct : UInt64} (flatPct : UInt64) (hlower : lower.toNat < utilization.toNat)
    (hupper : utilization.toNat ≤ upper.toNat) (hrates : lowerPct.toNat ≤ upperPct.toNat) :
    Gives (rateBetween utilization lower upper lowerPct upperPct flatPct)
      (interpolate wad lower.toNat upper.toNat (pctWad lowerPct.toNat) (pctWad upperPct.toNat)
        utilization.toNat) := by
  unfold rateBetween
  apply (gives_checkedSub hlower.le).bind
  intro numerator hnumerator
  apply (gives_checkedSub (hlower.le.trans hupper)).bind
  intro denominator hdenominator
  have hpositive : 0 < denominator.toNat := by omega
  have hne : denominator ≠ 0 := by
    rintro rfl
    exact absurd hpositive (by decide)
  rw [if_neg hne]
  have hweight : numerator.toNat * wad / denominator.toNat ≤ wad := by
    rw [hnumerator, hdenominator]
    exact weight_le hupper
  have hwad : wad < 2 ^ 128 := by decide
  apply (gives_divWad _ _ hpositive (by omega)).bind
  intro weight hweightEq
  apply (gives_pctToWad lowerPct).bind
  intro lowerRate hlowerRate
  apply (gives_pctToWad upperPct).bind
  intro upperRate hupperRate
  have hle := pctWad_mono hrates
  have hlt := pctWad_lt upperPct.toNat_lt
  apply (gives_checkedSub (by omega)).bind
  intro range hrange
  have hscaled : weight.toNat * range.toNat / wad ≤ range.toNat := by
    rw [hweightEq, hnumerator, hdenominator]
    exact scaled_weight_le range.toNat hupper
  apply (gives_mulWad _ _ (by omega)).bind
  intro scaled hscaledEq
  have hsum := gives_checkedAdd scaled lowerRate (by omega)
  rw [hscaledEq, hweightEq, hnumerator, hdenominator, hrange, hlowerRate, hupperRate] at hsum
  exact hsum

/-- The line from the minimal rate up to the optimal utilization. -/
theorem gives_rateBelowOptimal {reserve : ReserveRateSnapshot} {utilization optimal : BitVec 128}
    (hutilization : utilization.toNat ≤ optimal.toNat)
    (hrates : reserve.minBorrowRatePct.toNat ≤ reserve.optimalBorrowRatePct.toNat) :
    Gives (rateBelowOptimal reserve utilization optimal)
      (interpolate wad 0 optimal.toNat (pctWad reserve.minBorrowRatePct.toNat)
        (pctWad reserve.optimalBorrowRatePct.toNat) utilization.toNat) := by
  unfold rateBelowOptimal
  have hminimal := gives_pctToWad reserve.minBorrowRatePct.toUInt64
  rw [UInt8.toNat_toUInt64] at hminimal
  apply hminimal.bind
  intro minRate hminRate
  by_cases hzero : optimal = 0
  · -- Without an optimal utilization only the minimal rate is left of the line.
    subst hzero
    have hend : utilization.toNat = 0 := by simpa using hutilization
    rw [if_pos rfl, hend]
    exact gives_ok (by simp [interpolate, hminRate])
  · have hpositive : 0 < optimal.toNat := by
      apply Nat.pos_of_ne_zero
      intro hnone
      exact hzero (BitVec.eq_of_toNat_eq hnone)
    rw [if_neg hzero]
    have hweight : utilization.toNat * wad / optimal.toNat ≤ wad := by
      have hle : (utilization.toNat - 0) * wad / (optimal.toNat - 0) ≤ wad := weight_le hutilization
      simpa using hle
    have hwad : wad < 2 ^ 128 := by decide
    apply (gives_divWad _ _ hpositive (by omega)).bind
    intro normalized hnormalized
    rw [if_pos (UInt8.le_iff_toNat_le.mpr hrates), ok_bind]
    have hrange : (reserve.optimalBorrowRatePct.toUInt64 -
        reserve.minBorrowRatePct.toUInt64).toNat =
          reserve.optimalBorrowRatePct.toNat - reserve.minBorrowRatePct.toNat := by
      rw [UInt64.toNat_sub_of_le, UInt8.toNat_toUInt64, UInt8.toNat_toUInt64]
      rw [UInt64.le_iff_toNat_le, UInt8.toNat_toUInt64, UInt8.toNat_toUInt64]
      exact hrates
    have hrateRange := gives_pctToWad (reserve.optimalBorrowRatePct.toUInt64 -
      reserve.minBorrowRatePct.toUInt64)
    rw [hrange] at hrateRange
    apply hrateRange.bind
    intro range hrangeEq
    have hpct : pctWad (reserve.optimalBorrowRatePct.toNat - reserve.minBorrowRatePct.toNat) =
        pctWad reserve.optimalBorrowRatePct.toNat - pctWad reserve.minBorrowRatePct.toNat :=
      Nat.sub_mul _ _ _
    have hle := pctWad_mono hrates
    have hoptimalLt : reserve.optimalBorrowRatePct.toNat < 2 ^ 64 := by
      have hbyte := reserve.optimalBorrowRatePct.toNat_lt
      omega
    have hlt := pctWad_lt hoptimalLt
    have hscaled : normalized.toNat * range.toNat / wad ≤ range.toNat := by
      have hle : (utilization.toNat - 0) * wad / (optimal.toNat - 0) * range.toNat / wad ≤
          range.toNat := scaled_weight_le range.toNat hutilization
      rw [hnormalized]
      simpa using hle
    apply (gives_mulWad _ _ (by omega)).bind
    intro scaled hscaledEq
    have hsum := gives_checkedAdd scaled minRate (by omega)
    rw [hscaledEq, hnormalized, hrangeEq, hpct, hminRate] at hsum
    simpa [interpolate] using hsum

/-! ## A valid configuration -/

/-- What a valid configuration promises of its numbers. -/
structure ReserveRateSnapshot.InOrder (reserve : ReserveRateSnapshot) : Prop where
  min_le : reserve.minBorrowRatePct.toNat ≤ reserve.optimalBorrowRatePct.toNat
  optimal_le : reserve.optimalBorrowRatePct.toNat ≤ reserve.maxBorrowRatePct.toNat
  max_le : reserve.maxBorrowRatePct.toNat ≤ reserve.superMaxBorrowRatePct.toNat
  utilizations_le :
    reserve.optimalUtilizationRatePct.toNat ≤ reserve.maxUtilizationRatePct.toNat
  utilization_le : reserve.maxUtilizationRatePct.toNat ≤ 100
  take_le : reserve.protocolTakeRatePct.toNat ≤ 100

theorem inOrder_of_valid {reserve : ReserveRateSnapshot}
    (hvalid : isReserveConfigValid reserve = true) : reserve.InOrder := by
  simp only [isReserveConfigValid, Bool.and_eq_true, decide_eq_true_eq, UInt64.le_iff_toNat_le,
    UInt8.le_iff_toNat_le, UInt8.toNat_toUInt64] at hvalid
  obtain ⟨⟨⟨⟨⟨hmin, hoptimal⟩, hmax⟩, hutilizations⟩, hutilization⟩, htake⟩ := hvalid
  exact ⟨hmin, hoptimal, hmax, hutilizations, hutilization, htake⟩

namespace ReserveRateSnapshot

/-- The available liquidity in the domain of the rates. -/
def availableWads (reserve : ReserveRateSnapshot) : Nat := reserve.availableAmount.toNat * wad

/-- The whole liquidity of the reserve, which may not fit a word. -/
def liquidityWads (reserve : ReserveRateSnapshot) : Nat :=
  reserve.borrowedAmountWads.toNat + reserve.availableWads

def utilization (reserve : ReserveRateSnapshot) : Nat :=
  share wad reserve.borrowedAmountWads.toNat reserve.availableWads

/-- The rate at a utilization: three lines, one after the other. -/
def borrowRateAt (reserve : ReserveRateSnapshot) (utilization : Nat) : Nat :=
  let optimal := pctWad reserve.optimalUtilizationRatePct.toNat
  let maximal := pctWad reserve.maxUtilizationRatePct.toNat
  if utilization ≤ optimal then
    interpolate wad 0 optimal (pctWad reserve.minBorrowRatePct.toNat)
      (pctWad reserve.optimalBorrowRatePct.toNat) utilization
  else if utilization ≤ maximal then
    interpolate wad optimal maximal (pctWad reserve.optimalBorrowRatePct.toNat)
      (pctWad reserve.maxBorrowRatePct.toNat) utilization
  else
    interpolate wad maximal wad (pctWad reserve.maxBorrowRatePct.toNat)
      (pctWad reserve.superMaxBorrowRatePct.toNat) utilization

/-- What the suppliers get of the rate at a utilization. -/
def supplyAprAt (reserve : ReserveRateSnapshot) (utilization : Nat) : Nat :=
  reserve.borrowRateAt utilization *
    (utilization * (wad - pctWad reserve.protocolTakeRatePct.toNat) / wad) / wad

variable {reserve : ReserveRateSnapshot}

theorem availableWads_lt (reserve : ReserveRateSnapshot) : reserve.availableWads < 2 ^ 128 := by
  have hlt := reserve.availableAmount.toNat_lt
  unfold availableWads wad
  omega

theorem utilization_le_wad (reserve : ReserveRateSnapshot) : reserve.utilization ≤ wad :=
  share_le wad _ _

/-- The lines stay between the least rate and the largest one, and up to the
maximal utilization below the maximal rate. -/
theorem borrowRateAt_bounds (hvalid : reserve.InOrder) {utilization : Nat}
    (hone : utilization ≤ wad) :
    pctWad reserve.minBorrowRatePct.toNat ≤ reserve.borrowRateAt utilization ∧
      (utilization ≤ pctWad reserve.maxUtilizationRatePct.toNat →
        reserve.borrowRateAt utilization ≤ pctWad reserve.maxBorrowRatePct.toNat) ∧
      reserve.borrowRateAt utilization ≤ pctWad reserve.superMaxBorrowRatePct.toNat := by
  have hmin := pctWad_mono hvalid.min_le
  have hoptimal := pctWad_mono hvalid.optimal_le
  have hmax := pctWad_mono hvalid.max_le
  unfold borrowRateAt
  dsimp only
  split
  next hbelow =>
    have hline := interpolate_between wad 0 hmin hbelow
    omega
  next =>
  split
  next hbetween =>
    have hline := interpolate_between wad (pctWad reserve.optimalUtilizationRatePct.toNat)
      hoptimal hbetween
    omega
  next =>
    have hline := interpolate_between wad (pctWad reserve.maxUtilizationRatePct.toNat) hmax hone
    omega

/-- The rate grows with the utilization, over the ends of the lines too. -/
theorem borrowRateAt_mono (hvalid : reserve.InOrder) {utilization more : Nat}
    (hmore : utilization ≤ more) (hone : more ≤ wad) :
    reserve.borrowRateAt utilization ≤ reserve.borrowRateAt more := by
  have hmin := pctWad_mono hvalid.min_le
  have hoptimal := pctWad_mono hvalid.optimal_le
  have hmax := pctWad_mono hvalid.max_le
  have hfirst := interpolate_mono wad 0 (pctWad reserve.optimalUtilizationRatePct.toNat)
    (pctWad reserve.minBorrowRatePct.toNat) (pctWad reserve.optimalBorrowRatePct.toNat) hmore
  have hsecond := interpolate_mono wad (pctWad reserve.optimalUtilizationRatePct.toNat)
    (pctWad reserve.maxUtilizationRatePct.toNat) (pctWad reserve.optimalBorrowRatePct.toNat)
    (pctWad reserve.maxBorrowRatePct.toNat) hmore
  have hthird := interpolate_mono wad (pctWad reserve.maxUtilizationRatePct.toNat) wad
    (pctWad reserve.maxBorrowRatePct.toNat) (pctWad reserve.superMaxBorrowRatePct.toNat) hmore
  have hlast := interpolate_between wad (pctWad reserve.maxUtilizationRatePct.toNat) hmax hone
  unfold borrowRateAt
  dsimp only
  -- On one line the line decides; from one line to a later one the rate at their common end.
  by_cases hbelow : utilization ≤ pctWad reserve.optimalUtilizationRatePct.toNat
  · have hline := interpolate_between wad 0 hmin hbelow
    rw [if_pos hbelow]
    by_cases hmoreBelow : more ≤ pctWad reserve.optimalUtilizationRatePct.toNat
    · rw [if_pos hmoreBelow]
      exact hfirst
    rw [if_neg hmoreBelow]
    by_cases hmoreBetween : more ≤ pctWad reserve.maxUtilizationRatePct.toNat
    · have hnext := interpolate_between wad (pctWad reserve.optimalUtilizationRatePct.toNat)
        hoptimal hmoreBetween
      rw [if_pos hmoreBetween]
      omega
    · rw [if_neg hmoreBetween]
      omega
  have hmorePassed : ¬ more ≤ pctWad reserve.optimalUtilizationRatePct.toNat := by omega
  rw [if_neg hbelow, if_neg hmorePassed]
  by_cases hbetween : utilization ≤ pctWad reserve.maxUtilizationRatePct.toNat
  · have hline := interpolate_between wad (pctWad reserve.optimalUtilizationRatePct.toNat)
      hoptimal hbetween
    rw [if_pos hbetween]
    split
    · exact hsecond
    · omega
  · have hmoreBeyond : ¬ more ≤ pctWad reserve.maxUtilizationRatePct.toNat := by omega
    rw [if_neg hbetween, if_neg hmoreBeyond]
    exact hthird

theorem supplyAprAt_mono (hvalid : reserve.InOrder) {utilization more : Nat}
    (hmore : utilization ≤ more) (hone : more ≤ wad) :
    reserve.supplyAprAt utilization ≤ reserve.supplyAprAt more := by
  apply Nat.div_le_div_right
  apply Nat.mul_le_mul (borrowRateAt_mono hvalid hmore hone)
  apply Nat.div_le_div_right
  exact Nat.mul_le_mul_right _ hmore

end ReserveRateSnapshot

/-! ## The words of the model -/

section Words

variable {reserve : ReserveRateSnapshot}

theorem gives_availableWads (reserve : ReserveRateSnapshot) :
    Gives (checkedMul (.ofNat 128 reserve.availableAmount.toNat) solendWad)
      reserve.availableWads := by
  have hamount := reserve.availableAmount.toNat_lt
  have hword : (BitVec.ofNat 128 reserve.availableAmount.toNat).toNat =
      reserve.availableAmount.toNat := by
    rw [BitVec.toNat_ofNat, Nat.mod_eq_of_lt (by omega)]
  rw [checkedMul, hword, toNat_solendWad]
  exact gives_checked reserve.availableWads_lt

/-- The utilization is the exact share of the borrowed liquidity, as far as the
whole fits a word, and an overflow beyond. -/
theorem gives_utilizationWad (hfits : reserve.liquidityWads < 2 ^ 128) :
    Gives (utilizationWad reserve) reserve.utilization := by
  unfold utilizationWad ReserveRateSnapshot.utilization
  by_cases hborrowed : reserve.borrowedAmountWads = 0
  · rw [if_pos hborrowed, hborrowed]
    exact gives_ok (share_zero wad _).symm
  rw [if_neg hborrowed]
  have hpositive : 0 < reserve.borrowedAmountWads.toNat := by
    apply Nat.pos_of_ne_zero
    intro hnone
    exact hborrowed (BitVec.eq_of_toNat_eq hnone)
  apply (gives_availableWads reserve).bind
  intro available havailable
  have hsum : reserve.borrowedAmountWads.toNat + available.toNat < 2 ^ 128 := by
    rw [havailable]
    exact hfits
  apply (gives_checkedAdd _ _ hsum).bind
  intro denominator hdenominator
  rw [havailable] at hdenominator
  have hne : denominator ≠ 0 := by
    rintro rfl
    simp only [BitVec.ofNat_eq_ofNat, BitVec.toNat_ofNat, Nat.zero_mod] at hdenominator
    omega
  rw [if_neg hne]
  have hone := reserve.utilization_le_wad
  have hwad : wad < 2 ^ 128 := by decide
  unfold ReserveRateSnapshot.utilization share at hone
  rw [← hdenominator] at hone
  have hquotient := gives_divWad reserve.borrowedAmountWads denominator (by omega) (by omega)
  rw [hdenominator] at hquotient
  exact hquotient

theorem utilizationWad_overflow (hfits : ¬ reserve.liquidityWads < 2 ^ 128) :
    utilizationWad reserve = .error .overflow := by
  have havailable := reserve.availableWads_lt
  have hborrowed : reserve.borrowedAmountWads ≠ 0 := by
    intro hnone
    unfold ReserveRateSnapshot.liquidityWads at hfits
    rw [hnone] at hfits
    simp only [BitVec.ofNat_eq_ofNat, BitVec.toNat_ofNat, Nat.zero_mod, Nat.zero_add] at hfits
    exact hfits havailable
  obtain ⟨available, hmul, hvalue⟩ := gives_availableWads reserve
  unfold utilizationWad
  rw [if_neg hborrowed, hmul, ok_bind, checkedAdd, hvalue, checked]
  unfold ReserveRateSnapshot.liquidityWads at hfits
  rw [if_neg hfits]
  rfl

theorem gives_currentBorrowRateWad (hvalid : reserve.InOrder)
    (hfits : reserve.liquidityWads < 2 ^ 128) :
    Gives (currentBorrowRateWad reserve) (reserve.borrowRateAt reserve.utilization) := by
  unfold currentBorrowRateWad
  apply (gives_utilizationWad hfits).bind
  intro utilization hutilization
  apply (gives_pctToWad _).bind
  intro optimal hoptimal
  apply (gives_pctToWad _).bind
  intro maximal hmaximal
  rw [UInt8.toNat_toUInt64] at hoptimal hmaximal
  have hone := reserve.utilization_le_wad
  dsimp only
  unfold ReserveRateSnapshot.borrowRateAt
  dsimp only
  simp only [← hutilization, ← hoptimal, ← hmaximal, BitVec.le_def]
  split
  next hbelow => exact gives_rateBelowOptimal hbelow hvalid.min_le
  next hpassed =>
  split
  next hbetween =>
    have hrates : reserve.optimalBorrowRatePct.toUInt64.toNat ≤
        reserve.maxBorrowRatePct.toUInt64.toNat := by
      simpa using hvalid.optimal_le
    have hline := gives_rateBetween reserve.optimalBorrowRatePct.toUInt64 (not_le.mp hpassed)
      hbetween hrates
    simpa using hline
  next hbeyond =>
    have hrates : reserve.maxBorrowRatePct.toUInt64.toNat ≤
        reserve.superMaxBorrowRatePct.toNat := by
      simpa using hvalid.max_le
    have hwhole : utilization.toNat ≤ solendWad.toNat := by
      rw [hutilization, toNat_solendWad]
      exact hone
    have hline := gives_rateBetween reserve.superMaxBorrowRatePct (not_le.mp hbeyond) hwhole hrates
    simpa [toNat_solendWad] using hline

theorem gives_supplyAprWad (hconfig : isReserveConfigValid reserve = true)
    (hfits : reserve.liquidityWads < 2 ^ 128) :
    Gives (supplyAprWad reserve) (reserve.supplyAprAt reserve.utilization) := by
  have hvalid := inOrder_of_valid hconfig
  have hone := reserve.utilization_le_wad
  have hwad : wad < 2 ^ 128 := by decide
  have hwadPositive : 0 < wad := by decide
  unfold supplyAprWad
  rw [hconfig, if_neg (by decide)]
  apply (gives_utilizationWad hfits).bind
  intro utilization hutilization
  apply (gives_currentBorrowRateWad hvalid hfits).bind
  intro rate hrate
  apply (gives_pctToWad _).bind
  intro take htake
  rw [UInt8.toNat_toUInt64] at htake
  have htakeLe : take.toNat ≤ solendWad.toNat := by
    have hle := pctWad_mono hvalid.take_le
    rw [htake, toNat_solendWad]
    exact hle
  apply (gives_checkedSub htakeLe).bind
  intro kept hkept
  rw [htake, toNat_solendWad] at hkept
  have hkeptLe : utilization.toNat * kept.toNat / wad ≤ wad := by
    apply Nat.div_le_of_le_mul
    exact Nat.mul_le_mul (hutilization.trans_le hone) (hkept.trans_le (Nat.sub_le _ _))
  apply (gives_mulWad _ _ (by omega)).bind
  intro afterTake hafterTake
  have hrateLt : rate.toNat < 2 ^ 120 := by
    rw [hrate]
    have hbound := (ReserveRateSnapshot.borrowRateAt_bounds hvalid hone).2.2
    exact hbound.trans_lt (pctWad_lt reserve.superMaxBorrowRatePct.toNat_lt)
  have haprLe : rate.toNat * afterTake.toNat / wad ≤ rate.toNat := by
    apply Nat.div_le_of_le_mul
    rw [Nat.mul_comm wad]
    exact Nat.mul_le_mul_left _ (hafterTake.trans_le hkeptLe)
  have happly := gives_mulWad rate afterTake (by omega)
  rw [hafterTake, hkept, hutilization, hrate] at happly
  exact happly

/-- The model fails on nothing but liquidity that does not fit. -/
theorem supplyAprWad_overflow (hconfig : isReserveConfigValid reserve = true)
    (hfits : ¬ reserve.liquidityWads < 2 ^ 128) :
    supplyAprWad reserve = .error .overflow := by
  unfold supplyAprWad
  rw [hconfig, if_neg (by decide), utilizationWad_overflow hfits]
  rfl

/-- More borrowed liquidity of the same reserve. -/
def ReserveRateSnapshot.withBorrowed (reserve : ReserveRateSnapshot) (borrowed : BitVec 128) :
    ReserveRateSnapshot :=
  { reserve with borrowedAmountWads := borrowed }

theorem ReserveRateSnapshot.liquidityWads_mono {borrowed : BitVec 128}
    (hmore : reserve.borrowedAmountWads ≤ borrowed) :
    reserve.liquidityWads ≤ (reserve.withBorrowed borrowed).liquidityWads :=
  Nat.add_le_add_right (BitVec.le_def.mp hmore) _

theorem ReserveRateSnapshot.utilization_mono {borrowed : BitVec 128}
    (hmore : reserve.borrowedAmountWads ≤ borrowed) :
    reserve.utilization ≤ (reserve.withBorrowed borrowed).utilization :=
  share_mono (BitVec.le_def.mp hmore)

end Words

/-- For a valid configuration the supply rate fails exactly on liquidity that
does not fit the word, and only by an overflow. Otherwise the utilization is at
most one and the borrow rate between the configured rates, and with more
borrowed of the same reserve neither the borrow rate nor the supply rate falls. -/
theorem supplyAprWad_total_bounded_monotone (reserve : ReserveRateSnapshot)
    (hconfig : isReserveConfigValid reserve = true) :
    (∀ error, supplyAprWad reserve = .error error ↔ error = .overflow ∧
      2 ^ 128 ≤ reserve.borrowedAmountWads.toNat + reserve.availableAmount.toNat * 10 ^ 18) ∧
    (reserve.borrowedAmountWads.toNat + reserve.availableAmount.toNat * 10 ^ 18 < 2 ^ 128 →
      ∃ utilization rate apr, utilizationWad reserve = .ok utilization ∧
        currentBorrowRateWad reserve = .ok rate ∧ supplyAprWad reserve = .ok apr ∧
        utilization.toNat ≤ 10 ^ 18 ∧
        reserve.minBorrowRatePct.toNat * 10 ^ 16 ≤ rate.toNat ∧
        (utilization.toNat ≤ reserve.maxUtilizationRatePct.toNat * 10 ^ 16 →
          rate.toNat ≤ reserve.maxBorrowRatePct.toNat * 10 ^ 16) ∧
        rate.toNat ≤ reserve.superMaxBorrowRatePct.toNat * 10 ^ 16) ∧
    (∀ borrowed, reserve.borrowedAmountWads ≤ borrowed →
      (∀ rate grown, currentBorrowRateWad reserve = .ok rate →
        currentBorrowRateWad (reserve.withBorrowed borrowed) = .ok grown → rate ≤ grown) ∧
      (∀ apr grown, supplyAprWad reserve = .ok apr →
        supplyAprWad (reserve.withBorrowed borrowed) = .ok grown → apr ≤ grown)) := by
  have hvalid := inOrder_of_valid hconfig
  refine ⟨?_, ?_, ?_⟩
  · intro error
    by_cases hfits : reserve.liquidityWads < 2 ^ 128
    · obtain ⟨apr, hresult, -⟩ := gives_supplyAprWad hconfig hfits
      have hnot : ¬ 2 ^ 128 ≤
          reserve.borrowedAmountWads.toNat + reserve.availableAmount.toNat * 10 ^ 18 :=
        not_le.mpr hfits
      rw [hresult]
      constructor
      · intro hfailed
        cases hfailed
      · intro hbeyond
        exact absurd hbeyond.2 hnot
    · rw [supplyAprWad_overflow hconfig hfits, Except.error.injEq, eq_comm]
      exact (and_iff_left (not_lt.mp hfits)).symm
  · intro hfits
    obtain ⟨utilization, hutilization, huValue⟩ := gives_utilizationWad hfits
    obtain ⟨rate, hrate, hrValue⟩ := gives_currentBorrowRateWad hvalid hfits
    obtain ⟨apr, hapr, -⟩ := gives_supplyAprWad hconfig hfits
    have hone := reserve.utilization_le_wad
    obtain ⟨hlow, hmaximal, hhigh⟩ := ReserveRateSnapshot.borrowRateAt_bounds hvalid hone
    rw [← hrValue, ← huValue] at *
    exact ⟨utilization, rate, apr, hutilization, hrate, hapr, hone, hlow, hmaximal, hhigh⟩
  · intro borrowed hmore
    -- A result of either reserve says that its liquidity fits.
    have hgrownConfig : isReserveConfigValid (reserve.withBorrowed borrowed) = true := hconfig
    have hutilization := ReserveRateSnapshot.utilization_mono hmore
    have hone := (reserve.withBorrowed borrowed).utilization_le_wad
    constructor
    · intro rate grown hrate hgrown
      by_cases hfits : (reserve.withBorrowed borrowed).liquidityWads < 2 ^ 128
      · have hsmaller := (ReserveRateSnapshot.liquidityWads_mono hmore).trans_lt hfits
        have hvalue := (gives_currentBorrowRateWad hvalid hsmaller).toNat_eq hrate
        have hgrownValue :=
          (gives_currentBorrowRateWad (inOrder_of_valid hgrownConfig) hfits).toNat_eq hgrown
        rw [BitVec.le_def, hvalue, hgrownValue]
        exact ReserveRateSnapshot.borrowRateAt_mono hvalid hutilization hone
      · unfold currentBorrowRateWad at hgrown
        rw [utilizationWad_overflow hfits] at hgrown
        cases hgrown
    · intro apr grown hapr hgrown
      by_cases hfits : (reserve.withBorrowed borrowed).liquidityWads < 2 ^ 128
      · have hsmaller := (ReserveRateSnapshot.liquidityWads_mono hmore).trans_lt hfits
        have hvalue := (gives_supplyAprWad hconfig hsmaller).toNat_eq hapr
        have hgrownValue := (gives_supplyAprWad hgrownConfig hfits).toNat_eq hgrown
        rw [BitVec.le_def, hvalue, hgrownValue]
        exact ReserveRateSnapshot.supplyAprAt_mono hvalid hutilization hone
      · rw [supplyAprWad_overflow hgrownConfig hfits] at hgrown
        cases hgrown

/-- A reserve that is lent out in full. -/
def steadyReserve : ReserveRateSnapshot :=
  { availableAmount := 0
    borrowedAmountWads := 1
    minBorrowRatePct := 0
    optimalBorrowRatePct := 8
    maxBorrowRatePct := 30
    superMaxBorrowRatePct := 150
    optimalUtilizationRatePct := 80
    maxUtilizationRatePct := 90
    protocolTakeRatePct := 10 }

/-- Its configuration is valid, so lending out everything is priced at the largest rate or less. -/
theorem steadyReserve_rates :
    ∃ utilization rate apr, utilizationWad steadyReserve = .ok utilization ∧
      currentBorrowRateWad steadyReserve = .ok rate ∧ supplyAprWad steadyReserve = .ok apr ∧
      utilization.toNat ≤ 10 ^ 18 ∧ 0 * 10 ^ 16 ≤ rate.toNat ∧
      (utilization.toNat ≤ 90 * 10 ^ 16 → rate.toNat ≤ 30 * 10 ^ 16) ∧
      rate.toNat ≤ 150 * 10 ^ 16 :=
  (supplyAprWad_total_bounded_monotone steadyReserve (by decide)).2.1 (by decide)

end SolFrontier.Mcp
