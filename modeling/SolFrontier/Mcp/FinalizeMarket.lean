import SolFrontier.Executor.Chain
import SolFrontier.Mcp.Effects
import SolFrontier.Protocols.SolendLayout

/-! # The native supply rate

The supply APR of a reserve in WAD, computed from its account data with checked
128-bit arithmetic and a 256-bit intermediate for products that do not fit.
-/

namespace SolFrontier.Mcp

open Foundation Protocols Executor

def solendWad : BitVec 128 := 1000000000000000000

def aprBpsSanityMax : UInt64 := 10000

structure ReserveRateSnapshot where
  availableAmount : UInt64
  borrowedAmountWads : BitVec 128
  minBorrowRatePct : UInt8
  optimalBorrowRatePct : UInt8
  maxBorrowRatePct : UInt8
  superMaxBorrowRatePct : UInt64
  optimalUtilizationRatePct : UInt8
  maxUtilizationRatePct : UInt8
  protocolTakeRatePct : UInt8
  deriving DecidableEq, Repr

inductive ReserveDecodeError where
  | wrongSize
  | staleBitInvalid
  deriving DecidableEq, Repr

/-- The rate fields of a reserve; no result is a slice outside the bytes. -/
def decodeReserveRateSnapshot (data : List UInt8) :
    Decode ReserveDecodeError ReserveRateSnapshot := do
  rejectIf (data.length ≠ reserveLen) .wrongSize
  let stale ← orPanic (readByte data 9)
  rejectIf (¬ (stale = 0 ∨ stale = 1)) .staleBitInvalid
  let availableAmount ← orPanic (readU64Le data 171)
  let borrowedAmountWads ← orPanic (readU128Le data 179)
  let minBorrowRatePct ← orPanic (readByte data 303)
  let optimalBorrowRatePct ← orPanic (readByte data 304)
  let maxBorrowRatePct ← orPanic (readByte data 305)
  let superMaxBorrowRatePct ← orPanic (readU64Le data 471)
  let optimalUtilizationRatePct ← orPanic (readByte data 299)
  let maxUtilizationRatePct ← orPanic (readByte data 470)
  let protocolTakeRatePct ← orPanic (readByte data 372)
  pure
    { availableAmount, borrowedAmountWads, minBorrowRatePct, optimalBorrowRatePct
      maxBorrowRatePct, superMaxBorrowRatePct, optimalUtilizationRatePct, maxUtilizationRatePct
      protocolTakeRatePct }

/-- The rate decoder checks what the reserve decoder checks. -/
theorem decodeReserveRateSnapshot_decides (data : List UInt8) :
    Decides (AcceptedReserve data) (decodeReserveRateSnapshot data) := by
  unfold decodeReserveRateSnapshot
  refine Decides.rejectIf_bind (fun haccepted => not_not.mpr haccepted.length) fun hlength => ?_
  have hsize : data.length = 619 := not_not.mp hlength
  refine Decides.orPanic_bind (exists_readByte (by omega)) fun stale hstale => ?_
  refine Decides.rejectIf_bind (fun haccepted => ?_) fun _ => ?_
  · have hbyte : data[9]? = some stale := hstale
    have hbool := haccepted.stale
    rw [hbyte, Option.some.injEq, Option.some.injEq] at hbool
    exact not_not.mpr hbool
  refine Decides.orPanic_bind (exists_readU64Le (by omega)) fun _ _ => ?_
  refine Decides.orPanic_bind (exists_readU128Le (by omega)) fun _ _ => ?_
  refine Decides.orPanic_bind (exists_readByte (by omega)) fun _ _ => ?_
  refine Decides.orPanic_bind (exists_readByte (by omega)) fun _ _ => ?_
  refine Decides.orPanic_bind (exists_readByte (by omega)) fun _ _ => ?_
  refine Decides.orPanic_bind (exists_readU64Le (by omega)) fun _ _ => ?_
  refine Decides.orPanic_bind (exists_readByte (by omega)) fun _ _ => ?_
  refine Decides.orPanic_bind (exists_readByte (by omega)) fun _ _ => ?_
  refine Decides.orPanic_bind (exists_readByte (by omega)) fun _ _ => ?_
  exact Decides.pure _

theorem decodeReserveRateSnapshot_total (data : List UInt8) :
    Total (decodeReserveRateSnapshot data) :=
  (decodeReserveRateSnapshot_decides data).total

theorem decodeReserveRateSnapshot_accepts_iff {data : List UInt8} :
    (∃ reserve, (decodeReserveRateSnapshot data).run = some (.ok reserve)) ↔
      AcceptedReserve data := by
  constructor
  · rintro ⟨reserve, hdecode⟩
    simp only [decodeReserveRateSnapshot, run_bind_ok, run_rejectIf_ok, run_orPanic_ok] at hdecode
    obtain ⟨_, hlength, stale, hstale, _, hbool, _⟩ := hdecode
    have hbyte : data[9]? = some stale := hstale
    refine ⟨not_not.mp hlength, ?_⟩
    rw [hbyte, Option.some.injEq, Option.some.injEq]
    exact not_not.mp hbool
  · exact (decodeReserveRateSnapshot_decides data).accepts

/-- No decoder panics, obligations decode exactly as they are laid out, and both reserve decoders
accept the same bytes. -/
theorem solend_accounts_decode_exactly (data : List UInt8) (obligation : SolendObligationRaw) :
    Total (decodeObligation data) ∧ Total (decodeReserve data) ∧
      Total (decodeReserveRateSnapshot data) ∧
      ((∃ decoded, (decodeObligation data).run = some (.ok decoded)) ↔ AcceptedObligation data) ∧
      ((decodeObligation data).run = some (.ok obligation) ↔ ObligationLayout data obligation) ∧
      (88 * obligation.deposits.length + 112 * obligation.borrows.length ≤ 1096 →
        (decodeObligation (encodeObligation obligation)).run = some (.ok obligation)) ∧
      ((∃ reserve, (decodeReserve data).run = some (.ok reserve)) ↔
        ∃ snapshot, (decodeReserveRateSnapshot data).run = some (.ok snapshot)) := by
  refine ⟨decodeObligation_total data, decodeReserve_total data,
    decodeReserveRateSnapshot_total data, decodeObligation_accepts_iff, decodeObligation_eq_ok,
    fun hfits => decodeObligation_encodeObligation hfits, ?_⟩
  rw [decodeReserve_accepts_iff, decodeReserveRateSnapshot_accepts_iff]

/-! ## Checked arithmetic -/

inductive AprMathError where
  | invalidConfig
  | overflow
  | divisionByZero
  deriving DecidableEq, Repr

/-- The exact value of an operation, if it fits the word. -/
def checked (exact : Nat) : Except AprMathError (BitVec 128) :=
  if exact < 2 ^ 128 then .ok (.ofNat 128 exact) else .error .overflow

def checkedAdd (left right : BitVec 128) : Except AprMathError (BitVec 128) :=
  checked (left.toNat + right.toNat)

def checkedMul (left right : BitVec 128) : Except AprMathError (BitVec 128) :=
  checked (left.toNat * right.toNat)

def checkedSub (left right : BitVec 128) : Except AprMathError (BitVec 128) :=
  if right ≤ left then .ok (left - right) else .error .overflow

/-- One bit of a 256-bit word in two halves. -/
def bitOfU256 (high low : BitVec 128) (index : Nat) : BitVec 128 :=
  if index < 128 then (low >>> index) &&& 1 else (high >>> (index - 128)) &&& 1

/-- The long division's registers. -/
structure Division where
  quotient : BitVec 128
  quotientOverflow : Bool
  remainder : BitVec 128

/-- Bring one bit down and subtract the divisor if it goes. -/
def Division.step (high low divisor : BitVec 128) (division : Division) (index : Nat) : Division :=
  let remainderOverflow : Bool := (division.remainder >>> 127) &&& 1 = 1
  let remainder := (division.remainder <<< 1) ||| bitOfU256 high low index
  let subtract : Bool := remainderOverflow || divisor ≤ remainder
  { remainder := if subtract then remainder - divisor else remainder
    quotientOverflow :=
      if (division.quotient >>> 127) &&& 1 = 1 then true else division.quotientOverflow
    quotient := (division.quotient <<< 1) ||| (if subtract then 1 else 0) }

/-- `floor(left * right / divisor)` with a 256-bit intermediate. -/
def mulDivFloorU128 (left right divisor : BitVec 128) : Except AprMathError (BitVec 128) :=
  if divisor = 0 then .error .divisionByZero
  else
    match checkedMul left right with
    | .ok product => .ok (product / divisor)
    | .error _ => do
        let leftLow := (left.setWidth 64).setWidth 128
        let leftHigh := left >>> 64
        let rightLow := (right.setWidth 64).setWidth 128
        let rightHigh := right >>> 64
        let lowLow := leftLow * rightLow
        let lowHigh := leftLow * rightHigh
        let highLow := leftHigh * rightLow
        let highHigh := leftHigh * rightHigh
        let middle := lowHigh + highLow
        let middleCarry : BitVec 128 := if middle < lowHigh then 1 <<< 64 else 0
        let low := lowLow + middle <<< 64
        let lowCarry : BitVec 128 := if low < lowLow then 1 else 0
        let high ← checkedAdd highHigh (middle >>> 64)
        let high ← checkedAdd high lowCarry
        let high ← checkedAdd high middleCarry
        let division := (List.range 256).reverse.foldl (Division.step high low divisor) ⟨0, false, 0⟩
        if division.quotientOverflow then .error .overflow else .ok division.quotient

def mulWad (left right : BitVec 128) : Except AprMathError (BitVec 128) :=
  mulDivFloorU128 left right solendWad

def divWad (numerator denominator : BitVec 128) : Except AprMathError (BitVec 128) :=
  if denominator = 0 then .error .divisionByZero
  else mulDivFloorU128 numerator solendWad denominator

def pctToWad (percent : UInt64) : Except AprMathError (BitVec 128) :=
  checkedMul (.ofNat 128 percent.toNat) 10000000000000000

/-! ## The rate model -/

/-- The rates and the utilizations are in order, and the take rate is a percentage. -/
def isReserveConfigValid (reserve : ReserveRateSnapshot) : Bool :=
  reserve.minBorrowRatePct.toUInt64 ≤ reserve.optimalBorrowRatePct.toUInt64 &&
    reserve.optimalBorrowRatePct.toUInt64 ≤ reserve.maxBorrowRatePct.toUInt64 &&
    reserve.maxBorrowRatePct.toUInt64 ≤ reserve.superMaxBorrowRatePct &&
    reserve.optimalUtilizationRatePct ≤ reserve.maxUtilizationRatePct &&
    reserve.maxUtilizationRatePct ≤ 100 && reserve.protocolTakeRatePct ≤ 100

def utilizationWad (reserve : ReserveRateSnapshot) : Except AprMathError (BitVec 128) :=
  if reserve.borrowedAmountWads = 0 then .ok 0
  else do
    let availableWads ← checkedMul (.ofNat 128 reserve.availableAmount.toNat) solendWad
    let denominator ← checkedAdd reserve.borrowedAmountWads availableWads
    if denominator = 0 then .ok 0 else divWad reserve.borrowedAmountWads denominator

/-- Up to the optimal utilization the rate rises from the minimal one. -/
def rateBelowOptimal (reserve : ReserveRateSnapshot) (utilization optimal : BitVec 128) :
    Except AprMathError (BitVec 128) := do
  let minRate ← pctToWad reserve.minBorrowRatePct.toUInt64
  if optimal = 0 then .ok minRate
  else
    let normalized ← divWad utilization optimal
    let rateRange ←
      if reserve.minBorrowRatePct ≤ reserve.optimalBorrowRatePct then
        .ok (reserve.optimalBorrowRatePct.toUInt64 - reserve.minBorrowRatePct.toUInt64)
      else .error .overflow
    let scaled ← mulWad normalized (← pctToWad rateRange)
    checkedAdd scaled minRate

/-- Between two utilizations the rate rises from one rate to the other. -/
def rateBetween (utilization lower upper : BitVec 128) (lowerPct upperPct flatPct : UInt64) :
    Except AprMathError (BitVec 128) := do
  let weightNumerator ← checkedSub utilization lower
  let weightDenominator ← checkedSub upper lower
  if weightDenominator = 0 then pctToWad flatPct
  else
    let weight ← divWad weightNumerator weightDenominator
    let lowerRate ← pctToWad lowerPct
    let upperRate ← pctToWad upperPct
    let rateRange ← checkedSub upperRate lowerRate
    let scaled ← mulWad weight rateRange
    checkedAdd scaled lowerRate

/-- Three pieces: to the optimal utilization, on to the maximal one, beyond. -/
def currentBorrowRateWad (reserve : ReserveRateSnapshot) : Except AprMathError (BitVec 128) := do
  let utilization ← utilizationWad reserve
  let optimalUtilization ← pctToWad reserve.optimalUtilizationRatePct.toUInt64
  let maxUtilization ← pctToWad reserve.maxUtilizationRatePct.toUInt64
  let optimalPct := reserve.optimalBorrowRatePct.toUInt64
  let maxPct := reserve.maxBorrowRatePct.toUInt64
  if utilization ≤ optimalUtilization then
    rateBelowOptimal reserve utilization optimalUtilization
  else if utilization ≤ maxUtilization then
    rateBetween utilization optimalUtilization maxUtilization optimalPct maxPct optimalPct
  else
    rateBetween utilization maxUtilization solendWad maxPct reserve.superMaxBorrowRatePct
      reserve.superMaxBorrowRatePct

def supplyAprWad (reserve : ReserveRateSnapshot) : Except AprMathError (BitVec 128) := do
  if !isReserveConfigValid reserve then .error .invalidConfig
  else
    let utilization ← utilizationWad reserve
    let borrowRate ← currentBorrowRateWad reserve
    let takeRate ← pctToWad reserve.protocolTakeRatePct.toUInt64
    let oneMinusTake ← checkedSub solendWad takeRate
    let afterTake ← mulWad utilization oneMinusTake
    mulWad borrowRate afterTake

/-- Whole basis points, saturating at the largest word. -/
def aprBpsFromWad (wad : BitVec 128) : UInt64 :=
  .ofNat (min (wad.toNat / bpsWad) (2 ^ 64 - 1))

/-- The rate of a reserve's account data; no result is a slice outside it. -/
def nativeSupplyAprFromReserveData (reserveData : List UInt8) :
    Decode FinalizeMarketReadError (BitVec 128 × UInt32) :=
  ExceptT.mk do
    match ← (decodeReserveRateSnapshot reserveData).run with
    | .error _ => some (.error .reserveDecodeFailed)
    | .ok reserve =>
        match supplyAprWad reserve with
        | .error _ => some (.error .aprComputationFailed)
        | .ok wad =>
            let bps := aprBpsFromWad wad
            if aprBpsSanityMax < bps then some (.error .aprOutOfRange)
            else some (.ok (wad, bps.toUInt32))

theorem nativeSupplyAprFromReserveData_total (reserveData : List UInt8) :
    Total (nativeSupplyAprFromReserveData reserveData) := by
  obtain ⟨result, hresult⟩ := decodeReserveRateSnapshot_total reserveData
  unfold nativeSupplyAprFromReserveData
  cases result with
  | error error => exact ⟨.error .reserveDecodeFailed, by simp [hresult]⟩
  | ok reserve =>
      cases hrate : supplyAprWad reserve with
      | error error => exact ⟨.error .aprComputationFailed, by simp [hresult, hrate]⟩
      | ok wad =>
          by_cases hrange : aprBpsSanityMax < aprBpsFromWad wad
          · exact ⟨.error .aprOutOfRange, by simp [hresult, hrate, hrange]⟩
          · exact ⟨.ok (wad, (aprBpsFromWad wad).toUInt32), by simp [hresult, hrate, hrange]⟩

end SolFrontier.Mcp
