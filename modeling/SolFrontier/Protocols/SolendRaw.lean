import SolFrontier.Foundation.Repository
import SolFrontier.Types.Pubkey

/-! # Solend account decoders

The read-model subset of an obligation and the executor's projection of a
reserve, copied from fixed byte ranges. A slice outside the bytes would panic;
`Decode` has no result then, apart from the fixed errors.
-/

namespace SolFrontier.Protocols

open Foundation Types

inductive DecodeError where
  | wrongSize (length : Nat)
  | paddingNonZero
  | arrayOverflow (deposits borrows : UInt8)
  | staleBitInvalid (value : UInt8)
  | boolInvalid (offset : Nat) (value : UInt8) (field : String)
  | reserveWrongSize (length : Nat)
  | reserveStaleBitInvalid (value : UInt8)
  deriving DecidableEq, Repr

/-- A decoder that fails with an error, or has no result where the code panics. -/
abbrev Decode (Error : Type) := ExceptT Error Option

/-- Go on with a value whose absence is a panic. -/
def orPanic {Error α : Type} (value : Option α) : Decode Error α := ExceptT.mk (value.map .ok)

/-- Go on with a value whose absence is an error. -/
def orThrow {Error α : Type} (value : Option α) (error : Error) : Decode Error α :=
  match value with
  | some value => pure value
  | none => throw error

/-- Fail with an error under a condition. -/
def rejectIf {Error : Type} (condition : Prop) [Decidable condition] (error : Error) :
    Decode Error Unit :=
  if condition then throw error else pure ()

/-! ## Computations that do not panic -/

/-- The computation ends, with a value or with an error. -/
def Total {Error α : Type} (decode : Decode Error α) : Prop := ∃ result, decode.run = some result

/-- The computation ends, and with a value under the given condition. -/
structure Decides {Error α : Type} (accepted : Prop) (decode : Decode Error α) : Prop where
  total : Total decode
  accepts : accepted → ∃ value, decode.run = some (.ok value)

section Runs

variable {Error α β : Type} {accepted : Prop}

theorem Total.pure (value : α) : Total (Pure.pure value : Decode Error α) := ⟨.ok value, rfl⟩

theorem run_bind (first : Decode Error α) (rest : α → Decode Error β) :
    (first >>= rest).run = first.run >>= fun result =>
      match result with
      | .ok value => (rest value).run
      | .error error => some (.error error) := by
  rfl

theorem run_bind_ok {first : Decode Error α} {rest : α → Decode Error β} {result : β} :
    (first >>= rest).run = some (.ok result) ↔
      ∃ value, first.run = some (.ok value) ∧ (rest value).run = some (.ok result) := by
  rw [run_bind]
  cases first.run with
  | none => simp
  | some outcome => cases outcome <;> simp

theorem run_pure_ok {value result : α} :
    (Pure.pure value : Decode Error α).run = some (.ok result) ↔ value = result := by
  show some (Except.ok value) = some (.ok result) ↔ value = result
  simp

theorem run_orPanic_ok {value : Option α} {content : α} :
    (orPanic value : Decode Error α).run = some (.ok content) ↔ value = some content := by
  show value.map Except.ok = some (.ok content) ↔ _
  simp

theorem run_orThrow_ok {value : Option α} {error : Error} {content : α} :
    (orThrow value error).run = some (.ok content) ↔ value = some content := by
  cases value with
  | none =>
      show some (Except.error error) = some (.ok content) ↔ _
      simp
  | some value => exact run_pure_ok.trans (by simp)

theorem run_rejectIf_ok {condition : Prop} [Decidable condition] {error : Error} {result : Unit} :
    (rejectIf condition error).run = some (.ok result) ↔ ¬ condition := by
  unfold rejectIf
  split
  next hcondition =>
    show some (Except.error error) = some (.ok result) ↔ _
    simp [hcondition]
  next hcondition => exact run_pure_ok.trans (by simp [hcondition])

namespace Decides

theorem pure (value : α) : Decides accepted (Pure.pure value : Decode Error α) :=
  ⟨Total.pure value, fun _ => ⟨value, rfl⟩⟩

/-- A check that an accepted input passes. -/
theorem rejectIf_bind {condition : Prop} [Decidable condition] {error : Error}
    {rest : Unit → Decode Error β} (hpasses : accepted → ¬ condition)
    (hrest : ¬ condition → Decides accepted (rest ())) :
    Decides accepted (rejectIf condition error >>= rest) := by
  by_cases hcondition : condition
  · rw [rejectIf, if_pos hcondition]
    exact ⟨⟨.error error, rfl⟩, fun haccepted => absurd hcondition (hpasses haccepted)⟩
  · rw [rejectIf, if_neg hcondition]
    exact hrest hcondition

/-- A value that is there. -/
theorem orPanic_bind {value : Option α} {rest : α → Decode Error β}
    (hvalue : ∃ content, value = some content)
    (hrest : ∀ content, value = some content → Decides accepted (rest content)) :
    Decides accepted (orPanic value >>= rest) := by
  obtain ⟨content, rfl⟩ := hvalue
  exact hrest content rfl

/-- A value that an accepted input has. -/
theorem orThrow_bind {value : Option α} {error : Error} {rest : α → Decode Error β}
    (hvalue : accepted → ∃ content, value = some content)
    (hrest : ∀ content, value = some content → Decides accepted (rest content)) :
    Decides accepted (orThrow value error >>= rest) := by
  cases value with
  | none =>
      refine ⟨⟨.error error, rfl⟩, fun haccepted => ?_⟩
      obtain ⟨content, hcontent⟩ := hvalue haccepted
      cases hcontent
  | some content => exact hrest content rfl

end Decides

end Runs

/-! ## Reading -/

/-- The bytes of a range. -/
def slice (data : List UInt8) (offset count : Nat) : Option (Bytes count) :=
  let list := (data.drop offset).take count
  if h : list.length = count then some ⟨list, h⟩ else none

def readByte (data : List UInt8) (offset : Nat) : Option UInt8 := data[offset]?

def readU64Le (data : List UInt8) (offset : Nat) : Option UInt64 :=
  (slice data offset 8).map fun bytes => .ofNat (Codec.ofLeBytes bytes.1)

def readU128Le (data : List UInt8) (offset : Nat) : Option (BitVec 128) :=
  (slice data offset 16).map fun bytes => .ofNat 128 (Codec.ofLeBytes bytes.1)

def readPubkey (data : List UInt8) (offset : Nat) : Option PubkeyBytes :=
  (slice data offset 32).map PubkeyBytes.mk

theorem exists_slice {data : List UInt8} {offset count : Nat} (hrange : offset + count ≤ data.length) :
    ∃ bytes, slice data offset count = some bytes := by
  have hlength : ((data.drop offset).take count).length = count := by
    rw [List.length_take, List.length_drop]
    omega
  exact ⟨⟨_, hlength⟩, dif_pos hlength⟩

theorem exists_readByte {data : List UInt8} {offset : Nat} (hrange : offset < data.length) :
    ∃ byte, readByte data offset = some byte :=
  ⟨data[offset], List.getElem?_eq_getElem hrange⟩

theorem exists_readU64Le {data : List UInt8} {offset : Nat} (hrange : offset + 8 ≤ data.length) :
    ∃ value, readU64Le data offset = some value := by
  obtain ⟨bytes, hbytes⟩ := exists_slice hrange
  simp [readU64Le, hbytes]

theorem exists_readU128Le {data : List UInt8} {offset : Nat} (hrange : offset + 16 ≤ data.length) :
    ∃ value, readU128Le data offset = some value := by
  obtain ⟨bytes, hbytes⟩ := exists_slice hrange
  simp [readU128Le, hbytes]

theorem exists_readPubkey {data : List UInt8} {offset : Nat} (hrange : offset + 32 ≤ data.length) :
    ∃ pubkey, readPubkey data offset = some pubkey := by
  obtain ⟨bytes, hbytes⟩ := exists_slice hrange
  simp [readPubkey, hbytes]

/-- Only zero and one are booleans. -/
def readBool (value : UInt8) : Option Bool :=
  match value with
  | 0 => some false
  | 1 => some true
  | _ => none

/-! ## Obligations -/

def obligationLen : Nat := 1300

def oblDataFlatLen : Nat := obligationLen - 204

def obligationCollateralLen : Nat := 88

def obligationLiquidityLen : Nat := 112

structure SolendObligationCollateralRaw where
  depositReserve : PubkeyBytes
  depositedAmount : UInt64
  deriving DecidableEq, Repr

structure SolendObligationLiquidityRaw where
  borrowReserve : PubkeyBytes
  borrowedAmountWads : BitVec 128
  deriving DecidableEq, Repr

structure SolendObligationRaw where
  version : UInt8
  lastUpdateSlot : UInt64
  lastUpdateStale : Bool
  lendingMarket : PubkeyBytes
  owner : PubkeyBytes
  deposits : List SolendObligationCollateralRaw
  borrows : List SolendObligationLiquidityRaw
  borrowedValueUpperBoundWads : BitVec 128
  borrowingIsolatedAsset : Bool
  superUnhealthyBorrowValueWads : BitVec 128
  unweightedBorrowedValueWads : BitVec 128
  closeable : Bool
  deriving DecidableEq, Repr

def readCollateral (data : List UInt8) (base : Nat) : Option SolendObligationCollateralRaw := do
  let depositReserve ← readPubkey data base
  let depositedAmount ← readU64Le data (base + 32)
  some { depositReserve, depositedAmount }

def readLiquidity (data : List UInt8) (base : Nat) : Option SolendObligationLiquidityRaw := do
  let borrowReserve ← readPubkey data base
  let borrowedAmountWads ← readU128Le data (base + 48)
  some { borrowReserve, borrowedAmountWads }

/-- Deposits lie at the front of the flat area, borrows follow them. -/
def decodeObligation (data : List UInt8) : Decode DecodeError SolendObligationRaw := do
  rejectIf (data.length ≠ obligationLen) (.wrongSize data.length)
  let padding ← orPanic (slice data 188 14)
  rejectIf (padding.1.any (· ≠ 0)) .paddingNonZero
  let staleByte ← orPanic (readByte data 9)
  let lastUpdateStale ← orThrow (readBool staleByte) (.staleBitInvalid staleByte)
  let isolatedByte ← orPanic (readByte data 154)
  let borrowingIsolatedAsset ← orThrow (readBool isolatedByte)
    (.boolInvalid 154 isolatedByte "borrowing_isolated_asset")
  let closeableByte ← orPanic (readByte data 187)
  let closeable ← orThrow (readBool closeableByte) (.boolInvalid 187 closeableByte "closeable")
  let depositsLen ← orPanic (readByte data 202)
  let borrowsLen ← orPanic (readByte data 203)
  let totalArrayBytes := depositsLen.toNat * obligationCollateralLen +
    borrowsLen.toNat * obligationLiquidityLen
  rejectIf (oblDataFlatLen < totalArrayBytes) (.arrayOverflow depositsLen borrowsLen)
  let deposits ← orPanic ((List.range depositsLen.toNat).mapM fun index =>
    readCollateral data (204 + index * obligationCollateralLen))
  let borrowsStart := 204 + depositsLen.toNat * obligationCollateralLen
  let borrows ← orPanic ((List.range borrowsLen.toNat).mapM fun index =>
    readLiquidity data (borrowsStart + index * obligationLiquidityLen))
  let version ← orPanic (readByte data 0)
  let lastUpdateSlot ← orPanic (readU64Le data 1)
  let lendingMarket ← orPanic (readPubkey data 10)
  let owner ← orPanic (readPubkey data 42)
  let borrowedValueUpperBoundWads ← orPanic (readU128Le data 138)
  let superUnhealthyBorrowValueWads ← orPanic (readU128Le data 155)
  let unweightedBorrowedValueWads ← orPanic (readU128Le data 171)
  pure
    { version, lastUpdateSlot, lastUpdateStale, lendingMarket, owner, deposits, borrows
      borrowedValueUpperBoundWads, borrowingIsolatedAsset, superUnhealthyBorrowValueWads
      unweightedBorrowedValueWads, closeable }

/-! ## Reserves -/

def reserveLen : Nat := 619

structure SolendReserveRaw where
  lastUpdateSlot : UInt64
  lastUpdateStale : Bool
  lendingMarket : PubkeyBytes
  liquidityMint : PubkeyBytes
  liquidityMintDecimals : UInt8
  liquiditySupply : PubkeyBytes
  pythOracle : PubkeyBytes
  switchboardOracle : PubkeyBytes
  collateralMint : PubkeyBytes
  collateralSupply : PubkeyBytes
  deriving DecidableEq, Repr

def decodeReserve (data : List UInt8) : Decode DecodeError SolendReserveRaw := do
  rejectIf (data.length ≠ reserveLen) (.reserveWrongSize data.length)
  let staleByte ← orPanic (readByte data 9)
  let lastUpdateStale ← orThrow (readBool staleByte) (.reserveStaleBitInvalid staleByte)
  let lastUpdateSlot ← orPanic (readU64Le data 1)
  let lendingMarket ← orPanic (readPubkey data 10)
  let liquidityMint ← orPanic (readPubkey data 42)
  let liquidityMintDecimals ← orPanic (readByte data 74)
  let liquiditySupply ← orPanic (readPubkey data 75)
  let pythOracle ← orPanic (readPubkey data 107)
  let switchboardOracle ← orPanic (readPubkey data 139)
  let collateralMint ← orPanic (readPubkey data 227)
  let collateralSupply ← orPanic (readPubkey data 267)
  pure
    { lastUpdateSlot, lastUpdateStale, lendingMarket, liquidityMint, liquidityMintDecimals
      liquiditySupply, pythOracle, switchboardOracle, collateralMint, collateralSupply }

theorem exists_readCollateral {data : List UInt8} {base : Nat} (hrange : base + 40 ≤ data.length) :
    ∃ collateral, readCollateral data base = some collateral := by
  obtain ⟨reserve, hreserve⟩ := exists_readPubkey (show base + 32 ≤ data.length by omega)
  obtain ⟨amount, hamount⟩ := exists_readU64Le (show base + 32 + 8 ≤ data.length by omega)
  simp [readCollateral, hreserve, hamount]

theorem exists_readLiquidity {data : List UInt8} {base : Nat} (hrange : base + 64 ≤ data.length) :
    ∃ liquidity, readLiquidity data base = some liquidity := by
  obtain ⟨reserve, hreserve⟩ := exists_readPubkey (show base + 32 ≤ data.length by omega)
  obtain ⟨amount, hamount⟩ := exists_readU128Le (show base + 48 + 16 ≤ data.length by omega)
  simp [readLiquidity, hreserve, hamount]

/-! ## What the decoders accept -/

/-- The checks of an obligation's bytes. -/
structure AcceptedObligation (data : List UInt8) : Prop where
  length : data.length = 1300
  padding : ∀ offset, 188 ≤ offset → offset < 202 → data[offset]? = some 0
  stale : data[9]? = some 0 ∨ data[9]? = some 1
  isolated : data[154]? = some 0 ∨ data[154]? = some 1
  closeable : data[187]? = some 0 ∨ data[187]? = some 1
  arrays : ∃ deposits borrows, data[202]? = some deposits ∧ data[203]? = some borrows ∧
    88 * deposits.toNat + 112 * borrows.toNat ≤ 1096

/-- The checks of a reserve's bytes. -/
structure AcceptedReserve (data : List UInt8) : Prop where
  length : data.length = 619
  stale : data[9]? = some 0 ∨ data[9]? = some 1

theorem AcceptedObligation.arrays_fit {data : List UInt8} (haccepted : AcceptedObligation data)
    {depositsLen borrowsLen : UInt8} (hdeposits : readByte data 202 = some depositsLen)
    (hborrows : readByte data 203 = some borrowsLen) :
    88 * depositsLen.toNat + 112 * borrowsLen.toNat ≤ 1096 := by
  obtain ⟨deposits, borrows, hfirst, hsecond, hbound⟩ := haccepted.arrays
  obtain rfl : deposits = depositsLen := Option.some.inj (hfirst.symm.trans hdeposits)
  obtain rfl : borrows = borrowsLen := Option.some.inj (hsecond.symm.trans hborrows)
  exact hbound

/-- A boolean byte that was read can be decoded. -/
theorem exists_readBool {data : List UInt8} {offset : Nat} {byte : UInt8}
    (hread : readByte data offset = some byte)
    (hbool : data[offset]? = some 0 ∨ data[offset]? = some 1) :
    ∃ value, readBool byte = some value := by
  have hbyte : data[offset]? = some byte := hread
  rcases hbool with hzero | hone
  · obtain rfl : byte = 0 := Option.some.inj (hbyte.symm.trans hzero)
    exact ⟨false, rfl⟩
  · obtain rfl : byte = 1 := Option.some.inj (hbyte.symm.trans hone)
    exact ⟨true, rfl⟩

theorem slice_eq_some {data : List UInt8} {offset count : Nat} {bytes : Bytes count} :
    slice data offset count = some bytes ↔ (data.drop offset).take count = bytes.1 := by
  unfold slice
  dsimp only
  constructor
  · intro hslice
    split at hslice
    next => rw [← Option.some.inj hslice]
    next => cases hslice
  · intro hbytes
    rw [dif_pos (by rw [hbytes, bytes.2])]
    exact congrArg some (Subtype.ext hbytes)

theorem getElem?_slice {data : List UInt8} {offset count : Nat} {bytes : Bytes count}
    (hslice : slice data offset count = some bytes) {index : Nat} (hindex : index < count) :
    data[offset + index]? = bytes.1[index]? := by
  rw [← slice_eq_some.mp hslice, List.getElem?_take_of_lt hindex, List.getElem?_drop]

theorem padding_zero {data : List UInt8} {padding : Bytes 14}
    (hpadding : slice data 188 14 = some padding)
    (hzero : ∀ offset, 188 ≤ offset → offset < 202 → data[offset]? = some 0) :
    ¬ padding.1.any (· ≠ 0) := by
  intro hany
  obtain ⟨byte, hbyte, hne⟩ := List.any_eq_true.mp hany
  obtain ⟨index, hindex, rfl⟩ := List.mem_iff_getElem.mp hbyte
  have hrange : index < 14 := padding.2 ▸ hindex
  have hread := getElem?_slice hpadding hrange
  rw [hzero (188 + index) (by omega) (by omega), List.getElem?_eq_getElem hindex] at hread
  exact of_decide_eq_true hne (Option.some.inj hread).symm

/-- Arrays that pass the overflow check lie inside the flat area. -/
theorem decodeObligation_decides (data : List UInt8) :
    Decides (AcceptedObligation data) (decodeObligation data) := by
  unfold decodeObligation
  refine Decides.rejectIf_bind (fun haccepted => not_not.mpr haccepted.length) fun hlength => ?_
  have hsize : data.length = 1300 := not_not.mp hlength
  refine Decides.orPanic_bind (exists_slice (by omega)) fun padding hpadding => ?_
  refine Decides.rejectIf_bind (fun haccepted => padding_zero hpadding haccepted.padding)
    fun _ => ?_
  refine Decides.orPanic_bind (exists_readByte (by omega)) fun staleByte hstale => ?_
  refine Decides.orThrow_bind (fun haccepted => exists_readBool hstale haccepted.stale)
    fun _ _ => ?_
  refine Decides.orPanic_bind (exists_readByte (by omega)) fun isolatedByte hisolated => ?_
  refine Decides.orThrow_bind (fun haccepted => exists_readBool hisolated haccepted.isolated)
    fun _ _ => ?_
  refine Decides.orPanic_bind (exists_readByte (by omega)) fun closeableByte hcloseable => ?_
  refine Decides.orThrow_bind (fun haccepted => exists_readBool hcloseable haccepted.closeable)
    fun _ _ => ?_
  refine Decides.orPanic_bind (exists_readByte (by omega)) fun depositsLen hdeposits => ?_
  refine Decides.orPanic_bind (exists_readByte (by omega)) fun borrowsLen hborrows => ?_
  refine Decides.rejectIf_bind (fun haccepted => ?_) fun hfits => ?_
  · have hbound := haccepted.arrays_fit hdeposits hborrows
    intro hoverflow
    have hlarge : 1096 < depositsLen.toNat * 88 + borrowsLen.toNat * 112 := hoverflow
    omega
  have harrays : depositsLen.toNat * 88 + borrowsLen.toNat * 112 ≤ 1096 := not_lt.mp hfits
  -- The last element of each array ends where the array does.
  refine Decides.orPanic_bind (exists_mapM_eq_some fun index hindex => ?_) fun deposits _ => ?_
  · have hlt := List.mem_range.mp hindex
    exact exists_readCollateral (by simp only [obligationCollateralLen]; omega)
  refine Decides.orPanic_bind (exists_mapM_eq_some fun index hindex => ?_) fun borrows _ => ?_
  · have hlt := List.mem_range.mp hindex
    exact exists_readLiquidity (by simp only [obligationCollateralLen, obligationLiquidityLen]; omega)
  refine Decides.orPanic_bind (exists_readByte (by omega)) fun _ _ => ?_
  refine Decides.orPanic_bind (exists_readU64Le (by omega)) fun _ _ => ?_
  refine Decides.orPanic_bind (exists_readPubkey (by omega)) fun _ _ => ?_
  refine Decides.orPanic_bind (exists_readPubkey (by omega)) fun _ _ => ?_
  refine Decides.orPanic_bind (exists_readU128Le (by omega)) fun _ _ => ?_
  refine Decides.orPanic_bind (exists_readU128Le (by omega)) fun _ _ => ?_
  refine Decides.orPanic_bind (exists_readU128Le (by omega)) fun _ _ => ?_
  exact Decides.pure _

theorem decodeObligation_total (data : List UInt8) : Total (decodeObligation data) :=
  (decodeObligation_decides data).total

/-- Once the length is right, every range is inside the bytes. -/
theorem decodeReserve_decides (data : List UInt8) :
    Decides (AcceptedReserve data) (decodeReserve data) := by
  unfold decodeReserve
  refine Decides.rejectIf_bind (fun haccepted => not_not.mpr haccepted.length) fun hlength => ?_
  have hsize : data.length = 619 := not_not.mp hlength
  refine Decides.orPanic_bind (exists_readByte (by omega)) fun staleByte hstale => ?_
  refine Decides.orThrow_bind (fun haccepted => exists_readBool hstale haccepted.stale)
    fun _ _ => ?_
  refine Decides.orPanic_bind (exists_readU64Le (by omega)) fun _ _ => ?_
  refine Decides.orPanic_bind (exists_readPubkey (by omega)) fun _ _ => ?_
  refine Decides.orPanic_bind (exists_readPubkey (by omega)) fun _ _ => ?_
  refine Decides.orPanic_bind (exists_readByte (by omega)) fun _ _ => ?_
  refine Decides.orPanic_bind (exists_readPubkey (by omega)) fun _ _ => ?_
  refine Decides.orPanic_bind (exists_readPubkey (by omega)) fun _ _ => ?_
  refine Decides.orPanic_bind (exists_readPubkey (by omega)) fun _ _ => ?_
  refine Decides.orPanic_bind (exists_readPubkey (by omega)) fun _ _ => ?_
  refine Decides.orPanic_bind (exists_readPubkey (by omega)) fun _ _ => ?_
  exact Decides.pure _

theorem decodeReserve_total (data : List UInt8) : Total (decodeReserve data) :=
  (decodeReserve_decides data).total

end SolFrontier.Protocols
