import SolFrontier.Foundation.Layout
import SolFrontier.Protocols.SolendRaw

/-! # The layout of an obligation

Where the bytes of an obligation's fields stand. An account decodes to an
obligation exactly when its bytes are laid out as that obligation, and every
obligation whose arrays fit the flat area has such an account.
-/

namespace SolFrontier.Protocols

open Foundation Types

def le64 (value : UInt64) : List UInt8 := Codec.leBytes 8 value.toNat

def le128 (value : BitVec 128) : List UInt8 := Codec.leBytes 16 value.toNat

def boolByte (value : Bool) : UInt8 := if value then 1 else 0

@[simp] theorem length_le64 (value : UInt64) : (le64 value).length = 8 :=
  Codec.length_leBytes 8 value.toNat

@[simp] theorem length_le128 (value : BitVec 128) : (le128 value).length = 16 :=
  Codec.length_leBytes 16 value.toNat

@[simp] theorem length_pubkey (pubkey : PubkeyBytes) : pubkey.bytes.1.length = 32 := pubkey.bytes.2

/-! ## Reading at an offset -/

section Reads

variable {data : List UInt8} {offset : Nat}

/-- A slice that denotes a number is its little-endian bytes. -/
theorem exists_slice_ofLeBytes {width value : Nat} (hvalue : value < 256 ^ width) :
    (∃ bytes, slice data offset width = some bytes ∧ Codec.ofLeBytes bytes.1 = value) ↔
      Holds data offset (Codec.leBytes width value) := by
  constructor
  · rintro ⟨bytes, hslice, rfl⟩
    have hbytes := Codec.leBytes_ofLeBytes bytes.1
    rw [bytes.2] at hbytes
    rw [hbytes, Holds, bytes.2]
    exact slice_eq_some.mp hslice
  · intro hholds
    rw [Holds, Codec.length_leBytes] at hholds
    exact ⟨⟨Codec.leBytes width value, Codec.length_leBytes width value⟩,
      slice_eq_some.mpr hholds, Codec.ofLeBytes_leBytes hvalue⟩

theorem readU64Le_eq_some {value : UInt64} :
    readU64Le data offset = some value ↔ Holds data offset (le64 value) := by
  have hvalue : value.toNat < 256 ^ 8 := by
    have hlt := value.toNat_lt
    norm_num
    exact hlt
  rw [le64, ← exists_slice_ofLeBytes hvalue, readU64Le, Option.map_eq_some_iff]
  refine exists_congr fun bytes => and_congr_right fun _ => ?_
  have hbytes : Codec.ofLeBytes bytes.1 < 2 ^ 64 := by
    have hlt := Codec.ofLeBytes_lt bytes.1
    rw [bytes.2] at hlt
    norm_num at hlt ⊢
    exact hlt
  constructor
  · rintro rfl
    exact (UInt64.toNat_ofNat_of_lt' hbytes).symm
  · intro hnat
    rw [hnat, UInt64.ofNat_toNat]

theorem readU128Le_eq_some {value : BitVec 128} :
    readU128Le data offset = some value ↔ Holds data offset (le128 value) := by
  have hvalue : value.toNat < 256 ^ 16 := by
    have hlt := value.isLt
    norm_num at hlt ⊢
    exact hlt
  rw [le128, ← exists_slice_ofLeBytes hvalue, readU128Le, Option.map_eq_some_iff]
  refine exists_congr fun bytes => and_congr_right fun _ => ?_
  have hbytes : Codec.ofLeBytes bytes.1 < 2 ^ 128 := by
    have hlt := Codec.ofLeBytes_lt bytes.1
    rw [bytes.2] at hlt
    norm_num at hlt ⊢
    exact hlt
  constructor
  · rintro rfl
    rw [BitVec.toNat_ofNat, Nat.mod_eq_of_lt hbytes]
  · intro hnat
    rw [hnat, BitVec.ofNat_toNat, BitVec.setWidth_eq]

theorem readPubkey_eq_some {pubkey : PubkeyBytes} :
    readPubkey data offset = some pubkey ↔ Holds data offset pubkey.bytes.1 := by
  rw [Holds, length_pubkey, ← slice_eq_some, readPubkey, Option.map_eq_some_iff]
  constructor
  · rintro ⟨bytes, hslice, rfl⟩
    exact hslice
  · intro hslice
    exact ⟨pubkey.bytes, hslice, rfl⟩

end Reads

theorem readBool_eq_some {byte : UInt8} {value : Bool} :
    readBool byte = some value ↔ byte = boolByte value := by
  unfold readBool
  split
  · cases value <;> simp [boolByte]
  · cases value <;> simp [boolByte]
  next hzero hone =>
    constructor
    · intro hnone
      cases hnone
    · rintro rfl
      cases value
      · exact absurd rfl hzero
      · exact absurd rfl hone

theorem boolByte_cases {data : List UInt8} {offset : Nat} {value : Bool}
    (hbyte : data[offset]? = some (boolByte value)) :
    data[offset]? = some 0 ∨ data[offset]? = some 1 := by
  cases value
  · exact .inl hbyte
  · exact .inr hbyte

theorem range_mapM_eq_some {α : Type} {step : Nat → Option α} {count : Nat} {results : List α} :
    (List.range count).mapM step = some results ↔
      count = results.length ∧
        ∀ index, (hindex : index < results.length) → step index = some results[index] := by
  rw [mapM_eq_some, List.forall₂_iff_get]
  constructor
  · rintro ⟨hlength, hsteps⟩
    refine ⟨List.length_range.symm.trans hlength, fun index hindex => ?_⟩
    have hstep := hsteps index (hlength ▸ hindex) hindex
    rwa [List.get_eq_getElem, List.getElem_range] at hstep
  · rintro ⟨hcount, hsteps⟩
    refine ⟨List.length_range.trans hcount, fun index hrange hindex => ?_⟩
    rw [List.get_eq_getElem, List.getElem_range]
    exact hsteps index hindex

/-! ## The layout -/

/-- A deposit's bytes. -/
structure CollateralAt (data : List UInt8) (base : Nat)
    (collateral : SolendObligationCollateralRaw) : Prop where
  depositReserve : Holds data base collateral.depositReserve.bytes.1
  depositedAmount : Holds data (base + 32) (le64 collateral.depositedAmount)

/-- A borrow's bytes. -/
structure LiquidityAt (data : List UInt8) (base : Nat)
    (liquidity : SolendObligationLiquidityRaw) : Prop where
  borrowReserve : Holds data base liquidity.borrowReserve.bytes.1
  borrowedAmountWads : Holds data (base + 48) (le128 liquidity.borrowedAmountWads)

theorem readCollateral_eq_some {data : List UInt8} {base : Nat}
    {collateral : SolendObligationCollateralRaw} :
    readCollateral data base = some collateral ↔ CollateralAt data base collateral := by
  simp only [readCollateral, Option.bind_eq_bind, Option.bind_eq_some_iff, Option.some.injEq,
    readPubkey_eq_some, readU64Le_eq_some]
  constructor
  · rintro ⟨reserve, hreserve, amount, hamount, rfl⟩
    exact ⟨hreserve, hamount⟩
  · rintro ⟨hreserve, hamount⟩
    exact ⟨_, hreserve, _, hamount, rfl⟩

theorem readLiquidity_eq_some {data : List UInt8} {base : Nat}
    {liquidity : SolendObligationLiquidityRaw} :
    readLiquidity data base = some liquidity ↔ LiquidityAt data base liquidity := by
  simp only [readLiquidity, Option.bind_eq_bind, Option.bind_eq_some_iff, Option.some.injEq,
    readPubkey_eq_some, readU128Le_eq_some]
  constructor
  · rintro ⟨reserve, hreserve, amount, hamount, rfl⟩
    exact ⟨hreserve, hamount⟩
  · rintro ⟨hreserve, hamount⟩
    exact ⟨_, hreserve, _, hamount, rfl⟩

/-- The account bytes of an obligation; the first borrow follows the last deposit. -/
structure ObligationLayout (data : List UInt8) (obligation : SolendObligationRaw) : Prop where
  length : data.length = 1300
  padding : ∀ offset, 188 ≤ offset → offset < 202 → data[offset]? = some 0
  version : data[0]? = some obligation.version
  lastUpdateSlot : Holds data 1 (le64 obligation.lastUpdateSlot)
  lastUpdateStale : data[9]? = some (boolByte obligation.lastUpdateStale)
  lendingMarket : Holds data 10 obligation.lendingMarket.bytes.1
  owner : Holds data 42 obligation.owner.bytes.1
  borrowedValueUpperBoundWads : Holds data 138 (le128 obligation.borrowedValueUpperBoundWads)
  borrowingIsolatedAsset : data[154]? = some (boolByte obligation.borrowingIsolatedAsset)
  superUnhealthyBorrowValueWads : Holds data 155 (le128 obligation.superUnhealthyBorrowValueWads)
  unweightedBorrowedValueWads : Holds data 171 (le128 obligation.unweightedBorrowedValueWads)
  closeable : data[187]? = some (boolByte obligation.closeable)
  depositsLen : ∃ count, data[202]? = some count ∧ count.toNat = obligation.deposits.length
  borrowsLen : ∃ count, data[203]? = some count ∧ count.toNat = obligation.borrows.length
  fits : 88 * obligation.deposits.length + 112 * obligation.borrows.length ≤ 1096
  deposits : ∀ index, (hindex : index < obligation.deposits.length) →
    CollateralAt data (204 + 88 * index) obligation.deposits[index]
  borrows : ∀ index, (hindex : index < obligation.borrows.length) →
    LiquidityAt data (204 + 88 * obligation.deposits.length + 112 * index)
      obligation.borrows[index]

theorem ObligationLayout.accepted {data : List UInt8} {obligation : SolendObligationRaw}
    (hlayout : ObligationLayout data obligation) : AcceptedObligation data where
  length := hlayout.length
  padding := hlayout.padding
  stale := boolByte_cases hlayout.lastUpdateStale
  isolated := boolByte_cases hlayout.borrowingIsolatedAsset
  closeable := boolByte_cases hlayout.closeable
  arrays := by
    obtain ⟨deposits, hdeposits, hdepositsLen⟩ := hlayout.depositsLen
    obtain ⟨borrows, hborrows, hborrowsLen⟩ := hlayout.borrowsLen
    refine ⟨deposits, borrows, hdeposits, hborrows, ?_⟩
    rw [hdepositsLen, hborrowsLen]
    exact hlayout.fits

/-- Zero bytes pass the padding check, and only they do. -/
theorem padding_of_slice {data : List UInt8} {padding : Bytes 14}
    (hpadding : slice data 188 14 = some padding) (hzero : ¬ padding.1.any (· ≠ 0)) (offset : Nat)
    (hfirst : 188 ≤ offset) (hlast : offset < 202) : data[offset]? = some 0 := by
  obtain ⟨index, rfl⟩ := Nat.exists_eq_add_of_le hfirst
  have hindex : index < padding.1.length := by
    rw [padding.2]
    omega
  rw [getElem?_slice hpadding (by omega), List.getElem?_eq_getElem hindex]
  have hbyte : padding.1[index] = 0 := by
    by_contra hne
    exact hzero (List.any_eq_true.mpr ⟨_, List.getElem_mem hindex, decide_eq_true hne⟩)
  rw [hbyte]

/-- What decodes is laid out as the obligation it decodes to. -/
theorem layout_of_decodeObligation {data : List UInt8} {obligation : SolendObligationRaw}
    (hdecode : (decodeObligation data).run = some (.ok obligation)) :
    ObligationLayout data obligation := by
  -- Each read becomes a fact about the bytes at its offset, in the order of the reads.
  simp only [decodeObligation, run_bind_ok, run_rejectIf_ok, run_orPanic_ok, run_orThrow_ok,
    run_pure_ok, readU64Le_eq_some, readU128Le_eq_some, readPubkey_eq_some, readBool_eq_some,
    range_mapM_eq_some, readCollateral_eq_some, readLiquidity_eq_some] at hdecode
  obtain ⟨_, hlength, padding, hpadding, _, hzero, staleByte, hstale, stale, rfl, isolatedByte,
    hisolated, isolated, rfl, closeableByte, hcloseable, closeable, rfl, depositsLen, hdepositsLen,
    borrowsLen, hborrowsLen, _, hfits, deposits, ⟨hdepositsCount, hdeposits⟩, borrows,
    ⟨hborrowsCount, hborrows⟩, version, hversion, slot, hslot, market, hmarket, owner, howner,
    upperBound, hupperBound, superUnhealthy, hsuperUnhealthy, unweighted, hunweighted, rfl⟩ :=
    hdecode
  have harrays : depositsLen.toNat * 88 + borrowsLen.toNat * 112 ≤ 1096 := not_lt.mp hfits
  refine
    { length := not_not.mp hlength
      padding := padding_of_slice hpadding hzero
      version := hversion
      lastUpdateSlot := hslot
      lastUpdateStale := hstale
      lendingMarket := hmarket
      owner := howner
      borrowedValueUpperBoundWads := hupperBound
      borrowingIsolatedAsset := hisolated
      superUnhealthyBorrowValueWads := hsuperUnhealthy
      unweightedBorrowedValueWads := hunweighted
      closeable := hcloseable
      depositsLen := ⟨depositsLen, hdepositsLen, hdepositsCount⟩
      borrowsLen := ⟨borrowsLen, hborrowsLen, hborrowsCount⟩
      fits := ?_
      deposits := fun index hindex => ?_
      borrows := fun index hindex => ?_ }
  · show 88 * deposits.length + 112 * borrows.length ≤ 1096
    omega
  · rw [Nat.mul_comm]
    exact hdeposits index hindex
  · have hborrow := hborrows index hindex
    simp only [obligationCollateralLen, obligationLiquidityLen, hdepositsCount] at hborrow
    rw [Nat.mul_comm 88, Nat.mul_comm 112]
    exact hborrow

/-- Bytes that are laid out as an obligation decode to it. -/
theorem decodeObligation_of_layout {data : List UInt8} {obligation : SolendObligationRaw}
    (hlayout : ObligationLayout data obligation) :
    (decodeObligation data).run = some (.ok obligation) := by
  have hsize := hlayout.length
  obtain ⟨padding, hpadding⟩ := exists_slice (show 188 + 14 ≤ data.length by omega)
  obtain ⟨depositsLen, hdepositsLen, hdepositsCount⟩ := hlayout.depositsLen
  obtain ⟨borrowsLen, hborrowsLen, hborrowsCount⟩ := hlayout.borrowsLen
  have hfits := hlayout.fits
  simp only [decodeObligation, run_bind_ok, run_rejectIf_ok, run_orPanic_ok, run_orThrow_ok,
    run_pure_ok, readU64Le_eq_some, readU128Le_eq_some, readPubkey_eq_some, readBool_eq_some,
    range_mapM_eq_some, readCollateral_eq_some, readLiquidity_eq_some]
  refine ⟨(), not_not.mpr hsize, padding, hpadding, (), padding_zero hpadding hlayout.padding,
    _, hlayout.lastUpdateStale, _, rfl, _, hlayout.borrowingIsolatedAsset, _, rfl,
    _, hlayout.closeable, _, rfl, depositsLen, hdepositsLen, borrowsLen, hborrowsLen, (), ?_,
    obligation.deposits, ⟨hdepositsCount, fun index hindex => ?_⟩, obligation.borrows,
    ⟨hborrowsCount, fun index hindex => ?_⟩, _, hlayout.version, _, hlayout.lastUpdateSlot,
    _, hlayout.lendingMarket, _, hlayout.owner, _, hlayout.borrowedValueUpperBoundWads,
    _, hlayout.superUnhealthyBorrowValueWads, _, hlayout.unweightedBorrowedValueWads, rfl⟩
  · intro hoverflow
    have hlarge : 1096 < depositsLen.toNat * 88 + borrowsLen.toNat * 112 := hoverflow
    omega
  · rw [obligationCollateralLen, Nat.mul_comm]
    exact hlayout.deposits index hindex
  · rw [obligationCollateralLen, obligationLiquidityLen, hdepositsCount, Nat.mul_comm _ 88,
      Nat.mul_comm _ 112]
    exact hlayout.borrows index hindex

theorem decodeObligation_eq_ok {data : List UInt8} {obligation : SolendObligationRaw} :
    (decodeObligation data).run = some (.ok obligation) ↔ ObligationLayout data obligation :=
  ⟨layout_of_decodeObligation, decodeObligation_of_layout⟩

theorem decodeObligation_accepts_iff {data : List UInt8} :
    (∃ obligation, (decodeObligation data).run = some (.ok obligation)) ↔
      AcceptedObligation data := by
  constructor
  · rintro ⟨obligation, hdecode⟩
    exact (layout_of_decodeObligation hdecode).accepted
  · exact (decodeObligation_decides data).accepts

/-! ## Building an account -/

/-- The deposits from an offset on. -/
def collateralSegments : Nat → List SolendObligationCollateralRaw → List Segment
  | _, [] => []
  | base, collateral :: rest =>
      (base, collateral.depositReserve.bytes.1) ::
        (base + 32, le64 collateral.depositedAmount) ::
          collateralSegments (base + obligationCollateralLen) rest

/-- The borrows from an offset on. -/
def liquiditySegments : Nat → List SolendObligationLiquidityRaw → List Segment
  | _, [] => []
  | base, liquidity :: rest =>
      (base, liquidity.borrowReserve.bytes.1) ::
        (base + 48, le128 liquidity.borrowedAmountWads) ::
          liquiditySegments (base + obligationLiquidityLen) rest

/-- The fields before the flat area. -/
def headerSegments (obligation : SolendObligationRaw) : List Segment :=
  [(0, [obligation.version]), (1, le64 obligation.lastUpdateSlot),
    (9, [boolByte obligation.lastUpdateStale]), (10, obligation.lendingMarket.bytes.1),
    (42, obligation.owner.bytes.1), (138, le128 obligation.borrowedValueUpperBoundWads),
    (154, [boolByte obligation.borrowingIsolatedAsset]),
    (155, le128 obligation.superUnhealthyBorrowValueWads),
    (171, le128 obligation.unweightedBorrowedValueWads), (187, [boolByte obligation.closeable]),
    (188, List.replicate 14 0), (202, [.ofNat obligation.deposits.length]),
    (203, [.ofNat obligation.borrows.length])]

def obligationSegments (obligation : SolendObligationRaw) : List Segment :=
  headerSegments obligation ++
    (collateralSegments 204 obligation.deposits ++
      liquiditySegments (204 + obligationCollateralLen * obligation.deposits.length)
        obligation.borrows)

/-- An account of the obligation; what no field names is zero. -/
def encodeObligation (obligation : SolendObligationRaw) : List UInt8 :=
  assemble 0 (obligationSegments obligation) obligationLen

theorem apart_collateralSegments (base : Nat) (deposits : List SolendObligationCollateralRaw) :
    Apart base (collateralSegments base deposits) (base + 88 * deposits.length) := by
  induction deposits generalizing base with
  | nil => exact Nat.le_add_right _ _
  | cons collateral rest ih =>
      have hrest := ih (base + 88)
      rw [show base + 88 + 88 * rest.length = base + 88 * (rest.length + 1) by omega] at hrest
      refine ⟨Nat.le_refl _, ?_, hrest.widen ?_⟩
      · rw [length_pubkey]
      · rw [length_le64]
        omega

theorem apart_liquiditySegments (base : Nat) (borrows : List SolendObligationLiquidityRaw) :
    Apart base (liquiditySegments base borrows) (base + 112 * borrows.length) := by
  induction borrows generalizing base with
  | nil => exact Nat.le_add_right _ _
  | cons liquidity rest ih =>
      have hrest := ih (base + 112)
      rw [show base + 112 + 112 * rest.length = base + 112 * (rest.length + 1) by omega] at hrest
      refine ⟨Nat.le_refl _, ?_, hrest.widen ?_⟩
      · rw [length_pubkey]
        omega
      · rw [length_le128]
        omega

theorem apart_headerSegments (obligation : SolendObligationRaw) :
    Apart 0 (headerSegments obligation) 204 := by
  simp [headerSegments, Apart]

theorem apart_obligationSegments {obligation : SolendObligationRaw}
    (hfits : 88 * obligation.deposits.length + 112 * obligation.borrows.length ≤ 1096) :
    Apart 0 (obligationSegments obligation) obligationLen := by
  have hdeposits := apart_collateralSegments 204 obligation.deposits
  have hborrows := apart_liquiditySegments (204 + 88 * obligation.deposits.length)
    obligation.borrows
  have hend : Apart (204 + 88 * obligation.deposits.length + 112 * obligation.borrows.length) []
      obligationLen := by
    rw [Apart, obligationLen]
    omega
  have harrays := hdeposits.append (hborrows.append hend)
  rw [List.append_nil] at harrays
  rw [obligationSegments, obligationCollateralLen]
  exact (apart_headerSegments obligation).append harrays

theorem mem_collateralSegments (base : Nat) {index : Nat} {deposits : List SolendObligationCollateralRaw}
    (hindex : index < deposits.length) :
    (base + 88 * index, deposits[index].depositReserve.bytes.1) ∈
        collateralSegments base deposits ∧
      (base + 88 * index + 32, le64 deposits[index].depositedAmount) ∈
        collateralSegments base deposits := by
  induction deposits generalizing base index with
  | nil => cases hindex
  | cons collateral rest ih =>
      cases index with
      | zero => simp [collateralSegments]
      | succ index =>
          have hrest := ih (base + 88) (Nat.lt_of_succ_lt_succ hindex)
          rw [show base + 88 + 88 * index = base + 88 * (index + 1) by omega] at hrest
          exact ⟨List.mem_cons_of_mem _ (List.mem_cons_of_mem _ hrest.1),
            List.mem_cons_of_mem _ (List.mem_cons_of_mem _ hrest.2)⟩

theorem mem_liquiditySegments (base : Nat) {index : Nat} {borrows : List SolendObligationLiquidityRaw}
    (hindex : index < borrows.length) :
    (base + 112 * index, borrows[index].borrowReserve.bytes.1) ∈ liquiditySegments base borrows ∧
      (base + 112 * index + 48, le128 borrows[index].borrowedAmountWads) ∈
        liquiditySegments base borrows := by
  induction borrows generalizing base index with
  | nil => cases hindex
  | cons liquidity rest ih =>
      cases index with
      | zero => simp [liquiditySegments]
      | succ index =>
          have hrest := ih (base + 112) (Nat.lt_of_succ_lt_succ hindex)
          rw [show base + 112 + 112 * index = base + 112 * (index + 1) by omega] at hrest
          exact ⟨List.mem_cons_of_mem _ (List.mem_cons_of_mem _ hrest.1),
            List.mem_cons_of_mem _ (List.mem_cons_of_mem _ hrest.2)⟩

section Encoding

variable {obligation : SolendObligationRaw}
  (hfits : 88 * obligation.deposits.length + 112 * obligation.borrows.length ≤ 1096)
include hfits

theorem length_encodeObligation : (encodeObligation obligation).length = 1300 := by
  have hlength := length_assemble (apart_obligationSegments hfits)
  rwa [Nat.zero_add] at hlength

theorem holds_encodeObligation {segment : Segment} (hmem : segment ∈ obligationSegments obligation) :
    Holds (encodeObligation obligation) segment.1 segment.2 :=
  (holds_assemble (apart_obligationSegments hfits) hmem).2

theorem holds_header {segment : Segment} (hmem : segment ∈ headerSegments obligation) :
    Holds (encodeObligation obligation) segment.1 segment.2 :=
  holds_encodeObligation hfits (List.mem_append_left _ hmem)

theorem holds_deposits {segment : Segment}
    (hmem : segment ∈ collateralSegments 204 obligation.deposits) :
    Holds (encodeObligation obligation) segment.1 segment.2 :=
  holds_encodeObligation hfits (List.mem_append_right _ (List.mem_append_left _ hmem))

theorem holds_borrows {segment : Segment}
    (hmem : segment ∈ liquiditySegments
      (204 + obligationCollateralLen * obligation.deposits.length) obligation.borrows) :
    Holds (encodeObligation obligation) segment.1 segment.2 :=
  holds_encodeObligation hfits (List.mem_append_right _ (List.mem_append_right _ hmem))

/-- An obligation whose arrays fit is laid out in the account built for it. -/
theorem encodeObligation_layout : ObligationLayout (encodeObligation obligation) obligation := by
  have hheader : ∀ segment ∈ headerSegments obligation,
      Holds (encodeObligation obligation) segment.1 segment.2 :=
    fun segment hmem => holds_header hfits hmem
  simp only [headerSegments, List.forall_mem_cons, holds_singleton] at hheader
  obtain ⟨hversion, hslot, hstale, hmarket, howner, hupperBound, hisolated, hsuperUnhealthy,
    hunweighted, hcloseable, hzeros, hdepositsLen, hborrowsLen, -⟩ := hheader
  refine
    { length := length_encodeObligation hfits
      padding := fun offset hfirst hlast => ?_
      version := hversion
      lastUpdateSlot := hslot
      lastUpdateStale := hstale
      lendingMarket := hmarket
      owner := howner
      borrowedValueUpperBoundWads := hupperBound
      borrowingIsolatedAsset := hisolated
      superUnhealthyBorrowValueWads := hsuperUnhealthy
      unweightedBorrowedValueWads := hunweighted
      closeable := hcloseable
      depositsLen := ⟨_, hdepositsLen, UInt8.toNat_ofNat_of_lt' (show _ < 256 by omega)⟩
      borrowsLen := ⟨_, hborrowsLen, UInt8.toNat_ofNat_of_lt' (show _ < 256 by omega)⟩
      fits := hfits
      deposits := fun index hindex => ?_
      borrows := fun index hindex => ?_ }
  · -- The padding is a segment of its own, fourteen zeros.
    obtain ⟨index, rfl⟩ := Nat.exists_eq_add_of_le hfirst
    rw [hzeros.getElem? (by rw [List.length_replicate]; omega), List.getElem?_replicate,
      if_pos (by omega)]
  · obtain ⟨hreserve, hamount⟩ := mem_collateralSegments 204 hindex
    exact ⟨holds_deposits hfits hreserve, holds_deposits hfits hamount⟩
  · obtain ⟨hreserve, hamount⟩ := mem_liquiditySegments
      (204 + obligationCollateralLen * obligation.deposits.length) hindex
    exact ⟨holds_borrows hfits hreserve, holds_borrows hfits hamount⟩

theorem decodeObligation_encodeObligation :
    (decodeObligation (encodeObligation obligation)).run = some (.ok obligation) :=
  decodeObligation_of_layout (encodeObligation_layout hfits)

end Encoding

/-! ## Reserves -/

/-- The account bytes of a reserve that the executor reads. -/
structure ReserveLayout (data : List UInt8) (reserve : SolendReserveRaw) : Prop where
  length : data.length = 619
  lastUpdateSlot : Holds data 1 (le64 reserve.lastUpdateSlot)
  lastUpdateStale : data[9]? = some (boolByte reserve.lastUpdateStale)
  lendingMarket : Holds data 10 reserve.lendingMarket.bytes.1
  liquidityMint : Holds data 42 reserve.liquidityMint.bytes.1
  liquidityMintDecimals : data[74]? = some reserve.liquidityMintDecimals
  liquiditySupply : Holds data 75 reserve.liquiditySupply.bytes.1
  pythOracle : Holds data 107 reserve.pythOracle.bytes.1
  switchboardOracle : Holds data 139 reserve.switchboardOracle.bytes.1
  collateralMint : Holds data 227 reserve.collateralMint.bytes.1
  collateralSupply : Holds data 267 reserve.collateralSupply.bytes.1

theorem decodeReserve_eq_ok {data : List UInt8} {reserve : SolendReserveRaw} :
    (decodeReserve data).run = some (.ok reserve) ↔ ReserveLayout data reserve := by
  simp only [decodeReserve, run_bind_ok, run_rejectIf_ok, run_orPanic_ok, run_orThrow_ok,
    run_pure_ok, readU64Le_eq_some, readPubkey_eq_some, readBool_eq_some]
  constructor
  · rintro ⟨_, hlength, _, hstale, _, rfl, _, hslot, _, hmarket, _, hmint, _, hdecimals, _,
      hsupply, _, hpyth, _, hswitchboard, _, hcollateralMint, _, hcollateralSupply, rfl⟩
    exact ⟨not_not.mp hlength, hslot, hstale, hmarket, hmint, hdecimals, hsupply, hpyth,
      hswitchboard, hcollateralMint, hcollateralSupply⟩
  · intro hlayout
    exact ⟨(), not_not.mpr hlayout.length, _, hlayout.lastUpdateStale, _, rfl,
      _, hlayout.lastUpdateSlot, _, hlayout.lendingMarket, _, hlayout.liquidityMint,
      _, hlayout.liquidityMintDecimals, _, hlayout.liquiditySupply, _, hlayout.pythOracle,
      _, hlayout.switchboardOracle, _, hlayout.collateralMint, _, hlayout.collateralSupply, rfl⟩

theorem decodeReserve_accepts_iff {data : List UInt8} :
    (∃ reserve, (decodeReserve data).run = some (.ok reserve)) ↔ AcceptedReserve data := by
  constructor
  · rintro ⟨reserve, hdecode⟩
    have hlayout := decodeReserve_eq_ok.mp hdecode
    exact ⟨hlayout.length, boolByte_cases hlayout.lastUpdateStale⟩
  · exact (decodeReserve_decides data).accepts

end SolFrontier.Protocols
