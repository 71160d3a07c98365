import SolFrontier.Mcp.FinalizeMarket

/-! # Exact multiplication and division

The product of two words is built from four products of half words, and divided
bit by bit. Every carry of the product is kept, and each step of the division
keeps the quotient and the remainder of the bits brought down so far.
-/

namespace SolFrontier.Mcp

/-! ## One bit of a long division -/

/-- Bringing down a bit doubles the quotient, and adds one where the divisor
goes into the doubled remainder. -/
theorem div_double_add (n : Nat) {divisor bit : Nat} (hdivisor : 0 < divisor) (hbit : bit ≤ 1) :
    (2 * n + bit) / divisor =
        2 * (n / divisor) + (if divisor ≤ 2 * (n % divisor) + bit then 1 else 0) ∧
      (2 * n + bit) % divisor = 2 * (n % divisor) + bit -
        (if divisor ≤ 2 * (n % divisor) + bit then divisor else 0) := by
  have hn := Nat.div_add_mod n divisor
  have hlt := Nat.mod_lt n hdivisor
  have hsum : 2 * n + bit = divisor * (2 * (n / divisor)) + (2 * (n % divisor) + bit) := by
    rw [Nat.mul_left_comm]
    omega
  rw [hsum, Nat.mul_add_div hdivisor, Nat.mul_add_mod]
  split
  next hgoes =>
    have hquotient : (2 * (n % divisor) + bit) / divisor = 1 := by
      apply Nat.div_eq_of_lt_le <;> omega
    have hremainder := Nat.div_add_mod (2 * (n % divisor) + bit) divisor
    rw [hquotient] at hremainder ⊢
    omega
  next hsmall =>
    have hlast : 2 * (n % divisor) + bit < divisor := not_le.mp hsmall
    rw [Nat.div_eq_of_lt hlast, Nat.mod_eq_of_lt hlast]
    exact ⟨rfl, rfl⟩

/-! ## Single bits of words -/

theorem toNat_and_one (word : BitVec 128) : (word &&& 1).toNat = word.toNat % 2 := by
  rw [BitVec.toNat_and]
  exact Nat.and_one_is_mod _

theorem top_bit_iff {word : BitVec 128} : (word >>> 127) &&& 1 = 1 ↔ 2 ^ 127 ≤ word.toNat := by
  have hword := word.isLt
  rw [← BitVec.toNat_inj, toNat_and_one, BitVec.toNat_ushiftRight, Nat.shiftRight_eq_div_pow]
  have hone : (1 : BitVec 128).toNat = 1 := rfl
  omega

/-- A word shifted up by one, with a bit at the free place; the top bit is lost. -/
theorem toNat_shift_or {word bit : BitVec 128} (hbit : bit.toNat ≤ 1) :
    ((word <<< 1) ||| bit).toNat = (2 * word.toNat) % 2 ^ 128 + bit.toNat := by
  have hshift : (2 * word.toNat) % 2 ^ 128 = (word.toNat % 2 ^ 127) <<< 1 := by
    rw [Nat.shiftLeft_eq]
    omega
  rw [BitVec.toNat_or, BitVec.toNat_shiftLeft, Nat.shiftLeft_eq, pow_one, Nat.mul_comm, hshift]
  exact (Nat.shiftLeft_add_eq_or_of_lt (by omega) _).symm

theorem toNat_bitOfU256 (high low : BitVec 128) (index : Nat) :
    (bitOfU256 high low index).toNat = (high.toNat * 2 ^ 128 + low.toNat) / 2 ^ index % 2 := by
  have hlow := low.isLt
  unfold bitOfU256
  split
  next hindex =>
    rw [toNat_and_one, BitVec.toNat_ushiftRight, Nat.shiftRight_eq_div_pow]
    have hsplit : 2 ^ 128 = 2 ^ index * (2 * 2 ^ (127 - index)) := by
      rw [← Nat.pow_succ', ← Nat.pow_add]
      congr 1
      omega
    have hsum : high.toNat * 2 ^ 128 + low.toNat =
        2 ^ index * (2 * (high.toNat * 2 ^ (127 - index))) + low.toNat := by
      rw [hsplit]
      ring
    rw [hsum, Nat.mul_add_div (Nat.two_pow_pos index), Nat.mul_add_mod]
  next hindex =>
    obtain ⟨offset, rfl⟩ := Nat.exists_eq_add_of_le (not_lt.mp hindex)
    rw [toNat_and_one, BitVec.toNat_ushiftRight, Nat.shiftRight_eq_div_pow,
      Nat.add_sub_cancel_left]
    have hhigh : (high.toNat * 2 ^ 128 + low.toNat) / 2 ^ 128 = high.toNat := by
      rw [Nat.add_comm, Nat.add_mul_div_right _ _ (Nat.two_pow_pos 128), Nat.div_eq_of_lt hlow,
        Nat.zero_add]
    rw [pow_add, ← Nat.div_div_eq_div_mul, hhigh]

/-! ## The loop -/

namespace Division

/-- The registers hold the division of the bits brought down so far; the
quotient loses its top bits, and the flag says that it did. -/
structure Holds (division : Division) (divisor n : Nat) : Prop where
  remainder : division.remainder.toNat = n % divisor
  quotient : division.quotient.toNat = n / divisor % 2 ^ 128
  overflow : division.quotientOverflow = true ↔ 2 ^ 128 ≤ n / divisor

theorem Holds.step {division : Division} {high low divisor : BitVec 128} {n index : Nat}
    (hdivisor : divisor ≠ 0) (hholds : division.Holds divisor.toNat n)
    (hn : (high.toNat * 2 ^ 128 + low.toNat) / 2 ^ (index + 1) = n) :
    (division.step high low divisor index).Holds divisor.toNat
      ((high.toNat * 2 ^ 128 + low.toNat) / 2 ^ index) := by
  have hpositive : 0 < divisor.toNat := by
    apply Nat.pos_of_ne_zero
    intro hzero
    exact hdivisor (BitVec.eq_of_toNat_eq hzero)
  have hdivisorLt := divisor.isLt
  have hbit := toNat_bitOfU256 high low index
  set word := bitOfU256 high low index with hword
  have hbitLe : word.toNat ≤ 1 := by omega
  -- The bits brought down are those before, doubled, and the new one.
  have hnext : (high.toNat * 2 ^ 128 + low.toNat) / 2 ^ index = 2 * n + word.toNat := by
    have hpow : 2 ^ (index + 1) = 2 ^ index * 2 := pow_succ 2 index
    rw [hbit, ← hn, hpow, ← Nat.div_div_eq_div_mul]
    omega
  obtain ⟨hquotient, hremainder⟩ := div_double_add n hpositive hbitLe
  have hlt := Nat.mod_lt n hpositive
  have hshifted : ((division.remainder <<< 1) ||| word).toNat =
      (2 * (n % divisor.toNat)) % 2 ^ 128 + word.toNat := by
    rw [toNat_shift_or hbitLe, hholds.remainder]
  -- The subtraction is made exactly where the divisor goes.
  have hsubtract : (decide ((division.remainder >>> 127) &&& 1 = 1) ||
      decide (divisor ≤ (division.remainder <<< 1) ||| word)) = true ↔
        divisor.toNat ≤ 2 * (n % divisor.toNat) + word.toNat := by
    rw [Bool.or_eq_true, decide_eq_true_eq, decide_eq_true_eq, top_bit_iff, hholds.remainder,
      BitVec.le_def, hshifted]
    omega
  have hflag : (if (division.quotient >>> 127) &&& 1 = 1 then true else division.quotientOverflow) =
      true ↔ 2 ^ 127 ≤ division.quotient.toNat ∨ 2 ^ 128 ≤ n / divisor.toNat := by
    by_cases htop : (division.quotient >>> 127) &&& 1 = 1
    · rw [if_pos htop]
      exact ⟨fun _ => .inl (top_bit_iff.mp htop), fun _ => rfl⟩
    · rw [if_neg htop, hholds.overflow]
      exact ⟨.inr, fun h => h.resolve_left fun hbit => htop (top_bit_iff.mpr hbit)⟩
  rw [hnext]
  by_cases hgoes : divisor.toNat ≤ 2 * (n % divisor.toNat) + word.toNat
  · have htrue := hsubtract.mpr hgoes
    rw [if_pos hgoes] at hquotient hremainder
    refine ⟨?_, ?_, ?_⟩
    · rw [Division.step, htrue, hremainder]
      dsimp only
      rw [if_pos rfl, BitVec.toNat_sub, hshifted]
      omega
    · rw [Division.step, htrue, hquotient]
      dsimp only
      rw [if_pos rfl, toNat_shift_or (by decide), hholds.quotient]
      have hone : (1 : BitVec 128).toNat = 1 := rfl
      omega
    · rw [Division.step, hquotient]
      dsimp only
      rw [hflag, hholds.quotient]
      omega
  · have hfalse := Bool.eq_false_iff.mpr fun h => hgoes (hsubtract.mp h)
    rw [if_neg hgoes] at hquotient hremainder
    refine ⟨?_, ?_, ?_⟩
    · rw [Division.step, hfalse, hremainder]
      dsimp only
      rw [if_neg Bool.false_ne_true, hshifted]
      omega
    · rw [Division.step, hfalse, hquotient]
      dsimp only
      rw [if_neg Bool.false_ne_true, toNat_shift_or (by decide), hholds.quotient]
      have hzero : (0 : BitVec 128).toNat = 0 := rfl
      omega
    · rw [Division.step, hquotient]
      dsimp only
      rw [hflag, hholds.quotient]
      omega

/-- The registers before the first bit. -/
theorem holds_start {divisor : Nat} : (⟨0, false, 0⟩ : Division).Holds divisor 0 := by
  refine ⟨?_, ?_, ?_⟩ <;> simp

/-- Bringing down a stretch of bits one after another, from the highest of them. -/
theorem Holds.loop {high low divisor : BitVec 128} (hdivisor : divisor ≠ 0) {index count : Nat}
    {division : Division} (hholds : division.Holds divisor.toNat
      ((high.toNat * 2 ^ 128 + low.toNat) / 2 ^ (index + count))) :
    ((List.range' index count).reverse.foldl (Division.step high low divisor) division).Holds
      divisor.toNat ((high.toNat * 2 ^ 128 + low.toNat) / 2 ^ index) := by
  induction count generalizing index with
  | zero => simpa using hholds
  | succ count ih =>
      rw [List.range'_succ, List.reverse_cons, List.foldl_append, List.foldl_cons, List.foldl_nil]
      apply Holds.step hdivisor _ rfl
      apply ih
      rw [Nat.add_assoc, Nat.add_comm 1 count]
      exact hholds

/-- Nothing is left of a product above its highest bit. -/
theorem product_shifted_out (high low : BitVec 128) :
    (high.toNat * 2 ^ 128 + low.toNat) / 2 ^ 256 = 0 := by
  have hhigh := high.isLt
  have hlow := low.isLt
  apply Nat.div_eq_of_lt
  omega

end Division

/-! ## The product -/

def lowHalf (word : BitVec 128) : BitVec 128 := (word.setWidth 64).setWidth 128

def highHalf (word : BitVec 128) : BitVec 128 := word >>> 64

/-- The sum of the two mixed products, which may wrap. -/
def middleSum (left right : BitVec 128) : BitVec 128 :=
  lowHalf left * highHalf right + highHalf left * lowHalf right

/-- The two halves of a product, with the carries of the middle and of the low
half brought into the high one. -/
def wideProduct (left right : BitVec 128) : Except AprMathError (BitVec 128 × BitVec 128) := do
  let lowLow := lowHalf left * lowHalf right
  let lowHigh := lowHalf left * highHalf right
  let highHigh := highHalf left * highHalf right
  let middle := middleSum left right
  let middleCarry : BitVec 128 := if middle < lowHigh then 1 <<< 64 else 0
  let low := lowLow + middle <<< 64
  let lowCarry : BitVec 128 := if low < lowLow then 1 else 0
  let high ← checkedAdd highHigh (middle >>> 64)
  let high ← checkedAdd high lowCarry
  let high ← checkedAdd high middleCarry
  .ok (high, low)

/-- The quotient and its flag after all 256 bits. -/
def longDivision (high low divisor : BitVec 128) : Division :=
  (List.range 256).reverse.foldl (Division.step high low divisor) ⟨0, false, 0⟩

theorem mulDivFloorU128_of_wide {left right divisor : BitVec 128} {high low : BitVec 128}
    (hdivisor : divisor ≠ 0) (hlarge : 2 ^ 128 ≤ left.toNat * right.toNat)
    (hproduct : wideProduct left right = .ok (high, low)) :
    mulDivFloorU128 left right divisor =
      if (longDivision high low divisor).quotientOverflow then .error .overflow
      else .ok (longDivision high low divisor).quotient := by
  have hmul : checkedMul left right = .error .overflow := by
    rw [checkedMul, checked, if_neg (by omega)]
  have hwide : mulDivFloorU128 left right divisor = wideProduct left right >>= fun halves =>
      if (longDivision halves.1 halves.2 divisor).quotientOverflow then .error .overflow
      else .ok (longDivision halves.1 halves.2 divisor).quotient := by
    rw [mulDivFloorU128, if_neg hdivisor, hmul, wideProduct]
    simp only [bind_assoc]
    rfl
  rw [hwide, hproduct]
  rfl

theorem toNat_lowHalf (word : BitVec 128) : (lowHalf word).toNat = word.toNat % 2 ^ 64 := by
  rw [lowHalf, BitVec.toNat_setWidth, BitVec.toNat_setWidth]
  omega

theorem toNat_highHalf (word : BitVec 128) : (highHalf word).toNat = word.toNat / 2 ^ 64 := by
  rw [highHalf, BitVec.toNat_ushiftRight, Nat.shiftRight_eq_div_pow]

theorem checked_of_lt (exact : Nat) (hfits : exact < 2 ^ 128) :
    checked exact = .ok (BitVec.ofNat 128 exact) ∧ (BitVec.ofNat 128 exact).toNat = exact := by
  rw [checked, if_pos hfits, BitVec.toNat_ofNat, Nat.mod_eq_of_lt hfits]
  exact ⟨rfl, rfl⟩

/-- A product of half words fits a word. -/
theorem half_product {left right : BitVec 128} (hleft : left.toNat < 2 ^ 64)
    (hright : right.toNat < 2 ^ 64) :
    (left * right).toNat = left.toNat * right.toNat ∧
      left.toNat * right.toNat ≤ (2 ^ 64 - 1) * (2 ^ 64 - 1) := by
  have hle : left.toNat * right.toNat ≤ (2 ^ 64 - 1) * (2 ^ 64 - 1) :=
    Nat.mul_le_mul (by omega) (by omega)
  rw [BitVec.toNat_mul, Nat.mod_eq_of_lt (by omega)]
  exact ⟨rfl, hle⟩

/-- No carry is lost: the halves together are the exact product, and none of the
checked additions fails. -/
theorem wideProduct_exact (left right : BitVec 128) :
    ∃ high low, wideProduct left right = .ok (high, low) ∧
      high.toNat * 2 ^ 128 + low.toNat = left.toNat * right.toNat := by
  have hleft := left.isLt
  have hright := right.isLt
  have hleftLow : (lowHalf left).toNat < 2 ^ 64 := by rw [toNat_lowHalf]; omega
  have hleftHigh : (highHalf left).toNat < 2 ^ 64 := by rw [toNat_highHalf]; omega
  have hrightLow : (lowHalf right).toNat < 2 ^ 64 := by rw [toNat_lowHalf]; omega
  have hrightHigh : (highHalf right).toNat < 2 ^ 64 := by rw [toNat_highHalf]; omega
  obtain ⟨hlowLow, hlowLowLe⟩ := half_product hleftLow hrightLow
  obtain ⟨hlowHigh, hlowHighLe⟩ := half_product hleftLow hrightHigh
  obtain ⟨hhighLow, hhighLowLe⟩ := half_product hleftHigh hrightLow
  obtain ⟨hhighHigh, hhighHighLe⟩ := half_product hleftHigh hrightHigh
  have hproduct : left.toNat * right.toNat =
      (highHalf left).toNat * (highHalf right).toNat * 2 ^ 128 +
        ((lowHalf left).toNat * (highHalf right).toNat +
          (highHalf left).toNat * (lowHalf right).toNat) * 2 ^ 64 +
        (lowHalf left).toNat * (lowHalf right).toNat := by
    have hleftSplit : left.toNat = (highHalf left).toNat * 2 ^ 64 + (lowHalf left).toNat := by
      rw [toNat_lowHalf, toNat_highHalf]
      omega
    have hrightSplit : right.toNat = (highHalf right).toNat * 2 ^ 64 + (lowHalf right).toNat := by
      rw [toNat_lowHalf, toNat_highHalf]
      omega
    calc left.toNat * right.toNat
        = ((highHalf left).toNat * 2 ^ 64 + (lowHalf left).toNat) *
            ((highHalf right).toNat * 2 ^ 64 + (lowHalf right).toNat) := by
          rw [← hleftSplit, ← hrightSplit]
      _ = _ := by ring
  have hbound : left.toNat * right.toNat < 2 ^ 256 := by
    calc left.toNat * right.toNat < 2 ^ 128 * 2 ^ 128 := Nat.mul_lt_mul'' hleft hright
      _ = 2 ^ 256 := by rw [← pow_add]
  rw [hproduct] at hbound ⊢
  -- From here on everything is linear in the four products.
  rw [← hlowLow, ← hlowHigh, ← hhighLow, ← hhighHigh] at hbound ⊢
  rw [← hlowLow] at hlowLowLe
  rw [← hlowHigh] at hlowHighLe
  rw [← hhighLow] at hhighLowLe
  rw [← hhighHigh] at hhighHighLe
  unfold wideProduct middleSum
  dsimp only
  generalize lowHalf left * lowHalf right = lowLow at *
  generalize lowHalf left * highHalf right = lowHigh at *
  generalize highHalf left * lowHalf right = highLow at *
  generalize highHalf left * highHalf right = highHigh at *
  have hmiddle : (lowHigh + highLow).toNat = (lowHigh.toNat + highLow.toNat) % 2 ^ 128 :=
    BitVec.toNat_add _ _
  generalize lowHigh + highLow = middle at *
  have hmiddleLt := middle.isLt
  have hmiddleCarry : (if middle < lowHigh then ((1 <<< 64 : Nat) : BitVec 128) else 0).toNat =
      if middle.toNat < lowHigh.toNat then 2 ^ 64 else 0 := by
    by_cases hcarry : middle.toNat < lowHigh.toNat
    · rw [if_pos (BitVec.lt_def.mpr hcarry), if_pos hcarry]
      rfl
    · rw [if_neg fun h => hcarry (BitVec.lt_def.mp h), if_neg hcarry]
      rfl
  have hlow : (lowLow + middle <<< 64).toNat =
      (lowLow.toNat + middle.toNat * 2 ^ 64 % 2 ^ 128) % 2 ^ 128 := by
    rw [BitVec.toNat_add, BitVec.toNat_shiftLeft, Nat.shiftLeft_eq]
  have hlowCarry : (if lowLow + middle <<< 64 < lowLow then 1 else 0 : BitVec 128).toNat =
      if (lowLow + middle <<< 64).toNat < lowLow.toNat then 1 else 0 := by
    by_cases hcarry : (lowLow + middle <<< 64).toNat < lowLow.toNat
    · rw [if_pos (BitVec.lt_def.mpr hcarry), if_pos hcarry]
      rfl
    · rw [if_neg fun h => hcarry (BitVec.lt_def.mp h), if_neg hcarry]
      rfl
  have hshift : (middle >>> 64).toNat = middle.toNat / 2 ^ 64 := by
    rw [BitVec.toNat_ushiftRight, Nat.shiftRight_eq_div_pow]
  generalize (if middle < lowHigh then ((1 <<< 64 : Nat) : BitVec 128) else 0) = middleCarry at *
  generalize (if lowLow + middle <<< 64 < lowLow then 1 else 0 : BitVec 128) = lowCarry at *
  generalize lowLow + middle <<< 64 = low at *
  generalize middle >>> 64 = middleHigh at *
  -- The high half only grows towards its exact value, which fits.
  have hexact : (highHigh.toNat + middleHigh.toNat + lowCarry.toNat + middleCarry.toNat) * 2 ^ 128 +
      low.toNat = highHigh.toNat * 2 ^ 128 + (lowHigh.toNat + highLow.toNat) * 2 ^ 64 +
        lowLow.toNat := by
    rw [hlowCarry, hmiddleCarry, hshift]
    split <;> split <;> omega
  obtain ⟨hfirst, hfirstNat⟩ := checked_of_lt (highHigh.toNat + middleHigh.toNat) (by omega)
  obtain ⟨hsecond, hsecondNat⟩ :=
    checked_of_lt (highHigh.toNat + middleHigh.toNat + lowCarry.toNat) (by omega)
  obtain ⟨hthird, hthirdNat⟩ :=
    checked_of_lt (highHigh.toNat + middleHigh.toNat + lowCarry.toNat + middleCarry.toNat)
      (by omega)
  refine ⟨BitVec.ofNat 128 (highHigh.toNat + middleHigh.toNat + lowCarry.toNat + middleCarry.toNat),
    low, ?_, ?_⟩
  · simp only [checkedAdd, hfirst, hfirstNat, hsecond, hsecondNat, hthird, bind,
      Except.bind]
  · rw [hthirdNat, hexact]

/-- The registers after the bits from an index on. -/
theorem division_holds {left right divisor high low : BitVec 128} (hdivisor : divisor ≠ 0)
    (hproduct : high.toNat * 2 ^ 128 + low.toNat = left.toNat * right.toNat) {index : Nat}
    (hindex : index ≤ 256) :
    ((List.range' index (256 - index)).reverse.foldl (Division.step high low divisor)
      ⟨0, false, 0⟩).Holds divisor.toNat (left.toNat * right.toNat / 2 ^ index) := by
  rw [← hproduct]
  apply Division.Holds.loop hdivisor
  rw [Nat.add_sub_cancel' hindex, Division.product_shifted_out]
  exact Division.holds_start

/-- The function is the exact quotient, with an error where there is none or it
does not fit. -/
theorem mulDivFloorU128_eq (left right divisor : BitVec 128) :
    mulDivFloorU128 left right divisor =
      if divisor = 0 then .error .divisionByZero
      else if 2 ^ 128 ≤ left.toNat * right.toNat / divisor.toNat then .error .overflow
      else .ok (BitVec.ofNat 128 (left.toNat * right.toNat / divisor.toNat)) := by
  by_cases hdivisor : divisor = 0
  · rw [if_pos hdivisor, mulDivFloorU128, if_pos hdivisor]
  rw [if_neg hdivisor]
  by_cases hsmall : left.toNat * right.toNat < 2 ^ 128
  · -- The product fits, and its quotient is smaller still.
    obtain ⟨hmul, hmulNat⟩ := checked_of_lt (left.toNat * right.toNat) hsmall
    have hquotient := Nat.div_le_self (left.toNat * right.toNat) divisor.toNat
    rw [mulDivFloorU128, if_neg hdivisor, checkedMul, hmul, if_neg (by omega)]
    dsimp only
    congr 1
    apply BitVec.eq_of_toNat_eq
    rw [BitVec.toNat_udiv, hmulNat, BitVec.toNat_ofNat, Nat.mod_eq_of_lt (by omega)]
  · obtain ⟨high, low, hproduct, hexact⟩ := wideProduct_exact left right
    have hholds := division_holds hdivisor hexact (Nat.zero_le 256)
    rw [Nat.sub_zero, ← List.range_eq_range', pow_zero, Nat.div_one] at hholds
    rw [mulDivFloorU128_of_wide hdivisor (not_lt.mp hsmall) hproduct, longDivision]
    by_cases hfits : 2 ^ 128 ≤ left.toNat * right.toNat / divisor.toNat
    · rw [if_pos (hholds.overflow.mpr hfits), if_pos hfits]
    · rw [if_neg fun h => hfits (hholds.overflow.mp h), if_neg hfits]
      congr 1
      apply BitVec.eq_of_toNat_eq
      rw [hholds.quotient, BitVec.toNat_ofNat]

/-- The exact quotient where it fits, the overflow error exactly where it does
not, and the division error exactly for a zero divisor. The operations that may
wrap lose nothing: the halves of the product are exact, and after every step of
the loop the registers hold the division of the bits brought down so far. -/
theorem mulDivFloorU128_exact (left right divisor : BitVec 128) :
    (divisor ≠ 0 → left.toNat * right.toNat / divisor.toNat < 2 ^ 128 →
      mulDivFloorU128 left right divisor =
        .ok (BitVec.ofNat 128 (left.toNat * right.toNat / divisor.toNat))) ∧
    (mulDivFloorU128 left right divisor = .error .overflow ↔
      divisor ≠ 0 ∧ 2 ^ 128 ≤ left.toNat * right.toNat / divisor.toNat) ∧
    (mulDivFloorU128 left right divisor = .error .divisionByZero ↔ divisor = 0) ∧
    (∃ high low, wideProduct left right = .ok (high, low) ∧
      high.toNat * 2 ^ 128 + low.toNat = left.toNat * right.toNat ∧
      (divisor ≠ 0 → ∀ index ≤ 256,
        ((List.range' index (256 - index)).reverse.foldl (Division.step high low divisor)
          ⟨0, false, 0⟩).Holds divisor.toNat (left.toNat * right.toNat / 2 ^ index))) := by
  rw [mulDivFloorU128_eq]
  refine ⟨?_, ?_, ?_, ?_⟩
  · intro hdivisor hfits
    rw [if_neg hdivisor, if_neg (not_le.mpr hfits)]
  · by_cases hdivisor : divisor = 0
    · simp only [hdivisor, if_true, ne_eq, not_true, false_and, iff_false]
      decide
    · by_cases hfits : 2 ^ 128 ≤ left.toNat * right.toNat / divisor.toNat
      · simp only [hdivisor, if_false, ne_eq, not_false_eq_true, true_and, hfits, if_true]
      · simp only [hdivisor, if_false, hfits, and_false, iff_false]
        exact fun h => by cases h
  · by_cases hdivisor : divisor = 0
    · simp only [hdivisor, if_true]
    · simp only [hdivisor, if_false, iff_false]
      split
      · exact fun h => by cases h
      · exact fun h => by cases h
  · obtain ⟨high, low, hproduct, hexact⟩ := wideProduct_exact left right
    exact ⟨high, low, hproduct, hexact, fun hdivisor index => division_holds hdivisor hexact⟩

/-- The sum of the mixed products wraps for the largest words. -/
theorem middleSum_wraps :
    let largest : BitVec 128 := .allOnes 128
    (middleSum largest largest).toNat <
      (lowHalf largest * highHalf largest).toNat + (highHalf largest * lowHalf largest).toNat := by
  decide

end SolFrontier.Mcp
