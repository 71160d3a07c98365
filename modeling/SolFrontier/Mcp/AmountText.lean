import Mathlib.Algebra.Order.Field.Rat
import Mathlib.Tactic.FieldSimp
import SolFrontier.Mcp.Propose

/-! # The amount grammar

`AmountForm` says which texts are amounts, and `decimalValue` what they are
worth, without mentioning how the parser cuts or scales them. The parser
accepts exactly these texts and scales them exactly.
-/

namespace SolFrontier.Mcp

open Foundation

/-! ## Digit strings -/

theorem digitsValue_snoc (digits : List Char) (digit : Char) :
    digitsValue (digits ++ [digit]) = digitsValue digits * 10 + (digit.toNat - 48) := by
  simp [digitsValue]

/-- Zeros behind a digit string scale its value. -/
theorem digitsValue_padded (digits : List Char) (count : Nat) :
    digitsValue (digits ++ List.replicate count '0') = digitsValue digits * 10 ^ count := by
  induction count with
  | zero => simp
  | succ count ih =>
      have hzero : ('0' : Char).toNat - 48 = 0 := rfl
      rw [List.replicate_succ', ← List.append_assoc, digitsValue_snoc, ih, hzero, pow_succ]
      ring

theorem digit_value_lt {digit : Char} (hdigit : digit.isDigit = true) : digit.toNat - 48 < 10 := by
  have hrange : digit.toNat ≤ 57 := by
    simp only [Char.isDigit, Bool.and_eq_true, decide_eq_true_eq] at hdigit
    exact UInt32.le_iff_toNat_le.mp hdigit.2
  omega

theorem digitsValue_lt {digits : List Char} (hdigits : ∀ digit ∈ digits, digit.isDigit = true) :
    digitsValue digits < 10 ^ digits.length := by
  induction digits using List.reverseRecOn with
  | nil => simp [digitsValue]
  | append_singleton digits digit ih =>
      have hlast := digit_value_lt (hdigits digit (by simp))
      have hfront := ih fun other hmem => hdigits other (List.mem_append_left _ hmem)
      rw [digitsValue_snoc, List.length_append, List.length_singleton, pow_succ]
      omega

/-! ## The grammar -/

/-- A text that is an amount, with its digits before and after the point. -/
inductive AmountForm : List Char → List Char → List Char → Prop
  | whole {digits : List Char} (hnonempty : digits ≠ [])
      (hdigits : ∀ digit ∈ digits, digit.isDigit = true) : AmountForm digits digits []
  | pointed {integerPart fractionalPart : List Char}
      (hinteger : ∀ digit ∈ integerPart, digit.isDigit = true)
      (hfractional : ∀ digit ∈ fractionalPart, digit.isDigit = true)
      (hshort : fractionalPart.length ≤ 6) :
      AmountForm (integerPart ++ '.' :: fractionalPart) integerPart fractionalPart

/-- The number a decimal text stands for; an empty part counts as zero. -/
def decimalValue (integerPart fractionalPart : List Char) : ℚ :=
  digitsValue integerPart + digitsValue fractionalPart / 10 ^ fractionalPart.length

namespace AmountForm

variable {text integerPart fractionalPart : List Char}

theorem fractional_digits (hform : AmountForm text integerPart fractionalPart) :
    ∀ digit ∈ fractionalPart, digit.isDigit = true := by
  cases hform with
  | whole => simp
  | pointed _ hfractional _ => exact hfractional

theorem fractional_short (hform : AmountForm text integerPart fractionalPart) :
    fractionalPart.length ≤ 6 := by
  cases hform with
  | whole => simp
  | pointed _ _ hshort => exact hshort

end AmountForm

/-! ## Scaling -/

/-- The raw amount of a decimal text, not bounded. -/
def exactRaw (integerPart fractionalPart : List Char) : Nat :=
  digitsValue integerPart * 10 ^ 6 +
    digitsValue fractionalPart * 10 ^ (6 - fractionalPart.length)

theorem decimalValue_scaled {integerPart fractionalPart : List Char}
    (hshort : fractionalPart.length ≤ 6) :
    decimalValue integerPart fractionalPart * 10 ^ 6 = exactRaw integerPart fractionalPart := by
  have hpow : (10 : ℚ) ^ 6 = 10 ^ (6 - fractionalPart.length) * 10 ^ fractionalPart.length := by
    rw [← pow_add, Nat.sub_add_cancel hshort]
  have hfraction : (digitsValue fractionalPart : ℚ) / 10 ^ fractionalPart.length * 10 ^ 6 =
      digitsValue fractionalPart * 10 ^ (6 - fractionalPart.length) := by
    rw [hpow]
    field_simp
  rw [decimalValue, add_mul, hfraction, exactRaw]
  push_cast
  ring

/-- Scaling is exact: it fails only where the exact amount does not fit or is
zero. -/
theorem scaleToRaw_eq {integerPart fractionalPart : List Char}
    (hfractional : ∀ digit ∈ fractionalPart, digit.isDigit = true)
    (hshort : fractionalPart.length ≤ 6) :
    scaleToRaw integerPart fractionalPart =
      if 2 ^ 64 ≤ exactRaw integerPart fractionalPart then .error .overflow
      else if exactRaw integerPart fractionalPart = 0 then .error .zero
      else .ok (UInt64.ofNat (exactRaw integerPart fractionalPart)) := by
  -- Six fractional digits always fit a word.
  have hpadded : parseU64 (fractionalPart ++
      List.replicate (usdcDecimals - fractionalPart.length) '0') =
        some (digitsValue fractionalPart * 10 ^ (6 - fractionalPart.length)) := by
    have hlt := digitsValue_lt hfractional
    have hscaled : digitsValue fractionalPart * 10 ^ (6 - fractionalPart.length) < 10 ^ 6 := by
      calc digitsValue fractionalPart * 10 ^ (6 - fractionalPart.length)
          < 10 ^ fractionalPart.length * 10 ^ (6 - fractionalPart.length) :=
            Nat.mul_lt_mul_of_pos_right hlt (by positivity)
        _ = 10 ^ 6 := by rw [← pow_add, Nat.add_sub_cancel' hshort]
    rw [parseU64, digitsValue_padded, usdcDecimals, if_pos (by omega)]
  by_cases hinteger : digitsValue integerPart < 2 ^ 64
  · have hparsed : (if integerPart.isEmpty then some 0 else parseU64 integerPart) =
        some (digitsValue integerPart) := by
      cases integerPart with
      | nil => rfl
      | cons digit digits => rw [parseU64, if_pos hinteger]; rfl
    simp only [scaleToRaw, hparsed, hpadded]
    rfl
  · -- The integer part alone is too large, and more so its scaled value.
    have hoverflow : 2 ^ 64 ≤ exactRaw integerPart fractionalPart := by
      simp only [exactRaw]
      omega
    have hparsed : (if integerPart.isEmpty then some 0 else parseU64 integerPart) = none := by
      cases integerPart with
      | nil => simp [digitsValue] at hinteger
      | cons digit digits => rw [parseU64, if_neg hinteger]; rfl
    simp only [scaleToRaw, hparsed, if_pos hoverflow]

/-! ## The parser -/

theorem point_not_mem {digits : List Char} (hdigits : ∀ digit ∈ digits, digit.isDigit = true) :
    '.' ∉ digits := by
  intro hmem
  exact absurd (hdigits '.' hmem) (by decide)

/-- The parser cuts an amount where its form does, and scales the two halves. -/
theorem parseUsdcAmountToRaw_of_form {value : String} {integerPart fractionalPart : List Char}
    (hform : AmountForm (trimmed value) integerPart fractionalPart) :
    parseUsdcAmountToRaw value = scaleToRaw integerPart fractionalPart := by
  unfold parseUsdcAmountToRaw
  generalize trimmed value = text at hform
  cases hform with
  | whole hnonempty hdigits =>
      cases integerPart with
      | nil => exact absurd rfl hnonempty
      | cons digit digits =>
          have hfirst := hdigits digit List.mem_cons_self
          have hminus : digit ≠ '-' := fun heq => absurd (heq ▸ hfirst) (by decide)
          have hplus : digit ≠ '+' := fun heq => absurd (heq ▸ hfirst) (by decide)
          have hall : (digit :: digits).all Char.isDigit = true := List.all_eq_true.mpr hdigits
          simp only [List.isEmpty_cons, List.head?_cons, Option.some.injEq, hminus, hplus,
            List.splitOn_eq_singleton (point_not_mem hdigits), hall]
          simp
  | pointed hinteger hfractional hshort =>
      have hsplit : (integerPart ++ '.' :: fractionalPart).splitOn '.' =
          [integerPart, fractionalPart] := by
        rw [List.splitOn_append_cons_self_of_not_mem (point_not_mem hinteger),
          List.splitOn_eq_singleton (point_not_mem hfractional)]
      have hall := List.all_eq_true.mpr hinteger
      have hall' := List.all_eq_true.mpr hfractional
      have hempty : (integerPart ++ '.' :: fractionalPart).isEmpty = false := by simp
      have hfirst : ∀ sign : Char, sign ≠ '.' → sign.isDigit = false →
          (integerPart ++ '.' :: fractionalPart).head? ≠ some sign := by
        intro sign hpoint hsign hhead
        cases integerPart with
        | nil => simp [eq_comm, hpoint] at hhead
        | cons digit digits =>
            obtain rfl : digit = sign := by simpa using hhead
            simp [hinteger digit List.mem_cons_self] at hsign
      have hlength : ¬ usdcDecimals < fractionalPart.length := by
        rw [usdcDecimals]
        omega
      rw [if_neg (by simp [hempty]), if_neg (hfirst '-' (by decide) (by decide)),
        if_neg (hfirst '+' (by decide) (by decide)), hsplit]
      simp [hall, hall', hlength]

/-- Only an amount is parsed. -/
theorem form_of_parseUsdcAmountToRaw {value : String} {raw : UInt64}
    (hraw : parseUsdcAmountToRaw value = .ok raw) :
    ∃ integerPart fractionalPart, AmountForm (trimmed value) integerPart fractionalPart := by
  unfold parseUsdcAmountToRaw at hraw
  generalize trimmed value = text at hraw ⊢
  dsimp only at hraw
  split at hraw
  · cases hraw
  next hnonempty =>
  split at hraw
  · cases hraw
  split at hraw
  · cases hraw
  -- Joined again at the points, the parts are the text.
  have hjoin : List.intercalate ['.'] (text.splitOn '.') = text := List.intercalate_splitOn '.'
  split at hraw
  next integerPart hsplit =>
      rw [hsplit] at hjoin
      split at hraw
      · cases hraw
      next hdigits =>
          have htext : integerPart = text := by simpa using hjoin
          subst htext
          refine ⟨_, _, .whole (by simpa using hnonempty) ?_⟩
          exact List.all_eq_true.mp (not_not.mp hdigits)
  next integerPart fractionalPart hsplit =>
      rw [hsplit] at hjoin
      split at hraw
      · cases hraw
      next hinteger =>
      split at hraw
      · cases hraw
      next hfractional =>
      split at hraw
      · cases hraw
      next hshort =>
          have htext : integerPart ++ '.' :: fractionalPart = text := by simpa using hjoin
          subst htext
          exact ⟨_, _, .pointed (List.all_eq_true.mp (not_not.mp hinteger))
            (List.all_eq_true.mp (not_not.mp hfractional)) (not_lt.mp hshort)⟩
  · cases hraw

/-- The parser succeeds exactly on the amounts that are not zero and fit, with
their exact raw value; on every amount it reports an overflow and a zero exactly
where there is one. -/
theorem parseUsdcAmountToRaw_exact (value : String) :
    (∀ raw : UInt64, parseUsdcAmountToRaw value = .ok raw ↔
      ∃ integerPart fractionalPart, AmountForm (trimmed value) integerPart fractionalPart ∧
        decimalValue integerPart fractionalPart ≠ 0 ∧
        decimalValue integerPart fractionalPart * 10 ^ 6 < 2 ^ 64 ∧
        (raw.toNat : ℚ) = decimalValue integerPart fractionalPart * 10 ^ 6) ∧
    (∀ integerPart fractionalPart, AmountForm (trimmed value) integerPart fractionalPart →
      (parseUsdcAmountToRaw value = .error .overflow ↔
        2 ^ 64 ≤ decimalValue integerPart fractionalPart * 10 ^ 6) ∧
      (parseUsdcAmountToRaw value = .error .zero ↔
        decimalValue integerPart fractionalPart = 0)) := by
  -- All comparisons with the decimal value are comparisons with the exact raw amount.
  have hcompare : ∀ {integerPart fractionalPart : List Char},
      AmountForm (trimmed value) integerPart fractionalPart →
      (decimalValue integerPart fractionalPart * 10 ^ 6 = exactRaw integerPart fractionalPart ∧
        (decimalValue integerPart fractionalPart = 0 ↔ exactRaw integerPart fractionalPart = 0) ∧
        (2 ^ 64 ≤ decimalValue integerPart fractionalPart * 10 ^ 6 ↔
          2 ^ 64 ≤ exactRaw integerPart fractionalPart)) := by
    intro integerPart fractionalPart hform
    have hscaled : decimalValue integerPart fractionalPart * 10 ^ 6 =
        exactRaw integerPart fractionalPart := decimalValue_scaled hform.fractional_short
    refine ⟨hscaled, ?_, ?_⟩
    · rw [← Nat.cast_eq_zero (R := ℚ), ← hscaled]
      simp
    · rw [hscaled]
      exact_mod_cast Iff.rfl
  constructor
  · intro raw
    constructor
    · intro hraw
      obtain ⟨integerPart, fractionalPart, hform⟩ := form_of_parseUsdcAmountToRaw hraw
      obtain ⟨hscaled, hzero, hfits⟩ := hcompare hform
      rw [parseUsdcAmountToRaw_of_form hform,
        scaleToRaw_eq hform.fractional_digits hform.fractional_short] at hraw
      split at hraw
      · cases hraw
      next hfit =>
      split at hraw
      · cases hraw
      next hnonzero =>
          rw [Except.ok.injEq] at hraw
          subst hraw
          refine ⟨integerPart, fractionalPart, hform, fun h => hnonzero (hzero.mp h),
            not_le.mp fun h => hfit (hfits.mp h), ?_⟩
          rw [hscaled, UInt64.toNat_ofNat_of_lt' (not_le.mp hfit)]
    · intro ⟨integerPart, fractionalPart, hform, hnonzero, hfit, hraw⟩
      obtain ⟨hscaled, hzero, hfits⟩ := hcompare hform
      rw [parseUsdcAmountToRaw_of_form hform,
        scaleToRaw_eq hform.fractional_digits hform.fractional_short,
        if_neg fun h => not_le.mpr hfit (hfits.mpr h), if_neg fun h => hnonzero (hzero.mpr h)]
      have hvalue : raw.toNat = exactRaw integerPart fractionalPart := by
        exact_mod_cast hraw.trans hscaled
      rw [← hvalue, UInt64.ofNat_toNat]
  · intro integerPart fractionalPart hform
    obtain ⟨_, hzero, hfits⟩ := hcompare hform
    rw [hzero, hfits, parseUsdcAmountToRaw_of_form hform,
      scaleToRaw_eq hform.fractional_digits hform.fractional_short]
    by_cases hoverflow : 2 ^ 64 ≤ exactRaw integerPart fractionalPart
    · have hne : exactRaw integerPart fractionalPart ≠ 0 := by omega
      rw [if_pos hoverflow]
      simp only [hoverflow, hne, Except.error.injEq]
      decide
    · rw [if_neg hoverflow]
      by_cases hnil : exactRaw integerPart fractionalPart = 0
      · simp [hnil]
      · simp only [hoverflow, hnil, if_false, reduceCtorEq, iff_self, and_self]

end SolFrontier.Mcp
