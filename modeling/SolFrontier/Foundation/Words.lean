import Mathlib.Tactic.IntervalCases
import SolFrontier.Foundation.Bytes

/-! # Words of a text

A text is split at white space, and decimal numbers are read from its words.
Words joined with single blanks are the words of the joined text.
-/

namespace Foundation

/-- Unicode's `White_Space` characters. -/
def isWhiteSpace (c : Char) : Bool :=
  let code := c.toNat
  (9 ≤ code && code ≤ 13) || code = 0x20 || code = 0x85 || code = 0xa0 || code = 0x1680 ||
    (0x2000 ≤ code && code ≤ 0x200a) || code = 0x2028 || code = 0x2029 || code = 0x202f ||
    code = 0x205f || code = 0x3000

theorem isWhiteSpace_hexDigit {value : Nat} (hvalue : value < 16) :
    isWhiteSpace (hexDigit value) = false := by
  interval_cases value <;> rfl

theorem isWhiteSpace_base58Char {value : Nat} (hvalue : value < 58) :
    isWhiteSpace (base58Char value) = false := by
  revert value
  decide +kernel

theorem isWhiteSpace_of_isDigit {c : Char} (hdigit : c.isDigit = true) :
    isWhiteSpace c = false := by
  have hrange : 48 ≤ c.toNat ∧ c.toNat ≤ 57 := by
    simpa [Char.isDigit, UInt32.le_iff_toNat_le] using hdigit
  simp only [isWhiteSpace, Bool.or_eq_false_iff, Bool.and_eq_false_iff, decide_eq_false_iff_not]
  omega

/-! ## Splitting -/

/-- The parts between white space, without the empty ones. -/
def words (text : List Char) : List (List Char) :=
  (text.splitOnP isWhiteSpace).filter fun word => !word.isEmpty

/-- Neither empty nor broken by white space. -/
structure IsWord (word : List Char) : Prop where
  ne_nil : word ≠ []
  plain : ∀ c ∈ word, isWhiteSpace c = false

/-- A written-out word shows this by evaluation. -/
theorem isWord_of_all {word : List Char}
    (hall : (!word.isEmpty && word.all fun c => !isWhiteSpace c) = true) : IsWord word where
  ne_nil := by
    rintro rfl
    cases hall
  plain c hmem := by
    rw [Bool.and_eq_true, List.all_eq_true] at hall
    simpa using hall.2 c hmem

theorem words_of_isWord {word : List Char} (hword : IsWord word) : words word = [word] := by
  rw [words, List.splitOnP_eq_singleton hword.plain, List.filter_cons_of_pos]
  · rfl
  · simpa using hword.ne_nil

theorem words_append {word : List Char} (hword : IsWord word) (rest : List Char) :
    words (word ++ ' ' :: rest) = word :: words rest := by
  rw [words, List.splitOnP_append_cons_of_forall_mem hword.plain ' ' (by decide),
    List.filter_cons_of_pos (by simpa using hword.ne_nil), words]

theorem words_intercalate {parts : List (List Char)} (hparts : ∀ part ∈ parts, IsWord part) :
    words ([' '].intercalate parts) = parts := by
  induction parts with
  | nil => rfl
  | cons first rest ih =>
      obtain ⟨hfirst, hrest⟩ := List.forall_mem_cons.mp hparts
      cases rest with
      | nil =>
          rw [List.intercalate_singleton]
          exact words_of_isWord hfirst
      | cons second rest =>
          rw [List.intercalate_cons_cons, List.append_assoc, List.singleton_append,
            words_append hfirst, ih hrest]

theorem isWord_toDigits (value : Nat) : IsWord (Nat.toDigits 10 value) where
  ne_nil := Nat.toDigits_ne_nil
  plain c hmem :=
    isWhiteSpace_of_isDigit (Nat.isDigit_of_mem_toDigits (by decide) (by decide) hmem)

theorem isWord_base58Encode {bytes : List UInt8} (hbytes : bytes ≠ []) :
    IsWord (base58Encode bytes).toList where
  ne_nil := by
    intro hnil
    have hempty : base58Encode bytes = "" := String.toList_inj.mp hnil
    have hdecode := base58Decode_base58Encode bytes
    rw [hempty] at hdecode
    exact hbytes (Option.some.inj (hdecode.symm.trans (by decide +kernel)))
  plain := by
    obtain ⟨values, hvalues, _⟩ := Option.map_eq_some_iff.mp (base58Decode_base58Encode bytes)
    obtain ⟨hall, hchars⟩ := map_base58Char hvalues
    intro c hmem
    rw [← hchars] at hmem
    obtain ⟨value, hvalue, rfl⟩ := List.mem_map.mp hmem
    exact isWhiteSpace_base58Char (hall value hvalue)

/-! ## Numbers -/

def withoutPlus : List Char → List Char
  | '+' :: rest => rest
  | text => text

/-- `str::parse::<u64>`: decimal digits, a plus sign before them or none. -/
def parseWord (text : List Char) : Option UInt64 :=
  let digits := withoutPlus text
  if digits.isEmpty || !digits.all Char.isDigit then none
  else
    let value := Nat.ofDigitChars 10 digits 0
    if value < 2 ^ 64 then some (.ofNat value) else none

theorem withoutPlus_of_digits {digits : List Char} (hdigits : ∀ c ∈ digits, c.isDigit = true) :
    withoutPlus digits = digits := by
  unfold withoutPlus
  split
  next rest =>
    have hplus := hdigits '+' (List.mem_cons_self ..)
    cases hplus
  next => rfl

theorem parseWord_toDigits (value : UInt64) :
    parseWord (Nat.toDigits 10 value.toNat) = some value := by
  have hdigits : ∀ c ∈ Nat.toDigits 10 value.toNat, c.isDigit = true :=
    fun c hmem => Nat.isDigit_of_mem_toDigits (by decide) (by decide) hmem
  simp only [parseWord, withoutPlus_of_digits hdigits]
  rw [if_neg, Nat.ofDigitChars_ten_toDigits, if_pos value.toNat_lt, UInt64.ofNat_toNat]
  simp [Nat.toDigits_ne_nil, List.all_eq_true.mpr hdigits]

end Foundation
