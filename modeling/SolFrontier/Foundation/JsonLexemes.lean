import Mathlib.Data.Rat.Floor
import SolFrontier.Foundation.Json

/-! # The lexemes of JSON

Spaces, strings and numbers at the start of a text, and what is read back of a
written string or integer whatever follows it.
-/

namespace Foundation

namespace JsonText

def isSpace (c : Char) : Bool := c = ' ' ∨ c = '\t' ∨ c = '\n' ∨ c = '\r'

def skipSpace (text : List Char) : List Char := text.dropWhile isSpace

/-- The value of a hexadecimal digit of either case. -/
def hexValue (c : Char) : Option Nat :=
  if c.isDigit then some (c.toNat - 48)
  else if 'a' ≤ c ∧ c ≤ 'f' then some (c.toNat - 87)
  else if 'A' ≤ c ∧ c ≤ 'F' then some (c.toNat - 55)
  else none

/-- The character a short escape stands for. -/
def shortEscape : Char → Option Char
  | '"' => some '"'
  | '\\' => some '\\'
  | '/' => some '/'
  | 'b' => some '\x08'
  | 'f' => some '\x0c'
  | 'n' => some '\n'
  | 'r' => some '\r'
  | 't' => some '\t'
  | _ => none

/-- The rest of a string after its opening quote, as code points; an escape by
code may be half of a surrogate pair. -/
def readCodes : List Char → Option (List Nat × List Char)
  | '"' :: rest => some ([], rest)
  | '\\' :: 'u' :: a :: b :: c :: d :: rest => do
      let code := 4096 * (← hexValue a) + 256 * (← hexValue b) + 16 * (← hexValue c) +
        (← hexValue d)
      let (codes, rest) ← readCodes rest
      some (code :: codes, rest)
  | '\\' :: c :: rest => do
      let escaped ← shortEscape c
      let (codes, rest) ← readCodes rest
      some (escaped.toNat :: codes, rest)
  | c :: rest =>
      if c.toNat < 32 ∨ c = '\\' then none
      else (readCodes rest).map fun (codes, rest) => (c.toNat :: codes, rest)
  | [] => none

/-- The character of a code point, or a replacement for a lone surrogate. -/
def charOfCode (code : Nat) : Char := if code.isValidChar then Char.ofNat code else '\uFFFD'

/-- Join surrogate pairs. -/
def joinCodes : List Nat → List Char
  | high :: low :: rest =>
      if 0xD800 ≤ high ∧ high < 0xDC00 ∧ 0xDC00 ≤ low ∧ low < 0xE000 then
        Char.ofNat (0x10000 + (high - 0xD800) * 1024 + (low - 0xDC00)) :: joinCodes rest
      else charOfCode high :: joinCodes (low :: rest)
  | [code] => [charOfCode code]
  | [] => []

def readString (text : List Char) : Option (String × List Char) :=
  (readCodes text).map fun (codes, rest) => (String.ofList (joinCodes codes), rest)

/-- One digit at least. -/
def readDigits (text : List Char) : Option (List Char × List Char) :=
  match text.takeWhile Char.isDigit with
  | [] => none
  | digits => some (digits, text.dropWhile Char.isDigit)

/-- The digits before the point: no zero in front of others. -/
def readInteger : List Char → Option (Nat × List Char)
  | '0' :: rest => some (0, rest)
  | text => (readDigits text).map fun (digits, rest) => (Nat.ofDigitChars 10 digits 0, rest)

/-- The part after a point, if there is one. -/
def readFraction : List Char → Option (ℚ × List Char)
  | '.' :: rest => (readDigits rest).map fun (digits, rest) =>
      ((Nat.ofDigitChars 10 digits 0 : ℚ) / 10 ^ digits.length, rest)
  | text => some (0, text)

/-- The power of ten, if one is given. -/
def readExponent : List Char → Option (ℤ × List Char)
  | c :: rest =>
      if c = 'e' ∨ c = 'E' then
        let (negative, rest) : Bool × List Char :=
          match rest with
          | '-' :: rest => (true, rest)
          | '+' :: rest => (false, rest)
          | rest => (false, rest)
        (readDigits rest).map fun (digits, rest) =>
          let value : ℤ := Nat.ofDigitChars 10 digits 0
          (if negative then -value else value, rest)
      else some (0, c :: rest)
  | [] => some (0, [])

def readUnsigned (text : List Char) : Option (ℚ × List Char) := do
  let (whole, text) ← readInteger text
  let (fraction, text) ← readFraction text
  let (exponent, text) ← readExponent text
  some (((whole : ℚ) + fraction) * 10 ^ exponent, text)

def readNumber : List Char → Option (ℚ × List Char)
  | '-' :: rest => (readUnsigned rest).map fun (value, rest) => (-value, rest)
  | text => readUnsigned text

/-! ## Strings -/

theorem hexValue_hexDigit {value : Nat} (hvalue : value < 16) :
    hexValue (hexDigit value) = some value := by
  interval_cases value <;> decide

/-- An escaped character is read as its code. -/
theorem readCodes_escapeChar (c : Char) (rest : List Char) :
    readCodes (Json.escapeChar c ++ rest) =
      (readCodes rest).map fun (codes, rest) => (c.toNat :: codes, rest) := by
  have hreturn : ∀ code : Nat,
      (do let (codes, rest) ← readCodes rest; some (code :: codes, rest)) =
        (readCodes rest).map fun (codes, rest) => (code :: codes, rest) := by
    intro code
    cases readCodes rest <;> rfl
  unfold Json.escapeChar
  split_ifs with hquote hback hbackspace htab hline hform hcarriage hcontrol
  · subst hquote
    exact hreturn _
  · subst hback
    exact hreturn _
  · subst hbackspace
    exact hreturn _
  · subst htab
    exact hreturn _
  · subst hline
    exact hreturn _
  · subst hform
    exact hreturn _
  · subst hcarriage
    exact hreturn _
  · have hzero : hexValue '0' = some 0 := by decide
    have hhigh := hexValue_hexDigit (show c.toNat / 16 < 16 by omega)
    have hlow := hexValue_hexDigit (show c.toNat % 16 < 16 by omega)
    simp only [List.cons_append, List.nil_append, readCodes, hzero, hhigh, hlow,
      Option.bind_eq_bind, Option.bind_some]
    rw [show 4096 * 0 + 256 * 0 + 16 * (c.toNat / 16) + c.toNat % 16 = c.toNat by omega]
    exact hreturn _
  · rw [List.singleton_append, readCodes.eq_4 _ _ (by tauto) (by tauto) (by tauto)]
    rw [if_neg (by tauto)]

/-- A character has no code of a surrogate. -/
theorem charOfCode_toNat (c : Char) : charOfCode c.toNat = c := by
  have hvalid : c.toNat.isValidChar := c.valid
  rw [charOfCode, if_pos hvalid, Char.ofNat_toNat]

theorem joinCodes_toNat (chars : List Char) : joinCodes (chars.map Char.toNat) = chars := by
  induction chars with
  | nil => rfl
  | cons c rest ih =>
      cases rest with
      | nil => simp [joinCodes, charOfCode_toNat]
      | cons d rest =>
          have hcode : ¬ (0xD800 ≤ c.toNat ∧ c.toNat < 0xDC00 ∧ 0xDC00 ≤ d.toNat ∧
              d.toNat < 0xE000) := by
            intro h
            have hvalid : c.toNat.isValidChar := c.valid
            rcases hvalid with hlow | ⟨hhigh, _⟩ <;> omega
          rw [List.map_cons, List.map_cons, joinCodes, if_neg hcode, charOfCode_toNat]
          exact congrArg (c :: ·) ih

/-- A quoted text is read as the codes of its characters. -/
theorem readCodes_escaped (text : String) (rest : List Char) :
    readCodes (text.toList.flatMap Json.escapeChar ++ '"' :: rest) =
      some (text.toList.map Char.toNat, rest) := by
  induction text.toList with
  | nil => rfl
  | cons c chars ih =>
      rw [List.flatMap_cons, List.append_assoc, readCodes_escapeChar, ih]
      rfl

theorem toList_quote (text : String) :
    (Json.quote text).toList = '"' :: (text.toList.flatMap Json.escapeChar ++ ['"']) := by
  simp [Json.quote]

/-! ## Numbers -/

/-- The text after a number does not go on with it. -/
def EndsNumber (rest : List Char) : Prop :=
  ∀ c, rest.head? = some c → c.isDigit = false ∧ c ∉ ['.', 'e', 'E']

theorem span_digits {digits rest : List Char} (hdigits : ∀ c ∈ digits, c.isDigit = true)
    (hrest : EndsNumber rest) :
    (digits ++ rest).takeWhile Char.isDigit = digits ∧
      (digits ++ rest).dropWhile Char.isDigit = rest := by
  rw [List.takeWhile_append_of_pos hdigits, List.dropWhile_append_of_pos hdigits]
  cases rest with
  | nil => simp
  | cons c rest =>
      have hc := (hrest c rfl).1
      simp [hc]

/-- A positive number is written without a zero in front. -/
theorem toDigits_head {value : Nat} (hvalue : 0 < value) :
    ∃ c rest, Nat.toDigits 10 value = c :: rest ∧ c ≠ '0' := by
  induction value using Nat.strong_induction_on with
  | _ value ih =>
      by_cases hsmall : value < 10
      · refine ⟨_, [], Nat.toDigits_of_lt_base hsmall, ?_⟩
        interval_cases value <;> decide
      · obtain ⟨c, rest, hdigits, hc⟩ := ih (value / 10) (by omega) (by omega)
        refine ⟨c, rest ++ [(value % 10).digitChar], ?_, hc⟩
        rw [Nat.toDigits_of_base_le (by norm_num) (by omega), hdigits]
        rfl

theorem readInteger_toDigits (value : Nat) {rest : List Char} (hrest : EndsNumber rest) :
    readInteger (Nat.toDigits 10 value ++ rest) = some (value, rest) := by
  rcases Nat.eq_zero_or_pos value with rfl | hpositive
  · rfl
  · obtain ⟨c, tail, hdigits, hc⟩ := toDigits_head hpositive
    have hall : ∀ c ∈ Nat.toDigits 10 value, c.isDigit = true :=
      fun c hmem => Nat.isDigit_of_mem_toDigits (by norm_num) (by norm_num) hmem
    obtain ⟨htake, hdrop⟩ := span_digits hall hrest
    have hread : readDigits (Nat.toDigits 10 value ++ rest) = some (Nat.toDigits 10 value, rest) := by
      rw [readDigits, htake, hdrop, hdigits]
    rw [hdigits, List.cons_append, readInteger.eq_2, ← List.cons_append, ← hdigits, hread]
    · simp [Nat.ofDigitChars_ten_toDigits]
    · intro rest heq
      exact hc (List.cons.inj heq).1

theorem readUnsigned_toDigits (value : Nat) {rest : List Char} (hrest : EndsNumber rest) :
    readUnsigned (Nat.toDigits 10 value ++ rest) = some ((value : ℚ), rest) := by
  have hfraction : readFraction rest = some (0, rest) := by
    rw [readFraction.eq_2]
    rintro tail rfl
    exact absurd (by simp) (hrest '.' rfl).2
  have hexponent : readExponent rest = some (0, rest) := by
    cases rest with
    | nil => rfl
    | cons c rest =>
        have hc := (hrest c rfl).2
        simp at hc
        simp [readExponent, hc]
  simp [readUnsigned, readInteger_toDigits value hrest, hfraction, hexponent]

theorem toDigits_cons (value : Nat) :
    ∃ c rest, Nat.toDigits 10 value = c :: rest ∧ c.isDigit = true := by
  cases hdigits : Nat.toDigits 10 value with
  | nil => exact absurd hdigits Nat.toDigits_ne_nil
  | cons c rest =>
      have hmem : c ∈ Nat.toDigits 10 value := by simp [hdigits]
      exact ⟨c, rest, rfl, Nat.isDigit_of_mem_toDigits (by norm_num) (by norm_num) hmem⟩

theorem toList_toString_ofNat (value : Nat) :
    (toString (Int.ofNat value)).toList = Nat.toDigits 10 value :=
  Nat.toList_repr

theorem toList_toString_negSucc (value : Nat) :
    (toString (Int.negSucc value)).toList = '-' :: Nat.toDigits 10 (value + 1) := by
  rw [← Nat.toList_repr]
  exact String.toList_append

/-- An integer is written with a digit or a sign in front. -/
theorem toString_int_head (value : ℤ) :
    ∃ c rest, (toString value).toList = c :: rest ∧ (c.isDigit = true ∨ c = '-') := by
  cases value with
  | ofNat value =>
      obtain ⟨c, rest, hdigits, hc⟩ := toDigits_cons value
      exact ⟨c, rest, (toList_toString_ofNat value).trans hdigits, .inl hc⟩
  | negSucc value => exact ⟨'-', _, toList_toString_negSucc value, .inr rfl⟩

theorem readNumber_int (value : ℤ) {rest : List Char} (hrest : EndsNumber rest) :
    readNumber ((toString value).toList ++ rest) = some ((value : ℚ), rest) := by
  cases value with
  | ofNat value =>
      rw [toList_toString_ofNat, readNumber.eq_2, readUnsigned_toDigits value hrest]
      · rfl
      · intro tail heq
        obtain ⟨c, digits, hdigits, hc⟩ := toDigits_cons value
        rw [hdigits] at heq
        obtain ⟨rfl, _⟩ := List.cons.inj heq
        cases hc
  | negSucc value =>
      rw [toList_toString_negSucc, List.cons_append, readNumber,
        readUnsigned_toDigits (value + 1) hrest]
      simp [Int.negSucc_eq]

theorem endsNumber_cons {c : Char} (hc : c ∈ [',', ']', '\x7d']) (rest : List Char) :
    EndsNumber (c :: rest) := by
  intro d hd
  obtain rfl : c = d := by simpa using hd
  have hall : ∀ c ∈ [',', ']', '\x7d'], c.isDigit = false ∧ c ∉ ['.', 'e', 'E'] := by simp
  exact hall c hc

theorem endsNumber_nil : EndsNumber [] := by
  intro c hc
  cases hc

/-! ## Lists of texts -/

theorem skipSpace_cons {c : Char} (hc : isSpace c = false) (rest : List Char) :
    skipSpace (c :: rest) = c :: rest := by
  simp [skipSpace, hc]

theorem toList_joined (first more : String) (rest : List Char) :
    (first ++ "," ++ more).toList ++ rest = first.toList ++ ',' :: (more.toList ++ rest) := by
  simp only [String.toList_append, List.append_assoc]
  rfl

theorem length_joined (first more : String) :
    (first ++ "," ++ more).length = first.length + 1 + more.length := by
  rw [String.length_append, String.length_append]
  rfl

/-- Joined texts start like the first of them. -/
theorem intercalate_head {first : String} {c : Char} {tail : List Char}
    (hfirst : first.toList = c :: tail) (others : List String) (rest : List Char) :
    ∃ more, (String.intercalate "," (first :: others)).toList ++ rest = c :: more := by
  by_cases hothers : others = []
  · subst hothers
    exact ⟨tail ++ rest, by rw [String.intercalate_singleton, hfirst, List.cons_append]⟩
  · rw [String.intercalate_cons_of_ne_nil hothers, toList_joined, hfirst]
    exact ⟨_, rfl⟩

theorem toList_enclosed (opening closing : Char) (text : String) (rest : List Char) :
    (String.singleton opening ++ text ++ String.singleton closing).toList ++ rest =
      opening :: (text.toList ++ closing :: rest) := by
  simp

theorem length_enclosed (opening closing : Char) (text : String) :
    (String.singleton opening ++ text ++ String.singleton closing).length = text.length + 2 := by
  simp [String.length_append]
  omega

end JsonText

end Foundation
