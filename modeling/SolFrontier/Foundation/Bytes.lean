import Mathlib.Data.List.TakeWhile
import Mathlib.Data.Nat.Digits.Lemmas

/-! # Byte strings and their text forms

Byte strings of a fixed length, and the two texts they are shown as: lower-case
hexadecimal and base58.
-/

namespace Foundation

/-- Exactly `count` bytes. -/
abbrev Bytes (count : Nat) := { list : List UInt8 // list.length = count }

/-- One byte, over and over. -/
abbrev Bytes.filled (count : Nat) (byte : UInt8) : Bytes count :=
  ⟨List.replicate count byte, List.length_replicate⟩

/-! ## Hexadecimal -/

def hexDigit (value : Nat) : Char :=
  "0123456789abcdef".toList.getD value '0'

def hexChars (bytes : List UInt8) : List Char :=
  bytes.flatMap fun byte => [hexDigit (byte.toNat / 16), hexDigit (byte.toNat % 16)]

/-- The lower-case hexadecimal text of a byte string. -/
def hexEncode (bytes : List UInt8) : String := String.ofList (hexChars bytes)

theorem hexDigit_inj {left right : Nat} (hleft : left < 16) (hright : right < 16)
    (heq : hexDigit left = hexDigit right) : left = right := by
  revert heq
  interval_cases left <;> interval_cases right <;> decide

theorem hexChars_inj {left right : List UInt8} (heq : hexChars left = hexChars right) :
    left = right := by
  induction left generalizing right with
  | nil =>
      cases right with
      | nil => rfl
      | cons byte rest => simp [hexChars] at heq
  | cons byte rest ih =>
      cases right with
      | nil => simp [hexChars] at heq
      | cons other tail =>
          simp only [hexChars, List.flatMap_cons, List.cons_append, List.nil_append,
            List.cons.injEq] at heq
          obtain ⟨hhigh, hlow, hrest⟩ := heq
          have hbyte := byte.toNat_lt
          have hother := other.toNat_lt
          have hdiv := hexDigit_inj (by omega) (by omega) hhigh
          have hmod := hexDigit_inj (by omega) (by omega) hlow
          have hsame : byte = other := UInt8.toNat_inj.mp (by omega)
          rw [hsame, ih hrest]

theorem hexEncode_inj {left right : List UInt8} (heq : hexEncode left = hexEncode right) :
    left = right := by
  apply hexChars_inj
  simpa [hexEncode] using congrArg String.toList heq

def base64Digit (value : Nat) : Char :=
  "ABCDEFGHIJKLMNOPQRSTUVWXYZabcdefghijklmnopqrstuvwxyz0123456789+/".toList.getD value 'A'

/-- Four digits for three bytes; an incomplete group is padded. -/
def base64Chars : List UInt8 → List Char
  | first :: second :: third :: rest =>
      let group := first.toNat * 65536 + second.toNat * 256 + third.toNat
      base64Digit (group / 262144) :: base64Digit (group / 4096 % 64) ::
        base64Digit (group / 64 % 64) :: base64Digit (group % 64) :: base64Chars rest
  | [first, second] =>
      let group := first.toNat * 65536 + second.toNat * 256
      [base64Digit (group / 262144), base64Digit (group / 4096 % 64),
        base64Digit (group / 64 % 64), '=']
  | [first] =>
      let group := first.toNat * 65536
      [base64Digit (group / 262144), base64Digit (group / 4096 % 64), '=', '=']
  | [] => []

/-- The standard base64 text of a byte string, with padding. -/
def base64Encode (bytes : List UInt8) : String := String.ofList (base64Chars bytes)

example : base64Encode [104, 101, 108, 108, 111] = "aGVsbG8=" := by decide

/-- The UTF-8 bytes of a text. -/
def utf8Bytes (text : String) : List UInt8 := text.toList.flatMap String.utf8EncodeChar

theorem utf8Bytes_inj {left right : String} (heq : utf8Bytes left = utf8Bytes right) :
    left = right := by
  rw [← String.ofList_toList (s := left), ← String.ofList_toList (s := right)]
  apply String.toByteArray_inj.mp
  rw [String.toByteArray_ofList, String.toByteArray_ofList, List.utf8Encode, List.utf8Encode]
  exact congrArg List.toByteArray heq

/-- Lower-case the ASCII letters of a text. -/
def asciiLower (text : String) : String := String.ofList (text.toList.map Char.toLower)

/-- The ASCII code of a hexadecimal digit. -/
def hexDigitByte (value : Nat) : UInt8 :=
  if value < 10 then UInt8.ofNat (48 + value) else UInt8.ofNat (87 + value)

theorem utf8EncodeChar_hexDigit {value : Nat} (hvalue : value < 16) :
    String.utf8EncodeChar (hexDigit value) = [hexDigitByte value] := by
  interval_cases value <;> rfl

theorem utf8Bytes_hexEncode (bytes : List UInt8) :
    utf8Bytes (hexEncode bytes) =
      bytes.flatMap fun byte => [hexDigitByte (byte.toNat / 16), hexDigitByte (byte.toNat % 16)] := by
  rw [utf8Bytes, hexEncode, String.toList_ofList, hexChars, List.flatMap_assoc]
  congr 1
  funext byte
  have hbyte := byte.toNat_lt
  have hhigh : byte.toNat / 16 < 16 := by omega
  have hlow : byte.toNat % 16 < 16 := by omega
  simp [utf8EncodeChar_hexDigit hhigh, utf8EncodeChar_hexDigit hlow]

theorem toLower_hexDigit {value : Nat} (hvalue : value < 16) :
    (hexDigit value).toLower = hexDigit value := by
  interval_cases value <;> decide

theorem asciiLower_hexEncode (bytes : List UInt8) :
    asciiLower (hexEncode bytes) = hexEncode bytes := by
  rw [asciiLower, hexEncode, String.toList_ofList, hexChars, List.map_flatMap]
  congr 2
  funext byte
  have hbyte := byte.toNat_lt
  have hhigh : byte.toNat / 16 < 16 := by omega
  have hlow : byte.toNat % 16 < 16 := by omega
  simp [toLower_hexDigit hhigh, toLower_hexDigit hlow]

/-! ## Base58 -/

/-- Change the radix of a big-endian digit string, keeping one leading zero
for each leading zero. -/
def reradix (source target : Nat) (digits : List Nat) : List Nat :=
  List.replicate (digits.takeWhile (· = 0)).length 0 ++
    (Nat.digits target (Nat.ofDigits source digits.reverse)).reverse

theorem ofDigits_append_zeros (radix count : Nat) (digits : List Nat) :
    Nat.ofDigits radix (digits ++ List.replicate count 0) = Nat.ofDigits radix digits := by
  induction count with
  | zero => simp
  | succ count ih =>
      rw [List.replicate_succ', ← List.append_assoc, Nat.ofDigits_append, ih]
      simp

/-- A digit string is its leading zeros and a string that starts with none. -/
theorem exists_leading_zeros (digits : List Nat) :
    ∃ count rest, digits = List.replicate count 0 ++ rest ∧
      (digits.takeWhile (· = 0)).length = count ∧ ∀ hne : rest ≠ [], rest.head hne ≠ 0 := by
  refine ⟨(digits.takeWhile (· = 0)).length, digits.dropWhile (· = 0), ?_, rfl, ?_⟩
  · have hzeros : digits.takeWhile (· = 0) =
        List.replicate (digits.takeWhile (· = 0)).length 0 := by
      rw [List.eq_replicate_iff]
      exact ⟨rfl, fun digit hmem => by simpa using List.mem_takeWhile_imp hmem⟩
    rw [← hzeros, List.takeWhile_append_dropWhile]
  · intro hne
    have hhead := List.head_dropWhile_not (fun digit : Nat => decide (digit = 0)) hne
    simpa only [decide_eq_false_iff_not] using hhead

theorem takeWhile_zeros {count : Nat} {rest : List Nat}
    (hrest : ∀ hne : rest ≠ [], rest.head hne ≠ 0) :
    ((List.replicate count 0 ++ rest).takeWhile (· = 0)).length = count := by
  rw [List.takeWhile_append_of_pos (by simp)]
  cases rest with
  | nil => simp
  | cons head tail =>
      have hhead : head ≠ 0 := hrest (by simp)
      simp [hhead]

/-- Changing the radix and changing it back gives the same digits. -/
theorem reradix_reradix {source : Nat} (target : Nat) (hsource : 1 < source)
    {digits : List Nat} (hdigits : ∀ digit ∈ digits, digit < source) :
    reradix target source (reradix source target digits) = digits := by
  obtain ⟨count, rest, rfl, hcount, hhead⟩ := exists_leading_zeros digits
  have hvalue : Nat.ofDigits source (List.replicate count 0 ++ rest).reverse =
      Nat.ofDigits source rest.reverse := by
    rw [List.reverse_append, List.reverse_replicate, ofDigits_append_zeros]
  have hrest : Nat.digits source (Nat.ofDigits source rest.reverse) = rest.reverse := by
    refine Nat.digits_ofDigits source hsource _ ?_ ?_
    · intro digit hmem
      exact hdigits digit (by simp [List.mem_reverse.mp hmem])
    · intro hne
      rw [List.getLast_reverse]
      exact hhead (by simpa using hne)
  have hleading : ∀ hne : (Nat.digits target (Nat.ofDigits source rest.reverse)).reverse ≠ [],
      (Nat.digits target (Nat.ofDigits source rest.reverse)).reverse.head hne ≠ 0 := by
    intro hne
    rw [List.head_reverse]
    apply Nat.getLast_digit_ne_zero
    intro hzero
    simp [hzero] at hne
  rw [reradix, reradix, hcount, hvalue, takeWhile_zeros hleading, List.reverse_append,
    List.reverse_replicate, List.reverse_reverse, ofDigits_append_zeros, Nat.ofDigits_digits,
    hrest, List.reverse_reverse]

def base58Alphabet : List Char :=
  "123456789ABCDEFGHJKLMNPQRSTUVWXYZabcdefghijkmnopqrstuvwxyz".toList

def base58Char (value : Nat) : Char := base58Alphabet.getD value '1'

/-- The digit a character stands for, if it is in the alphabet. -/
def base58Value (char : Char) : Option Nat :=
  base58Alphabet.findIdx? (· = char)

theorem base58Value_base58Char {value : Nat} (hvalue : value < 58) :
    base58Value (base58Char value) = some value := by
  revert value
  decide +kernel

def base58Encode (bytes : List UInt8) : String :=
  String.ofList ((reradix 256 58 (bytes.map UInt8.toNat)).map base58Char)

/-- Decode a base58 text, or reject a character outside the alphabet. -/
def base58Decode (text : String) : Option (List UInt8) :=
  (text.toList.mapM base58Value).map fun values => (reradix 58 256 values).map UInt8.ofNat

theorem reradix_lt {source target : Nat} (htarget : 1 < target) {digits : List Nat} {digit : Nat}
    (hmem : digit ∈ reradix source target digits) : digit < target := by
  rw [reradix, List.mem_append, List.mem_reverse] at hmem
  rcases hmem with hzero | hdigit
  · rw [List.eq_of_mem_replicate hzero]
    omega
  · exact Nat.digits_lt_base htarget hdigit

theorem mapM_base58Value (values : List Nat) (hvalues : ∀ value ∈ values, value < 58) :
    (values.map base58Char).mapM base58Value = some values := by
  induction values with
  | nil => rfl
  | cons value rest ih =>
      have hhead := base58Value_base58Char (hvalues value (by simp))
      have htail := ih fun other hmem => hvalues other (by simp [hmem])
      simp [List.mapM_cons, hhead, htail]

@[simp] theorem base58Decode_base58Encode (bytes : List UInt8) :
    base58Decode (base58Encode bytes) = some bytes := by
  have hdigits : ∀ digit ∈ bytes.map UInt8.toNat, digit < 256 := by
    intro digit hmem
    obtain ⟨byte, _, rfl⟩ := List.mem_map.mp hmem
    exact byte.toNat_lt
  have hvalues := mapM_base58Value (reradix 256 58 (bytes.map UInt8.toNat))
    fun value hmem => reradix_lt (by norm_num) hmem
  rw [base58Decode, base58Encode, String.toList_ofList, hvalues, Option.map_some,
    reradix_reradix 58 (by norm_num) hdigits, List.map_map]
  simp [Function.comp_def]

theorem base58Value_eq_some {char : Char} {value : Nat} (hvalue : base58Value char = some value) :
    value < 58 ∧ base58Char value = char := by
  obtain ⟨hlt, hchar, _⟩ := List.findIdx?_eq_some_iff_getElem.mp hvalue
  refine ⟨hlt, ?_⟩
  rw [base58Char, List.getD_eq_getElem?_getD, List.getElem?_eq_getElem hlt, Option.getD_some]
  exact of_decide_eq_true hchar

theorem map_base58Char {chars : List Char} {values : List Nat}
    (hvalues : chars.mapM base58Value = some values) :
    (∀ value ∈ values, value < 58) ∧ values.map base58Char = chars := by
  induction chars generalizing values with
  | nil =>
      cases hvalues
      exact ⟨by simp, rfl⟩
  | cons char rest ih =>
      rw [List.mapM_cons] at hvalues
      obtain ⟨value, hhead, hrest⟩ := Option.bind_eq_some_iff.mp hvalues
      obtain ⟨others, htail, heq⟩ := Option.bind_eq_some_iff.mp hrest
      obtain rfl := Option.some.inj heq
      obtain ⟨hlt, hchar⟩ := base58Value_eq_some hhead
      obtain ⟨hall, hchars⟩ := ih htail
      exact ⟨List.forall_mem_cons.mpr ⟨hlt, hall⟩, by rw [List.map_cons, hchar, hchars]⟩

/-- A byte string has one base58 text. -/
theorem base58Encode_of_base58Decode {text : String} {bytes : List UInt8}
    (hdecode : base58Decode text = some bytes) : base58Encode bytes = text := by
  obtain ⟨values, hvalues, rfl⟩ := Option.map_eq_some_iff.mp hdecode
  obtain ⟨hall, hchars⟩ := map_base58Char hvalues
  have hbytes : ((reradix 58 256 values).map UInt8.ofNat).map UInt8.toNat =
      reradix 58 256 values := by
    rw [List.map_map]
    refine (List.map_congr_left fun digit hmem => ?_).trans (List.map_id _)
    exact UInt8.toNat_ofNat_of_lt' (reradix_lt (by norm_num) hmem)
  rw [base58Encode, hbytes, reradix_reradix 256 (by norm_num) hall, hchars, String.ofList_toList]
end Foundation
