import SolFrontier.Mcp.Status
import SolFrontier.Mcp.Funding

/-! # Spellings of a reference

A reference is spelled in digits of either case, a UUID with or without hyphens,
and white space around it. What a query makes of a spelling depends on the value
it spells only.
-/

namespace SolFrontier.Mcp.Status

open Foundation Types StateStore Sidecar

/-! ## Digits of either case -/

/-- The bytes are digits, of either case, of a value. -/
def Digits (value bytes : List UInt8) : Prop :=
  bytes.map toAsciiLowercase = utf8Bytes (hexEncode value)

/-- A digit of either case reads as the value of its lower-case form. -/
theorem hexNibble_of_digit (byte : UInt8) :
    isAsciiHexdigit byte = isLowerHexByte (toAsciiLowercase byte) ∧
      (isAsciiHexdigit byte = true → ∃ value < 16, hexNibble byte = .ok (UInt8.ofNat value) ∧
        toAsciiLowercase byte = hexDigitByte value) ∧
      UInt8.ofNat (byte.toNat / 16) <<< 4 ||| UInt8.ofNat (byte.toNat % 16) = byte := by
  have hall : ∀ code : Fin 256, isAsciiHexdigit (UInt8.ofNat code) =
        isLowerHexByte (toAsciiLowercase (UInt8.ofNat code)) ∧
      (isAsciiHexdigit (UInt8.ofNat code) = true → ∃ value < 16,
        hexNibble (UInt8.ofNat code) = .ok (UInt8.ofNat value) ∧
          toAsciiLowercase (UInt8.ofNat code) = hexDigitByte value) ∧
      UInt8.ofNat ((UInt8.ofNat code).toNat / 16) <<< 4 |||
        UInt8.ofNat ((UInt8.ofNat code).toNat % 16) = UInt8.ofNat code := by
    decide +kernel
  simpa using hall ⟨byte.toNat, byte.toNat_lt⟩

theorem hexDigitByte_inj {left right : Nat} (hleft : left < 16) (hright : right < 16)
    (heq : hexDigitByte left = hexDigitByte right) : left = right := by
  have hall : ∀ left right : Fin 16, hexDigitByte left = hexDigitByte right → left = right := by
    decide
  exact congrArg Fin.val (hall ⟨left, hleft⟩ ⟨right, hright⟩ heq)

theorem hexNibble_of_lower {byte : UInt8} {value : Nat} (hvalue : value < 16)
    (hlower : toAsciiLowercase byte = hexDigitByte value) :
    isAsciiHexdigit byte = true ∧ hexNibble byte = .ok (UInt8.ofNat value) := by
  obtain ⟨hsame, hread, _⟩ := hexNibble_of_digit byte
  have hdigit : isAsciiHexdigit byte = true := by
    rw [hsame, hlower, isLowerHexByte_hexDigitByte hvalue]
  obtain ⟨other, hother, hnibble, hlowerOther⟩ := hread hdigit
  have heq := hexDigitByte_inj hother hvalue (hlowerOther.symm.trans hlower)
  exact ⟨hdigit, heq ▸ hnibble⟩

namespace Digits

/-- Two digits for the first byte, then those of the rest. -/
theorem cons_iff {byte : UInt8} {value bytes : List UInt8} :
    Digits (byte :: value) bytes ↔ ∃ high low rest, bytes = high :: low :: rest ∧
      toAsciiLowercase high = hexDigitByte (byte.toNat / 16) ∧
      toAsciiLowercase low = hexDigitByte (byte.toNat % 16) ∧ Digits value rest := by
  simp only [Digits, utf8Bytes_hexEncode, List.flatMap_cons, List.cons_append, List.nil_append]
  constructor
  · intro hmap
    obtain ⟨high, tail, rfl, hhigh, hmap⟩ := List.map_eq_cons_iff.mp hmap
    obtain ⟨low, rest, rfl, hlow, hmap⟩ := List.map_eq_cons_iff.mp hmap
    exact ⟨high, low, rest, rfl, hhigh, hlow, hmap⟩
  · intro ⟨high, low, rest, hbytes, hhigh, hlow, hrest⟩
    simp [hbytes, hhigh, hlow, hrest]

variable {value bytes : List UInt8}

theorem nil (hdigits : Digits [] bytes) : bytes = [] := by
  simpa [Digits, utf8Bytes_hexEncode] using hdigits

theorem length (hdigits : Digits value bytes) : bytes.length = 2 * value.length := by
  have hmap := congrArg List.length hdigits
  simpa [utf8Bytes_hexEncode, List.length_flatMap, Nat.mul_comm] using hmap

theorem all (hdigits : Digits value bytes) : bytes.all isAsciiHexdigit = true := by
  induction value generalizing bytes with
  | nil => simp [hdigits.nil]
  | cons byte value ih =>
      obtain ⟨high, low, rest, rfl, hhigh, hlow, hrest⟩ := cons_iff.mp hdigits
      have hbound := byte.toNat_lt
      have hhighDigit := (hexNibble_of_lower (by omega) hhigh).1
      have hlowDigit := (hexNibble_of_lower (by omega) hlow).1
      simp [hhighDigit, hlowDigit, ih hrest]

theorem ruleIdBytes_eq (hdigits : Digits value bytes) : ruleIdBytes bytes = .ok value := by
  induction value generalizing bytes with
  | nil =>
      rw [hdigits.nil]
      rfl
  | cons byte value ih =>
      obtain ⟨high, low, rest, rfl, hhigh, hlow, hrest⟩ := cons_iff.mp hdigits
      have hbound := byte.toNat_lt
      have hhighNibble := (hexNibble_of_lower (by omega) hhigh).2
      have hlowNibble := (hexNibble_of_lower (by omega) hlow).2
      rw [ruleIdBytes, hhighNibble, hlowNibble, ih hrest]
      simp [bind, Except.bind, (hexNibble_of_digit byte).2.2]

/-- In lower case the digits are the text of the value. -/
theorem asciiText_eq (hdigits : Digits value bytes) :
    asciiText (bytes.map toAsciiLowercase) = hexEncode value := by
  rw [hdigits, asciiText, utf8Bytes_hexEncode, hexEncode, hexChars, List.map_flatMap]
  congr 2
  funext byte
  have hchar : ∀ digit < 16, Char.ofNat (hexDigitByte digit).toNat = hexDigit digit := by
    intro digit hdigit
    interval_cases digit <;> rfl
  have hbound := byte.toNat_lt
  simp [hchar (byte.toNat / 16) (by omega), hchar (byte.toNat % 16) (by omega)]

/-- Digits of even number spell a value. -/
theorem exists_value (hlength : bytes.length % 2 = 0) (hall : bytes.all isAsciiHexdigit = true) :
    ∃ value, Digits value bytes := by
  induction bytes using ruleIdBytes.induct with
  | case1 high low rest ih =>
      simp only [List.all_cons, Bool.and_eq_true] at hall
      obtain ⟨value, hvalue⟩ := ih (by simp at hlength; omega) hall.2.2
      obtain ⟨upper, hupper, _, hhigh⟩ := (hexNibble_of_digit high).2.1 hall.1
      obtain ⟨lower, hlower, _, hlow⟩ := (hexNibble_of_digit low).2.1 hall.2.1
      have hbyte : (UInt8.ofNat (upper * 16 + lower)).toNat = upper * 16 + lower := by
        rw [UInt8.toNat_ofNat']
        omega
      refine ⟨UInt8.ofNat (upper * 16 + lower) :: value, cons_iff.mpr ⟨high, low, rest, rfl, ?_, ?_,
        hvalue⟩⟩
      · rw [hbyte, hhigh]
        congr 1
        omega
      · rw [hbyte, hlow]
        congr 1
        omega
  | case2 bytes hshort =>
      cases bytes with
      | nil => exact ⟨[], rfl⟩
      | cons first rest =>
          cases rest with
          | nil => simp at hlength
          | cons second rest => exact absurd rfl (hshort first second rest)

end Digits

/-! ## Hyphens -/

/-- Thirty-two digits in five groups. -/
def hyphenate (digits : List UInt8) : List UInt8 :=
  digits.take 8 ++ 45 :: ((digits.drop 8).take 4 ++ 45 :: ((digits.drop 12).take 4 ++
    45 :: ((digits.drop 16).take 4 ++ 45 :: digits.drop 20)))

theorem hasUuidHyphens_append {index : Nat} {group rest : List UInt8} :
    hasUuidHyphens index (group ++ rest) =
      (hasUuidHyphens index group && hasUuidHyphens (index + group.length) rest) := by
  induction group generalizing index with
  | nil => simp [hasUuidHyphens]
  | cons byte group ih =>
      rw [List.cons_append, hasUuidHyphens, hasUuidHyphens, ih, Bool.and_assoc, List.length_cons]
      congr 3
      omega

/-- A group of digits stands between two hyphens. -/
theorem hasUuidHyphens_group {index : Nat} {group : List UInt8}
    (hall : group.all isAsciiHexdigit = true)
    (hfree : ∀ place, place = 8 ∨ place = 13 ∨ place = 18 ∨ place = 23 →
      place < index ∨ index + group.length ≤ place) : hasUuidHyphens index group = true := by
  induction group generalizing index with
  | nil => rfl
  | cons byte group ih =>
      simp only [List.all_cons, Bool.and_eq_true] at hall
      have hplace : ¬ (index = 8 ∨ index = 13 ∨ index = 18 ∨ index = 23) := by
        intro hindex
        have houtside := hfree index hindex
        simp only [List.length_cons] at houtside
        omega
      rw [hasUuidHyphens, if_neg hplace, hall.1, Bool.true_and]
      apply ih hall.2
      intro place hhyphen
      have houtside := hfree place hhyphen
      simp only [List.length_cons] at houtside
      omega

/-- A group of digits and its hyphen lead to the next group. -/
theorem hasUuidHyphens_step (index next : Nat) {group rest : List UInt8}
    (hall : group.all isAsciiHexdigit = true) (hnext : index + group.length = next)
    (hhyphen : next = 8 ∨ next = 13 ∨ next = 18 ∨ next = 23)
    (hfree : ∀ place, place = 8 ∨ place = 13 ∨ place = 18 ∨ place = 23 →
      place < index ∨ next ≤ place) :
    hasUuidHyphens index (group ++ 45 :: rest) = hasUuidHyphens (next + 1) rest := by
  rw [hasUuidHyphens_append, hasUuidHyphens_group hall (hnext ▸ hfree), Bool.true_and, hnext,
    hasUuidHyphens, if_pos hhyphen]
  simp

theorem filter_digits {digits : List UInt8} (hall : digits.all isAsciiHexdigit = true) :
    digits.filter (· ≠ 45) = digits := by
  rw [List.filter_eq_self]
  intro byte hbyte
  have hdigit := List.all_eq_true.mp hall byte hbyte
  simp only [decide_eq_true_eq]
  intro hhyphen
  rw [hhyphen] at hdigit
  exact absurd hdigit (by decide)

theorem all_sublist {part digits : List UInt8} (hall : digits.all isAsciiHexdigit = true)
    (hpart : ∀ byte ∈ part, byte ∈ digits) : part.all isAsciiHexdigit = true := by
  rw [List.all_eq_true] at hall ⊢
  intro byte hbyte
  exact hall byte (hpart byte hbyte)

section

variable {digits : List UInt8}

/-- The hyphenated form passes the check and its digits are read back. -/
theorem hyphenate_digits (hlength : digits.length = 32)
    (hall : digits.all isAsciiHexdigit = true) :
    (hyphenate digits).length = 36 ∧ hasUuidHyphens 0 (hyphenate digits) = true ∧
      (hyphenate digits).filter (· ≠ 45) = digits := by
  have htake : ∀ start count, ((digits.drop start).take count).all isAsciiHexdigit = true := by
    intro start count
    exact all_sublist hall fun byte hbyte => List.mem_of_mem_drop (List.mem_of_mem_take hbyte)
  have hfirst : (digits.take 8).all isAsciiHexdigit = true := htake 0 8
  have hlast : (digits.drop 20).all isAsciiHexdigit = true :=
    all_sublist hall fun byte hbyte => List.mem_of_mem_drop hbyte
  have hcount : ∀ start count, start + count ≤ 32 →
      ((digits.drop start).take count).length = count := by
    intro start count hrange
    rw [List.length_take, List.length_drop]
    omega
  refine ⟨?_, ?_, ?_⟩
  · simp [hyphenate, hlength]
  · have h8 : (digits.take 8).length = 8 := hcount 0 8 (by omega)
    rw [hyphenate, hasUuidHyphens_step 0 8 hfirst (by omega) (by omega) (by omega),
      hasUuidHyphens_step 9 13 (htake 8 4) (by rw [hcount 8 4 (by omega)]) (by omega)
        (by omega),
      hasUuidHyphens_step 14 18 (htake 12 4) (by rw [hcount 12 4 (by omega)]) (by omega)
        (by omega),
      hasUuidHyphens_step 19 23 (htake 16 4) (by rw [hcount 16 4 (by omega)]) (by omega)
        (by omega)]
    exact hasUuidHyphens_group hlast (by omega)
  · have hdrop : ∀ start, (digits.drop start).take 4 ++ digits.drop (start + 4) =
        digits.drop start := by
      intro start
      rw [← List.drop_drop]
      exact List.take_append_drop 4 _
    simp only [hyphenate, List.filter_append, List.filter_cons, filter_digits hfirst,
      filter_digits (htake 8 4), filter_digits (htake 12 4), filter_digits (htake 16 4),
      filter_digits hlast, ne_eq, not_true_eq_false, decide_false, Bool.false_eq_true, if_false]
    rw [hdrop 16, hdrop 12, hdrop 8, List.take_append_drop]

end

/-! ## Spelled references -/

/-- The text is a spelling of the UUID. -/
def UuidSpelling (id : Bytes 16) (text : String) : Prop :=
  ∃ digits, Digits id.1 digits ∧
    (utf8Bytes (trim text) = digits ∨ utf8Bytes (trim text) = hyphenate digits)

/-- The text is a spelling of the hash. -/
def HashSpelling (hash : Bytes 32) (text : String) : Prop := Digits hash.1 (utf8Bytes (trim text))

theorem canonicalHashRef_eq_some {text expected : String} :
    canonicalHashRef text = some expected ↔
      ∃ hash, HashSpelling hash text ∧ expected = hexEncode hash.1 := by
  unfold canonicalHashRef
  constructor
  · intro hsome
    simp only [Option.ite_none_right_eq_some, Option.some.injEq] at hsome
    obtain ⟨⟨hlength, hall⟩, rfl⟩ := hsome
    obtain ⟨value, hvalue⟩ := Digits.exists_value (by omega) hall
    have hcount := hvalue.length
    exact ⟨⟨value, by omega⟩, hvalue, hvalue.asciiText_eq⟩
  · intro ⟨hash, hspelling, hexpected⟩
    have hlength : (utf8Bytes (trim text)).length = 64 := by
      rw [Digits.length hspelling, hash.2]
    rw [if_pos ⟨hlength, hspelling.all⟩, hspelling.asciiText_eq, hexpected]

/-- Every spelling of a UUID resolves to it, and none is a hash. -/
theorem resolveUuidRef_of_spelling {id : Bytes 16} {text : String}
    (hspelling : UuidSpelling id text) :
    resolveUuidRef text = .ok ⟨hexEncode id.1, id⟩ ∧ canonicalHashRef text = none := by
  obtain ⟨digits, hdigits, hform⟩ := hspelling
  have hlength : digits.length = 32 := by
    rw [hdigits.length, id.2]
  obtain ⟨hlong, hhyphens, hfilter⟩ := hyphenate_digits hlength hdigits.all
  constructor
  · rcases hform with hcompact | hhyphenated
    · simp [resolveUuidRef, hcompact, hlength, hdigits.all, bind, Except.bind,
        hdigits.ruleIdBytes_eq, id.2, hdigits.asciiText_eq]
    · unfold resolveUuidRef
      dsimp only
      rw [hhyphenated, if_neg (by simp [hlong]), if_pos ⟨hlong, hhyphens⟩, hfilter]
      simp [hdigits.all, bind, Except.bind, hdigits.ruleIdBytes_eq, id.2, hdigits.asciiText_eq]
  · rcases hform with hcompact | hhyphenated
    · simp [canonicalHashRef, hcompact, hlength]
    · simp [canonicalHashRef, hhyphenated, hlong]

end SolFrontier.Mcp.Status
