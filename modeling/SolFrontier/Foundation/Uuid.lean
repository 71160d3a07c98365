import SolFrontier.Foundation.Bytes

/-! # Texts of UUIDs

Sixteen bytes in hexadecimal, in five groups between hyphens. The reader takes
digits of either case, and the same text without hyphens, in braces or as a URN.
-/

namespace Foundation

/-! ## Digits -/

/-- The value of a hexadecimal digit of either case. -/
def hexValue (c : Char) : Option Nat :=
  if '0' ≤ c ∧ c ≤ '9' then some (c.toNat - 48)
  else if 'a' ≤ c ∧ c ≤ 'f' then some (c.toNat - 87)
  else if 'A' ≤ c ∧ c ≤ 'F' then some (c.toNat - 55)
  else none

/-- The bytes of pairs of digits. -/
def hexBytes : List Char → Option (List UInt8)
  | [] => some []
  | high :: low :: rest => do
      let high ← hexValue high
      let low ← hexValue low
      let bytes ← hexBytes rest
      some (UInt8.ofNat (high * 16 + low) :: bytes)
  | [_] => none

theorem hexValue_hexDigit {value : Nat} (hvalue : value < 16) :
    hexValue (hexDigit value) = some value := by
  interval_cases value <;> rfl

theorem length_hexChars (bytes : List UInt8) : (hexChars bytes).length = 2 * bytes.length := by
  induction bytes with
  | nil => rfl
  | cons byte rest ih =>
      rw [hexChars, List.flatMap_cons, List.length_append, ← hexChars, ih, List.length_cons]
      simp only [List.length_cons, List.length_nil]
      omega

theorem hexBytes_hexChars (bytes : List UInt8) : hexBytes (hexChars bytes) = some bytes := by
  induction bytes with
  | nil => rfl
  | cons byte rest ih =>
      have hbound := byte.toNat_lt
      have hhigh := hexValue_hexDigit (show byte.toNat / 16 < 16 by omega)
      have hlow := hexValue_hexDigit (show byte.toNat % 16 < 16 by omega)
      have hbyte : UInt8.ofNat (byte.toNat / 16 * 16 + byte.toNat % 16) = byte := by
        rw [Nat.div_add_mod', UInt8.ofNat_toNat]
      have hchars : hexChars (byte :: rest) =
          hexDigit (byte.toNat / 16) :: hexDigit (byte.toNat % 16) :: hexChars rest := rfl
      rw [hchars, hexBytes, hhigh, hlow, ih]
      simp only [Option.bind_eq_bind, Option.bind_some, hbyte]

/-! ## Groups -/

/-- Bytes in groups of these lengths, the last of which takes what is left. -/
def writeGroups : List Nat → List UInt8 → List Char
  | count :: next :: counts, bytes =>
      hexChars (bytes.take count) ++ '-' :: writeGroups (next :: counts) (bytes.drop count)
  | _, bytes => hexChars bytes

/-- The bytes of groups of these lengths. -/
def readGroups : List Nat → List Char → Option (List UInt8)
  | [], _ => none
  | [count], text => if text.length = 2 * count then hexBytes text else none
  | count :: next :: counts, text => do
      let bytes ← hexBytes (text.take (2 * count))
      match text.drop (2 * count) with
      | '-' :: rest => do
          let others ← readGroups (next :: counts) rest
          some (bytes ++ others)
      | _ => none

theorem length_writeGroups (count : Nat) (counts : List Nat) (bytes : List UInt8) :
    (writeGroups (count :: counts) bytes).length = 2 * bytes.length + counts.length := by
  induction counts generalizing count bytes with
  | nil =>
      show (hexChars bytes).length = 2 * bytes.length
      exact length_hexChars bytes
  | cons next counts ih =>
      rw [writeGroups, List.length_append, List.length_cons, length_hexChars, ih,
        List.length_take, List.length_drop, List.length_cons]
      omega

theorem readGroups_writeGroups {counts : List Nat} (hcounts : counts ≠ []) {bytes : List UInt8}
    (hlength : bytes.length = counts.sum) :
    readGroups counts (writeGroups counts bytes) = some bytes := by
  induction counts generalizing bytes with
  | nil => exact absurd rfl hcounts
  | cons count counts ih =>
      rw [List.sum_cons] at hlength
      cases counts with
      | nil =>
          have hchars : (hexChars bytes).length = 2 * count := by
            rw [length_hexChars, hlength, List.sum_nil, Nat.add_zero]
          exact (if_pos hchars).trans (hexBytes_hexChars bytes)
      | cons next counts =>
          have hfirst : (hexChars (bytes.take count)).length = 2 * count := by
            rw [length_hexChars, List.length_take, Nat.min_eq_left (by omega)]
          have hrest : (bytes.drop count).length = (next :: counts).sum := by
            rw [List.length_drop, hlength, Nat.add_sub_cancel_left]
          have hothers := ih (List.cons_ne_nil next counts) hrest
          rw [writeGroups, readGroups, List.take_left' hfirst, List.drop_left' hfirst,
            hexBytes_hexChars]
          simp only [Option.bind_eq_bind, Option.bind_some, hothers, List.take_append_drop]

/-! ## UUIDs -/

namespace Uuid

/-- The bytes in each group. -/
def layout : List Nat := [4, 2, 2, 2, 6]

/-- The lower-case text with hyphens. -/
def hyphenated (id : Bytes 16) : String := String.ofList (writeGroups layout id.1)

/-- A text without the braces or the URN around it. -/
def body (text : List Char) : List Char :=
  if text.length = 38 ∧ text.head? = some '\x7b' ∧ text.getLast? = some '\x7d' then
    text.tail.dropLast
  else if text.length = 45 ∧ "urn:uuid:".toList.isPrefixOf text then text.drop 9
  else text

/-- `Uuid::parse_str`. -/
def parseStr (text : String) : Option (Bytes 16) := do
  let text := body text.toList
  let bytes ← if text.length = 32 then hexBytes text else readGroups layout text
  if h : bytes.length = 16 then some ⟨bytes, h⟩ else none

theorem parseStr_hyphenated (id : Bytes 16) : parseStr (hyphenated id) = some id := by
  have hlength : (writeGroups layout id.1).length = 36 := by
    rw [layout, length_writeGroups, id.2]
    rfl
  have hbody : body (writeGroups layout id.1) = writeGroups layout id.1 := by
    simp [body, hlength]
  have hread : readGroups layout (writeGroups layout id.1) = some id.1 :=
    readGroups_writeGroups (by decide) id.2
  -- With its hyphens the text has 36 characters, none of the other accepted forms.
  rw [parseStr, hyphenated, String.toList_ofList, hbody, if_neg (by simp [hlength]), hread]
  exact dif_pos id.2

theorem hyphenated_inj {left right : Bytes 16} (heq : hyphenated left = hyphenated right) :
    left = right := by
  have hparse := congrArg parseStr heq
  rw [parseStr_hyphenated, parseStr_hyphenated] at hparse
  exact Option.some.inj hparse

end Uuid

end Foundation
