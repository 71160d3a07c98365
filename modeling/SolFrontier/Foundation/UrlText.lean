import SolFrontier.Foundation.Bytes

/-! # Texts inside a URL

Texts travel in a URL as percent-encoded UTF-8, and a fragment may carry named
ones as form parameters. What was encoded is read back unchanged.
-/

namespace Foundation

/-! ## Reading UTF-8 -/

/-- The second bytes that may follow a first byte of a longer character. -/
def isSecondByte (first second : UInt8) : Bool :=
  if first = 0xE0 then 0xA0 ≤ second && second ≤ 0xBF
  else if first = 0xED then 0x80 ≤ second && second ≤ 0x9F
  else if first = 0xF0 then 0x90 ≤ second && second ≤ 0xBF
  else if first = 0xF4 then 0x80 ≤ second && second ≤ 0x8F
  else 0x80 ≤ second && second ≤ 0xBF

/-- How many bytes one replacement character stands for: those that could have
started a character, and at least one. -/
def malformedLength : List UInt8 → Nat
  | first :: second :: rest =>
      if 0xE0 ≤ first && first ≤ 0xF4 && isSecondByte first second then
        match rest with
        | third :: _ => if 0xF0 ≤ first && 0x80 ≤ third && third ≤ 0xBF then 3 else 2
        | [] => 2
      else 1
  | _ => 1

/-- Decode UTF-8 after a number of bytes that are already accounted for. -/
def decodeUtf8From : Nat → List UInt8 → List Char
  | _, [] => []
  | skip + 1, _ :: rest => decodeUtf8From skip rest
  | 0, byte :: rest =>
      match ((byte :: rest).take 4).toByteArray.utf8DecodeChar? 0 with
      | some c => c :: decodeUtf8From (c.utf8Size - 1) rest
      | none => '\uFFFD' :: decodeUtf8From (malformedLength (byte :: rest) - 1) rest

/-- Decode UTF-8, with a replacement character for what is malformed. -/
def decodeUtf8 (bytes : List UInt8) : String := String.ofList (decodeUtf8From 0 bytes)

theorem decodeUtf8From_append (skipped rest : List UInt8) :
    decodeUtf8From skipped.length (skipped ++ rest) = decodeUtf8From 0 rest := by
  induction skipped with
  | nil => rfl
  | cons byte skipped ih => simpa [decodeUtf8From] using ih

theorem decodeUtf8From_encodeChar (c : Char) (rest : List UInt8) :
    decodeUtf8From 0 (String.utf8EncodeChar c ++ rest) = c :: decodeUtf8From 0 rest := by
  have hlength := String.length_utf8EncodeChar c
  have hfour : (String.utf8EncodeChar c).length ≤ 4 := by
    rw [hlength]
    exact c.utf8Size_le_four
  -- the window of four bytes holds the whole character
  have hwindow : ((String.utf8EncodeChar c ++ rest).take 4).toByteArray.utf8DecodeChar? 0 =
      some c := by
    rw [List.take_append, List.take_of_length_le hfour, List.toByteArray_append]
    exact ByteArray.utf8DecodeChar?_utf8EncodeChar_append
  cases hbytes : String.utf8EncodeChar c with
  | nil =>
      have hpositive := c.utf8Size_pos
      simp [hbytes] at hlength
      omega
  | cons byte tail =>
      rw [hbytes, List.cons_append] at hwindow
      have htail : c.utf8Size - 1 = tail.length := by
        simp [hbytes] at hlength
        omega
      rw [List.cons_append, decodeUtf8From, hwindow]
      dsimp only
      rw [htail, decodeUtf8From_append]

@[simp] theorem decodeUtf8_utf8Bytes (text : String) : decodeUtf8 (utf8Bytes text) = text := by
  have hchars : ∀ chars : List Char,
      decodeUtf8From 0 (chars.flatMap String.utf8EncodeChar) = chars := by
    intro chars
    induction chars with
    | nil => rfl
    | cons c rest ih => simp [decodeUtf8From_encodeChar, ih]
  rw [decodeUtf8, utf8Bytes, hchars, String.ofList_toList]

theorem utf8Bytes_append (left right : String) :
    utf8Bytes (left ++ right) = utf8Bytes left ++ utf8Bytes right := by
  simp [utf8Bytes]

/-- A character outside ASCII that breaks off is replaced once. -/
example : decodeUtf8 [97, 0xE2, 0x82, 98] = "a\uFFFDb" := by decide +kernel

/-! ## Percent-encoding -/

/-- An upper-case hexadecimal digit. -/
def upperHex (value : Nat) : Char := "0123456789ABCDEF".toList.getD value '0'

/-- Every byte of a text but those to keep is written by its code. -/
def percentEncode (keep : UInt8 → Bool) (text : String) : String :=
  String.ofList ((utf8Bytes text).flatMap fun byte =>
    if keep byte then [Char.ofNat byte.toNat]
    else ['%', upperHex (byte.toNat / 16), upperHex (byte.toNat % 16)])

/-- The value of a hexadecimal digit of either case. -/
def hexByteValue (byte : UInt8) : Option Nat :=
  if 48 ≤ byte ∧ byte ≤ 57 then some (byte.toNat - 48)
  else if 65 ≤ byte ∧ byte ≤ 70 then some (byte.toNat - 55)
  else if 97 ≤ byte ∧ byte ≤ 102 then some (byte.toNat - 87)
  else none

/-- A percent sign without two digits stands for itself. -/
def percentDecode : List UInt8 → List UInt8
  | byte :: high :: low :: rest =>
      if byte = 37 then
        match hexByteValue high, hexByteValue low with
        | some high, some low => UInt8.ofNat (16 * high + low) :: percentDecode rest
        | _, _ => byte :: percentDecode (high :: low :: rest)
      else byte :: percentDecode (high :: low :: rest)
  | [byte, next] => [byte, next]
  | [byte] => [byte]
  | [] => []

theorem percentDecode_cons {byte : UInt8} (hbyte : byte ≠ 37) (rest : List UInt8) :
    percentDecode (byte :: rest) = byte :: percentDecode rest := by
  match rest with
  | [] => rfl
  | [next] => rfl
  | high :: low :: rest => simp [percentDecode, hbyte]

/-! ## Form parameters -/

/-- A name or a value of a form parameter: a plus sign stands for a space. -/
def formText (bytes : List UInt8) : String :=
  decodeUtf8 (percentDecode (bytes.map fun byte => if byte = 43 then 32 else byte))

/-- The parameters of a text: separated by `&`, and each split at its first
`=`. A question mark in front is not part of the text. -/
def formParameters (text : String) : List (String × String) :=
  let bytes := utf8Bytes text
  let parameters := if bytes.head? = some 63 then bytes.tail else bytes
  ((parameters.splitOn 38).filter (· ≠ [])).map fun parameter =>
    (formText (parameter.takeWhile (· ≠ 61)), formText ((parameter.dropWhile (· ≠ 61)).drop 1))

/-- The bytes to keep are ASCII, and none of them means something in a form. -/
def KeepsFormBytes (keep : UInt8 → Bool) : Prop :=
  ∀ byte, keep byte = true → byte < 128 ∧ byte ∉ ([37, 38, 43, 61, 63] : List UInt8)

theorem upperHex_byte {value : Nat} (hvalue : value < 16) :
    ∃ digit : UInt8, String.utf8EncodeChar (upperHex value) = [digit] ∧
      hexByteValue digit = some value ∧ digit ∉ ([37, 38, 43, 61, 63] : List UInt8) := by
  interval_cases value <;> exact ⟨_, rfl, by decide⟩

/-- What a percent-encoded byte is written as. -/
def encodedByte (keep : UInt8 → Bool) (byte : UInt8) : List UInt8 :=
  (if keep byte then [Char.ofNat byte.toNat]
    else ['%', upperHex (byte.toNat / 16), upperHex (byte.toNat % 16)]).flatMap
      String.utf8EncodeChar

theorem utf8Bytes_percentEncode (keep : UInt8 → Bool) (text : String) :
    utf8Bytes (percentEncode keep text) = (utf8Bytes text).flatMap (encodedByte keep) := by
  rw [utf8Bytes, percentEncode, String.toList_ofList, List.flatMap_assoc]
  rfl

/-- The character of a byte has its code. -/
theorem toNat_ofByte (byte : UInt8) : (Char.ofNat byte.toNat).toNat = byte.toNat := by
  have hbound := byte.toNat_lt
  rw [Char.ofNat, dif_pos (.inl (by omega))]
  rfl

/-- An ASCII byte is the encoding of its character. -/
theorem utf8EncodeChar_ofByte {byte : UInt8} (hascii : byte < 128) :
    String.utf8EncodeChar (Char.ofNat byte.toNat) = [byte] := by
  have hlt : byte.toNat < 128 := by simpa using UInt8.lt_iff_toNat_lt.mp hascii
  have hcode : (Char.ofNat byte.toNat).val.toNat = byte.toNat := toNat_ofByte byte
  have hsize : (Char.ofNat byte.toNat).utf8Size = 1 := by
    rw [Char.utf8Size_eq_one_iff, UInt32.le_iff_toNat_le, hcode]
    exact Nat.le_of_lt_succ hlt
  rw [String.utf8EncodeChar_eq_singleton hsize, List.singleton_inj]
  apply UInt8.toNat_inj.mp
  rw [UInt32.toNat_toUInt8, hcode]
  omega

/-- A list of named texts as it is written into a fragment. -/
def joinParameters (keep : UInt8 → Bool) : List (String × String) → String
  | [] => ""
  | [(name, value)] => percentEncode keep name ++ "=" ++ percentEncode keep value
  | (name, value) :: rest =>
      percentEncode keep name ++ "=" ++ percentEncode keep value ++ "&" ++
        joinParameters keep rest

/-- The bytes of one parameter of the list. -/
def encodedParameter (keep : UInt8 → Bool) (parameter : String × String) : List UInt8 :=
  utf8Bytes (percentEncode keep parameter.1) ++ 61 :: utf8Bytes (percentEncode keep parameter.2)

theorem utf8Bytes_joinParameters (keep : UInt8 → Bool) (parameters : List (String × String)) :
    utf8Bytes (joinParameters keep parameters) =
      List.intercalate [38] (parameters.map (encodedParameter keep)) := by
  have hsign : utf8Bytes "=" = [61] := by decide
  have hseparator : utf8Bytes "&" = [38] := by decide
  have hparameter : ∀ name value,
      utf8Bytes (percentEncode keep name ++ "=" ++ percentEncode keep value) =
        encodedParameter keep (name, value) := by
    intro name value
    simp [utf8Bytes_append, hsign, encodedParameter]
  induction parameters with
  | nil => rfl
  | cons parameter rest ih =>
      cases rest with
      | nil => simp [joinParameters, hparameter]
      | cons next rest =>
          rw [joinParameters, utf8Bytes_append, utf8Bytes_append, hparameter, hseparator, ih,
            List.map_cons, List.map_cons, List.map_cons, List.intercalate_cons_cons]
          simp

section Encoded

variable {keep : UInt8 → Bool} (hkeep : KeepsFormBytes keep)

include hkeep

theorem encodedByte_kept {byte : UInt8} (hbyte : keep byte = true) :
    encodedByte keep byte = [byte] := by
  rw [encodedByte, if_pos hbyte, List.flatMap_singleton]
  exact utf8EncodeChar_ofByte (hkeep byte hbyte).1

omit hkeep in
theorem encodedByte_coded {byte : UInt8} (hbyte : keep byte ≠ true) :
    ∃ high low : UInt8, encodedByte keep byte = [37, high, low] ∧
      hexByteValue high = some (byte.toNat / 16) ∧ hexByteValue low = some (byte.toNat % 16) ∧
      high ∉ ([37, 38, 43, 61, 63] : List UInt8) ∧ low ∉ ([37, 38, 43, 61, 63] : List UInt8) := by
  have hlt := byte.toNat_lt
  obtain ⟨high, hhigh, hhighValue, hhighPlain⟩ :=
    upperHex_byte (show byte.toNat / 16 < 16 by omega)
  obtain ⟨low, hlow, hlowValue, hlowPlain⟩ := upperHex_byte (show byte.toNat % 16 < 16 by omega)
  have hsign : String.utf8EncodeChar '%' = [37] := by decide
  refine ⟨high, low, ?_, hhighValue, hlowValue, hhighPlain, hlowPlain⟩
  rw [encodedByte, if_neg hbyte]
  simp [hsign, hhigh, hlow]

/-- An encoded byte has none of the bytes that separate parameters. -/
theorem encodedByte_plain (byte : UInt8) :
    ∀ written ∈ encodedByte keep byte, written ∉ ([38, 43, 61, 63] : List UInt8) := by
  by_cases hbyte : keep byte = true
  · have hplain := (hkeep byte hbyte).2
    rw [encodedByte_kept hkeep hbyte]
    simp at hplain ⊢
    tauto
  · obtain ⟨high, low, hwritten, _, _, hhigh, hlow⟩ := encodedByte_coded hbyte
    rw [hwritten]
    simp at hhigh hlow ⊢
    tauto

theorem percentDecode_encodedByte (byte : UInt8) (rest : List UInt8) :
    percentDecode (encodedByte keep byte ++ rest) = byte :: percentDecode rest := by
  by_cases hbyte : keep byte = true
  · have hplain := (hkeep byte hbyte).2
    rw [encodedByte_kept hkeep hbyte]
    apply percentDecode_cons
    simp at hplain
    exact hplain.1
  · obtain ⟨high, low, hwritten, hhigh, hlow, _⟩ := encodedByte_coded hbyte
    rw [hwritten]
    simp [percentDecode, hhigh, hlow, show 16 * (byte.toNat / 16) + byte.toNat % 16 = byte.toNat by
      omega]

theorem percentDecode_encoded (bytes : List UInt8) :
    percentDecode (bytes.flatMap (encodedByte keep)) = bytes := by
  induction bytes with
  | nil => simp [percentDecode]
  | cons byte rest ih => simp [percentDecode_encodedByte hkeep, ih]

theorem percentEncode_plain (text : String) :
    ∀ written ∈ utf8Bytes (percentEncode keep text), written ∉ ([38, 43, 61, 63] : List UInt8) := by
  intro written hwritten
  rw [utf8Bytes_percentEncode, List.mem_flatMap] at hwritten
  obtain ⟨byte, _, hmem⟩ := hwritten
  exact encodedByte_plain hkeep byte written hmem

/-- What was percent-encoded is read back unchanged. -/
theorem formText_percentEncode (text : String) :
    formText (utf8Bytes (percentEncode keep text)) = text := by
  -- the encoded text has no plus sign to turn into a space
  have hplus : (utf8Bytes (percentEncode keep text)).map
      (fun byte => if byte = 43 then 32 else byte) = utf8Bytes (percentEncode keep text) := by
    refine (List.map_congr_left fun written hmem => ?_).trans (List.map_id _)
    have hplain := percentEncode_plain hkeep text written hmem
    simp at hplain
    simp [hplain]
  rw [formText, hplus, utf8Bytes_percentEncode, percentDecode_encoded hkeep, decodeUtf8_utf8Bytes]

/-- An encoded parameter has neither a separator nor a question mark, and is split
at the sign between its name and its value. -/
theorem encodedParameter_plain (parameter : String × String) :
    ∀ byte ∈ encodedParameter keep parameter, byte ∉ ([38, 43, 63] : List UInt8) := by
  have hsubset : ([38, 43, 63] : List UInt8) ⊆ [38, 43, 61, 63] := by decide
  intro byte hmem hseparator
  have hplain := fun text hbyte =>
    percentEncode_plain hkeep text byte hbyte (hsubset hseparator)
  rcases List.mem_append.mp hmem with hname | hvalue
  · exact hplain _ hname
  · rcases List.mem_cons.mp hvalue with hsign | hvalue
    · rw [hsign] at hseparator
      exact absurd hseparator (by decide)
    · exact hplain _ hvalue

theorem read_encodedParameter (name value : String) :
    (formText ((encodedParameter keep (name, value)).takeWhile (· ≠ 61)),
      formText (((encodedParameter keep (name, value)).dropWhile (· ≠ 61)).drop 1)) =
        (name, value) := by
  have hname : ∀ byte ∈ utf8Bytes (percentEncode keep name), decide (byte ≠ 61) = true := by
    intro byte hmem
    have hplain := percentEncode_plain hkeep name byte hmem
    simp at hplain
    simp [hplain]
  have hfirst : (encodedParameter keep (name, value)).takeWhile (· ≠ 61) =
      utf8Bytes (percentEncode keep name) := by
    simp only [encodedParameter, List.takeWhile_append_of_pos hname]
    simp
  have hrest : ((encodedParameter keep (name, value)).dropWhile (· ≠ 61)).drop 1 =
      utf8Bytes (percentEncode keep value) := by
    simp only [encodedParameter, List.dropWhile_append_of_pos hname]
    simp
  rw [hfirst, hrest, formText_percentEncode hkeep, formText_percentEncode hkeep]

/-- A list of encoded parameters is split back into the same list. -/
theorem formParameters_joinParameters (parameters : List (String × String)) :
    formParameters (joinParameters keep parameters) = parameters := by
  have hplain : ∀ piece ∈ parameters.map (encodedParameter keep),
      ∀ byte ∈ piece, byte ∉ ([38, 43, 63] : List UInt8) := by
    intro piece hpiece
    obtain ⟨parameter, _, rfl⟩ := List.mem_map.mp hpiece
    exact encodedParameter_plain hkeep parameter
  cases hcases : parameters with
  | nil => rfl
  | cons first others =>
      rw [← hcases, formParameters, utf8Bytes_joinParameters]
      have hnonempty : parameters.map (encodedParameter keep) ≠ [] := by simp [hcases]
      have hhead : (List.intercalate [38] (parameters.map (encodedParameter keep))).head? ≠
          some 63 := by
        obtain ⟨byte, tail, hfirst⟩ : ∃ byte tail, encodedParameter keep first = byte :: tail :=
          List.exists_cons_of_ne_nil (by simp [encodedParameter])
        have hbyte := hplain (encodedParameter keep first) (by simp [hcases]) byte (by simp [hfirst])
        rw [hcases, List.map_cons, hfirst, List.intercalate_cons_cons_left, List.head?_cons]
        simp at hbyte
        simpa using hbyte.2.2
      have hsplit := List.splitOn_intercalate 38
        (fun piece hpiece hmem => hplain piece hpiece 38 hmem (by simp)) hnonempty
      have hkept : (parameters.map (encodedParameter keep)).filter (· ≠ []) =
          parameters.map (encodedParameter keep) := by
        rw [List.filter_eq_self]
        intro piece hpiece
        obtain ⟨parameter, _, rfl⟩ := List.mem_map.mp hpiece
        simp [encodedParameter]
      rw [if_neg hhead, hsplit, hkept, List.map_map]
      refine (List.map_congr_left fun parameter _ => ?_).trans (List.map_id _)
      exact read_encodedParameter hkeep parameter.1 parameter.2

/-- One encoded parameter is read back as the only one. -/
theorem formParameters_percentEncode (name value : String) :
    formParameters (percentEncode keep name ++ "=" ++ percentEncode keep value) =
      [(name, value)] :=
  formParameters_joinParameters hkeep [(name, value)]

end Encoded

end Foundation
