import SolFrontier.Web.PayloadHandoff

/-! # The encoding of the fragment

The server writes a text as unreserved characters and upper-case escapes. A
reader that refuses a malformed escape, and one that lets it stand, both get the
text back, and no value can forge a separator.
-/

namespace SolFrontier.Web

open Foundation Mcp

/-! ## Shape -/

def isUnreservedChar (c : Char) : Bool :=
  c.isAlphanum || c = '-' || c = '_' || c = '.' || c = '~'

def isUpperHexChar (c : Char) : Bool := "0123456789ABCDEF".toList.contains c

/-- Unreserved characters, and escapes of two upper-case digits. -/
inductive FragmentText : List Char → Prop
  | nil : FragmentText []
  | unreserved {c : Char} {rest : List Char} : isUnreservedChar c = true → FragmentText rest →
      FragmentText (c :: rest)
  | escape {high low : Char} {rest : List Char} : isUpperHexChar high = true →
      isUpperHexChar low = true → FragmentText rest → FragmentText ('%' :: high :: low :: rest)

theorem isUpperHexChar_upperHex {value : Nat} (hvalue : value < 16) :
    isUpperHexChar (upperHex value) = true := by
  interval_cases value <;> rfl

theorem isUnreservedChar_ofByte {byte : UInt8} (hbyte : isUnreserved byte = true) :
    isUnreservedChar (Char.ofNat byte.toNat) = true := by
  have hall : ∀ code : Fin 256, isUnreserved (UInt8.ofNat code) = true →
      isUnreservedChar (Char.ofNat code) = true := by
    decide +kernel
  exact hall ⟨byte.toNat, byte.toNat_lt⟩ (by simpa using hbyte)

theorem fragmentText_encode (bytes : List UInt8) :
    FragmentText (bytes.flatMap fun byte =>
      if isUnreserved byte then [Char.ofNat byte.toNat]
      else ['%', upperHex (byte.toNat / 16), upperHex (byte.toNat % 16)]) := by
  induction bytes with
  | nil => exact .nil
  | cons byte rest ih =>
      have hlt := byte.toNat_lt
      rw [List.flatMap_cons]
      split
      next hkept => exact .unreserved (isUnreservedChar_ofByte hkept) ih
      next =>
        exact .escape (isUpperHexChar_upperHex (by omega)) (isUpperHexChar_upperHex (by omega)) ih

/-! ## Reading -/

/-- Percent-decoding that refuses a sign without two digits. -/
def decodeEscapes : List UInt8 → Option (List UInt8)
  | [] => some []
  | byte :: rest =>
      if byte = 37 then
        match rest with
        | high :: low :: rest => do
            let high ← hexByteValue high
            let low ← hexByteValue low
            let bytes ← decodeEscapes rest
            some (UInt8.ofNat (16 * high + low) :: bytes)
        | _ => none
      else (decodeEscapes rest).map (byte :: ·)

theorem decodeEscapes_encoded (bytes : List UInt8) :
    decodeEscapes (bytes.flatMap (encodedByte isUnreserved)) = some bytes := by
  induction bytes with
  | nil => simp [decodeEscapes]
  | cons byte rest ih =>
      rw [List.flatMap_cons]
      by_cases hbyte : isUnreserved byte = true
      · have hplain := (keepsFormBytes_isUnreserved byte hbyte).2
        rw [encodedByte_kept keepsFormBytes_isUnreserved hbyte]
        have hsign : byte ≠ 37 := fun heq => hplain (by simp [heq])
        rw [List.singleton_append, decodeEscapes.eq_def]
        dsimp only
        rw [if_neg hsign, ih, Option.map_some]
      · obtain ⟨high, low, hwritten, hhigh, hlow, _⟩ := encodedByte_coded hbyte
        have hwhole : 16 * (byte.toNat / 16) + byte.toNat % 16 = byte.toNat := by omega
        rw [hwritten, decodeEscapes.eq_def]
        simp only [List.cons_append, List.nil_append, if_true, hhigh, hlow, ih,
          Option.bind_eq_bind, Option.bind_some, hwhole, UInt8.ofNat_toNat]

/-- Decoding UTF-8 that refuses malformed bytes. -/
theorem fromUTF8_utf8Bytes (text : String) :
    String.fromUTF8? (utf8Bytes text).toByteArray = some text := by
  have hbytes : (utf8Bytes text).toByteArray = text.toByteArray := by
    rw [← String.ofList_toList (s := text), String.toByteArray_ofList]
    simp [utf8Bytes, List.utf8Encode]
  rw [String.fromUTF8?, dif_pos (hbytes ▸ text.isValidUTF8), Option.some.injEq,
    ← String.toByteArray_inj]
  exact hbytes

/-! ## The URL -/

/-- The parameters of the fragment: what follows the first number sign. -/
def fragmentParameters (url : String) : List (String × String) :=
  formParameters (String.ofList (url.toList.dropWhile (· ≠ '#')).tail)

theorem fragmentParameters_url (status intentId ruleHash : String) (funding : Json) :
    fragmentParameters (buildSigningPageUrl status intentId ruleHash funding) =
      [("payload", (handedPayload status intentId ruleHash funding).render)] := by
  -- The first number sign is the one before the fragment: the base has none.
  have hbase : signingPageBaseUrl.toList.all (· ≠ '#') = true := by decide
  have hname : "payload=" = percentEncode isUnreserved "payload" ++ "=" := by decide
  have hsign : "#".toList = ['#'] := rfl
  rw [fragmentParameters, buildSigningPageUrl_eq, hname, String.toList_append,
    String.toList_append, List.append_assoc, hsign,
    List.dropWhile_append_of_pos (by simpa using hbase)]
  have hfragment : ∀ chars : List Char, ((['#'] ++ chars).dropWhile (· ≠ '#')).tail = chars :=
    fun _ => rfl
  rw [hfragment, String.ofList_toList]
  exact formParameters_percentEncode keepsFormBytes_isUnreserved _ _

/-- For every text: the encoding has the documented shape, decoders get the text
back, encoded parameters are split into the same list, and so is the URL. -/
theorem fragment_round_trips (value : String) :
    FragmentText (percentEncodeFragmentComponent value).toList ∧
      (decodeEscapes (utf8Bytes (percentEncodeFragmentComponent value))).bind
        (fun bytes => String.fromUTF8? bytes.toByteArray) = some value ∧
      decodeUtf8 (percentDecode (utf8Bytes (percentEncodeFragmentComponent value))) = value ∧
      (∀ parameters : List (String × String),
        formParameters (joinParameters isUnreserved parameters) = parameters) ∧
      ∀ (status intentId ruleHash : String) (funding : Json),
        fragmentParameters (buildSigningPageUrl status intentId ruleHash funding) =
          [("payload", (handedPayload status intentId ruleHash funding).render)] := by
  rw [percentEncodeFragmentComponent_eq]
  refine ⟨?_, ?_, ?_, formParameters_joinParameters keepsFormBytes_isUnreserved,
    fragmentParameters_url⟩
  · rw [percentEncode, String.toList_ofList]
    exact fragmentText_encode (utf8Bytes value)
  · rw [utf8Bytes_percentEncode, decodeEscapes_encoded, Option.bind_some, fromUTF8_utf8Bytes]
  · rw [utf8Bytes_percentEncode, percentDecode_encoded keepsFormBytes_isUnreserved,
      decodeUtf8_utf8Bytes]

end SolFrontier.Web
