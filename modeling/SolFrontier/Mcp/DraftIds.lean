import SolFrontier.Mcp.Sidecar

/-! # Spellings of a draft id

The sidecar normalizes a draft id before it binds it. The normal form is the
simple text of the UUID, so all spellings that pass and parse to one UUID
address one tombstone.
-/

namespace SolFrontier.Mcp.Sidecar

open Foundation StateStore

/-- The bytes `validate_lower_hex` allows. -/
def isLowerHex (byte : UInt8) : Bool := (48 ≤ byte ∧ byte ≤ 57) ∨ (97 ≤ byte ∧ byte ≤ 102)

theorem hexNibble_isLowerHex {byte : UInt8} (hbyte : isLowerHex byte = true) :
    ∃ value, value < 16 ∧ hexNibble byte = .ok (UInt8.ofNat value) ∧ hexDigitByte value = byte := by
  have hall : ∀ code : Fin 256, isLowerHex (UInt8.ofNat code) = true →
      ∃ value < 16, hexDigitByte value = UInt8.ofNat code := by
    decide +kernel
  obtain ⟨value, hvalue, hdigit⟩ := hall ⟨byte.toNat, byte.toNat_lt⟩ (by simpa using hbyte)
  rw [UInt8.ofNat_toNat] at hdigit
  exact ⟨value, hvalue, hdigit ▸ hexNibble_hexDigitByte hvalue, hdigit⟩

/-- Lower-case hexadecimal bytes are the text of the bytes they read as. -/
theorem hexPairs_isLowerHex {bytes : List UInt8} (heven : bytes.length % 2 = 0)
    (hbytes : ∀ byte ∈ bytes, isLowerHex byte = true) :
    ∃ value, hexPairs bytes = .ok value ∧ utf8Bytes (hexEncode value) = bytes := by
  induction bytes using hexPairs.induct with
  | case1 high low rest ih =>
      obtain ⟨hi, hhi, hhigh, hhighByte⟩ := hexNibble_isLowerHex (hbytes high (by simp))
      obtain ⟨lo, hlo, hlow, hlowByte⟩ := hexNibble_isLowerHex (hbytes low (by simp))
      obtain ⟨value, hrest, htext⟩ := ih (by simp at heven; omega)
        fun byte hmem => hbytes byte (by simp [hmem])
      refine ⟨(UInt8.ofNat hi * 16 + UInt8.ofNat lo) :: value, ?_, ?_⟩
      · rw [hexPairs, hhigh, hlow, hrest]
        rfl
      · have hnat := toNat_hexPair hhi hlo
        rw [utf8Bytes_hexEncode] at htext ⊢
        rw [List.flatMap_cons, hnat, htext, show (hi * 16 + lo) / 16 = hi by omega,
          show (hi * 16 + lo) % 16 = lo by omega, hhighByte, hlowByte]
        rfl
  | case2 bytes hshort =>
      have hnil : bytes = [] := by
        cases bytes with
        | nil => rfl
        | cons first rest =>
            cases rest with
            | nil => simp at heven
            | cons second rest => exact absurd rfl (hshort first second rest)
      subst hnil
      exact ⟨[], rfl, rfl⟩


end SolFrontier.Mcp.Sidecar
