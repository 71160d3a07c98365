import SolFrontier.Foundation.Bytes
import SolFrontier.Foundation.Codec

/-! # Public keys

The 32-byte account keys every schema shares, with their base58 text form and
their layout as raw bytes.
-/

namespace SolFrontier.Types

open Foundation

structure PubkeyBytes where
  bytes : Bytes 32
  deriving DecidableEq, Repr

inductive PubkeyParseError where
  | invalidBase58
  | wrongLength (length : Nat)
  deriving DecidableEq, Repr

namespace PubkeyBytes

theorem ext_bytes {left right : PubkeyBytes} (hbytes : left.bytes.1 = right.bytes.1) :
    left = right := by
  cases left
  cases right
  exact congrArg PubkeyBytes.mk (Subtype.ext hbytes)

/-- Parse a base58 text of exactly 32 bytes. -/
def fromBase58 (s : String) : Except PubkeyParseError PubkeyBytes :=
  match base58Decode s with
  | none => .error .invalidBase58
  | some v =>
      if h : v.length = 32 then .ok ⟨v, h⟩
      else .error (.wrongLength v.length)

def toBase58 (key : PubkeyBytes) : String := base58Encode key.bytes.1

@[simp] theorem fromBase58_toBase58 (key : PubkeyBytes) : fromBase58 key.toBase58 = .ok key := by
  simp [fromBase58, toBase58, key.bytes.2]

theorem toBase58_inj {left right : PubkeyBytes} (heq : left.toBase58 = right.toBase58) :
    left = right := by
  have hleft := fromBase58_toBase58 left
  rw [heq, fromBase58_toBase58, Except.ok.injEq] at hleft
  exact hleft.symm

theorem toBase58_of_fromBase58 {text : String} {key : PubkeyBytes}
    (hread : fromBase58 text = .ok key) : key.toBase58 = text := by
  unfold fromBase58 at hread
  split at hread
  next => cases hread
  next bytes hdecode =>
    split at hread
    next hlength =>
      obtain rfl := Except.ok.inj hread
      exact base58Encode_of_base58Decode hdecode
    next => cases hread

def codec : Codec PubkeyBytes :=
  (Codec.bytes 32).imap PubkeyBytes.mk PubkeyBytes.bytes (fun _ _ => rfl) (fun _ => rfl)

theorem codec_total : codec.Total := (Codec.total_bytes 32).imap _ _

end PubkeyBytes

/-- A reviewed protocol identity: a text known to parse as a key. -/
def pinnedPubkey (value : String)
    (hvalid : (PubkeyBytes.fromBase58 value).toOption.isSome = true) : PubkeyBytes :=
  (PubkeyBytes.fromBase58 value).toOption.get hvalid

/-- Several modules pin the token program. -/
theorem tokenProgram_valid :
    (PubkeyBytes.fromBase58 "TokenkegQfeZyiNwAJbNbGKPFXCWuBvf9Ss623VQ5DA").toOption.isSome =
      true := by
  decide +kernel

theorem fromBase58_pinned {value : String}
    (hvalid : (PubkeyBytes.fromBase58 value).toOption.isSome = true) :
    PubkeyBytes.fromBase58 value = .ok (pinnedPubkey value hvalid) := by
  obtain ⟨key, hkey⟩ := Option.isSome_iff_exists.mp hvalid
  rw [show pinnedPubkey value hvalid = key from Option.get_of_eq_some hvalid hkey]
  cases hread : PubkeyBytes.fromBase58 value with
  | ok parsed =>
      rw [hread] at hkey
      exact congrArg Except.ok (Option.some.inj hkey)
  | error error =>
      rw [hread] at hkey
      cases hkey

@[simp] theorem toBase58_pinned {value : String}
    (hvalid : (PubkeyBytes.fromBase58 value).toOption.isSome = true) :
    (pinnedPubkey value hvalid).toBase58 = value :=
  PubkeyBytes.toBase58_of_fromBase58 (fromBase58_pinned hvalid)

end SolFrontier.Types
