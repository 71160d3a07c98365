import SolFrontier.SolanaCore.VersionedMessage

/-! # Versioned transactions

A versioned message is a legacy message or a version 0 message. The bytes that
its signatures are over start with the version, so no signature of one kind of
message is a signature of the other.
-/

namespace SolFrontier.SolanaCore

open Foundation Types

namespace MessageAddressTableLookup

def codec : Codec MessageAddressTableLookup :=
  (PubkeyBytes.codec.seq <| Codec.byte.vec.seq Codec.byte.vec).imap
    (fun (key, writable, readonly) => ⟨key, writable, readonly⟩)
    (fun lookup => (lookup.accountKey, lookup.writableIndexes, lookup.readonlyIndexes))
    (fun _ _ => rfl) (fun _ => rfl)

theorem codec_total : codec.Total := by
  apply Codec.Total.imap
  apply PubkeyBytes.codec_total.seq
  exact Codec.total_byte.vec.seq Codec.total_byte.vec

end MessageAddressTableLookup

namespace MessageV0

/-- The parts of a legacy message, and the lookups behind them. -/
def codec : Codec MessageV0 :=
  (Message.codec.seq MessageAddressTableLookup.codec.vec).imap
    (fun (message, lookups) =>
      ⟨message.header, message.accountKeys, message.recentBlockhash, message.instructions, lookups⟩)
    (fun m => (⟨m.header, m.accountKeys, m.recentBlockhash, m.instructions⟩,
      m.addressTableLookups))
    (fun _ _ => rfl) (fun _ => rfl)

theorem codec_valid (message : MessageV0) : codec.valid message := by
  have htotal : codec.Total := by
    apply Codec.Total.imap
    exact Codec.Total.seq Message.codec_valid MessageAddressTableLookup.codec_total.vec
  exact htotal message

end MessageV0

inductive VersionedMessage where
  | legacy (message : Message)
  | v0 (message : MessageV0)
  deriving DecidableEq, Repr

namespace VersionedMessage

def header : VersionedMessage → MessageHeader
  | legacy message => message.header
  | v0 message => message.header

/-- The keys that the message itself names; no lookup loads a signer. -/
def staticAccountKeys : VersionedMessage → List PubkeyBytes
  | legacy message => message.accountKeys
  | v0 message => message.accountKeys

def numRequiredSignatures (message : VersionedMessage) : Nat :=
  message.header.numRequiredSignatures.toNat

/-- The high bit of the first byte tells a version from the header of a legacy message. -/
def serialize : VersionedMessage → List UInt8
  | legacy message => message.serialize
  | v0 message => 0x80 :: MessageV0.codec.encode message

/-- The legacy messages that can be told from a version: a legacy header asks for
fewer than 128 signatures. -/
def Unambiguous : VersionedMessage → Prop
  | legacy message => message.header.numRequiredSignatures < 128
  | v0 _ => True

theorem legacy_ne_v0 {message : Message} (hfew : message.header.numRequiredSignatures < 128)
    (versioned : MessageV0) : (legacy message).serialize ≠ (v0 versioned).serialize := by
  intro heq
  obtain ⟨rest, hrest⟩ : ∃ rest, message.serialize = message.header.numRequiredSignatures :: rest :=
    ⟨_, rfl⟩
  rw [serialize, serialize, hrest] at heq
  rw [(List.cons.inj heq).1] at hfew
  exact absurd hfew (by decide)

/-- The bytes that are signed determine the message and its version. -/
theorem serialize_inj {left right : VersionedMessage} (hleft : left.Unambiguous)
    (hright : right.Unambiguous) (heq : left.serialize = right.serialize) : left = right := by
  cases left with
  | legacy first =>
      cases right with
      | legacy second => rw [Message.serialize_inj heq]
      | v0 second => exact absurd heq (legacy_ne_v0 hleft second)
  | v0 first =>
      cases right with
      | legacy second => exact absurd heq.symm (legacy_ne_v0 hright first)
      | v0 second =>
          have hbody := (List.cons.inj heq).2
          rw [MessageV0.codec.encode_inj (MessageV0.codec_valid first)
            (MessageV0.codec_valid second) hbody]

end VersionedMessage

structure VersionedTransaction where
  signatures : List (Bytes 64)
  message : VersionedMessage
  deriving DecidableEq, Repr

end SolFrontier.SolanaCore
