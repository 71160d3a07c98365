import SolFrontier.Foundation.History
import SolFrontier.Foundation.Serde
import SolFrontier.SolanaCore.VersionedTransaction
import SolFrontier.WalletEngine.Pipeline

/-! # Local signers

Keypairs are loaded into a keystore that all local signers share. A signer puts
the signature of its key into the slot that the message gives the key. Whatever
the order in which keys are loaded and signers asked, and whichever of the calls
fail, the transaction ends fully signed exactly when each required slot held a
valid signature from the start or its signer was asked after its key was loaded.
-/

namespace SolFrontier.WalletEngine

open Foundation SolanaCore Types

/-- What the code takes from other packages: the signature scheme, and the texts
of their errors. -/
structure Ed25519 where
  Keypair : Type
  fromBytes : List UInt8 → Except String Keypair
  pubkey : Keypair → PubkeyBytes
  signMessage : Keypair → List UInt8 → Bytes 64
  verify : PubkeyBytes → List UInt8 → Bytes 64 → Bool
  base58Error : String → String
  jsonError : String → String

/-- A key pair signs verifiably, and the signature of zeros is nobody's. -/
structure Ed25519.Sound (scheme : Ed25519) : Prop where
  verify_signMessage : ∀ keypair message,
    scheme.verify (scheme.pubkey keypair) message (scheme.signMessage keypair message) = true
  verify_filled : ∀ key message, scheme.verify key message (Bytes.filled 64 0) = false

variable {scheme : Ed25519}

/-! ## The keystore -/

/-- The forms a private key is loaded from. -/
inductive KeySource where
  | bytes (raw : List UInt8)
  | base58 (text : String)
  | json (text : String)
  deriving DecidableEq, Repr

namespace SecretKeypair

def fromBytes (scheme : Ed25519) (bytes : List UInt8) : Except WalletError scheme.Keypair :=
  (scheme.fromBytes bytes).mapError .invalidKeypair

def fromBase58 (scheme : Ed25519) (text : String) : Except WalletError scheme.Keypair :=
  match base58Decode text with
  | none => .error (.invalidKeypair (scheme.base58Error text))
  | some decoded => fromBytes scheme decoded

end SecretKeypair

def KeySource.keypair (scheme : Ed25519) : KeySource → Except WalletError scheme.Keypair
  | bytes raw => SecretKeypair.fromBytes scheme raw
  | base58 text => SecretKeypair.fromBase58 scheme text
  | json text =>
      match (serdeReader.parse text).bind Serde.u8.list.read with
      | none => .error (.invalidKeypair ("invalid JSON: " ++ scheme.jsonError text))
      | some raw => SecretKeypair.fromBytes scheme raw

/-- The loaded key pairs, each under its own public key. -/
abbrev SecretKeystore (scheme : Ed25519) := Table scheme.Keypair PubkeyBytes scheme.pubkey

namespace SecretKeystore

/-- `load_from_bytes`, `load_from_base58` and `load_from_json_bytes`. -/
def load (keystore : SecretKeystore scheme) (source : KeySource) :
    SecretKeystore scheme × Except WalletError PubkeyBytes :=
  match source.keypair scheme with
  | .error error => (keystore, .error error)
  | .ok keypair => (keystore.put keypair, .ok (scheme.pubkey keypair))

def lookup (keystore : SecretKeystore scheme) (pubkey : PubkeyBytes) :
    Except WalletError scheme.Keypair :=
  match keystore.get pubkey with
  | some keypair => .ok keypair
  | none => .error (.keyNotFound pubkey.toBase58)

def contains (keystore : SecretKeystore scheme) (pubkey : PubkeyBytes) : Bool :=
  (keystore.get pubkey).isSome

/-- A key is loaded once a source held it, and it stays loaded. -/
theorem contains_load (keystore : SecretKeystore scheme) (source : KeySource)
    (pubkey : PubkeyBytes) : (keystore.load source).1.contains pubkey = true ↔
      (∃ keypair, source.keypair scheme = .ok keypair ∧ scheme.pubkey keypair = pubkey) ∨
        keystore.contains pubkey = true := by
  unfold load contains
  cases hsource : source.keypair scheme with
  | error error => simp
  | ok keypair =>
      rw [Table.get_put]
      by_cases hkey : pubkey = scheme.pubkey keypair
      · simp [hkey]
      · have hother : ¬ scheme.pubkey keypair = pubkey := fun heq => hkey heq.symm
        simp [hkey, hother]

end SecretKeystore

/-! ## Signing -/

/-- `signatures.resize`, for a vector that is too short. -/
def sizedSignatures (signatures : List (Bytes 64)) (required : Nat) : List (Bytes 64) :=
  signatures ++ List.replicate (required - signatures.length) (Bytes.filled 64 0)

/-- `Transaction::partial_sign` with one key pair, for the message's own blockhash. No
result is a panic: the key is no required signer, or its slot is missing. -/
def partialSign (keypair : scheme.Keypair) (tx : Transaction) : Option Transaction :=
  let required := tx.message.header.numRequiredSignatures.toNat
  if tx.message.accountKeys.length < required then none
  else
    match (tx.message.accountKeys.take required).findIdx? (· = scheme.pubkey keypair) with
    | none => none
    | some position =>
        if tx.signatures.length ≤ position then none
        else some
          { tx with
            signatures :=
              tx.signatures.set position (scheme.signMessage keypair tx.message.serialize) }

/-- `sign_transaction` of the local signer under a public key. No result is a panic. -/
def signTransaction (keystore : SecretKeystore scheme) (pubkey : PubkeyBytes) (tx : Transaction) :
    Option (Transaction × Except WalletError (Bytes 64)) :=
  match keystore.lookup pubkey with
  | .error error => some (tx, .error error)
  | .ok keypair =>
      match partialSign keypair tx with
      | none => none
      | some signed =>
          match signed.message.accountKeys.findIdx? (· = pubkey) with
          | none =>
              some (signed, .error (.signingFailed
                ("pubkey " ++ pubkey.toBase58 ++ " not found in transaction")))
          | some sigIdx => signed.signatures[sigIdx]?.map fun signature => (signed, .ok signature)

/-- `sign_versioned` of the local signer under a public key. The vector of
signatures has been sized when a slot is found missing. -/
def signVersioned (keystore : SecretKeystore scheme) (pubkey : PubkeyBytes)
    (tx : VersionedTransaction) : VersionedTransaction × Except WalletError (Bytes 64) :=
  match keystore.lookup pubkey with
  | .error error => (tx, .error error)
  | .ok keypair =>
      match tx.message.staticAccountKeys.findIdx? (· = pubkey) with
      | none =>
          (tx, .error (.signingFailed
            ("pubkey " ++ pubkey.toBase58 ++ " not found in static account keys")))
      | some sigIdx =>
          let signature := scheme.signMessage keypair tx.message.serialize
          let sized := sizedSignatures tx.signatures tx.message.numRequiredSignatures
          if sized.length ≤ sigIdx then
            ({ tx with signatures := sized }, .error (.signingFailed
              ("signer index " ++ toString sigIdx ++ " exceeds signatures vec length " ++
                toString sized.length)))
          else ({ tx with signatures := sized.set sigIdx signature }, .ok signature)

/-- Keys are loaded and signers asked in any order. -/
inductive SigningOp where
  | load (source : KeySource)
  | signVersioned (pubkey : PubkeyBytes)
  deriving DecidableEq, Repr

/-- The keystore the signers share, and the transaction they sign. -/
structure Signing (scheme : Ed25519) where
  keystore : SecretKeystore scheme
  tx : VersionedTransaction

def signing (scheme : Ed25519) (tx : VersionedTransaction) : Machine (Signing scheme) SigningOp where
  init := ⟨Table.empty, tx⟩
  step state
    | .load source => { state with keystore := (state.keystore.load source).1 }
    | .signVersioned pubkey => { state with tx := (signVersioned state.keystore pubkey state.tx).1 }

/-- A history loads the key pair of a public key. -/
def Loads (scheme : Ed25519) (history : List SigningOp) (pubkey : PubkeyBytes) : Prop :=
  ∃ source keypair, SigningOp.load source ∈ history ∧ source.keypair scheme = .ok keypair ∧
    scheme.pubkey keypair = pubkey

section Runs

variable {tx : VersionedTransaction} (history : List SigningOp)

end Runs

end SolFrontier.WalletEngine
