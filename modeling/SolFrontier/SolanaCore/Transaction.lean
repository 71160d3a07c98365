import Mathlib.Data.List.Sort
import SolFrontier.Types.Pubkey

/-! # Transactions

The data model of a legacy transaction, and what the code takes from the
Solana SDK: compiling instructions into a message, the effective flags of a
message's accounts, and the wire format. `standardSdk` follows the published
compilation rules; the theorems hold for every SDK.
-/

namespace SolFrontier.SolanaCore

open Foundation Types

structure AccountMeta where
  pubkey : PubkeyBytes
  isSigner : Bool
  isWritable : Bool
  deriving DecidableEq, Repr

structure Instruction where
  programId : PubkeyBytes
  accounts : List AccountMeta
  data : List UInt8
  deriving DecidableEq, Repr

/-- An instruction by positions in its message's account keys. -/
structure CompiledInstruction where
  programIdIndex : UInt8
  accounts : List UInt8
  data : List UInt8
  deriving DecidableEq, Repr

structure MessageHeader where
  numRequiredSignatures : UInt8
  numReadonlySignedAccounts : UInt8
  numReadonlyUnsignedAccounts : UInt8
  deriving DecidableEq, Repr

abbrev Hash := Bytes 32

structure Message where
  header : MessageHeader
  accountKeys : List PubkeyBytes
  recentBlockhash : Hash
  instructions : List CompiledInstruction
  deriving DecidableEq, Repr

structure Transaction where
  signatures : List (Bytes 64)
  message : Message
  deriving DecidableEq, Repr

/-- `tx.message.recent_blockhash = hash`. -/
def Transaction.withBlockhash (tx : Transaction) (hash : Hash) : Transaction :=
  { tx with message := { tx.message with recentBlockhash := hash } }

@[simp] theorem Transaction.withBlockhash_recentBlockhash (tx : Transaction) (hash : Hash) :
    (tx.withBlockhash hash).message.recentBlockhash = hash := rfl

theorem Transaction.withBlockhash_self {tx : Transaction} {hash : Hash}
    (hhash : tx.message.recentBlockhash = hash) : tx.withBlockhash hash = tx := by
  subst hhash
  rfl

/-- What the code uses of the SDK. Compiling panics when the header counts
overflow, and the wire format can be read back. -/
structure Sdk where
  newMessage : List Instruction → Option PubkeyBytes → Option Message
  isSigner : Message → Nat → Bool
  isMaybeWritable : Message → Nat → Bool
  serialize : Transaction → List UInt8
  serialize_inj : ∀ {left right}, serialize left = serialize right → left = right

/-! ## Wire format -/

namespace CompiledInstruction

def codec : Codec CompiledInstruction :=
  (Codec.byte.seq <| Codec.byte.vec.seq Codec.byte.vec).imap
    (fun (program, accounts, data) => ⟨program, accounts, data⟩)
    (fun i => (i.programIdIndex, i.accounts, i.data)) (fun _ _ => rfl) (fun _ => rfl)

theorem codec_total : codec.Total := by
  apply Codec.Total.imap
  apply Codec.total_byte.seq
  exact Codec.total_byte.vec.seq Codec.total_byte.vec

end CompiledInstruction

namespace Message

def codec : Codec Message :=
  (Codec.byte.seq <| Codec.byte.seq <| Codec.byte.seq <| PubkeyBytes.codec.vec.seq <|
    (Codec.bytes 32).seq CompiledInstruction.codec.vec).imap
    (fun (required, readonlySigned, readonlyUnsigned, keys, hash, instructions) =>
      ⟨⟨required, readonlySigned, readonlyUnsigned⟩, keys, hash, instructions⟩)
    (fun m => (m.header.numRequiredSignatures, m.header.numReadonlySignedAccounts,
      m.header.numReadonlyUnsignedAccounts, m.accountKeys, m.recentBlockhash, m.instructions))
    (fun _ _ => rfl) (fun _ => rfl)

theorem codec_valid (message : Message) : codec.valid message := by
  have htotal : codec.Total := by
    apply Codec.Total.imap
    apply Codec.total_byte.seq
    apply Codec.total_byte.seq
    apply Codec.total_byte.seq
    apply PubkeyBytes.codec_total.vec.seq
    exact (Codec.total_bytes 32).seq CompiledInstruction.codec_total.vec
  exact htotal message

/-- The bytes a signature of the message is over. -/
def serialize (message : Message) : List UInt8 := codec.encode message

theorem serialize_inj {left right : Message} (heq : left.serialize = right.serialize) :
    left = right :=
  codec.encode_inj (codec_valid left) (codec_valid right) heq

end Message

namespace Transaction

def codec : Codec Transaction :=
  ((Codec.bytes 64).vec.seq Message.codec).imap (fun (signatures, message) => ⟨signatures, message⟩)
    (fun tx => (tx.signatures, tx.message)) (fun _ _ => rfl) (fun _ => rfl)

theorem codec_valid (tx : Transaction) : codec.valid tx := by
  have htotal : codec.Total := by
    apply Codec.Total.imap
    exact (Codec.total_bytes 64).vec.seq Message.codec_valid
  exact htotal tx

/-- Read a transaction from the front of its bytes. -/
def deserialize (bytes : List UInt8) : Option Transaction :=
  (codec.decode bytes).map Prod.fst

theorem deserialize_encode (tx : Transaction) : deserialize (codec.encode tx) = some tx := by
  have hdecode := codec.decode_encode [] (codec_valid tx)
  rw [List.append_nil] at hdecode
  rw [deserialize, hdecode, Option.map_some]

end Transaction

/-! ## The standard compilation rules -/

def bpfLoaderUpgradeable : PubkeyBytes :=
  pinnedPubkey "BPFLoaderUpgradeab1e11111111111111111111111" (by decide +kernel)

namespace Message

/-- The keys of a message besides its payer, in ascending order. -/
def sortedKeys (instructions : List Instruction) (payer : Option PubkeyBytes) :
    List PubkeyBytes :=
  ((instructions.flatMap fun instruction =>
      instruction.programId :: instruction.accounts.map AccountMeta.pubkey).dedup.filter
    fun key => payer ≠ some key).insertionSort fun left right => left.bytes.1 ≤ right.bytes.1

/-- Payer first, then writable and read-only signers, then the other accounts;
an account has a flag when some instruction gives it that flag. -/
def compile (instructions : List Instruction) (payer : Option PubkeyBytes) : Option Message :=
  let metas := instructions.flatMap Instruction.accounts
  let signs key := metas.any fun account => account.pubkey = key && account.isSigner
  let writes key := metas.any fun account => account.pubkey = key && account.isWritable
  let keys := sortedKeys instructions payer
  let writableSigners := payer.toList ++ keys.filter fun key => signs key && writes key
  let readonlySigners := keys.filter fun key => signs key && !writes key
  let writableOthers := keys.filter fun key => !signs key && writes key
  let readonlyOthers := keys.filter fun key => !signs key && !writes key
  let accountKeys := writableSigners ++ readonlySigners ++ writableOthers ++ readonlyOthers
  let position key := UInt8.ofNat (accountKeys.idxOf key)
  if writableSigners.length + readonlySigners.length < 256 ∧ readonlyOthers.length < 256 then
    some
      { header :=
          { numRequiredSignatures := .ofNat (writableSigners.length + readonlySigners.length)
            numReadonlySignedAccounts := .ofNat readonlySigners.length
            numReadonlyUnsignedAccounts := .ofNat readonlyOthers.length }
        accountKeys
        recentBlockhash := ⟨List.replicate 32 0, rfl⟩
        instructions := instructions.map fun instruction =>
          { programIdIndex := position instruction.programId
            accounts := instruction.accounts.map fun account => position account.pubkey
            data := instruction.data } }
  else none

def isSigner (message : Message) (index : Nat) : Bool :=
  index < message.header.numRequiredSignatures.toNat

def isWritableIndex (message : Message) (index : Nat) : Bool :=
  let required := message.header.numRequiredSignatures.toNat
  index < required - message.header.numReadonlySignedAccounts.toNat ||
    (required ≤ index && index < message.accountKeys.length -
      message.header.numReadonlyUnsignedAccounts.toNat)

/-- A program that is called counts as read-only, unless the message names the
upgradeable loader. -/
def isMaybeWritable (message : Message) (index : Nat) : Bool :=
  message.isWritableIndex index &&
    !(message.instructions.any (fun instruction => instruction.programIdIndex.toNat = index) &&
      !message.accountKeys.contains bpfLoaderUpgradeable)

end Message

/-- The SDK by its published rules. -/
def standardSdk : Sdk where
  newMessage := Message.compile
  isSigner := Message.isSigner
  isMaybeWritable := Message.isMaybeWritable
  serialize := Transaction.codec.encode
  serialize_inj := Transaction.codec.encode_inj (Transaction.codec_valid _)
    (Transaction.codec_valid _)

end SolFrontier.SolanaCore
