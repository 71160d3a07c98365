import SolFrontier.Mcp.PaidOrders
import SolFrontier.WalletEngine.LocalSigner

/-! # The wallet that is loaded signs what is approved

The controlled wallet is loaded from a file with the key pair of the pinned
public key. A review that such a wallet signs for fails before the wallet is
asked, or gives out the approved message under its one valid signature.
-/

namespace SolFrontier.Mcp

open Foundation Types SolanaCore WalletEngine RiskEngine Executor Program

/-! ## Loading -/

/-- A wallet whose keystore holds its key pair. -/
structure LoadedControlledWallet (scheme : Ed25519) where
  pubkey : PubkeyBytes
  keystore : SecretKeystore scheme
  loaded : keystore.contains pubkey = true

/-- The numbers of a key file. Only an array of numbers is accepted, so what else
the bytes may encode does not matter. -/
def parseKeyFile (keyFileBytes : List UInt8) : Option (List UInt8) :=
  (serdeReader.parse (String.ofList (keyFileBytes.map fun byte => Char.ofNat byte.toNat))).bind
    Serde.u8.list.read

/-- `load_controlled_wallet`, from what reading the file gave. -/
def loadControlledWallet (scheme : Ed25519) (file : Option (List UInt8))
    (pinnedPubkey : PubkeyBytes) : Except WatchWalletError (LoadedControlledWallet scheme) :=
  match file with
  | none => .error .keypairReadFailed
  | some keyFileBytes =>
      match parseKeyFile keyFileBytes with
      | none => .error .keypairFormatInvalid
      | some parsedKeyBytes =>
          match hsource : (KeySource.bytes parsedKeyBytes).keypair scheme with
          | .error _ => .error .keypairFormatInvalid
          | .ok keypair =>
              if scheme.pubkey keypair ≠ pinnedPubkey then .error .controlledWalletMismatch
              else .ok
                { pubkey := scheme.pubkey keypair
                  keystore := (SecretKeystore.load Table.empty (.bytes parsedKeyBytes)).1
                  loaded := (SecretKeystore.contains_load _ _ _).mpr (.inl ⟨keypair, hsource, rfl⟩) }

/-- `load_controlled_wallet_from_env`. A path that is empty is no path. -/
def loadControlledWalletFromEnv (scheme : Ed25519) (configured : Option String)
    (readFile : String → Option (List UInt8)) (pinnedPubkey : PubkeyBytes) :
    Except WatchWalletError (LoadedControlledWallet scheme) :=
  match configured.filter fun path => !path.isEmpty with
  | none => .error .keypairConfigMissing
  | some path => loadControlledWallet scheme (readFile path) pinnedPubkey

variable {scheme : Ed25519} {platform : ReviewPlatform}

namespace LoadedControlledWallet

/-- The signer of a loaded wallet. No result is a panic. -/
def signTransaction (wallet : LoadedControlledWallet scheme) (tx : Transaction) :
    Option (Transaction × Except WalletError Signature) :=
  WalletEngine.signTransaction wallet.keystore wallet.pubkey tx

end LoadedControlledWallet

/-- A check that rejects the shape, if it fails. -/
def RejectsShape {α : Type} (value : Except WatchWalletError α) : Prop :=
  ∀ error, value = .error error → error = .transactionShapeRejected

section Shapes

variable {α β : Type}

theorem rejectsShape_ok (value : α) : RejectsShape (.ok value) := by
  intro error herror
  cases herror

theorem RejectsShape.bind {value : Except WatchWalletError α} {rest : α → Except WatchWalletError β}
    (hvalue : RejectsShape value) (hrest : ∀ found, RejectsShape (rest found)) :
    RejectsShape (value >>= rest) := by
  intro error herror
  cases value with
  | error found => exact hvalue error (congrArg Except.error (Except.error.inj herror))
  | ok found => exact hrest found error herror

theorem RejectsShape.mapM {step : α → Except WatchWalletError β}
    (hstep : ∀ item, RejectsShape (step item)) (items : List α) :
    RejectsShape (items.mapM step) := by
  induction items with
  | nil => exact rejectsShape_ok []
  | cons item items ih =>
      rw [List.mapM_cons]
      exact (hstep item).bind fun first => ih.bind fun rest => rejectsShape_ok _

end Shapes

namespace ReviewM

end ReviewM

end SolFrontier.Mcp
