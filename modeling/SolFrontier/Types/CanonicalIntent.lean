import SolFrontier.Types.CanonicalBytes

/-! # Canonical intents

What a user reviews and signs now. An intent and a watch rule are hashed alike,
without a prefix that tells them apart; their layouts do, since the longest
intent is shorter than the shortest rule.
-/

namespace SolFrontier.Types

open Foundation

inductive IntentAction where
  | solendDeposit (walletPubkey inputMint reservePubkey lendingMarket : PubkeyBytes)
      (amountRaw : UInt64) (amountDecimals : UInt8)
  /-- The whole deposited collateral of one obligation. -/
  | solendWithdrawAll (walletPubkey obligationPubkey reservePubkey lendingMarket : PubkeyBytes)
  | jupiterSwap (walletPubkey inputMint outputMint : PubkeyBytes) (inputAmountRaw : UInt64)
      (slippageBps : UInt16)
  deriving DecidableEq, Repr

inductive CanonicalIntentActionType where
  | solendDeposit
  | solendWithdrawAll
  | jupiterSwap
  deriving DecidableEq, Repr

structure CanonicalIntent where
  schemaVersion : UInt8
  intentId : Bytes 16
  user : PubkeyBytes
  action : IntentAction
  expiresAtSlot : UInt64
  deriving DecidableEq, Repr

/-! ## Borsh layout -/

namespace CanonicalIntentActionType

def codec : Codec CanonicalIntentActionType :=
  .constant (fun | solendDeposit => 0 | solendWithdrawAll => 1 | jupiterSwap => 2)
    (fun
      | 0 => some solendDeposit
      | 1 => some solendWithdrawAll
      | 2 => some jupiterSwap
      | _ => none)
    (by rintro ⟨⟩ <;> rfl) (by intro tag value; split <;> simp <;> rintro rfl <;> rfl)

/-- The fields of an action of this type. -/
abbrev Fields : CanonicalIntentActionType → Type
  | solendDeposit => PubkeyBytes × PubkeyBytes × PubkeyBytes × PubkeyBytes × UInt64 × UInt8
  | solendWithdrawAll => PubkeyBytes × PubkeyBytes × PubkeyBytes × PubkeyBytes
  | jupiterSwap => PubkeyBytes × PubkeyBytes × PubkeyBytes × UInt64 × UInt16

def fields : (kind : CanonicalIntentActionType) → Codec kind.Fields
  | solendDeposit =>
      PubkeyBytes.codec.seq <| PubkeyBytes.codec.seq <| PubkeyBytes.codec.seq <|
        PubkeyBytes.codec.seq <| Codec.u64.seq Codec.byte
  | solendWithdrawAll =>
      PubkeyBytes.codec.seq <| PubkeyBytes.codec.seq <| PubkeyBytes.codec.seq PubkeyBytes.codec
  | jupiterSwap =>
      PubkeyBytes.codec.seq <| PubkeyBytes.codec.seq <| PubkeyBytes.codec.seq <|
        Codec.u64.seq Codec.u16

theorem fields_total (kind : CanonicalIntentActionType) : kind.fields.Total := by
  cases kind with
  | solendDeposit =>
      apply PubkeyBytes.codec_total.seq
      apply PubkeyBytes.codec_total.seq
      apply PubkeyBytes.codec_total.seq
      apply PubkeyBytes.codec_total.seq
      exact Codec.total_u64.seq Codec.total_byte
  | solendWithdrawAll =>
      apply PubkeyBytes.codec_total.seq
      apply PubkeyBytes.codec_total.seq
      exact PubkeyBytes.codec_total.seq PubkeyBytes.codec_total
  | jupiterSwap =>
      apply PubkeyBytes.codec_total.seq
      apply PubkeyBytes.codec_total.seq
      apply PubkeyBytes.codec_total.seq
      exact Codec.total_u64.seq Codec.total_u16

end CanonicalIntentActionType

namespace IntentAction

def actionType : IntentAction → CanonicalIntentActionType
  | solendDeposit .. => .solendDeposit
  | solendWithdrawAll .. => .solendWithdrawAll
  | jupiterSwap .. => .jupiterSwap

def codec : Codec IntentAction :=
  (CanonicalIntentActionType.codec.union CanonicalIntentActionType.fields).imap
    (fun
      | ⟨.solendDeposit, wallet, mint, reserve, market, amount, decimals⟩ =>
          solendDeposit wallet mint reserve market amount decimals
      | ⟨.solendWithdrawAll, wallet, obligation, reserve, market⟩ =>
          solendWithdrawAll wallet obligation reserve market
      | ⟨.jupiterSwap, wallet, input, output, amount, slippage⟩ =>
          jupiterSwap wallet input output amount slippage)
    (fun
      | solendDeposit wallet mint reserve market amount decimals =>
          ⟨.solendDeposit, wallet, mint, reserve, market, amount, decimals⟩
      | solendWithdrawAll wallet obligation reserve market =>
          ⟨.solendWithdrawAll, wallet, obligation, reserve, market⟩
      | jupiterSwap wallet input output amount slippage =>
          ⟨.jupiterSwap, wallet, input, output, amount, slippage⟩)
    (by rintro ⟨⟨⟩, _⟩ _ <;> rfl) (by rintro ⟨⟩ <;> rfl)

theorem codec_total : codec.Total := by
  apply Codec.Total.imap
  exact (Codec.total_constant _ _).union CanonicalIntentActionType.fields_total

end IntentAction

namespace CanonicalIntent

def codec : Codec CanonicalIntent :=
  (Codec.byte.seq <| (Codec.bytes 16).seq <| PubkeyBytes.codec.seq <|
    IntentAction.codec.seq Codec.u64).imap
    (fun (version, intentId, user, action, expires) => ⟨version, intentId, user, action, expires⟩)
    (fun i => (i.schemaVersion, i.intentId, i.user, i.action, i.expiresAtSlot))
    (fun _ _ => rfl) (fun _ => rfl)

/-- The layout bounds nothing. -/
theorem codec_valid (intent : CanonicalIntent) : codec.valid intent := by
  have htotal : codec.Total := by
    apply Codec.Total.imap
    apply Codec.total_byte.seq
    apply (Codec.total_bytes 16).seq
    apply PubkeyBytes.codec_total.seq
    exact IntentAction.codec_total.seq Codec.total_u64
  exact htotal intent

end CanonicalIntent

/-- The canonical byte form of an intent. -/
def canonicalBytes (intent : CanonicalIntent) : List UInt8 := CanonicalIntent.codec.encode intent

/-- SHA-256 over the canonical bytes. -/
def canonicalHash (intent : CanonicalIntent) : Bytes 32 := Sha256.digest (canonicalBytes intent)

/-- `BorshDeserialize::try_from_slice`: read an intent and leave no byte. -/
def intentFromSlice (bytes : List UInt8) : Option CanonicalIntent :=
  CanonicalIntent.codec.fromSlice bytes

/-! ## Lengths -/

theorem width_pubkey : PubkeyBytes.codec.Width 32 := (Codec.width_bytes 32).imap _ _

/-- How many bytes the fields of an action take. -/
def CanonicalIntentActionType.width : CanonicalIntentActionType → Nat
  | solendDeposit => 137
  | solendWithdrawAll => 128
  | jupiterSwap => 106

theorem width_intentFields (kind : CanonicalIntentActionType) : kind.fields.Width kind.width := by
  have hswap : (Codec.u64.seq Codec.u16).Width 10 := Codec.width_u64.seq Codec.width_u16
  have hdeposit : (Codec.u64.seq Codec.byte).Width 9 := Codec.width_u64.seq Codec.width_byte
  cases kind with
  | solendDeposit =>
      exact width_pubkey.seq (width_pubkey.seq (width_pubkey.seq (width_pubkey.seq hdeposit)))
  | solendWithdrawAll => exact width_pubkey.seq (width_pubkey.seq (width_pubkey.seq width_pubkey))
  | jupiterSwap => exact width_pubkey.seq (width_pubkey.seq (width_pubkey.seq hswap))

theorem length_intentAction (action : IntentAction) :
    (IntentAction.codec.encode action).length = 1 + action.actionType.width := by
  have htag : CanonicalIntentActionType.codec.Width 1 := Codec.width_constant _ _
  obtain ⟨fields, hencode⟩ : ∃ fields, IntentAction.codec.encode action =
      CanonicalIntentActionType.codec.encode action.actionType ++
        action.actionType.fields.encode fields := by
    cases action <;> exact ⟨_, rfl⟩
  rw [hencode, List.length_append, htag, width_intentFields]

theorem length_canonicalBytes (intent : CanonicalIntent) :
    (canonicalBytes intent).length = 58 + intent.action.actionType.width := by
  have hencode : canonicalBytes intent = Codec.byte.encode intent.schemaVersion ++
      ((Codec.bytes 16).encode intent.intentId ++ (PubkeyBytes.codec.encode intent.user ++
        (IntentAction.codec.encode intent.action ++ Codec.u64.encode intent.expiresAtSlot))) := rfl
  rw [hencode, List.length_append, List.length_append, List.length_append, List.length_append,
    Codec.width_byte, Codec.width_bytes, width_pubkey, length_intentAction, Codec.width_u64]
  omega

/-- An action of a rule has at least the fields of a swap. -/
theorem minWidth_actionSpec : ActionSpec.codec.MinWidth 77 := by
  have hflags : (JupiterApiVersion.codec.seq (Codec.byte.seq Codec.bool)).Width 3 :=
    (Codec.width_constant _ _).seq (Codec.width_byte.seq (Codec.width_constant _ _))
  have hswap : JupiterBuySolWithUsdc.codec.MinWidth 76 :=
    (width_pubkey.minWidth.seq (width_pubkey.minWidth.seq (Codec.width_u64.minWidth.seq
      ((Codec.minWidth_option Codec.u64).seq hflags.minWidth)))).imap _ _
  have hwithdraw : SolendWithdrawAllDelegated.codec.Width 129 :=
    (width_pubkey.seq (width_pubkey.seq (width_pubkey.seq (width_pubkey.seq
      (Codec.width_constant _ _))))).imap _ _
  have hdeposit : SolendDeposit.codec.Width 168 :=
    (width_pubkey.seq (width_pubkey.seq (width_pubkey.seq (width_pubkey.seq
      (width_pubkey.seq Codec.width_u64))))).imap _ _
  have hfields : ∀ kind : WatchRuleActionType, kind.fields.MinWidth 76 := by
    intro kind fields
    cases kind with
    | solendWithdrawAllDelegated => exact (hwithdraw fields).ge.trans' (by decide)
    | jupiterBuySolWithUsdc => exact hswap fields
    | solendDeposit => exact (hdeposit fields).ge.trans' (by decide)
  have htag : WatchRuleActionType.codec.Width 1 := Codec.width_constant _ _
  exact (htag.minWidth.union hfields).imap _ _

/-- The shortest rule has no conditions and swaps without a minimum output. -/
theorem length_canonicalRuleBytes_ge (rule : WatchRule) :
    262 ≤ (canonicalRuleBytes rule).length := by
  have hlogic : ConditionLogic.codec.Width 1 := Codec.width_constant _ _
  have hbool : Codec.bool.Width 1 := Codec.width_constant _ _
  have hbudget : (Codec.u64.seq (Codec.u64.seq (PubkeyBytes.codec.seq Codec.u16))).Width 50 :=
    Codec.width_u64.seq (Codec.width_u64.seq (width_pubkey.seq Codec.width_u16))
  have hterms := hlogic.minWidth.seq ((Codec.minWidth_list Condition.codec).seq
    (minWidth_actionSpec.seq hbudget.minWidth))
  have hrule : WatchRule.codec.MinWidth 262 :=
    (Codec.width_byte.minWidth.seq ((Codec.width_bytes 16).minWidth.seq
      (width_pubkey.minWidth.seq (width_pubkey.minWidth.seq (width_pubkey.minWidth.seq
        (Codec.width_u64.minWidth.seq (Codec.width_u64.minWidth.seq
          (hbool.minWidth.seq hterms)))))))).imap _ _
  exact hrule rule

/-- No intent and rule share their bytes. -/
theorem canonicalBytes_ne_canonicalRuleBytes (intent : CanonicalIntent) (rule : WatchRule) :
    canonicalBytes intent ≠ canonicalRuleBytes rule := by
  intro heq
  have hrule := length_canonicalRuleBytes_ge rule
  have hwidth : intent.action.actionType.width ≤ 137 := by
    cases intent.action.actionType <;> decide
  rw [← heq, length_canonicalBytes] at hrule
  omega

/-- Intents and rules never share their bytes, so that equal hashes are a
collision; an intent reads back from its bytes; and different intents have
different bytes. -/
theorem domain_separation :
    (∀ (intent : CanonicalIntent) (rule : WatchRule),
      canonicalBytes intent ≠ canonicalRuleBytes rule ∧
      (canonicalHash intent = canonicalRuleHash rule →
        Sha256Collision (canonicalBytes intent) (canonicalRuleBytes rule))) ∧
    (∀ intent, intentFromSlice (canonicalBytes intent) = some intent) ∧
    Function.Injective canonicalBytes := by
  refine ⟨?_, ?_, ?_⟩
  · intro intent rule
    have hne := canonicalBytes_ne_canonicalRuleBytes intent rule
    exact ⟨hne, fun hhash => ⟨hne, hhash⟩⟩
  · intro intent
    exact CanonicalIntent.codec.fromSlice_encode intent.codec_valid
  · intro left right heq
    exact CanonicalIntent.codec.encode_inj left.codec_valid right.codec_valid heq

end SolFrontier.Types
