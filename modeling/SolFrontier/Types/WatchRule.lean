import SolFrontier.Foundation.Sha256
import SolFrontier.Types.Pubkey

/-! # Watch rules

The canonical schema of a delegated conditional order and the hash over its
Borsh bytes. Field order is the canonical byte order.
-/

namespace SolFrontier.Types

open Foundation

def stage2WatchRuleSchemaV2 : UInt8 := 2

inductive ConditionLogic where
  | all
  | any
  deriving DecidableEq, Repr

inductive Comparison where
  | lt
  | lte
  | gt
  | gte
  deriving DecidableEq, Repr

inductive VerificationLevel where
  | full
  deriving DecidableEq, Repr

inductive BoundMode where
  | adverseLowerForGt
  | adverseUpperForLt
  | midpoint
  deriving DecidableEq, Repr

inductive RateKind where
  | apr
  | apy
  deriving DecidableEq, Repr

structure PythPrice where
  feedId : Bytes 32
  priceUpdateAccount : PubkeyBytes
  comparison : Comparison
  thresholdMantissa : Int64
  thresholdExponent : Int32
  maxAgeSeconds : UInt32
  maxConfidenceBps : UInt16
  verificationLevelRequired : VerificationLevel
  boundMode : BoundMode
  deriving DecidableEq, Repr

structure SolendReserveSupplyRate where
  reservePubkey : PubkeyBytes
  lendingMarket : PubkeyBytes
  solendProgramId : PubkeyBytes
  comparison : Comparison
  thresholdBps : UInt32
  rateKind : RateKind
  formulaVersion : UInt8
  maxReserveStalenessSlots : UInt32
  requiredRefreshSameTx : Bool
  deriving DecidableEq, Repr

inductive Condition where
  | pythPrice (condition : PythPrice)
  | solendReserveSupplyRate (condition : SolendReserveSupplyRate)
  deriving DecidableEq, Repr

inductive ConditionKind where
  | pythPrice
  | solendReserveSupplyRate
  deriving DecidableEq, Repr

inductive WithdrawMode where
  | withdrawAllDelegatedPosition
  deriving DecidableEq, Repr

inductive JupiterApiVersion where
  | v1
  | v2
  deriving DecidableEq, Repr

structure SolendWithdrawAllDelegated where
  targetObligation : PubkeyBytes
  reservePubkey : PubkeyBytes
  lendingMarket : PubkeyBytes
  destinationWallet : PubkeyBytes
  withdrawMode : WithdrawMode
  deriving DecidableEq, Repr

structure JupiterBuySolWithUsdc where
  inputMint : PubkeyBytes
  outputMint : PubkeyBytes
  inputAmountRaw : UInt64
  minOutputAmountRaw : Option UInt64
  jupiterApiVersion : JupiterApiVersion
  maxAccountsHint : UInt8
  requirePrePostBracket : Bool
  deriving DecidableEq, Repr

structure SolendDeposit where
  targetObligation : PubkeyBytes
  reservePubkey : PubkeyBytes
  lendingMarket : PubkeyBytes
  solendProgramId : PubkeyBytes
  inputMint : PubkeyBytes
  inputAmountRaw : UInt64
  deriving DecidableEq, Repr

inductive ActionSpec where
  | solendWithdrawAllDelegated (action : SolendWithdrawAllDelegated)
  | jupiterBuySolWithUsdc (action : JupiterBuySolWithUsdc)
  | solendDeposit (action : SolendDeposit)
  deriving DecidableEq, Repr

inductive WatchRuleActionType where
  | solendWithdrawAllDelegated
  | jupiterBuySolWithUsdc
  | solendDeposit
  deriving DecidableEq, Repr

structure WatchRule where
  schemaVersion : UInt8
  ruleId : Bytes 16
  user : PubkeyBytes
  executor : PubkeyBytes
  delegatedWallet : PubkeyBytes
  createdAtSlot : UInt64
  expiresAtSlot : UInt64
  oneShot : Bool
  conditionLogic : ConditionLogic
  conditions : List Condition
  action : ActionSpec
  maxInputAmountRaw : UInt64
  usedAmountRaw : UInt64
  destination : PubkeyBytes
  slippageBps : UInt16
  deriving DecidableEq, Repr

/-! ## Borsh layout -/

namespace ConditionLogic

def codec : Codec ConditionLogic :=
  .constant (fun | all => 0 | any => 1) (fun | 0 => some all | 1 => some any | _ => none)
    (by rintro ⟨⟩ <;> rfl) (by intro tag value; split <;> simp <;> rintro rfl <;> rfl)

theorem codec_total : codec.Total := Codec.total_constant _ _

end ConditionLogic

namespace Comparison

def codec : Codec Comparison :=
  .constant (fun | lt => 0 | lte => 1 | gt => 2 | gte => 3)
    (fun | 0 => some lt | 1 => some lte | 2 => some gt | 3 => some gte | _ => none)
    (by rintro ⟨⟩ <;> rfl) (by intro tag value; split <;> simp <;> rintro rfl <;> rfl)

theorem codec_total : codec.Total := Codec.total_constant _ _

end Comparison

namespace VerificationLevel

def codec : Codec VerificationLevel :=
  .constant (fun | full => 0) (fun | 0 => some full | _ => none)
    (by rintro ⟨⟩; rfl) (by intro tag value; split <;> simp)

theorem codec_total : codec.Total := Codec.total_constant _ _

end VerificationLevel

namespace BoundMode

def codec : Codec BoundMode :=
  .constant (fun | adverseLowerForGt => 0 | adverseUpperForLt => 1 | midpoint => 2)
    (fun
      | 0 => some adverseLowerForGt
      | 1 => some adverseUpperForLt
      | 2 => some midpoint
      | _ => none)
    (by rintro ⟨⟩ <;> rfl) (by intro tag value; split <;> simp <;> rintro rfl <;> rfl)

theorem codec_total : codec.Total := Codec.total_constant _ _

end BoundMode

namespace RateKind

def codec : Codec RateKind :=
  .constant (fun | apr => 0 | apy => 1) (fun | 0 => some apr | 1 => some apy | _ => none)
    (by rintro ⟨⟩ <;> rfl) (by intro tag value; split <;> simp <;> rintro rfl <;> rfl)

theorem codec_total : codec.Total := Codec.total_constant _ _

end RateKind

namespace WithdrawMode

def codec : Codec WithdrawMode :=
  .constant (fun | withdrawAllDelegatedPosition => 0)
    (fun | 0 => some withdrawAllDelegatedPosition | _ => none)
    (by rintro ⟨⟩; rfl) (by intro tag value; split <;> simp)

theorem codec_total : codec.Total := Codec.total_constant _ _

end WithdrawMode

namespace JupiterApiVersion

def codec : Codec JupiterApiVersion :=
  .constant (fun | v1 => 0 | v2 => 1) (fun | 0 => some v1 | 1 => some v2 | _ => none)
    (by rintro ⟨⟩ <;> rfl) (by intro tag value; split <;> simp <;> rintro rfl <;> rfl)

theorem codec_total : codec.Total := Codec.total_constant _ _

end JupiterApiVersion

namespace PythPrice

def codec : Codec PythPrice :=
  ((Codec.bytes 32).seq <| PubkeyBytes.codec.seq <| Comparison.codec.seq <| Codec.i64.seq <|
    Codec.i32.seq <| Codec.u32.seq <| Codec.u16.seq <| VerificationLevel.codec.seq
      BoundMode.codec).imap
    (fun (feedId, account, comparison, mantissa, exponent, age, confidence, level, bound) =>
      ⟨feedId, account, comparison, mantissa, exponent, age, confidence, level, bound⟩)
    (fun c => (c.feedId, c.priceUpdateAccount, c.comparison, c.thresholdMantissa,
      c.thresholdExponent, c.maxAgeSeconds, c.maxConfidenceBps, c.verificationLevelRequired,
      c.boundMode))
    (fun _ _ => rfl) (fun _ => rfl)

theorem codec_total : codec.Total := by
  apply Codec.Total.imap
  apply (Codec.total_bytes 32).seq
  apply PubkeyBytes.codec_total.seq
  apply Comparison.codec_total.seq
  apply Codec.total_i64.seq
  apply Codec.total_i32.seq
  apply Codec.total_u32.seq
  apply Codec.total_u16.seq
  exact VerificationLevel.codec_total.seq BoundMode.codec_total

end PythPrice

namespace SolendReserveSupplyRate

def codec : Codec SolendReserveSupplyRate :=
  (PubkeyBytes.codec.seq <| PubkeyBytes.codec.seq <| PubkeyBytes.codec.seq <|
    Comparison.codec.seq <| Codec.u32.seq <| RateKind.codec.seq <| Codec.byte.seq <|
      Codec.u32.seq Codec.bool).imap
    (fun (reserve, market, program, comparison, threshold, kind, version, staleness, refresh) =>
      ⟨reserve, market, program, comparison, threshold, kind, version, staleness, refresh⟩)
    (fun c => (c.reservePubkey, c.lendingMarket, c.solendProgramId, c.comparison, c.thresholdBps,
      c.rateKind, c.formulaVersion, c.maxReserveStalenessSlots, c.requiredRefreshSameTx))
    (fun _ _ => rfl) (fun _ => rfl)

theorem codec_total : codec.Total := by
  apply Codec.Total.imap
  apply PubkeyBytes.codec_total.seq
  apply PubkeyBytes.codec_total.seq
  apply PubkeyBytes.codec_total.seq
  apply Comparison.codec_total.seq
  apply Codec.total_u32.seq
  apply RateKind.codec_total.seq
  apply Codec.total_byte.seq
  exact Codec.total_u32.seq Codec.total_bool

end SolendReserveSupplyRate

namespace ConditionKind

def codec : Codec ConditionKind :=
  .constant (fun | pythPrice => 0 | solendReserveSupplyRate => 1)
    (fun | 0 => some pythPrice | 1 => some solendReserveSupplyRate | _ => none)
    (by rintro ⟨⟩ <;> rfl) (by intro tag value; split <;> simp <;> rintro rfl <;> rfl)

/-- The fields of a condition of this kind. -/
abbrev Fields : ConditionKind → Type
  | pythPrice => PythPrice
  | solendReserveSupplyRate => SolendReserveSupplyRate

def fields : (kind : ConditionKind) → Codec kind.Fields
  | pythPrice => PythPrice.codec
  | solendReserveSupplyRate => SolendReserveSupplyRate.codec

theorem fields_total (kind : ConditionKind) : kind.fields.Total := by
  cases kind with
  | pythPrice => exact PythPrice.codec_total
  | solendReserveSupplyRate => exact SolendReserveSupplyRate.codec_total

end ConditionKind

namespace Condition

def conditionKind : Condition → ConditionKind
  | pythPrice _ => .pythPrice
  | solendReserveSupplyRate _ => .solendReserveSupplyRate

/-- A condition from its kind and its fields. -/
def ofFields : (kind : ConditionKind) × kind.Fields → Condition
  | ⟨.pythPrice, condition⟩ => pythPrice condition
  | ⟨.solendReserveSupplyRate, condition⟩ => solendReserveSupplyRate condition

def toFields : Condition → (kind : ConditionKind) × kind.Fields
  | pythPrice condition => ⟨.pythPrice, condition⟩
  | solendReserveSupplyRate condition => ⟨.solendReserveSupplyRate, condition⟩

theorem ofFields_toFields (condition : Condition) : ofFields (toFields condition) = condition := by
  cases condition <;> rfl

def codec : Codec Condition :=
  (ConditionKind.codec.union ConditionKind.fields).imap ofFields toFields
    (by rintro ⟨⟨⟩, _⟩ _ <;> rfl) ofFields_toFields

theorem codec_total : codec.Total := by
  apply Codec.Total.imap
  exact (Codec.total_constant _ _).union ConditionKind.fields_total

end Condition

namespace SolendWithdrawAllDelegated

def codec : Codec SolendWithdrawAllDelegated :=
  (PubkeyBytes.codec.seq <| PubkeyBytes.codec.seq <| PubkeyBytes.codec.seq <|
    PubkeyBytes.codec.seq WithdrawMode.codec).imap
    (fun (obligation, reserve, market, destination, mode) =>
      ⟨obligation, reserve, market, destination, mode⟩)
    (fun a => (a.targetObligation, a.reservePubkey, a.lendingMarket, a.destinationWallet,
      a.withdrawMode))
    (fun _ _ => rfl) (fun _ => rfl)

theorem codec_total : codec.Total := by
  apply Codec.Total.imap
  apply PubkeyBytes.codec_total.seq
  apply PubkeyBytes.codec_total.seq
  apply PubkeyBytes.codec_total.seq
  exact PubkeyBytes.codec_total.seq WithdrawMode.codec_total

end SolendWithdrawAllDelegated

namespace JupiterBuySolWithUsdc

def codec : Codec JupiterBuySolWithUsdc :=
  (PubkeyBytes.codec.seq <| PubkeyBytes.codec.seq <| Codec.u64.seq <| Codec.u64.option.seq <|
    JupiterApiVersion.codec.seq <| Codec.byte.seq Codec.bool).imap
    (fun (input, output, amount, minimum, version, accounts, bracket) =>
      ⟨input, output, amount, minimum, version, accounts, bracket⟩)
    (fun a => (a.inputMint, a.outputMint, a.inputAmountRaw, a.minOutputAmountRaw,
      a.jupiterApiVersion, a.maxAccountsHint, a.requirePrePostBracket))
    (fun _ _ => rfl) (fun _ => rfl)

theorem codec_total : codec.Total := by
  apply Codec.Total.imap
  apply PubkeyBytes.codec_total.seq
  apply PubkeyBytes.codec_total.seq
  apply Codec.total_u64.seq
  apply Codec.total_u64.option.seq
  apply JupiterApiVersion.codec_total.seq
  exact Codec.total_byte.seq Codec.total_bool

end JupiterBuySolWithUsdc

namespace SolendDeposit

def codec : Codec SolendDeposit :=
  (PubkeyBytes.codec.seq <| PubkeyBytes.codec.seq <| PubkeyBytes.codec.seq <|
    PubkeyBytes.codec.seq <| PubkeyBytes.codec.seq Codec.u64).imap
    (fun (obligation, reserve, market, program, mint, amount) =>
      ⟨obligation, reserve, market, program, mint, amount⟩)
    (fun a => (a.targetObligation, a.reservePubkey, a.lendingMarket, a.solendProgramId,
      a.inputMint, a.inputAmountRaw))
    (fun _ _ => rfl) (fun _ => rfl)

theorem codec_total : codec.Total := by
  apply Codec.Total.imap
  apply PubkeyBytes.codec_total.seq
  apply PubkeyBytes.codec_total.seq
  apply PubkeyBytes.codec_total.seq
  apply PubkeyBytes.codec_total.seq
  exact PubkeyBytes.codec_total.seq Codec.total_u64

end SolendDeposit

namespace WatchRuleActionType

def label : WatchRuleActionType → String
  | solendWithdrawAllDelegated => "solend_withdraw_all_delegated"
  | jupiterBuySolWithUsdc => "jupiter_buy_sol_with_usdc"
  | solendDeposit => "solend_deposit"

/-- The Borsh variant index, which is not the routing discriminator. -/
def codec : Codec WatchRuleActionType :=
  .constant
    (fun | solendWithdrawAllDelegated => 0 | jupiterBuySolWithUsdc => 1 | solendDeposit => 2)
    (fun
      | 0 => some solendWithdrawAllDelegated
      | 1 => some jupiterBuySolWithUsdc
      | 2 => some solendDeposit
      | _ => none)
    (by rintro ⟨⟩ <;> rfl) (by intro tag value; split <;> simp <;> rintro rfl <;> rfl)

/-- The fields of an action of this type. -/
abbrev Fields : WatchRuleActionType → Type
  | solendWithdrawAllDelegated => SolendWithdrawAllDelegated
  | jupiterBuySolWithUsdc => JupiterBuySolWithUsdc
  | solendDeposit => SolendDeposit

def fields : (kind : WatchRuleActionType) → Codec kind.Fields
  | solendWithdrawAllDelegated => SolendWithdrawAllDelegated.codec
  | jupiterBuySolWithUsdc => JupiterBuySolWithUsdc.codec
  | solendDeposit => SolendDeposit.codec

theorem fields_total (kind : WatchRuleActionType) : kind.fields.Total := by
  cases kind with
  | solendWithdrawAllDelegated => exact SolendWithdrawAllDelegated.codec_total
  | jupiterBuySolWithUsdc => exact JupiterBuySolWithUsdc.codec_total
  | solendDeposit => exact SolendDeposit.codec_total

end WatchRuleActionType

namespace ActionSpec

def actionType : ActionSpec → WatchRuleActionType
  | solendWithdrawAllDelegated _ => .solendWithdrawAllDelegated
  | jupiterBuySolWithUsdc _ => .jupiterBuySolWithUsdc
  | solendDeposit _ => .solendDeposit

/-- An action from its type and its fields. -/
def ofFields : (kind : WatchRuleActionType) × kind.Fields → ActionSpec
  | ⟨.solendWithdrawAllDelegated, action⟩ => solendWithdrawAllDelegated action
  | ⟨.jupiterBuySolWithUsdc, action⟩ => jupiterBuySolWithUsdc action
  | ⟨.solendDeposit, action⟩ => solendDeposit action

def toFields : ActionSpec → (kind : WatchRuleActionType) × kind.Fields
  | solendWithdrawAllDelegated action => ⟨.solendWithdrawAllDelegated, action⟩
  | jupiterBuySolWithUsdc action => ⟨.jupiterBuySolWithUsdc, action⟩
  | solendDeposit action => ⟨.solendDeposit, action⟩

theorem ofFields_toFields (action : ActionSpec) : ofFields (toFields action) = action := by
  cases action <;> rfl

def codec : Codec ActionSpec :=
  (WatchRuleActionType.codec.union WatchRuleActionType.fields).imap ofFields toFields
    (by rintro ⟨⟨⟩, _⟩ _ <;> rfl) ofFields_toFields

theorem codec_total : codec.Total := by
  apply Codec.Total.imap
  exact (Codec.total_constant _ _).union WatchRuleActionType.fields_total

end ActionSpec

namespace WatchRule

def codec : Codec WatchRule :=
  (Codec.byte.seq <| (Codec.bytes 16).seq <| PubkeyBytes.codec.seq <| PubkeyBytes.codec.seq <|
    PubkeyBytes.codec.seq <| Codec.u64.seq <| Codec.u64.seq <| Codec.bool.seq <|
      ConditionLogic.codec.seq <| Condition.codec.list.seq <| ActionSpec.codec.seq <|
        Codec.u64.seq <| Codec.u64.seq <| PubkeyBytes.codec.seq Codec.u16).imap
    (fun (version, ruleId, user, executor, delegated, created, expires, oneShot, logic, conditions,
        action, maximum, used, destination, slippage) =>
      ⟨version, ruleId, user, executor, delegated, created, expires, oneShot, logic, conditions,
        action, maximum, used, destination, slippage⟩)
    (fun r => (r.schemaVersion, r.ruleId, r.user, r.executor, r.delegatedWallet, r.createdAtSlot,
      r.expiresAtSlot, r.oneShot, r.conditionLogic, r.conditions, r.action, r.maxInputAmountRaw,
      r.usedAmountRaw, r.destination, r.slippageBps))
    (fun _ _ => rfl) (fun _ => rfl)

/-- The layout bounds nothing but the number of conditions. -/
theorem codec_valid {rule : WatchRule} (hconditions : rule.conditions.length < 256 ^ 4) :
    codec.valid rule := by
  have hlist : Condition.codec.list.valid rule.conditions :=
    ⟨hconditions, fun condition _ => Condition.codec_total condition⟩
  -- the members in order; each is total but the list
  refine ⟨Codec.total_byte _, Codec.total_bytes 16 _, PubkeyBytes.codec_total _,
    PubkeyBytes.codec_total _, PubkeyBytes.codec_total _, Codec.total_u64 _, Codec.total_u64 _,
    Codec.total_bool _, ConditionLogic.codec_total _, hlist, ActionSpec.codec_total _,
    Codec.total_u64 _, Codec.total_u64 _, PubkeyBytes.codec_total _, Codec.total_u16 _⟩

end WatchRule

/-- The canonical byte form of a rule. -/
def canonicalRuleBytes (rule : WatchRule) : List UInt8 := WatchRule.codec.encode rule

/-- SHA-256 over the canonical bytes. -/
def canonicalRuleHash (rule : WatchRule) : Bytes 32 := Sha256.digest (canonicalRuleBytes rule)

end SolFrontier.Types
