import SolFrontier.Foundation.Serde
import SolFrontier.Types.WatchRule

/-! # Watch rules as JSON

The derived serializers of the rule schema: members in declared order, variants
by their snake-case labels, and unknown members refused. What a variant of a
condition or of an action holds is read from a buffered document.
-/

namespace SolFrontier.Types

open Foundation

/-! ## Labels -/

namespace ConditionLogic

def jsonLabel : ConditionLogic → String
  | all => "all"
  | any => "any"

def serde : Serde ConditionLogic :=
  .variants false [all, any] jsonLabel (by rintro ⟨⟩ <;> rfl)

end ConditionLogic

namespace Comparison

def jsonLabel : Comparison → String
  | lt => "lt"
  | lte => "lte"
  | gt => "gt"
  | gte => "gte"

def serde : Serde Comparison :=
  .variants true [lt, lte, gt, gte] jsonLabel (by rintro ⟨⟩ <;> rfl)

end Comparison

namespace VerificationLevel

def jsonLabel : VerificationLevel → String
  | full => "full"

def serde : Serde VerificationLevel := .variants true [full] jsonLabel (by rintro ⟨⟩; rfl)

end VerificationLevel

namespace BoundMode

def jsonLabel : BoundMode → String
  | adverseLowerForGt => "adverse_lower_for_gt"
  | adverseUpperForLt => "adverse_upper_for_lt"
  | midpoint => "midpoint"

def serde : Serde BoundMode :=
  .variants true [adverseLowerForGt, adverseUpperForLt, midpoint] jsonLabel
    (by rintro ⟨⟩ <;> rfl)

end BoundMode

namespace RateKind

def jsonLabel : RateKind → String
  | apr => "apr"
  | apy => "apy"

def serde : Serde RateKind := .variants true [apr, apy] jsonLabel (by rintro ⟨⟩ <;> rfl)

end RateKind

namespace WithdrawMode

def jsonLabel : WithdrawMode → String
  | withdrawAllDelegatedPosition => "withdraw_all_delegated_position"

def serde : Serde WithdrawMode :=
  .variants true [withdrawAllDelegatedPosition] jsonLabel (by rintro ⟨⟩; rfl)

end WithdrawMode

namespace JupiterApiVersion

def jsonLabel : JupiterApiVersion → String
  | v1 => "v1"
  | v2 => "v2"

def serde : Serde JupiterApiVersion := .variants true [v1, v2] jsonLabel (by rintro ⟨⟩ <;> rfl)

end JupiterApiVersion

/-! ## Members -/

/-- A key is its base58 text. -/
def PubkeyBytes.serde : Serde PubkeyBytes :=
  .text toBase58 (fun text => (fromBase58 text).toOption) (fun key => by
    rw [fromBase58_toBase58]
    rfl)

def PythPrice.jsonFields : Fields PythPrice :=
  (Fields.cons "feed_id" (Serde.bytes 32).required <|
    .cons "price_update_account" PubkeyBytes.serde.required <|
    .cons "comparison" Comparison.serde.required <|
    .cons "threshold_mantissa" Serde.i64.required <|
    .cons "threshold_exponent" Serde.i32.required <|
    .cons "max_age_seconds" Serde.u32.required <|
    .cons "max_confidence_bps" Serde.u16.required <|
    .cons "verification_level_required" VerificationLevel.serde.required <|
    .last "bound_mode" BoundMode.serde.required).imap
    (fun (feedId, account, comparison, mantissa, exponent, age, confidence, level, bound) =>
      ⟨feedId, account, comparison, mantissa, exponent, age, confidence, level, bound⟩)
    (fun c => (c.feedId, c.priceUpdateAccount, c.comparison, c.thresholdMantissa,
      c.thresholdExponent, c.maxAgeSeconds, c.maxConfidenceBps, c.verificationLevelRequired,
      c.boundMode))
    (fun c => @rfl _ c)

def SolendReserveSupplyRate.jsonFields : Fields SolendReserveSupplyRate :=
  (Fields.cons "reserve_pubkey" PubkeyBytes.serde.required <|
    .cons "lending_market" PubkeyBytes.serde.required <|
    .cons "solend_program_id" PubkeyBytes.serde.required <|
    .cons "comparison" Comparison.serde.required <|
    .cons "threshold_bps" Serde.u32.required <|
    .cons "rate_kind" RateKind.serde.required <|
    .cons "formula_version" Serde.u8.required <|
    .cons "max_reserve_staleness_slots" Serde.u32.required <|
    .last "required_refresh_same_tx" Serde.bool.required).imap
    (fun (reserve, market, program, comparison, threshold, kind, version, staleness, refresh) =>
      ⟨reserve, market, program, comparison, threshold, kind, version, staleness, refresh⟩)
    (fun c => (c.reservePubkey, c.lendingMarket, c.solendProgramId, c.comparison, c.thresholdBps,
      c.rateKind, c.formulaVersion, c.maxReserveStalenessSlots, c.requiredRefreshSameTx))
    (fun c => @rfl _ c)

namespace ConditionKind

def jsonLabel : ConditionKind → String
  | pythPrice => "pyth_price"
  | solendReserveSupplyRate => "solend_reserve_supply_rate"

def jsonFields : (kind : ConditionKind) → Foundation.Fields kind.Fields
  | pythPrice => PythPrice.jsonFields
  | solendReserveSupplyRate => SolendReserveSupplyRate.jsonFields

end ConditionKind

def Condition.serde : Serde Condition :=
  (Serde.tagged "kind" ConditionKind.jsonLabel
    (Serde.ofLabel [.pythPrice, .solendReserveSupplyRate] ConditionKind.jsonLabel)
    (by rintro ⟨⟩ <;> rfl) ConditionKind.jsonFields (by rintro ⟨⟩ <;> decide)).imap
    ofFields toFields ofFields_toFields

def SolendWithdrawAllDelegated.jsonFields : Fields SolendWithdrawAllDelegated :=
  (Fields.cons "target_obligation" PubkeyBytes.serde.required <|
    .cons "reserve_pubkey" PubkeyBytes.serde.required <|
    .cons "lending_market" PubkeyBytes.serde.required <|
    .cons "destination_wallet" PubkeyBytes.serde.required <|
    .last "withdraw_mode" WithdrawMode.serde.required).imap
    (fun (obligation, reserve, market, destination, mode) =>
      ⟨obligation, reserve, market, destination, mode⟩)
    (fun a => (a.targetObligation, a.reservePubkey, a.lendingMarket, a.destinationWallet,
      a.withdrawMode))
    (fun a => @rfl _ a)

def JupiterBuySolWithUsdc.jsonFields : Fields JupiterBuySolWithUsdc :=
  (Fields.cons "input_mint" PubkeyBytes.serde.required <|
    .cons "output_mint" PubkeyBytes.serde.required <|
    .cons "input_amount_raw" Serde.u64.required <|
    .cons "min_output_amount_raw" (Serde.u64.optional (fun _ => Json.noConfusion)) <|
    .cons "jupiter_api_version" JupiterApiVersion.serde.required <|
    .cons "max_accounts_hint" Serde.u8.required <|
    .last "require_pre_post_bracket" Serde.bool.required).imap
    (fun (input, output, amount, minimum, version, accounts, bracket) =>
      ⟨input, output, amount, minimum, version, accounts, bracket⟩)
    (fun a => (a.inputMint, a.outputMint, a.inputAmountRaw, a.minOutputAmountRaw,
      a.jupiterApiVersion, a.maxAccountsHint, a.requirePrePostBracket))
    (fun a => @rfl _ a)

def SolendDeposit.jsonFields : Fields SolendDeposit :=
  (Fields.cons "target_obligation" PubkeyBytes.serde.required <|
    .cons "reserve_pubkey" PubkeyBytes.serde.required <|
    .cons "lending_market" PubkeyBytes.serde.required <|
    .cons "solend_program_id" PubkeyBytes.serde.required <|
    .cons "input_mint" PubkeyBytes.serde.required <|
    .last "input_amount_raw" Serde.u64.required).imap
    (fun (obligation, reserve, market, program, mint, amount) =>
      ⟨obligation, reserve, market, program, mint, amount⟩)
    (fun a => (a.targetObligation, a.reservePubkey, a.lendingMarket, a.solendProgramId,
      a.inputMint, a.inputAmountRaw))
    (fun a => @rfl _ a)

def WatchRuleActionType.jsonFields :
    (kind : WatchRuleActionType) → Foundation.Fields kind.Fields
  | solendWithdrawAllDelegated => SolendWithdrawAllDelegated.jsonFields
  | jupiterBuySolWithUsdc => JupiterBuySolWithUsdc.jsonFields
  | solendDeposit => SolendDeposit.jsonFields

/-- The labels of the variants are those of the action types. -/
def ActionSpec.serde : Serde ActionSpec :=
  (Serde.tagged "kind" WatchRuleActionType.label
    (Serde.ofLabel [.solendWithdrawAllDelegated, .jupiterBuySolWithUsdc, .solendDeposit]
      WatchRuleActionType.label)
    (by rintro ⟨⟩ <;> rfl) WatchRuleActionType.jsonFields (by rintro ⟨⟩ <;> decide)).imap
    ofFields toFields ofFields_toFields

/-! ## Rules -/

namespace WatchRule

def jsonFields : Fields WatchRule :=
  (Fields.cons "schema_version" Serde.u8.required <|
    .cons "rule_id" (Serde.bytes 16).required <|
    .cons "user" PubkeyBytes.serde.required <|
    .cons "executor" PubkeyBytes.serde.required <|
    .cons "delegated_wallet" PubkeyBytes.serde.required <|
    .cons "created_at_slot" Serde.u64.required <|
    .cons "expires_at_slot" Serde.u64.required <|
    .cons "one_shot" Serde.bool.required <|
    .cons "condition_logic" ConditionLogic.serde.required <|
    .cons "conditions" Condition.serde.list.required <|
    .cons "action" ActionSpec.serde.required <|
    .cons "max_input_amount_raw" Serde.u64.required <|
    .cons "used_amount_raw" Serde.u64.required <|
    .cons "destination" PubkeyBytes.serde.required <|
    .last "slippage_bps" Serde.u16.required).imap
    (fun (version, ruleId, user, executor, delegated, created, expires, oneShot, logic, conditions,
        action, maximum, used, destination, slippage) =>
      ⟨version, ruleId, user, executor, delegated, created, expires, oneShot, logic, conditions,
        action, maximum, used, destination, slippage⟩)
    (fun r => (r.schemaVersion, r.ruleId, r.user, r.executor, r.delegatedWallet, r.createdAtSlot,
      r.expiresAtSlot, r.oneShot, r.conditionLogic, r.conditions, r.action, r.maxInputAmountRaw,
      r.usedAmountRaw, r.destination, r.slippageBps))
    (fun r => @rfl _ r)

def serde : Serde WatchRule := .record jsonFields (by decide)

end WatchRule

/-- `serde_json::to_string` of a rule. -/
def ruleToJson (rule : WatchRule) : String := (WatchRule.serde.write rule).compact

/-- `serde_json::from_str` to a rule. -/
def ruleFromJson (text : String) : Option WatchRule :=
  (serdeReader.parse text).bind WatchRule.serde.read

@[simp] theorem ruleFromJson_ruleToJson (rule : WatchRule) :
    ruleFromJson (ruleToJson rule) = some rule := by
  rw [ruleFromJson, ruleToJson, JsonReader.parse_compact, Option.bind_some,
    WatchRule.serde.read_write]

end SolFrontier.Types
