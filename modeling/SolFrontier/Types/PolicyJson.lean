import SolFrontier.Foundation.SerdeOpen
import SolFrontier.Types.Policy

/-! # Policy rules as JSON

A condition or an action without data is written as its name, any other as an
object tagged by its type. Both shapes are read by hand-written matches of their
own. How a double is written and read is left open here.
-/

namespace SolFrontier.Types

open Foundation

/-! ## Parts of a rule -/

namespace SolanaNetwork

def jsonLabel : SolanaNetwork → String
  | mainnetBeta => "mainnet-beta"
  | devnet => "devnet"
  | testnet => "testnet"
  | localnet => "localnet"

def serde : Serde SolanaNetwork :=
  .variants true [mainnetBeta, devnet, testnet, localnet] jsonLabel (by rintro ⟨⟩ <;> rfl)

end SolanaNetwork

namespace ApprovalChainStage

def defaultMinApprovals : UInt32 := 1

def jsonFields : OpenFields ApprovalChainStage :=
  (OpenFields.cons "role" Serde.string.format.required <|
    .cons "description" (Serde.string.format.defaulted "") <|
    .last "min_approvals" (Serde.u32.format.defaulted defaultMinApprovals)).imap
    (fun (role, description, minApprovals) => ⟨role, description, minApprovals⟩)
    (fun stage => (stage.role, stage.description, stage.minApprovals))

def format : Format ApprovalChainStage := .record jsonFields

theorem keeps (stage : ApprovalChainStage) : format.Keeps stage := by
  apply Format.record_keeps (by decide)
  apply OpenFields.imap_keeps rfl
  apply OpenFields.cons_keeps (Serde.required_keeps _ _)
  apply OpenFields.cons_keeps (Serde.defaulted_keeps _ _ _)
  exact OpenFields.last_keeps (Serde.defaulted_keeps _ _ _)

end ApprovalChainStage

/-! ## Conditions -/

/-- The conditions with a tagged shape. A name alone is the shape that is written
for those without data. -/
inductive PolicyConditionTagged where
  | networkIn (networks : List SolanaNetwork)
  | costExceedsSol (threshold : Float)
  | dailySpendExceedsSol (threshold : Float)
  | amountExceedsLamports (threshold : UInt64)
  | programNotInAllowlist
  | destinationInDenylist
  | simulationNotPassed
  | tokenAmountExceeds (mint : String) (threshold : UInt64)
  | mintNotInAllowlist (allowedMints : List String)
  | outsideAllowedHours (startHour endHour : UInt8) (allowedDays : List UInt8)
      (utcOffsetHours : Int32)
  | always

abbrev PolicyConditionWire := UnitOr PolicyConditionTagged

namespace PolicyConditionTagged

def networkInFields : OpenFields (List SolanaNetwork) :=
  .last "networks" SolanaNetwork.serde.list.format.required

def solThresholdFields (doubles : Format Float) : OpenFields Float :=
  .last "threshold" doubles.required

def amountExceedsLamportsFields : OpenFields UInt64 :=
  .last "threshold" Serde.u64.format.required

def tokenAmountExceedsFields : OpenFields (String × UInt64) :=
  .cons "mint" Serde.string.format.required <|
    .last "threshold" Serde.u64.format.required

def mintNotInAllowlistFields : OpenFields (List String) :=
  .last "allowed_mints" Serde.string.list.format.required

def outsideAllowedHoursFields : OpenFields (UInt8 × UInt8 × List UInt8 × Int32) :=
  .cons "start_hour" Serde.u8.format.required <|
    .cons "end_hour" Serde.u8.format.required <|
    .cons "allowed_days" (Serde.u8.list.format.defaulted []) <|
    .last "utc_offset_hours" (Serde.i32.format.defaulted 0)

def write (doubles : Format Float) : PolicyConditionTagged → Json
  | networkIn networks => Variant.object "type" "NetworkIn" (networkInFields.members networks)
  | costExceedsSol threshold =>
      Variant.object "type" "CostExceedsSol" ((solThresholdFields doubles).members threshold)
  | dailySpendExceedsSol threshold =>
      Variant.object "type" "DailySpendExceedsSol" ((solThresholdFields doubles).members threshold)
  | amountExceedsLamports threshold =>
      Variant.object "type" "AmountExceedsLamports" (amountExceedsLamportsFields.members threshold)
  | programNotInAllowlist => Variant.object "type" "ProgramNotInAllowlist" []
  | destinationInDenylist => Variant.object "type" "DestinationInDenylist" []
  | simulationNotPassed => Variant.object "type" "SimulationNotPassed" []
  | tokenAmountExceeds mint threshold =>
      Variant.object "type" "TokenAmountExceeds"
        (tokenAmountExceedsFields.members (mint, threshold))
  | mintNotInAllowlist allowedMints =>
      Variant.object "type" "MintNotInAllowlist" (mintNotInAllowlistFields.members allowedMints)
  | outsideAllowedHours startHour endHour allowedDays utcOffsetHours =>
      Variant.object "type" "OutsideAllowedHours"
        (outsideAllowedHoursFields.members (startHour, endHour, allowedDays, utcOffsetHours))
  | always => Variant.object "type" "Always" []

def variants (doubles : Format Float) : List (Variant PolicyConditionTagged) :=
  [.struct ["NetworkIn", "network_in"] networkInFields networkIn,
    .struct ["CostExceedsSol", "cost_exceeds_sol"] (solThresholdFields doubles) costExceedsSol,
    .struct ["DailySpendExceedsSol", "daily_spend_exceeds_sol"] (solThresholdFields doubles)
      dailySpendExceedsSol,
    .struct ["AmountExceedsLamports", "amount_exceeds_lamports"] amountExceedsLamportsFields
      amountExceedsLamports,
    .unit ["ProgramNotInAllowlist", "program_not_in_allowlist"] programNotInAllowlist,
    .unit ["DestinationInDenylist", "destination_in_denylist"] destinationInDenylist,
    .unit ["SimulationNotPassed", "simulation_not_passed"] simulationNotPassed,
    .struct ["TokenAmountExceeds", "token_amount_exceeds"] tokenAmountExceedsFields
      fun (mint, threshold) => tokenAmountExceeds mint threshold,
    .struct ["MintNotInAllowlist", "mint_not_in_allowlist"] mintNotInAllowlistFields
      mintNotInAllowlist,
    .struct ["OutsideAllowedHours", "outside_allowed_hours"] outsideAllowedHoursFields
      fun (startHour, endHour, allowedDays, utcOffsetHours) =>
        outsideAllowedHours startHour endHour allowedDays utcOffsetHours,
    .unit ["Always", "always"] always]

def format (doubles : Format Float) : Format PolicyConditionTagged :=
  Variant.format "type" true (variants doubles) (write doubles)

/-- No threshold is a double. -/
def Plain : PolicyConditionTagged → Prop
  | costExceedsSol _ | dailySpendExceedsSol _ => False
  | _ => True

theorem keeps (doubles : Format Float) {condition : PolicyConditionTagged}
    (hplain : condition.Plain) : (format doubles).Keeps condition := by
  cases condition with
  | costExceedsSol | dailySpendExceedsSol => exact hplain.elim
  | programNotInAllowlist => exact Variant.unit_keeps "ProgramNotInAllowlist" _ rfl rfl
  | destinationInDenylist => exact Variant.unit_keeps "DestinationInDenylist" _ rfl rfl
  | simulationNotPassed => exact Variant.unit_keeps "SimulationNotPassed" _ rfl rfl
  | always => exact Variant.unit_keeps "Always" _ rfl rfl
  | networkIn networks =>
      refine Variant.struct_keeps "NetworkIn" networkInFields networkIn networks rfl rfl rfl
        (by decide) ?_
      exact OpenFields.last_keeps (Serde.required_keeps _ _)
  | amountExceedsLamports threshold =>
      refine Variant.struct_keeps "AmountExceedsLamports" amountExceedsLamportsFields
        amountExceedsLamports threshold rfl rfl rfl (by decide) ?_
      exact OpenFields.last_keeps (Serde.required_keeps _ _)
  | tokenAmountExceeds mint threshold =>
      refine Variant.struct_keeps "TokenAmountExceeds" tokenAmountExceedsFields
        (fun (mint, threshold) => tokenAmountExceeds mint threshold) (mint, threshold) rfl rfl rfl
        (by decide) ?_
      apply OpenFields.cons_keeps (Serde.required_keeps _ _)
      exact OpenFields.last_keeps (Serde.required_keeps _ _)
  | mintNotInAllowlist allowedMints =>
      refine Variant.struct_keeps "MintNotInAllowlist" mintNotInAllowlistFields mintNotInAllowlist
        allowedMints rfl rfl rfl (by decide) ?_
      exact OpenFields.last_keeps (Serde.required_keeps _ _)
  | outsideAllowedHours startHour endHour allowedDays utcOffsetHours =>
      refine Variant.struct_keeps "OutsideAllowedHours" outsideAllowedHoursFields
        (fun (startHour, endHour, allowedDays, utcOffsetHours) =>
          outsideAllowedHours startHour endHour allowedDays utcOffsetHours)
        (startHour, endHour, allowedDays, utcOffsetHours) rfl rfl rfl (by decide) ?_
      apply OpenFields.cons_keeps (Serde.required_keeps _ _)
      apply OpenFields.cons_keeps (Serde.required_keeps _ _)
      apply OpenFields.cons_keeps (Serde.defaulted_keeps _ _ _)
      exact OpenFields.last_keeps (Serde.defaulted_keeps _ _ _)

end PolicyConditionTagged

def parsePolicyConditionUnit (name : String) : Option PolicyCondition :=
  match name with
  | "ProgramNotInAllowlist" | "program_not_in_allowlist" => some .programNotInAllowlist
  | "DestinationInDenylist" | "destination_in_denylist" => some .destinationInDenylist
  | "SimulationNotPassed" | "simulation_not_passed" => some .simulationNotPassed
  | "Always" | "always" => some .always
  | "LegacyTokenTransferPresent" | "legacy_token_transfer_present" =>
      some .legacyTokenTransferPresent
  | _ => none

namespace PolicyCondition

def toWire : PolicyCondition → PolicyConditionWire
  | networkIn networks => .tagged (.networkIn networks)
  | programNotInAllowlist => .unit "ProgramNotInAllowlist"
  | destinationInDenylist => .unit "DestinationInDenylist"
  | costExceedsSol threshold => .tagged (.costExceedsSol threshold)
  | dailySpendExceedsSol cap => .tagged (.dailySpendExceedsSol cap)
  | amountExceedsLamports threshold => .tagged (.amountExceedsLamports threshold)
  | simulationNotPassed => .unit "SimulationNotPassed"
  | legacyTokenTransferPresent => .unit "LegacyTokenTransferPresent"
  | tokenAmountExceeds mint threshold => .tagged (.tokenAmountExceeds mint threshold)
  | mintNotInAllowlist allowedMints => .tagged (.mintNotInAllowlist allowedMints)
  | outsideAllowedHours startHour endHour allowedDays utcOffsetHours =>
      .tagged (.outsideAllowedHours startHour endHour allowedDays utcOffsetHours)
  | always => .unit "Always"

def ofWire : PolicyConditionWire → Option PolicyCondition
  | .unit name => parsePolicyConditionUnit name
  | .tagged (.networkIn networks) => some (networkIn networks)
  | .tagged .programNotInAllowlist => some programNotInAllowlist
  | .tagged .destinationInDenylist => some destinationInDenylist
  | .tagged (.costExceedsSol threshold) => some (costExceedsSol threshold)
  | .tagged (.dailySpendExceedsSol threshold) => some (dailySpendExceedsSol threshold)
  | .tagged (.amountExceedsLamports threshold) => some (amountExceedsLamports threshold)
  | .tagged .simulationNotPassed => some simulationNotPassed
  | .tagged (.tokenAmountExceeds mint threshold) => some (tokenAmountExceeds mint threshold)
  | .tagged (.mintNotInAllowlist allowedMints) => some (mintNotInAllowlist allowedMints)
  | .tagged (.outsideAllowedHours startHour endHour allowedDays utcOffsetHours) =>
      some (outsideAllowedHours startHour endHour allowedDays utcOffsetHours)
  | .tagged .always => some always

/-- Every constructor has a shape that leads back to it. -/
theorem ofWire_toWire (condition : PolicyCondition) :
    ofWire condition.toWire = some condition := by
  cases condition <;> rfl

def format (doubles : Format Float) : Format PolicyCondition :=
  (PolicyConditionTagged.format doubles).unitOr.via toWire ofWire

/-- No threshold is a double. -/
def Plain : PolicyCondition → Prop
  | costExceedsSol _ | dailySpendExceedsSol _ => False
  | _ => True

theorem keeps (doubles : Format Float) {condition : PolicyCondition} (hplain : condition.Plain) :
    (format doubles).Keeps condition := by
  apply Format.via_keeps (ofWire_toWire condition)
  cases condition with
  | costExceedsSol | dailySpendExceedsSol => exact hplain.elim
  -- The conditions without data are written as names, one of which has no tagged shape.
  | programNotInAllowlist | destinationInDenylist | simulationNotPassed | always
    | legacyTokenTransferPresent => exact Format.unitOr_keeps_unit _ _
  | networkIn | amountExceedsLamports | tokenAmountExceeds | mintNotInAllowlist
    | outsideAllowedHours =>
      exact Format.unitOr_keeps_tagged (fun _ => rfl) (PolicyConditionTagged.keeps doubles trivial)

end PolicyCondition

/-! ## Actions -/

/-- The actions with a tagged shape. -/
inductive PolicyActionTagged where
  | approve
  | requireHumanApproval (reason : String) (requiredApproverRole : Option String)
  | requireApprovalChain (reason : String) (stages : List ApprovalChainStage)
  | reject (reason : String)

abbrev PolicyActionWire := UnitOr PolicyActionTagged

namespace PolicyActionTagged

def requireHumanApprovalFields : OpenFields (String × Option String) :=
  .cons "reason" Serde.string.format.required <|
    .last "required_approver_role" Serde.string.format.skipped

def requireApprovalChainFields : OpenFields (String × List ApprovalChainStage) :=
  .cons "reason" Serde.string.format.required <|
    .last "stages" ApprovalChainStage.format.list.required

def rejectFields : OpenFields String := .last "reason" Serde.string.format.required

def write : PolicyActionTagged → Json
  | approve => Variant.object "type" "Approve" []
  | requireHumanApproval reason requiredApproverRole =>
      Variant.object "type" "RequireHumanApproval"
        (requireHumanApprovalFields.members (reason, requiredApproverRole))
  | requireApprovalChain reason stages =>
      Variant.object "type" "RequireApprovalChain"
        (requireApprovalChainFields.members (reason, stages))
  | reject reason => Variant.object "type" "Reject" (rejectFields.members reason)

def variants : List (Variant PolicyActionTagged) :=
  [.unit ["Approve", "approve"] approve,
    .struct ["RequireHumanApproval", "require_human_approval"] requireHumanApprovalFields
      fun (reason, requiredApproverRole) => requireHumanApproval reason requiredApproverRole,
    .struct ["RequireApprovalChain", "require_approval_chain"] requireApprovalChainFields
      fun (reason, stages) => requireApprovalChain reason stages,
    .struct ["Reject", "reject"] rejectFields reject]

def format : Format PolicyActionTagged := Variant.format "type" true variants write

theorem keeps (action : PolicyActionTagged) : format.Keeps action := by
  cases action with
  | approve => exact Variant.unit_keeps "Approve" _ rfl rfl
  | requireHumanApproval reason requiredApproverRole =>
      refine Variant.struct_keeps "RequireHumanApproval" requireHumanApprovalFields
        (fun (reason, requiredApproverRole) => requireHumanApproval reason requiredApproverRole)
        (reason, requiredApproverRole) rfl rfl rfl (by decide) ?_
      apply OpenFields.cons_keeps (Serde.required_keeps _ _)
      exact OpenFields.last_keeps (Serde.skipped_keeps _ rfl _)
  | requireApprovalChain reason stages =>
      refine Variant.struct_keeps "RequireApprovalChain" requireApprovalChainFields
        (fun (reason, stages) => requireApprovalChain reason stages) (reason, stages) rfl rfl rfl
        (by decide) ?_
      apply OpenFields.cons_keeps (Serde.required_keeps _ _)
      apply OpenFields.last_keeps
      exact Format.required_keeps (Format.list_keeps fun stage _ => stage.keeps)
  | reject reason =>
      refine Variant.struct_keeps "Reject" rejectFields reject reason rfl rfl rfl (by decide) ?_
      exact OpenFields.last_keeps (Serde.required_keeps _ _)

end PolicyActionTagged

def parsePolicyActionUnit (name : String) : Option PolicyAction :=
  match name with
  | "Approve" | "approve" => some .approve
  | _ => none

namespace PolicyAction

def toWire : PolicyAction → PolicyActionWire
  | approve => .unit "Approve"
  | requireHumanApproval reason requiredApproverRole =>
      .tagged (.requireHumanApproval reason requiredApproverRole)
  | requireApprovalChain reason stages => .tagged (.requireApprovalChain reason stages)
  | reject reason => .tagged (.reject reason)

def ofWire : PolicyActionWire → Option PolicyAction
  | .unit name => parsePolicyActionUnit name
  | .tagged .approve => some approve
  | .tagged (.requireHumanApproval reason requiredApproverRole) =>
      some (requireHumanApproval reason requiredApproverRole)
  | .tagged (.requireApprovalChain reason stages) => some (requireApprovalChain reason stages)
  | .tagged (.reject reason) => some (reject reason)

theorem ofWire_toWire (action : PolicyAction) : ofWire action.toWire = some action := by
  cases action <;> rfl

def format : Format PolicyAction := PolicyActionTagged.format.unitOr.via toWire ofWire

theorem keeps (action : PolicyAction) : format.Keeps action := by
  apply Format.via_keeps (ofWire_toWire action)
  cases action with
  | approve => exact Format.unitOr_keeps_unit _ _
  | requireHumanApproval | requireApprovalChain | reject =>
      exact Format.unitOr_keeps_tagged (fun _ => rfl) (PolicyActionTagged.keeps _)

end PolicyAction

/-! ## Rules -/

namespace PolicyRule

def jsonFields (doubles : Format Float) : OpenFields PolicyRule :=
  (OpenFields.cons "name" Serde.string.format.required <|
    .cons "description" Serde.string.format.required <|
    .cons "condition" (PolicyCondition.format doubles).required <|
    .last "action" PolicyAction.format.required).imap
    (fun (name, description, condition, action) => ⟨name, description, condition, action⟩)
    (fun rule => (rule.name, rule.description, rule.condition, rule.action))

def format (doubles : Format Float) : Format PolicyRule := .record (jsonFields doubles)

theorem keeps (doubles : Format Float) {rule : PolicyRule} (hplain : rule.condition.Plain) :
    (format doubles).Keeps rule := by
  have hnames : ["name", "description", "condition", "action"].Nodup := by decide
  apply Format.record_keeps hnames
  apply OpenFields.imap_keeps rfl
  apply OpenFields.cons_keeps (Serde.required_keeps _ _)
  apply OpenFields.cons_keeps (Serde.required_keeps _ _)
  apply OpenFields.cons_keeps (Format.required_keeps (PolicyCondition.keeps doubles hplain))
  exact OpenFields.last_keeps (Format.required_keeps rule.action.keeps)

/-- `serde_json::to_string` of a list of rules. -/
def rulesToJson (doubles : Format Float) (rules : List PolicyRule) : String :=
  (format doubles).list.toText rules

/-- `serde_json::from_str` to a list of rules. -/
def rulesFromJson (doubles : Format Float) (text : String) : Option (List PolicyRule) :=
  (format doubles).list.ofText text

theorem rulesFromJson_rulesToJson (doubles : Format Float) {rules : List PolicyRule}
    (hplain : ∀ rule ∈ rules, rule.condition.Plain) :
    rulesFromJson doubles (rulesToJson doubles rules) = some rules :=
  Format.ofText_toText (Format.list_keeps fun rule hmem => keeps doubles (hplain rule hmem))

end PolicyRule

/-! ## Verdicts -/

namespace PolicyVerdict

def ruleNameFields : OpenFields String := .last "rule_name" Serde.string.format.required

def requiresHumanApprovalFields :
    OpenFields (String × String × Option String × Option (List ApprovalChainStage)) :=
  .cons "reason" Serde.string.format.required <|
    .cons "rule_name" Serde.string.format.required <|
    .cons "required_approver_role" Serde.string.format.skipped <|
    .last "approval_chain" ApprovalChainStage.format.list.skipped

def rejectedFields : OpenFields (String × String) :=
  .cons "reason" Serde.string.format.required <|
    .last "rule_name" Serde.string.format.required

def simulationFailedFields : OpenFields String :=
  .last "simulation_error" Serde.string.format.required

def write : PolicyVerdict → Json
  | approved ruleName => Variant.object "verdict" "approved" (ruleNameFields.members ruleName)
  | requiresHumanApproval reason ruleName requiredApproverRole approvalChain =>
      Variant.object "verdict" "requires_human_approval"
        (requiresHumanApprovalFields.members
          (reason, ruleName, requiredApproverRole, approvalChain))
  | rejected reason ruleName =>
      Variant.object "verdict" "rejected" (rejectedFields.members (reason, ruleName))
  | simulationRequired => Variant.object "verdict" "simulation_required" []
  | simulationFailed simulationError =>
      Variant.object "verdict" "simulation_failed" (simulationFailedFields.members simulationError)

def variants : List (Variant PolicyVerdict) :=
  [.struct ["approved"] ruleNameFields approved,
    .struct ["requires_human_approval"] requiresHumanApprovalFields
      fun (reason, ruleName, requiredApproverRole, approvalChain) =>
        requiresHumanApproval reason ruleName requiredApproverRole approvalChain,
    .struct ["rejected"] rejectedFields fun (reason, ruleName) => rejected reason ruleName,
    .unit ["simulation_required"] simulationRequired,
    .struct ["simulation_failed"] simulationFailedFields simulationFailed]

def format : Format PolicyVerdict := Variant.format "verdict" false variants write

theorem keeps (verdict : PolicyVerdict) : format.Keeps verdict := by
  cases verdict with
  | approved ruleName =>
      refine Variant.struct_keeps "approved" ruleNameFields approved ruleName rfl rfl rfl
        (by decide) ?_
      exact OpenFields.last_keeps (Serde.required_keeps _ _)
  | requiresHumanApproval reason ruleName requiredApproverRole approvalChain =>
      refine Variant.struct_keeps "requires_human_approval" requiresHumanApprovalFields
        (fun (reason, ruleName, requiredApproverRole, approvalChain) =>
          requiresHumanApproval reason ruleName requiredApproverRole approvalChain)
        (reason, ruleName, requiredApproverRole, approvalChain) rfl rfl rfl (by decide) ?_
      apply OpenFields.cons_keeps (Serde.required_keeps _ _)
      apply OpenFields.cons_keeps (Serde.required_keeps _ _)
      apply OpenFields.cons_keeps (Serde.skipped_keeps _ rfl _)
      apply OpenFields.last_keeps
      exact Format.skipped_keeps rfl fun _ _ => Format.list_keeps fun stage _ => stage.keeps
  | rejected reason ruleName =>
      refine Variant.struct_keeps "rejected" rejectedFields
        (fun (reason, ruleName) => rejected reason ruleName) (reason, ruleName) rfl rfl rfl
        (by decide) ?_
      apply OpenFields.cons_keeps (Serde.required_keeps _ _)
      exact OpenFields.last_keeps (Serde.required_keeps _ _)
  | simulationRequired => exact Variant.unit_keeps "simulation_required" _ rfl rfl
  | simulationFailed simulationError =>
      refine Variant.struct_keeps "simulation_failed" simulationFailedFields simulationFailed
        simulationError rfl rfl rfl (by decide) ?_
      exact OpenFields.last_keeps (Serde.required_keeps _ _)

end PolicyVerdict

end SolFrontier.Types
